import TreeWatch.Text.Blank
import TreeWatch.Text.Emoji

/-!
# Marked text

Text with styles in square brackets and pictures by name between colons. A backslash before a
bracket makes it an ordinary one; a backslash elsewhere stands for itself. What is shown is the text
alone.
-/

namespace TreeWatch.Text.Markup

/-- A piece of a marked text: ordinary text, or a bracketed part that begins like a style, with the
count of the backslashes before it. -/
inductive Piece where
  | plain (text : List Char)
  | bracketed (backslashes : Nat) (text : List Char)
  deriving DecidableEq

def opensStyle (c : Char) : Bool :=
  ('a' ≤ c && c ≤ 'z') || c = '#' || c = '/' || c = '@'

def bracketed? : List Char → Option (List Char × List Char)
  | '[' :: c :: rest =>
    if opensStyle c then
      let body := rest.takeWhile fun ch => ch ≠ '[' && ch ≠ ']'
      match rest.drop body.length with
      | ']' :: rest => some ('[' :: c :: body ++ [']'], rest)
      | _ => none
    else none
  | _ => none

/-- The pieces of a text, with the ordinary text `before` it, the newest character first. -/
def pieces : Nat → List Char → List Char → List Piece
  | 0, before, _ => [.plain before.reverse]
  | fuel + 1, before, cs =>
    let slashes := cs.takeWhile (· = '\\')
    match bracketed? (cs.drop slashes.length), cs.drop slashes.length with
    | some (text, rest), _ =>
      .plain before.reverse :: .bracketed slashes.length text :: pieces fuel [] rest
    | none, c :: rest => pieces fuel (c :: (slashes ++ before)) rest
    | none, [] => [.plain (slashes ++ before).reverse]

def backslashes (count : Nat) : List Char :=
  List.replicate count '\\'

def Piece.escaped : Piece → List Char
  | plain text => text
  | bracketed count text => backslashes (2 * count + 1) ++ text

/-- The marked text that shows a text, except that a lone backslash at its end is doubled. -/
def escape (s : String) : String :=
  let cs := (pieces (s.length + 1) [] s.toList).flatMap Piece.escaped
  match cs.reverse with
  | ['\\'] => String.ofList (cs ++ ['\\'])
  | '\\' :: c :: _ => String.ofList (if c = '\\' then cs else cs ++ ['\\'])
  | _ => String.ofList cs

/-- The ordinary texts in a piece. Each pair of backslashes before a bracketed part shows one, and
one that is left over makes the part ordinary; otherwise the part is a style and shows nothing. -/
def Piece.shown : Piece → List (List Char)
  | plain text => [text]
  | bracketed count text =>
    backslashes (count / 2) :: if count % 2 = 1 then [text] else []

def unescaped : List Char → List Char
  | '\\' :: '[' :: rest => '[' :: unescaped rest
  | c :: rest => c :: unescaped rest
  | [] => []

/-- What follows the name of a picture: nothing, or a wish for how it is drawn. -/
def variants : List (String × Char) :=
  [("-emoji", '\ufe0f'), ("-text", '\ufe0e')]

def picture? (between : String) : Option String :=
  match variants.find? fun v => between.endsWith v.1 with
  | some (suffix, mark) =>
    (Emoji.ofName? (String.ofList (between.toList.take (between.length - suffix.length)))).map
      (·.push mark)
  | none => Emoji.ofName? between

def withPictures : Nat → List Char → List Char
  | 0, cs => cs
  | _, [] => []
  | fuel + 1, c :: rest =>
    let between := rest.takeWhile fun ch => ch ≠ ':' && !isBlank ch
    match c, rest.drop between.length with
    | ':', ':' :: behind =>
      match picture? (String.ofList between) with
      | some picture => picture.toList ++ withPictures fuel behind
      | none => ':' :: between ++ ':' :: withPictures fuel behind
    | c, _ => c :: withPictures fuel rest

def shown (s : String) : String :=
  let texts := (pieces (s.length + 1) [] s.toList).flatMap Piece.shown
  String.ofList (texts.flatMap fun text => withPictures (text.length + 1) (unescaped text))

end TreeWatch.Text.Markup
