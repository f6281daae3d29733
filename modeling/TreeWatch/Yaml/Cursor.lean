import TreeWatch.Failure

/-!
# A place in a text

The rest of a text with the index, the line and the column at which it begins, and the
classes of characters that end something in a settings document.
-/

namespace TreeWatch.Yaml

/-- Why a text gives no value: it is no document, or one of its scalars is refused. -/
inductive Problem where
  | notDocument
  | refused (cause : Failure)
  deriving DecidableEq

def isBreak (c : Char) : Bool :=
  c = '\n' || c = '\r' || c = '\x85' || c = '\u2028' || c = '\u2029'

def isBlank (c : Char) : Bool :=
  c = ' ' || c = '\t'

def endsLine : Option Char → Bool
  | none => true
  | some c => isBreak c

/-- The end of the text or of a line, or a space. -/
def endsWord : Option Char → Bool
  | none => true
  | some c => c = ' ' || isBreak c

/-- The end of the text or of a line, a space or a tab. -/
def endsToken : Option Char → Bool
  | none => true
  | some c => isBlank c || isBreak c

def isAllowed (c : Char) : Bool :=
  let n := c.toNat
  c = '\t' || c = '\n' || c = '\r' || (0x20 ≤ n && n ≤ 0x7e) || n = 0x85 ||
    (0xa0 ≤ n && n ≤ 0xd7ff) || (0xe000 ≤ n && n ≤ 0xfffd) || 0x10000 ≤ n

/-- A character of the names of anchors, handles and directives. -/
def isWordChar (c : Char) : Bool :=
  c.isAlphanum || c = '-' || c = '_'

def isTagChar (c : Char) : Bool :=
  c.isAlphanum || "-;/?:@&=+$,_.!~*'()[]%".toList.contains c

/-- A place in a text. Where only the start of a text can be read, the problem with the rest of it
waits `beyond` its end. -/
structure Cursor where
  rest : List Char
  beyond : Option Problem := none
  index : Nat := 0
  line : Nat := 0
  column : Nat := 0

namespace Cursor

def peek (c : Cursor) (ahead : Nat) : Option Char :=
  c.rest[ahead]?

def head (c : Cursor) : Option Char :=
  c.rest.head?

def fault (c : Cursor) (ahead : Nat) : Problem :=
  if c.rest.length ≤ ahead then c.beyond.getD .notDocument else .notDocument

/-- The problem that is met at the place, if the text cannot be read any further. -/
def barrier? (c : Cursor) : Option Problem :=
  if c.rest.isEmpty then c.beyond else none

/-- The place one character on. A byte order mark takes no column. -/
def next (c : Cursor) : Cursor :=
  match c.rest with
  | [] => c
  | ch :: rest =>
    if isBreak ch && !(ch = '\r' && rest.head? = some '\n') then
      { c with rest, index := c.index + 1, line := c.line + 1, column := 0 }
    else
      let column := if ch = '\ufeff' then c.column else c.column + 1
      { c with rest, index := c.index + 1, column }

def skip : Nat → Cursor → Cursor
  | 0, c => c
  | n + 1, c => skip n c.next

def takeWhile (p : Char → Bool) (c : Cursor) : List Char × Cursor :=
  let run := c.rest.takeWhile p
  (run, skip run.length c)

def skipWhile (p : Char → Bool) (c : Cursor) : Cursor :=
  (c.takeWhile p).2

def skipSpaces (c : Cursor) : Cursor :=
  c.skipWhile (· = ' ')

def skipComment (c : Cursor) : Cursor :=
  if c.head = some '#' then c.skipWhile (!isBreak ·) else c

/-- The line break at the place, as the text that it stands for, and the place after it. Most
breaks stand for a line feed. -/
def lineBreak? (c : Cursor) : Option (Char × Cursor) :=
  match c.rest with
  | '\r' :: '\n' :: _ => some ('\n', skip 2 c)
  | ch :: _ =>
    if isBreak ch then some (if ch = '\u2028' || ch = '\u2029' then ch else '\n', c.next) else none
  | [] => none

/-- Whether the place begins with three characters of a kind that stand for themselves. -/
def beginsMark (mark : Char) (c : Cursor) : Bool :=
  c.peek 0 = some mark && c.peek 1 = some mark && c.peek 2 = some mark && endsToken (c.peek 3)

def beginsDocumentMark (c : Cursor) : Bool :=
  c.beginsMark '-' || c.beginsMark '.'

/-- The place after the rest of a line that holds nothing but spaces and a comment. -/
def endLine (c : Cursor) : Except Problem Cursor :=
  let c := c.skipSpaces.skipComment
  if endsLine c.head then
    match c.lineBreak? with
    | some (_, c) => .ok c
    | none => .ok c
  else .error (c.fault 0)

end Cursor

end TreeWatch.Yaml
