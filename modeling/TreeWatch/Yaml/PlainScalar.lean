import TreeWatch.Yaml.Cursor

/-!
# Plain scalars

Text without quotes. It ends before a colon or a number sign that stands apart, at an
indicator within brackets, and at a line that is not indented deeply enough.
-/

namespace TreeWatch.Yaml

def isFlowIndicator (c : Char) : Bool :=
  c = ',' || c = '[' || c = ']' || c = '{' || c = '}'

/-- A character that a plain scalar does not begin with, save for the few that may when they
stand close to the next. -/
def isIndicator (c : Char) : Bool :=
  isFlowIndicator c || "-?:#&*!|>%@\x60'\x22".toList.contains c

def startsPlain (inFlow : Bool) (c : Cursor) : Bool :=
  match c.head with
  | none => false
  | some ch =>
    (!isBlank ch && !isBreak ch && !isIndicator ch) ||
      (!endsToken (c.peek 1) && (ch = '-' || (!inFlow && (ch = '?' || ch = ':'))))

def endsPlain (inFlow : Bool) (ch : Char) (rest : List Char) : Bool :=
  isBlank ch || isBreak ch ||
    (ch = ':' && (endsToken rest.head? || (inFlow && rest.head?.any isFlowIndicator))) ||
    (inFlow && (ch = '?' || isFlowIndicator ch))

def plainWord (inFlow : Bool) : List Char → List Char
  | [] => []
  | ch :: rest => if endsPlain inFlow ch rest then [] else ch :: plainWord inFlow rest

/-- The breaks of the empty lines after a break, and the place of the next character; none if a
mark between documents comes. -/
def plainBreaks : Nat → Cursor → Option (List Char) × Cursor
  | 0, c => (some [], c)
  | fuel + 1, c =>
    let c := c.skipSpaces
    match c.lineBreak? with
    | none => (some [], c)
    | some (b, c) =>
      if c.beginsDocumentMark then (none, c)
      else
        let (more, c) := plainBreaks fuel c
        (more.map (b :: ·), c)

/-- What stands between two words of a plain scalar: the text of it, the place after it and
whether it holds a line break. -/
structure PlainGap where
  text : List Char
  cursor : Cursor
  hasBreak : Bool

/-- The gap after a word. Nothing is left of it where the scalar has to end. -/
def plainGap (c : Cursor) : PlainGap :=
  let (spaces, after) := c.takeWhile (· = ' ')
  match after.lineBreak? with
  | none => ⟨spaces, after, false⟩
  | some (b, c) =>
    if c.beginsDocumentMark then ⟨[], c, true⟩
    else
      match plainBreaks (c.rest.length + 1) c with
      | (none, c) => ⟨[], c, true⟩
      | (some more, c) =>
        ⟨(if b ≠ '\n' then [b] else if more = [] then [' '] else []) ++ more, c, true⟩

/-- The words of a plain scalar from a place on, with the gap `before` the first, the place
after them and whether the last gap, which is not part of the scalar, holds a line break. -/
def plainRest (inFlow : Bool) (indent : Int) :
    Nat → List Char → Cursor → Bool → List Char × Cursor × Bool
  | 0, _, c, lastBreak => ([], c, lastBreak)
  | fuel + 1, before, c, lastBreak =>
    let word := if c.head = some '#' then [] else plainWord inFlow c.rest
    if word = [] then ([], c, lastBreak)
    else
      let gap := plainGap (Cursor.skip word.length c)
      if gap.text = [] || gap.cursor.head = some '#' ||
          (!inFlow && decide ((gap.cursor.column : Int) < indent)) then
        (before ++ word, gap.cursor, gap.hasBreak)
      else
        let (rest, c, lastBreak) := plainRest inFlow indent fuel gap.text gap.cursor gap.hasBreak
        (before ++ word ++ rest, c, lastBreak)

/-- The plain scalar at a place, the place after the gap behind it and whether that gap holds a
line break. -/
def plainScalar (inFlow : Bool) (parent : Int) (c : Cursor) : String × Cursor × Bool :=
  let (chars, c, lastBreak) := plainRest inFlow (parent + 1) (c.rest.length + 1) [] c false
  (String.ofList chars, c, lastBreak)

end TreeWatch.Yaml
