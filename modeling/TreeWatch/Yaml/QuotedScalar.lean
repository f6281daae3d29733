import TreeWatch.Yaml.Cursor
import TreeWatch.Yaml.Token
import TreeWatch.Text.DecimalDigit

/-!
# Quoted scalars

Text between quotes. A line break in it counts as a space, and further breaks count as
themselves; between double quotes a backslash introduces an escape. The text is collected by its
code points, because an escape can stand for half of a surrogate pair.
-/

namespace TreeWatch.Yaml

def escapeValue? : Char → Option Char
  | '0' => some '\x00'
  | 'a' => some '\x07'
  | 'b' => some '\x08'
  | 't' => some '\t'
  | '\t' => some '\t'
  | 'n' => some '\n'
  | 'v' => some '\x0b'
  | 'f' => some '\x0c'
  | 'r' => some '\r'
  | 'e' => some '\x1b'
  | ' ' => some ' '
  | '"' => some '"'
  | '\\' => some '\\'
  | '/' => some '/'
  | 'N' => some '\x85'
  | '_' => some '\xa0'
  | 'L' => some '\u2028'
  | 'P' => some '\u2029'
  | _ => none

def escapeWidth? : Char → Option Nat
  | 'x' => some 2
  | 'u' => some 4
  | 'U' => some 8
  | _ => none

/-- The code point of a number. Those beyond the last one are refused. -/
def checkedCode (code : Nat) : Except Problem Nat :=
  if Nat.pow 2 31 ≤ code then .error (.refused .tooLarge)
  else if 0x110000 ≤ code then .error (.refused .malformed)
  else .ok code

def codesOf (cs : List Char) : List Nat :=
  cs.map Char.toNat

def hexDigits (c : Cursor) : Nat → Nat → Except Problem Nat
  | 0, n => .ok n
  | count + 1, n =>
    match c.head.bind Text.hexValue? with
    | none => .error (c.fault 0)
    | some d => hexDigits c.next count (16 * n + d)

/-- The breaks of the empty lines at a place, and the place of the first character of the line
after them. A mark between documents may not stand there. -/
def quotedBreaks : Nat → Cursor → Except Problem (List Char × Cursor)
  | 0, _ => .error .notDocument
  | fuel + 1, c =>
    if c.beginsDocumentMark then .error (c.fault 3)
    else
      let c := c.skipWhile isBlank
      match c.lineBreak? with
      | none => .ok ([], c)
      | some (b, c) => do
        let (more, c) ← quotedBreaks fuel c
        .ok (b :: more, c)

def folded (first : Char) (more : List Char) : List Char :=
  (if first ≠ '\n' then [first] else if more = [] then [' '] else []) ++ more

def quotedSpaces (c : Cursor) : Except Problem (List Char × Cursor) :=
  let (blanks, after) := c.takeWhile isBlank
  match after.head with
  | none => .error (after.fault 0)
  | some _ =>
    match after.lineBreak? with
    | none => .ok (blanks, after)
    | some (b, c) => do
      let (more, c) ← quotedBreaks (c.rest.length + 1) c
      .ok (folded b more, c)

def isOrdinaryQuoted (c : Char) : Bool :=
  !(c = '\'' || c = '"' || c = '\\' || isBlank c || isBreak c)

def quotedEscape (c : Cursor) : Except Problem (List Nat × Cursor) :=
  match c.head with
  | none => .error (c.fault 0)
  | some e =>
    match escapeValue? e, escapeWidth? e with
    | some ch, _ => .ok ([ch.toNat], c.next)
    | none, some width => do
      let code ← checkedCode (← hexDigits c.next width 0)
      .ok ([code], Cursor.skip width c.next)
    | none, none =>
      match c.lineBreak? with
      | none => .error .notDocument
      | some (_, c) => do
        let (breaks, c) ← quotedBreaks (c.rest.length + 1) c
        .ok (codesOf breaks, c)

def quotedWord (double : Bool) : Nat → Cursor → Except Problem (List Nat × Cursor)
  | 0, _ => .error .notDocument
  | fuel + 1, c => do
    let (run, c) := c.takeWhile isOrdinaryQuoted
    let run := codesOf run
    let more (codes : List Nat) (c : Cursor) : Except Problem (List Nat × Cursor) := do
      let (rest, c) ← quotedWord double fuel c
      .ok (run ++ codes ++ rest, c)
    match c.head with
    | some '\'' =>
      if double then more (codesOf ['\'']) c.next
      else if c.peek 1 = some '\'' then more (codesOf ['\'']) (Cursor.skip 2 c)
      else .ok (run, c)
    | some '"' => if double then .ok (run, c) else more (codesOf ['"']) c.next
    | some '\\' =>
      if double then
        let (codes, c) ← quotedEscape c.next
        more codes c
      else more (codesOf ['\\']) c.next
    | _ => .ok (run, c)

def quotedRest (double : Bool) : Nat → Cursor → Except Problem (List Nat × Cursor)
  | 0, _ => .error .notDocument
  | fuel + 1, c => do
    let (word, c) ← quotedWord double (c.rest.length + 1) c
    if c.head = some (if double then '"' else '\'') then .ok (word, c.next)
    else
      let (spaces, c) ← quotedSpaces c
      let (rest, c) ← quotedRest double fuel c
      .ok (word ++ codesOf spaces ++ rest, c)

def quotedScalar (double : Bool) (c : Cursor) : Except Problem (ScalarText × Cursor) := do
  let (codes, c) ← quotedRest double (c.rest.length + 1) c.next
  .ok (.ofCodes codes, c)

end TreeWatch.Yaml
