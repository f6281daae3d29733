import TreeWatch.Yaml.Cursor

/-!
# Block scalars

Text given by its indentation. A literal block keeps its line breaks, a folded one joins the
lines of a paragraph; the header says what becomes of the breaks at the end.
-/

namespace TreeWatch.Yaml

inductive Chomping where
  | strip
  | clip
  | keep
  deriving DecidableEq

def chomping? : Option Char → Option Chomping
  | some '+' => some .keep
  | some '-' => some .strip
  | _ => none

/-- The extra indentation that a digit asks for. Zero is refused. -/
def increment? (c : Cursor) : Except Problem (Option Nat × Cursor) :=
  match c.head with
  | some d =>
    if d.isDigit then
      if d = '0' then .error .notDocument else .ok (some (d.toNat - 48), c.next)
    else .ok (none, c)
  | none => .ok (none, c)

/-- The header of a block: sign and digit in either order. -/
def blockHeader (c : Cursor) : Except Problem (Chomping × Option Nat × Cursor) := do
  let (chomping, increment, c) ←
    match chomping? c.head with
    | some chomping => do
      let (increment, c) ← increment? c.next
      pure (chomping, increment, c)
    | none => do
      let (increment, c) ← increment? c
      match increment, chomping? c.head with
      | some n, some chomping => pure (chomping, some n, c.next)
      | increment, _ => pure (.clip, increment, c)
  if endsWord c.head then .ok (chomping, increment, c) else .error (c.fault 0)

/-- The empty lines at the start of a block, with the greatest indentation among them and the
line after them. -/
def leadingBreaks : Nat → Cursor → List Char × Nat × Cursor
  | 0, c => ([], 0, c)
  | fuel + 1, c =>
    if c.head = some ' ' then
      let c := c.next
      let (breaks, deepest, rest) := leadingBreaks fuel c
      (breaks, max c.column deepest, rest)
    else
      match c.lineBreak? with
      | none => ([], 0, c)
      | some (b, c) =>
        let (breaks, deepest, rest) := leadingBreaks fuel c
        (b :: breaks, deepest, rest)

/-- The place after the spaces of an indentation that is not deeper than given. -/
def skipIndent (indent : Nat) : Nat → Cursor → Cursor
  | 0, c => c
  | fuel + 1, c =>
    if c.column < indent ∧ c.head = some ' ' then skipIndent indent fuel c.next else c

def blockBreaks (indent : Nat) : Nat → Cursor → List Char × Cursor
  | 0, c => ([], c)
  | fuel + 1, c =>
    let c := skipIndent indent indent c
    match c.lineBreak? with
    | none => ([], c)
    | some (b, c) =>
      let (more, c) := blockBreaks indent fuel c
      (b :: more, c)

/-- Whether a line that goes on a folded paragraph may begin here. -/
def startsText (c : Cursor) : Bool :=
  match c.head with
  | some ch => !isBlank ch
  | none => true

/-- The lines of a block, with the breaks `before` the first of them. The breaks after the last
line are apart: its own, and those of the empty lines that follow. -/
def blockLines (fold : Bool) (indent : Nat) :
    Nat → List Char → Cursor → List Char × List Char × List Char × Cursor
  | 0, before, c => ([], [], before, c)
  | fuel + 1, before, c =>
    let textual := startsText c
    let (line, c) := c.takeWhile (!isBreak ·)
    let (ending, c) := match c.lineBreak? with
      | some (b, c) => ([b], c)
      | none => ([], c)
    let (breaks, c) := blockBreaks indent (c.rest.length + 1) c
    if c.column = indent ∧ c.head.isSome then
      let joint :=
        if fold && ending = ['\n'] && textual && startsText c then
          if breaks = [] then [' '] else []
        else ending
      let (rest, last, trailing, c) := blockLines fold indent fuel breaks c
      (before ++ line ++ joint ++ rest, last, trailing, c)
    else (before ++ line, ending, breaks, c)

def blockScalar (fold : Bool) (parent : Int) (c : Cursor) : Except Problem (String × Cursor) := do
  let (chomping, increment, c) ← blockHeader c.next
  let c ← c.endLine
  let least := (max (parent + 1) 1).toNat
  let (breaks, indent, c) := match increment with
    | some n =>
      let indent := least + n - 1
      let (breaks, c) := blockBreaks indent (c.rest.length + 1) c
      (breaks, indent, c)
    | none =>
      let (breaks, deepest, c) := leadingBreaks (c.rest.length + 1) c
      (breaks, max least deepest, c)
  let (text, ending, trailing, c) :=
    if c.column = indent ∧ c.head.isSome then blockLines fold indent (c.rest.length + 1) breaks c
    else ([], [], breaks, c)
  let tail := match chomping with
    | .strip => []
    | .clip => ending
    | .keep => ending ++ trailing
  .ok (String.ofList (text ++ tail), c)

end TreeWatch.Yaml
