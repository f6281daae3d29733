import TreeWatch.Yaml.Cursor
import TreeWatch.Yaml.Token
import TreeWatch.Text.Bytes
import TreeWatch.Text.DecimalDigit
import TreeWatch.Decimal.Read

/-!
# Marks

The pieces that say something about a document or a node rather than being its content:
names of anchors, tags and directives.
-/

namespace TreeWatch.Yaml

def wordName (c : Cursor) : Except Problem (String × Cursor) :=
  let (name, c) := c.takeWhile isWordChar
  if name = [] then .error (c.fault 0) else .ok (String.ofList name, c)

def endsName (next : Option Char) : Bool :=
  endsToken next || next.any "?:,]\x7d%@\x60".toList.contains

def anchorName (c : Cursor) : Except Problem (String × Cursor) := do
  let (name, c) ← wordName c.next
  if endsName c.head then .ok (name, c) else .error (c.fault 0)

/-- The bytes of a row of escapes: a percent sign and two digits each. -/
def escapedBytes : Nat → Cursor → Except Problem (Bytes × Cursor)
  | 0, c => .ok ([], c)
  | fuel + 1, c =>
    if c.head = some '%' then
      match (c.peek 1).bind Text.hexValue?, (c.peek 2).bind Text.hexValue? with
      | some high, some low => do
        let (rest, c) ← escapedBytes fuel (Cursor.skip 3 c)
        .ok (UInt8.ofNat (16 * high + low) :: rest, c)
      | none, _ => .error (c.fault 1)
      | _, none => .error (c.fault 2)
    else .ok ([], c)

def tagChars : Nat → Cursor → Except Problem (List Char × Cursor)
  | 0, c => .ok ([], c)
  | fuel + 1, c => do
    let (run, c) := c.takeWhile fun ch => isTagChar ch && ch ≠ '%'
    if c.head = some '%' then
      let (bytes, c) ← escapedBytes (c.rest.length + 1) c
      match Bytes.text? bytes with
      | none => .error .notDocument
      | some escaped =>
        let (rest, c) ← tagChars fuel c
        .ok (run ++ escaped.toList ++ rest, c)
    else .ok (run, c)

def tagText (c : Cursor) : Except Problem (String × Cursor) := do
  let (chars, after) ← tagChars (c.rest.length + 1) c
  if after.index = c.index then .error (c.fault 0) else .ok (String.ofList chars, after)

/-- A handle: an exclamation mark, alone or with a word and another mark behind it. -/
def tagHandle (c : Cursor) : Except Problem (String × Cursor) :=
  if c.head = some '!' then
    if c.peek 1 = some ' ' then .ok ("!", c.next)
    else
      let (name, c) := c.next.takeWhile isWordChar
      if c.head = some '!' then .ok ("!" ++ String.ofList name ++ "!", c.next)
      else .error (c.fault 0)
  else .error (c.fault 0)

/-- Whether another exclamation mark follows in the word at a place. -/
def hasHandle (c : Cursor) : Bool :=
  (c.next.rest.takeWhile fun ch => !endsWord (some ch)).contains '!'

/-- The tag at a place, apart its handle if it has one. -/
def tagToken (c : Cursor) : Except Problem (Token × Cursor) := do
  let (token, c) ←
    if c.peek 1 = some '<' then do
      let (text, c) ← tagText (Cursor.skip 2 c)
      if c.head = some '>' then pure (Token.tag none text, c.next) else .error (c.fault 0)
    else if endsToken (c.peek 1) then pure (Token.tag none "!", c.next)
    else do
      let (handle, c) ← if hasHandle c then tagHandle c else pure ("!", c.next)
      let (text, c) ← tagText c
      pure (Token.tag (some handle) text, c)
  if endsWord c.head then .ok (token, c) else .error (c.fault 0)

def versionNumber (c : Cursor) : Except Problem (Nat × Cursor) :=
  let (digits, c) := c.takeWhile Char.isDigit
  if digits = [] then .error (c.fault 0)
  else
    match Decimal.wholeOfText? 10 (String.ofList digits) with
    | some n => .ok (n.toNat, c)
    | none => .error (.refused .malformed)

def versionDirective (c : Cursor) : Except Problem (Directive × Cursor) := do
  let (major, c) ← versionNumber c.skipSpaces
  if c.head = some '.' then
    let (_, c) ← versionNumber c.next
    if endsWord c.head then .ok (.version major, c) else .error (c.fault 0)
  else .error (c.fault 0)

def handleDirective (c : Cursor) : Except Problem (Directive × Cursor) := do
  let (handle, c) ← tagHandle c.skipSpaces
  if c.head = some ' ' then
    let (target, c) ← tagText c.skipSpaces
    if endsWord c.head then .ok (.handle handle target, c) else .error (c.fault 0)
  else .error (c.fault 0)

def directiveToken (c : Cursor) : Except Problem (Token × Cursor) := do
  let (name, c) ← wordName c.next
  if endsWord c.head then
    let (directive, c) ←
      if name = "YAML" then versionDirective c
      else if name = "TAG" then handleDirective c
      else pure (.other, c.skipWhile (!isBreak ·))
    let c ← c.endLine
    .ok (.directive directive, c)
  else .error (c.fault 0)

end TreeWatch.Yaml
