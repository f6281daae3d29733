import TreeWatch.Yaml.Cursor
import TreeWatch.Text.Bytes

/-!
# What can be read of a file

A file is taken in runs of bytes and its text is looked through in portions of characters. A byte
that fits no text spoils its run, and a character that no document may hold spoils its portion; what
comes before can be read all the same, so a problem there is met first.
-/

namespace TreeWatch.Yaml

/-- What the next byte of a UTF-8 text has to be: one of a range if a character has begun, and how
many bytes of that are missing. -/
structure ByteState where
  missing : Nat := 0
  low : UInt8 := 0x80
  high : UInt8 := 0xbf

namespace ByteState

/-- The state behind the first byte of a character. Forms that are longer than they need to be,
surrogates and codes that are too great are kept out by the range of the second byte. -/
def ofLead? (b : UInt8) : Option ByteState :=
  if b < 0x80 then some {}
  else if 0xc2 ≤ b && b ≤ 0xdf then some { missing := 1 }
  else if b = 0xe0 then some { missing := 2, low := 0xa0 }
  else if b = 0xed then some { missing := 2, high := 0x9f }
  else if 0xe1 ≤ b && b ≤ 0xef then some { missing := 2 }
  else if b = 0xf0 then some { missing := 3, low := 0x90 }
  else if 0xf1 ≤ b && b ≤ 0xf3 then some { missing := 3 }
  else if b = 0xf4 then some { missing := 3, high := 0x8f }
  else none

def next? (s : ByteState) (b : UInt8) : Option ByteState :=
  match s.missing with
  | 0 => ofLead? b
  | missing + 1 => if s.low ≤ b && b ≤ s.high then some { missing } else none

/-- The count of bytes before the first that does not fit; none if the text is complete. A
character that is cut short is found out at the end. -/
def faultAt? (s : ByteState) : Bytes → Option Nat
  | [] => if s.missing = 0 then none else some 0
  | b :: rest =>
    match s.next? b with
    | none => some 0
    | some s => (faultAt? s rest).map (· + 1)

end ByteState

def runLength : Nat :=
  8192

def portionLength : Nat :=
  4096

/-- The count of the characters in portions that are complete, when so many characters can be had.
The first two portions are taken together. -/
def inPortions (count : Nat) : Nat :=
  if count < 2 * portionLength then 0 else count - count % portionLength

def unifyLineEnds : List Char → List Char
  | '\r' :: '\n' :: rest => '\n' :: unifyLineEnds rest
  | '\r' :: rest => '\n' :: unifyLineEnds rest
  | c :: rest => c :: unifyLineEnds rest
  | [] => []

/-- The characters of a file that can be looked at, with the problem behind them. -/
structure Readable where
  text : List Char
  beyond : Option Problem := none

namespace Readable

/-- The text of bytes, less a character that is cut short at their end. -/
def longestText (b : Bytes) : String :=
  ((List.range 4).findSome? fun k => Bytes.text? (b.take (b.length - k))).getD ""

def ofBytes (b : Bytes) : Readable :=
  match Bytes.text? b with
  | some text => { text := unifyLineEnds text.toList }
  | none =>
    let fault := (ByteState.faultAt? {} b).getD b.length
    let sound := if fault < b.length then b.take (fault - fault % runLength) else b
    let text := unifyLineEnds (longestText sound).toList
    { text := text.take (inPortions text.length), beyond := some (.refused .undecodable) }

/-- What can be read of a text: the portions before one with a character that is not allowed. -/
def allowed (r : Readable) : Readable :=
  let sound := r.text.takeWhile isAllowed
  if sound.length = r.text.length then r
  else { text := r.text.take (inPortions sound.length), beyond := some .notDocument }

end Readable

end TreeWatch.Yaml
