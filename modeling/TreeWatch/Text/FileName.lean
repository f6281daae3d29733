import TreeWatch.Text.Quoted

/-!
# File names

The name of a file is bytes, and mostly they are the UTF-8 form of a text. A byte beyond ASCII that
belongs to no such form is a private character here; among code points it is half a surrogate pair.
-/

namespace TreeWatch.Text

/-- The private characters that stand for bytes are counted from here. -/
def privateBase : Nat := 0x10ff00

def nameOfBytes (b : Bytes) : String :=
  b.text?.getD <| String.ofList <| b.map fun x =>
    if x < 128 then Char.ofNat x.toNat else Char.ofNat (privateBase + x.toNat)

def bytesOfName (name : String) : Bytes :=
  name.toList.flatMap fun c =>
    if privateBase + 128 ≤ c.toNat then [UInt8.ofNat (c.toNat - privateBase)]
    else Bytes.ofText c.toString

/-- The bytes of a code point in a file name. No bytes are those of a half that stands for no byte
beyond ASCII. -/
def bytesOfCode? (code : Nat) : Option Bytes :=
  if !isHalf code then some (Bytes.ofText (Char.ofNat code).toString)
  else if 0xdc80 ≤ code ∧ code ≤ 0xdcff then some [UInt8.ofNat (code - 0xdc00)]
  else none

/-- The file name that code points are, if they can be written as one. -/
def nameOfCodes? (codes : List Nat) : Option String :=
  (codes.mapM bytesOfCode?).map fun bytes => nameOfBytes bytes.flatten

def codesOfName (name : String) : List Nat :=
  name.toList.map fun c =>
    if privateBase + 128 ≤ c.toNat then c.toNat - privateBase + 0xdc00 else c.toNat

example : nameOfCodes? [0x61, 0xdcc3, 0xdca9] = some "aé" := by decide +kernel

example : nameOfCodes? [0xd800] = none := by decide

end TreeWatch.Text
