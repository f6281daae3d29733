/-!
# Bytes

The bytes of a file, and the UTF-8 text that they stand for.
-/

namespace TreeWatch

abbrev Bytes := List UInt8

namespace Bytes

def ofText (s : String) : Bytes :=
  s.toUTF8.toList

/-- The text that the bytes are the UTF-8 form of, if there is one: no overlong form, no
surrogate, nothing cut short. -/
def text? (b : Bytes) : Option String :=
  String.fromUTF8? ⟨b.toArray⟩

def ofHexDigits? : List Nat → Option Bytes
  | [] => some []
  | [_] => none
  | hi :: lo :: rest => (ofHexDigits? rest).map (UInt8.ofNat (16 * hi + lo) :: ·)

end Bytes

end TreeWatch
