import TreeWatch.Text.Printable
import TreeWatch.Text.Bytes

/-!
# Quoted text

A text between quotes, on one line and free of characters that cannot be seen. Single quotes
are used unless the text holds one and no double quote.
-/

namespace TreeWatch.Text

def hexPadded (width n : Nat) : String :=
  let digits := Nat.toDigits 16 n
  String.ofList (List.replicate (width - digits.length) '0' ++ digits)

namespace Quoted

/-- The quote that spares the text an escape where one can be spared. -/
def mark (cs : List Char) : Char :=
  if cs.contains '\'' && !cs.contains '"' then '"' else '\''

/-- The numeric escape of a character, of the least of the three widths that holds it. -/
def numericEscape (c : Char) : String :=
  let n := c.toNat
  if n < 0x100 then "\\x" ++ hexPadded 2 n
  else if n < 0x10000 then "\\u" ++ hexPadded 4 n
  else "\\U" ++ hexPadded 8 n

def escape (quote c : Char) : String :=
  if c = quote || c = '\\' then String.ofList ['\\', c]
  else if c = '\n' then "\\n"
  else if c = '\r' then "\\r"
  else if c = '\t' then "\\t"
  else if isPrintable c then c.toString
  else numericEscape c

/-- The written form of one byte between quotes: bytes beyond ASCII have no character. -/
def escapeByte (quote : Char) (b : UInt8) : String :=
  if b < 128 then escape quote (Char.ofNat b.toNat) else "\\x" ++ hexPadded 2 b.toNat

end Quoted

def quoted (s : String) : String :=
  let q := Quoted.mark s.toList
  q.toString ++ String.join (s.toList.map (Quoted.escape q)) ++ q.toString

/-- Half of a surrogate pair, which is no character by itself. -/
def isHalf (code : Nat) : Bool :=
  0xd800 ≤ code && code ≤ 0xdfff

def quotedCodes (codes : List Nat) : String :=
  let q := Quoted.mark (codes.map Char.ofNat)
  let escape (code : Nat) : String :=
    if isHalf code then "\\u" ++ hexPadded 4 code else Quoted.escape q (Char.ofNat code)
  q.toString ++ String.join (codes.map escape) ++ q.toString

def quotedBytes (b : Bytes) : String :=
  let q := Quoted.mark (b.map fun x => Char.ofNat x.toNat)
  "b" ++ q.toString ++ String.join (b.map (Quoted.escapeByte q)) ++ q.toString

end TreeWatch.Text
