import TreeWatch.Text.Blank
import TreeWatch.Text.DecimalDigit
import TreeWatch.Text.Bytes
import TreeWatch.Decimal.Binary

/-!
# Reading numbers

The number that a text stands for: white space at its ends is passed over, an underscore may
stand between two digits, and the digits of every script count.
-/

namespace TreeWatch.Decimal

/-- A text with the blanks and digits of every script replaced by those of ASCII; none if
another character beyond ASCII is in it. A text in ASCII stays as it is. -/
def toAscii? (cs : List Char) : Option (List Char) :=
  if cs.all (·.toNat < 128) then some cs
  else cs.mapM fun c =>
    if c.toNat < 127 then some c
    else if Text.isBlank c then some ' '
    else (Text.digitValue? c).map Nat.digitChar

/-- The text without its underscores, each of which has to stand between two digits. -/
def dropUnderscores? (afterDigit : Bool) : List Char → Option (List Char)
  | [] => some []
  | '_' :: c :: rest =>
    if afterDigit && c.isDigit then (dropUnderscores? true rest).map (c :: ·) else none
  | c :: rest => if c = '_' then none else (dropUnderscores? c.isDigit rest).map (c :: ·)

def digitsValue (cs : List Char) : Nat :=
  cs.foldl (fun n c => 10 * n + (c.toNat - 48)) 0

def splitSign : List Char → Bool × List Char
  | '-' :: rest => (true, rest)
  | '+' :: rest => (false, rest)
  | cs => (false, cs)

/-- A number as it is written: digits and a power of ten, or one of the two words. -/
inductive Literal where
  | nan
  | infinite (negative : Bool)
  | finite (negative : Bool) (digits : Nat) (exponent : Int)
  deriving DecidableEq

namespace Literal

/-- The exponent that ends a number, nothing standing for zero. -/
def exponent? : List Char → Option Int
  | [] => some 0
  | e :: rest =>
    if e = 'e' || e = 'E' then
      let (negative, digits) := splitSign rest
      if digits ≠ [] && digits.all Char.isDigit then
        some (if negative then -(digitsValue digits : Int) else digitsValue digits)
      else none
    else none

def magnitude? (cs : List Char) : Option (Nat × Int) :=
  let whole := cs.takeWhile Char.isDigit
  let rest := cs.dropWhile Char.isDigit
  let (part, rest) := match rest with
    | '.' :: tail => (tail.takeWhile Char.isDigit, tail.dropWhile Char.isDigit)
    | _ => ([], rest)
  if whole = [] && part = [] then none
  else (exponent? rest).map fun e => (digitsValue (whole ++ part), e - part.length)

def ofChars? (cs : List Char) : Option Literal :=
  let (negative, body) := splitSign cs
  let word := String.ofList (body.map Char.toLower)
  if word = "inf" || word = "infinity" then some (.infinite negative)
  else if word = "nan" then some .nan
  else (magnitude? body).map fun (d, e) => .finite negative d e

/-- The double nearest to a number. Powers of ten far outside the range are not formed. -/
def toFloat : Literal → Float
  | .nan => 0.0 / 0.0
  | .infinite negative => if negative then -1.0 / 0.0 else 1.0 / 0.0
  | .finite negative digits e =>
    let lead := (digitCount digits : Int) + e
    let magnitude : Float :=
      if digits = 0 || lead < -400 then 0.0
      else if 400 < lead then 1.0 / 0.0
      else if e < 0 then Float.ofScientific digits true e.natAbs
      else Float.ofScientific digits false e.natAbs
    if negative then -magnitude else magnitude

end Literal

def ofAscii? (cs : List Char) : Option Float :=
  (dropUnderscores? false (Text.trimBy Text.isNumberBlank cs)).bind fun body =>
    (Literal.ofChars? body).map Literal.toFloat

def ofText? (s : String) : Option Float :=
  (toAscii? s.toList).bind ofAscii?

/-- The number that bytes stand for when they are read as ASCII. -/
def ofBytes? (b : Bytes) : Option Float :=
  if b.all (· < 128) then ofAscii? (b.map fun x => Char.ofNat x.toNat) else none

/-- The double nearest to a whole number, unless that lies half a unit or more beyond the
greatest double. -/
def ofInt? (i : Int) : Option Float :=
  if i.natAbs < Nat.pow 2 1024 - Nat.pow 2 970 then
    let magnitude := Float.ofScientific i.natAbs false 0
    some (if i < 0 then -magnitude else magnitude)
  else none

def baseMark? : Nat → Option Char
  | 2 => some 'b'
  | 8 => some 'o'
  | 16 => some 'x'
  | _ => none

def dropBaseMark (base : Nat) : List Char → List Char
  | '0' :: m :: rest => if baseMark? base = some m.toLower then rest else '0' :: m :: rest
  | cs => cs

def valueIn? (base : Nat) (cs : List Char) : Option Nat :=
  if cs = [] then none
  else cs.foldlM (fun n c => do
    let d ← Text.hexValue? c
    if d < base then some (base * n + d) else none) 0

/-- The whole number that a text stands for in a base. Decimal texts hold up to 4300 digits. -/
def wholeOfText? (base : Nat) (s : String) : Option Int := do
  let cs ← toAscii? s.toList
  let (negative, body) := splitSign (Text.trimBy Text.isNumberBlank cs)
  let digits := dropBaseMark base body
  let n ← valueIn? base digits
  if base = 10 && 4300 < digits.length then none
  else some (if negative then -(n : Int) else n)

end TreeWatch.Decimal
