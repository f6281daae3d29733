import TreeWatch.Decimal.Shortest

/-!
# Decimals of a given precision

A double with one decimal place, and with up to six significant digits. Both round the exact
value, a tie to the even digit.
-/

namespace TreeWatch.Decimal

/-- The text of the parts of a double that no precision changes, or what is made of a
magnitude. -/
def withSign (x : Float) (magnitude : Nat → Int → String) : String :=
  match Binary.ofFloat x with
  | .nan => "nan"
  | .infinite negative => if negative then "-inf" else "inf"
  | .finite negative m q => (if negative then "-" else "") ++ magnitude m q

def onePlace (x : Float) : String :=
  withSign x fun m q =>
    let (num, den) := Binary.fraction m q
    let tenths := roundDiv (10 * num) den
    toString (tenths / 10) ++ "." ++ toString (tenths % 10)

/-- The six leading digits of a positive quotient and the exponent of the first of them. -/
def sixDigits (num den : Nat) : Nat × Int :=
  let lead := leadingExponent num den
  let (n, d) := scaled num den (lead - 5)
  let r := roundDiv n d
  if r = Nat.pow 10 6 then (Nat.pow 10 5, lead + 1) else (r, lead)

/-- The double with up to six significant digits and no zeros at the end of its fraction. -/
def general (x : Float) : String :=
  withSign x fun m q =>
    if m = 0 then "0"
    else
      let (num, den) := Binary.fraction m q
      let (d, lead) := sixDigits num den
      let digits := stripZeros (Nat.toDigits 10 d)
      if -4 ≤ lead ∧ lead < 6 then
        let (whole, part) := positional digits lead
        String.ofList (if part = [] then whole else whole ++ '.' :: part)
      else
        match digits with
        | [] => "0"
        | c :: rest =>
          String.ofList (if rest = [] then [c] else c :: '.' :: rest) ++ exponentText lead

end TreeWatch.Decimal
