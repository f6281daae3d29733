import TreeWatch.Decimal.Binary

/-!
# Shortest decimals

The fewest digits that read back as the same double, and of those the nearest. Numbers from
`0.0001` up to `10 ^ 16` are written with a point, the others with an exponent.
-/

namespace TreeWatch.Decimal

/-- Whether `d * 10 ^ p` reads back as `m * 2 ^ q`. The numbers that do so form an interval
that reaches half way to the two neighbours, ends included when `m` is even. Below a power of
two the neighbour is only half as far away, except at the foot of the range. -/
def readsBack (m : Nat) (q : Int) (d : Nat) (p : Int) : Bool :=
  -- everything times 4, so that quarters of the unit are whole
  let (low, high) :=
    if m = Nat.pow 2 52 ∧ -1074 < q then (4 * m - 1, 4 * m + 2) else (4 * m - 2, 4 * m + 2)
  let (lowNum, den) := Binary.fraction low q
  let (highNum, _) := Binary.fraction high q
  let (num, lowDen) :=
    if 0 ≤ p then (4 * d * Nat.pow 10 p.toNat, 1) else (4 * d, Nat.pow 10 (-p).toNat)
  if m % 2 = 0 then decide (lowNum * lowDen ≤ num * den) && decide (num * den ≤ highNum * lowDen)
  else decide (lowNum * lowDen < num * den) && decide (num * den < highNum * lowDen)

/-- The digits of the shortest decimal and the exponent of the last of them, looked for with
ever more digits. On each grid the two neighbours of the value are enough. -/
def shortestFrom (m : Nat) (q : Int) (lead : Int) : Nat → Nat → Nat × Int
  | 0, _ => (m, q)
  | fuel + 1, digits =>
    let p := lead - digits + 1
    let (num, den) := Binary.fraction m q
    let (num, den) := scaled num den p
    let down := num / den
    let near := roundDiv num den
    let far := if near = down then down + 1 else down
    if readsBack m q near p then (near, p)
    else if readsBack m q far p then (far, p)
    else shortestFrom m q lead fuel (digits + 1)

/-- The shortest decimal `d * 10 ^ p` of a positive double `m * 2 ^ q`. Seventeen digits are
always enough. -/
def shortest (m : Nat) (q : Int) : Nat × Int :=
  let (num, den) := Binary.fraction m q
  shortestFrom m q (leadingExponent num den) 17 1

def stripZeros (digits : List Char) : List Char :=
  (digits.reverse.dropWhile (· = '0')).reverse

/-- An exponent with its sign and at least two digits. -/
def exponentText (e : Int) : String :=
  let digits := toString e.natAbs
  (if e < 0 then "e-" else "e+") ++ (if digits.length < 2 then "0" ++ digits else digits)

/-- The digits, of which the first has the exponent `lead`, with the point in its place. -/
def positional (digits : List Char) (lead : Int) : List Char × List Char :=
  if lead < 0 then (['0'], List.replicate (-lead - 1).toNat '0' ++ digits)
  else
    let whole := lead.toNat + 1
    (digits.take whole ++ List.replicate (whole - digits.length) '0', digits.drop whole)

def magnitudeText (m : Nat) (q : Int) : String :=
  let (d, p) := shortest m q
  let all := Nat.toDigits 10 d
  let lead := p + all.length - 1
  let digits := stripZeros all
  if -4 ≤ lead ∧ lead < 16 then
    let (whole, part) := positional digits lead
    String.ofList (whole ++ '.' :: if part = [] then ['0'] else part)
  else
    let mantissa := match digits with
      | c :: rest => if rest = [] then [c] else c :: '.' :: rest
      | [] => ['0']
    String.ofList mantissa ++ exponentText lead

/-- The shortest text that reads back as the same double. -/
def text (x : Float) : String :=
  match Binary.ofFloat x with
  | .nan => "nan"
  | .infinite negative => if negative then "-inf" else "inf"
  | .finite negative m q =>
    (if negative then "-" else "") ++ if m = 0 then "0.0" else magnitudeText m q

end TreeWatch.Decimal
