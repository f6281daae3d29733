import TreeWatch.Decimal.Read
import TreeWatch.Decimal.Shortest

/-!
# Intervals

The time between two polls as it was asked for, before anybody has looked whether polls can keep to
it.
-/

namespace TreeWatch

/-- Seconds between polls, as they were given. -/
inductive Interval where
  | whole (n : Int)
  | truth (b : Bool)
  | seconds (x : Float)
  /-- No number at all, although one was announced. -/
  | nothing

namespace Interval

/-- Whether polls can have an interval, if it is a number. -/
def isPositive? : Interval → Option Bool
  | whole n => some (0 < n)
  | truth b => some b
  | seconds x => some (0 < x)
  | nothing => none

def literal : Interval → String
  | whole n => toString n
  | truth b => if b then "True" else "False"
  | seconds x => Decimal.text x
  | nothing => "[]"

/-- The interval as a double, unless it is too large for one or no number. -/
def toFloat? : Interval → Option Float
  | whole n => Decimal.ofInt? n
  | truth b => some (if b then 1.0 else 0.0)
  | seconds x => some x
  | nothing => none

end Interval

end TreeWatch
