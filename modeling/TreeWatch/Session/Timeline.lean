/-!
# Time as loops see it

What a clock has to offer so that polls can be spaced: its readings are added to, taken from each
other and compared. Doubles are such readings.
-/

namespace TreeWatch

/-- Readings of a clock, and spans between them. -/
class Timeline (τ : Type) where
  zero : τ
  after : τ → τ → τ
  since : τ → τ → τ
  before : τ → τ → Bool
  ofSeconds : Float → τ

namespace Timeline

variable {τ : Type} [Timeline τ]

/-- The span that is left until a reading; none is left when it has passed. -/
def remaining (next now : τ) : τ :=
  let left := since next now
  if before zero left then left else zero

end Timeline

instance : Timeline Float where
  zero := 0.0
  after := (· + ·)
  since := (· - ·)
  before a b := a < b
  ofSeconds x := x

end TreeWatch
