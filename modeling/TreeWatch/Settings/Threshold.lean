import TreeWatch.Settings.Schema
import TreeWatch.Log.Record
import TreeWatch.Failure

/-!
# The level from which records are kept

A verbosity is a place on a short scale and stands above the name of a level.
-/

namespace TreeWatch.LoggingSettings

open Log

def scale : List Level :=
  [.error, .warning, .info, .verbose, .trace]

def scaleLevel (n : Int) : Level :=
  scale.getD (min n.toNat 4) .info

/-- The level of a verbosity. A number that is not whole lies on the scale only when it is beyond
an end of it. -/
def verbosityLevel : Value → Except Failure Level
  | .int n => .ok (scaleLevel n)
  | .bool b => .ok (scaleLevel (if b then 1 else 0))
  | .float x =>
    if x < 0 then .ok (scaleLevel 0)
    else if 4 < x then .ok (scaleLevel 4)
    else .error .wrongKind
  | _ => .error .wrongKind

/-- A letter in capitals, as far as that makes a letter of ASCII. -/
def upperLetter (c : Char) : Char :=
  if c = 'ı' then 'I' else if c = 'ſ' then 'S' else c.toUpper

/-- The level of a name in letters of either case. An unknown name counts as the usual level. -/
def namedLevel (name : String) : Level :=
  (Level.ofName? (name.map upperLetter)).getD .info

/-- The level from which records are kept. Bytes and texts with halves of surrogate pairs have
capitals too, but name no level. -/
def threshold (s : LoggingSettings) : Except Failure Level :=
  match s.verbose, s.level with
  | .null, .text name => .ok (namedLevel name)
  | .null, .bytes _ | .null, .halves _ => .ok .info
  | .null, level => if level.isTruthy then .error .notText else .ok .info
  | verbose, _ => verbosityLevel verbose

def thresholdOf : Option LoggingSettings → Except Failure Level
  | none => .ok .info
  | some s => s.threshold

end TreeWatch.LoggingSettings
