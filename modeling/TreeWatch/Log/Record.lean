import TreeWatch.Text.Blank
import TreeWatch.Value.Moment

/-!
# Log records

What is said about a run: how severe it is, who says it and the message itself.
-/

namespace TreeWatch.Log

/-- How severe a record is; a greater number is more severe. -/
abbrev Level := Int

namespace Level

def trace : Level := 5

def debug : Level := 10

def verbose : Level := 15

def info : Level := 20

def warning : Level := 30

def error : Level := 40

def critical : Level := 50

def names : List (Level × String) :=
  [(0, "NOTSET"), (trace, "TRACE"), (debug, "DEBUG"), (verbose, "VERBOSE"), (info, "INFO"),
   (warning, "WARNING"), (error, "ERROR"), (critical, "CRITICAL")]

def name (level : Level) : String :=
  match names.find? (·.1 = level) with
  | some (_, name) => name
  | none => "Level " ++ toString level

/-- The level of a name in capitals. There is a short name for warnings, and none for the level
that means nothing. -/
def ofName? (name : String) : Option Level :=
  if name = "WARN" then some warning
  else if name = "NOTSET" then none
  else (names.find? (·.2 = name)).map (·.1)

end Level

def family : String :=
  "dirpoll"

def loggerName : Option String → String
  | none | some "" => family
  | some name => family ++ "." ++ name

structure Record where
  level : Level
  logger : String
  message : String
  deriving DecidableEq

namespace Record

def of (level : Level) (name message : String) : Record :=
  ⟨level, loggerName (some name), message⟩

def timeOfDay (now : Int) : String :=
  let second := (now % 86400).toNat
  zeroPadded 2 (second / 3600) ++ ":" ++ zeroPadded 2 (second / 60 % 60) ++ ":" ++
    zeroPadded 2 (second % 60)

/-- The record as a line of a log: time of day, level in small letters and message. -/
def line (now : Int) (r : Record) : String :=
  timeOfDay now ++ " " ++ Text.lowerAscii r.level.name ++ ": " ++ r.message

end Record

/-- What came out of some work, with the records made on the way. -/
structure Reported (α : Type) where
  outcome : α
  records : List Record := []

namespace Reported

def say (r : Record) : Reported Unit :=
  ⟨(), [r]⟩

instance : Monad Reported where
  pure a := ⟨a, []⟩
  bind x f :=
    let y := f x.outcome
    ⟨y.outcome, x.records ++ y.records⟩

@[simp] theorem outcome_pure {α : Type} (a : α) : (pure a : Reported α).outcome = a :=
  rfl

@[simp] theorem records_pure {α : Type} (a : α) : (pure a : Reported α).records = [] :=
  rfl

@[simp] theorem outcome_bind {α β : Type} (x : Reported α) (f : α → Reported β) :
    (x >>= f).outcome = (f x.outcome).outcome :=
  rfl

@[simp] theorem records_bind {α β : Type} (x : Reported α) (f : α → Reported β) :
    (x >>= f).records = x.records ++ (f x.outcome).records :=
  rfl

end Reported

end TreeWatch.Log
