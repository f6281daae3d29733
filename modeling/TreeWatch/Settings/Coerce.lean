import TreeWatch.Settings.Schema
import TreeWatch.Settings.Layers
import TreeWatch.Log.Record
import TreeWatch.Failure
import TreeWatch.Value.Literal
import TreeWatch.Decimal.Read
import TreeWatch.Decimal.Fixed

/-!
# Settings from values

A value of the wrong kind is reported and its setting keeps its default, so that a mistake in one
place touches no other.
-/

namespace TreeWatch.Settings

open Log

def warn (message : String) : Reported Unit :=
  .say (.of .warning "config" message)

def number? : Value → Except Failure (Option Float)
  | .bool b => .ok (some (if b then 1.0 else 0.0))
  | .int i =>
    match Decimal.ofInt? i with
    | some x => .ok (some x)
    | none => .error .tooLarge
  | .float x => .ok (some x)
  | .nan => .ok (some (0.0 / 0.0))
  | .text s => .ok (Decimal.ofText? s)
  | .bytes b => .ok (Decimal.ofBytes? b)
  | _ => .ok none

def standardInterval : Float :=
  1.0

def interval (value : Value) : Except Failure (Reported Float) := do
  match ← number? value with
  | none =>
    .ok do
      warn ("Invalid poller.interval " ++ value.literal ++ ", using " ++ 
        Decimal.onePlace standardInterval)
      pure standardInterval
  | some x =>
    if x ≤ 0 then
      .ok do
        warn ("poller.interval must be positive, got " ++ value.literal)
        pure standardInterval
    else .ok (pure x)

def switchWord? (word : String) : Option Bool :=
  let word := Text.lowerAscii (Text.trim word)
  if ["1", "true", "yes", "on"].contains word then some true
  else if ["0", "false", "no", "off"].contains word then some false
  else none

def switch? : Value → Option Bool
  | .bool b => some b
  | .text s => switchWord? s
  | _ => none

def switch (name : String) (standard : Bool) (value : Value) : Reported Bool :=
  match switch? value with
  | some b => pure b
  | none => do
    warn ("Invalid boolean for " ++ name ++ ": " ++ value.literal)
    pure standard

def switchIn (entries : Entries) (key : String) (standard : Bool) : Reported Bool :=
  match entries.getText? key with
  | none => pure standard
  | some value => switch ("poller." ++ key) standard value

def section? (entries : Entries) (name : String) : Reported Entries :=
  match entries.getText? name with
  | none => pure []
  | some (.map inner) => pure inner
  | some _ => do
    warn ("Ignoring config section " ++ Text.quoted name ++ ": expected a mapping")
    pure []

def intervalIn (entries : Entries) : Except Failure (Reported Float) :=
  match entries.getText? "interval" with
  | none => .ok (pure standardInterval)
  | some value => interval value

def verbosityIn (entries : Entries) : Reported Value :=
  match entries.getText? "verbose" with
  | none | some .null => pure .null
  | some (.int n) => pure (.int n)
  | some (.bool b) => pure (.bool b)
  | some value => do
    warn ("Invalid logging.verbose " ++ value.literal)
    pure .null

def extraIn (entries : Entries) : Entries :=
  entries.filter fun e => !(e.1.sameKey (.text "poller") || e.1.sameKey (.text "logging"))

/-- The settings that entries stand for. The only values that fail are whole numbers too large for
an interval; the records made until then stay. -/
def ofEntries (entries : Entries) : Reported (Except Failure Settings) := do
  let pollerSection ← section? entries "poller"
  match intervalIn pollerSection with
  | .error e => pure (.error e)
  | .ok interval => do
    let standard : PollerSettings := {}
    let interval ← interval
    let recursive ← switchIn pollerSection "recursive" standard.recursive
    let trackDirectories ← switchIn pollerSection "track_directories" standard.trackDirectories
    let trackSymlinks ← switchIn pollerSection "track_symlinks" standard.trackSymlinks
    let loggingSection ← section? entries "logging"
    let verbose ← verbosityIn loggingSection
    let level := (loggingSection.getText? "level").getD .null
    let file := (loggingSection.getText? "file").getD .null
    pure (.ok {
      poller := { interval := .seconds interval, recursive, trackDirectories, trackSymlinks }
      logging := { level, verbose, file }
      extra := extraIn entries })

end TreeWatch.Settings
