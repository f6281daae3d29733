import TreeWatch.Command.Arguments
import TreeWatch.Command.Notice
import TreeWatch.Session.Perform
import TreeWatch.Text.Json

/-!
# A run of the command line

From the words of a command line to the pollers of its directories, the lines that every round of
polls prints, and the end. Nothing is printed about a change before every directory has been
found.
-/

namespace TreeWatch.Command

open Log

variable {τ : Type} [Timeline τ]

structure LineStyle where
  json : Bool
  /-- With the whole path of the entry. -/
  absolute : Bool
  deriving DecidableEq

def LineStyle.line (style : LineStyle) (p : Poller) (e : Event) : String :=
  (if style.json then
    Text.Json.object [("kind", e.kind.word), ("path", e.path), ("root", p.rootText)]
  else if style.absolute then e.kind.word ++ " " ++ (p.resolve e).text
  else e.text) ++ "\n"

def print (s : Session τ) (text : String) : Session τ :=
  { s with journal := s.journal.write text }

/-- Why a run ends before a loop begins. -/
inductive Refusal where
  | dismissed (d : Dismissal)
  | unwatchable (problem : RootProblem) (root : Path)
  | failed (e : Failure)
  deriving DecidableEq

/-- Creates the pollers of some directories, up to one that cannot be watched. -/
def createPollers (settings : PollerSettings) :
    List Path → Session τ → Except Refusal Unit × Session τ
  | [], s => (.ok (), s)
  | root :: rest, s =>
    match s.createPoller (settings.request root) with
    | (.ok p, s) => createPollers settings rest { s with pollers := s.pollers ++ [p] }
    | (.error (.invalidRoot problem root), s) =>
      (.error (.unwatchable problem root), print s (errorNotice problem root))
    | (.error e, s) => (.error (.failed e), s)

/-- Puts the poller at a place into its loop, which fails at its first wait if that is too long to
wait for. Such a failure ends the loop and nothing else. -/
def enterLoop (s : Session τ) (place : Nat) : Session τ :=
  let s := s.changePoller place (Poller.enterBlocking (.external false))
  if s.cannotWait place then (s.endBlocking place).2 else s

/-- Puts every poller into its loop; they share a token from outside. -/
def enterLoops (s : Session τ) : Session τ :=
  (List.range s.pollers.length).foldl enterLoop s

def columnsIn (w : World) : Nat :=
  columnsOf (w.lookup? "COLUMNS")

/-- The file that a command line names for settings. If nothing is left of the name, that is found
out behind the other files. -/
def namedFile? (w : World) (a : Arguments) : Except Failure (Option Path) :=
  match a.config with
  | none => .ok none
  | some (.value p) => .ok (some p)
  | some .nothing => do
    let _ ← Settings.files w (some (Path.absolute w.directory))
    .error .wrongKind

def loadBelow (a : Arguments) (s : Session τ) : Except Failure LoadedSettings × Session τ :=
  match namedFile? s.world a with
  | .error e => (.error e, s)
  | .ok named => s.loadSettings (some (Path.absolute s.world.directory)) named false

def start (texts : List String) (s : Session τ) :
    Except Refusal (Arguments × LineStyle) × Session τ :=
  match Arguments.ofTexts texts with
  | .error d => (.error (.dismissed d), print s (d.errorText (columnsIn s.world)))
  | .ok arguments =>
    match loadBelow arguments s with
    | (.error e, s) => (.error (.failed e), s)
    | (.ok loaded, s) =>
      let settings := arguments.apply loaded.settings
      match s.setupLogging (some settings.logging) with
      | (.error e, s) => (.error (.failed e), s)
      | (.ok _, s) =>
        match createPollers settings.poller arguments.paths s with
        | (.error r, s) => (.error r, s)
        | (.ok _, s) =>
          let s := if arguments.quiet then s
            else print s (String.join (s.pollers.map watchingNotice))
          (.ok (arguments, ⟨arguments.json, 1 < s.pollers.length⟩), enterLoops s)

/-- Lets the poller at a place poll once if it is in its loop, and gives the lines for its
changes. -/
def pollPlace (style : LineStyle) (s : Session τ) (place : Nat) : String × Session τ :=
  match s.pollerAt? place with
  | none => ("", s)
  | some p =>
    if p.isRunning then
      let (events, s) := s.pollAt place
      (String.join (events.map (style.line p)), s)
    else ("", s)

/-- Lets every poller of a command line poll once, in order. Theirs are the first so many places:
a poller that is created later is none of them. -/
def pollRound (style : LineStyle) (count : Nat) (s : Session τ) : String × Session τ :=
  (List.range count).foldl (fun (text, s) place =>
    let (lines, s) := pollPlace style s place
    (text ++ lines, s)) ("", s)

/-- The rounds of a run, with the steps that are done before each. -/
def rounds (style : LineStyle) (count : Nat) :
    List (List Step) → Session τ → String × List (List (Answer τ)) × Session τ
  | [], s => ("", [], s)
  | steps :: rest, s =>
    let (answers, s) := Session.performAll steps s
    let (text, s) := pollRound style count s
    let (more, others, s) := rounds style count rest s
    (text ++ more, answers :: others, s)

inductive Ending where
  | inputEnds
  | terminated
  | interrupted
  deriving DecidableEq

/-- What standard input holds: lines, and what goes wrong after them. -/
structure Input where
  lines : List String := []
  problem : Option String := none
  /-- Whether it is read only after the run is over. -/
  isLate : Bool := false

def say (level : Level) (message : String) : Record :=
  .of level "cli" message

def Input.endRecords (i : Input) : List Record :=
  (i.problem.map fun text => say .debug ("stdin closed: " ++ text)).toList ++
    [say .info "stdin reached EOF, stopping"]

def Ending.records (ending : Ending) (input : Input) : List Record :=
  match ending with
  | .inputEnds => input.endRecords
  | .terminated => [say .info "Terminated, stopping"]
  | .interrupted => [say .info "Interrupted, stopping"]

/-- How a run ends whose input may be ignored: then only somebody can end it. -/
def Ending.effective (ending : Ending) (ignoreStdin : Bool) : Ending :=
  if ending = .inputEnds && ignoreStdin then .interrupted else ending

def leaveLoop (s : Session τ) (place : Nat) : Session τ :=
  if s.pollerIs place Poller.isRunning then (s.endBlocking place).2 else s

def leaveLoops (count : Nat) (s : Session τ) : Session τ :=
  (List.range count).foldl leaveLoop s

/-- Ends a run. Input that is read afterwards is left alone as soon as it gives a line. -/
def finish (arguments : Arguments) (ending : Ending) (input : Input) (count : Nat)
    (s : Session τ) : Session τ :=
  let ending := ending.effective arguments.ignoreStdin
  let s := leaveLoops count (s.emit (ending.records input))
  if input.isLate && !arguments.ignoreStdin && ending ≠ .inputEnds && input.lines.isEmpty then
    s.emit input.endRecords
  else s

/-- What a run leaves behind. What the interpreter writes about a loop that failed is no part of the
text of its errors. -/
structure Report (τ : Type) where
  /-- The status with which it ended, if no failure ended it. -/
  outcome : Except Failure Nat
  output : String := ""
  errorText : String := ""
  ticks : List (List (Answer τ)) := []
  records : List Record := []

def Refusal.report (r : Refusal) (s : Session τ) : Report τ :=
  let records := s.recordsFrom 0
  let errorText := s.journal.errorText
  match r with
  | .dismissed d =>
    let output := d.output (columnsIn s.world)
    { outcome := .ok d.status, output, errorText, records }
  | .unwatchable _ _ => { outcome := .ok 1, errorText, records }
  | .failed e => { outcome := .error e, errorText, records }

/-- Runs a command line in a world. The steps of each round are done before its polls. -/
def run (texts : List String) (steps : List (List Step)) (ending : Ending) (input : Input)
    (w : World) : Report τ :=
  match start texts (Session.ofWorld w : Session τ) with
  | (.error r, s) => r.report s
  | (.ok (arguments, style), s) =>
    let count := s.pollers.length
    let (output, ticks, s) := rounds style count steps s
    let s := finish arguments ending input count s
    let errorText := s.journal.errorText
    { outcome := .ok 0, output, errorText, ticks, records := s.recordsFrom 0 }

end TreeWatch.Command
