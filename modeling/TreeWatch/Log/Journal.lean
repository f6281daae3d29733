import TreeWatch.World
import TreeWatch.Log.Logger
import TreeWatch.Text.FileName
import TreeWatch.Settings.Threshold

/-!
# The journal

Where records go. Without a set level every record is kept; a file or the terminal gets the
records that reach its level, one line each.
-/

namespace TreeWatch.Log

/-- What gets lines: the terminal, or the file of a serial number. -/
inductive Sink where
  | terminal
  | file (serial : Nat)
  deriving DecidableEq

structure Handler where
  sink : Sink
  level : Level
  deriving DecidableEq

/-- The name of a file for the log, and how a path that comes of it is quoted. -/
structure FileName where
  text : String
  quoted : String → String := Text.quoted

structure Journal where
  initialized : Bool := false
  /-- The level from which records are kept; zero if none is set. -/
  level : Level := 0
  handlers : List Handler := []
  /-- What was written to the terminal or where it would be. -/
  errorText : String := ""
  records : Array Record := #[]
  loggers : List String := []

namespace Journal

def keeps (j : Journal) (level : Level) : Bool :=
  decide (0 < level) && decide (j.level ≤ level)

def write (text : String) (j : Journal) : Journal :=
  { j with errorText := j.errorText ++ text }

def deliver (line : String) (w : World) (j : Journal) : Sink → World × Journal
  | .terminal => (w, j.write line)
  | .file serial => (w.appendTo serial (Bytes.ofText line), j)

def meetLogger (name : String) (j : Journal) : Journal :=
  if j.loggers.contains name then j else { j with loggers := name :: j.loggers }

/-- Keeps a record and gives it to the sinks that it reaches. -/
def emit (w : World) (j : Journal) (r : Record) : World × Journal :=
  let j := j.meetLogger r.logger
  if !belongs j.loggers r.logger then
    (w, if 0 < r.level then { j with records := j.records.push r } else j)
  else if j.keeps r.level then
    let j := { j with records := j.records.push r }
    (j.handlers.filter (·.level ≤ r.level)).foldl
      (fun (w, j) h => deliver (r.line w.now ++ "\n") w j h.sink) (w, j)
  else (w, j)

def emitAll (w : World) (j : Journal) (rs : List Record) : World × Journal :=
  rs.foldl (fun (w, j) r => emit w j r) (w, j)

def attach (sink : Sink) (j : Journal) : Journal :=
  { j with handlers := j.handlers ++ [⟨sink, j.level⟩] }

/-- The file that the log goes to: the one of the settings, otherwise that of the environment. -/
def fileSetting (w : World) (s : Option LoggingSettings) : Value :=
  let file := (s.map (·.file)).getD .null
  if file.isTruthy then file
  else ((w.setting? "DIRPOLL_LOG").map .text).getD .null

/-- The name that a setting gives to the log's file. There need not be a file name of the code
points or of the kind of value that are given. -/
def fileName? (w : World) : Value → Except Failure FileName
  | .text file => .ok { text := file }
  | .halves codes =>
    match Text.nameOfCodes? codes with
    | some text => .ok { text, quoted := Text.quotedCodes ∘ Text.codesOfName }
    | none => .error .malformed
  | .bytes b =>
    if w.host.takesBytes then
      .ok { text := Text.nameOfBytes b, quoted := Text.quotedBytes ∘ Text.bytesOfName }
    else .error .wrongKind
  | _ => .error .wrongKind

/-- The path of a log file as it is opened: from the root and without double dots. -/
def filePath (w : World) (file : String) : Path :=
  let p := Path.ofText (Path.expandHomeText w.home? file)
  ((Path.absolute w.directory).join p).normal

def attachTerminal (w : World) (j : Journal) : Journal :=
  if w.onTerminal then j.attach .terminal else j

/-- Lets records go to a file. If it cannot be opened, a terminal is told so and takes its
place. -/
def attachFile (w : World) (j : Journal) (file : FileName) :
    Except Failure Unit × World × Journal :=
  let p := filePath w file.text
  if p.hasNul then (.error .malformed, w, j)
  else
    match w.openAppend p with
    | .ok (serial, w) => (.ok (), w, j.attach (.file serial))
    | .error e =>
      if w.onTerminal then
        let notice := "[dirpoll] Failed to open log file: " ++ e.text ++ ": " ++ file.quoted p.text
        (.ok (), w, (j.write (notice ++ "\n")).attach .terminal)
      else (.ok (), w, j)

/-- Sets level and sink. Only the first call has an effect. -/
def setup (w : World) (j : Journal) (s : Option LoggingSettings) :
    Except Failure Unit × World × Journal :=
  if j.initialized then (.ok (), w, j)
  else
    let j := { j with initialized := true }
    match LoggingSettings.thresholdOf s with
    | .error e => (.error e, w, j)
    | .ok level =>
      let j := { j with level }
      match fileSetting w s with
      | .null => (.ok (), w, attachTerminal w j)
      | given =>
        match fileName? w given with
        | .ok file => attachFile w j file
        | .error e => (.error e, w, j)

def reset (j : Journal) : Journal :=
  { j with initialized := false, level := 0, handlers := [] }

end Journal

end TreeWatch.Log
