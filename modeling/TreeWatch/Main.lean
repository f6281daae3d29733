import TreeWatch.Command.Run
import Std.Time.DateTime.Timestamp

/-!
# The program

Looks at the real directories before every round of polls and leaves the rest to the library: what
is found becomes a world, and what a session prints and records is written out.
-/

namespace TreeWatch.Main

open Command

def variableNames : List String :=
  ["HOME", "XDG_CONFIG_HOME", "PROGRAMDATA", "APPDATA", "DIRPOLL_LOG", "DIRPOLL_INTERVAL",
   "DIRPOLL_RECURSIVE", "COLUMNS"]

def errnoOf : IO.Error → Errno
  | .noFileOrDirectory _ _ _ => .notFound
  | .permissionDenied _ _ _ => .permissionDenied
  | .inappropriateType _ _ _ => .notDirectory
  | .resourceExhausted _ _ _ => .tooManyOpenFiles
  | _ => .inputOutput

def attributesOf (name : String) (m : IO.FS.Metadata) : Attributes :=
  { name, time := m.modified.sec * 1000000000 + m.modified.nsec.toNat }

/-- What some work gives, or what stands for the error with which it failed. -/
def orElse {α : Type} (work : IO α) (standard : Errno → α) : IO α := do
  match ← work.toBaseIO with
  | .ok a => return a
  | .error e => return standard (errnoOf e)

partial def capture (entry : IO.FS.DirEntry) : IO Node := do
  let name := entry.fileName
  let unreadable (e : Errno) : Node := .file { name, faults := { classify := some e } } 0 []
  orElse (do
    let m ← entry.path.symlinkMetadata
    let a := attributesOf name m
    match m.type with
    | .file => return .file a 0 []
    | .symlink => return .link a ""
    | .other => return .special a .device
    | .dir =>
      let closed (e : Errno) : Node := .directory { a with faults := { list := some e } } []
      orElse (do
        let entries ← entry.path.readDir
        return .directory a (← entries.toList.mapM capture)) closed) unreadable

def place (w : World) (p : Path) (n : Node) : World :=
  { w with root := w.root.alterAt true (fun _ => some n) p.parts }

def fromRoot (w : World) (p : Path) : Path :=
  (Path.absolute w.directory).join p

/-- The world with the real tree at a path, and a link to it if the path leads through links. -/
def withTree (w : World) (p : Path) : IO World := do
  let p := (fromRoot w p).normal
  orElse (do
    let real := Path.ofText (toString (← IO.FS.realPath p.text))
    let parent : Path := ⟨real.lead, real.parts.dropLast⟩
    let n ← capture ⟨parent.text, Edit.lastName real.parts⟩
    let w := place w real n
    if real = p then return w
    return place w p (.link { name := Edit.lastName p.parts } real.text)) fun _ => w

def withFile (w : World) (p : Path) : IO World := do
  let p := (fromRoot w p).normal
  orElse (do
    let content ← IO.FS.readBinFile p.text
    return w.edit (.write p.parts content.toList defaultTime)) fun
      | .notFound => w
      | e => (w.edit (.write p.parts [] defaultTime)).edit (.fault p.parts .openFile (some e))

/-- The surroundings of the program, without any files. -/
def surroundings : IO World := do
  let mut w : World := {}
  for name in variableNames do
    w := w.setVariable name (← IO.getEnv name)
  let directory := (Path.ofText (toString (← IO.currentDir))).parts
  let onTerminal ← (← IO.getStderr).isTty
  let time ← Std.Time.Timestamp.now
  let now : Int := time.toSecondsSinceUnixEpoch.val
  let host := Host.posix []
  return { w with directory, onTerminal, now, host }.edit (.makeDirectory directory defaultTime)

def startingWorld (arguments : Arguments) : IO World := do
  let w ← surroundings
  let w ← match w.expandHome (Path.ofText "~/.config") with
    | .ok p => do
      if ← (IO.FS.DirEntry.mk p.text "").path.pathExists then
        pure (w.edit (.makeDirectory p.parts defaultTime))
      else pure w
    | .error _ => pure w
  let named := (namedFile? w arguments).toOption.join
  let files := (Settings.allFiles w (some (Path.absolute w.directory)) named).toOption
  let w ← (files.getD []).foldlM withFile w
  arguments.paths.foldlM (fun w p =>
    match w.expandHome p with
    | .ok p => withTree w p
    | .error _ => pure w) w

def refresh (s : Session Float) : IO (Session Float) := do
  let roots := s.pollers.map (·.spec.root)
  let w := roots.foldl (fun (w : World) p => w.edit (.remove p.parts)) s.world
  let now ← Std.Time.Timestamp.now
  let w ← roots.foldlM withTree { w with now := now.toSecondsSinceUnixEpoch.val }
  return { s with world := w }

/-- Writes out what a session printed and recorded since it had so much text and so many records.
Lines for a log file are added to it. -/
def writeOut (textBefore recordsBefore : Nat) (s : Session Float) (w : World)
    (settings : Option LoggingSettings) : IO Unit := do
  IO.eprint (s.journal.errorText.drop textBefore)
  match s.journal.handlers.head?, Log.Journal.fileName? w (Log.Journal.fileSetting w settings) with
  | some ⟨.file _, level⟩, .ok file =>
    let lines := (s.recordsFrom recordsBefore).filter (level ≤ ·.level)
    IO.FS.withFile (Log.Journal.filePath w file.text).text .append fun h =>
      lines.forM fun r => h.putStr (r.line s.world.now ++ "\n")
  | _, _ => pure ()

/-- Waits for some milliseconds, or until the input has ended. -/
partial def wait (ended : IO.Ref Bool) (milliseconds : Nat) : IO Unit := do
  if milliseconds = 0 || (← ended.get) then return
  let slice := min milliseconds 200
  IO.sleep slice.toUInt32
  wait ended (milliseconds - slice)

partial def readInput (ended : IO.Ref Bool) : IO Unit := do
  let line ← (← IO.getStdin).getLine
  if line.isEmpty then ended.set true else readInput ended

partial def watch (style : LineStyle) (ended : IO.Ref Bool) (settings : Option LoggingSettings)
    (s : Session Float) : IO (Session Float) := do
  let interval := (s.pollers.head?.map (·.spec.interval)).getD 1.0
  wait ended (interval * 1000).toUInt64.toNat
  if ← ended.get then return s
  let text := s.journal.errorText.length
  let count := s.recordCount
  let (lines, s) := pollRound style s.pollers.length (← refresh s)
  IO.print lines
  (← IO.getStdout).flush
  writeOut text count s s.world settings
  watch style ended settings s

/-- Prints what is left of a run that ended before a loop began. -/
def leave (r : Refusal) (s : Session Float) : IO UInt32 := do
  let report := r.report s
  IO.print report.output
  IO.eprint report.errorText
  match report.outcome with
  | .ok status => return status.toUInt32
  | .error e =>
    IO.eprintln ((e.message?).getD "The settings cannot be used.")
    return 1

def run (texts : List String) : IO UInt32 := do
  let w ← match Arguments.ofTexts texts with
    | .ok arguments => startingWorld arguments
    | .error _ => surroundings
  match start texts (Session.ofWorld w : Session Float) with
  | (.error r, s) => leave r s
  | (.ok (arguments, style), s) =>
    let named := (namedFile? w arguments).toOption.join
    let loaded := (Settings.load w (some (Path.absolute w.directory)) named).outcome
    let settings := loaded.toOption.map fun all => (arguments.apply all).logging
    writeOut 0 0 s w settings
    let ended ← IO.mkRef false
    if !arguments.ignoreStdin then
      let _ ← IO.asTask (readInput ended)
    let s ← watch style ended settings s
    let text := s.journal.errorText.length
    let count := s.recordCount
    writeOut text count (finish arguments .inputEnds {} s.pollers.length s) w settings
    return 0

end TreeWatch.Main

def main (texts : List String) : IO UInt32 :=
  TreeWatch.Main.run texts
