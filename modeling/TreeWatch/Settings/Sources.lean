import TreeWatch.World
import TreeWatch.Yaml.Load
import TreeWatch.Settings.Coerce

/-!
# Where settings come from

Files for the whole system, for the user and for the project, a file that is named, and the
environment, each of which stands above those before it. A file that is missing or cannot be read
as settings counts for nothing and is reported.
-/

namespace TreeWatch.Settings

open Log

def fileName : String :=
  "config.yaml"

def fileWithin (base : Path) : Path :=
  (base.child "dirpoll").child fileName

def hiddenFileWithin (base : Path) : Path :=
  (base.child ".dirpoll").child fileName

/-- A platform on which directories for settings are named by variables. -/
def namesDirectories (w : World) : Bool :=
  w.platform = "win32"

def fileOfVariable? (w : World) (name : String) : Option Path :=
  (w.setting? name).map fun dir => fileWithin (Path.ofText dir)

def systemFile? (w : World) : Option Path :=
  if namesDirectories w then fileOfVariable? w "PROGRAMDATA"
  else some (fileWithin (Path.absolute ["etc"]))

def homeFile (w : World) : Except Failure Path := do
  let home ← w.expandHome (Path.ofText "~")
  let shared := home.child ".config"
  if ← w.exists? shared then .ok (fileWithin shared) else .ok (hiddenFileWithin home)

def userFile? (w : World) : Except Failure (Option Path) :=
  if namesDirectories w then .ok (fileOfVariable? w "APPDATA")
  else
    match fileOfVariable? w "XDG_CONFIG_HOME" with
    | some p => .ok (some p)
    | none => (homeFile w).map some

/-- The files of system, user and project, the lowest first. -/
def files (w : World) (project : Option Path) : Except Failure (List Path) := do
  let user ← userFile? w
  .ok ((systemFile? w).toList ++ user.toList ++ (project.map hiddenFileWithin).toList)

/-- The files that a run reads, with the one that is named last. -/
def allFiles (w : World) (project named : Option Path) : Except Failure (List Path) := do
  let paths ← files w project
  let named ← named.mapM w.expandHome
  .ok (paths ++ named.toList)

def entriesOfContent (p : Path) (content : Bytes) : Reported (Except Failure Entries) :=
  match Yaml.load content with
  | .error (.refused cause) => pure (.error cause)
  | .error .notDocument => do
    warn ("Invalid YAML in " ++ p.text ++ ": <yaml error>")
    pure (.ok [])
  | .ok (.entries entries) => pure (.ok entries)
  | .ok .nothing => pure (.ok [])
  | .ok .other => do
    warn ("Ignoring " ++ p.text ++ ": top level must be a mapping")
    pure (.ok [])

def entriesOfFile (w : World) (p : Path) : Reported (Except Failure Entries) :=
  match w.exists? p with
  | .error e => pure (.error e)
  | .ok false => pure (.ok [])
  | .ok true =>
    match w.readFile p with
    | .ok content => entriesOfContent p content
    | .error e => do
      if e.meansDenied then .say (.of .debug "config" ("Permission denied reading " ++ p.text))
      else warn ("Error reading " ++ p.text ++ ": " ++ (SystemError.mk e p.text).message)
      pure (.ok [])

def entriesOfFiles (w : World) : List Path → Reported (Except Failure (List Entries))
  | [] => pure (.ok [])
  | p :: rest => do
    match ← entriesOfFile w p with
    | .error e => pure (.error e)
    | .ok [] => entriesOfFiles w rest
    | .ok entries => do
      .say (.of .debug "config" ("Loaded config from " ++ p.text))
      let more ← entriesOfFiles w rest
      pure (more.map (entries :: ·))

def sectionOfVariables (w : World) (name : String) (settings : List (String × String)) : Entries :=
  let entries := settings.filterMap fun (key, source) =>
    (w.setting? source).map fun text => (Value.text key, Value.text text)
  if entries.isEmpty then [] else [(.text name, .map entries)]

def ofEnvironment (w : World) : Entries :=
  sectionOfVariables w "logging" [("file", "DIRPOLL_LOG")] ++
    sectionOfVariables w "poller"
      [("interval", "DIRPOLL_INTERVAL"), ("recursive", "DIRPOLL_RECURSIVE")]

def load (w : World) (project named : Option Path) : Reported (Except Failure Settings) :=
  match allFiles w project named with
  | .error e => pure (.error e)
  | .ok paths => do
    match ← entriesOfFiles w paths with
    | .error e => pure (.error e)
    | .ok layers =>
      match Layers.merge? ((layers ++ [ofEnvironment w]).map .map) with
      | .error e => pure (.error e)
      | .ok entries => ofEntries entries

end TreeWatch.Settings
