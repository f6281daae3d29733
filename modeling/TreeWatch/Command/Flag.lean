/-!
# Flags of the command line

The flags with their spellings, what they take and what is said of them.
-/

namespace TreeWatch.Command

inductive Flag where
  | help
  | version
  | interval
  | recursive
  | trackDirectories
  | trackSymlinks
  | config
  | json
  | ignoreStdin
  | verbose
  | quiet
  deriving DecidableEq

namespace Flag

def all : List Flag :=
  [help, version, interval, recursive, trackDirectories, trackSymlinks, config, json, ignoreStdin,
   verbose, quiet]

def spellings : Flag → List String
  | help => ["-h", "--help"]
  | version => ["--version"]
  | interval => ["-i", "--interval"]
  | recursive => ["--recursive", "--no-recursive"]
  | trackDirectories => ["--track-directories", "--no-track-directories"]
  | trackSymlinks => ["--track-symlinks", "--no-track-symlinks"]
  | config => ["--config"]
  | json => ["--json"]
  | ignoreStdin => ["--ignore-stdin"]
  | verbose => ["-v", "--verbose"]
  | quiet => ["-q", "--quiet"]

/-- What the value of a flag is called, for the flags that take one. -/
def valueName? : Flag → Option String
  | interval => some "INTERVAL"
  | config => some "CONFIG"
  | _ => none

def takesValue (f : Flag) : Bool :=
  f.valueName?.isSome

/-- Whether one spelling of a flag asks for something and the other one for the opposite. -/
def isSwitch : Flag → Bool
  | recursive | trackDirectories | trackSymlinks => true
  | _ => false

def title (f : Flag) : String :=
  String.intercalate "/" f.spellings

def description : Flag → String
  | help => "show this help message and exit"
  | version => "show program's version number and exit"
  | interval => "Seconds between polls (default: from config, else 1.0)"
  | recursive => "Watch subdirectories too (default: yes)"
  | trackDirectories => "Report directories themselves as entries"
  | trackSymlinks => "Report symlinks as entries (they are never followed)"
  | config => "Extra config file layered over system, user and project config"
  | json => "Print each change as a JSON object with kind, path and root"
  | ignoreStdin => "Keep running when stdin reaches EOF (stop with a signal instead)"
  | verbose => "Increase log verbosity (can be repeated)"
  | quiet => "Only log errors and skip the startup banner"

def ofSpelling? (s : String) : Option Flag :=
  all.find? fun f => f.spellings.contains s

end Flag

def spelledFlags : List (String × Flag) :=
  Flag.all.flatMap fun f => f.spellings.map (·, f)

end TreeWatch.Command
