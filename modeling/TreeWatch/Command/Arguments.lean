import TreeWatch.Command.Usage
import TreeWatch.Path
import TreeWatch.Text.Quoted
import TreeWatch.Text.DecimalDigit
import TreeWatch.Decimal.Read
import TreeWatch.Settings.Schema

/-!
# Reading the command line

The words are sorted into flags and others first; a flag may be shortened as long as it stays
clear which one is meant. Then they are taken from left to right. All directories stand together.
-/

namespace TreeWatch.Command

inductive Rejection where
  | notNumber (text : String)
  | notPositive (text : String)
  deriving DecidableEq

def Rejection.message : Rejection → String
  | notNumber text => "not a number: " ++ Text.quoted text
  | notPositive text => "must be positive: " ++ Text.quoted text

def intervalOfText (text : String) : Except Rejection Float :=
  match Decimal.ofText? text with
  | none => .error (.notNumber text)
  | some x => if x ≤ 0 then .error (.notPositive text) else .ok x

/-- What is given for a flag with a value. A separator in the place of the value is dropped like any
other, and nothing is left. -/
inductive Given (α : Type) where
  | value (a : α)
  | nothing
  deriving DecidableEq

structure Arguments where
  paths : List Path := []
  interval : Option Interval := none
  recursive : Option Bool := none
  trackDirectories : Option Bool := none
  trackSymlinks : Option Bool := none
  config : Option (Given Path) := none
  json : Bool := false
  ignoreStdin : Bool := false
  verbose : Nat := 0
  quiet : Bool := false

inductive Misuse where
  | ambiguous (word : String) (spellings : List String)
  | valueMissing (flag : Flag)
  | valueIgnored (flag : Flag) (value : String)
  | rejected (flag : Flag) (rejection : Rejection)
  | pathsMissing
  | unrecognized (words : List String)
  deriving DecidableEq

namespace Misuse

def about (f : Flag) (message : String) : String :=
  "argument " ++ f.title ++ ": " ++ message

def message : Misuse → String
  | ambiguous word spellings =>
    "ambiguous option: " ++ word ++ " could match " ++ String.intercalate ", " spellings
  | valueMissing f => about f "expected one argument"
  | valueIgnored f value => about f ("ignored explicit argument " ++ Text.quoted value)
  | rejected f rejection => about f rejection.message
  | pathsMissing => "the following arguments are required: PATH"
  | unrecognized words => "unrecognized arguments: " ++ String.intercalate " " words

end Misuse

/-- Why nothing is watched: somebody asked for an account of the program, or the command line is of
no use. -/
inductive Dismissal where
  | help
  | version
  | misuse (m : Misuse)
  deriving DecidableEq

namespace Dismissal

def status : Dismissal → Nat
  | help | version => 0
  | misuse _ => 1

def output (columns : Nat) : Dismissal → String
  | help => helpText columns
  | version => versionText columns
  | misuse _ => ""

def errorText (columns : Nat) : Dismissal → String
  | help | version => ""
  | misuse m => usageText columns ++ programName ++ ": error: " ++ m.message ++ "\n"

end Dismissal

/-- A word of the command line: a flag as it is spelled in full, with a value attached to it, a
word that looks like a flag but is none, the separator behind which nothing is a flag, or any other
word. -/
inductive Word where
  | flag (f : Flag) (spelling : String) (attached : Option String)
  | unknown (text : String)
  | separator
  | other (text : String)
  deriving DecidableEq

namespace Word

/-- A text cut at its first equals sign. -/
def splitValue (cs : List Char) : List Char × Option (List Char) :=
  match cs.dropWhile (· ≠ '=') with
  | [] => (cs, none)
  | _ :: value => (cs.takeWhile (· ≠ '='), some value)

/-- The flags that a word may be short for, each with its spelling and an attached value. -/
def candidates (text : String) : List (Flag × String × Option String) :=
  match text.toList with
  | '-' :: '-' :: _ =>
    let (start, value) := splitValue text.toList
    (spelledFlags.filter fun (s, _) => s.startsWith (String.ofList start)).map
      fun (s, f) => (f, s, value.map String.ofList)
  | dash :: c :: rest =>
    spelledFlags.filterMap fun (s, f) =>
      if s = String.ofList [dash, c] then some (f, s, some (String.ofList rest))
      else if s.startsWith text then some (f, s, none)
      else none
  | _ => []

def isDigit (c : Char) : Bool :=
  (Text.digitValue? c).isSome

def isNegativeNumber (text : String) : Bool :=
  let cs := text.toList
  let cs := if cs.getLast? = some '\n' then cs.dropLast else cs
  match cs with
  | '-' :: rest =>
    let whole := rest.takeWhile isDigit
    match rest.dropWhile isDigit with
    | [] => !whole.isEmpty
    | '.' :: part => !part.isEmpty && part.all isDigit
    | _ => false
  | _ => false

/-- Sorts a word that does not stand behind a separator. -/
def ofText (text : String) : Except Misuse Word :=
  if !text.startsWith "-" then .ok (.other text)
  else
    match Flag.ofSpelling? text with
    | some f => .ok (.flag f text none)
    | none =>
      if text = "-" then .ok (.other text)
      else
        let (start, value) := splitValue text.toList
        match value, Flag.ofSpelling? (String.ofList start) with
        | some value, some f => .ok (.flag f (String.ofList start) (some (String.ofList value)))
        | _, _ =>
          match candidates text with
          | [(f, spelling, attached)] => .ok (.flag f spelling attached)
          | [] =>
            if isNegativeNumber text || text.toList.contains ' ' then .ok (.other text)
            else .ok (.unknown text)
          | several => .error (.ambiguous text (several.map (·.2.1)))

def ofTexts : List String → Except Misuse (List Word)
  | [] => .ok []
  | text :: rest =>
    if text = "--" then .ok (.separator :: rest.map .other)
    else do
      let word ← ofText text
      let words ← ofTexts rest
      .ok (word :: words)

def plainText? : Word → Option String
  | separator => some "--"
  | other text => some text
  | _ => none

/-- Whether a word is no flag and no separator. -/
def isOther : Word → Bool
  | other _ => true
  | _ => false

end Word

/-- A flag as it is taken: with its spelling and the value that goes with it. -/
structure Use where
  flag : Flag
  spelling : String
  value : Option String := none
  deriving DecidableEq

/-- The uses of a flag that has something attached. To a flag of one letter that takes no value
further letters may be attached; the last flag may be left to find its value behind it. -/
def attachedUses (f : Flag) (spelling : String) :
    List Char → Except Misuse (List Use × Option (Flag × String))
  | [] => .ok ([], some (f, spelling))
  | c :: rest =>
    if f.takesValue then .ok ([⟨f, spelling, some (String.ofList (c :: rest))⟩], none)
    else if spelling.startsWith "--" then .error (.valueIgnored f (String.ofList (c :: rest)))
    else
      let next := String.ofList ['-', c]
      match Flag.ofSpelling? next with
      | none => .error (.valueIgnored f (String.ofList (c :: rest)))
      | some g => do
        let (uses, last) ← attachedUses g next rest
        .ok (⟨f, spelling, none⟩ :: uses, last)

def usesOf (f : Flag) (spelling : String) (attached : Option String) (rest : List Word) :
    Except Misuse (List Use × List Word) := do
  let (uses, last) ←
    match attached with
    | some "" =>
      if f.takesValue then .ok ([⟨f, spelling, some ""⟩], none) else .error (.valueIgnored f "")
    | some text => attachedUses f spelling text.toList
    | none => .ok ([], some (f, spelling))
  match last with
  | none => .ok (uses, rest)
  | some (g, spelling) =>
    if g.takesValue then
      match rest with
      | .other value :: rest => .ok (uses ++ [⟨g, spelling, some value⟩], rest)
      | _ => .error (.valueMissing g)
    else .ok (uses ++ [⟨g, spelling, none⟩], rest)

def applyUse (a : Arguments) (u : Use) : Except Dismissal Arguments :=
  let wanted := !u.spelling.startsWith "--no-"
  let value := u.value.getD ""
  match u.flag with
  | .help => .error .help
  | .version => .error .version
  | .interval =>
    if value = "--" then .ok { a with interval := some .nothing }
    else
      match intervalOfText value with
      | .ok x => .ok { a with interval := some (.seconds x) }
      | .error r => .error (.misuse (.rejected .interval r))
  | .recursive => .ok { a with recursive := some wanted }
  | .trackDirectories => .ok { a with trackDirectories := some wanted }
  | .trackSymlinks => .ok { a with trackSymlinks := some wanted }
  | .config =>
    .ok { a with config := some (if value = "--" then .nothing else .value (Path.ofText value)) }
  | .json => .ok { a with json := true }
  | .ignoreStdin => .ok { a with ignoreStdin := true }
  | .verbose => .ok { a with verbose := a.verbose + 1 }
  | .quiet => .ok { a with quiet := true }

/-- A command line that is taken in part: the arguments so far, whether the directories have been
taken, and the words that mean nothing. -/
structure Progress where
  arguments : Arguments := {}
  hasPaths : Bool := false
  extras : List String := []

namespace Progress

/-- Takes a row of words that are no flags. The first row with a directory in it gives the
directories; a separator in it is left out. -/
def takePlain (p : Progress) (row : List Word) : Progress :=
  let texts := row.filterMap Word.plainText?
  if !p.hasPaths && row.any Word.isOther then
    { p with
      arguments := { p.arguments with paths := (texts.erase "--").map Path.ofText }
      hasPaths := true }
  else { p with extras := p.extras ++ texts }

def finish (p : Progress) : Except Dismissal Arguments :=
  if !p.hasPaths then .error (.misuse .pathsMissing)
  else if !p.extras.isEmpty then .error (.misuse (.unrecognized p.extras))
  else .ok p.arguments

end Progress

def take (fuel : Nat) (p : Progress) (words : List Word) : Except Dismissal Progress :=
  match fuel, words with
  | 0, _ | _, [] => .ok p
  | fuel + 1, .flag f spelling attached :: rest =>
    match usesOf f spelling attached rest with
    | .error m => .error (.misuse m)
    | .ok (uses, rest) => do
      let arguments ← uses.foldlM applyUse p.arguments
      take fuel { p with arguments } rest
  | fuel + 1, .unknown text :: rest => take fuel { p with extras := p.extras ++ [text] } rest
  | fuel + 1, words =>
    let isPlain : Word → Bool := fun w => w.plainText?.isSome
    take fuel (p.takePlain (words.takeWhile isPlain)) (words.dropWhile isPlain)

def Arguments.ofTexts (texts : List String) : Except Dismissal Arguments := do
  match Word.ofTexts texts with
  | .error m => .error (.misuse m)
  | .ok words => (← take (words.length + 1) {} words).finish

/-- The settings with what the command line asks for laid over them. -/
def Arguments.apply (a : Arguments) (s : Settings) : Settings :=
  { s with
    poller := {
      interval := a.interval.getD s.poller.interval
      recursive := a.recursive.getD s.poller.recursive
      trackDirectories := a.trackDirectories.getD s.poller.trackDirectories
      trackSymlinks := a.trackSymlinks.getD s.poller.trackSymlinks }
    logging :=
      if a.quiet then { s.logging with verbose := .int 0 }
      else if a.verbose ≠ 0 then { s.logging with verbose := .int (min 4 (2 + a.verbose : Nat)) }
      else s.logging }

end TreeWatch.Command
