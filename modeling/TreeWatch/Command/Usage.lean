import TreeWatch.Command.Flag
import TreeWatch.Decimal.Read
import TreeWatch.Text.Wrap

/-!
# Usage and help

What is said of the command line, in lines that leave two columns of the terminal free.
-/

namespace TreeWatch.Command

def programName : String :=
  "dirpoll"

/-- The count of columns of a terminal that is set somewhere; eighty unless that is a positive
number. -/
def columnsOf (setting : Option String) : Nat :=
  match setting.bind (Decimal.wholeOfText? 10) with
  | some n => if 0 < n then n.toNat else 80
  | none => 80

def textWidth (columns : Nat) : Int :=
  (columns : Int) - 2

/-- The count of columns that are left for a text behind others, however narrow the terminal is. -/
def widthBehind (columns : Nat) (before : Nat) : Nat :=
  (max (textWidth columns - before) 11).toNat

def endedLines (lines : List String) : String :=
  String.join (lines.map (· ++ "\n"))

def versionText (columns : Nat) : String :=
  endedLines (Text.wrap (widthBehind columns 0) (programName ++ " 0.1.0"))

def spaces (n : Nat) : String :=
  String.ofList (List.replicate n ' ')

/-- A flag in the short account: a switch with both its spellings, another one with its first. -/
def Flag.usage (f : Flag) : String :=
  let written := match f.valueName? with
    | some name => (f.spellings.headD "") ++ " " ++ name
    | none => if f.isSwitch then String.intercalate " | " f.spellings else f.spellings.headD ""
  "[" ++ written ++ "]"

def pathUsage : List String :=
  ["PATH", "[PATH ...]"]

/-- Parts in rows, each part with a space before it. A row ends where the next part would pass the
width; `used` columns of the row are taken and the next rows begin behind `indent`. -/
def partRows (width : Int) (indent : Nat) : Int → List String → List String → List (List String)
  | _, row, [] => if row.isEmpty then [] else [row]
  | used, row, part :: parts =>
    if width < used + 1 + part.length && !row.isEmpty then
      row :: partRows width indent (indent + part.length) [part] parts
    else partRows width indent (used + 1 + part.length) (row ++ [part]) parts

def indentedRows (indent : Nat) (rows : List (List String)) : List String :=
  rows.map fun row => spaces indent ++ String.intercalate " " row

def usageTitle : String :=
  "usage: "

/-- The lines of the short account behind its title, where one line is not enough. The directories
begin a line of their own, and so does everything behind the name of the program if that takes too
much of the width. -/
def usageLines (width : Int) : List String :=
  let options := Flag.all.map Flag.usage
  let titled := usageTitle.length
  if 4 * ((titled + programName.length : Nat) : Int) ≤ 3 * width then
    let indent := titled + programName.length + 1
    match partRows width indent ((titled : Int) - 1) [] (programName :: options) with
    | [] => []
    | first :: rows =>
      String.intercalate " " first ::
        indentedRows indent (rows ++ partRows width indent ((indent : Int) - 1) [] pathUsage)
  else
    let rows := partRows width titled ((titled : Int) - 1) []
    let together := rows (options ++ pathUsage)
    programName :: indentedRows titled
      (if together.length ≤ 1 then together else rows options ++ rows pathUsage)

def usageText (columns : Nat) : String :=
  let width := textWidth columns
  let line :=
    String.intercalate " " (programName :: Flag.all.map Flag.usage ++ pathUsage)
  if ((usageTitle ++ line).length : Int) ≤ width then usageTitle ++ line ++ "\n"
  else usageTitle ++ endedLines (usageLines width)

def descriptionColumn (columns : Nat) : Nat :=
  min 24 (max (textWidth columns - 20) 4).toNat

/-- An entry of the help: what is written and what it means. The meaning begins on a line of its
own if there is no room for it. -/
def helpEntry (columns : Nat) (written description : String) : String :=
  let column := descriptionColumn columns
  let lines := Text.wrap (widthBehind columns column) description
  let head := "  " ++ written
  let indented := lines.map (spaces column ++ ·)
  endedLines <|
    if head.length + 2 ≤ column then
      match lines with
      | [] => [head]
      | line :: _ => (head ++ spaces (column - head.length) ++ line) :: indented.tail
    else head :: indented

def Flag.written (f : Flag) : String :=
  String.intercalate ", " (f.spellings.map fun s =>
    match f.valueName? with
    | some name => s ++ " " ++ name
    | none => s)

def helpText (columns : Nat) : String :=
  let purpose := "Watch directories and print one line per created, modified or deleted file"
  usageText columns ++ "\n" ++ endedLines (Text.wrap (widthBehind columns 0) purpose) ++
  "\npositional arguments:\n" ++
  helpEntry columns "PATH" "Directory to watch (repeat to watch several)" ++
  "\noptions:\n" ++
  String.join (Flag.all.map fun f => helpEntry columns f.written f.description)

end TreeWatch.Command
