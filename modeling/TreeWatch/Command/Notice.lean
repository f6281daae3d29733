import TreeWatch.Watch.Poller
import TreeWatch.Failure
import TreeWatch.Text.Columns
import TreeWatch.Text.Markup

/-!
# Notices

Lines on the terminal that are no records: what is watched, and why nothing can be watched. They are
marked text in which names are escaped; of a long line the blanks at its end are given up first.
-/

namespace TreeWatch.Command

/-- A control character that a terminal would act on. -/
def isControl (c : Char) : Bool :=
  c = '\x07' || c = '\x08' || c = '\x0b' || c = '\x0c' || c = '\r'

/-- The characters of a line with tabs filled up to the next multiple of eight columns; `column`
is the place that the line has come to. -/
def fillTabs (column : Nat) : List Char → List Char
  | [] => []
  | '\t' :: rest =>
    let width := 8 - column % 8
    List.replicate width ' ' ++ fillTabs (column + width) rest
  | c :: rest => c :: fillTabs (column + Text.columnsOf c) rest

/-- The count of characters up to which a line keeps its blanks. -/
def lineLength : Nat :=
  80

/-- A line without blanks at its end, as far as it is too long. -/
def dropExcess (line : List Char) : List Char :=
  let blanks := (line.reverse.takeWhile Text.isBlank).length
  line.take (line.length - min blanks (line.length - lineLength))

def noticeText (marked : String) : String :=
  let visible := (Text.Markup.shown marked).toList.filter (!isControl ·)
  let lines := (String.ofList visible).splitOn "\n"
  String.join (lines.map fun line => String.ofList (dropExcess (fillTabs 0 line.toList)) ++ "\n")

def watchingNotice (p : Poller) : String :=
  noticeText ("[dim]Watching " ++ Text.Markup.escape p.rootText ++ " (" ++
    (if p.spec.scope.recursive then "recursive" else "top level only") ++ ", every " ++
    Decimal.general p.spec.interval ++ "s)[/dim]")

def errorNotice (problem : RootProblem) (root : Path) : String :=
  let message := ((Failure.invalidRoot problem root).message?).getD ""
  noticeText ("[red]Error:[/red] " ++ Text.Markup.escape message)

end TreeWatch.Command
