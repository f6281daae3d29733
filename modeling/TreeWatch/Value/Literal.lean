import TreeWatch.Value.Basic
import TreeWatch.Text.Quoted
import TreeWatch.Decimal.Shortest

/-!
# Literal text of values

How a value is written in a message, so that a text shows its quotes and its hidden
characters.
-/

namespace TreeWatch.Value

def arguments (parts : List Nat) : String :=
  String.intercalate ", " (parts.map toString)

/-- A distance from universal time, days apart from the seconds of a day. -/
def zoneLiteral (seconds : Int) : String :=
  if seconds = 0 then "datetime.timezone.utc"
  else
    let days := Int.fdiv seconds 86400
    let rest := Int.fmod seconds 86400
    let fields := (if days = 0 then [] else ["days=" ++ toString days]) ++
      (if rest = 0 then [] else ["seconds=" ++ toString rest])
    "datetime.timezone(datetime.timedelta(" ++ String.intercalate ", " fields ++ "))"

/-- A moment; seconds and microseconds that are zero at the end are left out. -/
def momentLiteral (t : Moment) : String :=
  let fine := if t.microsecond ≠ 0 then [t.second, t.microsecond]
    else if t.second ≠ 0 then [t.second] else []
  "datetime.datetime(" ++
    arguments ([t.date.year, t.date.month, t.date.day, t.hour, t.minute] ++ fine) ++
    (match t.ahead with
     | none => ""
     | some seconds => ", tzinfo=" ++ zoneLiteral seconds) ++ ")"

def floatLiteral (x : Float) : String :=
  Decimal.text x

def listLiteral (items : List String) : String :=
  "[" ++ String.intercalate ", " items ++ "]"

def mapLiteral (entries : List String) : String :=
  "\x7b" ++ String.intercalate ", " entries ++ "\x7d"

def setLiteral (members : List String) : String :=
  if members.isEmpty then "set()" else mapLiteral members

def tupleLiteral (items : List String) : String :=
  match items with
  | [one] => "(" ++ one ++ ",)"
  | all => "(" ++ String.intercalate ", " all ++ ")"

mutual

def literal : Value → String
  | null => "None"
  | bool b => if b then "True" else "False"
  | int i => toString i
  | float x => floatLiteral x
  | nan => "nan"
  | text s => Text.quoted s
  | halves codes => Text.quotedCodes codes
  | bytes b => Text.quotedBytes b
  | date d => "datetime.date(" ++ arguments [d.year, d.month, d.day] ++ ")"
  | moment t => momentLiteral t
  | list items => listLiteral (literals items)
  | map entries => mapLiteral (entryLiterals entries)
  | set members => setLiteral (literals members)
  | tuple items => tupleLiteral (literals items)
  | knot _ written => written
termination_by structural v => v

def literals : List Value → List String
  | [] => []
  | v :: rest => literal v :: literals rest
termination_by structural vs => vs

def entryLiterals : List (Value × Value) → List String
  | [] => []
  | (k, v) :: rest => (literal k ++ ": " ++ literal v) :: entryLiterals rest
termination_by structural es => es

end

end TreeWatch.Value
