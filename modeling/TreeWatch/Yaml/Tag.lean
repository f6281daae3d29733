import TreeWatch.Yaml.Cursor

/-!
# Tags

The kinds of nodes, and the kind that a scalar without quotes has by its form.
-/

namespace TreeWatch.Yaml

inductive Tag where
  | null
  | bool
  | int
  | float
  | binary
  | timestamp
  | omap
  | pairs
  | set
  | text
  | sequence
  | mapping
  /-- The key that merges other mappings. -/
  | merge
  /-- The key of the value that stands for a mapping where a scalar is asked for. -/
  | value
  | unknown
  deriving DecidableEq

namespace Tag

def common : String :=
  "tag:yaml.org,2002:"

def names : List (String × Tag) :=
  [("null", null), ("bool", bool), ("int", int), ("float", float), ("binary", binary),
   ("timestamp", timestamp), ("omap", omap), ("pairs", pairs), ("set", set), ("str", text),
   ("seq", sequence), ("map", mapping), ("merge", merge), ("value", value)]

def ofName (name : String) : Tag :=
  ((names.find? fun (short, _) => common ++ short = name).map (·.2)).getD unknown

end Tag

/-- A text without the line feed that may end it. -/
def withoutFinalBreak (cs : List Char) : List Char :=
  if cs.getLast? = some '\n' then cs.dropLast else cs

def withoutSign : List Char → List Char
  | '-' :: rest | '+' :: rest => rest
  | cs => cs

def isSpacedDigit (c : Char) : Bool :=
  c.isDigit || c = '_'

/-- An exponent with its sign, or nothing. -/
def isExponent : List Char → Bool
  | [] => true
  | e :: sign :: digits =>
    (e = 'e' || e = 'E') && (sign = '-' || sign = '+') && !digits.isEmpty && digits.all Char.isDigit
  | _ => false

/-- What follows the sixtieths at a place, each a colon and a number below sixty; none if there
is no sixtieth. -/
def dropSixtieths : List Char → Option (List Char)
  | ':' :: a :: b :: rest =>
    if !a.isDigit then none
    else if b.isDigit then
      if '5' < a then none else some ((dropSixtieths rest).getD rest)
    else some ((dropSixtieths (b :: rest)).getD (b :: rest))
  | [':', a] => if a.isDigit then some [] else none
  | _ => none

/-- A row of digits that may hold underscores, from the first character of a class on. -/
def beginsDigits (first : Char → Bool) (cs : List Char) : Bool :=
  cs.head?.any first

def isIntForm (cs : List Char) : Bool :=
  match withoutSign cs with
  | ['0'] => true
  | '0' :: 'b' :: digits => !digits.isEmpty && digits.all fun c => c = '0' || c = '1' || c = '_'
  | '0' :: 'x' :: digits =>
    !digits.isEmpty && digits.all fun c =>
      isSpacedDigit c || ('a' ≤ c && c ≤ 'f') || ('A' ≤ c && c ≤ 'F')
  | '0' :: digits => !digits.isEmpty && digits.all fun c => ('0' ≤ c && c ≤ '7') || c = '_'
  | digits =>
    beginsDigits Char.isDigit digits &&
      (let rest := digits.dropWhile isSpacedDigit
       rest.isEmpty || dropSixtieths rest = some [])

/-- The form of a number with a point. A number that begins with the point has no sign. -/
def isFloatForm (cs : List Char) : Bool :=
  let body := withoutSign cs
  let word := String.ofList
  if [".inf", ".Inf", ".INF"].contains (word body) then true
  else if [".nan", ".NaN", ".NAN"].contains (word cs) then true
  else if beginsDigits Char.isDigit body then
    match body.dropWhile isSpacedDigit with
    | '.' :: rest => isExponent (rest.dropWhile isSpacedDigit)
    | rest =>
      match dropSixtieths rest with
      | some ('.' :: rest) => rest.all isSpacedDigit
      | _ => false
  else
    match cs with
    | '.' :: rest => beginsDigits Char.isDigit rest && isExponent (rest.dropWhile isSpacedDigit)
    | _ => false

def truthWords : List (String × Bool) :=
  [("yes", true), ("no", false), ("true", true), ("false", false), ("on", true), ("off", false)]

/-- A word in small letters, in capitals or with a capital in front. -/
def isSpelling (word s : String) : Bool :=
  s = word || s = word.toUpper || s = word.capitalize

structure TimeFields where
  year : List Char
  month : List Char
  day : List Char
  /-- Hour, minute, second and fraction. -/
  clock : Option (List Char × List Char × List Char × List Char) := none
  /-- The distance from universal time: whether it is behind, hours and minutes. -/
  zone : Option (Bool × List Char × List Char) := none

namespace TimeFields

def digits? (least most : Nat) (cs : List Char) : Option (List Char × List Char) :=
  let run := (cs.take most).takeWhile Char.isDigit
  if run.length < least then none else some (run, cs.drop run.length)

def after? (c : Char) (cs : List Char) : Option (List Char) :=
  if cs.head? = some c then some cs.tail else none

def zone? (cs : List Char) : Option (Option (Bool × List Char × List Char)) :=
  match cs with
  | [] => some none
  | _ =>
    match cs.dropWhile isBlank with
    | ['Z'] => some (some (false, ['0'], ['0']))
    | sign :: rest =>
      if sign = '-' || sign = '+' then do
        let (hours, rest) ← digits? 1 2 rest
        if rest.isEmpty then some (some (sign = '-', hours, ['0']))
        else
          let (minutes, rest) ← digits? 2 2 (← after? ':' rest)
          if rest.isEmpty then some (some (sign = '-', hours, minutes)) else none
      else none
    | [] => none

/-- What stands between the date and the clock: one letter or blanks. -/
def afterDate? : List Char → Option (List Char)
  | c :: rest =>
    if c = 'T' || c = 't' then some rest
    else if isBlank c then some (rest.dropWhile isBlank)
    else none
  | [] => none

def ofChars? (cs : List Char) : Option TimeFields := do
  let (year, rest) ← digits? 4 4 cs
  let (month, rest) ← digits? 1 2 (← after? '-' rest)
  let (day, rest) ← digits? 1 2 (← after? '-' rest)
  if rest.isEmpty then some { year, month, day }
  else
    let (hour, rest) ← digits? 1 2 (← afterDate? rest)
    let (minute, rest) ← digits? 2 2 (← after? ':' rest)
    let (second, rest) ← digits? 2 2 (← after? ':' rest)
    let (fraction, rest) := match rest with
      | '.' :: rest => (rest.takeWhile Char.isDigit, rest.dropWhile Char.isDigit)
      | rest => ([], rest)
    let zone ← zone? rest
    some { year, month, day, clock := some (hour, minute, second, fraction), zone }

/-- A date alone is known for one only if month and day have two digits. -/
def isPlain (t : TimeFields) : Bool :=
  t.clock.isSome || (t.month.length = 2 && t.day.length = 2)

end TimeFields

/-- The tag of a scalar by its form, a line feed at its end not counted. -/
def Tag.ofForm (text : String) : Tag :=
  let cs := withoutFinalBreak text.toList
  let word := String.ofList cs
  if text = "" then .null
  else if cs = [] then .text
  else if truthWords.any fun (w, _) => isSpelling w word then .bool
  else if isFloatForm cs then .float
  else if isIntForm cs then .int
  else if word = "<<" then .merge
  else if word = "~" || isSpelling "null" word then .null
  else if (TimeFields.ofChars? cs).any (·.isPlain) then .timestamp
  else if word = "=" then .value
  else if word = "!" || word = "&" || word = "*" then .unknown
  else .text

end TreeWatch.Yaml
