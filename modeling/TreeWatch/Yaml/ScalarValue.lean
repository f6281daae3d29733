import TreeWatch.Yaml.Tag
import TreeWatch.Yaml.Token
import TreeWatch.Value.Basic
import TreeWatch.Text.Blank
import TreeWatch.Text.Base64
import TreeWatch.Decimal.Read

/-!
# Values of scalars

The value that a text stands for under a tag. A text that a tag does not admit is refused.
-/

namespace TreeWatch.Yaml

def refuse {α : Type} (cause : Failure) : Except Problem α :=
  .error (.refused cause)

def boolOfText (text : String) : Except Problem Value :=
  match truthWords.find? (·.1 = Text.lowerAscii text) with
  | some (_, b) => .ok (.bool b)
  | none => refuse .unknownName

def withoutSpacing (text : String) : List Char :=
  text.toList.filter (· ≠ '_')

def wholeIn (base : Nat) (cs : List Char) : Except Problem Int :=
  match Decimal.wholeOfText? base (String.ofList cs) with
  | some n => .ok n
  | none => refuse .malformed

/-- The number that digits without a sign stand for: in base two, eight or sixteen after a mark, in
sixtieths when there are colons, otherwise in base ten. -/
def magnitudeOfChars (cs : List Char) : Except Problem Int :=
  match cs with
  | [] => refuse .emptyNumber
  | ['0'] => .ok 0
  | '0' :: 'b' :: rest => wholeIn 2 rest
  | '0' :: 'x' :: rest => wholeIn 16 rest
  | '0' :: _ => wholeIn 8 cs
  | _ =>
    if cs.contains ':' then do
      let parts ← (splitAt ':' cs).mapM (wholeIn 10)
      .ok (parts.foldl (fun n part => 60 * n + part) 0)
    else wholeIn 10 cs

def intOfText (text : String) : Except Problem Value :=
  let cs := withoutSpacing text
  (magnitudeOfChars (withoutSign cs)).map fun n =>
    .int (if cs.head? = some '-' then -n else n)

def partOfFloat (cs : List Char) : Except Problem Float :=
  match Decimal.ofText? (String.ofList cs) with
  | some x => .ok x
  | none => refuse .malformed

/-- The sum of numbers, the last of them whole and each before it worth sixty times as much. -/
def sixtieths (parts : List Float) : Except Problem Float :=
  (parts.reverse.zipIdx).foldlM (fun sum (part, i) =>
    match Decimal.ofInt? (Nat.pow 60 i) with
    | some unit => .ok (sum + part * unit)
    | none => refuse .tooLarge) 0.0

/-- The double that a text stands for. The word for what is no number has no sign. -/
def floatOfText (text : String) : Except Problem Value :=
  let cs := (Text.lowerAscii (String.ofList (withoutSpacing text))).toList
  let body := withoutSign cs
  let negative := cs.head? = some '-'
  if cs = [] then refuse .emptyNumber
  else if body = ".nan".toList then .ok .nan
  else do
    let x ←
      if body = ".inf".toList then pure (1.0 / 0.0)
      else if body.contains ':' then do
        sixtieths (← (splitAt ':' body).mapM partOfFloat)
      else partOfFloat body
    .ok (.float (if negative then -x else x))

def bytesOfText (text : String) : Except Problem Value :=
  if text.toList.all (·.toNat < 128) then
    match Text.Base64.decode? text.toList with
    | some bytes => .ok (.bytes bytes)
    | none => .error .notDocument
  else .error .notDocument

/-- The microseconds of a fraction; digits beyond the sixth are dropped. -/
def microseconds (fraction : List Char) : Nat :=
  let digits := fraction.take 6
  Decimal.digitsValue digits * Nat.pow 10 (6 - digits.length)

/-- The seconds of a distance from universal time, which is less than a day. -/
def zoneSeconds : Bool × List Char × List Char → Except Problem Int
  | (behind, hours, minutes) =>
    let seconds := Decimal.digitsValue hours * 3600 + Decimal.digitsValue minutes * 60
    if 86400 ≤ seconds then refuse .malformed
    else .ok (if behind then -(seconds : Int) else seconds)

def timeOfText (text : String) : Except Problem Value :=
  match TimeFields.ofChars? (withoutFinalBreak text.toList) with
  | none => refuse .notTime
  | some t =>
    let number := Decimal.digitsValue
    let date : Date := ⟨number t.year, number t.month, number t.day⟩
    match t.clock with
    | none => if date.isValid then .ok (.date date) else refuse .malformed
    | some (hour, minute, second, fraction) => do
      let ahead ← t.zone.mapM zoneSeconds
      let moment : Moment :=
        ⟨date, number hour, number minute, number second, microseconds fraction, ahead⟩
      if moment.isValid then .ok (.moment moment) else refuse .malformed

/-- The value of a text under a tag. A collection is not made of a text. -/
def valueOfText (tag : Tag) (text : String) : Except Problem Value :=
  match tag with
  | .null => .ok .null
  | .bool => boolOfText text
  | .int => intOfText text
  | .float => floatOfText text
  | .binary => bytesOfText text
  | .timestamp => timeOfText text
  | .text => .ok (.text text)
  | _ => .error .notDocument

/-- The value of a text with halves of surrogate pairs, which no other value is written with. -/
def valueOfHalves (tag : Tag) (codes : List Nat) : Except Problem Value :=
  match tag with
  | .null => .ok .null
  | .bool => refuse .unknownName
  | .int | .float => refuse .malformed
  | .timestamp => refuse .notTime
  | .text => .ok (.halves codes)
  | _ => .error .notDocument

def valueOfScalar (tag : Tag) : ScalarText → Except Problem Value
  | .whole text => valueOfText tag text
  | .halves codes => valueOfHalves tag codes

end TreeWatch.Yaml
