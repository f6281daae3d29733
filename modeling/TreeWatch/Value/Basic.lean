import TreeWatch.Value.Moment
import TreeWatch.Text.Bytes
import TreeWatch.Decimal.Binary

/-!
# Settings values

The values that a settings file can hold. A mapping keeps its entries in the order in which
their keys first came; two keys that are equal as numbers are one key.
-/

namespace TreeWatch

inductive Value where
  | null
  | bool (b : Bool)
  | int (i : Int)
  | float (x : Float)
  /-- The double that is no number, as documents write it. However often it is written, it is one
  key; a double that came to be no number in another way is never the same key as any. -/
  | nan
  | text (s : String)
  /-- A text in which halves of surrogate pairs stand alone, by its code points. -/
  | halves (codes : List Nat)
  | bytes (b : Bytes)
  | date (d : Date)
  | moment (t : Moment)
  | list (items : List Value)
  | map (entries : List (Value × Value))
  | set (members : List Value)
  | tuple (items : List Value)
  /-- A list or a mapping that holds itself, as it is written in a message. -/
  | knot (isMapping : Bool) (written : String)

abbrev Entries := List (Value × Value)

namespace Value

/-- What makes two values one key of a mapping. -/
inductive Key where
  | null
  | nan
  /-- A whole number, of whatever kind. Truth values count as one and zero. -/
  | whole (i : Int)
  /-- A double that is not whole. -/
  | broken (b : Decimal.Binary)
  | text (s : String)
  | halves (codes : List Nat)
  | bytes (b : Bytes)
  | date (d : Date)
  | moment (isPlaced : Bool) (clock : Int)
  deriving DecidableEq

def keyOfFloat? (x : Float) : Option Key :=
  match Decimal.Binary.toInt? x, Decimal.Binary.ofFloat x with
  | some i, _ => some (.whole i)
  | none, .nan => none
  | none, b => some (.broken b)

/-- What a value is as a key, if it can be found again. -/
def key? : Value → Option Key
  | null => some .null
  | nan => some .nan
  | bool b => some (.whole (if b then 1 else 0))
  | int i => some (.whole i)
  | float x => keyOfFloat? x
  | text s => some (.text s)
  | halves codes => some (.halves codes)
  | bytes b => some (.bytes b)
  | date d => some (.date d)
  | moment t => some (.moment t.ahead.isSome t.universalClock)
  | list _ | map _ | set _ | tuple _ | knot _ _ => none

def sameKey (a b : Value) : Bool :=
  match a.key?, b.key? with
  | some k, some l => k = l
  | _, _ => false

/-- A value other than nothing, no, zero and the empty ones. -/
def isTruthy : Value → Bool
  | null => false
  | bool b => b
  | int i => i ≠ 0
  | float x => x != 0
  | text s => s ≠ ""
  | bytes b => b ≠ []
  | date _ | moment _ | nan | halves _ | knot _ _ => true
  | list items | tuple items | set items => !items.isEmpty
  | map entries => !entries.isEmpty

end Value

namespace Entries

def get? (entries : Entries) (key : Value) : Option Value :=
  (entries.find? fun e => e.1.sameKey key).map (·.2)

def getText? (entries : Entries) (key : String) : Option Value :=
  entries.get? (.text key)

/-- Gives a key a value: a key that is there keeps its place and its spelling, a new one comes
last. -/
def put (key value : Value) : Entries → Entries
  | [] => [(key, value)]
  | e :: rest => if e.1.sameKey key then (e.1, value) :: rest else e :: put key value rest

def ofList (pairs : List (Value × Value)) : Entries :=
  pairs.foldl (fun entries (k, v) => entries.put k v) []

end Entries

end TreeWatch
