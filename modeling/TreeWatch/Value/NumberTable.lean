import TreeWatch.Value.Basic

/-!
# The order of numbers in a set

A set keeps its members in a table by their residues, and writes them in the order of their places
there. For numbers the residues are settled, so the order is as well; for other members it means
nothing, and a set that holds any is written in the order in which they came.
-/

namespace TreeWatch.NumberTable

/-- The prime number below which the residues of numbers lie. -/
def modulus : Nat :=
  Nat.pow 2 61 - 1

def infiniteResidue : Nat :=
  314159

/-- A residue with a sign, as a word of the machine. Minus one is kept for something else. -/
def signed (negative : Bool) (residue : Nat) : UInt64 :=
  if !negative then UInt64.ofNat residue
  else if residue = 1 then 0 - 2
  else 0 - UInt64.ofNat residue

/-- The residue of a number. Equal numbers have the same one, and the half has that of the power of
two that gives one when doubled. -/
def residue? : Value → Option UInt64
  | .bool b => some (if b then 1 else 0)
  | .int i => some (signed (i < 0) (i.natAbs % modulus))
  | .float x =>
    match Decimal.Binary.ofFloat x with
    | .nan => none
    | .infinite negative => some (signed negative infiniteResidue)
    | .finite negative m q =>
      some (signed negative (m * Nat.pow 2 (q % 61).toNat % modulus))
  | _ => none

abbrev Table (α : Type) := Array (Option α)

/-- The count of places that are tried in a row before the search jumps. -/
def rowLength : Nat :=
  9

/-- The least count of places that is a power of two, at least eight, and greater than a number. -/
def roomFor (least : Nat) : Nat → Nat → Nat
  | 0, size => size
  | fuel + 1, size => if size ≤ least then roomFor least fuel (2 * size) else size

def sizeFor (count : Nat) : Nat :=
  if 5 * count < 21 then 8 else roomFor (2 * count) 64 8

def freeInRow {α : Type} (table : Table α) (start : Nat) : Option Nat :=
  let last := if start + rowLength < table.size then rowLength else 0
  ((List.range (last + 1)).map (start + ·)).find? fun place => (table.getD place none).isNone

def freePlace {α : Type} (table : Table α) : Nat → Nat → UInt64 → Option Nat
  | 0, _, _ => none
  | fuel + 1, start, rest =>
    match freeInRow table start with
    | some place => some place
    | none =>
      let rest := rest >>> 5
      freePlace table fuel ((start * 5 + 1 + rest.toNat) % table.size) rest

def insert {α : Type} (table : Table α) (member : α) (residue : UInt64) : Table α :=
  match freePlace table (16 * table.size + 16) (residue.toNat % table.size) residue with
  | some place => table.setIfInBounds place (some member)
  | none => table

/-- Members in the order of the places that their residues lead to. -/
def arrange {α : Type} (members : List (α × UInt64)) : List α :=
  let empty : Table α := Array.replicate (sizeFor members.length) none
  let table := members.foldl (fun table (member, residue) => insert table member residue) empty
  table.toList.filterMap id

def order {α : Type} (valueOf : α → Value) (members : List α) : List α :=
  match members.mapM fun member => (residue? (valueOf member)).map (member, ·) with
  | some members => arrange members
  | none => members

end TreeWatch.NumberTable
