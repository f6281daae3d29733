/-!
# Changes

What can happen to an entry between two looks at a directory.
-/

namespace TreeWatch

inductive ChangeKind where
  | created
  | modified
  | deleted
  deriving DecidableEq

namespace ChangeKind

def word : ChangeKind → String
  | created => "created"
  | modified => "modified"
  | deleted => "deleted"

def ofWord? (s : String) : Option ChangeKind :=
  [created, modified, deleted].find? (·.word = s)

theorem ofWord?_word (k : ChangeKind) : ofWord? k.word = some k := by
  cases k <;> simp [ofWord?, word, List.find?]

end ChangeKind

structure Event where
  kind : ChangeKind
  path : String
  deriving DecidableEq

def Event.text (e : Event) : String :=
  e.kind.word ++ " " ++ e.path

end TreeWatch
