import TreeWatch.Proofs.Tree.Changing
import TreeWatch.Proofs.Tree.Entrywise
import TreeWatch.Proofs.Tree.Recasting
import Mathlib.Logic.Function.Basic

/-!
# Files under other numbers

The numbers of files tell them apart and nothing else. What is done to a tree is done alike to the
tree in which all files have other numbers, as long as different files keep different ones.
-/

namespace TreeWatch

namespace Node

variable {ρ : Nat → Nat}

def relabel (ρ : Nat → Nat) : Node → Node
  | file a serial content => file a (ρ serial) content
  | directory a entries => directory a (relabelAll ρ entries)
  | n => n
termination_by structural n => n
where
  relabelAll (ρ : Nat → Nat) : List Node → List Node
    | [] => []
    | n :: rest => relabel ρ n :: relabelAll ρ rest
  termination_by structural ns => ns

theorem relabelAll_eq_map (ns : List Node) : relabel.relabelAll ρ ns = ns.map (relabel ρ) := by
  induction ns with
  | nil => rfl
  | cons n rest ih => rw [relabel.relabelAll, ih, List.map_cons]

theorem entrywise_relabel : Entrywise (relabel ρ) where
  name n := by cases n <;> rfl
  faults n := by cases n <;> rfl
  kind n := by cases n <;> rfl
  directory a entries := by rw [relabel, relabelAll_eq_map]

theorem time_relabel (n : Node) : (n.relabel ρ).time = n.time := by
  cases n <;> rfl

theorem faithful_relabel : Faithful (relabel ρ) where
  toKeepsShape := entrywise_relabel.keepsShape
  target? n := by cases n <;> rfl

theorem relabel_withAttributes (f : Attributes → Attributes) (n : Node) :
    (n.withAttributes f).relabel ρ = (n.relabel ρ).withAttributes f := by
  cases n <;> rfl

theorem relabel_put (serial : Nat) (change : Edit) (n? : Option Node) :
    (change.put serial n?).map (relabel ρ) = change.put (ρ serial) (n?.map (relabel ρ)) := by
  cases change with
  | makeDirectory path time | write path content time =>
      cases n? with
      | none => rfl
      | some n => cases n <;> rfl
  | link | special | remove | rename => rfl
  | touch path time | fault path on errno =>
      cases n? with
      | none => rfl
      | some n => exact congrArg some (relabel_withAttributes _ n)

/-- A change gives the new file its number among the others. -/
theorem relabel_apply (serial : Nat) (change : Edit) (root : Node) :
    (change.apply serial root).relabel ρ = change.apply (ρ serial) (root.relabel ρ) := by
  cases change with
  | rename path target =>
      rw [Edit.apply_rename, Edit.apply_rename, entrywise_relabel.keepsShape.at?]
      cases root.at? path with
      | none => rfl
      | some n =>
          have hmoved : (Edit.moved n target).relabel ρ = Edit.moved (n.relabel ρ) target :=
            relabel_withAttributes _ n
          have hleft : (root.alterAt false (fun _ => none) path).relabel ρ =
              (root.relabel ρ).alterAt false (fun _ => none) path :=
            entrywise_relabel.alterAt false (relabel_put serial (.remove path)) path root
          have hadd : ∀ n? : Option Node, (some (Edit.moved n target)).map (relabel ρ) =
              (fun _ => some (Edit.moved (n.relabel ρ) target)) (n?.map (relabel ρ)) :=
            fun _ => congrArg some hmoved
          rw [Option.map_some]
          dsimp only
          rw [← hleft]
          exact entrywise_relabel.alterAt true hadd target _
  | _ =>
      rw [Edit.apply_eq_alterAt serial root (by simp), Edit.apply_eq_alterAt _ _ (by simp)]
      exact entrywise_relabel.alterAt _ (relabel_put serial _) _ root

theorem relabel_appendTo (injective : Function.Injective ρ) (serial : Nat) (bytes : Bytes)
    (time? : Option Int) (n : Node) :
    (n.appendTo serial bytes time?).relabel ρ = (n.relabel ρ).appendTo (ρ serial) bytes time? := by
  induction n using induction_on_entries with
  | step n ih =>
      cases n with
      | link | special => rfl
      | file a s content =>
          by_cases hs : s = serial
          · simp [appendTo, relabel, hs]
          · simp [appendTo, relabel, hs, injective.ne hs]
      | directory a entries =>
          rw [(entrywise_appendTo serial bytes time?).directory, entrywise_relabel.directory,
            entrywise_relabel.directory, (entrywise_appendTo (ρ serial) bytes time?).directory,
            List.map_map, List.map_map]
          exact congrArg (directory a) (List.map_congr_left ih)

end Node

end TreeWatch
