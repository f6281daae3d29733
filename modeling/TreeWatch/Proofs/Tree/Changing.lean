import TreeWatch.Tree.Edit
import Mathlib.Data.List.Infix

/-!
# What changes leave alone

A change at a path concerns what stands there, what is below it and what is on the way to it. Every
other path leads to the same node as before.
-/

namespace TreeWatch.Node

/-- What is put in the place of an entry has the name of the entry. -/
def KeepsName (name : String) (f : Option Node → Option Node) : Prop :=
  ∀ n? : Option Node, (∀ n ∈ n?, n.name = name) → ∀ m ∈ f n?, m.name = name

variable {make : Bool} {name : String} {f : Option Node → Option Node}

/-! ## Entries -/

theorem find?_alterEntry_of_ne (keeps : KeepsName name f) {x : String} (h : x ≠ name)
    (ns : List Node) : (alterEntry name f ns).find? (·.name = x) = ns.find? (·.name = x) := by
  have hput : ∀ n? : Option Node, (∀ n ∈ n?, n.name = name) →
      (f n?).toList.find? (·.name = x) = none := by
    intro n? hn?
    refine List.find?_eq_none.mpr fun m hm => ?_
    have hname : m.name = name := keeps n? hn? m (Option.mem_toList.mp hm)
    simpa [hname] using Ne.symm h
  induction ns with
  | nil => exact hput none (by simp)
  | cons n rest ih =>
      rw [alterEntry]
      by_cases hname : n.name = name
      · have hne : ¬n.name = x := fun heq => h (heq.symm.trans hname)
        rw [if_pos hname, List.find?_append, hput (some n) (by simpa using hname), Option.none_or,
          List.find?_cons_of_neg (by simpa using hne)]
      · rw [if_neg hname, List.find?_cons, List.find?_cons, ih]

theorem find?_alterEntry_self (keeps : KeepsName name f) (kept : ∀ n, f (some n) ≠ none)
    (ns : List Node) :
    (alterEntry name f ns).find? (·.name = name) = f (ns.find? (·.name = name)) := by
  have hput : ∀ n? : Option Node, (∀ n ∈ n?, n.name = name) →
      (f n?).toList.find? (·.name = name) = f n? := by
    intro n? hn?
    cases hm : f n? with
    | none => rfl
    | some m => simp [keeps n? hn? m hm]
  induction ns with
  | nil => exact hput none (by simp)
  | cons n rest ih =>
      rw [alterEntry]
      by_cases hname : n.name = name
      · rw [if_pos hname, List.find?_append, hput (some n) (by simpa using hname),
          Option.or_of_isSome (Option.isSome_iff_ne_none.mpr (kept n)),
          List.find?_cons_of_pos (by simpa using hname)]
      · rw [if_neg hname, List.find?_cons_of_neg (by simpa using hname),
          List.find?_cons_of_neg (by simpa using hname), ih]

theorem filter_alterEntry_of_ne (keeps : KeepsName name f) {x : String} (h : x ≠ name)
    (ns : List Node) : (alterEntry name f ns).filter (·.name = x) = ns.filter (·.name = x) := by
  have hput : ∀ n? : Option Node, (∀ n ∈ n?, n.name = name) →
      (f n?).toList.filter (·.name = x) = [] := by
    intro n? hn?
    refine List.filter_eq_nil_iff.mpr fun m hm => ?_
    have hname : m.name = name := keeps n? hn? m (Option.mem_toList.mp hm)
    simpa [hname] using Ne.symm h
  induction ns with
  | nil => exact hput none (by simp)
  | cons n rest ih =>
      rw [alterEntry]
      by_cases hname : n.name = name
      · have hne : ¬n.name = x := fun heq => h (heq.symm.trans hname)
        rw [if_pos hname, List.filter_append, hput (some n) (by simpa using hname),
          List.filter_cons_of_neg (by simpa using hne), List.nil_append]
      · rw [if_neg hname, List.filter_cons, List.filter_cons, ih]

/-- Of the entries of one name only the first counts. -/
theorem filter_alterEntry_self (keeps : KeepsName name f) (ns : List Node) :
    (alterEntry name f ns).filter (·.name = name) =
      alterEntry name f (ns.filter (·.name = name)) := by
  have hput : ∀ n? : Option Node, (∀ n ∈ n?, n.name = name) →
      (f n?).toList.filter (·.name = name) = (f n?).toList := by
    intro n? hn?
    refine List.filter_eq_self.mpr fun m hm => ?_
    simpa using keeps n? hn? m (Option.mem_toList.mp hm)
  induction ns with
  | nil => exact hput none (by simp)
  | cons n rest ih =>
      rw [alterEntry]
      by_cases hname : n.name = name
      · rw [if_pos hname, List.filter_append, hput (some n) (by simpa using hname),
          List.filter_cons_of_pos (by simpa using hname), alterEntry, if_pos hname]
      · rw [if_neg hname, List.filter_cons_of_neg (by simpa using hname),
          List.filter_cons_of_neg (by simpa using hname), ih]

/-! ## Paths -/

theorem attributes_alterAt {path : List String} (below : path ≠ []) (n : Node) :
    (alterAt make f path n).attributes = n.attributes := by
  cases path with
  | nil => exact absurd rfl below
  | cons name rest => cases n <;> cases rest <;> rfl

theorem keepsName_alterAt {path : List String} (below : path ≠ []) :
    KeepsName name fun
      | some n => some (alterAt make f path n)
      | none => if make then some (alterAt make f path (emptyDirectory name)) else none := by
  rintro (_ | n) hn m hm
  · by_cases hmake : make = true
    · obtain rfl : _ = m := by simpa [hmake] using hm
      exact congrArg Attributes.name (attributes_alterAt below _)
    · simp [hmake] at hm
  · obtain rfl : _ = m := by simpa using hm
    exact (congrArg Attributes.name (attributes_alterAt below n)).trans (hn n rfl)

/-- A path that neither leads on from that of a change nor on to it leads to the same node as
before. -/
theorem at?_alterAt_of_apart {path names : List String} (keeps : KeepsName (Edit.lastName path) f)
    (behind : ¬path <+: names) (before : ¬names <+: path) (n : Node) :
    (alterAt make f path n).at? names = n.at? names := by
  induction path generalizing names n with
  | nil => exact absurd List.nil_prefix behind
  | cons name rest ih =>
      cases names with
      | nil => exact absurd List.nil_prefix before
      | cons x xs =>
          cases n with
          | file | link | special => cases rest <;> rfl
          | directory a entries =>
              cases rest with
              | nil =>
                  have hne : x ≠ name := by
                    rintro rfl
                    exact behind (by simp)
                  rw [alterAt, at?, at?, child?, child?]
                  exact congrArg (Option.bind · _) (find?_alterEntry_of_ne keeps hne entries)
              | cons next more =>
                  have hkeeps := @keepsName_alterAt make name f _ (List.cons_ne_nil next more)
                  simp only [alterAt, at?, child?, Node.entries]
                  by_cases hx : x = name
                  · subst hx
                    have hbehind : ¬next :: more <+: xs := fun h => behind (by simpa using h)
                    have hbefore : ¬xs <+: next :: more := fun h => before (by simpa using h)
                    have hentry := find?_alterEntry_self hkeeps (by simp) entries
                    refine (congrArg (Option.bind · _) hentry).trans ?_
                    cases entries.find? (·.name = x) with
                    | some k => exact ih keeps hbehind hbefore k
                    | none =>
                        have hxs : xs ≠ [] := by
                          rintro rfl
                          exact hbefore List.nil_prefix
                        by_cases hmake : make = true
                        · rw [if_pos hmake]
                          refine (ih keeps hbehind hbefore (emptyDirectory x)).trans ?_
                          obtain ⟨y, ys, rfl⟩ := List.exists_cons_of_ne_nil hxs
                          rfl
                        · rw [if_neg hmake]
                  · exact congrArg (Option.bind · _) (find?_alterEntry_of_ne hkeeps hx entries)

end TreeWatch.Node

namespace TreeWatch.Edit

/-! ## Changes by what they put -/

/-- What a change other than a renaming puts in the place of the node at its path. -/
def put (serial : Nat) : Edit → Option Node → Option Node
  | makeDirectory path time => fun
    | some (.directory a entries) => some (.directory { a with time } entries)
    | some n => some n
    | none => some (.directory { name := lastName path, time } [])
  | write path content time => fun
    | some (.file a s _) => some (.file { a with time } s content)
    | some (.directory a entries) => some (.directory a entries)
    | _ => some (.file { name := lastName path, time } serial content)
  | link path target time => fun _ => some (.link { name := lastName path, time } target)
  | special path kind time => fun _ => some (.special { name := lastName path, time } kind)
  | remove _ | rename _ _ => fun _ => none
  | touch _ time => Option.map (·.withAttributes fun a => { a with time })
  | fault _ on errno =>
    Option.map (·.withAttributes fun a => { a with faults := a.faults.set on errno })

/-- The path of a change; that of a renaming is the one that is left. -/
def path : Edit → List String
  | makeDirectory path _ | write path _ _ | link path _ _ | special path _ _ | remove path
  | rename path _ | touch path _ | fault path _ _ => path

def makes : Edit → Bool
  | makeDirectory _ _ | write _ _ _ | link _ _ _ | special _ _ _ => true
  | remove _ | rename _ _ | touch _ _ | fault _ _ _ => false

def moved (n : Node) (target : List String) : Node :=
  n.withAttributes fun a => { a with name := lastName target }

theorem apply_eq_alterAt (serial : Nat) (root : Node) {change : Edit}
    (h : ∀ path target, change ≠ rename path target) :
    change.apply serial root = root.alterAt change.makes (change.put serial) change.path := by
  cases change with
  | rename path target => exact absurd rfl (h path target)
  | _ => rfl

theorem apply_rename (serial : Nat) (root : Node) (path target : List String) :
    (rename path target).apply serial root =
      match root.at? path with
      | none => root
      | some n =>
        (root.alterAt false (fun _ => none) path).alterAt true (fun _ => some (moved n target))
          target :=
  rfl

theorem keepsName_put (serial : Nat) (change : Edit) :
    Node.KeepsName (lastName change.path) (change.put serial) := by
  intro n? hn? m hm
  cases change with
  | makeDirectory path time | write path content time =>
      cases n? with
      | none =>
          obtain rfl := Option.mem_some.mp hm
          rfl
      | some n =>
          have hname := hn? n rfl
          cases n <;>
          · obtain rfl := Option.mem_some.mp hm
            first | exact hname | rfl
  | link path target time | special path kind time =>
      obtain rfl := Option.mem_some.mp hm
      rfl
  | remove path | rename path target => simp [put] at hm
  | touch path time | fault path on errno =>
      obtain ⟨n, hn, rfl⟩ := Option.map_eq_some_iff.mp hm
      rw [Node.name, Node.attributes_withAttributes]
      exact hn? n hn

theorem keepsName_moved (n : Node) (target : List String) :
    Node.KeepsName (lastName target) fun _ => some (moved n target) := by
  intro _ _ m hm
  obtain rfl := Option.mem_some.mp hm
  rw [moved, Node.name, Node.attributes_withAttributes]

end TreeWatch.Edit
