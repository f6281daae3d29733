import TreeWatch.Proofs.Tree.Arranging
import TreeWatch.Proofs.Tree.Ways

/-!
# Trees with proper names

In a tree whose directories never hold two entries of one name, and no name with a slash, changes at
proper paths leave it so, and so does what is added to files.
-/

namespace TreeWatch

def IsPart (s : String) : Prop :=
  '/' ∉ s.toList

instance (s : String) : Decidable (IsPart s) :=
  inferInstanceAs (Decidable (_ ∉ _))

theorem IsName.isPart {s : String} (h : IsName s) : IsPart s :=
  h.2.2

namespace Node

mutual

/-- A tree in whose directories the names differ and are parts of paths. -/
def Orderly : Node → Prop
  | directory _ entries => (entries.map name).Nodup ∧ AllOrderly entries
  | file _ _ _ | link _ _ | special _ _ => True
termination_by structural n => n

def AllOrderly : List Node → Prop
  | [] => True
  | n :: rest => IsPart n.name ∧ Orderly n ∧ AllOrderly rest
termination_by structural ns => ns

end

theorem allOrderly_iff {ns : List Node} : AllOrderly ns ↔ ∀ n ∈ ns, IsPart n.name ∧ n.Orderly := by
  induction ns with
  | nil => simp [AllOrderly]
  | cons n rest ih => simp [AllOrderly, ih, and_assoc]

theorem orderly_iff {n : Node} :
    n.Orderly ↔ (n.entries.map name).Nodup ∧ ∀ m ∈ n.entries, IsPart m.name ∧ m.Orderly := by
  cases n <;> simp [Orderly, entries, allOrderly_iff]

theorem WellFormed.orderly {n : Node} (h : n.WellFormed) : n.Orderly := by
  induction n using induction_on_entries with
  | step n ih =>
      exact orderly_iff.mpr
        ⟨h.names_nodup, fun m hm => ⟨(h.isName hm).isPart, ih m hm (h.of_mem hm)⟩⟩

theorem Orderly.names_nodup {n : Node} (h : n.Orderly) : (n.entries.map name).Nodup :=
  (orderly_iff.mp h).1

theorem Orderly.isPart {n m : Node} (h : n.Orderly) (hm : m ∈ n.entries) : IsPart m.name :=
  ((orderly_iff.mp h).2 m hm).1

theorem Orderly.of_mem {n m : Node} (h : n.Orderly) (hm : m ∈ n.entries) : m.Orderly :=
  ((orderly_iff.mp h).2 m hm).2

theorem Orderly.at? {n m : Node} (h : n.Orderly) {names : List String}
    (found : n.at? names = some m) : m.Orderly ∧ ∀ name ∈ names, IsPart name := by
  induction names generalizing n with
  | nil =>
      obtain rfl : n = m := Option.some.inj found
      exact ⟨h, by simp⟩
  | cons name rest ih =>
      obtain ⟨k, hk, hkm⟩ := Option.bind_eq_some_iff.mp found
      have hentry : n.entries.find? (·.name = name) = some k := hk
      have hmem : k ∈ n.entries := List.mem_of_find?_eq_some hentry
      have hname : k.name = name := by simpa using List.find?_some hentry
      obtain ⟨hm, hrest⟩ := ih (h.of_mem hmem) hkm
      exact ⟨hm, List.forall_mem_cons.mpr ⟨hname ▸ h.isPart hmem, hrest⟩⟩

/-! ## Changes -/

variable {make : Bool} {name : String} {f : Option Node → Option Node}

theorem mem_alterEntry {m : Node} {ns : List Node} (h : m ∈ alterEntry name f ns) :
    m ∈ ns ∨ ∃ n? : Option Node, (∀ n ∈ n?, n ∈ ns ∧ n.name = name) ∧ m ∈ f n? := by
  induction ns with
  | nil => exact .inr ⟨none, by simp, Option.mem_toList.mp h⟩
  | cons n rest ih =>
      rw [alterEntry] at h
      by_cases hname : n.name = name
      · rw [if_pos hname] at h
        rcases List.mem_append.mp h with hput | hrest
        · exact .inr ⟨some n, by simpa using hname, Option.mem_toList.mp hput⟩
        · exact .inl (List.mem_cons_of_mem n hrest)
      · rw [if_neg hname] at h
        rcases List.mem_cons.mp h with rfl | hrest
        · exact .inl List.mem_cons_self
        · rcases ih hrest with hmem | ⟨n?, hn?, hm⟩
          · exact .inl (List.mem_cons_of_mem n hmem)
          · exact .inr ⟨n?, fun k hk => ⟨List.mem_cons_of_mem n (hn? k hk).1, (hn? k hk).2⟩, hm⟩

theorem nodup_names_alterEntry (keeps : KeepsName name f) {ns : List Node}
    (h : (ns.map Node.name).Nodup) : ((alterEntry name f ns).map Node.name).Nodup := by
  induction ns with
  | nil => rw [alterEntry]; cases f none <;> simp
  | cons n rest ih =>
      rw [List.map_cons, List.nodup_cons] at h
      rw [alterEntry]
      by_cases hname : n.name = name
      · rw [if_pos hname]
        cases hput : f (some n) with
        | none => exact h.2
        | some m =>
            have hm : m.name = n.name := by
              rw [keeps (some n) (by simpa using hname) m hput, hname]
            simpa [hm] using h
      · rw [if_neg hname, List.map_cons, List.nodup_cons]
        refine ⟨?_, ih h.2⟩
        intro hmem
        obtain ⟨m, hm, hmn⟩ := List.mem_map.mp hmem
        rcases mem_alterEntry hm with hrest | ⟨n?, hn?, hput⟩
        · exact h.1 (hmn ▸ List.mem_map_of_mem hrest)
        · exact hname (hmn ▸ keeps n? (fun k hk => (hn? k hk).2) m hput)

/-- What is put in the place of orderly trees is one. -/
def PutsOrderly (f : Option Node → Option Node) : Prop :=
  ∀ n? : Option Node, (∀ n ∈ n?, n.Orderly) → ∀ m ∈ f n?, m.Orderly

theorem orderly_alterEntry {a : Attributes} {ns : List Node} (part : IsPart name)
    (keeps : KeepsName name f) (puts : PutsOrderly f) (h : (directory a ns).Orderly) :
    (directory a (alterEntry name f ns)).Orderly := by
  refine orderly_iff.mpr ⟨nodup_names_alterEntry keeps h.names_nodup, fun m hm => ?_⟩
  rcases mem_alterEntry hm with hmem | ⟨n?, hn?, hput⟩
  · exact ⟨h.isPart hmem, h.of_mem hmem⟩
  · have hname : m.name = name := keeps n? (fun k hk => (hn? k hk).2) m hput
    exact ⟨hname ▸ part, puts n? (fun k hk => h.of_mem (hn? k hk).1) m hput⟩

theorem orderly_alterAt {path : List String} (parts : ∀ part ∈ path, IsPart part)
    (keeps : KeepsName (Edit.lastName path) f) (puts : PutsOrderly f) {n : Node}
    (h : n.Orderly) : (alterAt make f path n).Orderly := by
  induction path generalizing n with
  | nil =>
      rw [alterAt]
      cases hput : f (some n) with
      | none => exact h
      | some m => exact puts (some n) (by simpa using h) m hput
  | cons name rest ih =>
      obtain ⟨hpart, hparts⟩ := List.forall_mem_cons.mp parts
      cases n with
      | file | link | special => cases rest <;> exact h
      | directory a entries =>
          cases rest with
          | nil => exact orderly_alterEntry hpart keeps puts h
          | cons next more =>
              simp only [alterAt]
              refine orderly_alterEntry hpart (keepsName_alterAt (List.cons_ne_nil next more)) ?_ h
              rintro (_ | k) hk m hm
              · cases make with
                | false => simp at hm
                | true =>
                    have hempty : (emptyDirectory name).Orderly := by
                      simp [emptyDirectory, Orderly, AllOrderly]
                    obtain rfl := Option.mem_some.mp hm
                    exact ih hparts keeps hempty
              · obtain rfl := Option.mem_some.mp hm
                exact ih hparts keeps (hk k rfl)

theorem Orderly.withAttributes {n : Node} (h : n.Orderly) (f : Attributes → Attributes) :
    (n.withAttributes f).Orderly := by
  cases n <;> exact h

theorem Entrywise.orderly_iff {h : Node → Node} (entrywise : Entrywise h) (n : Node) :
    (h n).Orderly ↔ n.Orderly := by
  induction n using induction_on_entries with
  | step n ih =>
      have hnames : (n.entries.map h).map Node.name = n.entries.map Node.name := by
        rw [List.map_map]
        exact List.map_congr_left fun m _ => entrywise.name m
      rw [Node.orderly_iff, Node.orderly_iff, entrywise.entries, hnames, List.forall_mem_map]
      refine and_congr_right fun _ => forall₂_congr fun m hm => ?_
      rw [entrywise.name, ih m hm]

end Node

namespace Edit

def IsProper : Edit → Prop
  | rename path target => (∀ part ∈ path, IsPart part) ∧ ∀ part ∈ target, IsPart part
  | change => ∀ part ∈ change.path, IsPart part

instance (change : Edit) : Decidable change.IsProper := by
  cases change <;> unfold IsProper <;> infer_instance

theorem putsOrderly_put (serial : Nat) (change : Edit) : Node.PutsOrderly (change.put serial) := by
  intro n? hn? m hm
  cases change with
  | makeDirectory path time | write path content time =>
      cases n? with
      | none =>
          obtain rfl := Option.mem_some.mp hm
          simp [Node.Orderly, Node.AllOrderly]
      | some n =>
          have hn := hn? n rfl
          cases n <;>
          · obtain rfl := Option.mem_some.mp hm
            exact hn
  | link path target time | special path kind time =>
      obtain rfl := Option.mem_some.mp hm
      trivial
  | remove path | rename path target => simp [put] at hm
  | touch path time | fault path on errno =>
      obtain ⟨n, hn, rfl⟩ := Option.map_eq_some_iff.mp hm
      exact (hn? n hn).withAttributes _

/-- Changes at proper paths leave a tree orderly. -/
theorem orderly_apply {change : Edit} (proper : change.IsProper) (serial : Nat) {root : Node}
    (h : root.Orderly) : (change.apply serial root).Orderly := by
  cases change with
  | rename path target =>
      rw [apply_rename]
      cases hn : root.at? path with
      | none => exact h
      | some n =>
          have hleft : (root.alterAt false (fun _ => none) path).Orderly :=
            Node.orderly_alterAt proper.1 (keepsName_put serial (.remove path))
              (putsOrderly_put serial (.remove path)) h
          refine Node.orderly_alterAt proper.2 (keepsName_moved n target) ?_ hleft
          intro _ _ m hm
          obtain rfl := Option.mem_some.mp hm
          exact (h.at? hn).1.withAttributes _
  | _ =>
      rw [apply_eq_alterAt serial root (by simp)]
      exact Node.orderly_alterAt proper (keepsName_put serial _) (putsOrderly_put serial _) h

end Edit

/-! ## Paths that are written -/

theorem not_mem_of_mem_splitAt {separator : Char} {cs piece : List Char}
    (h : piece ∈ splitAt separator cs) : separator ∉ piece := by
  induction cs generalizing piece with
  | nil =>
      obtain rfl : piece = [] := by simpa [splitAt] using h
      simp
  | cons c cs ih =>
      rw [splitAt] at h
      by_cases hc : c = separator
      · rw [if_pos hc] at h
        rcases List.mem_cons.mp h with rfl | hmem
        · simp
        · exact ih hmem
      · rw [if_neg hc] at h
        cases hpieces : splitAt separator cs with
        | nil =>
            rw [hpieces] at h
            obtain rfl : piece = [c] := by simpa using h
            simpa using Ne.symm hc
        | cons first others =>
            rw [hpieces] at h ih
            rcases List.mem_cons.mp h with rfl | hmem
            · have hfirst := ih List.mem_cons_self
              simp [Ne.symm hc, hfirst]
            · exact ih (List.mem_cons_of_mem first hmem)

theorem isPart_of_mem_splitAt {text part : String}
    (h : part ∈ (splitAt '/' text.toList).map String.ofList) : IsPart part := by
  obtain ⟨piece, hpiece, rfl⟩ := List.mem_map.mp h
  rw [IsPart, String.toList_ofList]
  exact not_mem_of_mem_splitAt hpiece

namespace Path

def IsProper (p : Path) : Prop :=
  ∀ part ∈ p.parts, IsPart part

theorem isProper_ofText (text : String) : (ofText text).IsProper :=
  fun _ hpart => isPart_of_mem_splitAt (List.mem_filter.mp hpart).1

theorem IsProper.join {p q : Path} (h : p.IsProper) (h' : q.IsProper) : (p.join q).IsProper := by
  unfold Path.join
  split
  · exact h'
  · intro part hpart
    exact (List.mem_append.mp hpart).elim (h part) (h' part)

theorem IsProper.normal {p : Path} (h : p.IsProper) : p.normal.IsProper := by
  have general : ∀ parts kept : List String, (∀ part ∈ parts, IsPart part) →
      (∀ part ∈ kept, IsPart part) → ∀ part ∈ parts.foldl
        (fun kept part => if part = ".." then kept.dropLast else kept ++ [part]) kept,
          IsPart part := by
    intro parts
    induction parts with
    | nil => exact fun kept _ hkept => hkept
    | cons first rest ih =>
        intro kept hparts hkept
        obtain ⟨hfirst, hrest⟩ := List.forall_mem_cons.mp hparts
        refine ih _ hrest ?_
        dsimp only
        split
        · exact fun part hpart => hkept part (List.dropLast_subset kept hpart)
        · intro part hpart
          rcases List.mem_append.mp hpart with hmem | hmem
          · exact hkept part hmem
          · rwa [List.mem_singleton.mp hmem]
  exact general p.parts [] h (by simp)

theorem IsProper.lastName {p : Path} (h : p.IsProper) : IsPart (Edit.lastName p.parts) := by
  unfold Edit.lastName
  cases hparts : p.parts.getLast? with
  | none =>
      rw [List.getLast?_eq_none_iff.mp hparts]
      decide
  | some part =>
      have hlast : p.parts.getLastD "" = part := by
        rw [List.getLastD_eq_getLast?, hparts, Option.getD_some]
      rw [hlast]
      exact h part (List.mem_of_getLast? hparts)

end Path

namespace World

/-- A world in which every part of a path is one. -/
structure Orderly (w : World) : Prop where
  root : w.root.Orderly
  directory : ∀ part ∈ w.directory, IsPart part

variable {w v : World}

theorem Orderly.edit (h : w.Orderly) {change : Edit} (proper : change.IsProper) :
    (w.edit change).Orderly :=
  ⟨Edit.orderly_apply proper w.nextSerial h.root, h.directory⟩

theorem Orderly.creationPlace (h : w.Orderly) {links : Nat} {here : List String} {p : Path}
    (proper : p.IsProper) {names : List String}
    (found : w.creationPlace links here p = .ok names) : ∀ name ∈ names, IsPart name := by
  induction links generalizing here p with
  | zero => simp [World.creationPlace] at found
  | succ links ih =>
      unfold World.creationPlace at found
      cases hfind : Lookup.find w.root here ⟨p.lead, p.parts.dropLast⟩ with
      | error e => simp [hfind, bind, Except.bind] at found
      | ok place =>
          simp only [hfind, bind, Except.bind] at found
          split at found
          · simp at found
          · split at found
            · next a target _ => exact ih (Path.isProper_ofText target) found
            · obtain rfl := Except.ok.inj found
              intro name hname
              rcases List.mem_append.mp hname with hmem | hmem
              · exact (h.root.at? (Lookup.at?_of_find hfind)).2 name hmem
              · rw [List.mem_singleton.mp hmem]
                exact proper.lastName

theorem Orderly.openAppend (h : w.Orderly) {p : Path} (proper : p.IsProper) {serial : Nat}
    (opened : w.openAppend p = .ok (serial, v)) : v.Orderly := by
  unfold World.openAppend at opened
  split at opened
  · cases opened
    exact h
  · cases opened
    exact ⟨h.root, h.directory⟩
  · split at opened
    · simp at opened
    · cases hplace : w.creationPlace Lookup.linkLimit w.directory p with
      | error e => simp [hplace, bind, Except.bind] at opened
      | ok names =>
          simp only [hplace, bind, Except.bind] at opened
          cases opened
          exact h.edit (h.creationPlace proper hplace)
  · simp at opened

end World

end TreeWatch
