import TreeWatch.Proofs.Tree.Names
import TreeWatch.Proofs.Tree.Recasting

/-!
# Trees in which nothing fails

What a tree is when every operation works at every node of it. Names, kinds and times are the same,
and every path leads to the same place.
-/

namespace TreeWatch

namespace Node

def sound : Node → Node
  | file a serial content => file { a with faults := {} } serial content
  | directory a entries => directory { a with faults := {} } (soundAll entries)
  | link a target => link { a with faults := {} } target
  | special a kind => special { a with faults := {} } kind
termination_by structural n => n
where
  soundAll : List Node → List Node
    | [] => []
    | n :: rest => sound n :: soundAll rest
  termination_by structural ns => ns

theorem soundAll_eq_map (ns : List Node) : sound.soundAll ns = ns.map sound := by
  induction ns with
  | nil => rfl
  | cons n rest ih => rw [sound.soundAll, ih, List.map_cons]

@[simp] theorem attributes_sound (n : Node) :
    n.sound.attributes = { n.attributes with faults := {} } := by
  cases n <;> rfl

@[simp] theorem name_sound (n : Node) : n.sound.name = n.name := by
  rw [name, name, attributes_sound]

@[simp] theorem time_sound (n : Node) : n.sound.time = n.time := by
  rw [time, time, attributes_sound]

@[simp] theorem faults_sound (n : Node) : n.sound.faults = {} := by
  rw [faults, attributes_sound]

@[simp] theorem kind_sound (n : Node) : n.sound.kind = n.kind := by
  cases n <;> rfl

theorem entries_sound (n : Node) : n.sound.entries = n.entries.map sound := by
  cases n <;> simp [sound, soundAll_eq_map, entries]

theorem sortByName_entries_sound (n : Node) :
    sortByName n.sound.entries = (sortByName n.entries).map sound := by
  rw [entries_sound, sortByName_map name_sound]

/-- Paths lead where they lead when something fails. -/
theorem keepsWays_sound : KeepsWays sound where
  isDirectory n := by rw [isDirectory_eq_kind, isDirectory_eq_kind, kind_sound]
  child? n name := by
    rw [child?, child?, entries_sound, List.find?_map]
    congr 2
    funext m
    rw [Function.comp_apply, name_sound]
  target? n := by cases n <;> rfl

theorem WellFormed.sound {n : Node} (h : n.WellFormed) : n.sound.WellFormed := by
  induction n using induction_on_entries with
  | step n ih =>
      have hnames : n.sound.entries.map name = n.entries.map name := by
        rw [entries_sound, List.map_map]
        exact List.map_congr_left fun m _ => name_sound m
      refine wellFormed_iff.mpr ⟨hnames ▸ h.names_nodup, ?_⟩
      rw [entries_sound, List.forall_mem_map]
      intro m hm
      exact ⟨(name_sound m).symm ▸ h.isName hm, ih m hm (h.of_mem hm)⟩

end Node

def World.sound (w : World) : World :=
  w.recast Node.sound

theorem World.find_sound (w : World) (p : Path) :
    w.sound.find p = (w.find p).map (Lookup.Place.recast Node.sound) :=
  Lookup.find_recast Node.keepsWays_sound w.root w.directory p

end TreeWatch
