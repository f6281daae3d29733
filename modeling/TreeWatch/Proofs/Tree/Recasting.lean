import TreeWatch.Proofs.Watch.Polling
import TreeWatch.Proofs.Watch.Sight

/-!
# Trees that no question tells apart

What is asked of a tree by path is which names lead where, and what is there. A change of the nodes
that keeps this makes no difference to any question: not to what is found, whether something exists,
what it is and where a new file is made, nor, if it keeps times, to what a poller sees.
-/

namespace TreeWatch

def Node.target? : Node → Option String
  | .link _ target => some target
  | _ => none

theorem Node.target?_eq_some_iff {n : Node} {target : String} :
    n.target? = some target ↔ ∃ a, n = .link a target := by
  cases n <;> simp [Node.target?]

/-- A change of nodes after which paths lead to the same places. -/
structure Node.KeepsWays (f : Node → Node) : Prop where
  isDirectory : ∀ n, (f n).isDirectory = n.isDirectory
  child? : ∀ n name, (f n).child? name = (n.child? name).map f
  target? : ∀ n, (f n).target? = n.target?

theorem Node.KeepsWays.at? {f : Node → Node} (h : KeepsWays f) (n : Node) (names : List String) :
    (f n).at? names = (n.at? names).map f :=
  at?_of_child? h.child? n names

/-- A change of nodes that leaves links as they lead. -/
structure Node.Faithful (f : Node → Node) : Prop extends KeepsShape f where
  target? : ∀ n, (f n).target? = n.target?

theorem Node.Faithful.comp {f g : Node → Node} (h : Faithful f) (h' : Faithful g) :
    Faithful fun n => f (g n) where
  toKeepsShape := h.toKeepsShape.comp h'.toKeepsShape
  target? n := (h.target? _).trans (h'.target? n)

theorem Node.Faithful.keepsWays {f : Node → Node} (h : Faithful f) : KeepsWays f where
  isDirectory := h.isDirectory
  child? := h.child?
  target? := h.target?

/-- What a file holds; other nodes hold nothing. -/
def Node.content : Node → Bytes
  | .file _ _ content => content
  | _ => []

def World.recast (f : Node → Node) (w : World) : World :=
  { w with root := f w.root }

variable {f : Node → Node}

namespace Lookup

/-! ## Ways -/

def Place.recast (f : Node → Node) (place : Place) : Place :=
  (place.1, f place.2)

theorem walk_recast (keepsWays : Node.KeepsWays f) {root : Node}
    {follow follow' : List String → List String → Except Errno Place}
    (h : ∀ here parts, follow' here parts = (follow here parts).map (Place.recast f))
    (here parts : List String) :
    walk (f root) follow' here parts = (walk root follow here parts).map (Place.recast f) := by
  induction parts generalizing here with
  | nil =>
      rw [walk, walk, keepsWays.at?]
      cases root.at? here <;> rfl
  | cons part rest ih =>
      rw [walk, walk, keepsWays.at?]
      cases root.at? here with
      | none => rfl
      | some n =>
          simp only [Option.map_some, keepsWays.isDirectory, keepsWays.child?]
          by_cases hdirectory : n.isDirectory = true
          · rw [if_pos hdirectory, if_pos hdirectory]
            by_cases hdot : part = "."
            · rw [if_pos hdot, if_pos hdot, ih]
            · rw [if_neg hdot, if_neg hdot]
              by_cases hdots : part = ".."
              · rw [if_pos hdots, if_pos hdots, ih]
              · rw [if_neg hdots, if_neg hdots]
                cases n.child? part with
                | none => rfl
                | some m =>
                    have htarget := keepsWays.target? m
                    cases m with
                    | link a target =>
                        obtain ⟨b, hb⟩ := Node.target?_eq_some_iff.mp htarget
                        simp only [Option.map_some, hb]
                        split
                        · rfl
                        · rw [h]
                    | file | directory | special =>
                        rw [Option.map_some]
                        split
                        · next heq => simp at heq
                        · next a target heq =>
                            rw [Option.some.inj heq] at htarget
                            simp [Node.target?] at htarget
                        · exact ih _
          · rw [if_neg hdirectory, if_neg hdirectory]
            rfl

theorem find_recast (keepsWays : Node.KeepsWays f) (root : Node) (here : List String) (p : Path) :
    find (f root) here p = (find root here p).map (Place.recast f) := by
  have hwithin : ∀ links here parts, walkWithin (f root) links here parts =
      (walkWithin root links here parts).map (Place.recast f) := by
    intro links
    induction links with
    | zero => exact walk_recast keepsWays fun _ _ => rfl
    | succ links ih => exact walk_recast keepsWays ih
  exact hwithin _ _ _

end Lookup

namespace World

/-! ## Questions -/

theorem find_recast (faithful : Node.Faithful f) (w : World) (p : Path) :
    (w.recast f).find p = (w.find p).map (Lookup.Place.recast f) :=
  Lookup.find_recast faithful.keepsWays w.root w.directory p

theorem stat_recast (faithful : Node.Faithful f) (w : World) (p : Path) :
    (w.recast f).stat p = (w.stat p).map f := by
  unfold stat
  rw [find_recast faithful]
  cases w.find p with
  | error e => rfl
  | ok place =>
      simp only [Except.map, Lookup.Place.recast, bind, Except.bind, faithful.faults]
      cases place.2.faults.stat <;> rfl

theorem ask_recast (faithful : Node.Faithful f) (w : World) (p : Path) {question : Node → Bool}
    (blind : ∀ n : Node, question (f n) = question n) :
    (w.recast f).ask p question = w.ask p question := by
  unfold ask
  rw [stat_recast faithful]
  split
  · rfl
  · cases w.stat p with
    | error e => rfl
    | ok n => exact congrArg Except.ok (blind n)

theorem exists?_recast (faithful : Node.Faithful f) (w : World) (p : Path) :
    (w.recast f).exists? p = w.exists? p :=
  ask_recast faithful w p fun _ => rfl

theorem isDirectory?_recast (faithful : Node.Faithful f) (w : World) (p : Path) :
    (w.recast f).isDirectory? p = w.isDirectory? p :=
  ask_recast faithful w p faithful.isDirectory

theorem openNode_recast (faithful : Node.Faithful f) (w : World) (p : Path) :
    (w.recast f).openNode p = (w.openNode p).map f := by
  unfold openNode
  rw [find_recast faithful]
  cases w.find p with
  | error e => rfl
  | ok place =>
      simp only [Except.map, Lookup.Place.recast, bind, Except.bind, faithful.faults,
        faithful.isDirectory]
      cases place.2.faults.openFile with
      | some e => rfl
      | none => cases place.2.isDirectory <;> rfl

theorem readFile_eq (w : World) (p : Path) : w.readFile p = (w.openNode p).map Node.content := by
  unfold readFile
  cases w.openNode p with
  | error e => rfl
  | ok n => cases n <;> rfl

theorem readFile_recast (faithful : Node.Faithful f) (contents : ∀ n, (f n).content = n.content)
    (w : World) (p : Path) : (w.recast f).readFile p = w.readFile p := by
  rw [readFile_eq, readFile_eq, openNode_recast faithful]
  cases w.openNode p with
  | error e => rfl
  | ok n => exact congrArg Except.ok (contents n)

theorem creationPlace_congr {w w' : World} (root : w.root = w'.root) (links : Nat)
    (here : List String) (p : Path) :
    w.creationPlace links here p = w'.creationPlace links here p := by
  induction links generalizing here p with
  | zero => rfl
  | succ links ih =>
      unfold creationPlace
      simp only [root, ih]

theorem creationPlace_recast (faithful : Node.Faithful f) (w : World) (links : Nat)
    (here : List String) (p : Path) :
    (w.recast f).creationPlace links here p = w.creationPlace links here p := by
  induction links generalizing here p with
  | zero => rfl
  | succ links ih =>
      unfold creationPlace
      have hroot : (w.recast f).root = f w.root := rfl
      rw [hroot, Lookup.find_recast faithful.keepsWays]
      cases Lookup.find w.root here ⟨p.lead, p.parts.dropLast⟩ with
      | error e => rfl
      | ok place =>
          simp only [Except.map, Lookup.Place.recast, bind, Except.bind, faithful.isDirectory,
            faithful.child?]
          split
          · rfl
          · cases place.2.child? (Edit.lastName p.parts) with
            | none => rfl
            | some m =>
                have htarget := faithful.target? m
                cases m with
                | link a target =>
                    obtain ⟨b, hb⟩ := Node.target?_eq_some_iff.mp htarget
                    simp only [Option.map_some, hb]
                    exact ih place.1 (Path.ofText target)
                | file | directory | special =>
                    rw [Option.map_some]
                    split
                    · next a target heq =>
                        rw [Option.some.inj heq] at htarget
                        simp [Node.target?] at htarget
                    · rfl

end World

/-! ## Watching -/

theorem Request.validate_recast (faithful : Node.Faithful f) (w : World) (r : Request) :
    r.validate (w.recast f) = r.validate w := by
  unfold validate
  have hhome : (w.recast f).expandHome r.root = w.expandHome r.root := rfl
  simp only [hhome, World.exists?_recast faithful, World.isDirectory?_recast faithful,
    World.find_recast faithful]
  cases w.expandHome r.root with
  | error e => rfl
  | ok root =>
      simp only [bind, Except.bind]
      cases w.exists? root with
      | error e => rfl
      | ok found =>
          simp only
          split
          · rfl
          · cases w.isDirectory? root with
            | error e => rfl
            | ok isDirectory =>
                simp only
                split
                · rfl
                · cases r.interval.isPositive? with
                  | none => rfl
                  | some positive =>
                      cases positive with
                      | false => rfl
                      | true => cases w.find root <;> rfl

theorem Walk.findings_recast (faithful : Node.Faithful f) (times : ∀ n, (f n).time = n.time)
    (w : World) (scope : Scope) (root : Path) :
    findings (w.recast f) scope root = findings w scope root := by
  have hunseen : Unseen f := ⟨faithful.toKeepsShape, times⟩
  have hroot : listRoot (w.recast f) root = (listRoot w root).map (List.map f) := by
    unfold listRoot
    rw [World.find_recast faithful]
    cases w.find root with
    | error e => rfl
    | ok place =>
        dsimp only [Except.map, Lookup.Place.recast]
        rw [faithful.isDirectory, faithful.list]
        split
        · cases list place.2 <;> rfl
        · rfl
  unfold findings
  rw [hroot]
  cases listRoot w root with
  | error e => rfl
  | ok entries => exact congrArg Except.ok (hunseen.run scope [⟨"", entries⟩])

end TreeWatch
