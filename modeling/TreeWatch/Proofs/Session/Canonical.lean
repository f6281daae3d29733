import TreeWatch.Proofs.Log.Renumbering
import TreeWatch.Proofs.Session.Orderliness

/-!
# The order in which entries were made

Snapshots and events stand in the order of the paths, at every moment of every session. The order in
which the entries of directories were made has no part in it: in a world made in another order the
same steps find and report the same.
-/

namespace TreeWatch.Session

open Log

variable {τ : Type}

/-- Nothing that is done depends on the order in which a world was made. -/
theorem unison_reordered (ρ : Nat → Nat) : Unison (fun _ => True) (Journal.Reordered ρ) where
  emitAll h rs := h.emitAll rs
  setup _ h settings := h.setup settings
  reset _ h := h.reset
  edit _ h := ⟨h.world.edit _, h.journal⟩
  changeDirectory _ h := ⟨h.world.changeDirectory _, h.journal⟩
  setVariable h name value := ⟨h.world.setVariable name value, h.journal⟩
  findings h := h.world.findings
  validate h := h.world.validate
  allFiles h := h.world.allFiles
  environment h := h.world.eq_of_aside (q := World.environment) fun _ _ _ _ => rfl
  host h := h.world.eq_of_aside (q := World.host) fun _ _ _ _ => rfl
  entriesOfFile h := h.world.entriesOfFile

variable [Timeline τ]

theorem linked_ofWorld {ρ : Nat → Nat} {w v : World} (h : World.Reordered ρ w v) :
    Linked (Journal.Reordered ρ) (ofWorld w : Session τ) (ofWorld v) :=
  ⟨⟨h, rfl⟩, rfl, rfl, rfl, rfl, rfl, rfl, rfl, rfl⟩

/-- Every poller has a snapshot in order, and reports in order what it finds when it polls. -/
structure Canonical (s : Session τ) : Prop where
  snapshots : ∀ p ∈ s.pollers, p.snapshot.Canonical
  polls : ∀ place, ∃ arrivals departures, InBlocks (s.pollAt place).1 arrivals departures

structure SameWatch (s t : Session τ) : Prop where
  pollers : t.pollers = s.pollers
  polls : ∀ place, (t.pollAt place).1 = (s.pollAt place).1

theorem sameWatch_of_linked {allowed : Action → Prop}
    {R : World × Journal → World × Journal → Prop} (unison : Unison allowed R) {s t : Session τ}
    (h : Linked R s t) : SameWatch s t where
  pollers := h.pollers.symm
  polls place := by
    obtain ⟨events, s', t', hs, ht, _⟩ :=
      h.pollAt unison.toBond place fun x _ => unison.isShared x
    rw [hs, ht]

/-- At every moment of a session in an orderly world snapshots and events are in order. In a world
made in another order the same steps make the same moves, and what is watched is the same at every
moment. -/
theorem canonical_of_world (w : World) (steps : List Step) :
    (w.Orderly → (∀ a ∈ Step.allActions steps, a.IsProper) →
      ∀ made rest, allMoves steps (ofWorld w : Session τ) = made ++ rest →
        Canonical ((ofWorld w : Session τ).makeAll made)) ∧
    ∀ ρ v, World.Reordered ρ w v →
      allMoves steps (ofWorld v : Session τ) = allMoves steps (ofWorld w) ∧
      ∀ made rest, allMoves steps (ofWorld w : Session τ) = made ++ rest →
        SameWatch ((ofWorld w : Session τ).makeAll made) ((ofWorld v).makeAll made) := by
  constructor
  · intro orderly proper made rest hsplit
    have hfits := (course_allMoves steps (ofWorld w : Session τ)).fitsAll
    rw [hsplit, fitsAll_append] at hfits
    have hproper : ∀ a, .act a ∈ made → a.IsProper := by
      intro a ha
      refine proper a (act_mem_allMoves steps (ofWorld w : Session τ) ?_)
      rw [hsplit]
      exact List.mem_append_left rest ha
    obtain ⟨horderly, hsnapshots⟩ := canonical_makeAll hfits.1 hproper orderly (by simp [ofWorld])
    exact ⟨hsnapshots, inBlocks_pollAt horderly hsnapshots⟩
  · intro ρ v reordered
    have unison := unison_reordered ρ
    have hlinked : Linked (Journal.Reordered ρ) (ofWorld w : Session τ) (ofWorld v) :=
      linked_ofWorld reordered
    refine ⟨hlinked.allMoves_eq unison steps, fun made rest _ => ?_⟩
    exact sameWatch_of_linked unison (hlinked.makeAll unison fun _ _ => trivial)

def plainWorld : World :=
  { root := .directory { name := "" } [
      .directory { name := "w" } [.file { name := "a.txt" } 0 [],
        .directory { name := "a" } [.file { name := "z" } 1 []]]],
    nextSerial := 2 }

def shuffledWorld : World :=
  { root := .directory { name := "" } [
      .directory { name := "w" } [.directory { name := "a" } [.file { name := "z" } 0 []],
        .file { name := "a.txt" } 1 []]],
    nextSerial := 2 }

def watchedChanges : List Step := [
  .act (.create "p" ⟨.absolute ["w"], { trackDirectories := true }, .seconds 1.0⟩),
  .act (.edit (.write ["w", "a", "b"] [] 5)),
  .act (.edit (.remove ["w", "a.txt"])),
  .act (.poll "p")]

theorem reordered_shuffledWorld : World.Reordered (Equiv.swap 0 1) plainWorld shuffledWorld where
  injective := (Equiv.swap 0 1).injective
  root := by cbv
  fresh k := Equiv.swap_apply_of_ne_of_ne (by simp [plainWorld]) (by simp [plainWorld]; omega)
  stamps _ := rfl
  same := rfl

theorem canonical_shuffledWorld :
    plainWorld.Orderly ∧ (∀ a ∈ Step.allActions watchedChanges, a.IsProper) ∧
      World.Reordered (Equiv.swap 0 1) plainWorld shuffledWorld ∧
      Canonical ((ofWorld plainWorld : Session Float).makeAll
        (allMoves watchedChanges (ofWorld plainWorld))) ∧
      SameWatch ((ofWorld plainWorld : Session Float).makeAll
          (allMoves watchedChanges (ofWorld plainWorld)))
        ((ofWorld shuffledWorld).makeAll (allMoves watchedChanges (ofWorld plainWorld))) ∧
      (Spec.look? shuffledWorld ⟨.absolute ["w"], { trackDirectories := true }, 1.0⟩) =
        some [("a", defaultTime), ("a/z", defaultTime), ("a.txt", defaultTime)] := by
  have horderly : plainWorld.Orderly := by
    refine ⟨?_, by simp [plainWorld]⟩
    simp [plainWorld, Node.Orderly, Node.AllOrderly, Node.name, Node.attributes, IsPart]
  have hproper : ∀ a ∈ Step.allActions watchedChanges, a.IsProper := by decide
  have hlook : ∀ interval, Spec.look? shuffledWorld
      ⟨.absolute ["w"], { trackDirectories := true }, interval⟩ =
        some [("a", defaultTime), ("a/z", defaultTime), ("a.txt", defaultTime)] := by
    intro interval
    rw [Spec.look?]
    cbv
  have hwhole := (List.append_nil
    (allMoves watchedChanges (ofWorld plainWorld : Session Float))).symm
  have hcanonical := @canonical_of_world Float _ plainWorld watchedChanges
  exact ⟨horderly, hproper, reordered_shuffledWorld, hcanonical.1 horderly hproper _ [] hwhole,
    (hcanonical.2 _ _ reordered_shuffledWorld).2 _ [] hwhole, hlook 1.0⟩

end TreeWatch.Session
