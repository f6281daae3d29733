import TreeWatch.Proofs.Session.Orderliness
import TreeWatch.Proofs.Session.Outages
import TreeWatch.Proofs.Watch.TopLevel

/-!
# How deep pollers look

What a poller reports over a session is told by its looks alone: at the first there is nothing to
compare with, and each later one is compared with the one before it. So a poller that does not look
below its directory reports of what is at the top just what a poller reports that looks deeper and
does so at the same moments.
-/

namespace TreeWatch

namespace Look

variable {τ : Type}

def found (l : Look τ) : Snapshot :=
  (l.spec.look? l.session.world).getD []

/-- The first look does not go below the directory and the second one does. They are made at the
same moment, as far as the directory is concerned: the second would find the same in the place of
the first. -/
structure IsTopOf (l deeper : Look τ) : Prop where
  spec : l.spec.IsTopOf deeper.spec
  moment : deeper.spec.look? l.session.world = deeper.spec.look? deeper.session.world

instance (l deeper : Look τ) : Decidable (l.IsTopOf deeper) :=
  decidable_of_iff (_ ∧ _) ⟨fun h => ⟨h.1, h.2⟩, fun h => ⟨h.1, h.2⟩⟩

theorem IsTopOf.found_eq {l deeper : Look τ} (h : l.IsTopOf deeper)
    (orderly : l.session.world.Orderly) : l.found = deeper.found.topLevel := by
  rw [found, found, h.spec.look? orderly, h.moment]
  cases deeper.spec.look? deeper.session.world <;> rfl

end Look

namespace Session

variable {τ : Type} [Timeline τ]

/-! ## Reports -/

/-- The events that the poller at a place reports in a move. -/
def reported (place : Nat) (s : Session τ) : Move τ → List Event
  | .poll i _ => if i = place then (s.pollAt place).1 else []
  | _ => []

/-- The looks of the poller at a place in time order, each with the events that it reports there. -/
def reports (place : Nat) : Session τ → List (Move τ) → List (Look τ × List Event)
  | _, [] => []
  | s, m :: ms =>
    ((s.lookAt? place m).map fun l => (l, s.reported place m)).toList ++
      reports place (s.make m) ms

/-- What changed from what is known to a snapshot; nothing has if nothing is known yet. -/
def changesFrom (known? : Option Snapshot) (s : Snapshot) : List Event :=
  match known? with
  | none => []
  | some known => Snapshot.diff known s

def changesBetween : Option Snapshot → List Snapshot → List (List Event)
  | _, [] => []
  | known?, s :: rest => changesFrom known? s :: changesBetween (some s) rest

omit [Timeline τ] in
theorem changesBetween_topLevel (known? : Option Snapshot) (snapshots : List Snapshot) :
    changesBetween (known?.map Snapshot.topLevel) (snapshots.map Snapshot.topLevel) =
      (changesBetween known? snapshots).map topLevel := by
  induction snapshots generalizing known? with
  | nil => rfl
  | cons s rest ih =>
      have hfirst : changesFrom (known?.map Snapshot.topLevel) s.topLevel =
          topLevel (changesFrom known? s) := by
        cases known? with
        | none => rfl
        | some known => exact Snapshot.diff_topLevel known s
      rw [List.map_cons, changesBetween, hfirst, changesBetween, List.map_cons]
      exact congrArg _ (ih (some s))

/-- What the poller at a place compares its next look with. -/
def snapshotAt? (place : Nat) (s : Session τ) : Option Snapshot :=
  (s.knownAt? place).map (·.2.1)

theorem reported_of_look {s : Session τ} {m : Move τ} {place : Nat} {l : Look τ}
    (h : s.lookAt? place m = some l) :
    s.reported place m = changesFrom (s.snapshotAt? place) l.found := by
  cases looks_of_lookAt? h with
  | @poll p receiver? hp =>
      rw [reported, if_pos rfl, pollAt_of_some hp, snapshotAt?, knownAt?, hp]
      exact Poller.outcome_poll_fst s.world p
  | act hplace hfirst =>
      have hnone : s.pollerAt? place = none := List.getElem?_eq_none hplace.ge
      rw [snapshotAt?, knownAt?, hnone]
      rfl

theorem map_reports (place : Nat) {s : Session τ} {ms : List (Move τ)} (fits : s.FitsAll ms) :
    (reports place s ms).map (·.2) =
      changesBetween (s.snapshotAt? place) ((reports place s ms).map fun r => r.1.found) := by
  induction ms generalizing s with
  | nil => rfl
  | cons m ms ih =>
      have hrest := ih fits.2
      rw [reports]
      cases hlook : s.lookAt? place m with
      | none =>
          rw [snapshotAt?, knownAt?_of_no_look fits.1 hlook] at hrest
          exact hrest
      | some l =>
          rw [snapshotAt?, knownAt?_of_look fits.1 hlook, Look.poller, Poller.outcome_ofSpec]
            at hrest
          simp only [Option.map_some, Option.toList_some, List.singleton_append, List.map_cons,
            changesBetween, reported_of_look hlook]
          exact congrArg _ hrest

/-! ## Looks in orderly worlds -/

theorem orderly_lookAt {s : Session τ} (orderly : s.world.Orderly) {m : Move τ} {place : Nat}
    {l : Look τ} (h : s.lookAt? place m = some l) : l.session.world.Orderly := by
  cases looks_of_lookAt? h with
  | poll => exact orderly
  | act _ hfirst => exact orderly_firstLook orderly hfirst

/-- Along proper moves a poller looks at orderly worlds alone. -/
theorem orderly_of_mem_reports {place : Nat} {s : Session τ} {ms : List (Move τ)}
    (proper : ∀ a, .act a ∈ ms → a.IsProper) (orderly : s.world.Orderly)
    {r : Look τ × List Event} (h : r ∈ reports place s ms) : r.1.session.world.Orderly := by
  induction ms generalizing s with
  | nil => simp [reports] at h
  | cons m ms ih =>
      rw [reports, List.mem_append] at h
      rcases h with hfirst | hrest
      · obtain ⟨l, hl, rfl⟩ := Option.map_eq_some_iff.mp (Option.mem_toList.mp hfirst)
        exact orderly_lookAt orderly hl
      · refine ih (fun a ha => proper a (List.mem_cons_of_mem m ha)) ?_ hrest
        exact orderly_make orderly fun a ha => proper a (ha ▸ List.mem_cons_self)

/-! ## Two pollers -/

def AtSameMoments (first second : List (Look τ × List Event)) : Prop :=
  List.Forall₂ (fun a b => a.1.IsTopOf b.1) first second

instance (first second : List (Look τ × List Event)) : Decidable (AtSameMoments first second) :=
  inferInstanceAs (Decidable (List.Forall₂ _ first second))

omit [Timeline τ] in
theorem AtSameMoments.map_found {first second : List (Look τ × List Event)}
    (h : AtSameMoments first second) (orderly : ∀ r ∈ first, r.1.session.world.Orderly) :
    first.map (fun r => r.1.found) = (second.map fun r => r.1.found).map Snapshot.topLevel := by
  induction h with
  | nil => rfl
  | cons hfirst _ ih =>
      obtain ⟨horderly, hrest⟩ := List.forall_mem_cons.mp orderly
      rw [List.map_cons, List.map_cons, List.map_cons, hfirst.found_eq horderly, ih hrest]

/-- A snapshot that does not go below its directory holds the entries without a slash of one that
does. In all sessions a poller of the one kind reports at each poll the events without a slash that
a poller of the other kind reports, if they look at the same moments. -/
theorem topLevel_of_worlds :
    (∀ (w : World) (scope : Scope) (root : Path), w.Orderly →
      (Snapshot.take w scope.flat root).outcome =
        (Snapshot.take w scope.deep root).outcome.map Snapshot.topLevel) ∧
    ∀ (w v : World) (steps others : List Step) (place other : Nat), w.Orderly →
      (∀ a ∈ Step.allActions steps, a.IsProper) →
      let first := reports place (ofWorld w : Session τ) (allMoves steps (ofWorld w))
      let second := reports other (ofWorld v : Session τ) (allMoves others (ofWorld v))
      AtSameMoments first second →
        first.map (·.2) = second.map fun r => topLevel r.2 := by
  refine ⟨fun w scope root orderly => Snapshot.take_flat orderly scope root, ?_⟩
  intro w v steps others place other orderly proper first second same
  have hfits := (course_allMoves steps (ofWorld w : Session τ)).fitsAll
  have hfits' := (course_allMoves others (ofWorld v : Session τ)).fitsAll
  have hproper : ∀ a, .act a ∈ allMoves steps (ofWorld w : Session τ) → a.IsProper :=
    fun a ha => proper a (act_mem_allMoves steps _ ha)
  have hfound := same.map_found fun r => orderly_of_mem_reports hproper orderly
  calc first.map (·.2)
      = changesBetween none (first.map fun r => r.1.found) := map_reports place hfits
    _ = changesBetween none ((second.map fun r => r.1.found).map Snapshot.topLevel) := by
        rw [hfound]
    _ = (changesBetween none (second.map fun r => r.1.found)).map topLevel :=
        changesBetween_topLevel none _
    _ = (second.map (·.2)).map topLevel :=
        congrArg (List.map topLevel) (map_reports other hfits').symm
    _ = second.map fun r => topLevel r.2 := List.map_map

def nestedWorld : World :=
  { root := .directory { name := "" } [
      .directory { name := "w" } [
        .directory { name := "a" } [.file { name := "z", time := 3 } 0 []]]],
    nextSerial := 1 }

def nestedScope : Scope :=
  { trackDirectories := true }

/-- Two pollers of that directory, one of which polls in a tick of the other. -/
def nestedSteps : List Step := [
  .act (.create "top" ⟨.absolute ["w"], nestedScope.flat, .truth true⟩),
  .act (.create "all" ⟨.absolute ["w"], nestedScope.deep, .truth true⟩),
  .run "all" .own {} [.mk [.act (.edit (.remove ["w", "a"])),
    .act (.edit (.write ["w", "b", "c"] [] 5)), .act (.poll "top")] 0 false false]]

def nestedReports (place : Nat) : List (Look Float × List Event) :=
  reports place (ofWorld nestedWorld) (allMoves nestedSteps (ofWorld nestedWorld))

theorem topLevel_nestedWorld :
    nestedWorld.Orderly ∧ (∀ a ∈ Step.allActions nestedSteps, a.IsProper) ∧
      AtSameMoments (nestedReports 0) (nestedReports 1) ∧
      (Snapshot.take nestedWorld nestedScope.flat (.absolute ["w"])).outcome =
        .ok [("a", defaultTime)] ∧
      (nestedReports 1).map (·.2) = [[], [⟨.created, "b"⟩, ⟨.created, "b/c"⟩, ⟨.deleted, "a"⟩,
        ⟨.deleted, "a/z"⟩]] ∧
      (nestedReports 0).map (·.2) = [[], [⟨.created, "b"⟩, ⟨.deleted, "a"⟩]] := by
  obtain ⟨hsnapshots, hreports⟩ := @topLevel_of_worlds Float _
  have horderly : nestedWorld.Orderly := by
    refine ⟨?_, by simp [nestedWorld]⟩
    simp [nestedWorld, Node.Orderly, Node.AllOrderly, Node.name, Node.attributes, IsPart]
  have hproper : ∀ a ∈ Step.allActions nestedSteps, a.IsProper := by decide
  have hsame : AtSameMoments (nestedReports 0) (nestedReports 1) := by decide +kernel
  have hall : (nestedReports 1).map (·.2) = [[], [⟨.created, "b"⟩, ⟨.created, "b/c"⟩,
      ⟨.deleted, "a"⟩, ⟨.deleted, "a/z"⟩]] := by
    decide +kernel
  have htop : (nestedReports 0).map (·.2) = ((nestedReports 1).map (·.2)).map topLevel :=
    (hreports nestedWorld nestedWorld nestedSteps nestedSteps 0 1 horderly hproper hsame).trans
      List.map_map.symm
  have hdeep : (Snapshot.take nestedWorld nestedScope.deep (.absolute ["w"])).outcome =
      .ok [("a", defaultTime), ("a/z", 3)] := congrArg Except.ok (by cbv)
  refine ⟨horderly, hproper, hsame, ?_, hall, ?_⟩
  · rw [hsnapshots nestedWorld nestedScope _ horderly, hdeep]
    decide
  · rw [htop, hall]
    decide

end Session

end TreeWatch
