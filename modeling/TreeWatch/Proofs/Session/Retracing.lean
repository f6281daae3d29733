import TreeWatch.Proofs.Session.Depth
import TreeWatch.Proofs.Watch.Resolving

/-!
# From events back to entries

What a poller knows it found at the last of its looks. So at every moment of a session the paths of
its snapshot lead back to the nodes that they were recorded for, in the world of that look.
-/

namespace TreeWatch.Session

variable {τ : Type} [Timeline τ]

/-! ## Looks -/

/-- A poller knows what it found at the last of its looks. -/
theorem knownAt?_makeAll (place : Nat) {s : Session τ} {ms : List (Move τ)} (fits : s.FitsAll ms) :
    (s.makeAll ms).knownAt? place =
      ((reports place s ms).getLast?.map fun r => r.1.poller.known).or (s.knownAt? place) := by
  induction ms generalizing s with
  | nil => simp [reports]
  | cons m ms ih =>
      rw [makeAll_cons, ih fits.2, reports]
      cases hlook : s.lookAt? place m with
      | none =>
          rw [knownAt?_of_no_look fits.1 hlook, Option.map_none, Option.toList_none,
            List.nil_append]
      | some l =>
          rw [knownAt?_of_look fits.1 hlook, Option.map_some, Option.toList_some,
            List.singleton_append, List.getLast?_cons]
          cases (reports place (s.make m) ms).getLast? <;> rfl

theorem exists_firstLook_of_reports {place : Nat} {s : Session τ} {ms : List (Move τ)}
    (fits : s.FitsAll ms) (unmade : s.knownAt? place = none)
    {r : Look τ × List Event} {rest : List (Look τ × List Event)}
    (h : reports place s ms = r :: rest) :
    ∃ (t : Session τ) (a : Action), t.firstLook? a = some r.1 := by
  induction ms generalizing s with
  | nil => simp [reports] at h
  | cons m ms ih =>
      rw [reports] at h
      cases hlook : s.lookAt? place m with
      | none =>
          rw [hlook] at h
          exact ih fits.2 ((knownAt?_of_no_look fits.1 hlook).trans unmade) h
      | some l =>
          rw [hlook] at h
          obtain ⟨rfl, -⟩ := List.cons.inj h
          have hnone : s.pollerAt? place = none := Option.map_eq_none_iff.mp unmade
          cases looks_of_lookAt? hlook with
          | poll receiver? hp => simp [hnone] at hp
          | @act a _ _ hfirst => exact ⟨s, a, hfirst⟩

/-- The look with which a poller is made is at a directory that is reached by its own names. -/
theorem find_of_firstLook {s : Session τ} {a : Action} {l : Look τ} (h : s.firstLook? a = some l)
    (named : l.session.world.root.Named) :
    ∃ n, l.session.world.find l.spec.root = .ok (l.spec.root.parts, n) := by
  obtain ⟨t, request, spec, -, granted, rfl⟩ := firstLook?_eq_some h
  exact Request.find_of_validate named granted

/-! ## Snapshots -/

/-- An event resolves to the parts of the watched directory followed by those of its own path that
mean something. At every moment of a session the snapshot of each poller was taken at the last of
its looks, and its paths lead back to the entries in the world of that look. At the first look the
directory is reached by its own names. -/
theorem leadsBack_of_world (w : World) (steps : List Step) :
    (∀ (p : Poller) (e : Event), p.resolve e = ⟨p.spec.root.lead,
      p.spec.root.parts ++ (components e.path).filter fun part => part ≠ "" && part ≠ "."⟩) ∧
    ∀ made rest, allMoves steps (ofWorld w : Session τ) = made ++ rest →
      ∀ place p, ((ofWorld w : Session τ).makeAll made).pollerAt? place = some p →
        ∃ before l events, reports place (ofWorld w) made = before ++ [(l, events)] ∧
          l.spec = p.spec ∧ l.found = p.snapshot ∧
          (l.session.world.root.WellFormed → l.session.world.root.Named →
            p.LeadsBack l.session.world ∧
            (before = [] →
              ∃ n, l.session.world.find p.spec.root = .ok (p.spec.root.parts, n))) := by
  refine ⟨Poller.resolve_eq, ?_⟩
  intro made rest hsplit place p hp
  have hfits := (course_allMoves steps (ofWorld w : Session τ)).fitsAll
  rw [hsplit, fitsAll_append] at hfits
  have hunmade : (ofWorld w : Session τ).knownAt? place = none := rfl
  have hknown := knownAt?_makeAll place hfits.1
  rw [hunmade, Option.or_none, knownAt?, hp, Option.map_some] at hknown
  obtain ⟨⟨l, events⟩, hlast, hsame⟩ := Option.map_eq_some_iff.mp hknown.symm
  obtain ⟨before, hreports⟩ := List.getLast?_eq_some_iff.mp hlast
  have hspec : l.spec = p.spec := by
    rw [Look.poller, Poller.outcome_ofSpec] at hsame
    exact congrArg (·.1) hsame
  have hfound : l.found = p.snapshot := by
    rw [Look.poller, Poller.outcome_ofSpec] at hsame
    exact congrArg (·.2.1) hsame
  refine ⟨before, l, events, hreports, hspec, hfound, fun valid named => ⟨?_, ?_⟩⟩
  · refine Poller.leadsBack_of_look valid named ?_
    rw [← hspec]
    exact hfound.symm
  · rintro rfl
    obtain ⟨t, a, hfirst⟩ := exists_firstLook_of_reports hfits.1 hunmade hreports
    rw [← hspec]
    exact find_of_firstLook hfirst named

def movedWorld : World :=
  { root := .directory { name := "" } [
      .directory { name := "v" } [
        .directory { name := "a" } [.link { name := "l", time := 3 } "/"]]] }

/-- The directory gets another name, and a link to it the name that it had. -/
def movingSteps : List Step := [
  .act (.create "p" ⟨.absolute ["v"], { trackSymlinks := true }, .truth true⟩),
  .act (.edit (.rename ["v"] ["w"])), .act (.edit (.link ["v"] "w" 5)), .act (.poll "p")]

def movedReports : List (Look Float × List Event) :=
  reports 0 (ofWorld movedWorld) (allMoves movingSteps (ofWorld movedWorld))

theorem leadsBack_movedWorld :
    ∃ (p : Poller) (l : Look Float),
      ((ofWorld movedWorld : Session Float).makeAll
        (allMoves movingSteps (ofWorld movedWorld))).pollerAt? 0 = some p ∧
      l ∈ movedReports.map (·.1) ∧ l.session.world.root.WellFormed ∧ l.session.world.root.Named ∧
      p.LeadsBack l.session.world ∧ p.snapshot = [("a/l", 3)] ∧
      p.resolve ⟨.modified, "/a/./l/"⟩ = .absolute ["v", "a", "l"] ∧
      (l.session.world.entryAt? (.absolute ["v", "a", "l"])).map Node.time = some 3 := by
  obtain ⟨hresolve, hmoments⟩ := @leadsBack_of_world Float _ movedWorld movingSteps
  have hsome : (((ofWorld movedWorld : Session Float).makeAll
      (allMoves movingSteps (ofWorld movedWorld))).pollerAt? 0).isSome := by
    decide +kernel
  obtain ⟨p, hp⟩ := Option.isSome_iff_exists.mp hsome
  obtain ⟨before, l, events, hreports, hspec, hfound, hback⟩ :=
    hmoments _ [] (List.append_nil _).symm 0 p hp
  have hlast : (l, events) ∈ movedReports := by
    rw [movedReports, hreports]
    simp
  have htrees : ∀ r ∈ movedReports,
      r.1.session.world.root.WellFormed ∧ r.1.session.world.root.Named := by
    decide +kernel
  have hfinds : ∀ r ∈ movedReports, r.1.found = [("a/l", 3)] ∧ r.1.spec.root = .absolute ["v"] ∧
      (r.1.session.world.entryAt? (.absolute ["v", "a", "l"])).map Node.time = some 3 := by
    decide +kernel
  obtain ⟨valid, named⟩ := htrees _ hlast
  obtain ⟨hsnapshot, hroot, hentry⟩ := hfinds _ hlast
  refine ⟨p, l, hp, List.mem_map_of_mem hlast, valid, named, (hback valid named).1,
    hfound ▸ hsnapshot, ?_, hentry⟩
  rw [hresolve, ← hspec, hroot]
  decide

end TreeWatch.Session
