import TreeWatch.Proofs.Failure
import TreeWatch.Watch.Spec

/-!
# Requests that are granted

What was answered to each question if a request is granted, and what is watched then.
-/

namespace TreeWatch

namespace World

variable {w : World} {p : Path}

theorem stat_of_ask {question : Node → Bool} (h : w.ask p question = .ok true) :
    ∃ n, w.stat p = .ok n ∧ question n = true := by
  unfold ask at h
  split at h
  · simp at h
  · cases hstat : w.stat p with
    | error e =>
        rw [hstat] at h
        dsimp only at h
        split at h <;> simp at h
    | ok n =>
        rw [hstat] at h
        exact ⟨n, rfl, Except.ok.inj h⟩

theorem stat_eq_ok_iff {place : Lookup.Place} {n : Node} (found : w.find p = .ok place) :
    w.stat p = .ok n ↔ place.2.faults.stat = none ∧ place.2 = n := by
  unfold stat
  rw [found]
  simp only [bind, Except.bind]
  cases place.2.faults.stat <;> simp

end World

namespace Request

theorem validate_eq_ok {w : World} {r : Request} {spec : Spec} (h : r.validate w = .ok spec) :
    ∃ root names n, w.expandHome r.root = .ok root ∧ w.exists? root = .ok true ∧
      w.isDirectory? root = .ok true ∧ r.interval.isPositive? = some true ∧
      w.find root = .ok (names, n) ∧ r.interval.toFloat? = some spec.interval ∧
      spec = ⟨.absolute names, r.scope, spec.interval⟩ := by
  obtain ⟨root, hroot, h⟩ := bind_eq_ok_iff.mp h
  obtain ⟨isThere, hthere, h⟩ := bind_eq_ok_iff.mp h
  cases isThere with
  | false => simp at h
  | true =>
      obtain ⟨isDirectory, hdirectory, h⟩ := bind_eq_ok_iff.mp h
      cases isDirectory with
      | false => simp at h
      | true =>
          cases hpositive : r.interval.isPositive? with
          | none => simp [hpositive] at h
          | some isPositive =>
              cases isPositive with
              | false => simp [hpositive] at h
              | true =>
                  cases hfind : w.find root with
                  | error e => simp [hpositive, hfind] at h
                  | ok place =>
                      cases hinterval : r.interval.toFloat? with
                      | none => simp [hpositive, hfind, hinterval] at h
                      | some interval =>
                          simp only [hpositive, hfind, hinterval] at h
                          cases h
                          exact ⟨root, place.1, place.2, hroot, hthere, hdirectory, rfl, hfind,
                            rfl, rfl⟩

theorem isDirectory_of_isDirectory? {w : World} {p : Path} {place : Lookup.Place}
    (h : w.isDirectory? p = .ok true) (found : w.find p = .ok place) :
    place.2.isDirectory = true := by
  obtain ⟨n, hstat, hn⟩ := World.stat_of_ask h
  obtain ⟨-, rfl⟩ := (World.stat_eq_ok_iff found).mp hstat
  exact hn

end Request

end TreeWatch
