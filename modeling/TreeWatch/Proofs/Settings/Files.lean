import TreeWatch.Proofs.Failure
import TreeWatch.Settings.Sources

/-!
# What files of settings come to

A file of settings is an obstacle, holds a mapping or counts for nothing. The first obstacle keeps
all files from being read, and without one they come to the mappings that they hold.
-/

namespace TreeWatch.Settings

open Log

/-- The entries of a file as they count, which are none if it is missing or cannot be read. -/
def entriesIn (w : World) (p : Path) : Entries :=
  match (entriesOfFile w p).outcome with
  | .ok entries => entries
  | .error _ => []

/-- Why a file that is asked for keeps settings from being loaded, if it does. -/
def obstacle? (w : World) (p : Path) : Option Failure :=
  match w.exists? p with
  | .error e => some e
  | .ok false => none
  | .ok true =>
    match w.readFile p with
    | .error _ => none
    | .ok content =>
      match Yaml.load content with
      | .error (.refused cause) => some cause
      | _ => none

def holdsMapping (w : World) (p : Path) : Bool :=
  match w.exists? p, w.readFile p with
  | .ok true, .ok content =>
    match Yaml.load content with
    | .ok (.entries _) => true
    | _ => false
  | _, _ => false

variable {w w' : World} {p : Path}

/-! ## One file -/

/-- A file is an obstacle in two cases: it cannot be told whether it is there, or its content is
refused. Whatever keeps it from being opened is none. -/
theorem obstacle?_eq_some_iff {e : Failure} :
    obstacle? w p = some e ↔ w.exists? p = .error e ∨
      (w.exists? p = .ok true ∧ ∃ content, w.readFile p = .ok content ∧
        Yaml.load content = .error (.refused e)) := by
  unfold obstacle?
  cases w.exists? p with
  | error e' => simp
  | ok isThere =>
      cases isThere with
      | false => simp
      | true =>
          cases w.readFile p with
          | error errno => simp
          | ok content =>
              cases hload : Yaml.load content with
              | ok outcome => simp [hload]
              | error problem => cases problem <;> simp [hload]

theorem outcome_entriesOfContent (p : Path) (content : Bytes) :
    (entriesOfContent p content).outcome =
      match Yaml.load content with
      | .error (.refused cause) => .error cause
      | .ok (.entries entries) => .ok entries
      | _ => .ok [] := by
  unfold entriesOfContent
  cases Yaml.load content with
  | error problem => cases problem <;> rfl
  | ok outcome => cases outcome <;> rfl

theorem entriesOfFile_cases (w : World) (p : Path) :
    (∃ e, obstacle? w p = some e ∧ (entriesOfFile w p).outcome = .error e) ∨
      (obstacle? w p = none ∧ holdsMapping w p = false ∧ (entriesOfFile w p).outcome = .ok []) ∨
        (obstacle? w p = none ∧ holdsMapping w p = true ∧
          ∃ entries, (entriesOfFile w p).outcome = .ok entries) := by
  unfold obstacle? holdsMapping entriesOfFile
  cases w.exists? p with
  | error e => exact .inl ⟨e, rfl, rfl⟩
  | ok isThere =>
      cases isThere with
      | false => exact .inr (.inl ⟨rfl, rfl, rfl⟩)
      | true =>
          cases w.readFile p with
          | error errno =>
              refine .inr (.inl ⟨rfl, rfl, ?_⟩)
              dsimp only
              split <;> rfl
          | ok content =>
              dsimp only
              rw [outcome_entriesOfContent]
              cases Yaml.load content with
              | error problem =>
                  cases problem with
                  | notDocument => exact .inr (.inl ⟨rfl, rfl, rfl⟩)
                  | refused cause => exact .inl ⟨cause, rfl, rfl⟩
              | ok outcome =>
                  cases outcome with
                  | nothing | other => exact .inr (.inl ⟨rfl, rfl, rfl⟩)
                  | entries entries => exact .inr (.inr ⟨rfl, rfl, entries, rfl⟩)

theorem outcome_of_obstacle {e : Failure} (h : obstacle? w p = some e) :
    (entriesOfFile w p).outcome = .error e := by
  rcases entriesOfFile_cases w p with ⟨e', he', houtcome⟩ | ⟨hnone, _⟩ | ⟨hnone, _⟩
  · obtain rfl : e' = e := Option.some.inj (he'.symm.trans h)
    exact houtcome
  · simp [hnone] at h
  · simp [hnone] at h

theorem outcome_of_no_obstacle (h : obstacle? w p = none) :
    (entriesOfFile w p).outcome = .ok (entriesIn w p) := by
  rcases entriesOfFile_cases w p with ⟨e, he, _⟩ | ⟨_, _, houtcome⟩ | ⟨_, _, entries, houtcome⟩
  · simp [he] at h
  · rw [entriesIn, houtcome]
  · rw [entriesIn, houtcome]

/-- Only a file with a mapping counts for something. -/
theorem entriesIn_eq_nil (h : holdsMapping w p = false) : entriesIn w p = [] := by
  rcases entriesOfFile_cases w p with ⟨e, _, houtcome⟩ | ⟨_, _, houtcome⟩ | ⟨_, holds, _⟩
  · rw [entriesIn, houtcome]
  · rw [entriesIn, houtcome]
  · simp [holds] at h

theorem entriesOfFile_of_find_eq (h : w'.find p = w.find p) :
    entriesOfFile w' p = entriesOfFile w p := by
  have hexists : w'.exists? p = w.exists? p := by
    unfold World.exists? World.ask World.stat
    rw [h]
  have hread : w'.readFile p = w.readFile p := by
    unfold World.readFile World.openNode
    rw [h]
  rw [entriesOfFile, entriesOfFile, hexists, hread]

/-! ## All files -/

/-- What files come to: the failure of the first obstacle, or the mappings that they hold, in their
order. -/
theorem outcome_entriesOfFiles (w : World) (paths : List Path) :
    (entriesOfFiles w paths).outcome =
      match paths.findSome? (obstacle? w) with
      | some e => .error e
      | none => .ok ((paths.map (entriesIn w)).filter fun entries => !entries.isEmpty) := by
  induction paths with
  | nil => rfl
  | cons p rest ih =>
      rw [entriesOfFiles, Reported.outcome_bind, List.findSome?_cons]
      cases hobstacle : obstacle? w p with
      | some e => simp [outcome_of_obstacle hobstacle]
      | none =>
          rw [outcome_of_no_obstacle hobstacle, List.map_cons]
          cases hentries : entriesIn w p with
          | nil => exact ih
          | cons e es =>
              simp only [Reported.outcome_bind, ih]
              cases rest.findSome? (obstacle? w) <;> rfl

theorem ofEnvironment_congr (environment : w'.environment = w.environment) :
    ofEnvironment w' = ofEnvironment w := by
  unfold ofEnvironment sectionOfVariables World.setting? World.lookup?
  rw [environment]

end TreeWatch.Settings
