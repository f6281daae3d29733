import Mathlib
import TreeWatch.Proofs.Settings.Files

/-!
# Files of settings that count for nothing

A file that is missing, cannot be opened, is no document or holds no mapping is passed over, and the
others are laid over each other as if it were not there. Two kinds are not passed over: a file of
which nobody can tell whether it is there, and one with a text or a value that cannot be read. The
first such file keeps all settings from being loaded.
-/

namespace TreeWatch.Settings

open Log

variable {w w' : World} {paths : List Path} {project named : Option Path}

theorem outcome_load_congr (listed : allFiles w project named = .ok paths)
    (listed' : allFiles w' project named = .ok paths) (environment : w'.environment = w.environment)
    (same : (entriesOfFiles w' paths).outcome = (entriesOfFiles w paths).outcome) :
    (load w' project named).outcome = (load w project named).outcome := by
  unfold load
  rw [listed, listed']
  simp only [Reported.outcome_bind, same]
  cases (entriesOfFiles w paths).outcome with
  | error e => rfl
  | ok layers => simp only [ofEnvironment_congr environment]

/-- The first obstacle among the files of settings keeps them from being loaded. Without one, the
layers are the mappings that files hold, and the settings are those of a world in which all other
files are missing. -/
theorem load_of_files (listed : allFiles w project named = .ok paths) :
    (∀ e, paths.findSome? (obstacle? w) = some e → (load w project named).outcome = .error e) ∧
      ((∀ p ∈ paths, obstacle? w p = none) →
        (entriesOfFiles w paths).outcome =
            .ok ((paths.map (entriesIn w)).filter fun entries => !entries.isEmpty) ∧
          (∀ p ∈ paths, holdsMapping w p = false → entriesIn w p = []) ∧
          ∀ w' : World, allFiles w' project named = .ok paths → w'.environment = w.environment →
            (∀ p ∈ paths, holdsMapping w p = true →
              (entriesOfFile w' p).outcome = (entriesOfFile w p).outcome) →
            (∀ p ∈ paths, holdsMapping w p = false → w'.exists? p = .ok false) →
              (load w' project named).outcome = (load w project named).outcome) := by
  refine ⟨?_, ?_⟩
  · intro e he
    unfold load
    rw [listed]
    simp only [Reported.outcome_bind, outcome_entriesOfFiles, he]
    rfl
  · intro clear
    have hclear : paths.findSome? (obstacle? w) = none := List.findSome?_eq_none_iff.mpr clear
    refine ⟨by rw [outcome_entriesOfFiles, hclear], fun p _ => entriesIn_eq_nil, ?_⟩
    intro w' listed' environment kept missing
    have hfile : ∀ p ∈ paths, obstacle? w' p = none ∧ entriesIn w' p = entriesIn w p := by
      intro p hp
      cases holds : holdsMapping w p with
      | true =>
          have hkept := kept p hp holds
          rw [outcome_of_no_obstacle (clear p hp)] at hkept
          refine ⟨?_, by rw [entriesIn, hkept]⟩
          cases hobstacle : obstacle? w' p with
          | none => rfl
          | some e => simp [outcome_of_obstacle hobstacle] at hkept
      | false =>
          have hmissing := missing p hp holds
          refine ⟨by simp [obstacle?, hmissing], ?_⟩
          rw [entriesIn_eq_nil (by simp [holdsMapping, hmissing]), entriesIn_eq_nil holds]
    refine outcome_load_congr listed listed' environment ?_
    have hclear' : paths.findSome? (obstacle? w') = none :=
      List.findSome?_eq_none_iff.mpr fun p hp => (hfile p hp).1
    rw [outcome_entriesOfFiles, outcome_entriesOfFiles, hclear, hclear',
      List.map_congr_left fun p hp => (hfile p hp).2]

def worldWithSystemFile (content : Bytes) : World :=
  { root := .directory { name := "" } [
      .directory { name := "etc" } [
        .directory { name := "dirpoll" } [.file { name := "config.yaml" } 0 content]],
      .directory { name := "u" } [
        .directory { name := "dirpoll" } [
          .file { name := "config.yaml" } 1 (Bytes.ofText "poller: {recursive: off}")]]]
    environment := [("XDG_CONFIG_HOME", "/u")] }

def systemFile : Path :=
  .absolute ["etc", "dirpoll", "config.yaml"]

def userFile : Path :=
  .absolute ["u", "dirpoll", "config.yaml"]

theorem load_unfinished :
    let unfinished := worldWithSystemFile (Bytes.ofText "poller: [")
    let absent := unfinished.edit (.remove systemFile.parts)
    allFiles unfinished none none = .ok [systemFile, userFile] ∧
      (load unfinished none none).outcome = (load absent none none).outcome := by
  intro unfinished absent
  have listed : allFiles unfinished none none = .ok [systemFile, userFile] := by cbv
  have listed' : allFiles absent none none = .ok [systemFile, userFile] := by cbv
  refine ⟨listed, ?_⟩
  obtain ⟨-, hload⟩ := load_of_files listed
  have clear : ∀ p ∈ [systemFile, userFile], obstacle? unfinished p = none := by decide +kernel
  obtain ⟨-, -, hsame⟩ := hload clear
  refine (hsame absent listed' rfl ?_ ?_).symm
  · intro p hp holds
    obtain rfl : p = userFile := by
      have hsystem : holdsMapping unfinished systemFile = false := by decide +kernel
      rcases List.mem_pair.mp hp with rfl | rfl
      · simp [hsystem] at holds
      · rfl
    have hfind : absent.find userFile = unfinished.find userFile := by rfl
    rw [entriesOfFile_of_find_eq hfind]
  · intro p hp missing
    obtain rfl : p = systemFile := by
      have huser : holdsMapping unfinished userFile = true := by decide +kernel
      rcases List.mem_pair.mp hp with rfl | rfl
      · rfl
      · simp [huser] at missing
    rfl

theorem not_forall_outcome_ok :
    ¬∀ (w : World) (p : Path), ∃ entries, (entriesOfFile w p).outcome = .ok entries := by
  intro h
  obtain ⟨entries, hentries⟩ := h (worldWithSystemFile [0xff]) systemFile
  have hobstacle : obstacle? (worldWithSystemFile [0xff]) systemFile = some .undecodable := by
    decide +kernel
  rw [outcome_of_obstacle hobstacle] at hentries
  simp at hentries

end TreeWatch.Settings
