import TreeWatch.Log.Journal
import TreeWatch.Proofs.Failure

/-!
# Setting up a log

All that can come of setting up a log: nothing if that has been tried before, a failure because of
its level or of the name of its file, or a log with a level and at most one sink.
-/

namespace TreeWatch

theorem World.host_of_openAppend {w v : World} {p : Path} {serial : Nat}
    (h : w.openAppend p = .ok (serial, v)) : v.host = w.host := by
  unfold openAppend at h
  split at h
  · obtain ⟨-, rfl⟩ := Prod.mk.inj (Except.ok.inj h)
    rfl
  · obtain ⟨-, rfl⟩ := Prod.mk.inj (Except.ok.inj h)
    rfl
  · split at h
    · simp at h
    · obtain ⟨names, -, h⟩ := bind_eq_ok_iff.mp h
      obtain ⟨-, rfl⟩ := Prod.mk.inj (Except.ok.inj h)
      rfl
  · simp at h

namespace Log

/-- What keeps a log from being set up, with the level if that is known by then. -/
inductive Obstacle (w : World) (s : Option LoggingSettings) : Failure → Option Level → Prop where
  | level {e : Failure} (unknown : LoggingSettings.thresholdOf s = .error e) : Obstacle w s e none
  /-- The file is given by something that is no name of a file here. -/
  | nameless {e : Failure} {level : Level} (known : LoggingSettings.thresholdOf s = .ok level)
      (given : Journal.fileSetting w s ≠ .null)
      (refused : Journal.fileName? w (Journal.fileSetting w s) = .error e) :
      Obstacle w s e (some level)
  /-- The file has a name that no file can have. -/
  | name {level : Level} {file : FileName} (known : LoggingSettings.thresholdOf s = .ok level)
      (named : Journal.fileName? w (Journal.fileSetting w s) = .ok file)
      (nul : (Journal.filePath w file.text).hasNul = true) :
      Obstacle w s .malformed (some level)

namespace Journal

/-- A log that somebody has begun to set up, with the level if that is known. -/
def begun (j : Journal) (level? : Option Level) : Journal :=
  { j with initialized := true, level := level?.getD j.level }

variable {w : World} {j : Journal} {s : Option LoggingSettings}

/-! ## The steps -/

theorem setup_of_initialized (h : j.initialized = true) (w : World) (s : Option LoggingSettings) :
    j.setup w s = (.ok (), w, j) := by
  rw [setup, if_pos h]

theorem setup_of_unknown (fresh : j.initialized = false) {e : Failure}
    (unknown : LoggingSettings.thresholdOf s = .error e) :
    j.setup w s = (.error e, w, j.begun none) := by
  rw [setup, if_neg (by simp [fresh]), unknown]
  rfl

section Known

variable {level : Level}

theorem setup_of_no_file (fresh : j.initialized = false)
    (known : LoggingSettings.thresholdOf s = .ok level) (none : fileSetting w s = .null) :
    j.setup w s = (.ok (), w, attachTerminal w (j.begun (some level))) := by
  rw [setup, if_neg (by simp [fresh]), known, none]
  rfl

theorem setup_of_given (fresh : j.initialized = false)
    (known : LoggingSettings.thresholdOf s = .ok level) (given : fileSetting w s ≠ .null) :
    j.setup w s =
      match fileName? w (fileSetting w s) with
      | .ok file => attachFile w (j.begun (some level)) file
      | .error e => (.error e, w, j.begun (some level)) := by
  rw [setup, if_neg (by simp [fresh]), known]
  revert given
  cases fileSetting w s with
  | null => exact fun given => absurd rfl given
  | _ => exact fun _ => rfl

theorem setup_of_named (fresh : j.initialized = false)
    (known : LoggingSettings.thresholdOf s = .ok level) {file : FileName}
    (named : fileName? w (fileSetting w s) = .ok file) :
    j.setup w s = attachFile w (j.begun (some level)) file := by
  have hgiven : fileSetting w s ≠ .null := by
    intro hnull
    rw [hnull] at named
    exact nomatch named
  rw [setup_of_given fresh known hgiven, named]

end Known

theorem attachFile_of_hasNul {file : FileName} (nul : (filePath w file.text).hasNul = true) :
    attachFile w j file = (.error .malformed, w, j) := by
  rw [attachFile, if_pos nul]

/-- An obstacle makes an attempt fail, and all that it leaves is the level. -/
theorem setup_of_obstacle (fresh : j.initialized = false) {e : Failure} {level? : Option Level}
    (h : Obstacle w s e level?) : j.setup w s = (.error e, w, j.begun level?) := by
  cases h with
  | level unknown => exact setup_of_unknown fresh unknown
  | nameless known given refused => rw [setup_of_given fresh known given, refused]
  | name known named nul =>
      rw [setup_of_named fresh known named]
      exact attachFile_of_hasNul nul

/-! ## What comes of it -/

inductive Opened (w : World) (j : Journal) : World → Journal → Prop where
  | nothing : Opened w j w j
  /-- There is a terminal. It may have been told of a file that cannot be opened. -/
  | terminal (onTerminal : w.onTerminal = true) (told : String) :
      Opened w j w ((j.write told).attach .terminal)
  | file {file : FileName} {serial : Nat} {v : World}
      (opened : w.openAppend (filePath w file.text) = .ok (serial, v)) :
      Opened w j v (j.attach (.file serial))

theorem write_empty (j : Journal) : j.write "" = j := by
  simp [write]

theorem opened_attachTerminal (w : World) (j : Journal) : Opened w j w (attachTerminal w j) := by
  unfold attachTerminal
  split
  · next onTerminal => simpa [write_empty] using Opened.terminal (j := j) onTerminal ""
  · exact .nothing

/-- A file that cannot be opened is no failure. -/
theorem opened_attachFile {file : FileName} (name : (filePath w file.text).hasNul = false) :
    ∃ v k, attachFile w j file = (.ok (), v, k) ∧ Opened w j v k := by
  unfold attachFile
  simp only [name, Bool.false_eq_true, if_false]
  split
  · next opened => exact ⟨_, _, rfl, .file opened⟩
  · split
    · next onTerminal => exact ⟨_, _, rfl, .terminal onTerminal _⟩
    · exact ⟨_, _, rfl, .nothing⟩

@[elab_as_elim]
theorem setup_cases {motive : Except Failure Unit × World × Journal → Prop} (w : World)
    (j : Journal) (s : Option LoggingSettings)
    (again : j.initialized = true → motive (.ok (), w, j))
    (failed : ∀ e level?, j.initialized = false → Obstacle w s e level? →
      motive (.error e, w, j.begun level?))
    (opened : ∀ level v k, j.initialized = false → LoggingSettings.thresholdOf s = .ok level →
      Opened w (j.begun (some level)) v k → motive (.ok (), v, k)) : motive (j.setup w s) := by
  cases hfresh : j.initialized with
  | true =>
      rw [setup_of_initialized hfresh]
      exact again hfresh
  | false =>
      by_cases hobstacle : ∃ e level?, Obstacle w s e level?
      · obtain ⟨e, level?, hobstacle⟩ := hobstacle
        rw [setup_of_obstacle hfresh hobstacle]
        exact failed e level? hfresh hobstacle
      · cases hknown : LoggingSettings.thresholdOf s with
        | error e => exact absurd ⟨e, _, .level hknown⟩ hobstacle
        | ok level =>
            by_cases hgiven : fileSetting w s = .null
            · rw [setup_of_no_file hfresh hknown hgiven]
              exact opened level _ _ hfresh hknown (opened_attachTerminal w _)
            · cases hnamed : fileName? w (fileSetting w s) with
              | error e => exact absurd ⟨e, _, .nameless hknown hgiven hnamed⟩ hobstacle
              | ok file =>
                  cases hnul : (filePath w file.text).hasNul with
                  | true => exact absurd ⟨_, _, .name hknown hnamed hnul⟩ hobstacle
                  | false =>
                      obtain ⟨v, k, hresult, hopened⟩ :=
                        opened_attachFile (j := j.begun (some level)) hnul
                      rw [setup_of_named hfresh hknown hnamed, hresult]
                      exact opened level v k hfresh hknown hopened

theorem host_setup (w : World) (j : Journal) (s : Option LoggingSettings) :
    (j.setup w s).2.1.host = w.host := by
  refine setup_cases w j s (fun _ => rfl) (fun _ _ _ _ => rfl) ?_
  intro level v k _ _ opened
  cases opened with
  | nothing | terminal => rfl
  | file opened => exact World.host_of_openAppend opened

theorem level_setup (fresh : j.initialized = false) {level : Level}
    (known : LoggingSettings.thresholdOf s = .ok level) : (j.setup w s).2.2.level = level := by
  refine setup_cases w j s ?_ ?_ ?_
  · intro again
    simp [again] at fresh
  · intro e level? _ obstacle
    cases obstacle with
    | level unknown => simp [known] at unknown
    | nameless known' | name known' =>
        rw [known] at known'
        obtain rfl := Except.ok.inj known'
        rfl
  · intro level' v k _ known' opened
    rw [known] at known'
    obtain rfl := Except.ok.inj known'
    cases opened <;> rfl

end Journal

end Log

end TreeWatch
