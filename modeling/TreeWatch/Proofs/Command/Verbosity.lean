import Mathlib
import TreeWatch.Proofs.Command.Gates
import TreeWatch.Proofs.Log.Attempts

/-!
# More records and fewer

The flag for more records counts from the level that is usual, whatever the settings say. Once it is
given, giving it again never loses a record; given for the first time it loses those that only
settings for more than it asked for. The flag for errors alone stands above both.
-/

namespace TreeWatch

/-! ## Levels below the scale's usual steps -/

namespace LoggingSettings

open Log

def IsDetailed (s : LoggingSettings) : Prop :=
  (∃ n, s.verbose = .int n ∧ 4 ≤ n) ∨
    s.verbose = .null ∧ ∃ name, s.level = .text name ∧
      (name.map upperLetter = "TRACE" ∨ name.map upperLetter = "DEBUG")

theorem scaleLevel_lt_iff (n : Int) : scaleLevel n < .verbose ↔ 4 ≤ n := by
  have hscale : ∀ place ≤ 4, (scale.getD place .info < .verbose ↔ place = 4) := by decide
  rw [scaleLevel, hscale _ (Nat.min_le_right _ _)]
  omega

theorem namedLevel_lt_iff (name : String) :
    namedLevel name < .verbose ↔
      name.map upperLetter = "TRACE" ∨ name.map upperLetter = "DEBUG" := by
  have hothers : ∀ named ∈ Level.names, named.2 ≠ "NOTSET" → named.2 ≠ "TRACE" →
      named.2 ≠ "DEBUG" → ¬named.1 < .verbose := by decide
  unfold namedLevel
  generalize name.map upperLetter = capitals
  by_cases htrace : capitals = "TRACE"
  · subst htrace
    decide
  · by_cases hdebug : capitals = "DEBUG"
    · subst hdebug
      decide
    · simp only [htrace, hdebug, or_false, iff_false]
      unfold Level.ofName?
      split
      · decide
      · split
        · decide
        · next hset =>
            cases hfound : Level.names.find? (·.2 = capitals) with
            | none => decide
            | some named =>
                obtain rfl : named.2 = capitals := by simpa using List.find?_some hfound
                exact hothers named (List.mem_of_find?_eq_some hfound) hset htrace hdebug

/-- Without a verbosity it is the name of a level that counts, if there is one. -/
theorem threshold_of_null {s : LoggingSettings} {level : Level} (unset : s.verbose = .null)
    (known : s.threshold = .ok level) :
    (∃ name, s.level = .text name ∧ namedLevel name = level) ∨
      (∀ name, s.level ≠ .text name) ∧ .info = level := by
  unfold threshold at known
  rw [unset] at known
  cases hlevel : s.level with
  | text name =>
      rw [hlevel] at known
      exact .inl ⟨name, rfl, Except.ok.inj known⟩
  | bytes | halves =>
      rw [hlevel] at known
      exact .inr ⟨by simp, Except.ok.inj known⟩
  | _ =>
      rw [hlevel] at known
      dsimp only at known
      split at known
      · exact nomatch known
      · exact .inr ⟨by simp, Except.ok.inj known⟩

/-- Of the settings that are read from files, these are the ones below the first step of the
flag. -/
theorem lt_verbose_iff {s : LoggingSettings} {level : Level} (known : s.threshold = .ok level)
    (verbosity : s.verbose = .null ∨ (∃ n, s.verbose = .int n) ∨ ∃ b, s.verbose = .bool b) :
    level < .verbose ↔ s.IsDetailed := by
  unfold IsDetailed
  rcases verbosity with hverbose | ⟨n, hverbose⟩ | ⟨b, hverbose⟩
  · rcases threshold_of_null hverbose known with ⟨name, hname, rfl⟩ | ⟨hnone, rfl⟩
    · simp [hverbose, hname, namedLevel_lt_iff]
    · have hinfo : ¬Level.info < .verbose := by decide
      simp [hverbose, hnone, hinfo]
  · unfold threshold at known
    rw [hverbose] at known ⊢
    obtain rfl : scaleLevel n = level := Except.ok.inj known
    rw [scaleLevel_lt_iff]
    simp
  · unfold threshold at known
    rw [hverbose] at known ⊢
    obtain rfl : scaleLevel (if b then 1 else 0) = level := Except.ok.inj known
    rw [scaleLevel_lt_iff]
    cases b <;> simp

end LoggingSettings

namespace Command

open Log

/-! ## Reading the flag -/

def Arguments.louder (a : Arguments) : Arguments :=
  { a with verbose := a.verbose + 1 }

def Progress.louder (p : Progress) : Progress :=
  { p with arguments := p.arguments.louder }

theorem applyUse_louder (a : Arguments) (u : Use) :
    applyUse a.louder u = (applyUse a u).map Arguments.louder := by
  unfold applyUse
  cases u.flag with
  | interval =>
      dsimp only
      split
      · rfl
      · cases intervalOfText (u.value.getD "") <;> rfl
  | _ => rfl

theorem foldlM_applyUse_louder (uses : List Use) (a : Arguments) :
    uses.foldlM applyUse a.louder = (uses.foldlM applyUse a).map Arguments.louder := by
  induction uses generalizing a with
  | nil => rfl
  | cons u rest ih =>
      rw [List.foldlM_cons, List.foldlM_cons, applyUse_louder]
      cases applyUse a u with
      | error d => rfl
      | ok b => exact ih b

theorem takePlain_louder (p : Progress) (row : List Word) :
    p.louder.takePlain row = (p.takePlain row).louder := by
  unfold Progress.takePlain
  by_cases hfirst : (!p.hasPaths && row.any Word.isOther) = true
  · rw [if_pos hfirst, if_pos (show (!p.louder.hasPaths && _) = true from hfirst)]
    rfl
  · rw [if_neg hfirst, if_neg (show ¬(!p.louder.hasPaths && _) = true from hfirst)]
    rfl

theorem take_louder (fuel : Nat) (p : Progress) (words : List Word) :
    take fuel p.louder words = (take fuel p words).map Progress.louder := by
  induction fuel, p, words using take.induct with
  | case1 p words => rfl
  | case2 fuel p hfuel =>
      cases fuel with
      | zero => rfl
      | succ fuel => rfl
  | case3 p fuel f spelling attached rest m hm => simp [take, hm, Except.map]
  | case4 p fuel f spelling attached rest uses left huses ih =>
      simp only [take, huses]
      rw [show p.louder.arguments = p.arguments.louder from rfl, foldlM_applyUse_louder]
      cases uses.foldlM applyUse p.arguments with
      | error d => rfl
      | ok arguments => exact ih arguments
  | case5 p fuel text rest ih => exact ih
  | case6 p fuel words hnil hflag hunknown isPlain ih =>
      rw [take, take, takePlain_louder]
      · exact ih
      all_goals assumption

theorem finish_louder (p : Progress) : p.louder.finish = p.finish.map Arguments.louder := by
  obtain ⟨arguments, hasPaths, extras⟩ := p
  cases hasPaths <;> cases extras <;> rfl

/-- The flag in front of a command line is given once more, and nothing else is. -/
theorem Arguments.ofTexts_cons_verbose (texts : List String) :
    Arguments.ofTexts ("-v" :: texts) = (Arguments.ofTexts texts).map Arguments.louder := by
  have hwords : Word.ofTexts ("-v" :: texts) =
      (Word.ofTexts texts).map (.flag .verbose "-v" none :: ·) := by
    have hword : Word.ofText "-v" = .ok (.flag .verbose "-v" none) := by decide +kernel
    rw [Word.ofTexts, if_neg (by decide), hword]
    cases Word.ofTexts texts <;> rfl
  unfold Arguments.ofTexts
  rw [hwords]
  cases Word.ofTexts texts with
  | error m => rfl
  | ok words =>
      have htake : take (words.length + 1 + 1) {} (.flag .verbose "-v" none :: words) =
          take (words.length + 1) (Progress.louder {}) words := rfl
      simp only [Except.map, List.length_cons, htake, take_louder]
      cases take (words.length + 1) {} words with
      | error d => rfl
      | ok p => exact finish_louder p

/-! ## The level that comes of it -/

def Arguments.threshold (a : Arguments) (s : Settings) : Except Failure Level :=
  LoggingSettings.thresholdOf (some (a.apply s).logging)

section Threshold

variable {a : Arguments}

theorem threshold_of_quiet (quiet : a.quiet = true) (s : Settings) :
    a.threshold s = .ok .error := by
  simp only [Arguments.threshold, Arguments.apply, quiet, if_true]
  rfl

theorem threshold_of_asked (heard : a.quiet = false) (asked : a.verbose ≠ 0) (s : Settings) :
    a.threshold s = .ok (if a.verbose = 1 then .verbose else .trace) := by
  have hscale : LoggingSettings.scaleLevel (min 4 (2 + a.verbose : Nat)) =
      if a.verbose = 1 then .verbose else .trace := by
    split
    · next hone =>
        rw [hone]
        rfl
    · next hmore =>
        have hplace : (min 4 (2 + a.verbose : Nat) : Int) = 4 := by omega
        rw [hplace]
        rfl
  simp only [Arguments.threshold, Arguments.apply, heard, Bool.false_eq_true, if_false, asked,
    ne_eq, not_false_eq_true, if_true]
  exact congrArg Except.ok hscale

theorem threshold_of_unasked (heard : a.quiet = false) (unasked : a.verbose = 0) (s : Settings) :
    a.threshold s = LoggingSettings.thresholdOf (some s.logging) := by
  simp [Arguments.threshold, Arguments.apply, heard, unasked]

theorem threshold_louder (heard : a.quiet = false) (s : Settings) :
    a.louder.threshold s = .ok (if a.verbose = 0 then .verbose else .trace) := by
  rw [threshold_of_asked (a := a.louder) heard (Nat.succ_ne_zero a.verbose)]
  simp [Arguments.louder]

/-- The level is not raised, unless the settings alone had it below the first step of the flag. -/
theorem threshold_louder_le_iff {s : Settings} {level louder : Level}
    (known : a.threshold s = .ok level) (raised : a.louder.threshold s = .ok louder) :
    louder ≤ level ↔ a.quiet = true ∨ a.verbose ≠ 0 ∨ .verbose ≤ level := by
  cases hquiet : a.quiet with
  | true =>
      rw [threshold_of_quiet hquiet] at known
      rw [threshold_of_quiet (a := a.louder) hquiet] at raised
      obtain rfl := Except.ok.inj known
      obtain rfl := Except.ok.inj raised
      simp
  | false =>
      rw [threshold_louder hquiet] at raised
      obtain rfl := Except.ok.inj raised
      by_cases hzero : a.verbose = 0
      · simp [hzero]
      · rw [threshold_of_asked hquiet hzero] at known
        obtain rfl := Except.ok.inj known
        have hsteps : Level.trace ≤ if a.verbose = 1 then Level.verbose else Level.trace := by
          split <;> decide
        simp [hzero, hsteps]

end Threshold

/-- What the flag for more records does when it is given once more in front of a command line. -/
structure Raises (texts : List String) (a : Arguments) (s : Settings) : Prop where
  reads : Arguments.ofTexts ("-v" :: texts) = .ok a.louder
  quiet : a.quiet = true → a.threshold s = .ok .error ∧ a.louder.threshold s = .ok .error
  /-- The flag asks for its own steps, whatever the settings say. -/
  steps : a.quiet = false → a.louder.threshold s = .ok (if a.verbose = 0 then .verbose else .trace)
  unasked : a.quiet = false → a.verbose = 0 →
    a.threshold s = LoggingSettings.thresholdOf (some s.logging)
  lowers : ∀ level louder, a.threshold s = .ok level → a.louder.threshold s = .ok louder →
    (louder ≤ level ↔ a.quiet = true ∨ a.verbose ≠ 0 ∨ .verbose ≤ level)
  /-- Where it is not raised, a log keeps every record that it keeps without the flag. -/
  kept : ∀ level, a.threshold s = .ok level → a.quiet = true ∨ a.verbose ≠ 0 ∨ .verbose ≤ level →
    ∀ (w w' : World) (j : Journal) (said : Level), j.initialized = false →
      (j.setup w (some (a.apply s).logging)).2.2.keeps said = true →
        (j.setup w' (some (a.louder.apply s).logging)).2.2.keeps said = true
  /-- Settings that are read from files have it there if they ask for the most detailed records. -/
  detailed : a.quiet = false → a.verbose = 0 → ∀ level, a.threshold s = .ok level →
    (s.logging.verbose = .null ∨ (∃ n, s.logging.verbose = .int n) ∨
      ∃ b, s.logging.verbose = .bool b) →
    (level < .verbose ↔ s.logging.IsDetailed)

theorem raises_of_texts {texts : List String} {a : Arguments} (h : Arguments.ofTexts texts = .ok a)
    (s : Settings) : Raises texts a s where
  reads := by
    rw [Arguments.ofTexts_cons_verbose, h]
    rfl
  quiet hquiet := ⟨threshold_of_quiet hquiet s, threshold_of_quiet (a := a.louder) hquiet s⟩
  steps hheard := threshold_louder hheard s
  unasked hheard hzero := threshold_of_unasked hheard hzero s
  lowers _ _ := threshold_louder_le_iff
  kept level hlevel hlowers w w' j said hfresh hkept := by
    obtain ⟨louder, hlouder⟩ : ∃ louder, a.louder.threshold s = .ok louder := by
      cases hquiet : a.quiet with
      | true => exact ⟨_, threshold_of_quiet (a := a.louder) hquiet s⟩
      | false => exact ⟨_, threshold_louder hquiet s⟩
    have hle : louder ≤ level := (threshold_louder_le_iff hlevel hlouder).mpr hlowers
    unfold Journal.keeps at hkept ⊢
    rw [Journal.level_setup hfresh hlevel] at hkept
    rw [Journal.level_setup hfresh hlouder]
    simp only [Bool.and_eq_true, decide_eq_true_eq] at hkept ⊢
    exact ⟨hkept.1, hle.trans hkept.2⟩
  detailed hheard hzero level hlevel := by
    rw [threshold_of_unasked hheard hzero] at hlevel
    exact LoggingSettings.lt_verbose_iff hlevel

def loudWords : List String :=
  ["-v", "/w"]

theorem raises_loudWords :
    ∃ a, Arguments.ofTexts loudWords = .ok a ∧ Raises loudWords a {} ∧
      a.threshold {} = .ok .verbose ∧ a.louder.threshold {} = .ok .trace := by
  have hwords : Arguments.ofTexts loudWords = .ok { paths := [.absolute ["w"]], verbose := 1 } := by
    cbv
  have raises := raises_of_texts hwords {}
  exact ⟨_, hwords, raises, threshold_of_asked rfl (by decide) {}, raises.steps rfl⟩

def detailedEntries : Entries :=
  [(.text "logging", .map [(.text "verbose", .int 4)])]

/-- The flag may raise the level of a run. -/
theorem not_forall_threshold_le :
    ¬∀ (texts : List String) (a b : Arguments) (entries : Entries) (s : Settings)
        (level louder : Level),
      Arguments.ofTexts texts = .ok a → Arguments.ofTexts ("-v" :: texts) = .ok b →
      a.quiet = false → (Settings.ofEntries entries).outcome = .ok s →
      a.threshold s = .ok level → b.threshold s = .ok louder → louder ≤ level := by
  intro h
  have hread : ∃ s, (Settings.ofEntries detailedEntries).outcome = .ok s ∧
      s.logging = { verbose := .int 4 } := ⟨_, rfl, rfl⟩
  obtain ⟨s, hs, hlogging⟩ := hread
  have hwords : Arguments.ofTexts ["/w"] = .ok { paths := [.absolute ["w"]] } := by
    cbv
  have hloud := Arguments.ofTexts_cons_verbose ["/w"]
  rw [hwords] at hloud
  have hlevel : ({ paths := [.absolute ["w"]] } : Arguments).threshold s = .ok .trace := by
    rw [threshold_of_unasked rfl rfl, hlogging]
    rfl
  have hraised := h ["/w"] _ _ detailedEntries s _ _ hwords hloud rfl hs hlevel
    (threshold_louder rfl s)
  exact absurd hraised (by decide)

end Command

end TreeWatch
