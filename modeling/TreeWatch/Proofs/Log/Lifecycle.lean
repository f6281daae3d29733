import TreeWatch.Proofs.Log.Muting
import TreeWatch.Proofs.Log.Setup
import Mathlib.Data.List.Induction

/-!
# The life of a log

A log is set up once, and from then on nothing about it changes until it is reset. Whatever became
of setting it up, there is at most one sink, which gets records from the level of the log on, and
none before a log is set up.
-/

namespace TreeWatch.Log

namespace Journal

/-! ## Setting up for the first time -/

/-- What is there when a log that was not set up has been: the world, the log, and the sink that it
got, if it got one. -/
structure Installed (w : World) (s : Option LoggingSettings) (j : Journal) (v : World) (k : Journal)
    (sink? : Option Sink) : Prop where
  initialized : k.initialized = true
  handlers : k.handlers = j.handlers ++ (sink?.map fun sink => ⟨sink, k.level⟩).toList
  level : ∀ sink ∈ sink?, LoggingSettings.thresholdOf s = .ok k.level
  terminal : .terminal ∈ sink? → w.onTerminal = true
  file : ∀ n, .file n ∈ sink? → ∃ p, w.openAppend p = .ok (n, v)
  /-- Unless a file is opened, nothing happens to the world. -/
  world : (∀ n, .file n ∉ sink?) → v = w

section Installed

variable {w : World} {s : Option LoggingSettings} {j k : Journal}

theorem installed_nothing (initialized : k.initialized = true)
    (handlers : k.handlers = j.handlers) : Installed w s j w k none where
  initialized := initialized
  handlers := by simp [handlers]
  level := by simp
  terminal := by simp
  file := by simp
  world _ := rfl

theorem installed_terminal (onTerminal : w.onTerminal = true) (initialized : k.initialized = true)
    (handlers : k.handlers = j.handlers) (level : LoggingSettings.thresholdOf s = .ok k.level) :
    Installed w s j w (k.attach .terminal) (some .terminal) where
  initialized := initialized
  handlers := by simp [attach, handlers]
  level _ _ := level
  terminal _ := onTerminal
  file := by simp
  world _ := rfl

theorem installed_file {p : Path} {n : Nat} {v : World} (opened : w.openAppend p = .ok (n, v))
    (initialized : k.initialized = true) (handlers : k.handlers = j.handlers)
    (level : LoggingSettings.thresholdOf s = .ok k.level) :
    Installed w s j v (k.attach (.file n)) (some (.file n)) where
  initialized := initialized
  handlers := by simp [attach, handlers]
  level _ _ := level
  terminal := by simp
  file m hm := by
    obtain rfl : n = m := by simpa using hm
    exact ⟨_, opened⟩
  world none := absurd rfl (none n)

/-- Every way in which setting up may go. -/
theorem exists_installed_setup (h : j.initialized = false) (w : World)
    (s : Option LoggingSettings) :
    ∃ sink?, Installed w s j (j.setup w s).2.1 (j.setup w s).2.2 sink? := by
  refine setup_cases w j s ?_ ?_ ?_
  · intro again
    simp [h] at again
  · intro e level? _ _
    exact ⟨none, installed_nothing rfl rfl⟩
  · intro level v k _ known opened
    cases opened with
    | nothing => exact ⟨none, installed_nothing rfl rfl⟩
    | terminal onTerminal told => exact ⟨_, installed_terminal onTerminal rfl rfl known⟩
    | file opened => exact ⟨_, installed_file opened rfl rfl known⟩

end Installed

/-! ## What a log is set to -/

def setting (j : Journal) : Bool × Level × List Handler :=
  (j.initialized, j.level, j.handlers)

theorem setting_reset (j : Journal) : j.reset.setting = ({} : Journal).setting := rfl

theorem setting_of_muted_eq {j k : Journal} (h : j.muted = k.muted) : j.setting = k.setting := by
  have hmuted : j.muted.setting = k.muted.setting := congrArg setting h
  exact hmuted

theorem setting_emitAll (w : World) (j : Journal) (rs : List Record) :
    (emitAll w j rs).2.setting = j.setting := by
  obtain ⟨_, hmuted, _⟩ := emitAll_spec w j rs fun _ hmem => hmem
  obtain ⟨loggers, hmet⟩ := exists_meetAll_eq j rs
  rw [setting_of_muted_eq hmuted, hmet]
  rfl

structure IsSound (j : Journal) : Prop where
  /-- A log that is not set up has no sink and no level. -/
  blank : j.initialized = false → j.handlers = [] ∧ j.level = 0
  single : j.handlers.length ≤ 1
  level : ∀ h ∈ j.handlers, h.level = j.level

theorem isSound_empty : IsSound {} :=
  ⟨fun _ => ⟨rfl, rfl⟩, Nat.zero_le 1, by simp⟩

theorem IsSound.of_setting_eq {j k : Journal} (h : j.IsSound) (same : k.setting = j.setting) :
    k.IsSound := by
  obtain ⟨hinitialized, hrest⟩ := Prod.mk.inj same
  obtain ⟨hlevel, hhandlers⟩ := Prod.mk.inj hrest
  refine ⟨?_, ?_, ?_⟩
  · rw [hinitialized, hhandlers, hlevel]
    exact h.blank
  · rw [hhandlers]
    exact h.single
  · rw [hhandlers, hlevel]
    exact h.level

theorem Installed.isSound {w v : World} {s : Option LoggingSettings} {j k : Journal}
    {sink? : Option Sink} (h : Installed w s j v k sink?) (none : j.handlers = []) : k.IsSound := by
  have hhandlers := h.handlers
  rw [none, List.nil_append] at hhandlers
  refine ⟨?_, ?_, ?_⟩
  · rw [h.initialized]
    simp
  · rw [hhandlers]
    cases sink? <;> simp
  · intro handler hmem
    rw [hhandlers] at hmem
    cases sink? with
    | none => simp at hmem
    | some sink => rw [List.mem_singleton.mp hmem]

theorem IsSound.setup {j : Journal} (h : j.IsSound) (w : World) (s : Option LoggingSettings) :
    (j.setup w s).2.2.IsSound := by
  cases hinitialized : j.initialized with
  | true =>
      rw [setup_of_initialized hinitialized]
      exact h
  | false =>
      obtain ⟨_, hinstalled⟩ := exists_installed_setup hinitialized w s
      exact hinstalled.isSound (h.blank hinitialized).1

theorem IsSound.reset (j : Journal) : j.reset.IsSound :=
  isSound_empty.of_setting_eq (setting_reset j)

theorem IsSound.emitAll {j : Journal} (h : j.IsSound) (w : World) (rs : List Record) :
    (j.emitAll w rs).2.IsSound :=
  h.of_setting_eq (setting_emitAll w j rs)

end Journal

/-! ## Calls -/

/-- Something that is done with a log, with the world as it is then. -/
inductive LogCall where
  | setup (w : World) (s : Option LoggingSettings)
  | reset
  | say (w : World) (rs : List Record)

namespace Journal

def call (j : Journal) : LogCall → Journal
  | .setup w s => (j.setup w s).2.2
  | .reset => j.reset
  | .say w rs => (j.emitAll w rs).2

def callAll (calls : List LogCall) : Journal :=
  calls.foldl call {}

theorem callAll_append_singleton (calls : List LogCall) (c : LogCall) :
    callAll (calls ++ [c]) = (callAll calls).call c :=
  List.foldl_append

theorem isSound_callAll (calls : List LogCall) : (callAll calls).IsSound := by
  induction calls using List.reverseRecOn with
  | nil => exact isSound_empty
  | append_singleton calls c ih =>
      rw [callAll_append_singleton]
      cases c with
      | setup w s => exact ih.setup w s
      | reset => exact .reset _
      | say w rs => exact ih.emitAll w rs

/-- The terminal that a log writes to was there when the log was set up. -/
theorem exists_onTerminal {calls : List LogCall} {h : Handler}
    (mem : h ∈ (callAll calls).handlers) (terminal : h.sink = .terminal) :
    ∃ before w s after, calls = before ++ .setup w s :: after ∧
      (callAll before).initialized = false ∧ .reset ∉ after ∧ w.onTerminal = true := by
  induction calls using List.reverseRecOn with
  | nil => simp [callAll] at mem
  | append_singleton calls c ih =>
      -- What was there before the last call was set up before it.
      have earlier : c ≠ .reset → h ∈ (callAll calls).handlers →
          ∃ before w s after, calls ++ [c] = before ++ .setup w s :: after ∧
            (callAll before).initialized = false ∧ .reset ∉ after ∧ w.onTerminal = true := by
        intro hc hmem
        obtain ⟨before, w, s, after, rfl, hbefore, hafter, honTerminal⟩ := ih hmem
        refine ⟨before, w, s, after ++ [c], by simp, hbefore, ?_, honTerminal⟩
        simpa [hafter] using Ne.symm hc
      rw [callAll_append_singleton] at mem
      cases c with
      | reset => simp [call, reset] at mem
      | say w rs =>
          refine earlier (by simp) ?_
          have hhandlers : ((callAll calls).emitAll w rs).2.handlers = (callAll calls).handlers :=
            congrArg (·.2.2) (setting_emitAll w (callAll calls) rs)
          rwa [call, hhandlers] at mem
      | setup w s =>
          cases hinitialized : (callAll calls).initialized with
          | true =>
              rw [call, setup_of_initialized hinitialized] at mem
              exact earlier (by simp) mem
          | false =>
              obtain ⟨sink?, hinstalled⟩ := exists_installed_setup hinitialized w s
              have hnone := ((isSound_callAll calls).blank hinitialized).1
              have hhandlers := hinstalled.handlers
              rw [hnone, List.nil_append] at hhandlers
              rw [call, hhandlers] at mem
              obtain ⟨sink, hsink, rfl⟩ :=
                Option.map_eq_some_iff.mp (Option.mem_toList.mp mem)
              obtain rfl : sink = .terminal := terminal
              exact ⟨calls, w, s, [], rfl, hinitialized, by simp, hinstalled.terminal hsink⟩

structure IsSetUpOnce (calls : List LogCall) (j : Journal) : Prop extends IsSound j where
  /-- The first attempt sets a log up, whatever comes of it. -/
  first : j.initialized = false → ∀ w s, ∃ sink?,
    Installed w s j (j.setup w s).2.1 (j.setup w s).2.2 sink?
  /-- While a log is set up, another attempt succeeds, opens no file and writes nothing. -/
  once : j.initialized = true → ∀ w s, j.setup w s = (.ok (), w, j)
  /-- A log writes to the terminal only if there was one when it was set up the last time. -/
  terminal : ∀ h ∈ j.handlers, h.sink = .terminal →
    ∃ before w s after, calls = before ++ .setup w s :: after ∧
      (callAll before).initialized = false ∧ .reset ∉ after ∧ w.onTerminal = true
  reset : j.reset.setting = ({} : Journal).setting

/-- Whatever is done with a log from the start, in whatever worlds and with whatever outcome. -/
theorem isSetUpOnce_callAll (calls : List LogCall) : IsSetUpOnce calls (callAll calls) where
  toIsSound := isSound_callAll calls
  first := exists_installed_setup
  once := setup_of_initialized
  terminal _ mem terminal := exists_onTerminal mem terminal
  reset := setting_reset _

end Journal

end TreeWatch.Log
