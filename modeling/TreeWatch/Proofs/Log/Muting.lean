import TreeWatch.Log.Journal
import TreeWatch.Proofs.Tree.Asking

/-!
# The log without its lines

Which records are kept and where they go depends on how the log is set up and on the loggers that
were used, not on what was kept and written before. Records that are made change the content and the
times of the files that they go to and nothing else in the world.
-/

namespace TreeWatch

variable {serials : List Nat}

namespace Log

def Sink.serial? : Sink → Option Nat
  | .terminal => none
  | .file serial => some serial

namespace Journal

/-- The serial numbers of the files that records go to. -/
def fileSerials (j : Journal) : List Nat :=
  j.handlers.filterMap (·.sink.serial?)

/-- The journal without what was kept and written. -/
def muted (j : Journal) : Journal :=
  { j with errorText := "", records := #[] }

theorem fileSerials_of_muted_eq {j k : Journal} (h : j.muted = k.muted) :
    j.fileSerials = k.fileSerials := by
  have hhandlers : j.muted.handlers = k.muted.handlers := congrArg handlers h
  exact congrArg (List.filterMap (·.sink.serial?)) hhandlers

/-! ## One record -/

def takes (j : Journal) (r : Record) : Bool :=
  if belongs (j.meetLogger r.logger).loggers r.logger then j.keeps r.level
  else decide (0 < r.level)

@[simp] theorem level_meetLogger (j : Journal) (name : String) :
    (j.meetLogger name).level = j.level := by
  unfold meetLogger
  split <;> rfl

@[simp] theorem records_meetLogger (j : Journal) (name : String) :
    (j.meetLogger name).records = j.records := by
  unfold meetLogger
  split <;> rfl

@[simp] theorem handlers_meetLogger (j : Journal) (name : String) :
    (j.meetLogger name).handlers = j.handlers := by
  unfold meetLogger
  split <;> rfl

theorem meetLogger_muted (j : Journal) (name : String) :
    j.muted.meetLogger name = (j.meetLogger name).muted := by
  unfold meetLogger
  by_cases h : j.loggers.contains name = true
  · have h' : j.muted.loggers.contains name = true := h
    rw [if_pos h, if_pos h']
  · have h' : ¬j.muted.loggers.contains name = true := h
    rw [if_neg h, if_neg h']
    rfl

theorem takes_muted (j : Journal) (r : Record) : j.muted.takes r = j.takes r := by
  unfold takes
  rw [meetLogger_muted]
  rfl

theorem foldl_deliver (line : World → String) {hs : List Handler}
    (h : ∀ handler ∈ hs, ∀ serial, handler.sink = .file serial → serial ∈ serials) (w : World)
    (j : Journal) :
    let written := hs.foldl (fun wj handler => deliver (line wj.1) wj.1 wj.2 handler.sink) (w, j)
    written.1.blank .contentAndTime serials = w.blank .contentAndTime serials ∧
      written.2.muted = j.muted ∧ written.2.records = j.records := by
  induction hs generalizing w j with
  | nil => exact ⟨rfl, rfl, rfl⟩
  | cons handler rest ih =>
      have hrest := ih fun other hother => h other (List.mem_cons_of_mem handler hother)
      dsimp only at hrest ⊢
      rw [List.foldl_cons]
      obtain ⟨hworld, hmuted, hrecords⟩ := hrest (deliver (line w) w j handler.sink).1
        (deliver (line w) w j handler.sink).2
      cases hsink : handler.sink with
      | terminal =>
          rw [hsink] at hworld hmuted hrecords
          exact ⟨hworld, hmuted, hrecords⟩
      | file serial =>
          rw [hsink] at hworld hmuted hrecords
          have hserial := h handler List.mem_cons_self serial hsink
          exact ⟨hworld.trans (World.blank_appendTo hserial _ w), hmuted, hrecords⟩

/-- What a record does: the world is the same but for the content and times of log files, the
journal has met its logger, and the record is kept or not. -/
theorem emit_spec (w : World) (j : Journal) (r : Record)
    (h : ∀ serial ∈ j.fileSerials, serial ∈ serials) :
    (emit w j r).1.blank .contentAndTime serials = w.blank .contentAndTime serials ∧
      (emit w j r).2.muted = (j.meetLogger r.logger).muted ∧
      (emit w j r).2.records.toList =
        j.records.toList ++ if j.takes r then [r] else [] := by
  unfold emit takes
  dsimp only
  by_cases hbelongs : belongs (j.meetLogger r.logger).loggers r.logger = true
  · rw [if_neg (by simp [hbelongs]), if_pos hbelongs]
    have hkeeps : (j.meetLogger r.logger).keeps r.level = j.keeps r.level := by
      simp [keeps]
    rw [hkeeps]
    by_cases htaken : j.keeps r.level = true
    · rw [if_pos htaken, if_pos htaken]
      have hfiles : ∀ handler ∈ j.handlers.filter (·.level ≤ r.level), ∀ serial,
          handler.sink = .file serial → serial ∈ serials := by
        intro handler hmem serial hsink
        refine h serial (List.mem_filterMap.mpr ⟨handler, (List.mem_filter.mp hmem).1, ?_⟩)
        rw [hsink]
        rfl
      obtain ⟨hworld, hmuted, hrecords⟩ := foldl_deliver (fun w => r.line w.now ++ "\n") hfiles w
        { j.meetLogger r.logger with records := (j.meetLogger r.logger).records.push r }
      rw [← handlers_meetLogger j r.logger] at hworld hmuted hrecords
      refine ⟨hworld, hmuted, (congrArg Array.toList hrecords).trans ?_⟩
      simp
    · rw [if_neg htaken, if_neg htaken]
      exact ⟨rfl, rfl, by simp⟩
  · rw [if_pos (by simp [hbelongs]), if_neg hbelongs]
    refine ⟨rfl, ?_, ?_⟩
    · split <;> rfl
    · by_cases hlevel : 0 < r.level
      · simp [hlevel]
      · simp [hlevel]

/-! ## Several records -/

def meetAll (j : Journal) (rs : List Record) : Journal :=
  rs.foldl (fun j r => j.meetLogger r.logger) j

def kept : Journal → List Record → List Record
  | _, [] => []
  | j, r :: rs => (if j.takes r then [r] else []) ++ kept (j.meetLogger r.logger) rs

theorem meetAll_muted (j : Journal) (rs : List Record) :
    j.muted.meetAll rs = (j.meetAll rs).muted := by
  induction rs generalizing j with
  | nil => rfl
  | cons r rs ih =>
      simp only [meetAll, List.foldl_cons] at ih ⊢
      rw [meetLogger_muted, ih]

theorem fileSerials_meetAll (j : Journal) (rs : List Record) :
    (j.meetAll rs).fileSerials = j.fileSerials := by
  induction rs generalizing j with
  | nil => rfl
  | cons r rs ih =>
      rw [meetAll, List.foldl_cons]
      refine (ih (j.meetLogger r.logger)).trans ?_
      rw [fileSerials, handlers_meetLogger, fileSerials]

theorem exists_meetAll_eq (j : Journal) (rs : List Record) :
    ∃ loggers, j.meetAll rs = { j with loggers } := by
  induction rs generalizing j with
  | nil => exact ⟨j.loggers, rfl⟩
  | cons r rs ih =>
      obtain ⟨loggers, hrest⟩ := ih (j.meetLogger r.logger)
      refine ⟨loggers, hrest.trans ?_⟩
      unfold meetLogger
      split <;> rfl

def HasMet (j : Journal) (name : String) : Prop :=
  j.loggers.contains name = true

theorem HasMet.of_muted_eq {j k : Journal} {name : String} (met : k.HasMet name)
    (h : j.muted = k.muted) : j.HasMet name := by
  have hloggers : j.muted.loggers = k.muted.loggers := congrArg loggers h
  have hsame : j.loggers.contains name = k.loggers.contains name :=
    congrArg (List.contains · name) hloggers
  exact hsame.trans met

theorem hasMet_meetLogger_self (j : Journal) (name : String) :
    (j.meetLogger name).HasMet name := by
  unfold meetLogger HasMet
  split
  · assumption
  · simp

theorem HasMet.meetLogger {j : Journal} {name : String} (met : j.HasMet name) (other : String) :
    (j.meetLogger other).HasMet name := by
  unfold HasMet at met ⊢
  unfold Journal.meetLogger
  split
  · exact met
  · exact List.contains_iff_mem.mpr (List.mem_cons_of_mem other (List.contains_iff_mem.mp met))

theorem HasMet.meetAll {j : Journal} {name : String} (met : j.HasMet name) (rs : List Record) :
    (j.meetAll rs).HasMet name := by
  induction rs generalizing j with
  | nil => exact met
  | cons r rs ih => exact ih (met.meetLogger r.logger)

theorem HasMet.meetAll_eq {j : Journal} {name : String} (met : j.HasMet name) {rs : List Record}
    (own : ∀ r ∈ rs, r.logger = name) : j.meetAll rs = j := by
  induction rs with
  | nil => rfl
  | cons r rs ih =>
      have hsame : j.meetLogger name = j := if_pos met
      rw [Journal.meetAll, List.foldl_cons, own r List.mem_cons_self, hsame]
      exact ih fun other hother => own other (List.mem_cons_of_mem r hother)

theorem kept_muted (j : Journal) (rs : List Record) : j.muted.kept rs = j.kept rs := by
  induction rs generalizing j with
  | nil => rfl
  | cons r rs ih => rw [kept, kept, takes_muted, meetLogger_muted, ih]

theorem emitAll_spec (w : World) (j : Journal) (rs : List Record)
    (h : ∀ serial ∈ j.fileSerials, serial ∈ serials) :
    (emitAll w j rs).1.blank .contentAndTime serials = w.blank .contentAndTime serials ∧
      (emitAll w j rs).2.muted = (j.meetAll rs).muted ∧
      (emitAll w j rs).2.records.toList = j.records.toList ++ j.kept rs := by
  induction rs generalizing w j with
  | nil => exact ⟨rfl, rfl, (List.append_nil _).symm⟩
  | cons r rs ih =>
      obtain ⟨hworld, hmuted, hrecords⟩ := emit_spec w j r h
      have hfiles : (emit w j r).2.fileSerials = j.fileSerials := by
        rw [fileSerials_of_muted_eq hmuted, fileSerials, handlers_meetLogger, fileSerials]
      obtain ⟨hworld', hmuted', hrecords'⟩ :=
        ih (emit w j r).1 (emit w j r).2 (by rw [hfiles]; exact h)
      have hkept : (emit w j r).2.kept rs = (j.meetLogger r.logger).kept rs := by
        rw [← kept_muted, hmuted, kept_muted]
      have hmet : ((emit w j r).2.meetAll rs).muted = (j.meetAll (r :: rs)).muted := by
        rw [← meetAll_muted, hmuted, meetAll_muted]
        rfl
      refine ⟨hworld'.trans hworld, hmuted'.trans hmet, hrecords'.trans ?_⟩
      rw [hrecords, hkept, kept, List.append_assoc]

theorem host_emitAll (w : World) (j : Journal) (rs : List Record) :
    (emitAll w j rs).1.host = w.host :=
  congrArg (·.host) (emitAll_spec w j rs fun _ hmem => hmem).1

/-! ## Setting up -/

/-- Setting up a log for the first time asks nothing about what was said before. -/
theorem setup_of_not_initialized {j : Journal} (h : j.initialized = false) (w : World)
    (settings : Option LoggingSettings) :
    (j.setup w settings).1 = (({} : Journal).setup w settings).1 ∧
      (j.setup w settings).2.1 = (({} : Journal).setup w settings).2.1 := by
  have hfile : ∀ (j k : Journal) (file : FileName),
      (attachFile w j file).1 = (attachFile w k file).1 ∧
      (attachFile w j file).2.1 = (attachFile w k file).2.1 := by
    intro j k file
    unfold attachFile
    dsimp only
    split
    · exact ⟨rfl, rfl⟩
    · split
      · exact ⟨rfl, rfl⟩
      · split <;> exact ⟨rfl, rfl⟩
  unfold setup
  rw [if_neg (by simp [h]), if_neg (by simp)]
  dsimp only
  split
  · exact ⟨rfl, rfl⟩
  · split
    · exact ⟨rfl, rfl⟩
    · split
      · exact hfile _ _ _
      · exact ⟨rfl, rfl⟩

end Journal

end Log

end TreeWatch
