import Mathlib.Data.List.Forall2
import TreeWatch.Proofs.Settings.Sources

/-!
# Each setting from its own value

Every setting is read from the one value that stands for it. Where there is none, and where it is
not fit, the setting has its default, and of each value that is not fit there is one warning. This
does not hold of all: what is to be the level or the file of the log is taken over whatever it is,
and an interval that is a whole number too large for a double keeps all settings from being read.
-/

namespace TreeWatch

namespace Decimal

/-- The size from which on a whole number is too large for a double, which is half a unit beyond the
greatest one. -/
def doubleLimit : Nat :=
  Nat.pow 2 1024 - Nat.pow 2 970

theorem ofInt?_eq_none_iff {i : Int} : ofInt? i = none ↔ doubleLimit ≤ i.natAbs := by
  rw [ofInt?, doubleLimit]
  split
  · next hsmall => exact ⟨nofun, fun h => absurd hsmall (Nat.not_lt.mpr h)⟩
  · next hlarge => exact ⟨fun _ => Nat.not_lt.mp hlarge, fun _ => rfl⟩

end Decimal

namespace Settings

open Log

inductive LoggingKey where
  | level
  | verbose
  | file

def LoggingKey.name : LoggingKey → String
  | level => "level"
  | verbose => "verbose"
  | file => "file"

/-- A setting with its section. -/
inductive Setting where
  | poller (key : PollerKey)
  | logging (key : LoggingKey)

inductive Content where
  | time (interval : Interval)
  | switch (b : Bool)
  | value (v : Value)

/-- What a section holds under a key, which is nothing if it is no mapping. -/
def rawAt (entries : Entries) (group key : String) : Option Value :=
  match entries.getText? group with
  | some (.map inner) => Entries.getText? inner key
  | _ => none

/-- The verbosity that a value stands for. One that is no whole number stands for the default. -/
def verbosityOf : Value → Value
  | .int n => .int n
  | .bool b => .bool b
  | _ => .null

namespace Setting

def name : Setting → String
  | poller key => "poller." ++ key.name
  | logging key => "logging." ++ key.name

def raw (entries : Entries) : Setting → Option Value
  | poller key => rawAt entries "poller" key.name
  | logging key => rawAt entries "logging" key.name

def content (settings : Settings) : Setting → Content
  | poller .interval => .time settings.poller.interval
  | poller .recursive => .switch settings.poller.recursive
  | poller .trackDirectories => .switch settings.poller.trackDirectories
  | poller .trackSymlinks => .switch settings.poller.trackSymlinks
  | logging .level => .value settings.logging.level
  | logging .verbose => .value settings.logging.verbose
  | logging .file => .value settings.logging.file

def standard (s : Setting) : Content :=
  s.content {}

/-- What a setting is by its value alone. -/
def read : Setting → Value → Content
  | poller .interval, v => .time (.seconds (intervalOf v))
  | poller .recursive, v => .switch (switchOf true v)
  | poller .trackDirectories, v | poller .trackSymlinks, v => .switch (switchOf false v)
  | logging .verbose, v => .value (verbosityOf v)
  | logging .level, v | logging .file, v => .value v

/-- Whether a value is of the kind that a setting asks for. What is said of the log is not looked
at, but for the verbosity. -/
def fits : Setting → Value → Bool
  | poller .interval, v =>
    match number? v with
    | .ok (some x) => !decide (x ≤ 0)
    | _ => false
  | poller .recursive, v | poller .trackDirectories, v | poller .trackSymlinks, v =>
    (switch? v).isSome
  | logging .verbose, v =>
    match v with
    | .null | .int _ | .bool _ => true
    | _ => false
  | logging .level, _ | logging .file, _ => true

theorem read_of_not_fits {s : Setting} {v : Value} (h : s.fits v = false) :
    s.read v = s.standard := by
  have hswitch : ∀ standard, (switch? v).isSome = false → switchOf standard v = standard := by
    intro standard hfits
    have hnone : switch? v = none := by simpa using hfits
    rw [switchOf, hnone, Option.getD_none]
  cases s with
  | poller key =>
      cases key with
      | interval =>
          refine congrArg (fun x => Content.time (.seconds x)) ?_
          simp only [fits] at h
          unfold intervalOf
          cases hnumber : number? v with
          | error e => rfl
          | ok x? =>
              rw [hnumber] at h
              cases x? with
              | none => rfl
              | some x =>
                  have hle : x ≤ 0 := by simpa using h
                  exact if_pos hle
      | recursive | trackDirectories | trackSymlinks =>
          exact congrArg Content.switch (hswitch _ h)
  | logging key =>
      cases key with
      | level | file => simp [fits] at h
      | verbose => cases v <;> simp_all [fits, read, verbosityOf, standard, content]

end Setting

/-! ## What is warned of -/

inductive Subject where
  | group (name : String)
  | setting (s : Setting)

namespace Subject

def name : Subject → String
  | group name => Text.quoted name
  | setting s => s.name

/-- What entries hold there is not of the kind that is asked for. -/
def isAmiss (entries : Entries) : Subject → Bool
  | group name => (entries.getText? name).any fun v => !v.isMapping
  | setting s => (s.raw entries).any fun v => !s.fits v

/-- All sections and settings, in the order in which they are read. -/
def all : List Subject :=
  [group "poller", setting (.poller .interval), setting (.poller .recursive),
    setting (.poller .trackDirectories), setting (.poller .trackSymlinks), group "logging",
    setting (.logging .verbose), setting (.logging .level), setting (.logging .file)]

section Given

variable {entries : Entries} {s : Setting}

theorem isAmiss_of_none (h : s.raw entries = none) : (setting s).isAmiss entries = false := by
  rw [isAmiss, h, Option.any_none]

theorem isAmiss_of_some {v : Value} (h : s.raw entries = some v) :
    (setting s).isAmiss entries = !s.fits v := by
  rw [isAmiss, h, Option.any_some]

end Given

theorem setting_mem_all (s : Setting) : setting s ∈ all := by
  cases s with
  | poller key => cases key <;> simp [all]
  | logging key => cases key <;> simp [all]

end Subject

def Warns (subject : Subject) (r : Record) : Prop :=
  r.level = Level.warning ∧ r.logger = loggerName (some "config") ∧
    ∃ before after, r.message = before ++ subject.name ++ after

/-- Of each subject that is amiss there is one warning, in their order, and there is no other
record. -/
def WarnsOf (entries : Entries) (subjects : List Subject) (records : List Record) : Prop :=
  List.Forall₂ Warns (subjects.filter (Subject.isAmiss entries)) records

section Warnings

variable {entries : Entries}

theorem WarnsOf.append {subjects others : List Subject} {records more : List Record}
    (h : WarnsOf entries subjects records) (h' : WarnsOf entries others more) :
    WarnsOf entries (subjects ++ others) (records ++ more) := by
  rw [WarnsOf, List.filter_append]
  exact List.rel_append h h'

theorem warnsOf_singleton_of_amiss {subject : Subject} {r : Record}
    (amiss : subject.isAmiss entries = true) (warns : Warns subject r) :
    WarnsOf entries [subject] [r] := by
  rw [WarnsOf, List.filter_cons_of_pos amiss]
  exact .cons warns .nil

theorem warnsOf_singleton_of_not_amiss {subject : Subject}
    (amiss : subject.isAmiss entries = false) : WarnsOf entries [subject] [] := by
  rw [WarnsOf, List.filter_cons_of_neg (by simp [amiss])]
  exact .nil

theorem WarnsOf.exists_of_amiss {subjects : List Subject} {records : List Record}
    (h : WarnsOf entries subjects records) {subject : Subject} (mem : subject ∈ subjects)
    (amiss : subject.isAmiss entries = true) : ∃ r ∈ records, Warns subject r := by
  have hmem : subject ∈ subjects.filter (Subject.isAmiss entries) :=
    List.mem_filter.mpr ⟨mem, amiss⟩
  unfold WarnsOf at h
  generalize subjects.filter (Subject.isAmiss entries) = warned at h hmem
  induction h with
  | nil => exact absurd hmem List.not_mem_nil
  | @cons s r _ _ hwarns _ ih =>
      rcases List.mem_cons.mp hmem with rfl | htail
      · exact ⟨r, List.mem_cons_self, hwarns⟩
      · obtain ⟨r', hr', hwarns'⟩ := ih htail
        exact ⟨r', List.mem_cons_of_mem r hr', hwarns'⟩

theorem warns_of_message {subject : Subject} {message : String} (before after : String)
    (h : message = before ++ subject.name ++ after) :
    Warns subject (.of .warning "config" message) :=
  ⟨rfl, rfl, before, after, h⟩

end Warnings

/-! ## One section -/

section Section

variable {entries : Entries}

theorem getText?_section? (entries : Entries) (group key : String) :
    ((section? entries group).outcome).getText? key = rawAt entries group key := by
  unfold section? rawAt
  cases entries.getText? group with
  | none => rfl
  | some v => cases v <;> rfl

theorem warnsOf_section? (entries : Entries) (group : String) :
    WarnsOf entries [.group group] (section? entries group).records := by
  unfold section?
  split
  · next hnone => exact warnsOf_singleton_of_not_amiss (by simp [Subject.isAmiss, hnone])
  · next inner hinner =>
      exact warnsOf_singleton_of_not_amiss (by simp [Subject.isAmiss, hinner, Value.isMapping])
  · next v hne hv =>
      have hmapping : v.isMapping = false := by
        rw [Bool.eq_false_iff]
        intro hmapping
        obtain ⟨inner, rfl⟩ := Value.isMapping_iff.mp hmapping
        exact hne inner rfl
      exact warnsOf_singleton_of_amiss (by simp [Subject.isAmiss, hv, hmapping])
        (warns_of_message "Ignoring config section " ": expected a mapping" rfl)

/-! ## One setting -/

theorem warnsOf_intervalIn {inner : Entries} {r : Reported Float}
    (raw : (Setting.poller .interval).raw entries = inner.getText? "interval")
    (h : intervalIn inner = .ok r) :
    WarnsOf entries [.setting (.poller .interval)] r.records := by
  unfold intervalIn at h
  split at h
  · next hnone =>
      cases h
      exact warnsOf_singleton_of_not_amiss (Subject.isAmiss_of_none (raw.trans hnone))
  · next v hv =>
      have hamiss := Subject.isAmiss_of_some (raw.trans hv)
      obtain ⟨x?, hx?, hr⟩ := bind_eq_ok_iff.mp h
      simp only [Setting.fits, hx?] at hamiss
      split at hr
      · cases hr
        refine warnsOf_singleton_of_amiss hamiss ?_
        have hlead : "Invalid poller.interval " =
            "Invalid " ++ (Subject.setting (.poller .interval)).name ++ " " := by decide
        refine warns_of_message "Invalid "
          (" " ++ (v.literal ++ (", using " ++ Decimal.onePlace standardInterval))) ?_
        rw [hlead]
        simp only [String.append_assoc]
      · next x =>
          split at hr
          · next hle =>
              cases hr
              refine warnsOf_singleton_of_amiss (by simp [hamiss, hle]) ?_
              have hlead : "poller.interval must be positive, got " =
                  "" ++ (Subject.setting (.poller .interval)).name ++
                    " must be positive, got " := by
                decide
              refine warns_of_message "" (" must be positive, got " ++ v.literal) ?_
              rw [hlead]
              simp only [String.append_assoc]
          · next hlt =>
              cases hr
              exact warnsOf_singleton_of_not_amiss (by simp [hamiss, hlt])

theorem warnsOf_switchIn {inner : Entries} {key : PollerKey} {standard : Bool}
    (raw : (Setting.poller key).raw entries = inner.getText? key.name)
    (fits : ∀ v, (Setting.poller key).fits v = (switch? v).isSome) :
    WarnsOf entries [.setting (.poller key)] (switchIn inner key.name standard).records := by
  unfold switchIn
  cases hv : inner.getText? key.name with
  | none => exact warnsOf_singleton_of_not_amiss (Subject.isAmiss_of_none (raw.trans hv))
  | some v =>
      have hamiss := Subject.isAmiss_of_some (raw.trans hv)
      rw [fits] at hamiss
      dsimp only
      unfold switch
      cases hswitch : switch? v with
      | some b => exact warnsOf_singleton_of_not_amiss (by simp [hamiss, hswitch])
      | none =>
          refine warnsOf_singleton_of_amiss (by simp [hamiss, hswitch]) ?_
          refine warns_of_message "Invalid boolean for " (": " ++ v.literal) ?_
          simp only [Subject.name, Setting.name, String.append_assoc]

theorem warnsOf_verbosityIn {inner : Entries}
    (raw : (Setting.logging .verbose).raw entries = inner.getText? "verbose") :
    WarnsOf entries [.setting (.logging .verbose)] (verbosityIn inner).records := by
  unfold verbosityIn
  split
  · next hnone => exact warnsOf_singleton_of_not_amiss (Subject.isAmiss_of_none (raw.trans hnone))
  · next hv => exact warnsOf_singleton_of_not_amiss (Subject.isAmiss_of_some (raw.trans hv))
  · next n hv => exact warnsOf_singleton_of_not_amiss (Subject.isAmiss_of_some (raw.trans hv))
  · next b hv => exact warnsOf_singleton_of_not_amiss (Subject.isAmiss_of_some (raw.trans hv))
  · next v hnull hint hbool hv =>
      have hfits : (Setting.logging .verbose).fits v = false := by
        cases v <;> simp_all [Setting.fits]
      have hamiss := Subject.isAmiss_of_some (raw.trans hv)
      refine warnsOf_singleton_of_amiss (by simp [hamiss, hfits]) ?_
      have hlead : "Invalid logging.verbose " =
          "Invalid " ++ (Subject.setting (.logging .verbose)).name ++ " " := by decide
      refine warns_of_message "Invalid " (" " ++ v.literal) ?_
      rw [hlead]
      simp only [String.append_assoc]

theorem outcome_verbosityIn (inner : Entries) :
    (verbosityIn inner).outcome = (inner.getText? "verbose").elim .null verbosityOf := by
  unfold verbosityIn
  cases inner.getText? "verbose" with
  | none => rfl
  | some v => cases v <;> rfl

/-- The only values of which no interval is read are whole numbers beyond the doubles. -/
theorem number?_eq_error_iff {v : Value} {e : Failure} :
    number? v = .error e ↔
      e = .tooLarge ∧ ∃ i : Int, v = .int i ∧ Decimal.doubleLimit ≤ i.natAbs := by
  cases v with
  | int i =>
      simp only [← Decimal.ofInt?_eq_none_iff, Value.int.injEq, exists_eq_left']
      unfold number?
      dsimp only
      cases Decimal.ofInt? i with
      | none => simp [eq_comm]
      | some x => simp
  | _ =>
      unfold number?
      simp

theorem interval_eq_error_iff {v : Value} {e : Failure} :
    interval v = .error e ↔ number? v = .error e := by
  unfold interval
  cases number? v with
  | error d => simp [bind, Except.bind]
  | ok x? =>
      cases x? with
      | none => simp [bind, Except.bind]
      | some x => by_cases hle : x ≤ 0 <;> simp [bind, Except.bind, hle]

theorem intervalIn_eq_error_iff {inner : Entries} {e : Failure} :
    intervalIn inner = .error e ↔ e = .tooLarge ∧
      ∃ i : Int, inner.getText? "interval" = some (.int i) ∧ Decimal.doubleLimit ≤ i.natAbs := by
  unfold intervalIn
  cases inner.getText? "interval" with
  | none => simp
  | some v => simp only [interval_eq_error_iff, number?_eq_error_iff, Option.some.injEq]

end Section

/-! ## All settings -/

variable {entries : Entries} {settings : Settings}

theorem outcome_ofEntries_eq_error_iff {e : Failure} :
    (ofEntries entries).outcome = .error e ↔ e = .tooLarge ∧
      ∃ i : Int, rawAt entries "poller" "interval" = some (.int i) ∧
        Decimal.doubleLimit ≤ i.natAbs := by
  rw [← getText?_section?, ← intervalIn_eq_error_iff, ofEntries, Reported.outcome_bind]
  cases intervalIn (section? entries "poller").outcome with
  | error d => simp
  | ok r => simp

theorem ofEntries_eq_ok (h : (ofEntries entries).outcome = .ok settings) :
    ∃ r, intervalIn (section? entries "poller").outcome = .ok r ∧
      settings.logging =
        { level := (rawAt entries "logging" "level").getD .null
          verbose := (rawAt entries "logging" "verbose").elim .null verbosityOf
          file := (rawAt entries "logging" "file").getD .null } ∧
      settings.extra = extraIn entries ∧
      (ofEntries entries).records =
        let inner := (section? entries "poller").outcome
        (section? entries "poller").records ++ (r.records ++
          ((switchIn inner "recursive" true).records ++
            ((switchIn inner "track_directories" false).records ++
              ((switchIn inner "track_symlinks" false).records ++
                ((section? entries "logging").records ++
                  (verbosityIn (section? entries "logging").outcome).records))))) := by
  unfold ofEntries at h ⊢
  rw [Reported.outcome_bind] at h
  rw [Reported.records_bind]
  cases hinterval : intervalIn (section? entries "poller").outcome with
  | error e => simp [hinterval] at h
  | ok r =>
      rw [hinterval] at h
      simp only [Reported.outcome_bind, Reported.outcome_pure, outcome_verbosityIn,
        getText?_section?] at h
      cases h
      refine ⟨r, rfl, rfl, rfl, ?_⟩
      simp only [Reported.records_bind, Reported.records_pure, List.append_nil]

theorem warnsOf_ofEntries (h : (ofEntries entries).outcome = .ok settings) :
    WarnsOf entries Subject.all (ofEntries entries).records := by
  obtain ⟨r, hinterval, -, -, hrecords⟩ := ofEntries_eq_ok h
  have hraw : ∀ key : PollerKey, (Setting.poller key).raw entries =
      (section? entries "poller").outcome.getText? key.name :=
    fun key => (getText?_section? entries "poller" key.name).symm
  have hverbose : (Setting.logging .verbose).raw entries =
      (section? entries "logging").outcome.getText? "verbose" :=
    (getText?_section? entries "logging" "verbose").symm
  have hclear : ∀ s : Setting, (∀ v, s.fits v = true) → WarnsOf entries [.setting s] [] := by
    intro s hfits
    refine warnsOf_singleton_of_not_amiss ?_
    simp [Subject.isAmiss, hfits]
  rw [hrecords]
  refine (warnsOf_section? entries "poller").append ?_
  refine (warnsOf_intervalIn (hraw .interval) hinterval).append ?_
  refine (warnsOf_switchIn (hraw .recursive) fun _ => rfl).append ?_
  refine (warnsOf_switchIn (hraw .trackDirectories) fun _ => rfl).append ?_
  refine (warnsOf_switchIn (hraw .trackSymlinks) fun _ => rfl).append ?_
  refine (warnsOf_section? entries "logging").append ?_
  have hlogging := (warnsOf_verbosityIn hverbose).append
    ((hclear (.logging .level) fun _ => rfl).append (hclear (.logging .file) fun _ => rfl))
  rwa [List.append_nil, List.append_nil] at hlogging

/-- Every setting is read from its own value, and its default counts where there is none. -/
theorem content_ofEntries (h : (ofEntries entries).outcome = .ok settings) (s : Setting) :
    s.content settings = (s.raw entries).elim s.standard s.read := by
  obtain ⟨r, -, hlogging, -, -⟩ := ofEntries_eq_ok h
  have hpoller := poller_ofEntries h
  simp only [getText?_section?] at hpoller
  cases s with
  | poller key =>
      cases key <;> simp only [Setting.content, hpoller, ofRaw, Setting.raw, PollerKey.name] <;>
        cases rawAt entries "poller" _ <;> rfl
  | logging key =>
      cases key <;> simp only [Setting.content, hlogging, Setting.raw, LoggingKey.name] <;>
        cases rawAt entries "logging" _ <;> rfl

theorem unfit_ofEntries (h : (ofEntries entries).outcome = .ok settings) {s : Setting} {v : Value}
    (raw : s.raw entries = some v) (unfit : s.fits v = false) :
    s.content settings = s.standard ∧
      ∃ r ∈ (ofEntries entries).records, Warns (.setting s) r := by
  constructor
  · rw [content_ofEntries h, raw, Option.elim_some, Setting.read_of_not_fits unfit]
  · refine (warnsOf_ofEntries h).exists_of_amiss (Subject.setting_mem_all s) ?_
    rw [Subject.isAmiss_of_some raw, unfit, Bool.not_false]

theorem fits_verbosityOf (v : Value) :
    (Setting.logging .verbose).fits (verbosityOf v) = true := by
  cases v <;> rfl

/-- The verbosity is a whole number or nothing. -/
theorem fits_verbose_ofEntries (h : (ofEntries entries).outcome = .ok settings) :
    (Setting.logging .verbose).fits settings.logging.verbose = true := by
  obtain ⟨r, -, hlogging, -, -⟩ := ofEntries_eq_ok h
  rw [hlogging]
  dsimp only
  cases rawAt entries "logging" "verbose" with
  | none => rfl
  | some v => exact fits_verbosityOf v

def namesGroup : Value → Bool
  | .text name => name = "poller" || name = "logging"
  | _ => false

theorem extraIn_eq (entries : Entries) :
    extraIn entries = entries.filter fun e => !namesGroup e.1 := by
  refine List.filter_congr fun e _ => congrArg _ ?_
  rw [Bool.eq_iff_iff, Bool.or_eq_true, Value.sameKey_text_iff, Value.sameKey_text_iff]
  cases e.1 <;> simp [namesGroup]

structure IsReadFrom (entries : Entries) (settings : Settings) (records : List Record) : Prop where
  content : ∀ s : Setting, s.content settings = (s.raw entries).elim s.standard s.read
  unfit : ∀ (s : Setting) (v : Value), s.raw entries = some v → s.fits v = false →
    s.content settings = s.standard ∧ ∃ r ∈ records, Warns (.setting s) r
  warnings : WarnsOf entries Subject.all records
  interval : ∃ x, settings.poller.interval = .seconds x
  verbose : (Setting.logging .verbose).fits settings.logging.verbose = true
  extra : settings.extra = entries.filter fun e => !namesGroup e.1

structure Coerces (entries : Entries) (r : Reported (Except Failure Settings)) : Prop where
  /-- One value alone can keep settings from being read. -/
  fails : ∀ e, r.outcome = .error e ↔ e = .tooLarge ∧
    ∃ i : Int, rawAt entries "poller" "interval" = some (.int i) ∧ Decimal.doubleLimit ≤ i.natAbs
  reads : ∀ settings, r.outcome = .ok settings → IsReadFrom entries settings r.records
  /-- A setting is the same wherever its value is, whatever else is there. -/
  own : ∀ (others : Entries) (settings settings' : Settings), r.outcome = .ok settings →
    (ofEntries others).outcome = .ok settings' →
      ∀ s : Setting, s.raw entries = s.raw others → s.content settings = s.content settings'

/-- Unless the interval is a whole number too large for a double, settings are read from all
entries, each from its own value or, where that does not fit, as its default with a warning. -/
theorem coerces_ofEntries (entries : Entries) : Coerces entries (ofEntries entries) where
  fails _ := outcome_ofEntries_eq_error_iff
  reads settings h := by
    refine ⟨content_ofEntries h, fun s v => unfit_ofEntries h, warnsOf_ofEntries h, ?_,
      fits_verbose_ofEntries h, ?_⟩
    · exact ⟨_, congrArg PollerSettings.interval (poller_ofEntries h)⟩
    · obtain ⟨r, -, -, hextra, -⟩ := ofEntries_eq_ok h
      rw [hextra, extraIn_eq]
  own others settings settings' h h' s same := by
    rw [content_ofEntries h, content_ofEntries h', same]

def immenseEntries : Entries :=
  [(.text "poller", .map [
    (.text "interval", .int Decimal.doubleLimit), (.text "recursive", .bool false)])]

/-- An interval beyond the doubles is not replaced by the default but keeps all from being read. -/
theorem not_forall_read :
    ¬∀ entries : Entries, ∃ settings, (ofEntries entries).outcome = .ok settings := by
  intro h
  obtain ⟨settings, hsettings⟩ := h immenseEntries
  have herror : (ofEntries immenseEntries).outcome = .error .tooLarge :=
    outcome_ofEntries_eq_error_iff.mpr
      ⟨rfl, Decimal.doubleLimit, rfl, Nat.le_of_eq (Int.natAbs_natCast _).symm⟩
  rw [herror] at hsettings
  exact nomatch hsettings

end Settings

end TreeWatch
