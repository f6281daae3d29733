import TreeWatch.Proofs.Log.Attending
import TreeWatch.Proofs.Session.Unison

/-!
# Log files in the course of a session

From the moment at which a log is set up on a file until it is reset, the file gets a line for each
record that reaches the level of the log, whatever is done in between. Before and afterwards it gets
none. All this holds of what loggers of the family say: there are loggers with names that begin with
a dot, which are not above those that the family knows.
-/

namespace TreeWatch.Session

open Log

variable {τ : Type}

/-! ## While a log goes to a file -/

/-- What neither changes the tree by hand nor resets the log. -/
def LeavesLog (a : Action) : Prop :=
  (∀ change, a ≠ .edit change) ∧ a ≠ .resetLogging

theorem unison_attended {n : Nat} {level : Level} {now : Int} {earlier : List Record}
    {known : Bytes → Node → Prop} (pos : 0 < level)
    (appended : ∀ {lines root} bytes time?, known lines root →
      known (lines ++ bytes) (root.appendTo n bytes time?)) :
    Unison LeavesLog (Journal.Attended n level now earlier known) where
  emitAll h rs := h.emitAll pos appended rs
  setup _ h settings := h.setup settings
  reset permitted _ := absurd rfl permitted.2
  edit permitted _ := absurd rfl (permitted.1 _)
  changeDirectory {_ _ _ _ path} _ h :=
    ⟨congrArg (fun w : World => { w with directory := path }) h.world, h.journal, h.setting,
      h.moment, h.tree, h.kept⟩
  setVariable h name value :=
    ⟨congrArg (World.setVariable · name value) h.world, h.journal, h.setting, h.moment, h.tree,
      h.kept⟩
  findings h scope root := congrArg (Walk.findings · scope root) h.world
  validate h r := congrArg r.validate h.world
  allFiles h project named := congrArg (Settings.allFiles · project named) h.world
  environment h := congrArg World.environment h.world
  host h := congrArg World.host h.world
  entriesOfFile h p := congrArg (Settings.entriesOfFile · p) h.world

def attentive (s : Session τ) : Session τ :=
  { s with journal := s.journal.attentive }

variable [Timeline τ]

omit [Timeline τ] in
theorem records_emit_of_level_eq_zero {s : Session τ} (level : s.journal.level = 0)
    (rs : List Record) :
    (s.emit rs).journal.records.toList =
      s.journal.records.toList ++ rs.filter (0 < ·.level) := by
  rw [← Journal.kept_of_level_eq_zero level]
  exact (Journal.emitAll_spec s.world s.journal rs fun _ hmem => hmem).2.2

/-- All that is said along some moves while the log is set up. -/
def uttered (s : Session τ) (ms : List (Move τ)) : List Record :=
  (s.attentive.makeAll ms).journal.records.toList

/-- Each change of the tree by hand leads from a tree to one that is related to it. -/
def EditsObey (P : Node → Node → Prop) (s : Session τ) (ms : List (Move τ)) : Prop :=
  ∀ before change after, ms = before ++ .act (.edit change) :: after →
    P (s.makeAll before).world.root ((s.makeAll before).world.edit change).root

theorem EditsObey.tail {P : Node → Node → Prop} {s : Session τ} {m : Move τ} {ms : List (Move τ)}
    (h : EditsObey P s (m :: ms)) : EditsObey P (s.make m) ms :=
  fun before change after hsplit => h (m :: before) change after (congrArg (m :: ·) hsplit)

omit [Timeline τ] in
theorem linked_attentive {s : Session τ} {n : Nat} {level : Level} {known : Bytes → Node → Prop}
    (setting : s.journal.setting = (true, level, [⟨.file n, level⟩]))
    (start : known [] s.world.root) :
    Linked (Journal.Attended n level s.world.now s.journal.records.toList known) s s.attentive :=
  ⟨Journal.attended_attentive setting start, rfl, rfl, rfl, rfl, rfl, rfl, rfl, rfl⟩

section Attended

variable {n : Nat} {level : Level} {now : Int} {earlier : List Record}
  {known : Bytes → Node → Prop} (pos : 0 < level)
  (appended : ∀ {lines root} bytes time?, known lines root →
    known (lines ++ bytes) (root.appendTo n bytes time?))

include pos appended

theorem linked_makeAll_attended {s t : Session τ}
    (h : Linked (Journal.Attended n level now earlier known) s t) {ms : List (Move τ)}
    (lasting : .act .resetLogging ∉ ms)
    (edits : EditsObey (fun old new => ∀ lines, known lines old → known lines new) s ms) :
    Linked (Journal.Attended n level now earlier known) (s.makeAll ms) (t.makeAll ms) := by
  induction ms generalizing s t with
  | nil => exact h
  | cons m ms ih =>
      have hrest := List.not_mem_of_not_mem_cons lasting
      refine ih ?_ hrest edits.tail
      by_cases hedit : ∃ change, m = .act (.edit change)
      · obtain ⟨change, rfl⟩ := hedit
        have hchange := edits [] change ms rfl
        have hworld : t.world.edit change = s.world.edit change :=
          congrArg (World.edit · change) h.log.world
        have hlog : Journal.Attended n level now earlier known (s.world.edit change, s.journal)
            (t.world.edit change, t.journal) :=
          ⟨hworld, h.log.journal, h.log.setting, h.log.moment,
            fun family => hchange _ (h.log.tree family), h.log.kept⟩
        exact { h with log := hlog }
      · refine h.make (unison_attended pos appended) fun a ha => ?_
        subst ha
        exact ⟨fun change hchange => hedit ⟨change, hchange ▸ rfl⟩,
          fun hreset => lasting (hreset ▸ List.mem_cons_self)⟩

variable (known) in
/-- What is known of the tree when a log goes to a file is known of it along all that follows, with
the lines of what is said. -/
theorem known_makeAll {s : Session τ}
    (setting : s.journal.setting = (true, level, [⟨.file n, level⟩]))
    (start : known [] s.world.root) {ms : List (Move τ)} (lasting : .act .resetLogging ∉ ms)
    (family : ∀ r ∈ s.uttered ms, level ≤ r.level → IsOfFamily r.logger)
    (edits : EditsObey (fun old new => ∀ lines, known lines old → known lines new) s ms) :
    known (linesOf s.world.now level (s.uttered ms)) (s.makeAll ms).world.root :=
  (linked_makeAll_attended pos appended (linked_attentive setting start) lasting edits).log.tree
    family

end Attended

/-- Where nothing else writes to the file of a number, what it holds after some moves is what it
held before them, followed by the lines of what was said. -/
def Appends (n : Nat) (level : Level) (s : Session τ) (ms : List (Move τ)) : Prop :=
  EditsObey (fun old new => ∀ c, new.Holds n c → old.Holds n c) s ms →
    ∀ c, (s.makeAll ms).world.root.Holds n c →
      ∃ before, s.world.root.Holds n before ∧
        c = before ++ linesOf s.world.now level (s.uttered ms)

/-- Where the file of a number is left alone by hand, what it held before some moves is there after
them, followed by the lines of what was said. -/
def Retains (n : Nat) (level : Level) (s : Session τ) (ms : List (Move τ)) : Prop :=
  EditsObey (fun old new => ∀ c, old.Holds n c → new.Holds n c) s ms →
    ∀ before, s.world.root.Holds n before →
      (s.makeAll ms).world.root.Holds n (before ++ linesOf s.world.now level (s.uttered ms))

section Files

variable {s : Session τ} {n : Nat} {level : Level} (pos : 0 < level)
  (setting : s.journal.setting = (true, level, [⟨.file n, level⟩])) {ms : List (Move τ)}
  (lasting : .act .resetLogging ∉ ms)

include pos setting lasting

/-- A log keeps what the family says that reaches its level, wherever it goes to. -/
theorem records_makeAll (family : ∀ r ∈ s.uttered ms, IsOfFamily r.logger) :
    (s.makeAll ms).journal.records.toList =
      s.journal.records.toList ++ (s.uttered ms).filter (level ≤ ·.level) := by
  have hstart : Linked (Journal.Attended n level s.world.now s.journal.records.toList
      fun _ _ => True) s s.attentive := linked_attentive setting trivial
  exact (linked_makeAll_attended pos (fun _ _ _ => trivial) hstart lasting
    fun _ _ _ _ _ _ => trivial).log.kept family

variable (family : ∀ r ∈ s.uttered ms, level ≤ r.level → IsOfFamily r.logger)

include family

theorem appends_of_setting : Appends n level s ms := by
  intro edits
  refine known_makeAll
    (fun lines root => ∀ c, root.Holds n c →
      ∃ before, s.world.root.Holds n before ∧ c = before ++ lines)
    pos ?_ setting ?_ lasting family ?_
  · intro lines root bytes time? hknown c hc
    obtain ⟨earlier, hearlier, rfl⟩ := Node.holds_appendTo.mp hc
    obtain ⟨before, hbefore, rfl⟩ := hknown earlier hearlier
    exact ⟨before, hbefore, List.append_assoc _ _ _⟩
  · exact fun c hc => ⟨c, hc, (List.append_nil c).symm⟩
  · exact fun before change after hsplit lines hknown c hc =>
      hknown c (edits before change after hsplit c hc)

theorem retains_of_setting : Retains n level s ms := by
  intro edits before hbefore
  refine known_makeAll (fun lines root => root.Holds n (before ++ lines)) pos ?_ setting ?_ lasting
    family ?_
  · intro lines root bytes time? hknown
    exact Node.holds_appendTo.mpr ⟨before ++ lines, hknown, (List.append_assoc _ _ _).symm⟩
  · rwa [List.append_nil]
  · exact fun before change after hsplit lines hknown => edits before change after hsplit _ hknown

end Files

/-! ## While no log goes to a file -/

/-- What neither changes the tree by hand nor sets up a log. -/
def LeavesUnset (a : Action) : Prop :=
  (∀ change, a ≠ .edit change) ∧ ∀ source, a ≠ .setupLogging source

theorem lasting_apart (n : Nat) (held : Bytes → Prop) :
    Lasting LeavesUnset fun w j => n ∉ j.fileSerials ∧ ∀ c, w.root.Holds n c ↔ held c where
  emitAll h rs := by
    refine ⟨?_, fun c => (Journal.holds_emitAll h.1 _ rs c).trans (h.2 c)⟩
    rw [Journal.fileSerials_emitAll]
    exact h.1
  setup permitted _ _ := absurd rfl (permitted.2 _)
  reset _ h := ⟨by simp [Journal.fileSerials, Journal.reset], h.2⟩
  edit permitted _ := absurd rfl (permitted.1 _)
  changeDirectory _ h := h
  setVariable h _ _ := h

/-- As long as a log does not go to a file, nothing that is said comes into it. -/
theorem holds_makeAll {s : Session τ} {n : Nat} (apart : n ∉ s.journal.fileSerials)
    {ms : List (Move τ)} (quiet : ∀ a, .act a ∈ ms → LeavesUnset a) (c : Bytes) :
    (s.makeAll ms).world.root.Holds n c ↔ s.world.root.Holds n c :=
  ((lasting_apart n (s.world.root.Holds n)).makeAll ⟨apart, fun _ => Iff.rfl⟩ quiet).2 c

/-! ## Setting up -/

theorem lasting_isSound : Lasting (fun _ => True) fun _ j => j.IsSound where
  emitAll h rs := h.emitAll _ rs
  setup _ h settings := h.setup _ settings
  reset _ _ := .reset _
  edit _ h := h
  changeDirectory _ h := h
  setVariable h _ _ := h

theorem isSound_makeAll (w : World) (ms : List (Move τ)) :
    ((ofWorld w : Session τ).makeAll ms).journal.IsSound :=
  lasting_isSound.makeAll Journal.isSound_empty fun _ _ => trivial

omit [Timeline τ] in
/-- To load settings is to say something, as far as the world and the log are concerned. -/
theorem exists_said_of_globalSettings (s : Session τ) :
    ∃ rs, s.globalSettings.2.world = (s.emit rs).world ∧
      s.globalSettings.2.journal = (s.emit rs).journal := by
  unfold globalSettings
  rw [loadSettings_eq]
  split
  · exact ⟨[], rfl, rfl⟩
  · refine ⟨(Settings.load s.world none none).records, ?_⟩
    unfold loadAfresh
    rcases Settings.load s.world none none with ⟨_ | settings, rs⟩ <;> exact ⟨rfl, rfl⟩

/-- The settings that a log is set up with, and the session when they are there. -/
def loggingChoice (s : Session τ) :
    LoggingSource → Except Failure (Option LoggingSettings) × Session τ
  | .given settings => (.ok settings, s)
  | .loaded =>
    (s.globalSettings.1.map fun loaded => some loaded.settings.logging, s.globalSettings.2)

omit [Timeline τ] in
theorem exists_said_of_loggingChoice (s : Session τ) (source : LoggingSource) :
    ∃ rs, (s.loggingChoice source).2.world = (s.emit rs).world ∧
      (s.loggingChoice source).2.journal = (s.emit rs).journal := by
  cases source with
  | given settings => exact ⟨[], rfl, rfl⟩
  | loaded => exact s.exists_said_of_globalSettings

theorem act_setupLogging (s : Session τ) (source : LoggingSource) :
    (s.act (.setupLogging source)).2 =
      match s.loggingChoice source with
      | (.error _, t) => t
      | (.ok settings, t) => (t.setupLogging settings).2 := by
  cases source with
  | given settings => rfl
  | loaded =>
      unfold loggingChoice act
      rcases s.globalSettings with ⟨_ | loaded, t⟩ <;> rfl

/-- A log is set up on the file of a number: the level is that of the settings, and the file still
holds what it held. -/
structure SetsUp (s : Session τ) (source : LoggingSource) (n : Nat) (level : Level) : Prop where
  threshold : ∃ settings, (s.loggingChoice source).1 = .ok settings ∧
    LoggingSettings.thresholdOf settings = .ok level
  setting : (s.make (.act (.setupLogging source))).journal.setting =
    (true, level, [⟨.file n, level⟩])
  /-- A file that was there is not made anew. -/
  reopened : n < s.world.nextSerial → ∀ c,
    (s.make (.act (.setupLogging source))).world.root.Holds n c ↔ s.world.root.Holds n c

omit [Timeline τ] in
/-- A log that is not set up lets nothing be seen of the settings being loaded. -/
theorem loggingChoice_of_unset {s : Session τ} (sound : s.journal.IsSound)
    (unset : s.journal.initialized = false) (source : LoggingSource) :
    (s.loggingChoice source).2.journal.initialized = false ∧
      (s.loggingChoice source).2.journal.handlers = [] ∧
      (s.loggingChoice source).2.world.nextSerial = s.world.nextSerial ∧
      ∀ n c, (s.loggingChoice source).2.world.root.Holds n c ↔ s.world.root.Holds n c := by
  obtain ⟨rs, hworld, hjournal⟩ := s.exists_said_of_loggingChoice source
  have hnone : s.journal.handlers = [] := (sound.blank unset).1
  have hsetting : (s.emit rs).journal.setting = s.journal.setting :=
    Journal.setting_emitAll s.world s.journal rs
  rw [← hjournal] at hsetting
  obtain ⟨hunset, _, hhandlers⟩ : (s.loggingChoice source).2.journal.initialized = false ∧
      (s.loggingChoice source).2.journal.level = s.journal.level ∧
      (s.loggingChoice source).2.journal.handlers = [] := by
    simpa [Journal.setting, unset, hnone] using hsetting
  refine ⟨hunset, hhandlers, ?_, fun n c => ?_⟩
  · rw [hworld]
    exact Journal.nextSerial_emitAll s.world s.journal rs
  · rw [hworld]
    exact Journal.holds_emitAll (by simp [Journal.fileSerials, hnone]) s.world rs c

theorem setsUp_of_mem {s : Session τ} (sound : s.journal.IsSound)
    (unset : s.journal.initialized = false) {source : LoggingSource} {n : Nat} {level : Level}
    (mem : ⟨.file n, level⟩ ∈ (s.make (.act (.setupLogging source))).journal.handlers) :
    SetsUp s source n level := by
  have hmake : s.make (.act (.setupLogging source)) = _ := s.act_setupLogging source
  obtain ⟨hunset, hhandlers, hserial, hholds⟩ := loggingChoice_of_unset sound unset source
  rcases hchoice : s.loggingChoice source with ⟨_ | settings, t⟩
  · rw [hchoice] at hmake hhandlers
    rw [hmake, hhandlers] at mem
    cases mem
  · rw [hchoice] at hmake hunset hhandlers hholds hserial
    dsimp only at hmake hunset hhandlers hholds hserial
    obtain ⟨sink?, hinstalled⟩ := Journal.exists_installed_setup hunset t.world settings
    have hafter := hinstalled.handlers
    rw [hhandlers, List.nil_append] at hafter
    rw [hmake] at mem
    change _ ∈ (t.journal.setup t.world settings).2.2.handlers at mem
    rw [hafter] at mem
    obtain ⟨sink, hsink, hhandler⟩ := Option.map_eq_some_iff.mp (Option.mem_toList.mp mem)
    obtain ⟨rfl, hlevel⟩ := Handler.mk.inj hhandler
    refine ⟨⟨settings, by rw [hchoice], hlevel ▸ hinstalled.level _ hsink⟩, ?_, ?_⟩
    · rw [hmake]
      change (t.journal.setup t.world settings).2.2.setting = _
      rw [Journal.setting, hinstalled.initialized, hafter, hsink, Option.map_some, hlevel]
      rfl
    · intro there c
      obtain ⟨p, hopen⟩ := hinstalled.file n hsink
      rw [hmake]
      change (t.journal.setup t.world settings).2.1.root.Holds n c ↔ _
      rcases World.eq_or_eq_of_openAppend hopen with hsame | hnew
      · rw [hsame]
        exact hholds n c
      · omega

/-! ## Whole sessions -/

/-- A log is set up on a file, and the file gets the lines of what the family says from then on. So
these are the lines of what the log keeps itself. -/
structure Logs (s : Session τ) (source : LoggingSource) (n : Nat) (level : Level)
    (during : List (Move τ)) : Prop extends SetsUp s source n level where
  lines : (∀ r ∈ (s.make (.act (.setupLogging source))).uttered during,
      level ≤ r.level → IsOfFamily r.logger) →
    Appends n level (s.make (.act (.setupLogging source))) during ∧
      Retains n level (s.make (.act (.setupLogging source))) during
  kept : (∀ r ∈ (s.make (.act (.setupLogging source))).uttered during, IsOfFamily r.logger) →
    ((s.make (.act (.setupLogging source))).makeAll during).journal.records.toList =
      (s.make (.act (.setupLogging source))).journal.records.toList ++
        ((s.make (.act (.setupLogging source))).uttered during).filter (level ≤ ·.level)

/-- In every session: from a moment at which a log is set up on a file, as long as it is not reset,
the file has what it had then and the lines of what reaches the level of the first settings. As long
as no log goes to a file, nothing that is said comes into it. What is said is what a log keeps that
has no level. -/
theorem logs_of_world (w : World) (steps : List Step) :
    (∀ before source during after n level,
      allMoves steps (ofWorld w : Session τ) =
        before ++ .act (.setupLogging source) :: (during ++ after) →
      ((ofWorld w : Session τ).makeAll before).journal.initialized = false →
      ⟨.file n, level⟩ ∈ (((ofWorld w : Session τ).makeAll before).make
        (.act (.setupLogging source))).journal.handlers →
      .act .resetLogging ∉ during →
        Logs ((ofWorld w : Session τ).makeAll before) source n level during) ∧
    (∀ before quiet after n,
      allMoves steps (ofWorld w : Session τ) = before ++ (quiet ++ after) →
      n ∉ ((ofWorld w : Session τ).makeAll before).journal.fileSerials →
      (∀ a, .act a ∈ quiet → LeavesUnset a) →
        ∀ c, ((ofWorld w : Session τ).makeAll (before ++ quiet)).world.root.Holds n c ↔
          ((ofWorld w : Session τ).makeAll before).world.root.Holds n c) ∧
    ∀ s : Session τ, s.journal.level = 0 → ∀ rs,
      (s.emit rs).journal.records.toList =
        s.journal.records.toList ++ rs.filter (0 < ·.level) := by
  refine ⟨?_, ?_, fun _ level => records_emit_of_level_eq_zero level⟩
  · intro before source during _ n level _ unset mem lasting
    have hsetsUp := setsUp_of_mem (isSound_makeAll w before) unset mem
    obtain ⟨_, _, hlevel⟩ := hsetsUp.threshold
    have hpos := LoggingSettings.pos_of_thresholdOf hlevel
    exact ⟨hsetsUp, fun family => ⟨appends_of_setting hpos hsetsUp.setting lasting family,
      retains_of_setting hpos hsetsUp.setting lasting family⟩,
      records_makeAll hpos hsetsUp.setting lasting⟩
  · intro before quiet _ n _ apart hquiet c
    rw [makeAll_append]
    exact holds_makeAll apart hquiet c

def fileSource : LoggingSource :=
  .given (some { file := .text "/x.log" })

def failureOf (name : String) : Action :=
  .log (some name) .error "m"

theorem editsObey_failureOf (P : Node → Node → Prop) (s : Session τ) (name : String) :
    EditsObey P s [.act (failureOf name)] := by
  intro before change after hsplit
  have hmem : Move.act (.edit change) ∈ [(Move.act (failureOf name) : Move τ)] :=
    hsplit ▸ List.mem_append_right before List.mem_cons_self
  simp [failureOf] at hmem

def loggedSteps : List Step :=
  [.act (failureOf "x"), .act (.setupLogging fileSource), .act (failureOf "x"), .act .resetLogging,
    .act (failureOf "x")]

def unsetSession : Session Float :=
  (ofWorld {} : Session Float).make (.act (failureOf "x"))

def fileSession : Session Float :=
  unsetSession.make (.act (.setupLogging fileSource))

theorem logs_loggedSteps :
    Logs unsetSession fileSource 0 .info [.act (failureOf "x")] ∧
      ((ofWorld {} : Session Float).makeAll (allMoves loggedSteps (ofWorld {}))).world.root.Holds 0
        (Bytes.ofText "00:00:00 error: m\n") := by
  have hmoves : allMoves loggedSteps (ofWorld {} : Session Float) =
      [.act (failureOf "x")] ++ .act (.setupLogging fileSource) ::
        ([.act (failureOf "x")] ++ [.act .resetLogging, .act (failureOf "x")]) := rfl
  obtain ⟨hset, hquiet, -⟩ := @logs_of_world Float _ {} loggedSteps
  have hlogs : Logs unsetSession fileSource 0 .info [.act (failureOf "x")] :=
    hset _ _ _ _ _ _ hmoves rfl (by decide +kernel) (by simp [failureOf])
  have huttered : fileSession.uttered [.act (failureOf "x")] = [⟨.error, "dirpoll.x", "m"⟩] := by
    decide +kernel
  have hfamily : ∀ r ∈ fileSession.uttered [.act (failureOf "x")],
      Level.info ≤ r.level → IsOfFamily r.logger := by
    rw [huttered]
    intro r hr _
    rw [List.mem_singleton.mp hr]
    exact (isOfFamily_loggerName (by decide) : IsOfFamily (loggerName (some "x")))
  have hlines : linesOf fileSession.world.now .info (fileSession.uttered [.act (failureOf "x")]) =
      Bytes.ofText "00:00:00 error: m\n" := by
    rw [huttered]
    decide +kernel
  have hopened : fileSession.world.root.Holds 0 [] :=
    Node.holds_of_any ["x.log"] (by decide +kernel)
  have hholds := (hlogs.lines hfamily).2 (editsObey_failureOf _ _ _) [] hopened
  refine ⟨hlogs, ?_⟩
  -- What is said after the reset is a stretch in which the log goes nowhere.
  have hreset := hquiet [.act (failureOf "x"), .act (.setupLogging fileSource),
    .act (failureOf "x"), .act .resetLogging] [.act (failureOf "x")] [] 0 hmoves (by decide +kernel)
    (by simp [failureOf, LeavesUnset])
  exact (hreset _).mpr (hlines ▸ hholds)

/-- What the logger of a name that begins with a dot says does not come into the file. -/
theorem not_forall_appends :
    ¬∀ (w : World) (steps : List Step) before source during after n level,
      allMoves steps (ofWorld w : Session Float) =
        before ++ .act (.setupLogging source) :: (during ++ after) →
      ((ofWorld w : Session Float).makeAll before).journal.initialized = false →
      ⟨.file n, level⟩ ∈ (((ofWorld w : Session Float).makeAll before).make
        (.act (.setupLogging source))).journal.handlers →
      .act .resetLogging ∉ during →
        Appends n level (((ofWorld w : Session Float).makeAll before).make
          (.act (.setupLogging source))) during := by
  intro h
  have happends : Appends 0 .info fileSession [.act (failureOf ".x")] :=
    h {} [.act (failureOf "x"), .act (.setupLogging fileSource), .act (failureOf ".x")]
      [.act (failureOf "x")] fileSource [.act (failureOf ".x")] [] 0 .info rfl rfl
      (by decide +kernel) (by simp [failureOf])
  have hempty : (fileSession.makeAll [.act (failureOf ".x")]).world.root.Holds 0 [] :=
    Node.holds_of_any ["x.log"] (by decide +kernel)
  obtain ⟨before, _, hcontent⟩ := happends (editsObey_failureOf _ _ _) [] hempty
  have hlines : linesOf fileSession.world.now .info
      (fileSession.uttered [.act (failureOf ".x")]) ≠ [] := by decide +kernel
  exact hlines (List.append_eq_nil_iff.mp hcontent.symm).2

end TreeWatch.Session
