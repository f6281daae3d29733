import TreeWatch.Proofs.Command.Precedence
import TreeWatch.Proofs.Watch.Intervals

/-!
# Three gates for an interval

An interval is looked at when a command line is read, when settings are made of entries, and when
somebody asks for a directory to be watched. The first two turn away what is at most zero and the
last lets in what is above zero. That is the same for every number, so that only what is no number
gets through to the last gate and is turned away there.
-/

namespace TreeWatch.Command

open Settings

/-! ## Reading a command line -/

section Reading

variable {P : Arguments → Prop}

theorem take_induction (use : ∀ a u b, P a → applyUse a u = .ok b → P b)
    (paths : ∀ a ps, P a → P { a with paths := List.map Path.ofText ps }) (fuel : Nat)
    {p q : Progress}
    (words : List Word) (hp : P p.arguments) (h : take fuel p words = .ok q) : P q.arguments := by
  induction fuel, p, words using take.induct with
  | case1 p words => exact Except.ok.inj h ▸ hp
  | case2 fuel p _ =>
      rw [take] at h
      · exact Except.ok.inj h ▸ hp
      · assumption
  | case3 p fuel f spelling attached rest m hm => simp [take, hm] at h
  | case4 p fuel f spelling attached rest uses left huses ih =>
      simp only [take, huses] at h
      obtain ⟨arguments, harguments, h⟩ := bind_eq_ok_iff.mp h
      exact ih arguments (foldlM_ok_induction use uses _ _ hp harguments) h
  | case5 p fuel text rest ih =>
      rw [take] at h
      exact ih hp h
  | case6 p fuel words hnil hflag hunknown isPlain ih =>
      rw [take] at h
      · refine ih ?_ h
        unfold Progress.takePlain
        split
        · exact paths _ _ hp
        · exact hp
      all_goals assumption

/-- What each flag and the directories keep holds of all arguments that are read. -/
theorem Arguments.ofTexts_induction {texts : List String} {a : Arguments} (initial : P {})
    (use : ∀ a u b, P a → applyUse a u = .ok b → P b)
    (paths : ∀ a ps, P a → P { a with paths := List.map Path.ofText ps })
    (h : Arguments.ofTexts texts = .ok a) : P a := by
  unfold Arguments.ofTexts at h
  split at h
  · simp at h
  · next words _ =>
      obtain ⟨p, hp, h⟩ := bind_eq_ok_iff.mp h
      unfold Progress.finish at h
      split at h
      · simp at h
      · split at h
        · simp at h
        · exact Except.ok.inj h ▸ take_induction use paths _ words initial hp

end Reading

/-- An interval that stands on a command line: a text was read as it, or it is only announced. -/
def IsRead (i : Interval) : Prop :=
  i = .nothing ∨ ∃ text x, i = .seconds x ∧ intervalOfText text = .ok x

theorem isRead_applyUse {a b : Arguments} {u : Use} (ha : ∀ i ∈ a.interval, IsRead i)
    (h : applyUse a u = .ok b) : ∀ i ∈ b.interval, IsRead i := by
  unfold applyUse at h
  cases hflag : u.flag <;> simp only [hflag] at h
  case help | version => simp at h
  case interval =>
    split at h
    · cases h
      intro i hi
      exact .inl (Option.some.inj hi).symm
    · cases hread : intervalOfText (u.value.getD "") with
      | error r => simp [hread] at h
      | ok x =>
          rw [hread] at h
          cases h
          intro i hi
          exact .inr ⟨_, x, (Option.some.inj hi).symm, hread⟩
  all_goals
    cases h
    exact ha

theorem isRead_interval {texts : List String} {a : Arguments}
    (h : Arguments.ofTexts texts = .ok a) : ∀ i ∈ a.interval, IsRead i :=
  Arguments.ofTexts_induction (P := fun a => ∀ i ∈ a.interval, IsRead i) (by simp)
    (fun _ _ _ => isRead_applyUse) (fun _ _ ha => ha) h

/-! ## The gates -/

theorem not_le_zero_of_intervalOfText {text : String} {x : Float}
    (h : intervalOfText text = .ok x) : ¬ x ≤ 0 := by
  unfold intervalOfText at h
  split at h
  · simp at h
  · split at h
    · simp at h
    · next hpositive => exact Except.ok.inj h ▸ hpositive

theorem not_le_zero_standardInterval : ¬ standardInterval ≤ 0 := by
  decide

theorem not_le_zero_of_intervalIn {entries : Entries} {r : Log.Reported Float}
    (h : intervalIn entries = .ok r) : ¬ r.outcome ≤ 0 := by
  unfold intervalIn at h
  split at h
  · exact Except.ok.inj h ▸ not_le_zero_standardInterval
  · obtain ⟨x?, -, h⟩ := bind_eq_ok_iff.mp h
    cases x? with
    | none => exact Except.ok.inj h ▸ not_le_zero_standardInterval
    | some x =>
        dsimp only at h
        split at h
        · exact Except.ok.inj h ▸ not_le_zero_standardInterval
        · next hpositive => exact Except.ok.inj h ▸ hpositive

theorem not_le_zero_of_ofEntries {entries : Entries} {settings : Settings}
    (h : (ofEntries entries).outcome = .ok settings) :
    ∃ x, settings.poller.interval = .seconds x ∧ ¬ x ≤ 0 := by
  unfold ofEntries at h
  rw [Log.Reported.outcome_bind] at h
  cases hr : intervalIn (section? entries "poller").outcome with
  | error e => simp [hr] at h
  | ok r =>
      simp only [hr, Log.Reported.outcome_bind, Log.Reported.outcome_pure] at h
      cases h
      exact ⟨r.outcome, rfl, not_le_zero_of_intervalIn hr⟩

/-- What every directory makes of an interval when it is asked for with it. -/
def MeetsWith (i : Interval) (answer : Except Failure Float) : Prop :=
  ∀ (w : World) (root : Path) (names : List String) (scope : Scope),
    w.directoryAt root = .ok names →
      (⟨root, scope, i⟩ : Request).validate w =
        answer.map fun interval => ⟨.absolute names, scope, interval⟩

/-- A number of seconds that every directory lets in, unless it is no number. -/
def IsAdmitted (i : Interval) : Prop :=
  ∃ x, i = .seconds x ∧
    MeetsWith i (if x.isNaN then .error (.intervalNotPositive "nan") else .ok x)

theorem meetsWith_granted (i : Interval) : MeetsWith i i.granted := by
  intro w root names scope h
  rw [Request.validate_eq, h]
  rfl

theorem isAdmitted_seconds {x : Float} (h : ¬ x ≤ 0) : IsAdmitted (.seconds x) := by
  refine ⟨x, rfl, ?_⟩
  rw [← Interval.granted_seconds h]
  exact meetsWith_granted _

theorem isAdmitted_of_ofEntries {entries : Entries} {settings : Settings}
    (h : (ofEntries entries).outcome = .ok settings) : IsAdmitted settings.poller.interval := by
  obtain ⟨x, hx, hpositive⟩ := not_le_zero_of_ofEntries h
  exact hx ▸ isAdmitted_seconds hpositive

theorem IsAdmitted.validate {i : Interval} (h : IsAdmitted i) {w : World} {root : Path}
    {names : List String} (hroot : w.directoryAt root = .ok names) (scope : Scope) :
    ∃ x, i = .seconds x ∧ (⟨root, scope, i⟩ : Request).validate w =
      if x.isNaN then .error (.intervalNotPositive "nan") else .ok ⟨.absolute names, scope, x⟩ := by
  obtain ⟨x, hx, hmeets⟩ := h
  refine ⟨x, hx, ?_⟩
  rw [hmeets w root names scope hroot]
  split <;> rfl

variable {τ : Type} [Timeline τ]

/-- Whatever the command line or the settings let through is granted on every directory, unless it
is no number: then it is refused as if it were not positive. The same goes for the interval of a
run, but for one that the command line only announces. -/
theorem isAdmitted_of_gates :
    (∀ text x, intervalOfText text = .ok x → IsAdmitted (.seconds x)) ∧
    (∀ entries settings, (ofEntries entries).outcome = .ok settings →
      IsAdmitted settings.poller.interval) ∧
    ∀ texts a w loaded (s : Session τ), Arguments.ofTexts texts = .ok a →
      loadBelow a (Session.ofWorld w : Session τ) = (.ok loaded, s) →
        IsAdmitted (a.apply loaded.settings).poller.interval ∨
          (a.interval = some .nothing ∧
            MeetsWith (a.apply loaded.settings).poller.interval (.error .wrongKind)) := by
  refine ⟨?word, ?entries, ?run⟩
  case word =>
    intro text x h
    exact isAdmitted_seconds (not_le_zero_of_intervalOfText h)
  case entries =>
    intro entries settings h
    exact isAdmitted_of_ofEntries h
  case run =>
    intro texts a w loaded s harguments hload
    show IsAdmitted (a.interval.getD loaded.settings.poller.interval) ∨ (_ ∧
      MeetsWith (a.interval.getD loaded.settings.poller.interval) _)
    cases hflag : a.interval with
    | none =>
        obtain ⟨named, -, hloaded⟩ := loadBelow_eq_ok hload
        obtain ⟨_, _, entries, -, -, -, hentries⟩ := load_eq_ok hloaded
        exact .inl (isAdmitted_of_ofEntries hentries)
    | some i =>
        rcases isRead_interval harguments i hflag with rfl | ⟨text, x, rfl, hread⟩
        · exact .inr ⟨rfl, meetsWith_granted .nothing⟩
        · exact .inl (isAdmitted_seconds (not_le_zero_of_intervalOfText hread))

def hastyWorld : World :=
  { root := .directory { name := "" } [.directory { name := "w" } []]
    environment := [("XDG_CONFIG_HOME", "/none"), ("DIRPOLL_INTERVAL", "0.5")] }

theorem directoryAt_hastyWorld : hastyWorld.directoryAt (.absolute ["w"]) = .ok ["w"] := by
  decide +kernel

def IsGranted (i : Interval) : Prop :=
  ∃ x, i = .seconds x ∧ (⟨.absolute ["w"], {}, i⟩ : Request).validate hastyWorld =
    .ok ⟨.absolute ["w"], {}, x⟩

theorem IsAdmitted.isGranted {i : Interval} (h : IsAdmitted i)
    (number : i.toFloat?.any (!·.isNaN) = true) : IsGranted i := by
  obtain ⟨x, rfl, hvalid⟩ := h.validate directoryAt_hastyWorld {}
  have hx : x.isNaN = false := by simpa [Interval.toFloat?] using number
  rw [hx] at hvalid
  exact ⟨x, rfl, hvalid⟩

theorem isAdmitted_of_gates_hastyWorld :
    (∃ x, intervalOfText "1e-3" = .ok x ∧ IsGranted (.seconds x)) ∧
    (∃ settings, (ofEntries [(.text "poller", .map [(.text "interval", .bool true)])]).outcome =
      .ok settings ∧ IsGranted settings.poller.interval) ∧
    ∃ a loaded s, Arguments.ofTexts ["/w"] = .ok a ∧
      loadBelow a (Session.ofWorld hastyWorld : Session Float) = (.ok loaded, s) ∧
      IsGranted (a.apply loaded.settings).poller.interval := by
  obtain ⟨hword, hentries, hrun⟩ := isAdmitted_of_gates (τ := Float)
  refine ⟨?word, ?entries, ?run⟩
  case word =>
    obtain ⟨x, hread, hnumber⟩ := exists_eq_ok_of_any (intervalOfText "1e-3")
      (!·.isNaN) (by decide +kernel)
    exact ⟨x, hread, (hword _ x hread).isGranted hnumber⟩
  case entries =>
    obtain ⟨settings, hcome, hnumber⟩ := exists_eq_ok_of_any
      (ofEntries [(.text "poller", .map [(.text "interval", .bool true)])]).outcome
      (fun settings => settings.poller.interval.toFloat?.any (!·.isNaN))
      (by decide +kernel)
    exact ⟨settings, hcome, (hentries _ settings hcome).isGranted hnumber⟩
  case run =>
    obtain ⟨a, ha, hloads⟩ := exists_eq_ok_of_any (Arguments.ofTexts ["/w"])
      (fun a =>
        (loadBelow a (Session.ofWorld hastyWorld : Session Float)).1.toOption.any fun loaded =>
          (a.apply loaded.settings).poller.interval.toFloat?.any (!·.isNaN))
      (by decide +kernel)
    obtain ⟨loaded, hloaded, hnumber⟩ := exists_eq_ok_of_any _ _ hloads
    refine ⟨a, loaded, _, ha, Prod.ext hloaded rfl, ?_⟩
    rcases hrun _ a hastyWorld loaded _ ha (Prod.ext hloaded rfl) with hadmitted | ⟨hnothing, -⟩
    · exact hadmitted.isGranted hnumber
    · simp [Arguments.apply, hnothing, Interval.toFloat?] at hnumber

/-- A command line takes a text for an interval that no directory lets in. -/
theorem not_forall_granted :
    ¬ ∀ text x, intervalOfText text = .ok x →
      ∀ (w : World) (root : Path) (names : List String) (scope : Scope),
        w.directoryAt root = .ok names →
          ∃ spec, (⟨root, scope, .seconds x⟩ : Request).validate w = .ok spec := by
  intro hall
  obtain ⟨x, hread, hnan⟩ := exists_eq_ok_of_any (intervalOfText "nan") Float.isNaN
    (by decide +kernel)
  obtain ⟨spec, hspec⟩ := hall "nan" x hread hastyWorld _ _ {} directoryAt_hastyWorld
  obtain ⟨y, hy, hvalid⟩ :=
    (isAdmitted_seconds (not_le_zero_of_intervalOfText hread)).validate directoryAt_hastyWorld {}
  cases hy
  rw [hspec, hnan] at hvalid
  cases hvalid

end TreeWatch.Command
