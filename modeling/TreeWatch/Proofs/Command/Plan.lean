import TreeWatch.Proofs.Command.Precedence
import TreeWatch.Proofs.Log.Setup
import TreeWatch.Proofs.Tree.Asking

/-!
# What a run is about to do

Before a run begins, its command line is read, settings are loaded, the log is set up and the
directories are asked for one after the other. What comes of this can be told from the world alone:
what is said in the meantime goes to the log and makes no difference.
-/

namespace TreeWatch.Command

open Log

/-! ## The stages -/

def settingsBelow (w : World) (a : Arguments) : Except Failure Settings := do
  let named ← namedFile? w a
  (Settings.load w (some (Path.absolute w.directory)) named).outcome

def withLog (w : World) (settings : LoggingSettings) : Except Failure World :=
  let (outcome, v, _) := ({} : Journal).setup w (some settings)
  outcome.map fun _ => v

/-- What is granted for some directories, up to one that is refused. -/
def grants (p : PollerSettings) (w : World) : List Path → Except Failure (List Spec)
  | [] => .ok []
  | root :: rest => do
    let spec ← (p.request root).validate w
    let specs ← grants p w rest
    .ok (spec :: specs)

def Refusal.ofFailure : Failure → Refusal
  | .invalidRoot problem root => .unwatchable problem root
  | e => .failed e

/-- The arguments of a run and what it watches, unless a stage before it fails. -/
def plan (texts : List String) (w : World) : Except Refusal (Arguments × List Spec) := do
  let a ← (Arguments.ofTexts texts).mapError .dismissed
  let settings ← ((settingsBelow w a).map a.apply).mapError .failed
  let v ← (withLog w settings.logging).mapError .failed
  let specs ← (grants settings.poller v a.paths).mapError .ofFailure
  .ok (a, specs)

section Grants

variable {p : PollerSettings} {w : World} {root : Path} {spec : Spec} {e : Failure}

theorem grants_cons_of_ok (h : (p.request root).validate w = .ok spec) (rest : List Path) :
    grants p w (root :: rest) = (grants p w rest).map (spec :: ·) := by
  simp only [grants, h, bind, Except.bind]
  cases grants p w rest <;> rfl

theorem grants_cons_of_error (h : (p.request root).validate w = .error e) (rest : List Path) :
    grants p w (root :: rest) = .error e := by
  simp [grants, h, bind, Except.bind]

end Grants

variable {τ : Type} [Timeline τ]

/-! ## Before the directories -/

/-- A session in a world in which nothing has been done yet but to speak. -/
structure IsFresh (w : World) (s : Session τ) : Prop where
  world : s.world = w
  initialized : s.journal.initialized = false
  handlers : s.journal.handlers = []
  pollers : s.pollers = []
  names : s.names = []

omit [Timeline τ] in
theorem IsFresh.emit {w : World} {s : Session τ} (h : IsFresh w s) (rs : List Record) :
    IsFresh w (s.emit rs) := by
  have hnone : s.journal.fileSerials = [] := by rw [Journal.fileSerials, h.handlers]; rfl
  have hwithin : ∀ serial ∈ s.journal.fileSerials, serial ∈ ([] : List Nat) := by simp [hnone]
  obtain ⟨hworld, hmuted, -⟩ := Journal.emitAll_spec s.world s.journal rs hwithin
  rw [World.blank_nil, World.blank_nil] at hworld
  obtain ⟨loggers, hmet⟩ := Journal.exists_meetAll_eq s.journal rs
  rw [hmet] at hmuted
  have hinitialized : (Journal.emitAll s.world s.journal rs).2.muted.initialized =
      s.journal.initialized := by
    rw [hmuted]
    rfl
  have hhandlers : (Journal.emitAll s.world s.journal rs).2.muted.handlers =
      s.journal.handlers := by
    rw [hmuted]
    rfl
  exact ⟨hworld.trans h.world, hinitialized.trans h.initialized, hhandlers.trans h.handlers,
    h.pollers, h.names⟩

theorem isFresh_ofWorld (w : World) : IsFresh w (Session.ofWorld w : Session τ) :=
  ⟨rfl, rfl, rfl, rfl, rfl⟩

theorem loadBelow_spec (a : Arguments) (w : World) :
    ∃ s, loadBelow a (Session.ofWorld w : Session τ) =
      ((settingsBelow w a).map fun settings => { settings }, s) ∧ IsFresh w s := by
  have hfresh := isFresh_ofWorld (τ := τ) w
  unfold loadBelow settingsBelow
  cases hnamed : namedFile? (Session.ofWorld w : Session τ).world a with
  | error e =>
      refine ⟨_, ?_, hfresh⟩
      simp only [show namedFile? w a = .error e from hnamed]
      rfl
  | ok named =>
      simp only [show namedFile? w a = .ok named from hnamed, bind, Except.bind]
      have hemitted := hfresh.emit
        (Settings.load w (some (Path.absolute w.directory)) named).records
      refine ⟨_, ?_, hemitted⟩
      cases houtcome : (Settings.load w (some (Path.absolute w.directory)) named).outcome <;>
        simp [Session.loadSettings, Session.ofWorld, Session.report, houtcome, Except.map]

omit [Timeline τ] in
theorem IsFresh.setupLogging {w : World} {s : Session τ} (h : IsFresh w s)
    (settings : LoggingSettings) :
    ∃ t : Session τ, t.pollers = [] ∧ t.names = [] ∧ t.world.host = w.host ∧
      ((∃ e, withLog w settings = .error e ∧ s.setupLogging (some settings) = (.error e, t)) ∨
        ∃ reply, withLog w settings = .ok t.world ∧
          s.setupLogging (some settings) = (.ok reply, t)) := by
  obtain rfl := h.world
  obtain ⟨houtcome, hworld⟩ :=
    Journal.setup_of_not_initialized h.initialized s.world (some settings)
  have haside := Session.aside_setupLogging s (some settings)
  refine ⟨(s.setupLogging (some settings)).2, haside.pollers.trans h.pollers,
    haside.names.trans h.names, Journal.host_setup s.world s.journal (some settings), ?_⟩
  have hlog : withLog s.world settings =
      (s.journal.setup s.world (some settings)).1.map fun _ =>
        (s.setupLogging (some settings)).2.world := by
    show (({} : Journal).setup s.world (some settings)).1.map (fun _ =>
      (({} : Journal).setup s.world (some settings)).2.1) = _
    rw [← houtcome, ← hworld]
    rfl
  cases hsetup : (s.journal.setup s.world (some settings)).1 with
  | error e =>
      have hresult : (s.setupLogging (some settings)).1 = .error e :=
        congrArg (Except.map fun _ => _) hsetup
      exact .inl ⟨e, by rw [hlog, hsetup]; rfl, Prod.ext hresult rfl⟩
  | ok _ =>
      have hresult : (s.setupLogging (some settings)).1 =
          .ok (s.setupLogging (some settings)).2.loggingReply :=
        congrArg (Except.map fun _ => _) hsetup
      exact .inr ⟨_, by rw [hlog, hsetup]; rfl, Prod.ext hresult rfl⟩

/-! ## The directories one by one -/

/-- The world of a session is another one but for what its log wrote. -/
def LooksLike (v : World) (s : Session τ) : Prop :=
  s.world.blank .contentAndTime s.journal.fileSerials =
    v.blank .contentAndTime s.journal.fileSerials

omit [Timeline τ] in
theorem LooksLike.emit {v : World} {s : Session τ} (h : LooksLike v s) (rs : List Record) :
    LooksLike v (s.emit rs) := by
  unfold LooksLike
  rw [Session.fileSerials_emit]
  exact (Journal.emitAll_spec s.world s.journal rs fun _ hmem => hmem).1.trans h

omit [Timeline τ] in
theorem LooksLike.validate {v : World} {s : Session τ} (h : LooksLike v s) (r : Request) :
    r.validate s.world = r.validate v := by
  exact World.eq_of_blank_eq (f := r.validate) (fun u => Request.validate_blank u r) h.symm

/-- The second session has further pollers of some specifications, none of them in a loop or with a
stop pending. -/
structure Extends (s t : Session τ) (specs : List Spec) : Prop where
  pollers : ∃ added : List Poller, t.pollers = s.pollers ++ added ∧ added.map (·.spec) = specs ∧
    ∀ q ∈ added, q.isRunning = false ∧ q.stopPending = false
  names : t.names = s.names
  host : t.world.host = s.world.host

omit [Timeline τ] in
theorem Extends.refl (s : Session τ) : Extends s s [] :=
  ⟨⟨[], (List.append_nil _).symm, rfl, by simp⟩, rfl, rfl⟩

omit [Timeline τ] in
theorem extends_print (s : Session τ) (text : String) : Extends s (print s text) [] :=
  ⟨⟨[], (List.append_nil _).symm, rfl, by simp⟩, rfl, rfl⟩

omit [Timeline τ] in
theorem Extends.trans {s t u : Session τ} {specs others : List Spec} (first : Extends s t specs)
    (second : Extends t u others) : Extends s u (specs ++ others) := by
  obtain ⟨added, hadded, hspecs, hidle⟩ := first.pollers
  obtain ⟨more, hmore, hothers, hidle'⟩ := second.pollers
  refine ⟨⟨added ++ more, ?_, ?_, ?_⟩, second.names.trans first.names,
    second.host.trans first.host⟩
  · rw [hmore, hadded, List.append_assoc]
  · rw [List.map_append, hspecs, hothers]
  · exact List.forall_mem_append.mpr ⟨hidle, hidle'⟩

theorem createPoller_of_ok {s : Session τ} {r : Request} {spec : Spec}
    (h : r.validate s.world = .ok spec) :
    s.createPoller r = (.ok (Poller.ofSpec s.world spec).outcome,
      s.passListing.emit (Poller.ofSpec s.world spec).records) := by
  unfold Session.createPoller
  rw [h]
  rfl

/-- Pollers are created just as the requests for their directories are granted. -/
theorem createPollers_spec {v : World} (p : PollerSettings) (paths : List Path) {s : Session τ}
    (same : LooksLike v s) :
    (∃ specs t, grants p v paths = .ok specs ∧ createPollers p paths s = (.ok (), t) ∧
      Extends s t specs) ∨
    ∃ e specs t, grants p v paths = .error e ∧
      createPollers p paths s = (.error (.ofFailure e), t) ∧ Extends s t specs ∧
      ∀ problem root, e = .invalidRoot problem root →
        ∃ text, t.journal.errorText = text ++ errorNotice problem root := by
  induction paths generalizing s with
  | nil => exact .inl ⟨[], s, rfl, rfl, .refl s⟩
  | cons root rest ih =>
      have hvalidate := same.validate (p.request root)
      cases hvalid : (p.request root).validate v with
      | error e =>
          have hcreate : s.createPoller (p.request root) = (.error e, s) := by
            unfold Session.createPoller
            rw [hvalidate, hvalid]
          right
          have hgrants := grants_cons_of_error hvalid rest
          by_cases hroot : ∃ problem root, e = .invalidRoot problem root
          · obtain ⟨problem, path, rfl⟩ := hroot
            refine ⟨_, [], print s (errorNotice problem path), hgrants, ?_, extends_print s _, ?_⟩
            · rw [createPollers, hcreate]
              rfl
            · rintro _ _ ⟨⟩
              exact ⟨s.journal.errorText, rfl⟩
          · refine ⟨e, [], s, hgrants, ?_, .refl s, fun problem path h => ?_⟩
            · rw [createPollers, hcreate]
              cases e with
              | invalidRoot problem path => exact absurd ⟨problem, path, rfl⟩ hroot
              | _ => rfl
            · exact absurd ⟨problem, path, h⟩ hroot
      | ok spec =>
          have hcreate := createPoller_of_ok (hvalidate.trans hvalid)
          have hgrants := grants_cons_of_ok hvalid rest
          let q := (Poller.ofSpec s.world spec).outcome
          let spoken := s.passListing.emit (Poller.ofSpec s.world spec).records
          let next : Session τ := { spoken with pollers := spoken.pollers ++ [q] }
          have hnext : createPollers p (root :: rest) s = createPollers p rest next := by
            rw [createPollers, hcreate]
          have hspoken : LooksLike v spoken := LooksLike.emit (s := s.passListing) same _
          have hone : Extends s next [spec] := by
            refine ⟨⟨[q], rfl, ?_, ?_⟩, rfl, Journal.host_emitAll s.world s.journal _⟩
            · simp [q, Poller.outcome_ofSpec]
            · simp [q, Poller.outcome_ofSpec, Poller.isRunning]
          rw [hnext, hgrants]
          rcases ih (s := next) hspoken with ⟨specs, t, hspecs, ht, hextends⟩ |
            ⟨e, specs, t, he, ht, hextends, htold⟩
          · exact .inl ⟨spec :: specs, t, by rw [hspecs]; rfl, ht, hone.trans hextends⟩
          · exact .inr ⟨e, spec :: specs, t, by rw [he]; rfl, ht, hone.trans hextends, htold⟩

/-! ## Into the loops -/

omit [Timeline τ] in
theorem names_enterLoop (s : Session τ) (place : Nat) : (enterLoop s place).names = s.names := by
  have hentered := Session.names_changePoller s place (Poller.enterBlocking (.external false))
  unfold enterLoop
  dsimp only
  split
  · exact (Session.names_endBlocking _ place).trans hentered
  · exact hentered

omit [Timeline τ] in
theorem names_enterLoops (s : Session τ) : (enterLoops s).names = s.names := by
  unfold enterLoops
  induction List.range s.pollers.length using List.reverseRecOn with
  | nil => rfl
  | append_singleton places place ih =>
      rw [List.foldl_append, List.foldl_cons, List.foldl_nil, names_enterLoop, ih]

/-- A session in which a run goes on in a world: the pollers of some specifications are in their
loops unless their intervals are too long to wait for, and no name leads to them. -/
structure IsStarted (w : World) (specs : List Spec) (s : Session τ) : Prop where
  specs : s.pollers.map (·.spec) = specs
  running : ∀ q ∈ s.pollers, q.isRunning = !w.isTooLong q.spec.interval
  calm : ∀ q ∈ s.pollers, q.stopPending = false
  names : s.names = []

theorem isStarted_enterLoops {w : World} {s : Session τ} (host : s.world.host = w.host)
    (calm : ∀ q ∈ s.pollers, q.stopPending = false) (names : s.names = []) :
    IsStarted w (s.pollers.map (·.spec)) (enterLoops s) := by
  refine ⟨specs_enterLoops s, ?_, ?_, (names_enterLoops s).trans names⟩
  all_goals
    rw [pollers_enterLoops, entered_congr host]
    refine List.forall_mem_map.mpr fun q hq => ?_
    have hcannot : q.cannotBegin w (.external false) = w.isTooLong q.spec.interval := by
      simp [Poller.cannotBegin, calm q hq]
    unfold entered
    rw [hcannot]
    split
    · next hlong => simp [Poller.leave, Poller.isRunning, hlong]
    · next hshort => simp [Poller.enterBlocking, Poller.isRunning, hshort, calm q hq]

def Refusal.IsTold (w : World) (s : Session τ) : Refusal → Prop
  | .dismissed d => s = print (Session.ofWorld w) (d.errorText (columnsIn w))
  | .unwatchable problem root => ∃ text, s.journal.errorText = text ++ errorNotice problem root
  | .failed _ => True

/-- A session in which a run is refused: no poller is in a loop. -/
structure IsRefused (w : World) (r : Refusal) (s : Session τ) : Prop where
  idle : ∀ q ∈ s.pollers, q.isRunning = false
  told : r.IsTold w s

omit [Timeline τ] in
theorem Extends.idle {s t : Session τ} {specs : List Spec} (h : Extends s t specs)
    (empty : s.pollers = []) :
    ∀ q ∈ t.pollers, q.isRunning = false ∧ q.stopPending = false := by
  obtain ⟨added, hadded, -, hidle⟩ := h.pollers
  rwa [hadded, empty, List.nil_append]

omit [Timeline τ] in
theorem Extends.specs {s t : Session τ} {specs : List Spec} (h : Extends s t specs)
    (empty : s.pollers = []) : t.pollers.map (·.spec) = specs := by
  obtain ⟨added, hadded, hspecs, -⟩ := h.pollers
  rwa [hadded, empty, List.nil_append]

/-- A run starts as it is planned. -/
theorem start_spec (texts : List String) (w : World) :
    (∃ r s, plan texts w = .error r ∧ start texts (Session.ofWorld w : Session τ) = (.error r, s) ∧
      IsRefused w r s) ∨
    ∃ a specs s, plan texts w = .ok (a, specs) ∧
      start texts (Session.ofWorld w : Session τ) = (.ok (a, ⟨a.json, 1 < specs.length⟩), s) ∧
      IsStarted w specs s := by
  unfold plan start
  cases harguments : Arguments.ofTexts texts with
  | error d => exact .inl ⟨_, _, rfl, rfl, by simp [print, Session.ofWorld], rfl⟩
  | ok a =>
      obtain ⟨s, hload, hfresh⟩ := loadBelow_spec (τ := τ) a w
      simp only [Except.mapError, bind, Except.bind]
      rw [hload]
      cases hsettings : settingsBelow w a with
      | error e => exact .inl ⟨_, _, rfl, rfl, by simp [hfresh.pollers], trivial⟩
      | ok settings =>
          obtain ⟨t, hpollers, hnames, hhost, hlog⟩ :=
            hfresh.setupLogging (a.apply settings).logging
          simp only [Except.map]
          rcases hlog with ⟨e, hlog, hsetup⟩ | ⟨reply, hlog, hsetup⟩
          · rw [hlog, hsetup]
            exact .inl ⟨_, _, rfl, rfl, by simp [hpollers], trivial⟩
          · rw [hlog, hsetup]
            dsimp only
            rcases createPollers_spec (a.apply settings).poller a.paths (s := t) rfl with
              ⟨specs, u, hgrants, hcreate, hextends⟩ |
              ⟨e, specs, u, hgrants, hcreate, hextends, htold⟩
            · rw [hgrants, hcreate]
              dsimp only
              -- Whether or not the notices are shown, the pollers and their names are the same.
              generalize hshown : (if a.quiet = true then u
                else print u (String.join (u.pollers.map watchingNotice))) = shown
              have hsame : shown.pollers = u.pollers ∧ shown.names = u.names ∧
                  shown.world = u.world := by
                rw [← hshown]
                split <;> exact ⟨rfl, rfl, rfl⟩
              have hspecs : shown.pollers.map (·.spec) = specs := by
                rw [hsame.1, hextends.specs hpollers]
              have hlength : shown.pollers.length = specs.length := by
                rw [← hspecs, List.length_map]
              have hcalm : ∀ q ∈ shown.pollers, q.stopPending = false := fun q hq =>
                (hextends.idle hpollers q (hsame.1 ▸ hq)).2
              have hnone : shown.names = [] := hsame.2.1.trans (hextends.names.trans hnames)
              have hsystem : shown.world.host = w.host :=
                (congrArg World.host hsame.2.2).trans (hextends.host.trans hhost)
              rw [hlength]
              exact .inr ⟨_, _, _, rfl, rfl, hspecs ▸ isStarted_enterLoops hsystem hcalm hnone⟩
            · rw [hgrants, hcreate]
              refine .inl ⟨_, _, rfl, rfl, fun q hq => (hextends.idle hpollers q hq).1, ?_⟩
              cases e with
              | invalidRoot problem root => exact htold problem root rfl
              | _ => trivial

theorem exists_start_of_plan {texts : List String} {w : World} {a : Arguments} {specs : List Spec}
    (planned : plan texts w = .ok (a, specs)) :
    ∃ s : Session τ,
      start texts (Session.ofWorld w) = (.ok (a, ⟨a.json, 1 < specs.length⟩), s) ∧
        IsStarted w specs s := by
  rcases start_spec (τ := τ) texts w with
    ⟨r, s, hrefused, -⟩ | ⟨b, others, s, hplan, hstart, hstarted⟩
  · simp [hrefused] at planned
  · obtain ⟨rfl, rfl⟩ := Prod.mk.inj (Except.ok.inj (hplan.symm.trans planned))
    exact ⟨s, hstart, hstarted⟩

end TreeWatch.Command
