import TreeWatch.Proofs.Log.Writing
import TreeWatch.Proofs.Session.Frame

/-!
# Sessions that are alike

Two sessions are alike if they differ in what their logs hold and in the kind of loop that one
poller is in. Whatever does not look at these does the same in both and gives the same answers. The
files of the logs may have got different lines, but as long as they got as many, their times are the
same, so that they may be watched.
-/

namespace TreeWatch

/-- An action on the world or on pollers that are there. It neither reads files nor touches settings
and log. -/
def Action.isWatching : Action → Bool
  | .edit _ | .changeDirectory _ | .setVariable _ _ | .takeSnapshot _ _ | .poll _ | .snapshot _
  | .hold _ _ | .held _ | .diffHeld _ _ | .resolve _ _ _ | .stop _ | .isRunning _ => true
  | _ => false

namespace Poller

/-! ## Pollers -/

/-- The poller as if each loop that ends with its own request to stop were a blocking one. -/
def veil (p : Poller) : Poller :=
  { p with loop := match p.loop with | .coroutine _ => .blocking .own | loop => loop }

/-- The poller at a place, as it is seen by who does not tell the loops at one place apart. -/
def seenAt (place i : Nat) (p : Poller) : Poller :=
  if i = place then p.veil else p

variable {place i : Nat} {p q : Poller}

theorem seenAt_eq_of_veil_eq (h : p.veil = q.veil) :
    p.seenAt place place = q.seenAt place place := by
  rw [seenAt, seenAt, if_pos rfl, if_pos rfl, h]

theorem veil_eq_of_seenAt_eq (h : p.seenAt place i = q.seenAt place i) : p.veil = q.veil := by
  unfold seenAt at h
  split at h
  · exact h
  · rw [h]

theorem eq_of_seenAt_eq (h : p.seenAt place i = q.seenAt place i) :
    q.spec = p.spec ∧ q.snapshot = p.snapshot ∧ q.rootMissing = p.rootMissing ∧
      q.stopPending = p.stopPending ∧ q.isRunning = p.isRunning := by
  have hveil := veil_eq_of_seenAt_eq h
  have hloop : p.veil.loop = q.veil.loop := congrArg loop hveil
  refine ⟨(congrArg spec hveil).symm, (congrArg snapshot hveil).symm,
    (congrArg rootMissing hveil).symm, (congrArg stopPending hveil).symm, ?_⟩
  unfold veil at hloop
  unfold isRunning
  cases hp : p.loop <;> cases hq : q.loop <;> simp_all

theorem seenAt_congr (change : Poller → Poller)
    (blind : ∀ r : Poller, (change r).veil = (change r.veil).veil)
    (h : p.seenAt place i = q.seenAt place i) :
    (change p).seenAt place i = (change q).seenAt place i := by
  unfold seenAt at h ⊢
  split at h
  · next hi => rw [if_pos hi, if_pos hi, blind, h, ← blind]
  · next hi => rw [if_neg hi, if_neg hi, h]

/-- What a poller finds and says does not depend on its loop. -/
theorem refresh_congr {w w' : World} {serials : List Nat}
    (world : w.blank .content serials = w'.blank .content serials)
    (h : p.seenAt place i = q.seenAt place i) :
    (p.refresh w).records = (q.refresh w').records ∧
      (p.refresh w).outcome.seenAt place i = (q.refresh w').outcome.seenAt place i := by
  obtain ⟨hspec, _, hmissing, _⟩ := eq_of_seenAt_eq h
  have hfindings := Walk.findings_congr world p.spec.scope p.spec.root
  constructor
  · unfold refresh rootText
    rw [hspec, hmissing, hfindings]
    cases Walk.findings w' p.spec.scope p.spec.root with
    | error e => cases p.rootMissing <;> rfl
    | ok fs => cases p.rootMissing <;> rfl
  · have hlook : p.spec.look? w = q.spec.look? w' := by
      rw [hspec, Spec.look?, Spec.look?, hfindings]
    rw [outcome_refresh, outcome_refresh, hlook]
    generalize q.spec.look? w' = look
    refine seenAt_congr
      (fun r => { r with snapshot := look.getD [], rootMissing := look.isNone }) (fun r => ?_) h
    unfold veil
    cases r.loop <;> rfl

theorem poll_congr {w w' : World} {serials : List Nat}
    (world : w.blank .content serials = w'.blank .content serials)
    (h : p.seenAt place i = q.seenAt place i) :
    (p.poll w).records = (q.poll w').records ∧
      (p.poll w).outcome.1 = (q.poll w').outcome.1 ∧
      (p.poll w).outcome.2.seenAt place i = (q.poll w').outcome.2.seenAt place i := by
  obtain ⟨hspec, hsnapshot, _⟩ := eq_of_seenAt_eq h
  obtain ⟨hrecords, hseen⟩ := refresh_congr world h
  obtain ⟨_, hnext, _⟩ := eq_of_seenAt_eq hseen
  refine ⟨?_, ?_, ?_⟩
  · unfold poll rootText
    simp only [Log.Reported.records_bind, hrecords, hspec, hsnapshot, hnext]
    split <;> simp
  · rw [outcome_poll, outcome_poll, hsnapshot, hnext]
  · rw [outcome_poll, outcome_poll]
    exact hseen

theorem leave_congr (h : p.seenAt place i = q.seenAt place i) : p.leave = q.leave := by
  obtain ⟨hspec, hsnapshot, hmissing, _⟩ := eq_of_seenAt_eq h
  rw [leave, leave, ← hspec, ← hsnapshot, ← hmissing]

theorem stop_congr (h : p.seenAt place i = q.seenAt place i) :
    p.stop.records = q.stop.records ∧
      p.stop.outcome.seenAt place i = q.stop.outcome.seenAt place i := by
  obtain ⟨hspec, _⟩ := eq_of_seenAt_eq h
  constructor
  · change (say _ _).records ++ [] = (say _ _).records ++ []
    rw [rootText, rootText, hspec]
  · rw [outcome_stop, outcome_stop]
    refine seenAt_congr (fun r => { r with stopPending := true, loop := stoppedLoop r.loop })
      (fun r => ?_) h
    unfold veil
    cases r.loop with
    | idle | coroutine => rfl
    | blocking token => cases token <;> rfl

end Poller

namespace Session

open Log

variable {τ : Type}

/-! ## Sessions -/

/-- The sessions differ at most in what their logs hold, in the kind of loop that the poller at a
place is in, and in the cancellations that are still to come. The logs go to the files of some
serial numbers, and the logger of that poller has been used in both. -/
structure Alike (e : Erasure) (serials : List Nat) (place : Nat) (s t : Session τ) : Prop where
  log : Journal.Even e serials (s.world, s.journal) (t.world, t.journal)
  files : s.journal.fileSerials = serials
  met : s.journal.HasMet (loggerName (some "poller"))
  pollers : ∀ i, (s.pollerAt? i).map (Poller.seenAt place i) =
    (t.pollerAt? i).map (Poller.seenAt place i)
  names : s.names = t.names
  held : s.held = t.held
  clock : s.clock = t.clock
  delay : s.delay = t.delay
  cached : s.cached = t.cached
  nextNumber : s.nextNumber = t.nextNumber

namespace Alike

variable {e : Erasure} {serials : List Nat} {place : Nat} {s t : Session τ}

theorem pollerAt? (h : Alike e serials place s t) (i : Nat) :
    (s.pollerAt? i = none ∧ t.pollerAt? i = none) ∨
      ∃ p q, s.pollerAt? i = some p ∧ t.pollerAt? i = some q ∧
        p.seenAt place i = q.seenAt place i := by
  have hi := h.pollers i
  cases hp : s.pollerAt? i with
  | none =>
      cases hq : t.pollerAt? i with
      | none => exact .inl ⟨rfl, rfl⟩
      | some q => simp [hp, hq] at hi
  | some p =>
      cases hq : t.pollerAt? i with
      | none => simp [hp, hq] at hi
      | some q => exact .inr ⟨p, q, rfl, rfl, by simpa [hp, hq] using hi⟩

theorem seenAt_eq (h : Alike e serials place s t) {i : Nat} {p q : Poller}
    (hp : s.pollerAt? i = some p) (hq : t.pollerAt? i = some q) :
    p.seenAt place i = q.seenAt place i := by
  have hi := h.pollers i
  rw [hp, hq] at hi
  exact Option.some.inj hi

theorem relax (h : Alike e serials place s t) : Alike .contentAndTime serials place s t :=
  { h with log := ⟨World.blank_eq_of_subset e.le_contentAndTime (List.Subset.refl serials)
      h.log.world, h.log.journal⟩ }

theorem emit (h : Alike e serials place s t) (rs : List Record) :
    Alike e serials place (s.emit rs) (t.emit rs) ∧
      (s.emit rs).recordsFrom s.recordCount = (t.emit rs).recordsFrom t.recordCount := by
  have hjournal : s.journal.muted = t.journal.muted := h.log.journal
  refine ⟨{ h with
    log := h.log.emitAll rs
    files := (fileSerials_emit s rs).trans h.files
    met := hasMet_emit h.met rs }, ?_⟩
  rw [recordsFrom_emit, recordsFrom_emit, ← Journal.kept_muted, hjournal, Journal.kept_muted]

/-- What only the logger of the poller says may be said in one session and not in the other, if the
times of log files are not asked for any more. -/
theorem emit_aside (h : Alike e serials place s t) (rs rs' : List Record)
    (own : ∀ r ∈ rs ++ rs', r.logger = loggerName (some "poller")) :
    Alike .contentAndTime serials place (s.emit rs) (t.emit rs') := by
  have hjournal : s.journal.muted = t.journal.muted := h.log.journal
  have hfiles : t.journal.fileSerials = serials :=
    (Journal.fileSerials_of_muted_eq hjournal).symm.trans h.files
  obtain ⟨hworld, hmuted, _⟩ :=
    Journal.emitAll_spec s.world s.journal rs fun _ hmem => h.files ▸ hmem
  obtain ⟨hworld', hmuted', _⟩ :=
    Journal.emitAll_spec t.world t.journal rs' fun _ hmem => hfiles ▸ hmem
  rw [h.met.meetAll_eq fun r hr => own r (List.mem_append_left _ hr)] at hmuted
  rw [(h.met.of_muted_eq hjournal.symm).meetAll_eq fun r hr =>
    own r (List.mem_append_right _ hr)] at hmuted'
  exact { h with
    log := ⟨hworld.trans (h.relax.log.world.trans hworld'.symm),
      hmuted.trans (hjournal.trans hmuted'.symm)⟩
    files := (fileSerials_emit s rs).trans h.files
    met := hasMet_emit h.met rs }

theorem setPoller (h : Alike e serials place s t) {i : Nat} {p p' q q' : Poller}
    (hp : s.pollerAt? i = some p) (hq : t.pollerAt? i = some q)
    (same : p'.seenAt place i = q'.seenAt place i) :
    Alike e serials place (s.setPoller i p') (t.setPoller i q') := by
  refine { h with pollers := ?_ }
  intro j
  by_cases hij : i = j
  · subst hij
    rw [pollerAt?_setPoller_self hp, pollerAt?_setPoller_self hq]
    exact congrArg some same
  · rw [pollerAt?_setPoller_of_ne s hij, pollerAt?_setPoller_of_ne t hij]
    exact h.pollers j

theorem changePoller (h : Alike e serials place s t) (i : Nat) {change : Poller → Reported Poller}
    (blind : ∀ p q : Poller, p.seenAt place i = q.seenAt place i →
      (change p).records = (change q).records ∧
        (change p).outcome.seenAt place i = (change q).outcome.seenAt place i) :
    Alike e serials place (s.changePoller i change) (t.changePoller i change) ∧
      (s.changePoller i change).recordsFrom s.recordCount =
        (t.changePoller i change).recordsFrom t.recordCount := by
  rcases h.pollerAt? i with ⟨hp, hq⟩ | ⟨p, q, hp, hq, hsame⟩
  · rw [changePoller_of_none hp, changePoller_of_none hq, recordsFrom_recordCount,
      recordsFrom_recordCount]
    exact ⟨h, rfl⟩
  · obtain ⟨hrecords, hseen⟩ := blind p q hsame
    rw [changePoller_of_some hp, changePoller_of_some hq, ← hrecords]
    obtain ⟨hemitted, hkept⟩ := h.emit (change p).records
    exact ⟨hemitted.setPoller hp hq hseen, hkept⟩

/-- A session in which the poller itself speaks once is like the same session in which it says
something else as loud, whatever loops it is put in. -/
theorem of_emit {s : Session τ} {p q q' : Poller} (h : s.pollerAt? place = some p)
    {r r' : Record} (own : r.logger = loggerName (some "poller")) (logger : r.logger = r'.logger)
    (level : r.level = r'.level) (same : q.seenAt place place = q'.seenAt place place) :
    Alike .content s.journal.fileSerials place ((s.emit [r]).setPoller place q)
      ((s.emit [r']).setPoller place q') := by
  have hself : Journal.Even .content s.journal.fileSerials (s.world, s.journal)
      (s.world, s.journal) := ⟨rfl, rfl⟩
  have hmet : (s.emit [r]).journal.HasMet (loggerName (some "poller")) := by
    obtain ⟨_, hmuted, _⟩ := Journal.emitAll_spec s.world s.journal [r] fun _ hmem => hmem
    rw [← own]
    exact (Journal.hasMet_meetLogger_self s.journal r.logger).of_muted_eq hmuted
  have hsaid : Alike .content s.journal.fileSerials place (s.emit [r]) (s.emit [r']) :=
    ⟨hself.emit_of_alike level logger (.inr fun _ hmem => hmem), fileSerials_emit s [r], hmet,
      fun _ => rfl, rfl, rfl, rfl, rfl, rfl, rfl⟩
  exact hsaid.setPoller h h same

variable [Timeline τ]

theorem passListing (h : Alike e serials place s t) :
    Alike e serials place s.passListing t.passListing := by
  have hclock : Timeline.after s.clock s.delay = Timeline.after t.clock t.delay := by
    rw [h.clock, h.delay]
  exact { h with clock := hclock, delay := rfl }

theorem pollAt (h : Alike .content serials place s t) (i : Nat) :
    (s.pollAt i).1 = (t.pollAt i).1 ∧ Alike .content serials place (s.pollAt i).2 (t.pollAt i).2 ∧
      (s.pollAt i).2.recordsFrom s.recordCount = (t.pollAt i).2.recordsFrom t.recordCount := by
  have hpassed := h.passListing
  rcases h.pollerAt? i with ⟨hp, hq⟩ | ⟨p, q, hp, hq, hsame⟩
  · rw [pollAt_of_none hp, pollAt_of_none hq]
    refine ⟨rfl, hpassed, ?_⟩
    exact (recordsFrom_recordCount s.passListing).trans
      (recordsFrom_recordCount t.passListing).symm
  · obtain ⟨hrecords, hevents, hseen⟩ := Poller.poll_congr h.log.world hsame
    rw [pollAt_of_some hp, pollAt_of_some hq, ← hrecords]
    obtain ⟨hemitted, hkept⟩ := hpassed.emit (p.poll s.world).records
    exact ⟨hevents, hemitted.setPoller hp hq hseen, hkept⟩

end Alike

/-! ## Actions -/

/-- What came of two sessions is alike: the outcome, the session itself and what is kept of what was
said. -/
structure Agree (serials : List Nat) (place : Nat) (s t : Session τ)
    (x y : Outcome τ × Session τ) : Prop where
  outcome : x.1 = y.1
  alike : Alike .content serials place x.2 y.2
  records : x.2.recordsFrom s.recordCount = y.2.recordsFrom t.recordCount

namespace Alike

variable {serials : List Nat} {place : Nat} {s t : Session τ}

theorem agree_of_silent {s' t' : Session τ} (alike : Alike .content serials place s' t')
    (s t : Session τ)
    (silent : s'.journal = s.journal) (silent' : t'.journal = t.journal) (outcome : Outcome τ) :
    Agree serials place s t (outcome, s') (outcome, t') := by
  refine ⟨rfl, alike, ?_⟩
  have hs := recordsFrom_recordCount s
  have ht := recordsFrom_recordCount t
  unfold recordsFrom at hs ht ⊢
  rw [silent, silent', hs, ht]

theorem forPoller (h : Alike .content serials place s t) (id : String)
    {work work' : Nat → Poller → Outcome τ × Session τ}
    (agree : ∀ i p q, s.pollerAt? i = some p → t.pollerAt? i = some q →
      p.seenAt place i = q.seenAt place i → Agree serials place s t (work i p) (work' i q)) :
    Agree serials place s t (s.forPoller id work) (t.forPoller id work') := by
  have hplace : s.place? id = t.place? id := by
    unfold place?
    rw [h.names]
  unfold Session.forPoller
  rw [hplace]
  cases t.place? id with
  | none => exact h.agree_of_silent s t rfl rfl _
  | some i =>
      rcases h.pollerAt? i with ⟨hp, hq⟩ | ⟨p, q, hp, hq, hsame⟩
      · simp only [hp, hq]
        exact h.agree_of_silent s t rfl rfl _
      · simp only [hp, hq]
        exact agree i p q hp hq hsame

variable [Timeline τ]

/-- An action of watching has the same outcome in sessions that are alike, and leaves them alike. -/
theorem act (h : Alike .content serials place s t) {a : Action} (watching : a.isWatching = true) :
    Agree serials place s t (s.act a) (t.act a) := by
  cases a
  case edit change =>
    have halike : Alike .content serials place { s with world := s.world.edit change }
        { t with world := t.world.edit change } :=
      { h with log := ⟨World.edit_congr h.log.world change, h.log.journal⟩ }
    exact halike.agree_of_silent s t rfl rfl _
  case changeDirectory path =>
    have halike : Alike .content serials place
        { s with world := { s.world with directory := path } }
        { t with world := { t.world with directory := path } } :=
      { h with log := ⟨World.changeDirectory_congr h.log.world path, h.log.journal⟩ }
    exact halike.agree_of_silent s t rfl rfl _
  case setVariable name value =>
    have halike : Alike .content serials place { s with world := s.world.setVariable name value }
        { t with world := t.world.setVariable name value } :=
      { h with log := ⟨World.setVariable_congr h.log.world name value, h.log.journal⟩ }
    exact halike.agree_of_silent s t rfl rfl _
  case takeSnapshot root scope =>
    have hsame : Snapshot.take s.world scope root = Snapshot.take t.world scope root := by
      unfold Snapshot.take
      rw [Walk.findings_congr h.log.world scope root]
    obtain ⟨hemitted, hkept⟩ := h.passListing.emit (Snapshot.take t.world scope root).records
    have hact : ∀ u : Session τ, u.act (.takeSnapshot root scope) =
        ((Snapshot.take u.world scope root).outcome.map .snapshot,
          u.passListing.emit (Snapshot.take u.world scope root).records) := fun _ => rfl
    rw [hact, hact, hsame]
    exact ⟨rfl, hemitted, hkept⟩
  case poll id =>
    refine h.forPoller id fun i p q _ _ _ => ?_
    obtain ⟨hevents, halike, hkept⟩ := h.pollAt i
    exact ⟨by simp [hevents], halike, hkept⟩
  case snapshot id =>
    refine h.forPoller id fun i p q _ _ hsame => ?_
    rw [(Poller.eq_of_seenAt_eq hsame).2.1]
    exact h.agree_of_silent s t rfl rfl _
  case hold id name =>
    refine h.forPoller id fun i p q _ _ hsame => ?_
    rw [(Poller.eq_of_seenAt_eq hsame).2.1]
    have halike : Alike .content serials place { s with held := (name, p.snapshot) :: s.held }
        { t with held := (name, p.snapshot) :: t.held } :=
      { h with held := congrArg ((name, p.snapshot) :: ·) h.held }
    exact halike.agree_of_silent s t rfl rfl _
  case held name =>
    simp only [Session.act, heldSnapshot?, h.held]
    split <;> exact h.agree_of_silent s t rfl rfl _
  case diffHeld old new =>
    simp only [Session.act, heldSnapshot?, h.held]
    split <;> exact h.agree_of_silent s t rfl rfl _
  case resolve id word path =>
    refine h.forPoller id fun i p q _ _ hsame => ?_
    cases ChangeKind.ofWord? word with
    | none => exact h.agree_of_silent s t rfl rfl _
    | some kind =>
        have hpath : q.resolve ⟨kind, path⟩ = p.resolve ⟨kind, path⟩ := by
          rw [Poller.resolve, Poller.resolve, (Poller.eq_of_seenAt_eq hsame).1]
        dsimp only
        rw [hpath]
        exact h.agree_of_silent s t rfl rfl _
  case stop id =>
    refine h.forPoller id fun i p q _ _ _ => ?_
    obtain ⟨halike, hkept⟩ := h.changePoller i fun _ _ => Poller.stop_congr
    exact ⟨rfl, halike, hkept⟩
  case isRunning id =>
    refine h.forPoller id fun i p q _ _ hsame => ?_
    rw [(Poller.eq_of_seenAt_eq hsame).2.2.2.2]
    exact h.agree_of_silent s t rfl rfl _
  all_goals simp [Action.isWatching] at watching

end Alike

end Session

end TreeWatch
