import TreeWatch.Proofs.Log.Writing
import TreeWatch.Proofs.Session.Linking

/-!
# Sessions that differ in their logs alone

Two sessions are even if they differ in nothing but the lines of their logs: those that were kept,
and the content and times of the files of some serial numbers. Whatever is done in both leaves them
even, as long as no settings are read from one of these files and nobody looks at where one is seen.
-/

namespace TreeWatch

namespace Session

open Log

variable {τ : Type}

/-! ## Evenness -/

/-- The sessions differ in nothing but what their logs hold. The logger of pollers was used in
both. -/
structure Even (serials : List Nat) (s t : Session τ) : Prop where
  log : Journal.Even .contentAndTime serials (s.world, s.journal) (t.world, t.journal)
  met : s.journal.HasMet (loggerName (some "poller"))
  cached : s.cached = t.cached
  nextNumber : s.nextNumber = t.nextNumber
  pollers : s.pollers = t.pollers
  names : s.names = t.names
  held : s.held = t.held
  clock : s.clock = t.clock
  delay : s.delay = t.delay
  cancelled : s.cancelled = t.cancelled

def Ends {α : Type} (serials : List Nat) (x y : α × Session τ) : Prop :=
  ∃ outcome s t, x = (outcome, s) ∧ y = (outcome, t) ∧ Even serials s t

theorem Even.refl {s : Session τ} (met : s.journal.HasMet (loggerName (some "poller"))) :
    Even [] s s :=
  ⟨⟨rfl, rfl⟩, met, rfl, rfl, rfl, rfl, rfl, rfl, rfl, rfl⟩

/-! ## Even logs side by side -/

def EvenLogs (serials : List Nat) (x y : World × Journal) : Prop :=
  Journal.Even .contentAndTime serials x y ∧ x.2.HasMet (loggerName (some "poller"))

theorem bond_evenLogs (serials : List Nat) : Bond (fun _ => True) (EvenLogs serials) where
  emitAll h rs := by
    obtain ⟨_, hmuted, _⟩ := Journal.emitAll_spec _ _ rs fun _ hmem => hmem
    exact ⟨h.1.emitAll rs, (h.2.meetAll rs).of_muted_eq hmuted⟩
  setup _ h settings := by
    refine ⟨(h.1.setup settings).2, ?_⟩
    unfold Journal.HasMet
    rw [Journal.loggers_setup]
    exact h.2
  reset _ h := ⟨h.1.reset, h.2⟩
  edit _ h := ⟨⟨World.edit_congr h.1.world _, h.1.journal⟩, h.2⟩
  changeDirectory _ h := ⟨⟨World.changeDirectory_congr h.1.world _, h.1.journal⟩, h.2⟩
  setVariable h name value := ⟨⟨World.setVariable_congr h.1.world name value, h.1.journal⟩, h.2⟩
  validate h r :=
    World.eq_of_blank_eq (f := r.validate) (fun v => Request.validate_blank v r) h.1.world
  allFiles h project named := Settings.allFiles_of_blank_eq h.1.world project named
  environment h := (congrArg (·.environment) h.1.world).symm
  host h := (congrArg (·.host) h.1.world).symm

/-- What is seen there is the same whatever some files contain and whatever their times are. -/
def Sight.IsApart (serials : List Nat) (x : Sight) : Prop :=
  ∀ v : World, v.blank .contentAndTime serials = x.world.blank .contentAndTime serials →
    Walk.findings v x.scope x.root = Walk.findings x.world x.scope x.root

theorem Sight.IsApart.isShared {serials : List Nat} {x : Sight} (h : x.IsApart serials) :
    x.IsShared (EvenLogs serials) :=
  fun related => h _ related.1.world.symm

/-- Whether none of some files is below what is looked at. -/
def Sight.avoids (serials : List Nat) (x : Sight) : Bool :=
  match x.world.find x.root with
  | .ok (_, n) => n.fileNumbers.all fun serial => !serials.contains serial
  | .error _ => true

/-- Files that are not below what is looked at are not seen. -/
theorem Sight.isApart_of_avoids {serials : List Nat} {x : Sight} (h : x.avoids serials = true) :
    x.IsApart serials := by
  refine fun _ related => Walk.findings_congr_of_disjoint related (fun names n hfind => ?_) x.scope
  unfold avoids at h
  rw [hfind] at h
  intro serial hmem hserials
  have hout := List.all_eq_true.mp h serial hmem
  simp [hserials] at hout

namespace Even

variable {serials : List Nat} {s t : Session τ}

theorem linked (h : Even serials s t) : Linked (EvenLogs serials) s t :=
  ⟨⟨h.log, h.met⟩, h.cached, h.nextNumber, h.pollers, h.names, h.held, h.clock, h.delay,
    h.cancelled⟩

theorem of_linked (h : Linked (EvenLogs serials) s t) : Even serials s t :=
  ⟨h.log.1, h.log.2, h.cached, h.nextNumber, h.pollers, h.names, h.held, h.clock, h.delay,
    h.cancelled⟩

theorem pollerAt? (h : Even serials s t) (i : Nat) : t.pollerAt? i = s.pollerAt? i :=
  h.linked.pollerAt? i

theorem pollerIs (h : Even serials s t) (i : Nat) (question : Poller → Bool) :
    t.pollerIs i question = s.pollerIs i question :=
  h.linked.pollerIs i question

theorem named? (h : Even serials s t) (id : String) : t.named? id = s.named? id :=
  h.linked.named? id

/-! ### Parts of actions -/

theorem emit (h : Even serials s t) (rs : List Record) : Even serials (s.emit rs) (t.emit rs) :=
  of_linked (h.linked.emit (bond_evenLogs serials) rs)

/-- What the logger of pollers says in one of the sessions goes to its log files alone. -/
theorem emit_aside (h : Even serials s t) {r : Record}
    (own : r.logger = loggerName (some "poller")) :
    Even (serials ++ s.journal.fileSerials) (s.emit [r]) t := by
  obtain ⟨hworld, hmuted, _⟩ := Journal.emitAll_spec s.world s.journal [r] fun _ hmem => hmem
  have hmet : s.journal.meetAll [r] = s.journal :=
    h.met.meetAll_eq fun _ hr => List.mem_singleton.mp hr ▸ own
  have hlog : Journal.Even .contentAndTime (serials ++ s.journal.fileSerials)
      ((s.emit [r]).world, (s.emit [r]).journal) (t.world, t.journal) := by
    refine ⟨?_, (hmuted.trans (congrArg Journal.muted hmet)).trans h.log.journal⟩
    have hsame := Erasure.le_refl .contentAndTime
    exact (World.blank_eq_of_subset hsame (List.subset_append_right serials _) hworld).trans
      (World.blank_eq_of_subset hsame (List.subset_append_left serials _) h.log.world)
  exact { h with log := hlog, met := hasMet_emit h.met [r] }

theorem changePoller (h : Even serials s t) (i : Nat) (change : Poller → Reported Poller) :
    Even serials (s.changePoller i change) (t.changePoller i change) :=
  of_linked (h.linked.changePoller (bond_evenLogs serials) i change)

variable [Timeline τ]

/-! ### Pollers and the clock -/

theorem pass (h : Even serials s t) (span : τ) : Even serials (s.pass span) (t.pass span) :=
  of_linked (h.linked.pass span)

theorem addDelay (h : Even serials s t) (seconds : Float) :
    Even serials (s.addDelay seconds) (t.addDelay seconds) :=
  of_linked (h.linked.addDelay seconds)

theorem spanUntil (h : Even serials s t) (next : τ) : t.spanUntil next = s.spanUntil next :=
  h.linked.spanUntil next

theorem nextStart (h : Even serials s t) (i : Nat) : t.nextStart i = s.nextStart i :=
  h.linked.nextStart i

theorem pollInLoop (h : Even serials s t) (i : Nat) (receiver : Receiver)
    (apart : ∀ x ∈ s.sightAt? i, x.IsApart serials) :
    ∃ next events s' t', s.pollInLoop i receiver = (next, events, s') ∧
      t.pollInLoop i receiver = (next, events, t') ∧ Even serials s' t' := by
  obtain ⟨next, events, s', t', hs, ht, hlinked⟩ :=
    h.linked.pollInLoop (bond_evenLogs serials) i receiver fun x hx => (apart x hx).isShared
  exact ⟨next, events, s', t', hs, ht, of_linked hlinked⟩

/-! ### Actions -/

/-- An action leaves sessions even unless it reads settings from a file in which they differ, or
looks at where such a file is seen. -/
theorem act (h : Even serials s t) {a : Action}
    (spared : Settings.Spared serials s.world (s.filesRead a))
    (apart : ∀ x ∈ s.sights a, x.IsApart serials) : Even serials (s.act a).2 (t.act a).2 :=
  of_linked (h.linked.act (bond_evenLogs serials) trivial
    (Settings.entriesOfFile_of_blank_eq h.log.world spared) fun x hx => (apart x hx).isShared)

end Even

end Session

end TreeWatch
