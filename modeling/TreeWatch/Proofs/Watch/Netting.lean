import Mathlib.Data.List.Induction
import TreeWatch.Proofs.Watch.Keys
import TreeWatch.Proofs.Watch.Polling

/-!
# Net changes

A poller that polls seldom reports of each path what the changes that a busier one reports of it
come to: those in between cancel out, and only the first and the last of them and the times at both
ends matter.
-/

namespace TreeWatch

/-! ## The difference of two snapshots at one path -/

/-- What happened to an entry, given its time at an earlier and at a later look. -/
def change? : Option Int → Option Int → Option ChangeKind
  | none, none => none
  | none, some _ => some .created
  | some _, none => some .deleted
  | some before, some after => if before = after then none else some .modified

theorem change?_eq_none_iff {before after : Option Int} :
    change? before after = none ↔ before = after := by
  cases before <;> cases after <;> simp [change?]

theorem created_iff_of_change? {before after : Option Int} {kind : ChangeKind}
    (h : change? before after = some kind) : kind = .created ↔ before = none := by
  cases before <;> cases after <;> simp_all [change?] <;> grind

theorem deleted_iff_of_change? {before after : Option Int} {kind : ChangeKind}
    (h : change? before after = some kind) : kind = .deleted ↔ after = none := by
  cases before <;> cases after <;> simp_all [change?] <;> grind

/-- What some events say of a path, in their order. -/
def changesOf (path : String) (es : List Event) : List ChangeKind :=
  es.filterMap fun e => if e.path = path then some e.kind else none

@[simp] theorem changesOf_nil (path : String) : changesOf path [] = [] := rfl

@[simp] theorem changesOf_append (path : String) (es fs : List Event) :
    changesOf path (es ++ fs) = changesOf path es ++ changesOf path fs :=
  List.filterMap_append

namespace Snapshot

theorem filterMap_of_path {β : Type} {s : Snapshot} (nodup : s.paths.Nodup) (path : String)
    {f : String × Int → Option β} (other : ∀ e, e.1 ≠ path → f e = none) :
    s.filterMap f = ((s.time? path).bind fun time => f (path, time)).toList := by
  induction s with
  | nil => rfl
  | cons e rest ih =>
      rw [paths_cons, List.nodup_cons] at nodup
      by_cases hpath : e.1 = path
      · have hrest : rest.filterMap f = [] := by
          refine List.filterMap_eq_nil_iff.mpr fun d hd => other d ?_
          rintro heq
          exact nodup.1 (hpath.trans heq.symm ▸ List.mem_map_of_mem hd)
        rw [time?_cons, if_pos hpath, Option.bind_some, List.filterMap_cons, hrest, ← hpath]
        cases f e <;> rfl
      · rw [time?_cons, if_neg hpath, List.filterMap_cons_none (other e hpath), ih nodup.2]

theorem changesOf_diff {old new : Snapshot} (nodup : old.paths.Nodup) (nodup' : new.paths.Nodup)
    (path : String) :
    changesOf path (diff old new) = (change? (old.time? path) (new.time? path)).toList := by
  have harrivals : changesOf path (new.filterMap (arrival old)) =
      ((new.time? path).bind fun time => (arrival old (path, time)).map Event.kind).toList := by
    rw [changesOf, List.filterMap_filterMap, filterMap_of_path nodup' path]
    · congr 2
      funext time
      unfold arrival
      cases old.time? path with
      | none => simp
      | some before => by_cases hsame : before = time <;> simp [hsame]
    · intro e he
      unfold arrival
      cases old.time? e.1 with
      | none => simp [he]
      | some before => by_cases hsame : before = e.2 <;> simp [hsame, he]
  have hdepartures : changesOf path (old.filterMap (departure new)) =
      ((old.time? path).bind fun time => (departure new (path, time)).map Event.kind).toList := by
    rw [changesOf, List.filterMap_filterMap, filterMap_of_path nodup path]
    · congr 2
      funext time
      unfold departure
      cases new.time? path <;> simp
    · intro e he
      unfold departure
      cases new.time? e.1 <;> simp [he]
  rw [diff, changesOf_append, harrivals, hdepartures]
  unfold arrival departure
  cases hold : old.time? path with
  | none => cases hnew : new.time? path <;> simp [change?, hold]
  | some before =>
      cases hnew : new.time? path with
      | none => simp [change?, hnew]
      | some after => by_cases hsame : before = after <;> simp [change?, hold, hnew, hsame]

end Snapshot

/-! ## Changes one after the other -/

/-- What happened to an entry from one look to the next, given its times at all looks. -/
def changesAlong : Option Int → List (Option Int) → List ChangeKind
  | _, [] => []
  | before, after :: rest => (change? before after).toList ++ changesAlong after rest

/-- Changes, and what they say of the entry before and after them: if there are none, its time is
the same; otherwise the first tells whether it was there, and the last whether it is. -/
structure Spans (changes : List ChangeKind) (before after : Option Int) : Prop where
  same : changes = [] → before = after
  first : ∀ kind, changes.head? = some kind → (kind = .created ↔ before = none)
  last : ∀ kind, changes.getLast? = some kind → (kind = .deleted ↔ after = none)

theorem Spans.cons {changes : List ChangeKind} {before middle after : Option Int}
    (h : Spans changes middle after) :
    Spans ((change? before middle).toList ++ changes) before after := by
  cases hchange : change? before middle with
  | none =>
      rw [change?_eq_none_iff.mp hchange]
      exact h
  | some kind =>
      refine ⟨by simp, ?_, ?_⟩
      · intro first hfirst
        obtain rfl : kind = first := by simpa using hfirst
        exact created_iff_of_change? hchange
      · intro last hlast
        cases changes with
        | nil =>
            obtain rfl : kind = last := by simpa using hlast
            rw [← h.same rfl]
            exact deleted_iff_of_change? hchange
        | cons next more => exact h.last last (by simpa using hlast)

theorem spans_changesAlong (before : Option Int) (times : List (Option Int)) :
    Spans (changesAlong before times) before (times.getLastD before) := by
  induction times generalizing before with
  | nil => exact ⟨fun _ => rfl, by simp [changesAlong], by simp [changesAlong]⟩
  | cons time rest ih =>
      rw [List.getLastD_cons]
      exact (ih time).cons

/-- What is told of a path is the net effect of what was seen of it, given its times at the first
and at the last look. -/
structure IsNetEffect (seen told : List ChangeKind) (before after : Option Int) : Prop where
  nothing : seen = [] → told = []
  created : told = [.created] ↔
    seen.head? = some .created ∧ seen.getLast? ≠ some .deleted
  deleted : told = [.deleted] ↔
    (∃ first, seen.head? = some first ∧ first ≠ .created) ∧ seen.getLast? = some .deleted
  cancelled : seen.head? = some .created → seen.getLast? = some .deleted → told = []
  remained : ∀ first last, seen.head? = some first → seen.getLast? = some last →
    first ≠ .created → last ≠ .deleted → told = if before = after then [] else [.modified]

theorem Spans.isNetEffect {changes : List ChangeKind} {before after : Option Int}
    (h : Spans changes before after) :
    IsNetEffect changes (change? before after).toList before after := by
  by_cases hnil : changes = []
  · subst hnil
    have hnone : change? before after = none := change?_eq_none_iff.mpr (h.same rfl)
    rw [hnone]
    exact ⟨fun _ => rfl, by simp, by simp, by simp, by simp⟩
  · obtain ⟨first, hfirst⟩ : ∃ first, changes.head? = some first :=
      Option.isSome_iff_exists.mp (by simpa using hnil)
    obtain ⟨last, hlast⟩ : ∃ last, changes.getLast? = some last :=
      Option.isSome_iff_exists.mp (by simpa using hnil)
    have hbefore := h.first first hfirst
    have hafter := h.last last hlast
    refine ⟨fun hseen => absurd hseen hnil, ?_, ?_, ?_, ?_⟩
    all_goals
      simp only [hfirst, hlast, Option.some.injEq, exists_eq_left', ne_eq, hbefore, hafter]
      cases before <;> cases after <;> grind [change?]

/-! ## Two pollers -/

/-- What happens up to a poll of the slower one of two pollers: the faster one polls alone in some
worlds, and then both poll. -/
structure Round where
  alone : List World
  together : World

def Round.worlds (r : Round) : List World :=
  r.alone ++ [r.together]

namespace Poller

def pollAll (p : Poller) (ws : List World) : Poller :=
  ws.foldl (fun p w => (p.poll w).outcome.2) p

def eventsOver (p : Poller) : List World → List Event
  | [] => []
  | w :: ws => (p.poll w).outcome.1 ++ (p.poll w).outcome.2.eventsOver ws

@[simp] theorem pollAll_nil (p : Poller) : p.pollAll [] = p := rfl

@[simp] theorem pollAll_cons (p : Poller) (w : World) (ws : List World) :
    p.pollAll (w :: ws) = (p.poll w).outcome.2.pollAll ws := rfl

/-- What a poller knows after a poll does not depend on its polls before. -/
theorem pollAll_concat (p : Poller) (ws : List World) (w : World) :
    p.pollAll (ws ++ [w]) = (p.poll w).outcome.2 := by
  induction ws generalizing p with
  | nil => rfl
  | cons v ws ih =>
      rw [List.cons_append, pollAll_cons, ih, outcome_poll_snd, outcome_poll_snd,
        outcome_poll_snd]

theorem pollAll_rounds (p : Poller) (rounds : List Round) :
    p.pollAll (rounds.flatMap Round.worlds) = p.pollAll (rounds.map Round.together) := by
  induction rounds using List.reverseRecOn with
  | nil => rfl
  | append_singleton rounds last _ =>
      have hworlds : (rounds ++ [last]).flatMap Round.worlds =
          rounds.flatMap Round.worlds ++ last.alone ++ [last.together] := by
        simp [Round.worlds]
      rw [hworlds, pollAll_concat, List.map_append, List.map_singleton, pollAll_concat]

theorem nodup_paths_look (w : World) (spec : Spec) : ((spec.look? w).getD []).paths.Nodup := by
  unfold Spec.look?
  cases Walk.findings w spec.scope spec.root with
  | error e => exact List.nodup_nil
  | ok fs => exact Snapshot.nodup_paths_ofList _

theorem nodup_paths_pollAll {p : Poller} (h : p.snapshot.paths.Nodup) (ws : List World) :
    (p.pollAll ws).snapshot.paths.Nodup := by
  induction ws generalizing p with
  | nil => exact h
  | cons w ws ih =>
      rw [pollAll_cons, outcome_poll_snd]
      exact ih (nodup_paths_look w p.spec)

def timeIn (p : Poller) (path : String) (w : World) : Option Int :=
  Snapshot.time? ((p.spec.look? w).getD []) path

theorem time?_poll (p : Poller) (w : World) (path : String) :
    (p.poll w).outcome.2.snapshot.time? path = p.timeIn path w := by
  rw [outcome_poll_snd, timeIn]

theorem changesOf_poll {p : Poller} (h : p.snapshot.paths.Nodup) (w : World) (path : String) :
    changesOf path (p.poll w).outcome.1 =
      (change? (p.snapshot.time? path) (p.timeIn path w)).toList := by
  rw [outcome_poll_fst, Snapshot.changesOf_diff h (nodup_paths_look w p.spec), timeIn]

/-- Polls say of a path what happened to it from one of them to the next. -/
theorem changesOf_eventsOver {p : Poller} (h : p.snapshot.paths.Nodup) (ws : List World)
    (path : String) :
    changesOf path (p.eventsOver ws) =
      changesAlong (p.snapshot.time? path) (ws.map (p.timeIn path)) := by
  induction ws generalizing p with
  | nil => rfl
  | cons w ws ih =>
      have hnodup : (p.poll w).outcome.2.snapshot.paths.Nodup := nodup_paths_pollAll h [w]
      have htimes : (p.poll w).outcome.2.timeIn path = p.timeIn path := by
        rw [outcome_poll_snd]
        rfl
      rw [eventsOver, changesOf_append, changesOf_poll h, ih hnodup, time?_poll, htimes]
      rfl

end Poller

/-- Of two pollers that were made for the same directory in the same world, the one that polls at
some of the moments at which the other does reports of each path the net effect of what the other
reports of it in the meantime. -/
theorem isNetEffect_changesOf_poll (w : World) (spec : Spec) (rounds : List Round) (last : Round)
    (path : String) :
    let start := (Poller.ofSpec w spec).outcome
    let fast := start.pollAll (rounds.flatMap Round.worlds)
    let slow := start.pollAll (rounds.map Round.together)
    let polled := (slow.poll last.together).outcome
    IsNetEffect (changesOf path (fast.eventsOver last.worlds)) (changesOf path polled.1)
      (slow.snapshot.time? path) (polled.2.snapshot.time? path) := by
  intro start fast slow polled
  have hsame : fast = slow := start.pollAll_rounds rounds
  have hnodup : slow.snapshot.paths.Nodup := by
    have hstart : start.snapshot.paths.Nodup := by
      rw [show start = _ from Poller.outcome_ofSpec w spec]
      exact Poller.nodup_paths_look w spec
    exact Poller.nodup_paths_pollAll hstart _
  have htimes : ((last.worlds.map (slow.timeIn path)).getLastD (slow.snapshot.time? path)) =
      polled.2.snapshot.time? path := by
    rw [Poller.time?_poll]
    simp [Round.worlds]
  have hspans := spans_changesAlong (slow.snapshot.time? path) (last.worlds.map (slow.timeIn path))
  rw [hsame, Poller.changesOf_eventsOver hnodup, Poller.changesOf_poll hnodup,
    ← Poller.time?_poll]
  rw [htimes] at hspans
  exact hspans.isNetEffect

end TreeWatch
