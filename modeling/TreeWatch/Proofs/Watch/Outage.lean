import TreeWatch.Proofs.Watch.Keys
import TreeWatch.Proofs.Watch.Polling

/-!
# A directory that cannot be listed

What a poller makes of it: everything that it knew is gone, which a poll reports path by path, and
the log is told when this begins and when it is over, but not in between.
-/

namespace TreeWatch

open Log

/-- Why the watched directory cannot be listed in a world, if it cannot. -/
def Spec.failure? (w : World) (spec : Spec) : Option SystemError :=
  match Walk.listRoot w spec.root with
  | .error e => some e
  | .ok _ => none

theorem Spec.look?_eq_none_iff {w : World} {spec : Spec} :
    spec.look? w = none ↔ ∃ e, spec.failure? w = some e := by
  unfold look? failure? Walk.findings
  cases Walk.listRoot w spec.root <;> simp [Except.map]

theorem Spec.isNone_look? (w : World) (spec : Spec) :
    (spec.look? w).isNone = (spec.failure? w).isSome := by
  unfold look? failure? Walk.findings
  cases Walk.listRoot w spec.root <;> rfl

/-! ## Snapshots -/

theorem Snapshot.diff_nil (old : Snapshot) :
    diff old [] = old.map fun entry => ⟨.deleted, entry.1⟩ := by
  rw [diff, List.filterMap_nil, List.nil_append]
  induction old with
  | nil => rfl
  | cons entry rest ih =>
      rw [List.filterMap_cons, List.map_cons, ih]
      rfl

/-! ## What the log is told -/

def unavailableRecord (root : Path) (e : SystemError) : Record :=
  .of .warning "poller" ("Watch root unavailable " ++ root.text ++ ": " ++ e.message)

def backRecord (root : Path) : Record :=
  .of .info "poller" ("Watch root is back: " ++ root.text)

def begins (start text : String) : Bool :=
  start.toList.isPrefixOf text.toList

/-- A record that a watched directory cannot be listed, or that it can be listed again. -/
def Log.Record.isOutage (r : Record) : Bool :=
  r.logger = loggerName (some "poller") &&
    (r.level = Level.warning && begins "Watch root unavailable " r.message ||
      r.level = Level.info && begins "Watch root is back: " r.message)

def outages (rs : List Record) : List Record :=
  rs.filter Record.isOutage

@[simp] theorem outages_nil : outages [] = [] := rfl

@[simp] theorem outages_append (rs more : List Record) :
    outages (rs ++ more) = outages rs ++ outages more :=
  List.filter_append rs more

/-- What is said when a directory is looked at, given whether it was missing before. -/
def news (wasMissing : Bool) (root : Path) : Option SystemError → List Record
  | some e => if wasMissing then [] else [unavailableRecord root e]
  | none => if wasMissing then [backRecord root] else []

theorem begins_append (start rest : String) : begins start (start ++ rest) = true := by
  simp [begins, String.toList_append]

theorem begins_append_of_ne {start word : String} {c d : Char} {cs ds : List Char}
    (hstart : start.toList = c :: cs) (hword : word.toList = d :: ds) (hne : c ≠ d)
    (rest : String) : begins start (word ++ rest) = false := by
  simp [begins, String.toList_append, hstart, hword, List.isPrefixOf_cons_cons, hne]

theorem isOutage_unavailableRecord (root : Path) (e : SystemError) :
    (unavailableRecord root e).isOutage = true := by
  have hbegins : begins "Watch root unavailable " (unavailableRecord root e).message = true := by
    rw [unavailableRecord, Record.of, String.append_assoc, String.append_assoc]
    exact begins_append _ _
  rw [Record.isOutage, hbegins]
  rfl

theorem isOutage_backRecord (root : Path) : (backRecord root).isOutage = true := by
  have hbegins : begins "Watch root is back: " (backRecord root).message = true :=
    begins_append _ _
  rw [Record.isOutage, hbegins]
  rfl

theorem outages_of_level {rs : List Record}
    (h : ∀ r ∈ rs, r.level ≠ Level.warning ∧ r.level ≠ Level.info) : outages rs = [] := by
  refine List.filter_eq_nil_iff.mpr ?_
  intro r hr
  simp [Record.isOutage, h r hr]

theorem outages_news (wasMissing : Bool) (root : Path) (failure? : Option SystemError) :
    outages (news wasMissing root failure?) = news wasMissing root failure? := by
  cases failure? with
  | none =>
      cases wasMissing with
      | false => rfl
      | true => exact List.filter_cons_of_pos (isOutage_backRecord root)
  | some e =>
      cases wasMissing with
      | true => rfl
      | false => exact List.filter_cons_of_pos (isOutage_unavailableRecord root e)

theorem outages_say_of_level {level : Level} (message : String) (hwarning : level ≠ .warning)
    (hinfo : level ≠ .info) : outages (Poller.say level message).records = [] := by
  apply outages_of_level
  intro r hr
  rw [List.mem_singleton.mp hr]
  exact ⟨hwarning, hinfo⟩

/-- What does not begin as these records do is none of them. -/
theorem outages_say_append {word : String} {d : Char} {ds : List Char} (level : Level)
    (hword : word.toList = d :: ds) (hne : 'W' ≠ d) (rest : String) :
    outages (Poller.say level (word ++ rest)).records = [] := by
  refine List.filter_eq_nil_iff.mpr ?_
  intro r hr
  have hr : r = .of level "poller" (word ++ rest) := List.mem_singleton.mp hr
  rw [hr, Record.isOutage, Record.of, begins_append_of_ne rfl hword hne,
    begins_append_of_ne rfl hword hne]
  simp

theorem outages_findings (root : Path) (fs : List Finding) :
    outages (fs.filterMap (Finding.record? root)) = [] := by
  apply outages_of_level
  intro r hr
  obtain ⟨f, -, hf⟩ := List.mem_filterMap.mp hr
  cases f with
  | entry => simp [Finding.record?] at hf
  | hidden | closed =>
      obtain rfl := Option.some.inj hf
      simp only [Record.of]
      decide

namespace Poller

variable (w : World) (p : Poller)

theorem outages_refresh :
    outages (p.refresh w).records = news p.rootMissing p.spec.root (p.spec.failure? w) := by
  unfold refresh Spec.failure? Walk.findings
  cases Walk.listRoot w p.spec.root with
  | error e =>
      dsimp only [Except.map]
      cases p.rootMissing with
      | true => rfl
      | false => exact outages_news false p.spec.root (some e)
  | ok entries =>
      dsimp only [Except.map]
      cases p.rootMissing with
      | true =>
          refine (outages_append _ _).trans ?_
          rw [outages_findings]
          exact outages_news true p.spec.root none
      | false =>
          refine (outages_append _ _).trans ?_
          rw [outages_findings]
          rfl

theorem outages_poll :
    outages (p.poll w).records = news p.rootMissing p.spec.root (p.spec.failure? w) := by
  unfold poll
  rw [Reported.records_bind, outages_append, outages_refresh]
  dsimp only
  split
  · rw [Reported.records_bind, outages_append, outages_say_of_level _ (by decide) (by decide)]
    simp
  · simp

theorem outages_ofSpec (spec : Spec) :
    outages (Poller.ofSpec w spec).records = news false spec.root (spec.failure? w) := by
  unfold ofSpec
  rw [Reported.records_bind, outages_append, outages_refresh, Reported.records_bind,
    outages_append, outages_say_of_level _ (by decide) (by decide)]
  simp

/-- A poll of a directory that cannot be listed reports every path as deleted. -/
theorem poll_of_failure {e : SystemError} (h : p.spec.failure? w = some e) :
    (p.poll w).outcome =
      (p.snapshot.map fun entry => ⟨.deleted, entry.1⟩,
        { p with snapshot := [], rootMissing := true }) := by
  have hnone : p.spec.look? w = none := Spec.look?_eq_none_iff.mpr ⟨e, h⟩
  rw [outcome_poll, outcome_refresh, hnone]
  exact Prod.ext (Snapshot.diff_nil p.snapshot) rfl

end Poller

end TreeWatch
