import TreeWatch.Proofs.Failure
import TreeWatch.Proofs.Log.Family
import TreeWatch.Proofs.Log.Lifecycle
import TreeWatch.Proofs.Tree.Blanking

/-!
# A log beside one that takes in everything

What is said while a log goes to a file is what another log keeps that is the same but has no level.
The file gets the lines of those records that reach the level of the first one, as long as loggers
of the family say them.
-/

namespace TreeWatch

/-! ## Files by their numbers -/

def Node.Holds (root : Node) (serial : Nat) (content : Bytes) : Prop :=
  ∃ path a, root.at? path = some (.file a serial content)

theorem Node.holds_of_any {root : Node} {serial : Nat} {content : Bytes} (path : List String)
    (h : (root.at? path).any (fun
      | .file _ s c => decide (s = serial ∧ c = content)
      | _ => false) = true) : root.Holds serial content := by
  obtain ⟨n, hn, hfile⟩ := (Option.any_eq_true _ _).mp h
  cases n with
  | directory | link | special => simp at hfile
  | file a s c =>
      obtain ⟨rfl, rfl⟩ := of_decide_eq_true hfile
      exact ⟨path, a, hn⟩

theorem Node.holds_appendTo {root : Node} {serial : Nat} {bytes content : Bytes}
    {time? : Option Int} :
    (root.appendTo serial bytes time?).Holds serial content ↔
      ∃ before, root.Holds serial before ∧ content = before ++ bytes := by
  have hat := (entrywise_appendTo serial bytes time?).keepsShape.at? root
  constructor
  · rintro ⟨path, a, hfile⟩
    rw [hat, Option.map_eq_some_iff] at hfile
    obtain ⟨n, hn, happended⟩ := hfile
    cases n with
    | directory | link | special => simp [appendTo] at happended
    | file b number before =>
        by_cases hnumber : number = serial
        · subst hnumber
          rw [appendTo, if_pos rfl] at happended
          cases happended
          exact ⟨before, ⟨path, _, hn⟩, rfl⟩
        · rw [appendTo, if_neg hnumber] at happended
          cases happended
          exact absurd rfl hnumber
  · rintro ⟨before, ⟨path, a, hfile⟩, rfl⟩
    exact ⟨path, _, by rw [hat, hfile, Option.map_some, appendTo, if_pos rfl]⟩

theorem Node.holds_blank {root : Node} {e : Erasure} {serials : List Nat} {serial : Nat}
    (other : serial ∉ serials) {content : Bytes} :
    (root.blank e serials).Holds serial content ↔ root.Holds serial content := by
  have hat : ∀ names, (root.blank e serials).at? names = (root.at? names).map (blank e serials) :=
    entrywise_blank.keepsShape.at? root
  constructor
  · rintro ⟨path, a, hfile⟩
    rw [hat, Option.map_eq_some_iff] at hfile
    obtain ⟨n, hn, hblank⟩ := hfile
    cases n with
    | directory | link | special => simp at hblank
    | file b number before =>
        by_cases hnumber : number ∈ serials
        · rw [blank_file_of_mem hnumber, Node.file.injEq] at hblank
          exact absurd (hblank.2.1 ▸ hnumber) other
        · rw [blank_file_of_notMem hnumber] at hblank
          exact ⟨path, a, hblank ▸ hn⟩
  · rintro ⟨path, a, hfile⟩
    exact ⟨path, a, by rw [hat, hfile, Option.map_some, blank_file_of_notMem other]⟩

/-- To open a file for adding lines at its end is to change nothing unless the file is new. -/
theorem World.eq_or_eq_of_openAppend {w v : World} {p : Path} {n : Nat}
    (h : w.openAppend p = .ok (n, v)) : v = w ∨ n = w.nextSerial := by
  unfold openAppend at h
  split at h
  · cases h
    exact .inl rfl
  · cases h
    exact .inr rfl
  · split at h
    · cases h
    · obtain ⟨names, _, hnames⟩ := bind_eq_ok_iff.mp h
      cases hnames
      exact .inr rfl
  · cases h

/-! ## Levels -/

namespace LoggingSettings

open Log

theorem scaleLevel_pos (n : Int) : 0 < scaleLevel n := by
  have hscale : ∀ place ≤ 4, 0 < scale.getD place .info := by decide
  exact hscale _ (Nat.min_le_right _ _)

theorem namedLevel_pos (name : String) : 0 < namedLevel name := by
  have hnames : ∀ named ∈ Level.names, named.2 ≠ "NOTSET" → 0 < named.1 := by decide
  unfold namedLevel Level.ofName?
  split
  · decide
  · split
    · decide
    · next hset =>
        cases hfound : Level.names.find? (·.2 = name.map upperLetter) with
        | none => decide
        | some named =>
            have hname : named.2 = name.map upperLetter := by simpa using List.find?_some hfound
            exact hnames named (List.mem_of_find?_eq_some hfound) (hname ▸ hset)

theorem pos_of_thresholdOf {s : Option LoggingSettings} {level : Level}
    (h : thresholdOf s = .ok level) : 0 < level := by
  have hinfo : (0 : Level) < .info := by decide
  have hverbosity : ∀ v, verbosityLevel v = .ok level → 0 < level := by
    intro v hv
    unfold verbosityLevel at hv
    split at hv
    · exact Except.ok.inj hv ▸ scaleLevel_pos _
    · exact Except.ok.inj hv ▸ scaleLevel_pos _
    · split at hv
      · exact Except.ok.inj hv ▸ scaleLevel_pos _
      · split at hv
        · exact Except.ok.inj hv ▸ scaleLevel_pos _
        · cases hv
    · cases hv
  cases s with
  | none => exact Except.ok.inj h ▸ hinfo
  | some s =>
      change s.threshold = .ok level at h
      unfold threshold at h
      split at h
      · exact Except.ok.inj h ▸ namedLevel_pos _
      · exact Except.ok.inj h ▸ hinfo
      · exact Except.ok.inj h ▸ hinfo
      · split at h
        · cases h
        · exact Except.ok.inj h ▸ hinfo
      · exact hverbosity _ h

end LoggingSettings

namespace Log

/-- The lines of the records that reach a level. -/
def linesOf (now : Int) (level : Level) (rs : List Record) : Bytes :=
  (rs.filter (level ≤ ·.level)).flatMap fun r => Bytes.ofText (r.line now ++ "\n")

theorem linesOf_append (now : Int) (level : Level) (rs others : List Record) :
    linesOf now level (rs ++ others) = linesOf now level rs ++ linesOf now level others := by
  simp [linesOf]

theorem linesOf_singleton {now : Int} {level : Level} {r : Record} (reaches : level ≤ r.level) :
    linesOf now level [r] = Bytes.ofText (r.line now ++ "\n") := by
  simp [linesOf, reaches]

theorem linesOf_eq_nil {now : Int} {level : Level} {rs : List Record}
    (below : ∀ r ∈ rs, ¬level ≤ r.level) : linesOf now level rs = [] := by
  have hnone : rs.filter (level ≤ ·.level) = [] :=
    List.filter_eq_nil_iff.mpr fun r hr => by simpa using below r hr
  rw [linesOf, hnone, List.flatMap_nil]

namespace Journal

theorem takes_of_level_eq_zero {j : Journal} (level : j.level = 0) (r : Record) :
    j.takes r = decide (0 < r.level) := by
  unfold takes keeps
  rw [level]
  split
  · by_cases hr : 0 < r.level
    · simp [hr, Int.le_of_lt hr]
    · simp [hr]
  · rfl

/-- Nothing that is said is lost on a log without a level. -/
theorem kept_of_level_eq_zero {j : Journal} (level : j.level = 0) (rs : List Record) :
    j.kept rs = rs.filter (0 < ·.level) := by
  induction rs generalizing j with
  | nil => rfl
  | cons r rs ih =>
      rw [kept, takes_of_level_eq_zero level, ih ((level_meetLogger j r.logger).trans level),
        List.filter_cons]
      split <;> rfl

theorem takes_of_isOfFamily {j : Journal} {r : Record} (family : IsOfFamily r.logger) :
    j.takes r = j.keeps r.level :=
  if_pos (belongs_of_isOfFamily _ family)

theorem takes_of_not_pos {j : Journal} {r : Record} (none : ¬0 < r.level) : j.takes r = false := by
  simp [takes, keeps, none]

theorem fileSerials_emitAll (w : World) (j : Journal) (rs : List Record) :
    (emitAll w j rs).2.fileSerials = j.fileSerials :=
  congrArg (fun setting => setting.2.2.filterMap (·.sink.serial?)) (setting_emitAll w j rs)

theorem nextSerial_emitAll (w : World) (j : Journal) (rs : List Record) :
    (emitAll w j rs).1.nextSerial = w.nextSerial :=
  congrArg (·.nextSerial) (emitAll_spec w j rs fun _ hmem => hmem).1

/-- Records stay out of a file that the log does not go to. -/
theorem holds_emitAll {j : Journal} {n : Nat} (apart : n ∉ j.fileSerials) (w : World)
    (rs : List Record) (c : Bytes) : (emitAll w j rs).1.root.Holds n c ↔ w.root.Holds n c := by
  have hblank : (emitAll w j rs).1.root.blank .contentAndTime j.fileSerials =
      w.root.blank .contentAndTime j.fileSerials :=
    congrArg (·.root) (emitAll_spec w j rs fun _ hmem => hmem).1
  rw [← Node.holds_blank apart, hblank, Node.holds_blank apart]

theorem emit_fst {j : Journal} {n : Nat} {level : Level}
    (handlers : j.handlers = [⟨.file n, level⟩]) (le : j.level ≤ level) (w : World) (r : Record) :
    (j.emit w r).1 =
      if belongs (j.meetLogger r.logger).loggers r.logger = true ∧ 0 < r.level ∧
          level ≤ r.level then
        w.appendTo n (Bytes.ofText (r.line w.now ++ "\n"))
      else w := by
  have hhandlers : (j.meetLogger r.logger).handlers = [⟨.file n, level⟩] := by simp [handlers]
  unfold emit
  dsimp only
  by_cases hbelongs : belongs (j.meetLogger r.logger).loggers r.logger = true
  · rw [if_neg (by simp [hbelongs]), hhandlers]
    by_cases hlevel : level ≤ r.level
    · by_cases hpos : 0 < r.level
      · have hkeeps : (j.meetLogger r.logger).keeps r.level = true := by
          simp [keeps, hpos, Int.le_trans le hlevel]
        rw [if_pos hkeeps, if_pos ⟨hbelongs, hpos, hlevel⟩]
        simp [hlevel, deliver]
      · have hkeeps : (j.meetLogger r.logger).keeps r.level = false := by simp [keeps, hpos]
        rw [if_neg (by simp [hkeeps]), if_neg (by simp [hpos])]
    · rw [if_neg (c := _ ∧ _) (by simp [hlevel])]
      split
      · simp [hlevel]
      · rfl
  · rw [if_pos (by simp [hbelongs]), if_neg (c := _ ∧ _) fun h => hbelongs h.1]

/-- A log that goes to a file alone, beside one that has no level. Of the tree something is known
that depends on the lines that were due, if the family alone reached the level. If it alone spoke,
the first log keeps what reached the level. -/
structure Attended (n : Nat) (level : Level) (now : Int) (earlier : List Record)
    (known : Bytes → Node → Prop) (x y : World × Journal) : Prop where
  world : y.1 = x.1
  journal : y.2.muted = { x.2.muted with level := 0 }
  setting : x.2.setting = (true, level, [⟨.file n, level⟩])
  moment : x.1.now = now
  tree : (∀ r ∈ y.2.records.toList, level ≤ r.level → IsOfFamily r.logger) →
    known (linesOf now level y.2.records.toList) x.1.root
  kept : (∀ r ∈ y.2.records.toList, IsOfFamily r.logger) →
    x.2.records.toList = earlier ++ y.2.records.toList.filter (level ≤ ·.level)

namespace Attended

variable {n : Nat} {level : Level} {now : Int} {earlier : List Record}
  {known : Bytes → Node → Prop} {w v : World} {j k : Journal}

theorem setting_right (h : Attended n level now earlier known (w, j) (v, k)) :
    k.setting = (true, 0, [⟨.file n, level⟩]) := by
  have hmuted : k.setting = (j.setting.1, 0, j.setting.2.2) := congrArg Journal.setting h.journal
  rw [hmuted, h.setting]

theorem meetLogger_right (h : Attended n level now earlier known (w, j) (v, k)) (name : String) :
    (k.meetLogger name).muted = { (j.meetLogger name).muted with level := 0 } := by
  rw [← meetLogger_muted, ← meetLogger_muted, h.journal]
  unfold meetLogger
  dsimp only
  split <;> rfl

variable (pos : 0 < level)
  (appended : ∀ {lines root} bytes time?, known lines root →
    known (lines ++ bytes) (root.appendTo n bytes time?))

include pos appended

theorem emit (h : Attended n level now earlier known (w, j) (v, k)) (r : Record) :
    Attended n level now earlier known (j.emit w r) (k.emit v r) := by
  obtain rfl : v = w := h.world
  obtain ⟨_, hlevel, hhandlers⟩ : j.initialized = true ∧ j.level = level ∧
      j.handlers = [⟨.file n, level⟩] := by simpa [Journal.setting] using h.setting
  obtain ⟨_, hlevel', hhandlers'⟩ : k.initialized = true ∧ k.level = 0 ∧
      k.handlers = [⟨.file n, level⟩] := by simpa [Journal.setting] using h.setting_right
  have hmet := h.meetLogger_right r.logger
  have hloggers := congrArg (·.loggers) hmet
  obtain ⟨_, hmuted, hkept⟩ := emit_spec v j r fun _ hmem => hmem
  obtain ⟨_, hmuted', hrecords⟩ := emit_spec v k r fun _ hmem => hmem
  rw [takes_of_level_eq_zero hlevel'] at hrecords
  have hfirst := emit_fst hhandlers (Int.le_of_eq hlevel) v r
  have hsecond := emit_fst hhandlers' (by rw [hlevel']; exact Int.le_of_lt pos) v r
  have hbelongs : belongs (k.meetLogger r.logger).loggers r.logger =
      belongs (j.meetLogger r.logger).loggers r.logger := congrArg (belongs · r.logger) hloggers
  rw [hbelongs] at hsecond
  refine ⟨hsecond.trans hfirst.symm, ?_, (setting_emitAll v j [r]).trans h.setting, ?_, ?_, ?_⟩
  · rw [hmuted', hmuted, hmet]
  · rw [hfirst]
    split <;> exact h.moment
  · rw [hrecords]
    intro family
    have hbefore := h.tree fun other hother => family other (List.mem_append_left _ hother)
    have hnow : v.now = now := h.moment
    rw [linesOf_append, hfirst, hnow]
    by_cases hreaches : level ≤ r.level
    · have hr : 0 < r.level := Int.lt_of_lt_of_le pos hreaches
      rw [decide_eq_true hr, if_pos rfl] at family ⊢
      have hfamily : IsOfFamily r.logger := family r (by simp) hreaches
      rw [if_pos ⟨belongs_of_isOfFamily _ hfamily, hr, hreaches⟩, linesOf_singleton hreaches]
      exact appended _ _ hbefore
    · have hbelow : ∀ other ∈ if decide (0 < r.level) = true then [r] else [],
          ¬level ≤ other.level := by
        split
        · simpa using hreaches
        · simp
      rw [if_neg (c := _ ∧ _) fun h => hreaches h.2.2, linesOf_eq_nil hbelow, List.append_nil]
      exact hbefore
  · rw [hkept, hrecords]
    intro family
    have hbefore : j.records.toList = earlier ++ k.records.toList.filter (level ≤ ·.level) :=
      h.kept fun other hother => family other (List.mem_append_left _ hother)
    rw [hbefore, List.filter_append, List.append_assoc]
    by_cases hr : 0 < r.level
    · rw [decide_eq_true hr, if_pos rfl] at family ⊢
      rw [takes_of_isOfFamily (family r (by simp))]
      by_cases hreaches : level ≤ r.level
      · simp [keeps, hlevel, hr, hreaches]
      · simp [keeps, hlevel, hreaches]
    · simp [takes_of_not_pos hr, hr]

theorem emitAll (h : Attended n level now earlier known (w, j) (v, k)) (rs : List Record) :
    Attended n level now earlier known (j.emitAll w rs) (k.emitAll v rs) := by
  induction rs generalizing w v j k with
  | nil => exact h
  | cons r rs ih => exact ih (h.emit pos appended r)

omit pos appended in
theorem setup (h : Attended n level now earlier known (w, j) (v, k)) (s : Option LoggingSettings) :
    Attended n level now earlier known (j.setup w s).2 (k.setup v s).2 := by
  have hleft : j.initialized = true := congrArg (·.1) h.setting
  have hright : k.initialized = true := congrArg (·.1) h.setting_right
  rwa [setup_of_initialized hleft, setup_of_initialized hright]

end Attended

def attentive (j : Journal) : Journal :=
  { j with level := 0, records := #[] }

theorem attended_attentive {n : Nat} {level : Level} {known : Bytes → Node → Prop} {j : Journal}
    (setting : j.setting = (true, level, [⟨.file n, level⟩])) {w : World} (h : known [] w.root) :
    Attended n level w.now j.records.toList known (w, j) (w, j.attentive) where
  world := rfl
  journal := rfl
  setting := setting
  moment := rfl
  tree _ := h
  kept _ := (List.append_nil _).symm

end Journal

end Log

end TreeWatch
