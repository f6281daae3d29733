import TreeWatch.Proofs.Command.Lines

/-!
# Lines of words

A run that does not print objects prints the word of a kind, a space and a path for every change. No
word holds a space, so that a line says where its path begins; where the path ends is told by the
end of the line. So the lines are those of the events just when no path that is shown has an end of
a line in it.
-/

namespace TreeWatch

/-! ## Pieces -/

theorem length_splitAt (separator : Char) (cs : List Char) :
    (splitAt separator cs).length = cs.count separator + 1 := by
  induction cs with
  | nil => rfl
  | cons c cs ih =>
      rw [splitAt]
      split
      · next hc => rw [List.length_cons, ih, hc, List.count_cons_self]
      · next hc =>
          rw [List.count_cons_of_ne hc, ← ih]
          cases hpieces : splitAt separator cs with
          | nil => simp [hpieces] at ih
          | cons piece pieces => rfl

namespace Command

open Text

/-! ## One line -/

/-- The path that a line of a run shows for an event: its own in the only directory, from the root
where there are several. -/
def shownAt (specs : List Spec) (sighting : Nat × Event) : String :=
  if 1 < specs.length then
    (specs[sighting.1]?).elim "" fun spec => (({ spec } : Poller).resolve sighting.2).text
  else sighting.2.path

def saidAt (specs : List Spec) (sighting : Nat × Event) : ChangeKind × String :=
  (sighting.2.kind, shownAt specs sighting)

def plainLine (said : ChangeKind × String) : String :=
  said.1.word ++ " " ++ said.2

/-- What a line says: its first space stands between a word and a path. -/
def plainOf? (line : String) : Option (ChangeKind × String) :=
  (ChangeKind.ofWord? (String.ofList (line.toList.takeWhile (· ≠ ' ')))).map fun kind =>
    (kind, String.ofList (line.toList.dropWhile (· ≠ ' ')).tail)

theorem plainOf?_plainLine (said : ChangeKind × String) :
    plainOf? (plainLine said) = some said := by
  have hspace : ' ' ∉ said.1.word.toList := by cases said.1 <;> decide
  have hword : ∀ c ∈ said.1.word.toList, decide (c ≠ ' ') = true :=
    fun c hc => decide_eq_true fun heq => hspace (heq ▸ hc)
  have hline : (plainLine said).toList = said.1.word.toList ++ ' ' :: said.2.toList := by
    simp [plainLine]
  have htake : (plainLine said).toList.takeWhile (· ≠ ' ') = said.1.word.toList := by
    rw [hline, List.takeWhile_append_of_pos hword]
    simp
  have hdrop : (plainLine said).toList.dropWhile (· ≠ ' ') = ' ' :: said.2.toList := by
    rw [hline, List.dropWhile_append_of_pos hword]
    simp
  rw [plainOf?, htake, hdrop, String.ofList_toList, ChangeKind.ofWord?_word, List.tail_cons,
    String.ofList_toList]
  rfl

theorem lineAt_plain {specs : List Spec} {sighting : Nat × Event}
    (h : sighting.1 < specs.length) :
    lineAt ⟨false, 1 < specs.length⟩ specs sighting =
      plainLine (saidAt specs sighting) ++ "\n" := by
  simp only [lineAt, saidAt, shownAt, plainLine, LineStyle.line, List.getElem?_eq_getElem h,
    Option.elim_some]
  by_cases hseveral : 1 < specs.length
  · simp [hseveral]
  · simp [hseveral, Event.text]

/-! ## All lines -/

/-- An output is made of one line for each of some things that are said, in order. -/
def ReadsPlainly (output : String) (said : List (ChangeKind × String)) : Prop :=
  ∃ lines : List String, splitAt '\n' output.toList = lines.map String.toList ++ [[]] ∧
    lines.map plainOf? = said.map some

def plainOutput (said : List (ChangeKind × String)) : String :=
  String.join (said.map fun one => plainLine one ++ "\n")

theorem end_mem_plainLine {said : ChangeKind × String} :
    '\n' ∈ (plainLine said).toList ↔ '\n' ∈ said.2.toList := by
  have hword : '\n' ∉ said.1.word.toList := by cases said.1 <;> decide
  simp [plainLine, hword]

theorem readsPlainly_plainOutput {said : List (ChangeKind × String)}
    (h : ∀ one ∈ said, '\n' ∉ one.2.toList) : ReadsPlainly (plainOutput said) said := by
  refine ⟨said.map plainLine, ?_, ?_⟩
  · rw [← splitAt_join, List.map_map]
    · rfl
    · exact List.forall_mem_map.mpr fun one hone hend => h one hone (end_mem_plainLine.mp hend)
  · rw [List.map_map]
    exact List.map_congr_left fun one _ => plainOf?_plainLine one

/-- Each end of a line in a path makes one piece more. -/
theorem length_splitAt_plainOutput (said : List (ChangeKind × String)) :
    (splitAt '\n' (plainOutput said).toList).length =
      said.length + 1 + (said.map fun one => one.2.toList.count '\n').sum := by
  rw [length_splitAt]
  induction said with
  | nil => rfl
  | cons one rest ih =>
      have hword : one.1.word.toList.count '\n' = 0 := by cases one.1 <;> decide
      have hline : (plainLine one ++ "\n").toList.count '\n' = one.2.toList.count '\n' + 1 := by
        simp [plainLine, hword]
      rw [plainOutput, List.map_cons, String.join_cons, String.toList_append, List.count_append,
        hline, List.map_cons, List.sum_cons, List.length_cons]
      unfold plainOutput at ih
      omega

theorem length_splitAt_plainOutput_eq_iff (said : List (ChangeKind × String)) :
    (splitAt '\n' (plainOutput said).toList).length = said.length + 1 ↔
      ∀ one ∈ said, '\n' ∉ one.2.toList := by
  rw [length_splitAt_plainOutput, Nat.add_eq_left, List.sum_eq_zero_iff, List.forall_mem_map]
  simp only [List.count_eq_zero]

/-! ## Runs -/

variable {τ : Type} [Timeline τ]

def sightings (specs : List Spec) (steps : List (List Step)) (s : Session τ) :
    List (Nat × Event) :=
  seen specs.length s (roundsMoves specs.length steps s)

/-- An output is that of a run without objects. -/
structure IsPlain (specs : List Spec) (steps : List (List Step)) (s : Session τ)
    (output : String) : Prop where
  /-- The lines are about all that the pollers ever find, in time order. -/
  whole : ∀ place < specs.length,
    ((sightings specs steps s).filter (·.1 = place)).map (·.2) =
      Session.polled place s (roundsMoves specs.length steps s)
  /-- A single directory is not mentioned. -/
  single : specs.length = 1 → (sightings specs steps s).map (saidAt specs) =
    (Session.polled 0 s (roundsMoves specs.length steps s)).map fun e => (e.kind, e.path)
  reads : (∀ sighting ∈ sightings specs steps s, '\n' ∉ (shownAt specs sighting).toList) →
    ReadsPlainly output ((sightings specs steps s).map (saidAt specs))
  /-- There is one line for each event only then. -/
  each : (splitAt '\n' output.toList).length = (sightings specs steps s).length + 1 ↔
    ∀ sighting ∈ sightings specs steps s, '\n' ∉ (shownAt specs sighting).toList

theorem map_saidAt_of_single {specs : List Spec} (single : specs.length = 1)
    (steps : List (List Step)) (s : Session τ) :
    (sightings specs steps s).map (saidAt specs) =
      (Session.polled 0 s (roundsMoves specs.length steps s)).map fun e => (e.kind, e.path) := by
  have hall : (sightings specs steps s).filter (·.1 = 0) = sightings specs steps s := by
    refine List.filter_eq_self.mpr fun sighting hmem => decide_eq_true ?_
    have hlt : sighting.1 < specs.length := place_lt_of_mem_seen hmem
    omega
  have hsaid : saidAt specs = fun sighting => (sighting.2.kind, sighting.2.path) := by
    funext sighting
    simp [saidAt, shownAt, single]
  rw [← filter_seen (by omega : 0 < specs.length), List.map_map, hsaid]
  exact (congrArg (List.map _) hall).symm

/-- A run without objects prints what can be read back, line by line and each of them at its first
space, just when no path that it shows has an end of a line in it. -/
theorem isPlain_run {texts : List String} {w : World} {a : Arguments} {specs : List Spec}
    (planned : plan texts w = .ok (a, specs)) (plain : a.json = false)
    (steps : List (List Step)) (ending : Ending) (input : Input) :
    ∃ s : Session τ, start texts (Session.ofWorld w) = (.ok (a, ⟨false, 1 < specs.length⟩), s) ∧
      IsPlain specs steps s (run texts steps ending input w : Report τ).output := by
  obtain ⟨s, hstart, hstarted⟩ := exists_start_of_plan (τ := τ) planned
  rw [plain] at hstart
  have hcount : s.pollers.length = specs.length := by
    rw [← hstarted.specs, List.length_map]
  obtain ⟨htext, -⟩ := rounds_eq hstarted.isOn ⟨false, 1 < specs.length⟩ steps
  have houtput : (run texts steps ending input w : Report τ).output =
      plainOutput ((sightings specs steps s).map (saidAt specs)) := by
    rw [output_run hstart, hcount, htext, plainOutput, List.map_map]
    refine congrArg String.join (List.map_congr_left fun sighting hmem => ?_)
    exact lineAt_plain (place_lt_of_mem_seen hmem)
  refine ⟨s, hstart, fun place hplace => filter_seen hplace s _,
    fun single => map_saidAt_of_single single steps s, ?_, ?_⟩
  · intro h
    rw [houtput]
    exact readsPlainly_plainOutput (List.forall_mem_map.mpr h)
  · rw [houtput]
    have heach := length_splitAt_plainOutput_eq_iff ((sightings specs steps s).map (saidAt specs))
    rwa [List.length_map, List.forall_mem_map] at heach

def spacedSteps : List (List Step) :=
  [[.act (.edit (.write ["home", "v", " deleted b"] [] 1)),
    .act (.edit (.write ["home", "w", "a b"] [] 1))]]

def planned (texts : List String) (w : World) : Arguments × List Spec :=
  (plan texts w).toOption.getD ({}, [])

theorem plan_eq_planned (texts : List String) (w : World)
    (granted : (plan texts w).toOption.isSome = true) :
    plan texts w = .ok ((planned texts w).1, (planned texts w).2) := by
  unfold planned
  cases h : plan texts w with
  | error r => simp [h, Except.toOption] at granted
  | ok p => rfl

def begun (texts : List String) (w : World) : Session Float :=
  (start texts (Session.ofWorld w)).2

theorem isPlain_run_pairedWorld :
    (run ["w", "v"] spacedSteps .inputEnds {} pairedWorld : Report Float).output =
      "created /home/w/a b\ncreated /home/v/ deleted b\n" ∧
    IsPlain (planned ["w", "v"] pairedWorld).2 spacedSteps (begun ["w", "v"] pairedWorld)
      (run ["w", "v"] spacedSteps .inputEnds {} pairedWorld : Report Float).output ∧
    ReadsPlainly (run ["w", "v"] spacedSteps .inputEnds {} pairedWorld : Report Float).output
      [(.created, "/home/w/a b"), (.created, "/home/v/ deleted b")] := by
  obtain ⟨s, hstart, hplain⟩ := isPlain_run (τ := Float)
    (plan_eq_planned ["w", "v"] pairedWorld (by decide +kernel)) (by decide +kernel) spacedSteps
    .inputEnds {}
  obtain rfl : begun ["w", "v"] pairedWorld = s := congrArg (·.2) hstart
  have hsaid : (sightings (planned ["w", "v"] pairedWorld).2 spacedSteps
      (begun ["w", "v"] pairedWorld)).map (saidAt (planned ["w", "v"] pairedWorld).2) =
        [(.created, "/home/w/a b"), (.created, "/home/v/ deleted b")] := by decide +kernel
  refine ⟨by decide +kernel, hplain, hsaid ▸ hplain.reads (by decide +kernel)⟩

def brokenSteps : List (List Step) :=
  [[.act (.edit (.write ["home", "w", "a\nb"] [] 1))]]

/-- A name with an end of a line in it makes two lines of one event. -/
theorem not_forall_readsPlainly :
    ¬∀ (texts : List String) (w : World) (a : Arguments) (specs : List Spec),
      plan texts w = .ok (a, specs) → a.json = false →
      ∀ (steps : List (List Step)) (ending : Ending) (input : Input) (s : Session Float),
        start texts (Session.ofWorld w) = (.ok (a, ⟨false, 1 < specs.length⟩), s) →
        ReadsPlainly (run texts steps ending input w : Report Float).output
          ((sightings specs steps s).map (saidAt specs)) := by
  intro h
  have hplan := plan_eq_planned ["w"] pairedWorld (by decide +kernel)
  have hplain : (planned ["w"] pairedWorld).1.json = false := by decide +kernel
  obtain ⟨s, hstart, -⟩ := exists_start_of_plan (τ := Float) hplan
  rw [hplain] at hstart
  obtain ⟨lines, hsplit, hlines⟩ := h ["w"] pairedWorld _ _ hplan hplain brokenSteps .inputEnds {}
    s hstart
  obtain rfl : begun ["w"] pairedWorld = s := congrArg (·.2) hstart
  have hone : (sightings (planned ["w"] pairedWorld).2 brokenSteps
      (begun ["w"] pairedWorld)).length = 1 := by decide +kernel
  have htwo : (splitAt '\n' (run ["w"] brokenSteps .inputEnds {} pairedWorld :
      Report Float).output.toList).length = 3 := by decide +kernel
  have hcount := congrArg List.length hlines
  have hpieces := congrArg List.length hsplit
  simp only [List.length_map, List.length_append, List.length_singleton] at hcount hpieces
  omega

end Command

end TreeWatch
