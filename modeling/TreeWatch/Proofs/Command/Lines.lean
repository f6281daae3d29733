import TreeWatch.Proofs.Command.Gates
import TreeWatch.Proofs.Command.Rounds
import TreeWatch.Proofs.Log.Setup
import TreeWatch.Proofs.Text.Json
import TreeWatch.Proofs.Watch.Roots

/-!
# Lines that can be read back

A run that prints objects prints one in every line, whatever names hold. Read back, the lines of a
directory are the events of its poller in order: the text of a directory tells it from the others.
-/

namespace TreeWatch.Command

open Text

/-! ## The directories of a run -/

theorem paths_applyUse {a b : Arguments} {u : Use} (h : applyUse a u = .ok b) :
    b.paths = a.paths := by
  unfold applyUse at h
  cases hflag : u.flag <;> simp only [hflag] at h
  case help | version => simp at h
  case interval =>
    split at h
    · cases h
      rfl
    · split at h
      · cases h
        rfl
      · simp at h
  all_goals
    cases h
    rfl

theorem isNamed_paths {texts : List String} {a : Arguments} (h : Arguments.ofTexts texts = .ok a) :
    ∀ p ∈ a.paths, p.IsNamed := by
  refine Arguments.ofTexts_induction (P := fun a => ∀ p ∈ a.paths, p.IsNamed) (by simp) ?_ ?_ h
  · intro a u b ha hu
    rwa [paths_applyUse hu]
  · intro a texts _
    exact List.forall_mem_map.mpr fun text _ => Path.isNamed_ofText text

theorem directory_openAppend {w v : World} {p : Path} {serial : Nat}
    (h : w.openAppend p = .ok (serial, v)) : v.directory = w.directory := by
  unfold World.openAppend at h
  split at h
  · cases h
    rfl
  · cases h
    rfl
  · split at h
    · simp at h
    · obtain ⟨names, -, heq⟩ := bind_eq_ok_iff.mp h
      cases heq
      rfl
  · simp at h

theorem directory_withLog {w v : World} {settings : LoggingSettings}
    (h : withLog w settings = .ok v) : v.directory = w.directory := by
  have hsetup : (({} : Log.Journal).setup w (some settings)).2.1.directory = w.directory := by
    refine Log.Journal.setup_cases w {} (some settings) (fun _ => rfl) (fun _ _ _ _ => rfl) ?_
    intro level v k _ _ opened
    cases opened with
    | nothing | terminal => rfl
    | file opened => exact directory_openAppend opened
  unfold withLog at h
  dsimp only at h
  cases hlog : (({} : Log.Journal).setup w (some settings)).1 with
  | error e => simp [hlog, Except.map] at h
  | ok _ =>
      rw [hlog] at h
      exact Except.ok.inj h ▸ hsetup

theorem exists_validate_of_mem_grants {p : PollerSettings} {w : World} {paths : List Path}
    {specs : List Spec} (h : grants p w paths = .ok specs) :
    ∀ spec ∈ specs, ∃ root ∈ paths, (p.request root).validate w = .ok spec := by
  induction paths generalizing specs with
  | nil =>
      obtain rfl := Except.ok.inj h
      simp
  | cons root rest ih =>
      obtain ⟨spec, hspec, h⟩ := bind_eq_ok_iff.mp h
      obtain ⟨others, hothers, heq⟩ := bind_eq_ok_iff.mp h
      obtain rfl := Except.ok.inj heq
      refine List.forall_mem_cons.mpr ⟨⟨root, List.mem_cons_self, hspec⟩, fun other hother => ?_⟩
      obtain ⟨path, hpath, hvalid⟩ := ih hothers other hother
      exact ⟨path, List.mem_cons_of_mem root hpath, hvalid⟩

theorem isRooted_of_plan {texts : List String} {w : World} {a : Arguments} {specs : List Spec}
    (directory : ∀ name ∈ w.directory, IsName name) (h : plan texts w = .ok (a, specs)) :
    ∀ spec ∈ specs, spec.IsRooted := by
  unfold plan at h
  obtain ⟨b, harguments, h⟩ := bind_eq_ok_iff.mp h
  obtain ⟨settings, -, h⟩ := bind_eq_ok_iff.mp h
  obtain ⟨v, hlog, h⟩ := bind_eq_ok_iff.mp h
  obtain ⟨granted, hgrants, heq⟩ := bind_eq_ok_iff.mp h
  obtain ⟨rfl, rfl⟩ := Prod.mk.inj (Except.ok.inj heq)
  rw [mapError_eq_ok_iff] at harguments hlog hgrants
  intro spec hspec
  obtain ⟨root, hroot, hvalid⟩ := exists_validate_of_mem_grants hgrants spec hspec
  exact Request.isRooted_of_validate (by rwa [directory_withLog hlog])
    (isNamed_paths harguments root hroot) hvalid

/-! ## Lines of objects -/

def fieldsOf (entry : Event × String) : List (String × String) :=
  [("kind", entry.1.kind.word), ("path", entry.1.path), ("root", entry.2)]

/-- An output is made of lines of printable ASCII, and each of them is read as an object for one of
the entries, in order. -/
def ReadsAs (output : String) (entries : List (Event × String)) : Prop :=
  ∃ lines : List String, splitAt '\n' output.toList = lines.map String.toList ++ [[]] ∧
    (∀ line ∈ lines, ∀ c ∈ line.toList, Json.IsVisible c) ∧
    lines.map Json.objectOf? = entries.map fun entry => some (fieldsOf entry)

theorem splitAt_join {lines : List String} (h : ∀ line ∈ lines, '\n' ∉ line.toList) :
    splitAt '\n' (String.join (lines.map (· ++ "\n"))).toList =
      lines.map String.toList ++ [[]] := by
  induction lines with
  | nil => rfl
  | cons line rest ih =>
      obtain ⟨hline, hrest⟩ := List.forall_mem_cons.mp h
      have hend : "\n".toList = ['\n'] := rfl
      rw [List.map_cons, String.join_cons, String.toList_append, String.toList_append, hend,
        List.append_assoc, List.singleton_append, splitAt_append_separator hline, ih hrest]
      rfl

theorem readsAs_join (entries : List (Event × String)) :
    ReadsAs (String.join (entries.map fun entry => Json.object (fieldsOf entry) ++ "\n"))
      entries := by
  have hvisible : ∀ line ∈ entries.map (fun entry => Json.object (fieldsOf entry)),
      ∀ c ∈ line.toList, Json.IsVisible c :=
    List.forall_mem_map.mpr fun entry _ => Json.isVisible_object _
  have hbreak : ¬Json.IsVisible '\n' := by decide
  refine ⟨entries.map fun entry => Json.object (fieldsOf entry), ?_, hvisible, ?_⟩
  · rw [← splitAt_join, List.map_map]
    · rfl
    · intro line hline hend
      exact hbreak (hvisible line hline _ hend)
  · rw [List.map_map]
    refine List.map_congr_left fun entry _ => ?_
    rw [Function.comp_apply, Json.objectOf?_object]

variable {specs : List Spec}

def entryAt (specs : List Spec) (sighting : Nat × Event) : Event × String :=
  (sighting.2, (specs[sighting.1]?).elim "" fun spec => spec.root.text)

theorem lineAt_json {style : LineStyle} (json : style.json = true) {sighting : Nat × Event}
    (h : sighting.1 < specs.length) :
    lineAt style specs sighting = Json.object (fieldsOf (entryAt specs sighting)) ++ "\n" := by
  simp only [lineAt, entryAt, List.getElem?_eq_getElem h, Option.elim_some, LineStyle.line, json]
  rfl

/-- Where directories differ, the entries with the text of one are those of its place. -/
theorem filter_entries (rooted : ∀ spec ∈ specs, spec.IsRooted)
    (distinct : (specs.map (·.root)).Nodup) {place : Nat} {spec : Spec}
    (hspec : specs[place]? = some spec) {sightings : List (Nat × Event)}
    (within : ∀ sighting ∈ sightings, sighting.1 < specs.length) :
    ((sightings.map (entryAt specs)).filter (·.2 = spec.root.text)).map (·.1) =
      (sightings.filter (·.1 = place)).map (·.2) := by
  obtain ⟨hplace, rfl⟩ := List.getElem?_eq_some_iff.mp hspec
  have hsame : ∀ sighting ∈ sightings,
      (entryAt specs sighting).2 = specs[place].root.text ↔ sighting.1 = place := by
    intro sighting hmem
    have hlt := within sighting hmem
    simp only [entryAt, List.getElem?_eq_getElem hlt, Option.elim_some]
    constructor
    · intro htext
      have hroot := (rooted _ (List.getElem_mem hlt)).root_eq (rooted _ (List.getElem_mem hplace))
        htext
      have hmap : (specs.map (·.root))[sighting.1]? = (specs.map (·.root))[place]? := by
        simp [List.getElem?_eq_getElem hlt, List.getElem?_eq_getElem hplace, hroot]
      exact (List.getElem?_inj (by simpa using hlt) distinct).mp hmap
    · rintro rfl
      rfl
  rw [List.filter_map, List.map_map]
  have hfilter : sightings.filter ((fun entry => decide (entry.2 = specs[place].root.text)) ∘
      entryAt specs) = sightings.filter (·.1 = place) :=
    List.filter_congr fun sighting hmem => decide_eq_decide.mpr (hsame sighting hmem)
  rw [hfilter]
  rfl

variable {τ : Type} [Timeline τ]

theorem output_run {texts : List String} {w : World} {a : Arguments} {style : LineStyle}
    {s : Session τ} (h : start texts (Session.ofWorld w : Session τ) = (.ok (a, style), s))
    (steps : List (List Step)) (ending : Ending) (input : Input) :
    (run texts steps ending input w : Report τ).output =
      (rounds style s.pollers.length steps s).1 := by
  unfold run
  rw [h]

/-- Every line of a run that prints objects is read as one, and for each directory the entries with
its text are the events that its poller finds in the whole run, in order; there are no others. -/
theorem readsAs_run {texts : List String} {w : World} {a : Arguments}
    (planned : plan texts w = .ok (a, specs)) (json : a.json = true)
    (directory : ∀ name ∈ w.directory, IsName name) (distinct : (specs.map (·.root)).Nodup)
    (steps : List (List Step)) (ending : Ending) (input : Input) :
    ∃ (s : Session τ) (entries : List (Event × String)),
      start texts (Session.ofWorld w) = (.ok (a, ⟨true, 1 < specs.length⟩), s) ∧
      (rounds ⟨true, 1 < specs.length⟩ specs.length steps s).2.2 =
        s.makeAll (roundsMoves specs.length steps s) ∧
      ReadsAs (run texts steps ending input w : Report τ).output entries ∧
      (∀ entry ∈ entries, ∃ spec ∈ specs, entry.2 = spec.root.text) ∧
      ∀ place spec, specs[place]? = some spec →
        (entries.filter (·.2 = spec.root.text)).map (·.1) =
          Session.polled place s (roundsMoves specs.length steps s) := by
  rcases start_spec (τ := τ) texts w with
    ⟨r, s, hrefused, -⟩ | ⟨b, others, s, hplan, hstart, hstarted⟩
  · simp [hrefused] at planned
  · obtain ⟨rfl, rfl⟩ := Prod.mk.inj (Except.ok.inj (hplan.symm.trans planned))
    rw [json] at hstart
    have hcount : s.pollers.length = others.length := by
      rw [← hstarted.specs, List.length_map]
    obtain ⟨htext, hend⟩ := rounds_eq hstarted.isOn ⟨true, 1 < others.length⟩ steps
    have hwithin : ∀ sighting ∈ seen others.length s (roundsMoves others.length steps s),
        sighting.1 < others.length := fun _ => place_lt_of_mem_seen
    refine ⟨s, (seen others.length s (roundsMoves others.length steps s)).map (entryAt others),
      hstart, hend, ?_, ?_, ?_⟩
    · rw [output_run hstart, hcount, htext,
        List.map_congr_left fun sighting hmem => lineAt_json rfl (hwithin sighting hmem)]
      have hlines := readsAs_join
        ((seen others.length s (roundsMoves others.length steps s)).map (entryAt others))
      rwa [List.map_map] at hlines
    · refine List.forall_mem_map.mpr fun sighting hmem => ?_
      have hlt := hwithin sighting hmem
      refine ⟨others[sighting.1], List.getElem_mem hlt, ?_⟩
      simp [entryAt, List.getElem?_eq_getElem hlt]
    · intro place spec hspec
      have hlt := (List.getElem?_eq_some_iff.mp hspec).choose
      rw [filter_entries (isRooted_of_plan directory planned) distinct hspec hwithin,
        filter_seen hlt]

def pairedWords : List String :=
  ["w", "/home/x/../v", "--json"]

def pairedWorld : World :=
  { root := .directory { name := "" } [
      .directory { name := "home" } [
        .directory { name := "w" } [],
        .directory { name := "v" } [],
        .directory { name := "x" } []]]
    directory := ["home"]
    environment := [("XDG_CONFIG_HOME", "/none")] }

/-- Two rounds: each directory gets a file whose name has to be escaped, then one of them loses it
again. -/
def pairedSteps : List (List Step) :=
  [[.act (.edit (.write ["home", "v", "a\nb"] [] 1)),
      .act (.edit (.write ["home", "w", "\"é"] [] 1))],
    [.act (.edit (.remove ["home", "v", "a\nb"]))]]

theorem readsAs_run_pairedWorld :
    (run pairedWords pairedSteps .inputEnds {} pairedWorld : Report Float).output =
      "\x7b\"kind\": \"created\", \"path\": \"\\\"\\u00e9\", \"root\": \"/home/w\"\x7d\n" ++
      "\x7b\"kind\": \"created\", \"path\": \"a\\nb\", \"root\": \"/home/v\"\x7d\n" ++
      "\x7b\"kind\": \"deleted\", \"path\": \"a\\nb\", \"root\": \"/home/v\"\x7d\n" ∧
    ∃ a specs, plan pairedWords pairedWorld = .ok (a, specs) ∧ a.json = true ∧
      specs.map (·.root) = [.absolute ["home", "w"], .absolute ["home", "v"]] ∧
      ∃ (s : Session Float) (entries : List (Event × String)),
        start pairedWords (Session.ofWorld pairedWorld) =
          (.ok (a, ⟨true, 1 < specs.length⟩), s) ∧
        ReadsAs (run pairedWords pairedSteps .inputEnds {} pairedWorld : Report Float).output
          entries ∧
        ∀ place spec, specs[place]? = some spec →
          (entries.filter (·.2 = spec.root.text)).map (·.1) =
            Session.polled place s (roundsMoves specs.length pairedSteps s) := by
  obtain ⟨⟨a, specs⟩, hplan, hquestion⟩ := exists_eq_ok_of_any
    (plan pairedWords pairedWorld)
    (fun p => p.1.json &&
      decide (p.2.map (·.root) = [.absolute ["home", "w"], .absolute ["home", "v"]]))
    (by decide +kernel)
  obtain ⟨hjson, hroots⟩ : a.json = true ∧
      specs.map (·.root) = [.absolute ["home", "w"], .absolute ["home", "v"]] := by
    simpa using hquestion
  obtain ⟨s, entries, hstart, -, hreads, -, hevents⟩ := readsAs_run (τ := Float) hplan hjson
    (by decide) (by rw [hroots]; decide) pairedSteps .inputEnds {}
  exact ⟨by decide +kernel, a, specs, hplan, hjson, hroots, s, entries, hstart, hreads, hevents⟩

end TreeWatch.Command
