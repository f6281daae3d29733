import TreeWatch.Proofs.Settings.Files
import TreeWatch.Proofs.Settings.Layers
import TreeWatch.Proofs.Yaml.Keys

/-!
# Settings of pollers from their sources

What settings come to when several files and the environment are laid over each other. Each setting
is read from the one value that the highest source with a value for it gives, and from nothing else.
-/

namespace TreeWatch.Settings

open Log

inductive PollerKey where
  | interval
  | recursive
  | trackDirectories
  | trackSymlinks

namespace PollerKey

def name : PollerKey → String
  | interval => "interval"
  | recursive => "recursive"
  | trackDirectories => "track_directories"
  | trackSymlinks => "track_symlinks"

def variableName? : PollerKey → Option String
  | interval => some "DIRPOLL_INTERVAL"
  | recursive => some "DIRPOLL_RECURSIVE"
  | trackDirectories | trackSymlinks => none

end PollerKey

/-- The value other than nothing that entries hold for a setting of pollers. -/
def rawIn (entries : Entries) (key : PollerKey) : Option Value :=
  (Layers.heldIn entries (.text "poller")).bind fun v =>
    Layers.heldIn (Layers.entriesOf v) (.text key.name)

def rawOfVariable (w : World) (key : PollerKey) : Option Value :=
  (key.variableName?.bind w.setting?).map .text

/-- What stands under the name of the section of pollers is nothing or a mapping. -/
def HasSection (entries : Entries) : Prop :=
  ∀ v, entries.getText? "poller" = some v → v = .null ∨ v.isMapping = true

instance (entries : Entries) : Decidable (HasSection entries) :=
  decidable_of_iff ((entries.getText? "poller").all fun v => v.isNull || v.isMapping) (by
    simp only [HasSection, Option.all_eq_true, Bool.or_eq_true, Value.isNull_iff])

/-- The interval that a value stands for. One that is no positive number stands for the default. -/
def intervalOf (v : Value) : Float :=
  match number? v with
  | .ok (some x) => if x ≤ 0 then standardInterval else x
  | _ => standardInterval

def switchOf (standard : Bool) (v : Value) : Bool :=
  (switch? v).getD standard

def ofRaw (raw : PollerKey → Option Value) : PollerSettings where
  interval := .seconds ((raw .interval).elim standardInterval intervalOf)
  recursive := (raw .recursive).elim true (switchOf true)
  trackDirectories := (raw .trackDirectories).elim false (switchOf false)
  trackSymlinks := (raw .trackSymlinks).elim false (switchOf false)

/-! ## Entries of files -/

theorem throughout_hasDistinctKeys_nil : Entries.Throughout Entries.HasDistinctKeys [] :=
  Entries.throughout_iff.mpr ⟨List.Pairwise.nil, by simp⟩

theorem throughout_hasDistinctKeys_entriesOfContent {p : Path} {content : Bytes}
    {entries : Entries} (h : (entriesOfContent p content).outcome = .ok entries) :
    Entries.Throughout Entries.HasDistinctKeys entries := by
  unfold entriesOfContent at h
  split at h
  · simp at h
  · cases h
    exact throughout_hasDistinctKeys_nil
  · next es hes =>
      cases h
      exact Yaml.throughout_hasDistinctKeys_of_load hes
  · cases h
    exact throughout_hasDistinctKeys_nil
  · cases h
    exact throughout_hasDistinctKeys_nil

theorem throughout_hasDistinctKeys_entriesIn (w : World) (p : Path) :
    Entries.Throughout Entries.HasDistinctKeys (entriesIn w p) := by
  unfold entriesIn
  split
  · next entries h =>
      unfold entriesOfFile at h
      split at h
      · simp at h
      · cases h
        exact throughout_hasDistinctKeys_nil
      · split at h
        · exact throughout_hasDistinctKeys_entriesOfContent h
        · dsimp only at h
          split at h <;>
          · cases h
            exact throughout_hasDistinctKeys_nil
  · exact throughout_hasDistinctKeys_nil

theorem entriesOfFiles_eq_ok {w : World} {paths : List Path} {layers : List Entries}
    (h : (entriesOfFiles w paths).outcome = .ok layers) :
    layers = (paths.map (entriesIn w)).filter fun entries => !entries.isEmpty := by
  rw [outcome_entriesOfFiles] at h
  cases hobstacle : paths.findSome? (obstacle? w) with
  | some e => simp [hobstacle] at h
  | none =>
      rw [hobstacle] at h
      exact (Except.ok.inj h).symm

theorem load_eq_ok {w : World} {project named : Option Path} {settings : Settings}
    (h : (load w project named).outcome = .ok settings) :
    ∃ paths layers entries, allFiles w project named = .ok paths ∧
      (entriesOfFiles w paths).outcome = .ok layers ∧
      Layers.merge? ((layers ++ [ofEnvironment w]).map .map) = .ok entries ∧
      (ofEntries entries).outcome = .ok settings := by
  unfold load at h
  split at h
  · simp at h
  · next paths hpaths =>
      rw [Reported.outcome_bind] at h
      cases hlayers : (entriesOfFiles w paths).outcome with
      | error e => simp [hlayers] at h
      | ok layers =>
          rw [hlayers] at h
          dsimp only at h
          cases hmerge : Layers.merge? ((layers ++ [ofEnvironment w]).map .map) with
          | error e =>
              rw [hmerge] at h
              simp at h
          | ok entries =>
              rw [hmerge] at h
              exact ⟨paths, layers, entries, hpaths, hlayers, hmerge, h⟩

/-! ## Entries of the environment -/

theorem get?_append (es fs : Entries) (key : Value) :
    Entries.get? (es ++ fs) key = (es.get? key).or (fs.get? key) := by
  unfold Entries.get?
  rw [List.find?_append, Option.map_or]

def entriesOfVariables (w : World) (settings : List (String × String)) : Entries :=
  settings.filterMap fun (key, source) =>
    (w.setting? source).map fun text => (Value.text key, Value.text text)

theorem mem_sectionOfVariables {w : World} {name : String} {settings : List (String × String)}
    {e : Value × Value} (h : e ∈ sectionOfVariables w name settings) :
    e = (.text name, .map (entriesOfVariables w settings)) := by
  unfold sectionOfVariables at h
  dsimp only at h
  split at h
  · simp at h
  · exact List.mem_singleton.mp h

theorem hasDistinctKeys_sectionOfVariables (w : World) (name : String)
    (settings : List (String × String)) :
    (sectionOfVariables w name settings).HasDistinctKeys := by
  unfold sectionOfVariables
  dsimp only
  split
  · exact List.Pairwise.nil
  · exact List.pairwise_singleton _ _

theorem throughout_hasDistinctKeys_entriesOfVariables (w : World)
    {settings : List (String × String)} (h : settings.Pairwise fun a b => a.1 ≠ b.1) :
    Entries.Throughout Entries.HasDistinctKeys (entriesOfVariables w settings) := by
  refine Entries.throughout_iff.mpr ⟨?_, ?_⟩
  · refine List.Pairwise.filterMap _ ?_ h
    rintro ⟨k, source⟩ ⟨l, other⟩ hne e he d hd
    obtain ⟨text, -, rfl⟩ := Option.map_eq_some_iff.mp he
    obtain ⟨more, -, rfl⟩ := Option.map_eq_some_iff.mp hd
    simpa using hne
  · intro e he
    obtain ⟨⟨k, source⟩, -, hsource⟩ := List.mem_filterMap.mp he
    obtain ⟨text, -, rfl⟩ := Option.map_eq_some_iff.mp hsource
    exact Entries.within_of_not_isMapping rfl

theorem throughout_hasDistinctKeys_ofEnvironment (w : World) :
    Entries.Throughout Entries.HasDistinctKeys (ofEnvironment w) := by
  refine Entries.throughout_iff.mpr ⟨?_, ?_⟩
  · refine List.pairwise_append.mpr ⟨hasDistinctKeys_sectionOfVariables _ _ _,
      hasDistinctKeys_sectionOfVariables _ _ _, ?_⟩
    intro d hd e he
    rw [mem_sectionOfVariables hd, mem_sectionOfVariables he]
    exact Value.sameKey_text "logging" "poller"
  · intro e he
    rcases List.mem_append.mp he with hmem | hmem
    all_goals
      rw [mem_sectionOfVariables hmem]
      exact Entries.within_map (throughout_hasDistinctKeys_entriesOfVariables w (by simp))

theorem hasSection_ofEnvironment (w : World) : HasSection (ofEnvironment w) := by
  intro v hv
  obtain ⟨e, he, -, rfl⟩ := Entries.exists_mem_of_get? hv
  rcases List.mem_append.mp he with hmem | hmem
  all_goals
    rw [mem_sectionOfVariables hmem]
    exact .inr rfl

theorem getText?_ofEnvironment (w : World) :
    (ofEnvironment w).getText? "poller" =
      (sectionOfVariables w "poller"
        [("interval", "DIRPOLL_INTERVAL"), ("recursive", "DIRPOLL_RECURSIVE")]).getText?
          "poller" := by
  have hother : Entries.get? (sectionOfVariables w "logging" [("file", "DIRPOLL_LOG")])
      (.text "poller") = none := by
    apply Entries.get?_eq_none
    intro e he
    rw [mem_sectionOfVariables he]
    exact Value.sameKey_text "logging" "poller"
  rw [Entries.getText?, ofEnvironment, get?_append, hother, Option.none_or]
  rfl

theorem heldIn_cons_text (key other text : String) (rest : Entries) :
    Layers.heldIn ((.text key, .text text) :: rest) (.text other) =
      if key = other then some (.text text) else Layers.heldIn rest (.text other) := by
  split
  · next heq => exact Layers.heldIn_cons_of_sameKey rest (by simpa using heq) (by simp)
  · next hne => exact Layers.heldIn_cons_of_not_sameKey rest (by simpa using hne)

theorem rawIn_ofEnvironment (w : World) (key : PollerKey) :
    rawIn (ofEnvironment w) key = rawOfVariable w key := by
  have hraw : rawIn (ofEnvironment w) key =
      Layers.heldIn (entriesOfVariables w
        [("interval", "DIRPOLL_INTERVAL"), ("recursive", "DIRPOLL_RECURSIVE")])
        (.text key.name) := by
    have hpoller := getText?_ofEnvironment w
    rw [Entries.getText?] at hpoller
    rw [rawIn, Layers.heldIn, hpoller]
    unfold sectionOfVariables
    dsimp only
    split
    · next hnone =>
        rw [entriesOfVariables, List.isEmpty_iff.mp hnone]
        rfl
    · rfl
  rw [hraw]
  cases hi : w.setting? "DIRPOLL_INTERVAL" <;> cases hr : w.setting? "DIRPOLL_RECURSIVE" <;>
    cases key <;>
    simp [entriesOfVariables, heldIn_cons_text, rawOfVariable, PollerKey.variableName?,
      PollerKey.name, hi, hr]

/-! ## Sections laid over each other -/

@[simp] theorem rawIn_nil (key : PollerKey) : rawIn [] key = none := rfl

theorem held_held (layers : List Entries) (key : PollerKey) :
    Layers.held (Layers.held (layers.map .map) (.text "poller")) (.text key.name) =
      layers.filterMap (rawIn · key) := by
  unfold Layers.held
  rw [List.filterMap_filterMap, List.filterMap_map]
  rfl

theorem isMapping_overlayAll {vs : List Value} (h : ∀ v ∈ vs, v.isMapping = true) {v : Value}
    (hv : Layers.overlayAll none vs = some v) : v.isMapping = true := by
  induction vs using List.reverseRecOn with
  | nil => simp [Layers.overlayAll] at hv
  | append_singleton vs w _ =>
      obtain ⟨entries, rfl⟩ := Value.isMapping_iff.mp (h w (by simp))
      rw [Layers.overlayAll_append_singleton, Layers.overlay_map] at hv
      exact Option.some.inj hv ▸ rfl

/-- Mappings laid one over the other are merged. -/
theorem entriesOf_overlayAll {vs : List Value} (h : ∀ v ∈ vs, v.isMapping = true) :
    Layers.entriesOf ((Layers.overlayAll none vs).getD .null) = Layers.merge vs := by
  induction vs using List.reverseRecOn with
  | nil => rfl
  | append_singleton vs v ih =>
      obtain ⟨entries, rfl⟩ := Value.isMapping_iff.mp (h v (by simp))
      rw [Layers.merge_append_singleton, ← ih fun u hu => h u (List.mem_append_left _ hu),
        Layers.overlayAll_append_singleton, Layers.overlay_map]
      rfl

/-- What values come to depends on the last of them, and otherwise on nothing but mappings. -/
theorem elim_overlayAll {α : Type} {f : Value → α} (hf : ∀ es fs, f (.map es) = f (.map fs))
    (standard : α) (vs : List Value) :
    (Layers.overlayAll none vs).elim standard f = vs.getLast?.elim standard f := by
  induction vs using List.reverseRecOn with
  | nil => rfl
  | append_singleton vs v ih =>
      rw [Layers.overlayAll_append_singleton, List.getLast?_concat, Option.elim_some,
        Option.elim_some]
      by_cases hv : v.isMapping = true
      · obtain ⟨entries, rfl⟩ := Value.isMapping_iff.mp hv
        rw [Layers.overlay_map, hf _ entries]
      · rw [Layers.overlay_of_not_isMapping _ (Bool.eq_false_iff.mpr hv)]

theorem section?_of_isMapping {entries : Entries} {name : String}
    (h : ∀ v, entries.getText? name = some v → v.isMapping = true) :
    (section? entries name).outcome =
      Layers.entriesOf ((entries.getText? name).getD .null) := by
  unfold section?
  split
  · next hnone => simp [hnone, Layers.entriesOf]
  · next inner hinner => simp [hinner, Layers.entriesOf]
  · next v hne hv =>
      obtain ⟨inner, rfl⟩ := Value.isMapping_iff.mp (h v hv)
      exact absurd rfl (hne inner)

theorem getText?_section {layers : List Entries}
    (hdistinct : ∀ es ∈ layers, Entries.Throughout Entries.HasDistinctKeys es)
    (hsection : ∀ es ∈ layers, HasSection es) (key : PollerKey) :
    ((section? (Layers.merge (layers.map .map)) "poller").outcome).getText? key.name =
      Layers.overlayAll none (layers.filterMap (rawIn · key)) := by
  let sections := Layers.held (layers.map .map) (.text "poller")
  have hmem : ∀ v ∈ sections, ∃ es ∈ layers, es.getText? "poller" = some v ∧ v ≠ .null := by
    intro v hv
    obtain ⟨layer, hlayer, hget⟩ := Layers.mem_held hv
    obtain ⟨es, hes, rfl⟩ := List.mem_map.mp hlayer
    exact ⟨es, hes, hget⟩
  have hmapping : ∀ v ∈ sections, v.isMapping = true := by
    intro v hv
    obtain ⟨es, hes, hget, hne⟩ := hmem v hv
    exact (hsection es hes v hget).resolve_left hne
  have hinner : ∀ v ∈ sections, (Layers.entriesOf v).HasDistinctKeys := by
    intro v hv
    obtain ⟨es, hes, hget, -⟩ := hmem v hv
    obtain ⟨inner, rfl⟩ := Value.isMapping_iff.mp (hmapping v hv)
    exact ((hdistinct es hes).of_get? hget inner rfl).self
  have hmerge : (Layers.merge (layers.map .map)).getText? "poller" =
      Layers.overlayAll none sections := by
    refine Layers.get?_merge ?_ (.text "poller")
    intro layer hlayer
    obtain ⟨es, hes, rfl⟩ := List.mem_map.mp hlayer
    exact (hdistinct es hes).self
  -- As each section is a mapping or nothing, no source hides the whole section of a lower one.
  rw [section?_of_isMapping, hmerge, entriesOf_overlayAll hmapping, Entries.getText?,
    Layers.get?_merge hinner, held_held]
  intro v hv
  exact isMapping_overlayAll hmapping (hmerge ▸ hv)

/-! ## Settings that values stand for -/

theorem intervalIn_eq_ok {entries : Entries} {r : Reported Float}
    (h : intervalIn entries = .ok r) :
    r.outcome = (entries.getText? "interval").elim standardInterval intervalOf := by
  unfold intervalIn at h
  split at h
  · next hnone =>
      cases h
      simp [hnone]
  · next v hv =>
      obtain ⟨x?, hx?, hr⟩ := bind_eq_ok_iff.mp h
      rw [hv, Option.elim_some, intervalOf, hx?]
      split at hr
      · cases hr
        rfl
      · next x =>
          dsimp only
          split at hr <;> (cases hr; simp [*])

theorem outcome_switchIn (entries : Entries) (key : String) (standard : Bool) :
    (switchIn entries key standard).outcome =
      (entries.getText? key).elim standard (switchOf standard) := by
  unfold switchIn
  cases entries.getText? key with
  | none => rfl
  | some v =>
      unfold switch switchOf
      cases hv : switch? v <;> simp [hv]

theorem poller_ofEntries {entries : Entries} {settings : Settings}
    (h : (ofEntries entries).outcome = .ok settings) :
    settings.poller =
      ofRaw fun key => ((section? entries "poller").outcome).getText? key.name := by
  rw [ofEntries, Reported.outcome_bind] at h
  cases hinterval : intervalIn (section? entries "poller").outcome with
  | error e => simp [hinterval] at h
  | ok r =>
      rw [hinterval] at h
      simp only [Reported.outcome_bind, Reported.outcome_pure] at h
      cases h
      simp only [ofRaw, intervalIn_eq_ok hinterval, outcome_switchIn, PollerKey.name]

/-- Mappings stand for no interval and for no truth value, so what they are merged to is the same
as the last of them. -/
theorem ofRaw_overlayAll (vs : PollerKey → List Value) :
    (ofRaw fun key => Layers.overlayAll none (vs key)) = ofRaw fun key => (vs key).getLast? := by
  have hinterval := elim_overlayAll (f := intervalOf) (fun _ _ => rfl) standardInterval
  have hswitch := fun standard => elim_overlayAll (f := switchOf standard) (fun _ _ => rfl) standard
  simp only [ofRaw, hinterval, hswitch]

/-- The last value among the layers of a run is the first one from the highest source down. -/
theorem getLast?_rawIn (w : World) (paths : List Path) (key : PollerKey) :
    ((((paths.map (entriesIn w)).filter fun entries => !entries.isEmpty) ++
        [ofEnvironment w]).filterMap (rawIn · key)).getLast? =
      (rawOfVariable w key).or (paths.reverse.findSome? fun p => rawIn (entriesIn w p) key) := by
  have hempty : ∀ p, (if (!(entriesIn w p).isEmpty) = true then rawIn (entriesIn w p) key
      else none) = rawIn (entriesIn w p) key := by
    intro p
    cases entriesIn w p <;> rfl
  rw [List.getLast?_filterMap, List.reverse_append, List.findSome?_append, List.reverse_singleton,
    List.findSome?_singleton, rawIn_ofEnvironment, ← List.getLast?_filterMap, List.filterMap_filter,
    List.filterMap_map, ← List.getLast?_filterMap]
  simp only [Function.comp_def, hempty]

theorem poller_of_load {w : World} {project named : Option Path} {settings : Settings}
    {paths : List Path} (h : (load w project named).outcome = .ok settings)
    (hpaths : allFiles w project named = .ok paths)
    (hsections : ∀ p ∈ paths, HasSection (entriesIn w p)) :
    settings.poller = ofRaw fun key =>
      (rawOfVariable w key).or (paths.reverse.findSome? fun p => rawIn (entriesIn w p) key) := by
  obtain ⟨paths', layers, entries, hpaths', hlayers, hmerge, hentries⟩ := load_eq_ok h
  have heq : paths' = paths := Except.ok.inj (hpaths'.symm.trans hpaths)
  subst heq
  have hfiles : layers = (paths'.map (entriesIn w)).filter fun entries => !entries.isEmpty :=
    entriesOfFiles_eq_ok hlayers
  have hmerged : entries = Layers.merge ((layers ++ [ofEnvironment w]).map .map) := by
    unfold Layers.merge? at hmerge
    split at hmerge
    · simp at hmerge
    · exact (Except.ok.inj hmerge).symm
  have hmem : ∀ es ∈ layers ++ [ofEnvironment w],
      (∃ p ∈ paths', entriesIn w p = es) ∨ es = ofEnvironment w := by
    intro es hes
    rcases List.mem_append.mp hes with hlayer | henv
    · rw [hfiles] at hlayer
      exact .inl (List.mem_map.mp (List.mem_filter.mp hlayer).1)
    · exact .inr (List.mem_singleton.mp henv)
  rw [poller_ofEntries hentries, hmerged]
  have hsection : ∀ key : PollerKey,
      ((section? (Layers.merge ((layers ++ [ofEnvironment w]).map .map)) "poller").outcome).getText?
          key.name =
        Layers.overlayAll none ((layers ++ [ofEnvironment w]).filterMap (rawIn · key)) := by
    apply getText?_section
    · intro es hes
      rcases hmem es hes with ⟨p, -, rfl⟩ | rfl
      · exact throughout_hasDistinctKeys_entriesIn w p
      · exact throughout_hasDistinctKeys_ofEnvironment w
    · intro es hes
      rcases hmem es hes with ⟨p, hp, rfl⟩ | rfl
      · exact hsections p hp
      · exact hasSection_ofEnvironment w
  simp only [hsection]
  rw [ofRaw_overlayAll, hfiles]
  simp only [getLast?_rawIn]

end TreeWatch.Settings
