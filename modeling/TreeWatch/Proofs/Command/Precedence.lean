import TreeWatch.Command.Run
import TreeWatch.Proofs.Session.Course
import TreeWatch.Proofs.Settings.Sources
import TreeWatch.Proofs.Watch.Granting

/-!
# What the settings of a run are

The pollers of a run follow settings that each come from one place: the command line, or else the
highest source that gives a value. A value that is of no use gives way to the default and not to a
lower source, and the sources of one setting make no difference to another.
-/

namespace TreeWatch.Command

open Settings

/-- The files that a run reads settings from, by their rank. -/
structure Sources where
  named : Option Path
  project : Path
  user : Option Path
  system : Option Path

namespace Sources

def named? (w : World) (a : Arguments) : Except Failure (Option Path) :=
  match a.config with
  | none => .ok none
  | some (.value p) => (w.expandHome p).map some
  | some .nothing => .error .wrongKind

def of (w : World) (a : Arguments) : Except Failure Sources := do
  let user ← userFile? w
  let named ← named? w a
  .ok ⟨named, hiddenFileWithin (Path.absolute w.directory), user, systemFile? w⟩

def files (src : Sources) : List Path :=
  src.system.toList ++ src.user.toList ++ [src.project] ++ src.named.toList

/-- The values that the sources give for a setting, the highest first. -/
def raws (src : Sources) (w : World) (key : PollerKey) : List (Option Value) :=
  let inFile (p : Path) := rawIn (entriesIn w p) key
  [rawOfVariable w key, src.named.bind inFile, inFile src.project, src.user.bind inFile,
    src.system.bind inFile]

end Sources

def highest (raws : List (Option Value)) : Option Value :=
  raws.findSome? id

def settledInterval (flag : Option Interval) (raws : List (Option Value)) : Interval :=
  flag.getD (.seconds ((highest raws).elim standardInterval intervalOf))

def settledSwitch (standard : Bool) (flag : Option Bool) (raws : List (Option Value)) : Bool :=
  flag.getD ((highest raws).elim standard (switchOf standard))

/-- Each setting comes from its own flag and its own values. -/
structure IsSettled (w : World) (a : Arguments) (src : Sources) (p : PollerSettings) : Prop where
  interval : p.interval = settledInterval a.interval (src.raws w .interval)
  recursive : p.recursive = settledSwitch true a.recursive (src.raws w .recursive)
  trackDirectories :
    p.trackDirectories = settledSwitch false a.trackDirectories (src.raws w .trackDirectories)
  trackSymlinks : p.trackSymlinks = settledSwitch false a.trackSymlinks (src.raws w .trackSymlinks)

structure Follows (p : PollerSettings) (spec : Spec) : Prop where
  interval : p.interval.toFloat? = some spec.interval
  scope : spec.scope = ⟨p.recursive, p.trackDirectories, p.trackSymlinks⟩

variable {τ : Type} [Timeline τ]

/-! ## Settings below the command line -/

theorem loadBelow_eq_ok {w : World} {a : Arguments} {loaded : LoadedSettings} {s : Session τ}
    (h : loadBelow a (Session.ofWorld w : Session τ) = (.ok loaded, s)) :
    ∃ named, namedFile? w a = .ok named ∧
      (load w (some (Path.absolute w.directory)) named).outcome = .ok loaded.settings := by
  unfold loadBelow at h
  cases hnamed : namedFile? (Session.ofWorld w : Session τ).world a with
  | error e => simp [hnamed] at h
  | ok named =>
      rw [hnamed] at h
      refine ⟨named, hnamed, ?_⟩
      simp only [Session.loadSettings, Session.ofWorld, Session.report, Option.isNone_some,
        Bool.false_and] at h
      split at h
      · simp at h
      · next settings t heq =>
          cases h
          exact congrArg Prod.fst heq

omit [Timeline τ] in
theorem aside_loadBelow (a : Arguments) (s : Session τ) : Session.Aside s (loadBelow a s).2 := by
  unfold loadBelow
  split
  · exact .refl s
  · exact Session.aside_loadSettings s _ _ _

theorem of_eq_ok {w : World} {a : Arguments} {named : Option Path} {paths : List Path}
    (hnamed : namedFile? w a = .ok named)
    (hpaths : allFiles w (some (Path.absolute w.directory)) named = .ok paths) :
    ∃ src, Sources.of w a = .ok src ∧ src.files = paths := by
  obtain ⟨lower, hlower, hrest⟩ := bind_eq_ok_iff.mp hpaths
  obtain ⟨user, huser, hfiles⟩ := bind_eq_ok_iff.mp hlower
  obtain ⟨expanded, hexpanded, heq⟩ := bind_eq_ok_iff.mp hrest
  have hnamed' : Sources.named? w a = .ok expanded := by
    unfold namedFile? at hnamed
    unfold Sources.named?
    cases hconfig : a.config with
    | none =>
        rw [hconfig] at hnamed
        cases hnamed
        exact hexpanded
    | some given =>
        rw [hconfig] at hnamed
        cases given with
        | value p =>
            cases hnamed
            exact hexpanded
        | nothing =>
            obtain ⟨_, _, hnone⟩ := bind_eq_ok_iff.mp hnamed
            simp at hnone
  refine ⟨_, bind_eq_ok_iff.mpr ⟨user, huser, bind_eq_ok_iff.mpr ⟨expanded, hnamed', rfl⟩⟩, ?_⟩
  cases hfiles
  cases heq
  simp [Sources.files]

omit [Timeline τ] in
theorem highest_cons (raw : Option Value) (raws : List (Option Value)) :
    highest (raw :: raws) = raw.or (highest raws) := by
  cases raw <;> rfl

theorem findSome?_toList {α β : Type} (f : α → Option β) (a : Option α) :
    a.toList.findSome? f = a.bind f := by
  cases a with
  | none => rfl
  | some a => exact List.findSome?_singleton

theorem highest_raws (src : Sources) (w : World) (key : PollerKey) :
    highest (src.raws w key) =
      (rawOfVariable w key).or
        (src.files.reverse.findSome? fun p => rawIn (entriesIn w p) key) := by
  have hreverse : ∀ o : Option Path, o.toList.reverse = o.toList := by
    intro o
    cases o <;> rfl
  simp only [Sources.raws, Sources.files, highest_cons, List.reverse_append, hreverse,
    List.reverse_singleton, List.findSome?_append, List.findSome?_singleton, findSome?_toList]
  simp [highest]

theorem isSettled_apply {w : World} {a : Arguments} {src : Sources} {settings : Settings}
    (h : settings.poller = ofRaw fun key => highest (src.raws w key)) :
    IsSettled w a src (a.apply settings).poller := by
  constructor <;> simp only [Arguments.apply, h] <;> rfl

/-! ## Pollers of a run -/

theorem follows_of_validate {w : World} {p : PollerSettings} {root : Path} {spec : Spec}
    (h : (p.request root).validate w = .ok spec) : Follows p spec := by
  obtain ⟨_, _, _, -, -, -, -, -, hinterval, hspec⟩ := Request.validate_eq_ok h
  exact ⟨hinterval, by rw [hspec]; rfl⟩

/-- The poller in the loop of a run, unless that fails at its first wait. -/
def entered (w : World) (p : Poller) : Poller :=
  if p.cannotBegin w (.external false) then p.leave
  else (p.enterBlocking (.external false)).outcome

theorem spec_entered (w : World) (p : Poller) : (entered w p).spec = p.spec := by
  unfold entered
  split <;> rfl

theorem entered_congr {w v : World} (h : v.host = w.host) : entered v = entered w := by
  funext p
  rw [entered, entered, Poller.cannotBegin, Poller.cannotBegin, World.isTooLong_congr h]

omit [Timeline τ] in
theorem host_enterLoop (s : Session τ) (place : Nat) :
    (enterLoop s place).world.host = s.world.host := by
  have hentered := Session.host_changePoller s place (Poller.enterBlocking (.external false))
  unfold enterLoop
  dsimp only
  split
  · exact (Session.host_endBlocking _ place).trans hentered
  · exact hentered

theorem pollerAt?_enterLoop (s : Session τ) (i place : Nat) :
    (enterLoop s i).pollerAt? place =
      if i = place then (s.pollerAt? place).map (entered s.world) else s.pollerAt? place := by
  by_cases hi : i = place
  · subst hi
    rw [if_pos rfl]
    cases hp : s.pollerAt? i with
    | none =>
        have hcannot : s.cannotWait i = false := by simp [Session.cannotWait, Session.pollerIs, hp]
        unfold enterLoop
        rw [Session.changePoller_of_none hp]
        dsimp only
        rw [if_neg (by simp [hcannot]), hp]
        rfl
    | some p =>
        have hentered := Session.pollerAt?_changePoller_self hp
          (Poller.enterBlocking (.external false))
        have hcannot : (s.changePoller i (Poller.enterBlocking (.external false))).cannotWait i =
            p.cannotBegin s.world (.external false) := Session.cannotWait_make_enter hp _
        unfold enterLoop entered
        dsimp only
        rw [hcannot, Option.map_some]
        split
        · rw [Session.pollerAt?_endBlocking hentered]
          rfl
        · exact hentered
  · have hentered := Session.pollerAt?_changePoller_of_ne s hi
      (Poller.enterBlocking (.external false))
    rw [if_neg hi]
    unfold enterLoop
    dsimp only
    split
    · rw [Session.pollerAt?_endBlocking_eq, if_neg hi, hentered]
    · exact hentered

theorem pollers_enterLoops (s : Session τ) :
    (enterLoops s).pollers = s.pollers.map (entered s.world) := by
  refine List.ext_getElem? fun place => ?_
  have hplace := Session.pollerAt?_foldl_range (I := fun t => t.world.host = s.world.host)
    (fun t i ht => (host_enterLoop t i).trans ht) (g := entered s.world) (fun t ht i place => by
      rw [pollerAt?_enterLoop, entered_congr ht]) s.pollers.length rfl place
  rw [List.getElem?_map]
  refine hplace.trans ?_
  split
  · rfl
  · next hlt =>
      rw [Session.pollerAt?, List.getElem?_eq_none (by omega)]
      rfl

theorem specs_enterLoops (s : Session τ) :
    (enterLoops s).pollers.map (·.spec) = s.pollers.map (·.spec) := by
  rw [pollers_enterLoops, List.map_map]
  exact List.map_congr_left fun p _ => spec_entered s.world p

theorem follows_enterLoops {p : PollerSettings} {s : Session τ}
    (h : ∀ q ∈ s.pollers, Follows p q.spec) :
    ∀ q ∈ (enterLoops s).pollers, Follows p q.spec := by
  have hspecs : ∀ spec ∈ (enterLoops s).pollers.map (·.spec), Follows p spec := by
    rw [specs_enterLoops]
    exact List.forall_mem_map.mpr h
  exact List.forall_mem_map.mp hspecs

theorem follows_createPollers {p : PollerSettings} (paths : List Path) {s : Session τ}
    (h : ∀ q ∈ s.pollers, Follows p q.spec) :
    ∀ q ∈ (createPollers p paths s).2.pollers, Follows p q.spec := by
  induction paths generalizing s with
  | nil => exact h
  | cons root rest ih =>
      unfold createPollers Session.createPoller
      cases hvalid : (p.request root).validate s.world with
      | error e =>
          dsimp only
          cases e <;> exact h
      | ok spec =>
          refine ih ?_
          intro q hq
          rcases List.mem_append.mp hq with hold | hnew
          · exact h q hold
          · rw [List.mem_singleton.mp hnew, Poller.outcome_ofSpec]
            exact follows_of_validate hvalid

theorem follows_start {texts : List String} {w : World} {a : Arguments} {loaded : LoadedSettings}
    {s : Session τ} (harguments : Arguments.ofTexts texts = .ok a)
    (hload : loadBelow a (Session.ofWorld w : Session τ) = (.ok loaded, s)) :
    ∀ q ∈ (start texts (Session.ofWorld w : Session τ)).2.pollers,
      Follows (a.apply loaded.settings).poller q.spec := by
  have hnone : s.pollers = [] := by
    have haside := (aside_loadBelow a (Session.ofWorld w : Session τ)).pollers
    rw [hload] at haside
    exact haside
  unfold start
  rw [harguments]
  dsimp only
  rw [hload]
  dsimp only
  have hsetup := Session.aside_setupLogging s (some (a.apply loaded.settings).logging)
  cases hlog : s.setupLogging (some (a.apply loaded.settings).logging) with
  | mk result t =>
      rw [hlog] at hsetup
      have ht : ∀ q ∈ t.pollers, Follows (a.apply loaded.settings).poller q.spec := by
        have hempty : t.pollers = [] := hsetup.pollers.trans hnone
        simp [hempty]
      cases result with
      | error e => exact ht
      | ok reply =>
          have hcreated := follows_createPollers a.paths ht
          dsimp only
          cases hcreate : createPollers (a.apply loaded.settings).poller a.paths t with
          | mk outcome u =>
              rw [hcreate] at hcreated
              cases outcome with
              | error r => exact hcreated
              | ok _ =>
                  dsimp only at hcreated ⊢
                  refine follows_enterLoops ?_
                  split <;> exact hcreated

/-- Where settings can be loaded, those of the pollers of a run each come from the flag, or else
from the highest source that gives a value, or else from the default. -/
theorem exists_isSettled {texts : List String} {w : World} {a : Arguments}
    {loaded : LoadedSettings} {s : Session τ} (harguments : Arguments.ofTexts texts = .ok a)
    (hload : loadBelow a (Session.ofWorld w : Session τ) = (.ok loaded, s))
    (hsections : ∀ src, Sources.of w a = .ok src → ∀ p ∈ src.files, HasSection (entriesIn w p)) :
    ∃ src, Sources.of w a = .ok src ∧ IsSettled w a src (a.apply loaded.settings).poller ∧
      ∀ q ∈ (start texts (Session.ofWorld w : Session τ)).2.pollers,
        Follows (a.apply loaded.settings).poller q.spec := by
  obtain ⟨named, hnamed, houtcome⟩ := loadBelow_eq_ok hload
  obtain ⟨paths, -, -, hpaths, -⟩ := load_eq_ok houtcome
  obtain ⟨src, hsrc, hfiles⟩ := of_eq_ok hnamed hpaths
  have hraw : loaded.settings.poller = ofRaw fun key => highest (src.raws w key) := by
    simp only [highest_raws, hfiles]
    exact poller_of_load houtcome hpaths (hfiles ▸ hsections src hsrc)
  exact ⟨src, hsrc, isSettled_apply hraw, follows_start harguments hload⟩

def layeredWords : List String :=
  ["/w", "--config", "/w/x.yaml", "--track-symlinks"]

def layeredWorld : World :=
  { root := .directory { name := "" } [
      .directory { name := "etc" } [
        .directory { name := "dirpoll" } [
          .file { name := "config.yaml" } 0
            (Bytes.ofText "poller: {interval: 5, recursive: off}")]],
      .directory { name := "w" } [
        .directory { name := ".dirpoll" } [
          .file { name := "config.yaml" } 1
            (Bytes.ofText "poller: {interval: fast, recursive: null}")],
        .file { name := "x.yaml" } 2 (Bytes.ofText "poller: {track_directories: on}")]]
    nextSerial := 3
    directory := ["w"]
    environment := [("XDG_CONFIG_HOME", "/none")] }

def layeredRun : Option (Arguments × Scope) := do
  let a ← (Arguments.ofTexts layeredWords).toOption
  let loaded ← (loadBelow a (Session.ofWorld layeredWorld : Session Float)).1.toOption
  let p := (a.apply loaded.settings).poller
  pure (a, ⟨p.recursive, p.trackDirectories, p.trackSymlinks⟩)

theorem exists_isSettled_layeredWorld :
    ∃ a loaded s, Arguments.ofTexts layeredWords = .ok a ∧
      loadBelow a (Session.ofWorld layeredWorld : Session Float) = (.ok loaded, s) ∧
      ∃ src, Sources.of layeredWorld a = .ok src ∧
        (∀ p ∈ src.files, HasSection (entriesIn layeredWorld p)) ∧
        IsSettled layeredWorld a src (a.apply loaded.settings).poller ∧
        (a.apply loaded.settings).poller.recursive = false ∧
        (a.apply loaded.settings).poller.trackDirectories = true ∧
        (a.apply loaded.settings).poller.trackSymlinks = true := by
  have hrun : (layeredRun.map fun e => (e.2, (Sources.of layeredWorld e.1).toOption.all fun src =>
      decide (∀ p ∈ src.files, HasSection (entriesIn layeredWorld p)))) =
      some (⟨false, true, true⟩, true) := by decide +kernel
  cases ha : Arguments.ofTexts layeredWords with
  | error d => simp [layeredRun, ha, Except.toOption] at hrun
  | ok a =>
      cases hload : loadBelow a (Session.ofWorld layeredWorld : Session Float) with
      | mk result s =>
          cases result with
          | error e => simp [layeredRun, ha, hload, Except.toOption] at hrun
          | ok loaded =>
              obtain ⟨hscope, hall⟩ : (⟨(a.apply loaded.settings).poller.recursive,
                  (a.apply loaded.settings).poller.trackDirectories,
                  (a.apply loaded.settings).poller.trackSymlinks⟩ : Scope) = ⟨false, true, true⟩ ∧
                  (Sources.of layeredWorld a).toOption.all (fun src =>
                    decide (∀ p ∈ src.files, HasSection (entriesIn layeredWorld p))) = true := by
                simpa [layeredRun, ha, hload, Except.toOption] using hrun
              have hsections : ∀ src, Sources.of layeredWorld a = .ok src →
                  ∀ p ∈ src.files, HasSection (entriesIn layeredWorld p) := by
                intro src hsrc
                simpa [hsrc, Except.toOption] using hall
              obtain ⟨src, hsrc, hsettled, -⟩ := exists_isSettled ha hload hsections
              obtain ⟨hrecursive, hdirectories, hsymlinks⟩ := Scope.mk.inj hscope
              exact ⟨a, loaded, s, rfl, hload, src, hsrc, hsections src hsrc, hsettled, hrecursive,
                hdirectories, hsymlinks⟩

end TreeWatch.Command
