import TreeWatch.Session.State

/-!
# Doing actions

What each action does to a session and what it answers.
-/

namespace TreeWatch.Session

open Log

variable {τ : Type} [Timeline τ]

abbrev Outcome (τ : Type) := Except Failure (Reply τ)

def forPoller (s : Session τ) (id : String) (work : Nat → Poller → Outcome τ × Session τ) :
    Outcome τ × Session τ :=
  match s.place? id with
  | none => (.error .unknownName, s)
  | some place =>
    match s.pollerAt? place with
    | none => (.error .unknownName, s)
    | some p => work place p

def heldSnapshot? (s : Session τ) (name : String) : Option Snapshot :=
  (s.held.find? (·.1 = name)).map (·.2)

def act (s : Session τ) : Action → Outcome τ × Session τ
  | .edit change => (.ok .done, { s with world := s.world.edit change })
  | .changeDirectory path => (.ok .done, { s with world := { s.world with directory := path } })
  | .setVariable name value => (.ok .done, { s with world := s.world.setVariable name value })
  | .create id request => s.create id request
  | .createFromSettings id root given =>
    match s.pollerSettings given with
    | (.error e, s) => (.error e, s)
    | (.ok settings, s) => s.create id (settings.request root)
  | .validate request => ((request.validate s.world).map .spec, s)
  | .takeSnapshot root scope =>
    let s := s.passListing
    let (snapshot, s) := s.report (Snapshot.take s.world scope root)
    (snapshot.map .snapshot, s)
  | .poll id => s.forPoller id fun place _ =>
    let (events, s) := s.pollAt place
    (.ok (.events events), s)
  | .snapshot id => s.forPoller id fun _ p => (.ok (.snapshot p.snapshot), s)
  | .hold id name => s.forPoller id fun _ p =>
    (.ok .done, { s with held := (name, p.snapshot) :: s.held })
  | .held name =>
    match s.heldSnapshot? name with
    | some snapshot => (.ok (.snapshot snapshot), s)
    | none => (.error .unknownName, s)
  | .diffHeld old new =>
    match s.heldSnapshot? old, s.heldSnapshot? new with
    | some old, some new => (.ok (.events (Snapshot.diff old new)), s)
    | _, _ => (.error .unknownName, s)
  | .resolve id word path => s.forPoller id fun _ p =>
    match ChangeKind.ofWord? word with
    | some kind => (.ok (.path (p.resolve ⟨kind, path⟩)), s)
    | none => (.error .malformed, s)
  | .stop id => s.forPoller id fun place _ => (.ok .done, s.changePoller place Poller.stop)
  | .isRunning id => s.forPoller id fun _ p => (.ok (.truth p.isRunning), s)
  | .loadSettings project named reload => s.giveSettings project named reload
  | .getSettings => s.giveSettings none none false
  | .resetSettings => (.ok .done, { s with cached := none })
  | .readSettingsFile path =>
    let (entries, s) := s.report (Settings.entriesOfFile s.world path)
    (entries.map .entries, s)
  | .settingsFiles project => ((Settings.files s.world project).map .files, s)
  | .setupLogging (.given settings) => s.setupLogging settings
  | .setupLogging .loaded =>
    match s.globalSettings with
    | (.error e, s) => (.error e, s)
    | (.ok loaded, s) => s.setupLogging (some loaded.settings.logging)
  | .resetLogging =>
    let s := { s with journal := s.journal.reset }
    (.ok s.loggingReply, s)
  | .loggingState => (.ok s.loggingReply, s)
  | .log logger level message => (.ok .done, s.emit [⟨level, loggerName logger, message⟩])
  | .fileContent path =>
    match s.world.root.at? path with
    | some (.file _ _ content) => (.ok (.content (some content)), s)
    | _ => (.ok (.content none), s)
  | .errorText => (.ok (.text s.journal.errorText), s)

end TreeWatch.Session
