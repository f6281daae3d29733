import TreeWatch.Settings.Schema
import TreeWatch.Log.Record
import TreeWatch.Tree.Edit
import TreeWatch.Watch.Poller

/-!
# Actions of a session

What can be done in a session at once, without waiting.
-/

namespace TreeWatch

/-- Which settings the log is set up with: given ones, or those of the whole program. -/
inductive LoggingSource where
  | given (s : Option LoggingSettings)
  | loaded

/-- Something that is done at once. Pollers and kept snapshots go by names. -/
inductive Action where
  | edit (change : Edit)
  | changeDirectory (path : List String)
  | setVariable (name : String) (value : Option String)
  | create (id : String) (request : Request)
  /-- Creates a poller with the settings of a section, or with those of the whole program. -/
  | createFromSettings (id : String) (root : Path) (section? : Option Value)
  | validate (request : Request)
  | takeSnapshot (root : Path) (scope : Scope)
  | poll (id : String)
  | snapshot (id : String)
  | hold (id name : String)
  | held (name : String)
  | diffHeld (old new : String)
  /-- Asks for the path of an event, whose kind is given by its word. -/
  | resolve (id kind path : String)
  | stop (id : String)
  | isRunning (id : String)
  | loadSettings (project named : Option Path) (reload : Bool)
  | getSettings
  | resetSettings
  | readSettingsFile (path : Path)
  | settingsFiles (project : Option Path)
  | setupLogging (source : LoggingSource)
  | resetLogging
  | loggingState
  | log (logger : Option String) (level : Log.Level) (message : String)
  | fileContent (path : List String)
  | errorText

end TreeWatch
