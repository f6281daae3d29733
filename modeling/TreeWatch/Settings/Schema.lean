import TreeWatch.Value.Basic
import TreeWatch.Watch.Interval

/-!
# Settings

What a run can be told: how directories are polled, what is logged, and whatever else the files
hold.
-/

namespace TreeWatch

structure PollerSettings where
  /-- Seconds between the starts of two polls. -/
  interval : Interval := .seconds 1.0
  recursive : Bool := true
  trackDirectories : Bool := false
  trackSymlinks : Bool := false

/-- What is logged and where. Nothing stands for what is not set. -/
structure LoggingSettings where
  level : Value := .null
  /-- A number from nothing but errors to everything, which stands above the level. -/
  verbose : Value := .null
  file : Value := .null

structure Settings where
  poller : PollerSettings := {}
  logging : LoggingSettings := {}
  extra : Entries := []

end TreeWatch
