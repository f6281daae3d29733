import TreeWatch.Failure
import TreeWatch.Settings.Schema
import TreeWatch.Log.Journal
import TreeWatch.Watch.Poller

/-!
# Answers of a session

What a step gives back, with the records that were made while it was done.
-/

namespace TreeWatch

inductive Reply (τ : Type) where
  | done
  | spec (s : Spec)
  | snapshot (s : Snapshot)
  | events (es : List Event)
  | path (p : Path)
  | truth (b : Bool)
  /-- Settings with the number of the object that holds them. -/
  | settings (s : Settings) (number : Nat)
  | entries (es : Entries)
  | files (ps : List Path)
  | logging (initialized : Bool) (level : Log.Level) (handlers : List Log.Handler)
  | content (bytes : Option Bytes)
  | text (s : String)
  /-- What a loop did: how long it waited each time, the events that it handed on, the answers to
  the steps of each tick; then whether the poller is running, whether the token that it waited on
  is set, if it did wait on one, and whether a stop is pending. -/
  | loop (waits : List τ) (events : List Event)
      (ticks : List (List (Except Failure (Reply τ) × List Log.Record)))
      (running : Bool) (token : Option Bool) (stopPending : Bool)

abbrev Answer (τ : Type) := Except Failure (Reply τ) × List Log.Record

end TreeWatch
