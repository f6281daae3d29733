import TreeWatch.Session.Action

/-!
# Steps of a session

What is done in a session, one thing after the other: actions and loops. A loop comes with the
steps that are done while it waits.
-/

namespace TreeWatch

/-- What the receiver of events does with them: for some paths it asks the poller to stop, and for
some it fails with a text. -/
structure Receiver where
  stopsOn : List String := []
  failsOn : List (String × String) := []

mutual

inductive Step where
  | act (action : Action)
  | run (id : String) (token : Token) (receiver : Receiver) (ticks : List Tick)
  /-- Runs the coroutine; when the ticks are used up it is stopped or cancelled. It runs in a task
  that may run others after it, or in one of its own. -/
  | runCoroutine (id : String) (cancelAtEnd : Bool) (receiver : Receiver) (ticks : List Tick)
      (task : Option String := none)

inductive Tick where
  /-- The steps that are done, the seconds that the next listing of a watched directory takes,
  whether the coroutine is cancelled, and whether all this happens after its wait is over. -/
  | mk (steps : List Step) (listingSeconds : Float) (cancel late : Bool)

end

end TreeWatch
