import TreeWatch.Tree.Errno
import TreeWatch.Path

/-!
# Failures

The causes for which a request is refused.
-/

namespace TreeWatch

inductive RootProblem where
  | missing
  | notDirectory
  deriving DecidableEq

def RootProblem.description : RootProblem → String
  | missing => "Directory does not exist"
  | notDirectory => "Not a directory"

inductive Failure where
  | invalidRoot (problem : RootProblem) (root : Path)
  /-- The directory to watch cannot be listed. -/
  | rootVanished (root : Path) (cause : SystemError)
  | system (cause : SystemError)
  /-- A tilde stands for nobody's home. -/
  | homeUnknown
  /-- The time between polls is not positive; it is given as it was written. -/
  | intervalNotPositive (written : String)
  /-- A text or a number lies outside the form or the range that is asked for, or a text cannot be
  written as the name of a file. -/
  | malformed
  /-- A whole number is too large for a double, or a time is too long to wait for. -/
  | tooLarge
  /-- A value of the wrong kind stands where a file or a number is asked for. -/
  | wrongKind
  /-- A value that is no text stands where the name of a level is asked for. -/
  | notText
  | notTime
  | unknownName
  /-- A number without a single character. -/
  | emptyNumber
  | undecodable
  /-- A value is nested without end, or too deeply to be followed. -/
  | endless
  deriving DecidableEq

namespace Failure

def message? : Failure → Option String
  | invalidRoot problem root => some (problem.description ++ ": " ++ root.text)
  | rootVanished root cause =>
    some ("Watch root unavailable " ++ root.text ++ ": " ++ cause.message)
  | system cause => some cause.message
  | homeUnknown => some "Could not determine home directory."
  | intervalNotPositive written => some ("Poll interval must be positive, got " ++ written)
  | _ => none

end Failure

end TreeWatch
