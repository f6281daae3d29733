import TreeWatch.Text.Quoted

/-!
# System errors

The causes for which the file system refuses an operation, with their numbers and texts.
-/

namespace TreeWatch

inductive Errno where
  | notPermitted
  | notFound
  | inputOutput
  | badDescriptor
  | permissionDenied
  | notDirectory
  | isDirectory
  | tooManyOpenFiles
  | nameTooLong
  | tooManyLinks
  deriving DecidableEq

namespace Errno

def number : Errno → Nat
  | notPermitted => 1
  | notFound => 2
  | inputOutput => 5
  | badDescriptor => 9
  | permissionDenied => 13
  | notDirectory => 20
  | isDirectory => 21
  | tooManyOpenFiles => 24
  | nameTooLong => 36
  | tooManyLinks => 40

def description : Errno → String
  | notPermitted => "Operation not permitted"
  | notFound => "No such file or directory"
  | inputOutput => "Input/output error"
  | badDescriptor => "Bad file descriptor"
  | permissionDenied => "Permission denied"
  | notDirectory => "Not a directory"
  | isDirectory => "Is a directory"
  | tooManyOpenFiles => "Too many open files"
  | nameTooLong => "File name too long"
  | tooManyLinks => "Too many levels of symbolic links"

/-- The errors that only say that nothing is there: a test for existence takes them for a no. -/
def meansAbsent : Errno → Bool
  | notFound | notDirectory | badDescriptor | tooManyLinks => true
  | _ => false

def meansDenied : Errno → Bool
  | permissionDenied | notPermitted => true
  | _ => false

def text (e : Errno) : String :=
  "[Errno " ++ toString e.number ++ "] " ++ e.description

end Errno

/-- An operation refused at a path, as the path was passed. -/
structure SystemError where
  errno : Errno
  path : String
  deriving DecidableEq

def SystemError.message (e : SystemError) : String :=
  e.errno.text ++ ": " ++ Text.quoted e.path

end TreeWatch
