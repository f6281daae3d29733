/-!
# The host

What a program takes from the system below it: who has a home directory, whether a file can go by
bytes, and how long a thread can be made to wait.
-/

namespace TreeWatch

/-- The system that a program runs on. By default nobody has a home on it, only a text can be given
as the name of a file, and a wait can be of any length. -/
structure Host where
  /-- The home directories of users. The user whose program it is goes by the empty name. -/
  homes : List (String × String) := []
  takesBytes : Bool := false
  longestWait? : Option Float := none

namespace Host

def home? (h : Host) (user : String) : Option String :=
  (h.homes.find? (·.1 = user)).map (·.2)

/-- A host on which names are bytes, and waits are counted in 63 bits of nanoseconds. -/
def posix (homes : List (String × String)) : Host :=
  { homes, takesBytes := true, longestWait? := some 9223372036.854774 }

end Host

end TreeWatch
