/-!
# Text in lines

Words put into lines that are as full as a width allows. A word that is longer than a whole line is
cut.
-/

namespace TreeWatch.Text.Wrap

/-- A word, or the space between two words. -/
abbrev Chunk := List Char

def chunksOf (text : String) : List Chunk :=
  (((text.splitOn " ").map String.toList).intersperse [' ']).filter (· ≠ [])

def isSpace (c : Chunk) : Bool :=
  c.all (· = ' ')

/-- The chunks that fit on a line of which so much is taken, and the others. -/
def fitting (width : Nat) : Nat → List Chunk → List Chunk × List Chunk
  | _, [] => ([], [])
  | taken, c :: rest =>
    if taken + c.length ≤ width then
      let (line, rest) := fitting width (taken + c.length) rest
      (c :: line, rest)
    else ([], c :: rest)

def lengthOf (line : List Chunk) : Nat :=
  line.flatten.length

/-- A line with the start of the next chunk, if that is too long for any line, and the other
chunks. -/
def cutLong (width : Nat) (line : List Chunk) : List Chunk → List Chunk × List Chunk
  | [] => (line, [])
  | c :: rest =>
    if width < c.length then
      let room := width - lengthOf line
      (line ++ [c.take room], c.drop room :: rest)
    else (line, c :: rest)

def withoutEnd (line : List Chunk) : List Chunk :=
  if line.getLast?.any isSpace then line.dropLast else line

def withoutStart : List Chunk → List Chunk
  | [] => []
  | c :: rest => if isSpace c then rest else c :: rest

def linesOf (width : Nat) : Nat → List Chunk → List String
  | 0, _ => []
  | fuel + 1, chunks =>
    match withoutStart chunks with
    | [] => []
    | chunks =>
      let (line, rest) := fitting width 0 chunks
      let (line, rest) := cutLong width line rest
      let line := withoutEnd line
      let lines := linesOf width fuel rest
      if line.isEmpty then lines else String.ofList line.flatten :: lines

end Wrap

def wrap (width : Nat) (text : String) : List String :=
  let chunks := Wrap.chunksOf text
  Wrap.linesOf width (chunks.length + text.length + 1) chunks

end TreeWatch.Text
