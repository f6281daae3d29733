/-!
# Paths

A path is what leads it, nothing or a root, and its parts. Reading a path drops empty parts
and single dots; double dots stay, because what they mean depends on links.
-/

namespace TreeWatch

/-- Cuts a list at every separator; there is one piece more than there are separators. -/
def splitAt (separator : Char) : List Char → List (List Char)
  | [] => [[]]
  | c :: cs =>
    if c = separator then [] :: splitAt separator cs
    else
      match splitAt separator cs with
      | [] => [[c]]
      | piece :: pieces => (c :: piece) :: pieces

/-- What stands before the first part of a path. Two slashes are kept apart from one; three
and more are one. -/
inductive Lead where
  | none
  | root
  | doubleRoot
  deriving DecidableEq

namespace Lead

def text : Lead → String
  | none => ""
  | root => "/"
  | doubleRoot => "//"

def ofChars (cs : List Char) : Lead :=
  match (cs.takeWhile (· = '/')).length with
  | 0 => none
  | 2 => doubleRoot
  | _ => root

end Lead

/-- A path as it is written, without the parts that mean nothing. -/
structure Path where
  lead : Lead
  parts : List String
  deriving DecidableEq

namespace Path

def partsOf (text : String) : List String :=
  ((splitAt '/' text.toList).map String.ofList).filter fun part => part ≠ "" && part ≠ "."

def ofText (text : String) : Path :=
  ⟨Lead.ofChars text.toList, partsOf text⟩

/-- Writes a path; the path without parts is a dot. -/
def text (p : Path) : String :=
  if p.lead = .none ∧ p.parts = [] then "." else p.lead.text ++ String.intercalate "/" p.parts

instance : ToString Path := ⟨text⟩

def isAbsolute (p : Path) : Bool :=
  p.lead ≠ .none

/-- The path that leads on from `p`; an absolute one starts afresh. -/
def join (p q : Path) : Path :=
  if q.isAbsolute then q else ⟨p.lead, p.parts ++ q.parts⟩

/-- The path that leads on from `p` by some texts, each read as a path, one after the other. -/
def joinTexts (p : Path) (texts : List String) : Path :=
  texts.foldl (fun p text => p.join (ofText text)) p

def child (p : Path) (part : String) : Path :=
  ⟨p.lead, p.parts ++ [part]⟩

def absolute (parts : List String) : Path :=
  ⟨.root, parts⟩

def hasNul (p : Path) : Bool :=
  p.parts.any fun part => part.toList.contains '\x00'

/-- The text of an entry of the directory that a path text leads to. -/
def entryText (directory name : String) : String :=
  if directory.endsWith "/" then directory ++ name else directory ++ "/" ++ name

/-- The path without double dots as far as its text alone shows: each takes away the part
before it, and at the root it is idle. -/
def normal (p : Path) : Path :=
  ⟨p.lead, p.parts.foldl
    (fun kept part => if part = ".." then kept.dropLast else kept ++ [part]) []⟩

section Home

variable (home? : String → Option String)

/-- What a first part stands for: with a tilde in front, the home of the user whose name follows
it, without the slashes at its end. The part stays if there is no such home. -/
def homeText (part : String) : String :=
  match home? (String.ofList (part.toList.drop 1)) with
  | some dir => String.ofList (dir.toList.reverse.dropWhile (· = '/')).reverse
  | none => part

def expandHomeText (text : String) : String :=
  if text.startsWith "~" then
    let part := String.ofList (text.toList.takeWhile (· ≠ '/'))
    let rest := String.ofList (text.toList.dropWhile (· ≠ '/'))
    let expanded := homeText home? part ++ rest
    if expanded = "" then "/" else expanded
  else text

/-- A path with a leading tilde replaced by a home directory; none if there is no such home. -/
def expandHome? (p : Path) : Option Path :=
  match p.lead, p.parts with
  | .none, first :: rest =>
    if first.startsWith "~" then
      let dir := expandHomeText home? first
      if dir.startsWith "~" then none
      else
        let base := ofText dir
        some ⟨base.lead, base.parts ++ rest⟩
    else some p
  | _, _ => some p

end Home

end Path

end TreeWatch
