import TreeWatch.Yaml.Token
import TreeWatch.Yaml.Mark
import TreeWatch.Yaml.QuotedScalar
import TreeWatch.Yaml.BlockScalar
import TreeWatch.Yaml.PlainScalar

/-!
# From text to tokens

A reader that goes through a text once. A key is known for a key only when its colon comes, so
the place of what may turn out to be one is kept, and the mark of the key is put in there.
Indentation is told by tokens of its own, so that nothing later has to count columns. A problem
hides the tokens that were not yet settled when it was met, because a mark could still have come
before them.
-/

namespace TreeWatch.Yaml

/-- What may turn out to be a key. -/
structure Candidate where
  /-- Whether nothing but a key may stand there. -/
  required : Bool
  /-- The count of tokens before it. -/
  position : Nat
  index : Nat
  line : Nat
  column : Nat

structure Lexer where
  cursor : Cursor
  /-- The tokens so far, the newest first. -/
  tokens : List Token := []
  indent : Int := -1
  /-- The indentations of the blocks around it, the innermost first. -/
  outer : List Int := []
  /-- What may be a key, for the block and for each open bracket, the innermost first. -/
  candidate : Option Candidate := none
  outerCandidates : List (Option Candidate) := []
  keysAllowed : Bool := true

namespace Lexer

/-- Within brackets indentation means nothing. -/
def inFlow (s : Lexer) : Bool :=
  !s.outerCandidates.isEmpty

def push (token : Token) (s : Lexer) : Lexer :=
  { s with tokens := token :: s.tokens }

def insert (position : Nat) (newest : List Token) (s : Lexer) : Lexer :=
  let behind := s.tokens.length - position
  { s with tokens := s.tokens.take behind ++ newest ++ s.tokens.drop behind }

/-- Skips spaces, comments and breaks. After a break outside brackets a key may begin. -/
def skipGap : Nat → Lexer → Lexer
  | 0, s => s
  | fuel + 1, s =>
    let c := s.cursor.skipSpaces.skipComment
    match c.lineBreak? with
    | none => { s with cursor := c }
    | some (_, c) => skipGap fuel { s with cursor := c, keysAllowed := !s.inFlow || s.keysAllowed }

/-- A candidate that can no longer be a key: its line is over, or it is too long. -/
def isStale (c : Cursor) (k : Candidate) : Bool :=
  k.line ≠ c.line || 1024 < c.index - k.index

def dropStale (c : Cursor) : Option Candidate → Except Problem (Option Candidate)
  | some k =>
    if isStale c k then (if k.required then .error .notDocument else .ok none) else .ok (some k)
  | none => .ok none

def dropAllStale (s : Lexer) : Except Problem Lexer := do
  let outerCandidates ← s.outerCandidates.mapM (dropStale s.cursor)
  let candidate ← dropStale s.cursor s.candidate
  .ok { s with candidate, outerCandidates }

/-- The count of the tokens that no mark of a key can be put before any more. -/
def settledCount (s : Lexer) : Nat :=
  (s.candidate :: s.outerCandidates).foldl
    (fun count k => k.elim count fun k => min count k.position) s.tokens.length

def oldest (count : Nat) (s : Lexer) : List Token :=
  s.tokens.drop (s.tokens.length - count)

def dropCandidate (s : Lexer) : Except Problem Lexer :=
  if s.candidate.any (·.required) then .error .notDocument else .ok { s with candidate := none }

def noteCandidate (s : Lexer) : Except Problem Lexer :=
  if s.keysAllowed then do
    let s ← s.dropCandidate
    let c := s.cursor
    let required := !s.inFlow && s.indent = c.column
    .ok { s with candidate := some ⟨required, s.tokens.length, c.index, c.line, c.column⟩ }
  else .ok s

/-- The indentation of the block at a column when those indented more deeply are closed, the
indentations around it, and the tokens with the ends of the closed blocks. -/
def closeDeeper (column indent : Int) (tokens : List Token) :
    List Int → Int × List Int × List Token
  | [] => (indent, [], tokens)
  | wider :: outer =>
    if column < indent then closeDeeper column wider (.blockEnd :: tokens) outer
    else (indent, wider :: outer, tokens)

def closeBlocks (column : Int) (s : Lexer) : Lexer :=
  if s.inFlow then s
  else
    let (indent, outer, tokens) := closeDeeper column s.indent s.tokens s.outer
    { s with indent, outer, tokens }

def openBlock (column : Nat) (s : Lexer) : Bool × Lexer :=
  if s.indent < column then (true, { s with indent := column, outer := s.indent :: s.outer })
  else (false, s)

/-- Opens a block at the place if none is open there. Outside brackets this may happen only where
a key may begin. -/
def ensureBlock (start : Token) (s : Lexer) : Except Problem Lexer :=
  if s.inFlow then .ok s
  else if !s.keysAllowed then .error .notDocument
  else
    match s.openBlock s.cursor.column with
    | (true, s) => .ok (s.push start)
    | (false, s) => .ok s

def advance (token : Token) (width : Nat) (s : Lexer) : Lexer :=
  { s.push token with cursor := Cursor.skip width s.cursor }

def betweenDocuments (s : Lexer) (read : Cursor → Except Problem (Token × Cursor)) :
    Except Problem Lexer := do
  let s ← (s.closeBlocks (-1)).dropCandidate
  let (token, c) ← read s.cursor
  .ok { s.push token with cursor := c, keysAllowed := false }

def openFlow (token : Token) (s : Lexer) : Except Problem Lexer := do
  let s ← s.noteCandidate
  .ok { s.advance token 1 with
    candidate := none, outerCandidates := s.candidate :: s.outerCandidates, keysAllowed := true }

def closeFlow (token : Token) (s : Lexer) : Except Problem Lexer := do
  let s ← s.dropCandidate
  match s.outerCandidates with
  | [] => .error .notDocument
  | candidate :: outerCandidates =>
    .ok { s.advance token 1 with candidate, outerCandidates, keysAllowed := false }

def flowEntry (s : Lexer) : Except Problem Lexer := do
  let s ← s.dropCandidate
  .ok { s.advance .flowEntry 1 with keysAllowed := true }

def blockEntry (s : Lexer) : Except Problem Lexer := do
  let s ← (← s.ensureBlock .blockSequenceStart).dropCandidate
  .ok { s.advance .blockEntry 1 with keysAllowed := true }

def keyMark (s : Lexer) : Except Problem Lexer := do
  let s ← (← s.ensureBlock .blockMappingStart).dropCandidate
  .ok { s.advance .key 1 with keysAllowed := !s.inFlow }

/-- Reads a colon. What may have been a key is one now; without one the key is empty. -/
def valueMark (s : Lexer) : Except Problem Lexer :=
  match s.candidate with
  | some k =>
    let (opened, s) := if s.inFlow then (false, s) else s.openBlock k.column
    let s := s.insert k.position (.key :: if opened then [.blockMappingStart] else [])
    .ok { s.advance .value 1 with candidate := none, keysAllowed := false }
  | none => do
    let s ← s.ensureBlock .blockMappingStart
    .ok { s.advance .value 1 with keysAllowed := !s.inFlow }

/-- Reads something that may be a key or stand before one. -/
def keyPart (s : Lexer) (read : Cursor → Except Problem (Token × Cursor)) :
    Except Problem Lexer := do
  let s ← s.noteCandidate
  let (token, c) ← read s.cursor
  .ok { s.push token with cursor := c, keysAllowed := false }

def quoted (double : Bool) (s : Lexer) : Except Problem Lexer :=
  s.keyPart fun c => (quotedScalar double c).map fun (text, c) => (.scalar false text, c)

def block (fold : Bool) (s : Lexer) : Except Problem Lexer := do
  let s ← s.dropCandidate
  let (text, c) ← blockScalar fold s.indent s.cursor
  .ok { s.push (.scalar false (.whole text)) with cursor := c, keysAllowed := true }

def plain (s : Lexer) : Except Problem Lexer := do
  let s ← s.noteCandidate
  let (text, c, lastBreak) := plainScalar s.inFlow s.indent s.cursor
  .ok { s.push (.scalar true (.whole text)) with cursor := c, keysAllowed := lastBreak }

def documentMark (token : Token) (c : Cursor) : Except Problem (Token × Cursor) :=
  .ok (token, Cursor.skip 3 c)

def token (s : Lexer) (ch : Char) : Except Problem Lexer :=
  let c := s.cursor
  let apart := endsToken (c.peek 1)
  if ch = '%' && c.column = 0 then s.betweenDocuments directiveToken
  else if c.column = 0 && c.beginsMark '-' then s.betweenDocuments (documentMark .documentStart)
  else if c.column = 0 && c.beginsMark '.' then s.betweenDocuments (documentMark .documentEnd)
  else if ch = '[' then s.openFlow .flowSequenceStart
  else if ch = '{' then s.openFlow .flowMappingStart
  else if ch = ']' then s.closeFlow .flowSequenceEnd
  else if ch = '}' then s.closeFlow .flowMappingEnd
  else if ch = ',' then s.flowEntry
  else if ch = '-' && apart then s.blockEntry
  else if ch = '?' && (s.inFlow || apart) then s.keyMark
  else if ch = ':' && (s.inFlow || apart) then s.valueMark
  else if ch = '*' then s.keyPart fun c => (anchorName c).map fun (name, c) => (.alias name, c)
  else if ch = '&' then s.keyPart fun c => (anchorName c).map fun (name, c) => (.anchor name, c)
  else if ch = '!' then s.keyPart tagToken
  else if ch = '|' && !s.inFlow then s.block false
  else if ch = '>' && !s.inFlow then s.block true
  else if ch = '\'' then s.quoted false
  else if ch = '"' then s.quoted true
  else if startsPlain s.inFlow c then s.plain
  else .error .notDocument

def approach (s : Lexer) : Except Problem Lexer := do
  let s := s.skipGap (s.cursor.rest.length + 1)
  match s.cursor.barrier? with
  | some problem => .error problem
  | none => s.dropAllStale

/-- Reads one token and what comes with it, and notes which candidates it leaves. -/
def step (ch : Char) (s : Lexer) : Except Problem Lexer := do
  let s ← (s.closeBlocks s.cursor.column).token ch
  match s.cursor.barrier? with
  | some problem => .error problem
  | none => s.dropAllStale

/-- Goes on to the end of the text. Of the tokens before a problem those stay that are settled. -/
def run : Nat → Lexer → List Token × Option Problem
  | 0, s => (s.tokens, some .notDocument)
  | fuel + 1, s =>
    let settled := s.oldest s.settledCount
    match s.approach with
    | .error problem => (settled, some problem)
    | .ok s =>
      match s.cursor.head with
      | none =>
        match (s.closeBlocks (-1)).dropCandidate with
        | .error problem => (settled, some problem)
        | .ok s => (s.tokens, none)
      | some ch =>
        match s.step ch with
        | .error problem => (settled, some problem)
        | .ok s => run fuel s

end Lexer

/-- The tokens of a text in order, up to a problem if there is one; `beyond` is that of the text
behind the one that is given. A byte order mark at the start is passed over. -/
def tokens (text : List Char) (beyond : Option Problem) : List Token × Option Problem :=
  let start : Cursor := { rest := text, beyond }
  let start := if start.head = some '\ufeff' then start.next else start
  let (tokens, problem) := Lexer.run (text.length + 1) { cursor := start }
  (tokens.reverse, problem)

end TreeWatch.Yaml
