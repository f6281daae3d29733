import TreeWatch.Text.Quoted

/-!
# Tokens

What a document is made of before its structure is seen.
-/

namespace TreeWatch.Yaml

/-- The text of a scalar. Only escapes can bring in halves of surrogate pairs that stand alone; such
a text is kept by its code points. -/
inductive ScalarText where
  | whole (text : String)
  | halves (codes : List Nat)
  deriving DecidableEq

def ScalarText.ofCodes (codes : List Nat) : ScalarText :=
  if codes.any Text.isHalf then .halves codes else .whole (String.ofList (codes.map Char.ofNat))

/-- What a line that begins with a percent sign says. -/
inductive Directive where
  | version (major : Nat)
  | handle (name target : String)
  | other
  deriving DecidableEq

inductive Token where
  | directive (d : Directive)
  | documentStart
  | documentEnd
  | blockSequenceStart
  | blockMappingStart
  | blockEnd
  | flowSequenceStart
  | flowSequenceEnd
  | flowMappingStart
  | flowMappingEnd
  | key
  | value
  | blockEntry
  | flowEntry
  | alias (name : String)
  | anchor (name : String)
  | tag (handle : Option String) (suffix : String)
  | scalar (isPlain : Bool) (text : ScalarText)
  deriving DecidableEq

end TreeWatch.Yaml
