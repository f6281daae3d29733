import TreeWatch.Text.DecimalDigit
import TreeWatch.Text.Json
import Mathlib.Data.List.Basic

/-!
# Reading JSON

A reader of objects whose values are strings, with all the escapes that there are. It gets back the
fields of every object that is written, whatever characters they hold, and the written form itself
is a single line of printable ASCII.
-/

namespace TreeWatch.Text.Json

/-! ## The reader -/

/-- What a text consists of, blanks apart. -/
inductive Token where
  | opening
  | closing
  | colon
  | comma
  | text (s : String)
  deriving DecidableEq

def unit? (a b c d : Char) : Option Nat := do
  some ((((← hexValue? a) * 16 + (← hexValue? b)) * 16 + (← hexValue? c)) * 16 + (← hexValue? d))

def shortEscape? : Char → Option Char
  | '"' => some '"'
  | '\\' => some '\\'
  | '/' => some '/'
  | 'b' => some '\x08'
  | 'f' => some '\x0c'
  | 'n' => some '\n'
  | 'r' => some '\r'
  | 't' => some '\t'
  | _ => none

def isHighHalf (unit : Nat) : Bool :=
  0xd800 ≤ unit && unit < 0xdc00

def isLowHalf (unit : Nat) : Bool :=
  0xdc00 ≤ unit && unit < 0xe000

def pairChar (high low : Nat) : Char :=
  Char.ofNat (0x10000 + (high - 0xd800) * 0x400 + (low - 0xdc00))

def isBlank (c : Char) : Bool :=
  c = ' ' || c = '\n' || c = '\r' || c = '\t'

/-- A character in front of the rest of a string and what follows it. -/
def prepend (c : Char) (rest : Option (List Char × List Token)) :
    Option (List Char × List Token) :=
  rest.map fun (cs, tokens) => (c :: cs, tokens)

mutual

def tokens : List Char → Option (List Token)
  | [] => some []
  | '"' :: rest => (insideString rest).map fun (cs, tokens) => .text (String.ofList cs) :: tokens
  | '\x7b' :: rest => (tokens rest).map (.opening :: ·)
  | '\x7d' :: rest => (tokens rest).map (.closing :: ·)
  | ':' :: rest => (tokens rest).map (.colon :: ·)
  | ',' :: rest => (tokens rest).map (.comma :: ·)
  | c :: rest => if isBlank c then tokens rest else none
termination_by structural cs => cs

def insideString : List Char → Option (List Char × List Token)
  | [] => none
  | '"' :: rest => (tokens rest).map fun tokens => ([], tokens)
  | '\\' :: 'u' :: a :: b :: c :: d :: rest =>
    match unit? a b c d with
    | none => none
    | some unit =>
      if isHighHalf unit then
        match rest with
        | '\\' :: 'u' :: e :: f :: g :: h :: rest =>
          match unit? e f g h with
          | some low =>
            if isLowHalf low then prepend (pairChar unit low) (insideString rest) else none
          | none => none
        | _ => none
      else if isLowHalf unit then none
      else prepend (Char.ofNat unit) (insideString rest)
  | '\\' :: c :: rest =>
    match shortEscape? c with
    | some c => prepend c (insideString rest)
    | none => none
  | c :: rest => if c.toNat < 32 then none else prepend c (insideString rest)
termination_by structural cs => cs

end

def fields? : List Token → Option (List (String × String))
  | [.text key, .colon, .text value, .closing] => some [(key, value)]
  | .text key :: .colon :: .text value :: .comma :: rest =>
    (fields? rest).map ((key, value) :: ·)
  | _ => none

def objectOf? (text : String) : Option (List (String × String)) :=
  match tokens text.toList with
  | some (.opening :: rest) => if rest = [.closing] then some [] else fields? rest
  | _ => none

/-! ## Escapes -/

theorem hexPadded_succ {width : Nat} (h : 0 < width) (n : Nat) :
    (hexPadded (width + 1) n).toList =
      (hexPadded width (n / 16)).toList ++ [Nat.digitChar (n % 16)] := by
  unfold hexPadded
  simp only [String.toList_ofList]
  rw [Nat.toDigits_eq_if (by omega)]
  by_cases hn : n < 16
  · obtain ⟨k, rfl⟩ : ∃ k, width = k + 1 := ⟨width - 1, by omega⟩
    have hzero : Nat.toDigits 16 (n / 16) = ['0'] := by
      rw [Nat.div_eq_of_lt hn]
      exact Nat.toDigits_zero 16
    rw [if_pos hn, hzero, Nat.mod_eq_of_lt hn]
    simp [← List.replicate_succ', List.replicate_succ]
  · rw [if_neg hn]
    simp

theorem hexPadded_one {n : Nat} (h : n < 16) : (hexPadded 1 n).toList = [Nat.digitChar n] := by
  unfold hexPadded
  rw [String.toList_ofList, Nat.toDigits_of_lt_base h]
  rfl

theorem toList_unitEscape {n : Nat} (h : n < 0x10000) :
    (unitEscape n).toList =
      ['\\', 'u', Nat.digitChar (n / 16 / 16 / 16), Nat.digitChar (n / 16 / 16 % 16),
        Nat.digitChar (n / 16 % 16), Nat.digitChar (n % 16)] := by
  have hlead : n / 16 / 16 / 16 < 16 := by omega
  have hescape : "\\u".toList = ['\\', 'u'] := rfl
  rw [unitEscape, String.toList_append, hescape, hexPadded_succ (by omega),
    hexPadded_succ (by omega), hexPadded_succ (by omega), hexPadded_one hlead]
  rfl

theorem hexValue?_digitChar {d : Nat} (h : d < 16) : hexValue? (Nat.digitChar d) = some d := by
  have hall : ∀ d : Fin 16, hexValue? (Nat.digitChar d) = some d.val := by decide
  exact hall ⟨d, h⟩

theorem unit?_digits {n : Nat} (h : n < 0x10000) :
    unit? (Nat.digitChar (n / 16 / 16 / 16)) (Nat.digitChar (n / 16 / 16 % 16))
      (Nat.digitChar (n / 16 % 16)) (Nat.digitChar (n % 16)) = some n := by
  unfold unit?
  rw [hexValue?_digitChar (by omega), hexValue?_digitChar (by omega),
    hexValue?_digitChar (by omega), hexValue?_digitChar (by omega)]
  simp only [Option.bind_eq_bind, Option.bind_some, Option.some_inj]
  omega

/-- An escaped unit that is no half of a pair is read as its character. -/
theorem insideString_unitEscape {n : Nat} (h : n < 0x10000) (high : isHighHalf n = false)
    (low : isLowHalf n = false) (rest : List Char) :
    insideString ((unitEscape n).toList ++ rest) = prepend (Char.ofNat n) (insideString rest) := by
  rw [toList_unitEscape h]
  simp only [List.cons_append, List.nil_append]
  rw [insideString]
  simp [unit?_digits h, high, low]

theorem insideString_pair {high low : Nat} (hhigh : isHighHalf high = true)
    (hlow : isLowHalf low = true) (rest : List Char) :
    insideString ((unitEscape high).toList ++ (unitEscape low).toList ++ rest) =
      prepend (pairChar high low) (insideString rest) := by
  have hhigh' : high < 0x10000 := by
    simp [isHighHalf] at hhigh
    omega
  have hlow' : low < 0x10000 := by
    simp [isLowHalf] at hlow
    omega
  rw [toList_unitEscape hhigh', toList_unitEscape hlow']
  simp only [List.cons_append, List.nil_append]
  rw [insideString]
  simp [unit?_digits hhigh', unit?_digits hlow', hhigh, hlow]

/-- A character is no half of a pair. -/
theorem not_half (c : Char) : isHighHalf c.toNat = false ∧ isLowHalf c.toNat = false := by
  have hvalid : c.toNat < 0xd800 ∨ 0xdfff < c.toNat ∧ c.toNat < 0x110000 := c.valid
  simp only [isHighHalf, isLowHalf, Bool.and_eq_false_iff, decide_eq_false_iff_not]
  omega

theorem insideString_plain {c : Char} (quote : c ≠ '"') (backslash : c ≠ '\\')
    (visible : 32 ≤ c.toNat) (rest : List Char) :
    insideString (c :: rest) = prepend c (insideString rest) := by
  rw [insideString]
  · rw [if_neg (by omega)]
  · exact quote
  · rintro _ _ _ _ _ h
    exact absurd h backslash
  · rintro _ _ h
    exact absurd h backslash

theorem insideString_escape (c : Char) (rest : List Char) :
    insideString ((escape c).toList ++ rest) = prepend c (insideString rest) := by
  obtain ⟨hhigh, hlow⟩ := not_half c
  unfold escape
  split
  · next h => exact h ▸ rfl
  · next hquote =>
    split
    · next h => exact h ▸ rfl
    · next hbackslash =>
      split
      · next h => exact h ▸ rfl
      split
      · next h => exact h ▸ rfl
      split
      · next h => exact h ▸ rfl
      split
      · next h => exact h ▸ rfl
      split
      · next h => exact h ▸ rfl
      dsimp only
      split
      · next hvisible =>
        rw [Char.toString_eq_singleton, String.toList_singleton]
        exact insideString_plain hquote hbackslash (by simp at hvisible; omega) rest
      split
      · next hunit => rw [insideString_unitEscape hunit hhigh hlow, Char.ofNat_toNat]
      · next hunit =>
        have hvalid : c.toNat < 0x110000 := by
          have hc : c.toNat < 0xd800 ∨ 0xdfff < c.toNat ∧ c.toNat < 0x110000 := c.valid
          omega
        rw [String.toList_append, insideString_pair]
        · rw [pairChar]
          have hcode : 0x10000 + (0xd800 + (c.toNat - 0x10000) / 0x400 - 0xd800) * 0x400 +
              (0xdc00 + (c.toNat - 0x10000) % 0x400 - 0xdc00) = c.toNat := by
            omega
          rw [hcode, Char.ofNat_toNat]
        · simp only [isHighHalf, Bool.and_eq_true, decide_eq_true_eq]
          omega
        · simp only [isLowHalf, Bool.and_eq_true, decide_eq_true_eq]
          omega

/-! ## Objects -/

theorem insideString_escapes (cs rest : List Char) :
    insideString (cs.flatMap (fun c => (escape c).toList) ++ '"' :: rest) =
      (tokens rest).map fun tokens => (cs, tokens) := by
  induction cs with
  | nil => rfl
  | cons c cs ih =>
      rw [List.flatMap_cons, List.append_assoc, insideString_escape, ih]
      cases tokens rest <;> rfl

theorem toList_string (s : String) :
    (string s).toList = '"' :: (s.toList.flatMap (fun c => (escape c).toList) ++ ['"']) := by
  have hquote : "\"".toList = ['"'] := rfl
  rw [string, String.toList_append, String.toList_append, hquote, String.toList_join,
    List.flatMap_map]
  rfl

theorem tokens_string (s : String) (rest : List Char) :
    tokens ((string s).toList ++ rest) = (tokens rest).map (.text s :: ·) := by
  rw [toList_string, List.cons_append, List.append_assoc, List.singleton_append, tokens,
    insideString_escapes]
  cases tokens rest with
  | none => rfl
  | some tokens => simp [String.ofList_toList]

def fieldText (field : String × String) : String :=
  string field.1 ++ ": " ++ string field.2

theorem tokens_fieldText (field : String × String) (rest : List Char) :
    tokens ((fieldText field).toList ++ rest) =
      (tokens rest).map fun tokens => .text field.1 :: .colon :: .text field.2 :: tokens := by
  have hcolon : ": ".toList = [':', ' '] := rfl
  rw [fieldText, String.toList_append, String.toList_append, hcolon, List.append_assoc,
    List.append_assoc, tokens_string]
  have hblank : tokens (':' :: ' ' :: ((string field.2).toList ++ rest)) =
      ((tokens rest).map (.text field.2 :: ·)).map (.colon :: ·) := by
    rw [tokens, tokens, if_pos (by decide), tokens_string]
    all_goals simp
  rw [List.cons_append, List.cons_append, List.nil_append, hblank, Option.map_map, Option.map_map]
  rfl

/-- Fields with commas between them, up to the closing of the object, are read one by one. -/
theorem fields?_of_tokens (field : String × String) (fields : List (String × String)) :
    (tokens ((String.intercalate ", " ((field :: fields).map fieldText)).toList ++ ['\x7d'])).bind
      fields? = some (field :: fields) := by
  induction fields generalizing field with
  | nil =>
      rw [List.map_singleton, String.intercalate_singleton, tokens_fieldText]
      rfl
  | cons next rest ih =>
      have hcomma : ", ".toList = [',', ' '] := rfl
      have hnext := ih next
      rw [List.map_cons, String.intercalate_cons_of_ne_nil (by simp), String.toList_append,
        String.toList_append, hcomma, List.append_assoc, List.append_assoc, tokens_fieldText]
      have hblank : ∀ cs, tokens (',' :: ' ' :: cs) = (tokens cs).map (.comma :: ·) := by
        intro cs
        rw [tokens, tokens, if_pos (by decide)]
        all_goals simp
      rw [List.cons_append, List.cons_append, List.nil_append, hblank]
      cases htokens : tokens
          ((String.intercalate ", " ((next :: rest).map fieldText)).toList ++ ['\x7d']) with
      | none =>
          rw [htokens] at hnext
          simp at hnext
      | some more =>
          rw [htokens, Option.bind_some] at hnext
          simp [fields?, hnext]

/-- An object is read as the fields with which it was written. -/
theorem objectOf?_object (fields : List (String × String)) :
    objectOf? (object fields) = some fields := by
  have hobject : (object fields).toList =
      '\x7b' :: ((String.intercalate ", " (fields.map fieldText)).toList ++ ['\x7d']) := by
    unfold object
    rw [String.toList_append, String.toList_append]
    rfl
  rw [objectOf?, hobject]
  cases fields with
  | nil => rfl
  | cons field rest =>
      have hfields := fields?_of_tokens field rest
      rw [tokens]
      cases htokens : tokens
          ((String.intercalate ", " ((field :: rest).map fieldText)).toList ++ ['\x7d']) with
      | none =>
          rw [htokens] at hfields
          simp at hfields
      | some more =>
          rw [htokens, Option.bind_some] at hfields
          have hmore : more ≠ [.closing] := by
            rintro rfl
            simp [fields?] at hfields
          rw [Option.map_some]
          dsimp only
          rw [if_neg hmore, hfields]

/-! ## Printable ASCII -/

/-- A character from the blank to the tilde. -/
def IsVisible (c : Char) : Prop :=
  32 ≤ c.toNat ∧ c.toNat ≤ 126

instance (c : Char) : Decidable (IsVisible c) :=
  inferInstanceAs (Decidable (_ ∧ _))

theorem isVisible_of_all {cs : List Char} (h : cs.all (fun c => decide (IsVisible c)) = true) :
    ∀ c ∈ cs, IsVisible c :=
  fun c hc => of_decide_eq_true (List.all_eq_true.mp h c hc)

theorem isVisible_digitChar {d : Nat} (h : d < 16) : IsVisible (Nat.digitChar d) := by
  have hall : ∀ d : Fin 16, IsVisible (Nat.digitChar d) := by decide
  exact hall ⟨d, h⟩

theorem isVisible_unitEscape {n : Nat} (h : n < 0x10000) :
    ∀ c ∈ (unitEscape n).toList, IsVisible c := by
  have hfirst : IsVisible '\\' ∧ IsVisible 'u' := by decide
  rw [toList_unitEscape h]
  simp only [List.forall_mem_cons]
  exact ⟨hfirst.1, hfirst.2, isVisible_digitChar (by omega), isVisible_digitChar (by omega),
    isVisible_digitChar (by omega), isVisible_digitChar (by omega), by simp⟩

theorem isVisible_escape (c : Char) : ∀ d ∈ (escape c).toList, IsVisible d := by
  have hvalid : c.toNat < 0x110000 := by
    have hc : c.toNat < 0xd800 ∨ 0xdfff < c.toNat ∧ c.toNat < 0x110000 := c.valid
    omega
  unfold escape
  split
  · exact isVisible_of_all (by decide)
  split
  · exact isVisible_of_all (by decide)
  split
  · exact isVisible_of_all (by decide)
  split
  · exact isVisible_of_all (by decide)
  split
  · exact isVisible_of_all (by decide)
  split
  · exact isVisible_of_all (by decide)
  split
  · exact isVisible_of_all (by decide)
  dsimp only
  split
  · next hvisible =>
    rw [Char.toString_eq_singleton, String.toList_singleton]
    simpa [IsVisible] using hvisible
  split
  · next hunit => exact isVisible_unitEscape hunit
  · intro d hd
    rw [String.toList_append] at hd
    rcases List.mem_append.mp hd with hhigh | hlow
    · exact isVisible_unitEscape (by omega) d hhigh
    · exact isVisible_unitEscape (by omega) d hlow

theorem isVisible_string (s : String) : ∀ c ∈ (string s).toList, IsVisible c := by
  have hquote : IsVisible '"' := by decide
  rw [toList_string]
  intro c hc
  rcases List.mem_cons.mp hc with rfl | hc
  · exact hquote
  rcases List.mem_append.mp hc with hc | hc
  · obtain ⟨d, -, hd⟩ := List.mem_flatMap.mp hc
    exact isVisible_escape d c hd
  · rwa [List.mem_singleton.mp hc]

theorem isVisible_fieldText (field : String × String) :
    ∀ c ∈ (fieldText field).toList, IsVisible c := by
  have hcolon : ∀ c ∈ ": ".toList, IsVisible c := isVisible_of_all (by decide)
  rw [fieldText, String.toList_append, String.toList_append]
  simp only [List.forall_mem_append]
  exact ⟨⟨isVisible_string field.1, hcolon⟩, isVisible_string field.2⟩

theorem isVisible_intercalate {texts : List String}
    (h : ∀ text ∈ texts, ∀ c ∈ text.toList, IsVisible c) :
    ∀ c ∈ (String.intercalate ", " texts).toList, IsVisible c := by
  have hcomma : ∀ c ∈ ", ".toList, IsVisible c := isVisible_of_all (by decide)
  induction texts with
  | nil => simp
  | cons text rest ih =>
      obtain ⟨htext, hrest⟩ := List.forall_mem_cons.mp h
      cases rest with
      | nil => rwa [String.intercalate_singleton]
      | cons next more =>
          rw [String.intercalate_cons_of_ne_nil (by simp), String.toList_append,
            String.toList_append]
          simp only [List.forall_mem_append]
          exact ⟨⟨htext, hcomma⟩, ih hrest⟩

/-- The written form of an object is one line of printable ASCII. -/
theorem isVisible_object (fields : List (String × String)) :
    ∀ c ∈ (object fields).toList, IsVisible c := by
  have hopening : ∀ c ∈ "\x7b".toList, IsVisible c := isVisible_of_all (by decide)
  have hclosing : ∀ c ∈ "\x7d".toList, IsVisible c := isVisible_of_all (by decide)
  have hfields : ∀ c ∈ (String.intercalate ", " (fields.map fieldText)).toList, IsVisible c := by
    refine isVisible_intercalate ?_
    intro text htext
    obtain ⟨field, -, rfl⟩ := List.mem_map.mp htext
    exact isVisible_fieldText field
  rw [object, String.toList_append, String.toList_append]
  simp only [List.forall_mem_append]
  exact ⟨⟨hopening, hfields⟩, hclosing⟩

end TreeWatch.Text.Json
