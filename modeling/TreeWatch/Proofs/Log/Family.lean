import TreeWatch.Proofs.Log.Muting

/-!
# The family of loggers

A logger belongs to the family if its name is that of the family, or leads on from it by a dot that
is not followed by another. Whichever other loggers are known, each search upwards ends at the
family then, since what it passes has such a name too.
-/

namespace TreeWatch.Log

/-- A name that is led up to that of the family by single dots. -/
def IsOfFamily (name : String) : Prop :=
  name = family ∨
    ∃ rest : List Char, name.toList = family.toList ++ '.' :: rest ∧ rest.head? ≠ some '.'

theorem isOfFamily_loggerName {name : String} (h : name.toList.head? ≠ some '.') :
    IsOfFamily (loggerName (some name)) := by
  by_cases hempty : name = ""
  · subst hempty
    exact .inl rfl
  · refine .inr ⟨name.toList, ?_, h⟩
    simp [loggerName]

/-! ## Cuts -/

theorem lt_and_getElem?_of_mem_cutsBelow {name : List Char} {limit place : Nat}
    (h : place ∈ cutsBelow name limit) : place < limit ∧ name[place]? = some '.' := by
  fun_induction cutsBelow name limit with
  | case1 | case2 => simp at h
  | case3 limit hdot ih =>
      rcases List.mem_cons.mp h with rfl | h
      · exact ⟨by omega, hdot⟩
      · exact ⟨by have := (ih h).1; omega, (ih h).2⟩
  | case4 limit hdot ih => exact ⟨by have := (ih h).1; omega, (ih h).2⟩

/-- A dot is a cut unless another one follows it. -/
theorem mem_cutsBelow {name : List Char} {limit place : Nat} (pos : 0 < place)
    (lt : place < limit) (dot : name[place]? = some '.') (single : name[place + 1]? ≠ some '.') :
    place ∈ cutsBelow name limit := by
  fun_induction cutsBelow name limit with
  | case1 | case2 => omega
  | case3 limit hdot ih =>
      by_cases hplace : place = limit + 1
      · rw [hplace]
        exact List.mem_cons_self
      · refine List.mem_cons_of_mem _ (ih ?_)
        -- The dot right before this one is passed over, and it cannot be the one looked for.
        have : place ≠ limit := by
          rintro rfl
          exact single hdot
        omega
  | case4 limit hdot ih =>
      have : place ≠ limit + 1 := by
        rintro rfl
        exact hdot dot
      exact ih (by omega)

/-! ## Searches -/

section Search

variable {name : String} {rest : List Char}
  (above : name.toList = family.toList ++ '.' :: rest) (single : rest.head? ≠ some '.')

include above single

theorem family_mem_cuts :
    family ∈ (cutsBelow name.toList name.toList.length).map
      fun place => String.ofList (name.toList.take place) := by
  refine List.mem_map.mpr ⟨family.toList.length, mem_cutsBelow (by decide) ?_ ?_ ?_, ?_⟩
  · rw [above, List.length_append, List.length_cons]
    omega
  · rw [above, List.getElem?_append_right (Nat.le_refl _), Nat.sub_self]
    rfl
  · rw [above, List.getElem?_append_right (Nat.le_succ _), Nat.succ_sub (Nat.le_refl _),
      Nat.sub_self]
    rwa [List.getElem?_cons_succ, ← List.head?_eq_getElem?]
  · rw [above, List.take_left, String.ofList_toList]

/-- What a search passes is shorter and led up to the family as well. -/
theorem isOfFamily_of_mem_cuts {other : String}
    (mem : other ∈ (cutsBelow name.toList name.toList.length).map
      fun place => String.ofList (name.toList.take place)) :
    IsOfFamily other ∧ other.length < name.length := by
  obtain ⟨place, hplace, rfl⟩ := List.mem_map.mp mem
  obtain ⟨hlt, hdot⟩ := lt_and_getElem?_of_mem_cutsBelow hplace
  have hlength : (String.ofList (name.toList.take place)).length < name.length := by
    rw [String.length_ofList, List.length_take, ← String.length_toList]
    omega
  refine ⟨?_, hlength⟩
  have hfamily : family.toList = ['d', 'i', 'r', 'p', 'o', 'l', 'l'] := by decide
  by_cases hbehind : place ≤ 7
  · -- There is no dot within the name of the family.
    have hplace : place = 7 := by
      rw [above, hfamily] at hdot
      match place, hdot with
      | 7, _ => rfl
    left
    rw [hplace, above, hfamily, ← String.ofList_toList (s := family), hfamily]
    rfl
  · obtain ⟨more, hmore⟩ : ∃ more, place = 8 + more := ⟨place - 8, by omega⟩
    have hfirst : more ≠ 0 := by
      rintro rfl
      rw [above, hfamily, hmore] at hdot
      exact single (by rw [List.head?_eq_getElem?]; exact hdot)
    right
    refine ⟨rest.take more, ?_, ?_⟩
    · have hplace : place = family.toList.length + (more + 1) := by rw [hfamily, hmore]; simp; omega
      rw [String.toList_ofList, above, hplace, List.take_length_add_append, List.take_succ_cons]
    · cases rest with
      | nil => simp
      | cons c others =>
          obtain ⟨n, rfl⟩ := Nat.exists_eq_succ_of_ne_zero hfirst
          exact single

end Search

/-- A search for the family ends there, whoever else is known. -/
theorem leadsUp_of_isOfFamily (known : List String) {name : String} (h : IsOfFamily name)
    {fuel : Nat} (enough : name.length < fuel) : leadsUp known fuel name = true := by
  induction fuel generalizing name with
  | zero => omega
  | succ fuel ih =>
      rw [leadsUp]
      by_cases hname : name = family
      · simp [hname]
      · obtain hfamily | ⟨rest, above, single⟩ := h
        · exact absurd hfamily hname
        · have hfound : (parent? known name).isSome = true := by
            rw [parent?, List.find?_isSome]
            exact ⟨family, family_mem_cuts above single, by simp⟩
          obtain ⟨other, hother⟩ := Option.isSome_iff_exists.mp hfound
          have hmem := List.mem_of_find?_eq_some hother
          obtain ⟨hofFamily, hshorter⟩ := isOfFamily_of_mem_cuts above single hmem
          simp [hother, ih hofFamily (by omega)]

theorem belongs_of_isOfFamily (known : List String) {name : String} (h : IsOfFamily name) :
    belongs known name = true :=
  leadsUp_of_isOfFamily known h (Nat.lt_succ_self _)

end TreeWatch.Log
