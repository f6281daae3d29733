import TreeWatch.Proofs.Tree.Changing
import TreeWatch.Proofs.Tree.Entrywise
import TreeWatch.Proofs.Tree.Recasting

/-!
# Trees without the content of some files

What is left of a tree when the files of some serial numbers are emptied, and perhaps lose their
times too. What is added to one of these files makes no difference to it, no path leads elsewhere in
it, and changes of the tree do to it what they do to the tree.
-/

namespace TreeWatch

/-- What is forgotten of a file. -/
inductive Erasure where
  | content
  | contentAndTime
  deriving DecidableEq

namespace Erasure

def erase : Erasure → Attributes → Attributes
  | content, a => a
  | contentAndTime, a => { a with time := defaultTime }

/-- The second forgets whatever the first forgets. -/
instance : LE Erasure where
  le e e' := e = content ∨ e' = contentAndTime

variable {e e' : Erasure}

theorem le_refl (e : Erasure) : e ≤ e := by
  cases e with
  | content => exact .inl rfl
  | contentAndTime => exact .inr rfl

theorem le_contentAndTime (e : Erasure) : e ≤ contentAndTime :=
  .inr rfl

@[simp] theorem name_erase (e : Erasure) (a : Attributes) : (e.erase a).name = a.name := by
  cases e <;> rfl

@[simp] theorem faults_erase (e : Erasure) (a : Attributes) : (e.erase a).faults = a.faults := by
  cases e <;> rfl

theorem erase_erase (h : e ≤ e') (a : Attributes) : e'.erase (e.erase a) = e'.erase a := by
  obtain rfl | rfl := h
  · rfl
  · cases e <;> rfl

end Erasure

namespace Node

variable {e : Erasure} {serials : List Nat}

/-- The tree with the files of some serial numbers emptied, and without their times if these are
forgotten as well. -/
def blank (e : Erasure) (serials : List Nat) : Node → Node
  | file a s content => if s ∈ serials then file (e.erase a) s [] else file a s content
  | directory a entries => directory a (blankAll e serials entries)
  | n => n
termination_by structural n => n
where
  blankAll (e : Erasure) (serials : List Nat) : List Node → List Node
    | [] => []
    | n :: rest => blank e serials n :: blankAll e serials rest
  termination_by structural ns => ns

theorem blankAll_eq_map (ns : List Node) :
    blank.blankAll e serials ns = ns.map (blank e serials) := by
  induction ns with
  | nil => rfl
  | cons n rest ih => rw [blank.blankAll, ih, List.map_cons]

@[simp] theorem blank_directory (a : Attributes) (entries : List Node) :
    blank e serials (directory a entries) = directory a (entries.map (blank e serials)) := by
  rw [blank, blankAll_eq_map]

@[simp] theorem blank_link (a : Attributes) (target : String) :
    blank e serials (link a target) = link a target :=
  rfl

@[simp] theorem blank_special (a : Attributes) (kind : SpecialKind) :
    blank e serials (special a kind) = special a kind :=
  rfl

theorem blank_file_of_mem {serial : Nat} (h : serial ∈ serials) (a : Attributes) (content : Bytes) :
    blank e serials (file a serial content) = file (e.erase a) serial [] :=
  if_pos h

theorem blank_file_of_notMem {serial : Nat} (h : serial ∉ serials) (a : Attributes)
    (content : Bytes) : blank e serials (file a serial content) = file a serial content :=
  if_neg h

theorem entrywise_blank : Entrywise (blank e serials) where
  name n := by
    cases n with
    | file a s content => unfold blank; split <;> simp [name, attributes]
    | directory | link | special => rfl
  faults n := by
    cases n with
    | file a s content => unfold blank; split <;> simp [faults, attributes]
    | directory | link | special => rfl
  kind n := by
    cases n with
    | file a s content => unfold blank; split <;> rfl
    | directory | link | special => rfl
  directory := blank_directory

@[simp] theorem faults_blank (n : Node) : (n.blank e serials).faults = n.faults :=
  entrywise_blank.faults n

@[simp] theorem isDirectory_blank (n : Node) :
    (n.blank e serials).isDirectory = n.isDirectory :=
  entrywise_blank.isDirectory n

theorem time_blank (n : Node) : (n.blank .content serials).time = n.time := by
  cases n with
  | file a s content => unfold blank; split <;> rfl
  | directory | link | special => rfl

variable (e serials) in
theorem exists_blank_file (a : Attributes) (serial : Nat) (content : Bytes) :
    ∃ b more, blank e serials (file a serial content) = file b serial more := by
  by_cases h : serial ∈ serials
  · exact ⟨_, _, blank_file_of_mem h a content⟩
  · exact ⟨_, _, blank_file_of_notMem h a content⟩

/-- No question but one for content or times tells the trees apart. -/
theorem faithful_blank : Faithful (blank e serials) where
  toKeepsShape := entrywise_blank.keepsShape
  target? n := by
    cases n with
    | file a s content => unfold blank; split <;> rfl
    | directory | link | special => rfl

theorem blank_nil (n : Node) : n.blank e [] = n := by
  induction n using induction_on_entries with
  | step n ih =>
      cases n with
      | file a s content => exact blank_file_of_notMem List.not_mem_nil a content
      | directory a entries =>
          rw [blank_directory]
          exact congrArg (directory a) ((List.map_congr_left ih).trans (List.map_id entries))
      | link | special => rfl

/-- Emptying some files first makes no difference to emptying more. -/
theorem blank_blank_of_subset {e' : Erasure} {more : List Nat} (he : e ≤ e') (h : serials ⊆ more)
    (n : Node) : (n.blank e serials).blank e' more = n.blank e' more := by
  induction n using induction_on_entries with
  | step n ih =>
      cases n with
      | file a s content =>
          by_cases hs : s ∈ serials
          · rw [blank_file_of_mem hs, blank_file_of_mem (h hs), blank_file_of_mem (h hs),
              Erasure.erase_erase he]
          · rw [blank_file_of_notMem hs]
      | directory a entries =>
          rw [blank_directory, blank_directory, blank_directory, List.map_map]
          exact congrArg (directory a) (List.map_congr_left ih)
      | link | special => rfl

@[simp] theorem blank_blank (n : Node) :
    (n.blank e serials).blank e serials = n.blank e serials :=
  blank_blank_of_subset (Erasure.le_refl e) (List.Subset.refl serials) n

/-! ## The files of a tree -/

/-- The serial numbers of all files of a tree. -/
def fileNumbers : Node → List Nat
  | file _ s _ => [s]
  | directory _ entries => numbersAll entries
  | _ => []
termination_by structural n => n
where
  numbersAll : List Node → List Nat
    | [] => []
    | n :: rest => fileNumbers n ++ numbersAll rest
  termination_by structural ns => ns

theorem fileNumbers_directory (a : Attributes) (entries : List Node) :
    (directory a entries).fileNumbers = entries.flatMap fileNumbers := by
  have hall : ∀ ns : List Node, fileNumbers.numbersAll ns = ns.flatMap fileNumbers := by
    intro ns
    induction ns with
    | nil => rfl
    | cons n rest ih => rw [fileNumbers.numbersAll, ih, List.flatMap_cons]
  rw [fileNumbers, hall]

theorem fileNumbers_blank (n : Node) : (n.blank e serials).fileNumbers = n.fileNumbers := by
  induction n using induction_on_entries with
  | step n ih =>
      cases n with
      | file a s content =>
          obtain ⟨b, more, hfile⟩ := exists_blank_file e serials a s content
          rw [hfile]
          rfl
      | directory a entries =>
          rw [blank_directory, fileNumbers_directory, fileNumbers_directory, List.flatMap_map]
          exact List.flatMap_congr ih
      | link | special => rfl

/-- Nothing is emptied where no such file is. -/
theorem blank_eq_self {n : Node} (apart : n.fileNumbers.Disjoint serials) :
    n.blank e serials = n := by
  induction n using induction_on_entries with
  | step n ih =>
      cases n with
      | file a s content => exact blank_file_of_notMem (apart List.mem_cons_self) a content
      | directory a entries =>
          rw [blank_directory]
          refine congrArg (directory a) ((List.map_congr_left fun m hm => ?_).trans
            (List.map_id entries))
          refine ih m hm fun s hs => apart ?_
          rw [fileNumbers_directory]
          exact List.mem_flatMap_of_mem hm hs
      | link | special => rfl

theorem eq_of_blank_eq {n m : Node} (h : n.blank e serials = m.blank e serials)
    (apart : m.fileNumbers.Disjoint serials) : n = m := by
  have hnumbers : n.fileNumbers = m.fileNumbers := by
    rw [← fileNumbers_blank n, h, fileNumbers_blank]
  rw [← blank_eq_self (e := e) (n := n) (hnumbers ▸ apart), h, blank_eq_self apart]

/-! ## Lines added to files -/

theorem appendTo_directory (serial : Nat) (bytes : Bytes) (time? : Option Int) (a : Attributes)
    (entries : List Node) : (directory a entries).appendTo serial bytes time? =
      directory a (entries.map (·.appendTo serial bytes time?)) :=
  (entrywise_appendTo serial bytes time?).directory a entries

/-- What is added to a file makes no difference if its time is forgotten too. -/
theorem blank_appendTo {serial : Nat} (h : serial ∈ serials) (bytes : Bytes) (time? : Option Int)
    (n : Node) : (n.appendTo serial bytes time?).blank .contentAndTime serials =
      n.blank .contentAndTime serials := by
  induction n using induction_on_entries with
  | step n ih =>
      cases n with
      | file a s content =>
          rw [appendTo]
          split
          · next hs =>
              subst hs
              rw [blank_file_of_mem h, blank_file_of_mem h]
              rfl
          · rfl
      | directory a entries =>
          rw [appendTo_directory, blank_directory, blank_directory, List.map_map]
          exact congrArg (directory a) (List.map_congr_left ih)
      | link | special => rfl

/-- Whichever bytes are added to a file that is emptied, the tree is the same. -/
theorem blank_appendTo_congr {serial : Nat} (h : serial ∈ serials) (bytes bytes' : Bytes)
    (time? : Option Int) (n : Node) :
    (n.appendTo serial bytes time?).blank e serials =
      (n.appendTo serial bytes' time?).blank e serials := by
  induction n using induction_on_entries with
  | step n ih =>
      cases n with
      | file a s content =>
          rw [appendTo, appendTo]
          split
          · next hs => rw [blank_file_of_mem (hs ▸ h), blank_file_of_mem (hs ▸ h)]
          · rfl
      | directory a entries =>
          rw [appendTo_directory, appendTo_directory, blank_directory, blank_directory,
            List.map_map, List.map_map]
          exact congrArg (directory a) (List.map_congr_left ih)
      | link | special => rfl

theorem blank_appendTo_blank (serial : Nat) (bytes : Bytes) (time? : Option Int) (n : Node) :
    (n.appendTo serial bytes time?).blank e serials =
      ((n.blank e serials).appendTo serial bytes time?).blank e serials := by
  induction n using induction_on_entries with
  | step n ih =>
      cases n with
      | file a s content =>
          by_cases hs : s ∈ serials
          · rw [blank_file_of_mem hs, appendTo, appendTo]
            split
            · rw [blank_file_of_mem hs, blank_file_of_mem hs]
              cases e <;> rfl
            · rw [blank_file_of_mem hs, blank_file_of_mem hs,
                Erasure.erase_erase (Erasure.le_refl e)]
          · rw [blank_file_of_notMem hs]
      | directory a entries =>
          rw [appendTo_directory, blank_directory, blank_directory, appendTo_directory,
            blank_directory, List.map_map, List.map_map, List.map_map]
          exact congrArg (directory a) (List.map_congr_left ih)
      | link | special => rfl

/-! ## Changes -/

/-- What attributes become may depend on what is forgotten of them only so far as it is forgotten
again. -/
theorem blank_withAttributes {f : Attributes → Attributes}
    (h : ∀ a, e.erase (f (e.erase a)) = e.erase (f a)) (n : Node) :
    (n.withAttributes f).blank e serials =
      ((n.blank e serials).withAttributes f).blank e serials := by
  cases n with
  | file a s content =>
      by_cases hs : s ∈ serials
      · rw [blank_file_of_mem hs, withAttributes, withAttributes, blank_file_of_mem hs,
          blank_file_of_mem hs, h]
      · rw [blank_file_of_notMem hs]
  | directory a entries => simp [withAttributes]
  | link | special => rfl

theorem blank_put (serial : Nat) (change : Edit) (n? : Option Node) :
    (change.put serial n?).map (blank e serials) =
      (change.put serial (n?.map (blank e serials))).map (blank e serials) := by
  cases change with
  | makeDirectory path time | write path content time =>
      cases n? with
      | none => rfl
      | some n =>
          cases n with
          | file a s content =>
              by_cases hs : s ∈ serials
              · simp [Edit.put, blank_file_of_mem hs, Erasure.erase_erase (Erasure.le_refl e)]
              · simp [Edit.put, blank_file_of_notMem hs]
          | directory a entries => simp [Edit.put]
          | link | special => rfl
  | link | special | remove | rename => rfl
  | touch path time | fault path on errno =>
      cases n? with
      | none => rfl
      | some n => exact congrArg some (blank_withAttributes (fun a => by cases e <;> rfl) n)

theorem blank_alterAt_congr {root root' : Node}
    (h : root.blank e serials = root'.blank e serials) {f f' : Option Node → Option Node}
    (put : ∀ n?,
      (f n?).map (blank e serials) = (f (n?.map (blank e serials))).map (blank e serials))
    (same : ∀ n?, (f n?).map (blank e serials) = (f' n?).map (blank e serials)) (make : Bool)
    (names : List String) :
    (root.alterAt make f names).blank e serials =
      (root'.alterAt make f' names).blank e serials := by
  let g := fun n? => (f n?).map (blank e serials)
  have hput : ∀ n?, (f n?).map (blank e serials) = g (n?.map (blank e serials)) := put
  have hput' : ∀ n?, (f' n?).map (blank e serials) = g (n?.map (blank e serials)) := fun n? =>
    (same n?).symm.trans (put n?)
  rw [entrywise_blank.alterAt make hput, entrywise_blank.alterAt make hput', h]

/-- A change does to a tree with files emptied what it does to the tree, but for what is forgotten
of what it writes. -/
theorem blank_apply_congr {root root' : Node} (h : root.blank e serials = root'.blank e serials)
    (serial : Nat) (change : Edit) :
    (change.apply serial root).blank e serials = (change.apply serial root').blank e serials := by
  cases change with
  | rename path target =>
      have hfound : (root.at? path).map (blank e serials) =
          (root'.at? path).map (blank e serials) := by
        rw [← faithful_blank.at?, ← faithful_blank.at?, h]
      rw [Edit.apply_rename, Edit.apply_rename]
      cases hn : root.at? path with
      | none =>
          cases hn' : root'.at? path with
          | none => exact h
          | some n' => simp [hn, hn'] at hfound
      | some n =>
          cases hn' : root'.at? path with
          | none => simp [hn, hn'] at hfound
          | some n' =>
              have hsame : n.blank e serials = n'.blank e serials := by
                simpa [hn, hn'] using hfound
              have hmoved : (Edit.moved n target).blank e serials =
                  (Edit.moved n' target).blank e serials := by
                have hrenamed : ∀ a : Attributes,
                    e.erase { e.erase a with name := Edit.lastName target } =
                      e.erase { a with name := Edit.lastName target } := by
                  intro a
                  cases e <;> rfl
                rw [Edit.moved, Edit.moved, blank_withAttributes hrenamed, hsame,
                  ← blank_withAttributes hrenamed]
              refine blank_alterAt_congr ?_ (fun _ => rfl) ?_ true target
              · exact blank_alterAt_congr h (fun _ => rfl) (fun _ => rfl) false path
              · exact fun _ => congrArg some hmoved
  | _ =>
      rw [Edit.apply_eq_alterAt serial root (by simp), Edit.apply_eq_alterAt serial root' (by simp)]
      exact blank_alterAt_congr h (blank_put serial _) (fun _ => rfl) _ _

end Node

end TreeWatch
