import TreeWatch.Proofs.Watch.Contents

/-!
# Questions about paths

Whether something exists, what it is and where a new file is made: none of this depends on the
content of files or on their times. Only reading does, and only on the content of the file that is
read.
-/

namespace TreeWatch

variable {e : Erasure} {serials : List Nat}

namespace World

theorem blank_blank_of_subset {e' : Erasure} {more : List Nat} (he : e ≤ e') (h : serials ⊆ more)
    (w : World) : (w.blank e serials).blank e' more = w.blank e' more := by
  have hstamps : e'.eraseStamps more (e.eraseStamps serials w.stamps) =
      e'.eraseStamps more w.stamps := by
    refine Erasure.eraseStamps_eq_iff.mpr fun serial => ?_
    by_cases hforgotten : e = .contentAndTime ∧ serial ∈ serials
    · obtain ⟨rfl, hserial⟩ := hforgotten
      exact .inl ⟨by rcases he with he | he <;> simp_all, h hserial⟩
    · refine .inr (funext fun k => ?_)
      exact if_neg hforgotten
  simp only [blank, Node.blank_blank_of_subset he h, hstamps]

theorem blank_blank (w : World) : (w.blank e serials).blank e serials = w.blank e serials :=
  blank_blank_of_subset (Erasure.le_refl e) (List.Subset.refl serials) w

/-- Worlds that differ in some files alone do not differ when more files are emptied, or more of
them is forgotten. -/
theorem blank_eq_of_subset {w w' : World} {e' : Erasure} {more : List Nat} (he : e ≤ e')
    (h : serials ⊆ more) (same : w.blank e serials = w'.blank e serials) :
    w.blank e' more = w'.blank e' more := by
  rw [← blank_blank_of_subset he h, same, blank_blank_of_subset he h]

theorem eq_of_blank_eq {α : Type} {f : World → α} (blind : ∀ v, f (v.blank e serials) = f v)
    {w w' : World} (same : w.blank e serials = w'.blank e serials) : f w' = f w := by
  rw [← blind w', ← same, blind w]

/-! ## What is asked -/

theorem isTooLong_congr {w v : World} (h : v.host = w.host) : v.isTooLong = w.isTooLong := by
  funext seconds
  rw [isTooLong, isTooLong, h]

theorem exists?_blank (w : World) (p : Path) : (w.blank e serials).exists? p = w.exists? p :=
  exists?_recast Node.faithful_blank w p

theorem openNode_blank (w : World) (p : Path) :
    (w.blank e serials).openNode p = (w.openNode p).map (Node.blank e serials) :=
  openNode_recast Node.faithful_blank w p

/-! ## What is read -/

def serialAt? (w : World) (p : Path) : Option Nat :=
  match w.find p with
  | .ok (_, .file _ serial _) => some serial
  | _ => none

theorem serialAt?_blank (w : World) (p : Path) :
    (w.blank e serials).serialAt? p = w.serialAt? p := by
  unfold serialAt?
  rw [find_blank]
  cases w.find p with
  | error err => rfl
  | ok place =>
      obtain ⟨names, n⟩ := place
      cases n with
      | file a serial content =>
          obtain ⟨b, more, hblank⟩ := Node.exists_blank_file e serials a serial content
          simp only [Except.map, Lookup.Place.recast, hblank]
      | directory | link | special => rfl

theorem readFile_blank {w : World} {p : Path}
    (spared : ∀ serial ∈ w.serialAt? p, serial ∉ serials) :
    (w.blank e serials).readFile p = w.readFile p := by
  unfold serialAt? at spared
  unfold readFile openNode
  rw [find_blank]
  cases hfind : w.find p with
  | error e => rfl
  | ok place =>
      obtain ⟨names, n⟩ := place
      simp only [Except.map, Lookup.Place.recast, bind, Except.bind, Node.faults_blank,
        Node.isDirectory_blank]
      cases n.faults.openFile with
      | some e => rfl
      | none =>
          dsimp only
          cases n with
          | file a serial content =>
              have hspared : serial ∉ serials := spared serial (by rw [hfind]; rfl)
              rw [Node.blank_file_of_notMem hspared]
          | directory | link | special => rfl

/-! ## What is opened to be added to -/

theorem creationPlace_blank (w : World) (links : Nat) (here : List String) (p : Path) :
    (w.blank e serials).creationPlace links here p = w.creationPlace links here p := by
  have hroot : (w.blank e serials).root = (w.recast (Node.blank e serials)).root := rfl
  rw [creationPlace_congr hroot, creationPlace_recast Node.faithful_blank]

/-- The same file is opened, or made, and nothing else happens to the world. -/
theorem openAppend_blank (w : World) (p : Path) :
    ((w.blank e serials).openAppend p).map (fun r => (r.1, r.2.blank e serials)) =
      (w.openAppend p).map (fun r => (r.1, r.2.blank e serials)) := by
  unfold openAppend
  rw [openNode_blank]
  cases w.openNode p with
  | ok n =>
      cases n with
      | file a serial content =>
          obtain ⟨b, more, hblank⟩ := Node.exists_blank_file e serials a serial content
          simp only [Except.map, hblank, blank_blank]
      | directory | link | special =>
          have hsame : (w.blank e serials).blank e serials = w.blank e serials := blank_blank w
          exact congrArg (fun v : World =>
            Except.ok (w.nextSerial, { v with nextSerial := w.nextSerial + 1 })) hsame
  | error err =>
      cases err <;> try rfl
      simp only [Except.map, find_blank]
      cases w.find p with
      | ok place => rfl
      | error err =>
          have hedit : ∀ names,
              ((w.blank e serials).edit (.write names [] defaultTime)).blank e serials =
                (w.edit (.write names [] defaultTime)).blank e serials :=
            fun names => edit_congr (blank_blank w) _
          have hdirectory : (w.blank e serials).directory = w.directory := rfl
          simp only [hdirectory, creationPlace_blank]
          cases w.creationPlace Lookup.linkLimit w.directory p with
          | error err => rfl
          | ok names =>
              simp only [bind, Except.bind, hedit]
              rfl

theorem openAppend_congr {w w' : World} (h : w.blank e serials = w'.blank e serials) (p : Path) :
    (w.openAppend p).map (fun r => (r.1, r.2.blank e serials)) =
      (w'.openAppend p).map (fun r => (r.1, r.2.blank e serials)) := by
  rw [← openAppend_blank w, h, openAppend_blank w']

/-! ## What is added -/

theorem stampsAfter_congr {w w' : World} {n : Nat} (h : w.stamps n = w'.stamps n) (serial : Nat) :
    w.stampsAfter serial n = w'.stampsAfter serial n := by
  unfold stampsAfter
  rw [h]

theorem appendTo_congr {w w' : World} (h : w.blank e serials = w'.blank e serials) (serial : Nat)
    (bytes : Bytes) :
    (w.appendTo serial bytes).blank e serials = (w'.appendTo serial bytes).blank e serials := by
  obtain ⟨root, next, directory, environment, platform, onTerminal, now, host, stamps⟩ := w
  obtain ⟨root', next', directory', environment', platform', onTerminal', now', host',
    stamps'⟩ := w'
  simp only [blank, mk.injEq] at h
  obtain ⟨hroot, rfl, rfl, rfl, rfl, rfl, rfl, rfl, hstamps⟩ := h
  rw [Erasure.eraseStamps_eq_iff] at hstamps
  have hnode : (root.appendTo serial bytes (stamps serial 0)).blank e serials =
      (root'.appendTo serial bytes (stamps' serial 0)).blank e serials := by
    rcases hstamps serial with ⟨rfl, hserial⟩ | hserial
    · rw [Node.blank_appendTo hserial, hroot, Node.blank_appendTo hserial]
    · rw [Node.blank_appendTo_blank, hroot, hserial, ← Node.blank_appendTo_blank]
  simp only [appendTo, blank, hnode, mk.injEq, Erasure.eraseStamps_eq_iff, true_and]
  intro n
  rcases hstamps n with hforgotten | hn
  · exact .inl hforgotten
  · exact .inr (stampsAfter_congr hn serial)

/-- Whichever line is added to a file that is emptied, the world is the same. -/
theorem blank_appendTo_congr {serial : Nat} (h : serial ∈ serials) (w : World)
    (bytes bytes' : Bytes) :
    (w.appendTo serial bytes).blank e serials = (w.appendTo serial bytes').blank e serials := by
  simp only [blank, appendTo, Node.blank_appendTo_congr h bytes bytes']

/-- A line that is added to a file makes no difference if its time is forgotten too. -/
theorem blank_appendTo {serial : Nat} (h : serial ∈ serials) (bytes : Bytes) (w : World) :
    (w.appendTo serial bytes).blank .contentAndTime serials = w.blank .contentAndTime serials := by
  have hstamps : Erasure.contentAndTime.eraseStamps serials (w.stampsAfter serial) =
      Erasure.contentAndTime.eraseStamps serials w.stamps := by
    refine Erasure.eraseStamps_eq_iff.mpr fun n => ?_
    by_cases hn : n = serial
    · exact .inl ⟨rfl, hn ▸ h⟩
    · exact .inr (if_neg hn)
  simp only [blank, appendTo, Node.blank_appendTo h, hstamps]

end World

/-! ## What watching asks -/

theorem Request.validate_blank (w : World) (r : Request) :
    r.validate (w.blank e serials) = r.validate w :=
  validate_recast Node.faithful_blank w r

end TreeWatch
