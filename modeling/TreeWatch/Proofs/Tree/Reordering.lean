import TreeWatch.Proofs.Settings.Reading
import TreeWatch.Proofs.Tree.Arranging
import TreeWatch.Proofs.Tree.Relabelling

/-!
# Worlds made in another order

Entries of a directory stand in the order in which they were made, and files have their numbers in
that order. Two worlds that differ in this alone answer every question alike, and they go on to
differ in this alone whatever is done in both.
-/

namespace TreeWatch

namespace Node

theorem content_arranged (n : Node) : n.arranged.content = n.content := by
  cases n <;> rfl

theorem content_relabel {ρ : Nat → Nat} (n : Node) : (n.relabel ρ).content = n.content := by
  cases n <;> rfl

end Node

namespace World

/-- The worlds differ in the order in which the entries of directories were made, and in the numbers
that files have got, at most. -/
structure Reordered (ρ : Nat → Nat) (w v : World) : Prop where
  injective : Function.Injective ρ
  root : v.root.arranged = (w.root.relabel ρ).arranged
  fresh : ∀ k, ρ (w.nextSerial + k) = v.nextSerial + k
  stamps : ∀ serial, v.stamps (ρ serial) = w.stamps serial
  same : v = { w with root := v.root, nextSerial := v.nextSerial, stamps := v.stamps }

namespace Reordered

variable {ρ : Nat → Nat} {w v : World}

theorem eq_of_aside (h : Reordered ρ w v) {α : Type} {q : World → α}
    (aside : ∀ (u : World) root serial stamps,
      q { u with root, nextSerial := serial, stamps } = q u) : q v = q w := by
  rw [h.same, aside]

theorem recast_eq (h : Reordered ρ w v) :
    v.recast Node.arranged =
      { w.recast (fun n => (n.relabel ρ).arranged) with
        nextSerial := v.nextSerial, stamps := v.stamps } := by
  have hroot := h.root
  rw [h.same]
  exact congrArg
    (fun root => ({ w with root, nextSerial := v.nextSerial, stamps := v.stamps } : World)) hroot

theorem faithful (ρ : Nat → Nat) : Node.Faithful fun n => (n.relabel ρ).arranged :=
  Node.faithful_arranged.comp Node.faithful_relabel

theorem time (ρ : Nat → Nat) (n : Node) : (n.relabel ρ).arranged.time = n.time :=
  (Node.unseen_arranged.time _).trans (Node.time_relabel n)

/-- A question has the same answer in both worlds if it is neither about the order of entries nor
about numbers of files. -/
theorem eq_of_blind (h : Reordered ρ w v) {α : Type} {q : World → α}
    (blind : ∀ {f : Node → Node}, Node.Faithful f → (∀ n, (f n).content = n.content) →
      (∀ n, (f n).time = n.time) → ∀ u, q (World.recast f u) = q u)
    (unnumbered : ∀ (u : World) serial stamps, q { u with nextSerial := serial, stamps } = q u) :
    q v = q w := by
  have hcontents : ∀ n : Node, ((n.relabel ρ).arranged).content = n.content := fun n =>
    (Node.content_arranged _).trans (Node.content_relabel n)
  rw [← blind Node.faithful_arranged Node.content_arranged Node.unseen_arranged.time v, h.recast_eq,
    unnumbered, blind (faithful ρ) hcontents (time ρ)]

/-! ## Questions -/

theorem findings (h : Reordered ρ w v) (scope : Scope) (root : Path) :
    Walk.findings v scope root = Walk.findings w scope root :=
  h.eq_of_blind (q := (Walk.findings · scope root))
    (fun faithful _ times u => Walk.findings_recast faithful times u scope root) fun _ _ _ => rfl

theorem validate (h : Reordered ρ w v) (r : Request) : r.validate v = r.validate w :=
  h.eq_of_blind (q := r.validate) (fun faithful _ _ u => r.validate_recast faithful u)
    fun _ _ _ => rfl

theorem allFiles (h : Reordered ρ w v) (project named : Option Path) :
    Settings.allFiles v project named = Settings.allFiles w project named :=
  h.eq_of_blind (q := (Settings.allFiles · project named))
    (fun faithful _ _ u => Settings.allFiles_recast faithful u project named) fun _ _ _ => rfl

theorem entriesOfFile (h : Reordered ρ w v) (p : Path) :
    Settings.entriesOfFile v p = Settings.entriesOfFile w p :=
  h.eq_of_blind (q := (Settings.entriesOfFile · p))
    (fun faithful contents _ u => Settings.entriesOfFile_recast faithful contents u p)
    fun _ _ _ => rfl

theorem openNode (h : Reordered ρ w v) (p : Path) :
    (∃ e, w.openNode p = .error e ∧ v.openNode p = .error e) ∨
      ∃ n m, w.openNode p = .ok n ∧ v.openNode p = .ok m ∧
        m.arranged = (n.relabel ρ).arranged := by
  have hnode : (v.openNode p).map Node.arranged =
      (w.openNode p).map fun n => (n.relabel ρ).arranged := by
    rw [← openNode_recast Node.faithful_arranged, ← openNode_recast (faithful ρ), h.recast_eq]
    rfl
  cases hw : w.openNode p <;> cases hv : v.openNode p <;> simp_all [Except.map]

theorem find (h : Reordered ρ w v) (p : Path) :
    ((∃ e, w.find p = .error e) ∧ ∃ e, v.find p = .error e) ∨
      (∃ place, w.find p = .ok place) ∧ ∃ place, v.find p = .ok place := by
  have hfind : (v.find p).map Prod.fst = (w.find p).map Prod.fst := by
    refine h.eq_of_blind (q := fun u => (u.find p).map Prod.fst) ?_ fun _ _ _ => rfl
    intro f faithful _ _ u
    rw [find_recast faithful]
    cases u.find p <;> rfl
  cases hw : w.find p <;> cases hv : v.find p <;> simp_all [Except.map]

theorem creationPlace (h : Reordered ρ w v) (links : Nat) (here : List String) (p : Path) :
    v.creationPlace links here p = w.creationPlace links here p :=
  h.eq_of_blind (q := fun u => u.creationPlace links here p)
    (fun faithful _ _ u => creationPlace_recast faithful u links here p)
    fun _ _ _ => World.creationPlace_congr (by rfl) links here p

/-! ## Changes -/

theorem edit (h : Reordered ρ w v) (change : Edit) :
    Reordered ρ (w.edit change) (v.edit change) where
  injective := h.injective
  root := by
    have hserial : ρ w.nextSerial = v.nextSerial := h.fresh 0
    have happly := Node.arranged_apply_congr h.root v.nextSerial change
    rwa [← hserial, ← Node.relabel_apply, hserial] at happly
  fresh k := by
    have hnext := h.fresh (k + 1)
    simp only [World.edit]
    rwa [Nat.add_right_comm, Nat.add_right_comm v.nextSerial]
  stamps := h.stamps
  same := by
    rw [h.same]
    rfl

theorem changeDirectory (h : Reordered ρ w v) (path : List String) :
    Reordered ρ { w with directory := path } { v with directory := path } where
  injective := h.injective
  root := h.root
  fresh := h.fresh
  stamps := h.stamps
  same := by
    rw [h.same]

theorem setVariable (h : Reordered ρ w v) (name : String) (value : Option String) :
    Reordered ρ (w.setVariable name value) (v.setVariable name value) where
  injective := h.injective
  root := h.root
  fresh := h.fresh
  stamps := h.stamps
  same := by
    rw [h.same]
    rfl

theorem appendTo (h : Reordered ρ w v) (serial : Nat) (bytes : Bytes) :
    Reordered ρ (w.appendTo serial bytes) (v.appendTo (ρ serial) bytes) where
  injective := h.injective
  root := by
    have happend := Node.entrywise_appendTo (ρ serial) bytes (w.stamps serial 0)
    have hroot : (v.root.appendTo (ρ serial) bytes (w.stamps serial 0)).arranged =
        ((w.root.relabel ρ).appendTo (ρ serial) bytes (w.stamps serial 0)).arranged := by
      rw [happend.arranged, happend.arranged, h.root]
    rw [← Node.relabel_appendTo h.injective] at hroot
    exact (congrArg (fun time? => (v.root.appendTo (ρ serial) bytes time?).arranged)
      (congrFun (h.stamps serial) 0)).trans hroot
  fresh := h.fresh
  stamps n := by
    simp only [World.appendTo, stampsAfter, h.injective.eq_iff, h.stamps]
  same := by
    rw [h.same]
    rfl

theorem skipSerial (h : Reordered ρ w v) :
    Reordered ρ { w with nextSerial := w.nextSerial + 1 }
      { v with nextSerial := v.nextSerial + 1 } where
  injective := h.injective
  root := h.root
  fresh := (h.edit (.remove [])).fresh
  stamps := h.stamps
  same := by
    rw [h.same]

theorem openAppend (h : Reordered ρ w v) (p : Path) :
    (∃ e, w.openAppend p = .error e ∧ v.openAppend p = .error e) ∨
      ∃ serial w' v', w.openAppend p = .ok (serial, w') ∧ v.openAppend p = .ok (ρ serial, v') ∧
        Reordered ρ w' v' := by
  have hnew : ∀ u : World, (.ok (v.nextSerial, u) : Except Errno (Nat × World)) =
      .ok (ρ w.nextSerial, u) := by
    intro u
    have hfresh : ρ w.nextSerial = v.nextSerial := h.fresh 0
    rw [hfresh]
  unfold World.openAppend
  rcases h.openNode p with ⟨e, hw, hv⟩ | ⟨n, m, hw, hv, hsame⟩
  · rw [hw, hv]
    by_cases he : e = .notFound
    · subst he
      dsimp only
      rcases h.find p with ⟨⟨_, hw⟩, _, hv⟩ | ⟨⟨_, hw⟩, _, hv⟩
      · -- Nothing is there yet: the file is made in both worlds, with the next number.
        have hdirectory : v.directory = w.directory :=
          h.eq_of_aside (q := World.directory) fun _ _ _ _ => rfl
        simp only [hw, hv]
        rw [hdirectory, h.creationPlace]
        cases w.creationPlace Lookup.linkLimit w.directory p with
        | error e => exact .inl ⟨e, rfl, rfl⟩
        | ok names =>
            exact .inr ⟨_, _, _, rfl, hnew _, h.edit _⟩
      · simp only [hw, hv]
        exact .inl ⟨_, rfl, rfl⟩
    · cases e with
      | notFound => exact absurd rfl he
      | _ => exact .inl ⟨_, rfl, rfl⟩
  · rw [hw, hv]
    refine .inr ?_
    cases n with
    | file a serial content =>
        cases m with
        | file =>
            simp only [Node.arranged, Node.relabel, Node.file.injEq] at hsame
            obtain ⟨-, rfl, -⟩ := hsame
            exact ⟨serial, w, v, rfl, rfl, h⟩
        | directory | link | special => simp [Node.arranged, Node.relabel] at hsame
    | directory | link | special =>
        cases m with
        | file => simp [Node.arranged, Node.relabel] at hsame
        | directory | link | special =>
            exact ⟨_, _, _, rfl, hnew _, h.skipSerial⟩

end Reordered

end World

end TreeWatch
