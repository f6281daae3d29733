import TreeWatch.Proofs.Watch.Order
import TreeWatch.Proofs.Watch.Settling

/-!
# What the paths of events resolve to

The path of an event is cut at its slashes, and the pieces lead on from the watched directory. None
of them holds a slash, so none is absolute and nothing takes the place of the directory. Empty
pieces and dots vanish, and the others are added in their order. The path of an entry of a snapshot
is made of the names on the way to it, so it resolves to where the walk found that entry.
-/

namespace TreeWatch

namespace Path

/-! ## Joining pieces -/

theorem lead_ofText_of_isPart {text : String} (h : IsPart text) : (ofText text).lead = .none := by
  have hslashes : text.toList.takeWhile (· = '/') = [] := by
    cases hchars : text.toList with
    | nil => rfl
    | cons c cs =>
        have hc : c ≠ '/' := by
          rintro rfl
          exact h (hchars ▸ List.mem_cons_self)
        simp [hc]
  simp [ofText, Lead.ofChars, hslashes]

theorem parts_ofText_of_isPart {text : String} (h : IsPart text) :
    (ofText text).parts = [text].filter fun part => part ≠ "" && part ≠ "." := by
  rw [ofText, partsOf, splitAt_of_not_mem h, List.map_singleton, String.ofList_toList]

theorem joinTexts_of_isPart (p : Path) {texts : List String} (h : ∀ text ∈ texts, IsPart text) :
    p.joinTexts texts = ⟨p.lead, p.parts ++ texts.filter fun part => part ≠ "" && part ≠ "."⟩ := by
  induction texts generalizing p with
  | nil => simp [joinTexts]
  | cons text rest ih =>
      obtain ⟨htext, hrest⟩ := List.forall_mem_cons.mp h
      have hjoin : p.join (ofText text) = ⟨p.lead, p.parts ++ (ofText text).parts⟩ := by
        rw [join, isAbsolute, lead_ofText_of_isPart htext]
        rfl
      calc p.joinTexts (text :: rest)
          = (p.join (ofText text)).joinTexts rest := rfl
        _ = ⟨p.lead, p.parts ++ (ofText text).parts ++ rest.filter _⟩ := by rw [hjoin, ih _ hrest]
        _ = ⟨p.lead, p.parts ++ (text :: rest).filter _⟩ := by
          rw [parts_ofText_of_isPart htext, List.append_assoc, ← List.filter_append,
            List.singleton_append]

end Path

namespace Poller

/-- An event resolves to a path in the watched directory: nothing in its own path takes the place of
the directory, whose parts come first. -/
theorem resolve_eq (p : Poller) (e : Event) :
    p.resolve e = ⟨p.spec.root.lead,
      p.spec.root.parts ++ (components e.path).filter fun part => part ≠ "" && part ≠ "."⟩ :=
  p.spec.root.joinTexts_of_isPart fun _ => isPart_of_mem_splitAt

example : ({ spec := ⟨.absolute [], {}, 1.0⟩ } : Poller).resolve ⟨.created, "/etc/.././/f/"⟩ =
    .absolute ["etc", "..", "f"] := by decide

theorem resolve_of_joined (p : Poller) {e : Event} {names : List String} (nonempty : names ≠ [])
    (valid : ∀ name ∈ names, IsName name) (path : e.path = joined names) :
    p.resolve e = ⟨p.spec.root.lead, p.spec.root.parts ++ names⟩ := by
  have hkept : names.filter (fun part => part ≠ "" && part ≠ ".") = names := by
    refine List.filter_eq_self.mpr fun name hname => ?_
    simp [(valid name hname).1, (valid name hname).2.1]
  have hparts : components e.path = names := by
    rw [path, components_joined nonempty fun name hname => (valid name hname).isPart]
  rw [resolve_eq, hparts, hkept]

end Poller

/-! ## Where entries are found -/

namespace World

/-- The entry that a path names. Links before the last part are followed; the last part is taken for
the name of the entry, which is not followed if it is a link itself. -/
def entryAt? (w : World) (p : Path) : Option Node :=
  match w.find ⟨p.lead, p.parts.dropLast⟩ with
  | .ok (_, n) => n.child? (Edit.lastName p.parts)
  | .error _ => none

theorem entryAt?_append {w : World} {p : Path} {there names : List String} {n m : Node}
    (named : w.root.Named) (found : w.find p = .ok (there, n)) (nonempty : names ≠ [])
    (below : n.at? names = some m) : w.entryAt? ⟨p.lead, p.parts ++ names⟩ = some m := by
  -- The way to the directory that holds the entry is literal, so the path leads on along it.
  obtain ⟨above, name, rfl⟩ := names.eq_nil_or_concat'.resolve_left nonempty
  have hat : w.root.at? there = some n := Lookup.at?_of_find found
  rw [Node.at?_append] at below
  obtain ⟨d, hd, hname⟩ := Option.bind_eq_some_iff.mp below
  have hchild : d.child? name = some m := by simpa [Node.at?] using hname
  have habove : w.root.at? (there ++ above) = some d := by
    rw [Node.at?_append, hat, Option.bind_some, hd]
  have hplain : ∀ part ∈ above, Lookup.IsPlain part := fun part hpart =>
    (named.isFileName_of_at? habove part (List.mem_append_right there hpart)).isPlain
  have hfind : w.find ⟨p.lead, p.parts ++ above⟩ = .ok (there ++ above, d) :=
    Lookup.find_append hplain habove (Node.isDirectory_of_child? hchild) found
  rw [entryAt?, ← List.append_assoc, List.dropLast_concat, hfind]
  simpa [Edit.lastName] using hchild

end World

/-! ## Where snapshots were taken -/

/-- When a request is granted, the path that is kept leads to its directory by its own names. -/
theorem Request.find_of_validate {w : World} {r : Request} {spec : Spec} (named : w.root.Named)
    (granted : r.validate w = .ok spec) : ∃ n, w.find spec.root = .ok (spec.root.parts, n) := by
  obtain ⟨root, names, n, -, -, hdirectory?, -, hfind, -, hspec⟩ := Request.validate_eq_ok granted
  have hfound : w.root.at? names = some n := Lookup.at?_of_find hfind
  have hplain : ∀ name ∈ names, Lookup.IsPlain name := fun name hname =>
    (named.isFileName_of_at? hfound name hname).isPlain
  rw [hspec]
  exact ⟨n, Lookup.find_absolute_of_at? hplain hfound
    (Request.isDirectory_of_isDirectory? hdirectory? hfind)⟩

/-- The node that an entry of a snapshot was recorded for, and the names on the way to it: those to
which the path of the watched directory leads, and those from there. -/
structure Spec.Records (w : World) (spec : Spec) (entry : String × Int) (above names : List String)
    (m : Node) : Prop where
  found : ∃ n, w.find spec.root = .ok (above, n) ∧ n.Reports spec.scope names entry.2 m
  path : entry.1 = joined names

theorem Spec.exists_records {w : World} {spec : Spec} (valid : w.root.WellFormed)
    {entry : String × Int} (mem : entry ∈ (spec.look? w).getD []) :
    ∃ above names m, spec.Records w entry above names m := by
  unfold Spec.look? Walk.findings at mem
  cases hlisted : Walk.listRoot w spec.root with
  | error e => simp [hlisted, Except.map] at mem
  | ok entries =>
      obtain ⟨⟨above, n⟩, hfind, rfl⟩ := Walk.listRoot_eq_ok hlisted
      have hvalid : n.WellFormed := valid.at? (Lookup.at?_of_find hfind)
      have hmem : entry ∈ n.snapshotBelow spec.scope := by
        rw [← Snapshot.ofFindings_run_root spec.scope hvalid.orderly]
        simpa [hlisted, Except.map] using mem
      obtain ⟨e, he, rfl⟩ := List.mem_map.mp hmem
      obtain ⟨m, hm⟩ := Node.exists_reports_of_mem hvalid he
      exact ⟨above, e.1, m, ⟨n, hfind, hm⟩, rfl⟩

namespace Poller

/-- The paths of the snapshot lead back, in the world that it was taken in, to the nodes that they
were recorded for. -/
structure LeadsBack (w : World) (p : Poller) : Prop where
  /-- Each resolves to the names on the way to its node, put to the path of the directory, and names
  that node. It is where the node lies in the tree if the directory is reached by its own names. -/
  entry : ∀ (e : Event) (time : Int), (e.path, time) ∈ p.snapshot → ∃ above names m,
    p.spec.Records w (e.path, time) above names m ∧
      p.resolve e = ⟨p.spec.root.lead, p.spec.root.parts ++ names⟩ ∧
      w.entryAt? (p.resolve e) = some m ∧
      w.root.at? (above ++ names) = some m ∧
      (above = p.spec.root.parts → w.root.at? (p.resolve e).parts = some m)
  apart : ∀ d e : Event, d.path ∈ p.snapshot.paths → e.path ∈ p.snapshot.paths →
    p.resolve d = p.resolve e → d.path = e.path

theorem resolve_of_records {w : World} {p : Poller} {e : Event} {time : Int}
    {above names : List String} {m : Node} (h : p.spec.Records w (e.path, time) above names m) :
    p.resolve e = ⟨p.spec.root.lead, p.spec.root.parts ++ names⟩ := by
  obtain ⟨n, -, hreports⟩ := h.found
  exact p.resolve_of_joined hreports.nonempty hreports.valid h.path

theorem leadsBack_of_look {w : World} {p : Poller} (valid : w.root.WellFormed)
    (named : w.root.Named) (looked : p.snapshot = (p.spec.look? w).getD []) : p.LeadsBack w := by
  have hrecords : ∀ entry ∈ p.snapshot, ∃ above names m, p.spec.Records w entry above names m := by
    rw [looked]
    exact fun entry => Spec.exists_records valid
  constructor
  · intro e time hmem
    obtain ⟨above, names, m, hm⟩ := hrecords _ hmem
    obtain ⟨n, hfind, hreports⟩ := hm.found
    have hresolve := resolve_of_records hm
    have hlies : w.root.at? (above ++ names) = some m := by
      rw [Node.at?_append, Lookup.at?_of_find hfind]
      exact hreports.found
    refine ⟨above, names, m, hm, hresolve, ?_, hlies, ?_⟩
    · rw [hresolve]
      exact World.entryAt?_append named hfind hreports.nonempty hreports.found
    · intro habove
      rw [hresolve, ← habove]
      exact hlies
  · intro d e hd he hsame
    obtain ⟨⟨path, time⟩, hmem, rfl⟩ := List.mem_map.mp hd
    obtain ⟨⟨path', time'⟩, hmem', rfl⟩ := List.mem_map.mp he
    obtain ⟨above, names, m, hm⟩ := hrecords _ hmem
    obtain ⟨above', names', m', hm'⟩ := hrecords _ hmem'
    rw [resolve_of_records hm, resolve_of_records hm'] at hsame
    have hnames : names = names' := List.append_cancel_left (congrArg Path.parts hsame)
    calc d.path = joined names := hm.path
      _ = joined names' := by rw [hnames]
      _ = e.path := hm'.path.symm

end Poller

end TreeWatch
