import Mathlib
import TreeWatch.Proofs.Decimal.Whole
import TreeWatch.Proofs.Tree.Names
import TreeWatch.Proofs.Tree.Ways
import TreeWatch.Proofs.Watch.Granting
import TreeWatch.Proofs.Watch.Intervals

/-!
# Requests are settled once

A granted request tells its directory by the names that lead to it from the root, through no link.
To ask again for what was granted changes nothing, from wherever that is done.
-/

namespace TreeWatch

theorem IsFileName.isPlain {name : String} (h : IsFileName name) : Lookup.IsPlain name :=
  ⟨h.1.2.1, h.2.1⟩

namespace World

theorem directoryAt_absolute {w : World} {names : List String} {n : Node}
    (named : ∀ name ∈ names, IsFileName name) (found : w.root.at? names = some n)
    (isDirectory : n.isDirectory = true) (seen : n.faults.stat = none) :
    w.directoryAt (.absolute names) = .ok names := by
  have hfind : w.find (.absolute names) = .ok (names, n) :=
    Lookup.find_absolute_of_at? (fun name hname => (named name hname).isPlain) found isDirectory
  have hnul : (Path.absolute names).hasNul = false := by
    simpa [Path.hasNul, Path.absolute] using fun name hname => (named name hname).2.2
  have hstat : w.stat (.absolute names) = .ok n := (stat_eq_ok_iff hfind).mpr ⟨seen, rfl⟩
  have hask : ∀ question, w.ask (.absolute names) question = .ok (question n) := by
    intro question
    rw [ask, hnul, hstat]
    rfl
  have hhome : w.expandHome (.absolute names) = .ok (.absolute names) := rfl
  simp only [directoryAt, exists?, isDirectory?, hhome, hask, hfind, isDirectory, bind, Except.bind]
  rfl

end World

/-! ## Intervals that are granted -/

namespace Interval

/-- The double that a granted interval becomes is fit for polls itself. -/
theorem zero_lt_of_toFloat? {i : Interval} {x : Float} (isPositive : i.isPositive? = some true)
    (h : i.toFloat? = some x) : 0 < x := by
  cases i with
  | whole n =>
      have hn : 0 < n := by simpa [isPositive?] using isPositive
      exact Decimal.zero_lt_of_ofInt? hn h
  | truth b =>
      obtain rfl : b = true := Option.some.inj isPositive
      obtain rfl : 1.0 = x := Option.some.inj h
      decide
  | seconds y =>
      obtain rfl : y = x := Option.some.inj h
      simpa [isPositive?] using isPositive
  | nothing => simp [toFloat?] at h

theorem granted_of_zero_lt {x : Float} (positive : 0 < x) : (seconds x).granted = .ok x := by
  simp [granted, isPositive?, toFloat?, positive]

end Interval

/-! ## Requests that are granted -/

def Spec.request (spec : Spec) : Request :=
  ⟨spec.root, spec.scope, .seconds spec.interval⟩

/-- What is watched after a request was granted, in terms of the tree that it was made in. -/
structure Request.Settled (w : World) (r : Request) (spec : Spec) (names : List String)
    (n : Node) : Prop where
  root : spec.root = .absolute names
  named : ∀ name ∈ names, IsFileName name
  /-- Every part of the way to it is a directory, so none is a link. -/
  unlinked : ∀ above, above <+: names → ∃ d, w.root.at? above = some d ∧ d.isDirectory = true
  /-- The names lead to the very directory that the path of the request leads to. -/
  found : w.root.at? names = some n
  isDirectory : n.isDirectory = true
  asked : ∃ p, w.expandHome r.root = .ok p ∧ w.find p = .ok (names, n)
  scope : spec.scope = r.scope
  interval : r.interval.toFloat? = some spec.interval
  /-- What is watched can be asked for again, in whatever world has the same tree. -/
  again : ∀ v : World, v.root = w.root → spec.request.validate v = .ok spec

theorem Node.isDirectory_of_prefix {root n : Node} {names above : List String}
    (found : root.at? names = some n) (isDirectory : n.isDirectory = true)
    (leads : above <+: names) : ∃ d, root.at? above = some d ∧ d.isDirectory = true := by
  obtain ⟨rest, rfl⟩ := leads
  rw [at?_append] at found
  obtain ⟨d, hd, hdn⟩ := Option.bind_eq_some_iff.mp found
  refine ⟨d, hd, ?_⟩
  cases rest with
  | nil =>
      obtain rfl : d = n := Option.some.inj hdn
      exact isDirectory
  | cons name more =>
      obtain ⟨m, hm, -⟩ := Option.bind_eq_some_iff.mp hdn
      exact isDirectory_of_child? hm

theorem Request.settled_of_validate {w : World} {r : Request} {spec : Spec}
    (named : w.root.Named) (granted : r.validate w = .ok spec) :
    ∃ names n, r.Settled w spec names n := by
  obtain ⟨p, names, n, hhome, -, hdirectory?, hpositive, hfind, hinterval, hspec⟩ :=
    Request.validate_eq_ok granted
  have hfound : w.root.at? names = some n := Lookup.at?_of_find hfind
  have hnames : ∀ name ∈ names, IsFileName name := named.isFileName_of_at? hfound
  obtain ⟨m, hstat, hdirectory⟩ := World.stat_of_ask hdirectory?
  obtain ⟨hseen, rfl⟩ := (World.stat_eq_ok_iff hfind).mp hstat
  refine ⟨names, n, {
    root := congrArg Spec.root hspec
    named := hnames
    unlinked := fun above => Node.isDirectory_of_prefix hfound hdirectory
    found := hfound
    isDirectory := hdirectory
    asked := ⟨p, hhome, hfind⟩
    scope := congrArg Spec.scope hspec
    interval := hinterval
    again := ?_ }⟩
  intro v hv
  have hagain : v.directoryAt (.absolute names) = .ok names :=
    World.directoryAt_absolute hnames (hv ▸ hfound) hdirectory hseen
  have hseconds : (Interval.seconds spec.interval).granted = .ok spec.interval :=
    Interval.granted_of_zero_lt (Interval.zero_lt_of_toFloat? hpositive hinterval)
  rw [Request.validate_eq, hspec, Spec.request, hagain]
  simp only [Except.bind, hseconds, Except.map]

def linkedHomeWorld : World :=
  { root := .directory { name := "" } [
      .link { name := "me" } "users/ada",
      .directory { name := "users" } [.directory { name := "ada" } []]]
    directory := ["users"]
    environment := [("HOME", "/me/")] }

def linkedHomeRequest : Request :=
  ⟨⟨.none, ["~", ".."]⟩, { recursive := false }, .whole 3⟩

def linkedHomeSpec : Spec :=
  ⟨.absolute ["users"], { recursive := false }, 3.0⟩

theorem settled_linkedHomeRequest :
    linkedHomeWorld.root.Named ∧
      linkedHomeRequest.validate linkedHomeWorld = .ok linkedHomeSpec ∧
      linkedHomeSpec.request.validate { linkedHomeWorld with directory := [], environment := [] } =
        .ok linkedHomeSpec := by
  have named : linkedHomeWorld.root.Named := by
    simp [linkedHomeWorld, Node.Named, Node.AllNamed]
    decide
  have directoryAt : linkedHomeWorld.directoryAt linkedHomeRequest.root = .ok ["users"] := by
    cbv
  have interval : linkedHomeRequest.interval.granted = .ok 3.0 := by
    decide +kernel
  have granted : linkedHomeRequest.validate linkedHomeWorld = .ok linkedHomeSpec := by
    rw [Request.validate_eq, directoryAt, Except.bind, interval]
    rfl
  obtain ⟨names, n, settled⟩ := Request.settled_of_validate named granted
  exact ⟨named, granted, settled.again _ rfl⟩

end TreeWatch
