import TreeWatch.Proofs.Session.Likeness
import TreeWatch.Proofs.Session.Reception
import TreeWatch.Proofs.Watch.Outage

/-!
# Outages over a session

A poller looks at its directory when it is created and at each of its polls, by whatever loop. Over
all its looks the log is told that the directory cannot be listed at the first look of each outage,
that it is back at the first look behind one, and nothing about it at any other moment.
-/

namespace TreeWatch

open Log

namespace Look

variable {τ : Type}

def failure? (l : Look τ) : Option SystemError :=
  l.spec.failure? l.session.world

def hasFailed (l : Look τ) : Bool :=
  l.failure?.isSome

end Look

/-- What the poller at a place says in a move, given the world in which the move is made. -/
def Poller.said {τ : Type} (place : Nat) (w : World) (p : Poller) : Move τ → List Record
  | .poll i _ => if i = place then (p.poll w).records else []
  | .stop i => if i = place then p.stop.records else []
  | .enter i (some token) => if i = place then (p.enterBlocking token).records else []
  | .enter i none => if i = place then p.enterCoroutine.records else []
  | .reject i => if i = place then p.reject.records else []
  | .sayStopped i => if i = place then p.sayStopped.records else []
  | _ => []

namespace Session

variable {τ : Type} [Timeline τ]

/-- The look of the poller at a place that a move makes. -/
def lookAt? (place : Nat) (s : Session τ) : Move τ → Option (Look τ)
  | .poll i _ => if i = place then (s.pollerAt? place).map fun p => ⟨s, p.spec⟩ else none
  | .act action => if place = s.pollers.length then s.firstLook? action else none
  | _ => none

/-- What the poller at a place says in a move, also in the one that creates it. -/
def said (place : Nat) (s : Session τ) (m : Move τ) : List Record :=
  match s.pollerAt? place with
  | some p => p.said place s.world m
  | none =>
    match s.lookAt? place m with
    | some l => (Poller.ofSpec l.session.world l.spec).records
    | none => []

/-- The looks of the poller at a place in time order, each with what is said there of outages. -/
def story (place : Nat) : Session τ → List (Move τ) → List (Look τ × List Record)
  | _, [] => []
  | s, m :: ms =>
    ((s.lookAt? place m).map fun l => (l, outages (s.said place m))).toList ++
      story place (s.make m) ms

/-- Whether the poller at a place could not list its directory the last time. -/
def misses (place : Nat) (s : Session τ) : Bool :=
  s.pollerIs place (·.rootMissing)

/-- The looks follow each other, and at each of them the news is told. -/
def Tale : Bool → List (Look τ × List Record) → Prop
  | _, [] => True
  | wasMissing, (l, rs) :: rest =>
    rs = news wasMissing l.spec.root l.failure? ∧ Tale l.hasFailed rest

/-! ## One move -/

omit [Timeline τ] in
/-- Only a look is followed by news. -/
theorem outages_said (place : Nat) (w : World) (p : Poller) (m : Move τ)
    (h : ∀ receiver?, m ≠ .poll place receiver?) : outages (p.said place w m) = [] := by
  have hpolling : ∀ rest, outages (Poller.say .info ("Polling " ++ rest)).records = [] :=
    fun rest => outages_say_append _ rfl (by decide) rest
  cases m with
  | poll i receiver? =>
      have hi : i ≠ place := by
        rintro rfl
        exact h receiver? rfl
      rw [Poller.said, if_neg hi, outages_nil]
  | stop i =>
      simp only [Poller.said]
      split
      · exact outages_say_of_level _ (by decide) (by decide)
      · rfl
  | enter i token? =>
      cases token? with
      | none =>
          simp only [Poller.said]
          split
          · simp only [Poller.enterCoroutine, String.append_assoc]
            exact hpolling _
          · rfl
      | some token =>
          simp only [Poller.said]
          split
          · simp only [Poller.enterBlocking, String.append_assoc]
            exact hpolling _
          · rfl
  | reject i =>
      simp only [Poller.said]
      split
      · exact outages_say_append _ rfl (by decide) _
      · rfl
  | sayStopped i =>
      simp only [Poller.said]
      split
      · exact outages_say_append _ rfl (by decide) _
      · rfl
  | act | hand | fail | ask | pass | slow | setToken | cancel | sayCancelled | owe | leave => rfl

theorem pollerAt?_act_of_length {a : Action} (plain : a.isPlain = true) (s : Session τ) :
    (s.act a).2.pollerAt? s.pollers.length = (s.firstLook? a).map Look.poller := by
  rw [pollerAt?, pollers_act plain, List.getElem?_append_right Nat.le.refl, Nat.sub_self]
  cases s.firstLook? a <;> rfl

def knownAt? (place : Nat) (s : Session τ) : Option (Spec × Snapshot × Bool) :=
  (s.pollerAt? place).map Poller.known

omit [Timeline τ] in
theorem misses_eq (place : Nat) (s : Session τ) :
    s.misses place = (s.knownAt? place).any (·.2.2) := by
  rw [misses, pollerIs, knownAt?, Option.any_map]
  rfl

/-- A look is made by a poll, or by the action that makes the poller. -/
inductive Looks (place : Nat) (s : Session τ) : Move τ → Look τ → Prop
  | poll {p : Poller} (receiver? : Option Receiver) (there : s.pollerAt? place = some p) :
      Looks place s (.poll place receiver?) ⟨s, p.spec⟩
  | act {a : Action} {l : Look τ} (new : place = s.pollers.length)
      (first : s.firstLook? a = some l) : Looks place s (.act a) l

theorem looks_of_lookAt? {place : Nat} {s : Session τ} {m : Move τ} {l : Look τ}
    (h : s.lookAt? place m = some l) : Looks place s m l := by
  cases m with
  | poll i receiver? =>
      simp only [lookAt?] at h
      split at h
      · next hi =>
          subst hi
          obtain ⟨p, hp, rfl⟩ := Option.map_eq_some_iff.mp h
          exact .poll receiver? hp
      · simp at h
  | act a =>
      simp only [lookAt?] at h
      split at h
      · next hplace => exact .act hplace h
      · simp at h
  | _ => simp [lookAt?] at h

theorem knownAt?_of_look {s : Session τ} {m : Move τ} (fits : s.Fits m) {place : Nat} {l : Look τ}
    (h : s.lookAt? place m = some l) : (s.make m).knownAt? place = some l.poller.known := by
  rw [Look.poller, Poller.outcome_ofSpec]
  cases looks_of_lookAt? h with
  | poll receiver? hp =>
      rw [knownAt?, pollerAt?_make fits hp, Option.map_some, Poller.known_after]
      exact congrArg some (if_pos rfl)
  | act hplace hfirst =>
      subst hplace
      rw [knownAt?, make, pollerAt?_act_of_length fits, hfirst, Option.map_some, Option.map_some,
        Look.poller, Poller.outcome_ofSpec]

/-- Without a look a poller knows what it knew, and none is made: one that is made looks at once. -/
theorem knownAt?_of_no_look {s : Session τ} {m : Move τ} (fits : s.Fits m) {place : Nat}
    (h : s.lookAt? place m = none) : (s.make m).knownAt? place = s.knownAt? place := by
  cases hp : s.pollerAt? place with
  | some p =>
      rw [knownAt?, knownAt?, pollerAt?_make fits hp, hp, Option.map_some, Option.map_some,
        Poller.known_after]
      cases m with
      | poll i receiver? =>
          have hi : i ≠ place := by
            rintro rfl
            simp [lookAt?, hp] at h
          exact congrArg some (if_neg hi)
      | _ => rfl
  | none =>
      have hmade : (s.make m).pollerAt? place = none := by
        by_cases hact : ∃ a, m = .act a
        · obtain ⟨a, rfl⟩ := hact
          have hle : s.pollers.length ≤ place := List.getElem?_eq_none_iff.mp hp
          rcases Nat.eq_or_lt_of_le hle with heq | hlt
          · subst heq
            have hlook : s.firstLook? a = none := by simpa [lookAt?] using h
            rw [make, pollerAt?_act_of_length fits, hlook, Option.map_none]
          · have hlen : (s.act a).2.pollers.length ≤ place := by
              rw [pollers_act fits, List.length_append]
              have := Option.length_toList_le (o := (s.firstLook? a).map Look.poller)
              omega
            exact List.getElem?_eq_none hlen
        · exact pollerAt?_make_of_none (fun a ha => hact ⟨a, ha⟩) hp
      rw [knownAt?, knownAt?, hmade, hp]

theorem told_of_look {s : Session τ} {m : Move τ} (fits : s.Fits m) {place : Nat} {l : Look τ}
    (h : s.lookAt? place m = some l) :
    outages (s.said place m) = news (s.misses place) l.spec.root l.failure? ∧
      (s.make m).misses place = l.hasFailed := by
  refine ⟨?_, ?_⟩
  · cases looks_of_lookAt? h with
    | poll receiver? hp =>
        simp only [said, hp, Poller.said, if_pos]
        rw [Poller.outages_poll, misses, pollerIs_of_some hp]
        rfl
    | act hplace hfirst =>
        have hnone : s.pollerAt? place = none := List.getElem?_eq_none hplace.ge
        have hmisses : s.misses place = false := by simp [misses, pollerIs, hnone]
        simp only [said, hnone, h]
        rw [Poller.outages_ofSpec, hmisses]
        rfl
  · rw [misses_eq, knownAt?_of_look fits h, Look.poller, Poller.outcome_ofSpec]
    exact Spec.isNone_look? _ _

theorem silent_of_no_look {s : Session τ} {m : Move τ} {place : Nat}
    (h : s.lookAt? place m = none) : outages (s.said place m) = [] := by
  cases hp : s.pollerAt? place with
  | none => simp [said, hp, h]
  | some p =>
      simp only [said, hp]
      apply outages_said
      rintro receiver? rfl
      simp [lookAt?, hp] at h

theorem misses_make {s : Session τ} {m : Move τ} (fits : s.Fits m) {place : Nat}
    (h : s.lookAt? place m = none) : (s.make m).misses place = s.misses place := by
  rw [misses_eq, misses_eq, knownAt?_of_no_look fits h]

/-! ## All moves -/

theorem tale_story (place : Nat) {s : Session τ} {ms : List (Move τ)} (fits : s.FitsAll ms) :
    Tale (s.misses place) (story place s ms) := by
  induction ms generalizing s with
  | nil => trivial
  | cons m ms ih =>
      rw [story]
      have hrest := ih fits.2
      cases hlook : s.lookAt? place m with
      | none =>
          rw [misses_make fits.1 hlook] at hrest
          exact hrest
      | some l =>
          obtain ⟨htold, hmisses⟩ := told_of_look fits.1 hlook
          rw [hmisses] at hrest
          exact ⟨htold, hrest⟩

omit [Timeline τ] in
/-- At every look the news depends on the look right before it. -/
theorem Tale.of_append {wasMissing : Bool} {before after : List (Look τ × List Record)}
    {l : Look τ} {rs : List Record} (h : Tale wasMissing (before ++ (l, rs) :: after)) :
    rs = news ((before.getLast?.map fun e => e.1.hasFailed).getD wasMissing) l.spec.root
      l.failure? := by
  induction before generalizing wasMissing with
  | nil => exact h.1
  | cons e before ih =>
      have hrest := ih h.2
      cases before with
      | nil => exact hrest
      | cons d before =>
          rw [List.getLast?_cons_cons]
          rw [List.getLast?_cons] at hrest ⊢
          exact hrest

omit [Timeline τ] in
/-- Warnings that a directory cannot be listed take turns with notices that it is back. -/
theorem Tale.alternating {wasMissing : Bool} {story : List (Look τ × List Record)}
    (h : Tale wasMissing story) {i : Nat} {r : Record}
    (hr : (story.flatMap (·.2))[i]? = some r) :
    r.level = if (i + wasMissing.toNat) % 2 = 0 then Level.warning else Level.info := by
  induction story generalizing wasMissing i with
  | nil => simp at hr
  | cons e rest ih =>
      obtain ⟨l, rs⟩ := e
      obtain ⟨rfl, hrest⟩ := h
      have hfailed : l.hasFailed = l.failure?.isSome := rfl
      -- Where something is told, the parity and what was missing both change.
      rw [List.flatMap_cons] at hr
      rw [hfailed] at hrest
      cases hfailure : l.failure? with
      | none =>
          rw [hfailure] at hr hrest
          cases wasMissing with
          | false => exact ih hrest hr
          | true =>
              cases i with
              | zero =>
                  obtain rfl := Option.some.inj hr
                  rfl
              | succ i =>
                  have hturn : (i + 1 + true.toNat) % 2 = (i + false.toNat) % 2 := by
                    simp only [Bool.toNat_true, Bool.toNat_false]
                    omega
                  rw [hturn]
                  exact ih hrest hr
      | some e =>
          rw [hfailure] at hr hrest
          cases wasMissing with
          | true => exact ih hrest hr
          | false =>
              cases i with
              | zero =>
                  obtain rfl := Option.some.inj hr
                  rfl
              | succ i => exact ih hrest hr

/-! ## What is kept -/

omit [Timeline τ] in
theorem info_le_level_of_isOutage {r : Record} (h : r.isOutage = true) :
    Level.info ≤ r.level := by
  unfold Record.isOutage at h
  simp only [Bool.and_eq_true, Bool.or_eq_true, decide_eq_true_eq] at h
  rcases h.2 with ⟨hwarning, -⟩ | ⟨hinfo, -⟩
  · rw [hwarning]
    decide
  · rw [hinfo]

omit [Timeline τ] in
theorem outages_kept {j : Journal} (h : j.level ≤ Level.info) (rs : List Record) :
    outages (j.kept rs) = outages rs := by
  induction rs generalizing j with
  | nil => rfl
  | cons r rs ih =>
      have hrest := ih (j := j.meetLogger r.logger) (by rwa [Journal.level_meetLogger])
      have hcons : outages (r :: rs) = outages [r] ++ outages rs := outages_append [r] rs
      rw [Journal.kept, outages_append, hrest, hcons]
      congr 1
      by_cases hr : r.isOutage = true
      · have hlevel := info_le_level_of_isOutage hr
        have hinfo : (0 : Int) < Level.info := by decide
        have htakes : j.takes r = true := by
          have hpositive : 0 < r.level := lt_of_lt_of_le hinfo hlevel
          have hreaches : j.level ≤ r.level := le_trans h hlevel
          simp [Journal.takes, Journal.keeps, hpositive, hreaches]
        rw [if_pos htakes]
      · have hnone : outages [r] = [] := List.filter_cons_of_neg hr
        rw [hnone]
        split
        · exact hnone
        · rfl

theorem journal_act {s : Session τ} {a : Action} {l : Look τ} (h : s.firstLook? a = some l) :
    (s.act a).2.journal =
      (l.session.emit (Poller.ofSpec l.session.world l.spec).records).journal := by
  obtain ⟨t, request, spec, hasks, granted, rfl⟩ := firstLook?_eq_some h
  have hcreate : ∀ id, (t.create id request).2.journal =
      (t.passListing.emit (Poller.ofSpec t.world spec).records).journal := by
    intro id
    unfold create createPoller
    rw [granted]
    rfl
  cases hasks with
  | given id => exact hcreate id
  | fromSettings id root hfound =>
      simp only [act, hfound]
      exact hcreate id

/-- What is said at a look is kept from the moment of the look on. -/
theorem outages_recordsFrom {s : Session τ} {m : Move τ} {place : Nat} {l : Look τ}
    (h : s.lookAt? place m = some l) (hlevel : l.session.journal.level ≤ Level.info) :
    outages ((s.make m).recordsFrom l.session.recordCount) = outages (s.said place m) := by
  have hkept : ∀ rs : List Record,
      outages ((l.session.emit rs).recordsFrom l.session.recordCount) = outages rs := by
    intro rs
    rw [recordsFrom_emit, outages_kept hlevel]
  cases looks_of_lookAt? h with
  | poll receiver? hp =>
      rw [make, pollAt_of_some hp, said, hp]
      simp only [Poller.said, if_pos]
      exact hkept _
  | act hplace hfirst =>
      have hnone : s.pollerAt? place = none := List.getElem?_eq_none hplace.ge
      simp only [said, hnone, h]
      rw [make, recordsFrom, journal_act hfirst]
      exact hkept _

/-! ## The life of a poller -/

/-- Whenever a look fails and the one before it did not, it is told that the directory cannot be
listed; whenever a look succeeds and the one before it failed, it is told that the directory is
back; and nothing else is told. -/
structure Heralded (story : List (Look τ × List Record)) : Prop where
  each : ∀ before l rs after, story = before ++ (l, rs) :: after →
    rs = news (before.getLast?.any fun e => e.1.hasFailed) l.spec.root l.failure?
  alternating : ∀ i r, (story.flatMap (·.2))[i]? = some r →
    r.level = if i % 2 = 0 then Level.warning else Level.info

/-- What the poller at a place makes of directories that cannot be listed, while moves are made. -/
structure TellsOutages (place : Nat) (s : Session τ) (ms : List (Move τ)) : Prop where
  /-- A poll of such a directory leaves nothing, and reports each path that was known, once and in
  its order, as deleted. -/
  emptied : ∀ before receiver? after p e, ms = before ++ .poll place receiver? :: after →
    (s.makeAll before).pollerAt? place = some p →
    p.spec.failure? (s.makeAll before).world = some e →
      p.snapshot.paths.Nodup ∧
        ((s.makeAll before).pollAt place).1 =
          p.snapshot.map (fun entry => ⟨.deleted, entry.1⟩) ∧
        ∃ q, ((s.makeAll before).make (.poll place receiver?)).pollerAt? place = some q ∧
          q.snapshot = []
  heralded : Heralded (story place s ms)
  /-- Where the poller does not look, it says nothing of an outage. -/
  elsewhere : ∀ before m after, ms = before ++ m :: after →
    (s.makeAll before).lookAt? place m = none → outages ((s.makeAll before).said place m) = []
  /-- Unless a level keeps it back, all that is told comes to the log. -/
  kept : ∀ before m after l, ms = before ++ m :: after →
    (s.makeAll before).lookAt? place m = some l → l.session.journal.level ≤ Level.info →
      outages (((s.makeAll before).make m).recordsFrom l.session.recordCount) =
        outages ((s.makeAll before).said place m)

/-- Whatever becomes of its directory, no poll of a poller fails, and over its whole life the log is
told of the beginning and of the end of each outage. -/
theorem tellsOutages_allMoves (w : World) (steps : List Step) (place : Nat) :
    TellsOutages place (ofWorld w : Session τ) (allMoves steps (ofWorld w)) ∧
      ∀ (s : Session τ) id place p, s.named? id = some (place, p) → Told s id place p := by
  have hfits := (course_allMoves steps (ofWorld w : Session τ)).fitsAll
  refine ⟨⟨?_, ?_, ?_, ?_⟩, fun s id place p => told_of_named⟩
  · intro before receiver? after p e hsplit hp he
    rw [hsplit, fitsAll_append] at hfits
    have hnodup := nodup_snapshot_makeAll hfits.1 (by simp [ofWorld]) p (List.mem_of_getElem? hp)
    have houtcome := Poller.poll_of_failure _ p he
    refine ⟨hnodup, ?_, ?_⟩
    · rw [pollAt_of_some hp, houtcome]
    · refine ⟨_, pollerAt?_make hfits.2.1 hp, ?_⟩
      rw [Poller.after, if_pos rfl, houtcome]
  · have htale := tale_story place hfits
    have hstart : (ofWorld w : Session τ).misses place = false := rfl
    rw [hstart] at htale
    refine ⟨?_, fun i r hr => htale.alternating hr⟩
    intro before l rs after hsplit
    rw [hsplit] at htale
    rw [htale.of_append]
    cases before.getLast? <;> rfl
  · exact fun before m after _ hlook => silent_of_no_look hlook
  · exact fun before m after l _ hlook hlevel => outages_recordsFrom hlook hlevel

def emptyWorld : World :=
  { root := .directory { name := "" } [.directory { name := "w" } []] }

/-- The directory is gone for two polls and then comes back. -/
def outageSteps : List Step := [
  .act (.create "p" ⟨.absolute ["w"], {}, .truth true⟩),
  .act (.edit (.remove ["w"])), .act (.poll "p"), .act (.poll "p"),
  .act (.edit (.makeDirectory ["w"] 5)), .act (.poll "p")]

theorem tellsOutages_outageSteps :
    TellsOutages 0 (ofWorld emptyWorld : Session Float)
        (allMoves outageSteps (ofWorld emptyWorld)) ∧
      (story 0 (ofWorld emptyWorld : Session Float)
        (allMoves outageSteps (ofWorld emptyWorld))).map (·.2) =
          [[], [.of .warning "poller"
              "Watch root unavailable /w: [Errno 2] No such file or directory: '/w'"],
            [], [.of .info "poller" "Watch root is back: /w"]] :=
  ⟨(tellsOutages_allMoves emptyWorld outageSteps 0).1, by decide +kernel⟩

end Session

end TreeWatch
