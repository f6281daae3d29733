import TreeWatch.Proofs.Log.Muting
import TreeWatch.Proofs.Log.Setup
import TreeWatch.Proofs.Tree.Asking

/-!
# Logs that are written alike

Two logs that are set up alike, in worlds that differ in some files, stay so whatever is said, set
up and reset in both. Which line goes where does not depend on the lines before it.
-/

namespace TreeWatch.Log.Journal

variable {e : Erasure} {serials : List Nat} {w w' : World} {j j' : Journal}

/-- The worlds differ in what is forgotten of some files at most, and the journals in what was kept
and written. -/
structure Even (e : Erasure) (serials : List Nat) (x y : World × Journal) : Prop where
  world : x.1.blank e serials = y.1.blank e serials
  journal : x.2.muted = y.2.muted

namespace Even

theorem level (h : Even e serials (w, j) (w', j')) : j.level = j'.level :=
  congrArg (·.level) h.journal

theorem handlers (h : Even e serials (w, j) (w', j')) : j.handlers = j'.handlers :=
  congrArg (·.handlers) h.journal

theorem loggers (h : Even e serials (w, j) (w', j')) : j.loggers = j'.loggers :=
  congrArg (·.loggers) h.journal

theorem initialized (h : Even e serials (w, j) (w', j')) : j.initialized = j'.initialized :=
  congrArg (·.initialized) h.journal

theorem now (h : Even e serials (w, j) (w', j')) : w.now = w'.now :=
  congrArg (·.now) h.world

theorem meetLogger (h : Even e serials (w, j) (w', j')) (name : String) :
    Even e serials (w, j.meetLogger name) (w', j'.meetLogger name) := by
  refine ⟨h.world, ?_⟩
  have hjournal : j.muted = j'.muted := h.journal
  change (j.meetLogger name).muted = (j'.meetLogger name).muted
  rw [← meetLogger_muted, hjournal, meetLogger_muted]

/-! ## Lines -/

/-- A sink gets the same line, or lines of which nothing is left. -/
theorem deliver (h : Even e serials (w, j) (w', j')) {line line' : String} (sink : Sink)
    (alike : line = line' ∨ ∀ serial ∈ sink.serial?, serial ∈ serials) :
    Even e serials (deliver line w j sink) (deliver line' w' j' sink) := by
  cases sink with
  | terminal => exact ⟨h.world, h.journal⟩
  | file serial =>
      refine ⟨?_, h.journal⟩
      obtain rfl | hserial := alike
      · exact World.appendTo_congr h.world serial _
      · exact (World.appendTo_congr h.world serial _).trans
          (World.blank_appendTo_congr (hserial serial rfl) w' _ _)

theorem deliverAll (h : Even e serials (w, j) (w', j')) {r r' : Record} {hs hs' : List Handler}
    (same : hs = hs')
    (alike : r = r' ∨ ∀ handler ∈ hs, ∀ serial ∈ handler.sink.serial?, serial ∈ serials) :
    Even e serials
      (hs.foldl (fun x handler => Journal.deliver (r.line x.1.now ++ "\n") x.1 x.2 handler.sink)
        (w, j))
      (hs'.foldl (fun x handler => Journal.deliver (r'.line x.1.now ++ "\n") x.1 x.2 handler.sink)
        (w', j')) := by
  subst same
  induction hs generalizing w w' j j' with
  | nil => exact h
  | cons handler rest ih =>
      rw [List.foldl_cons, List.foldl_cons]
      dsimp only
      rw [← h.now]
      refine ih (h.deliver handler.sink ?_) ?_
      · rcases alike with rfl | within
        · exact .inl rfl
        · exact .inr (within handler List.mem_cons_self)
      · exact alike.imp_right fun within other hother =>
          within other (List.mem_cons_of_mem handler hother)

/-- Two records that are kept alike go where they go, whatever they say, if nothing is left of their
lines. -/
theorem emit_of_alike (h : Even e serials (w, j) (w', j')) {r r' : Record}
    (level : r.level = r'.level) (logger : r.logger = r'.logger)
    (alike : r = r' ∨ ∀ serial ∈ j.fileSerials, serial ∈ serials) :
    Even e serials (emit w j r) (emit w' j' r') := by
  have hmet := h.meetLogger r.logger
  have hbelongs : belongs (j'.meetLogger r.logger).loggers r.logger =
      belongs (j.meetLogger r.logger).loggers r.logger := by rw [hmet.loggers]
  have hkeeps : (j'.meetLogger r.logger).keeps r.level = (j.meetLogger r.logger).keeps r.level := by
    rw [keeps, keeps, hmet.level]
  have hpushed : Even e serials
      (w, { j.meetLogger r.logger with records := (j.meetLogger r.logger).records.push r })
      (w', { j'.meetLogger r.logger with records := (j'.meetLogger r.logger).records.push r' }) :=
    ⟨h.world, hmet.journal⟩
  unfold Journal.emit
  dsimp only
  rw [← level, ← logger, hbelongs, hkeeps]
  split
  · refine ⟨h.world, ?_⟩
    split <;> exact hmet.journal
  · split
    · refine hpushed.deliverAll (congrArg (List.filter _) hmet.handlers) (alike.imp_right ?_)
      intro within handler hhandler serial hserial
      refine within serial (List.mem_filterMap.mpr ⟨handler, ?_, hserial⟩)
      exact handlers_meetLogger j r.logger ▸ (List.mem_filter.mp hhandler).1
    · exact hmet

theorem emit (h : Even e serials (w, j) (w', j')) (r : Record) :
    Even e serials (emit w j r) (emit w' j' r) :=
  h.emit_of_alike rfl rfl (.inl rfl)

theorem emitAll (h : Even e serials (w, j) (w', j')) (rs : List Record) :
    Even e serials (emitAll w j rs) (emitAll w' j' rs) := by
  induction rs generalizing w w' j j' with
  | nil => exact h
  | cons r rs ih => exact ih (h.emit r)

/-! ## Setting up -/

theorem attach (h : Even e serials (w, j) (w', j')) (sink : Sink) :
    Even e serials (w, j.attach sink) (w', j'.attach sink) := by
  refine ⟨h.world, ?_⟩
  change ({ j.muted with handlers := j.handlers ++ [⟨sink, j.level⟩] } : Journal) =
    { j'.muted with handlers := j'.handlers ++ [⟨sink, j'.level⟩] }
  rw [show j.muted = j'.muted from h.journal, h.handlers, h.level]

theorem attachTerminal (h : Even e serials (w, j) (w', j')) :
    Even e serials (w, attachTerminal w j) (w', attachTerminal w' j') := by
  have honTerminal : w'.onTerminal = w.onTerminal := (congrArg (·.onTerminal) h.world).symm
  unfold Journal.attachTerminal
  rw [honTerminal]
  split
  · exact h.attach .terminal
  · exact h

theorem attachFile (h : Even e serials (w, j) (w', j')) (file : FileName) :
    (attachFile w j file).1 = (attachFile w' j' file).1 ∧
      Even e serials (attachFile w j file).2 (attachFile w' j' file).2 := by
  have hpath : filePath w' file.text = filePath w file.text :=
    (congrArg (filePath · file.text) h.world).symm
  have honTerminal : w'.onTerminal = w.onTerminal := (congrArg (·.onTerminal) h.world).symm
  have hopened := World.openAppend_congr h.world (filePath w file.text)
  unfold Journal.attachFile
  dsimp only
  rw [hpath]
  split
  · exact ⟨rfl, h⟩
  · dsimp only at hopened
    cases hw : w.openAppend (filePath w file.text) with
    | error err =>
        cases hw' : w'.openAppend (filePath w file.text) with
        | ok r => simp [hw, hw', Except.map] at hopened
        | error err' =>
            obtain rfl : err = err' := by simpa [hw, hw', Except.map] using hopened
            dsimp only
            rw [honTerminal]
            split
            · have hwritten : ∀ text, Even e serials (w, j.write text) (w', j'.write text) :=
                fun text => ⟨h.world, h.journal⟩
              exact ⟨rfl, (hwritten _).attach .terminal⟩
            · exact ⟨rfl, h⟩
    | ok r =>
        cases hw' : w'.openAppend (filePath w file.text) with
        | error err => simp [hw, hw', Except.map] at hopened
        | ok r' =>
            have hsame : r.1 = r'.1 ∧ r.2.blank e serials = r'.2.blank e serials := by
              simpa [hw, hw', Except.map] using hopened
            obtain ⟨serial, v⟩ := r
            obtain ⟨serial', v'⟩ := r'
            obtain ⟨rfl, hv⟩ := hsame
            have hopen : Even e serials (v, j) (v', j') := ⟨hv, h.journal⟩
            exact ⟨rfl, hopen.attach (.file serial)⟩

/-- Setting up a log does not look into files. -/
theorem setup (h : Even e serials (w, j) (w', j')) (s : Option LoggingSettings) :
    (setup w j s).1 = (setup w' j' s).1 ∧ Even e serials (setup w j s).2 (setup w' j' s).2 := by
  have hfile : fileSetting w' s = fileSetting w s :=
    (congrArg (fileSetting · s) h.world).symm
  have hname : fileName? w' = fileName? w := (congrArg fileName? h.world).symm
  unfold Journal.setup
  rw [← h.initialized]
  split
  · exact ⟨rfl, h⟩
  · have hbegun : Even e serials (w, { j with initialized := true })
        (w', { j' with initialized := true }) :=
      ⟨h.world, congrArg (fun k : Journal => { k with initialized := true }) h.journal⟩
    dsimp only
    cases LoggingSettings.thresholdOf s with
    | error err => exact ⟨rfl, hbegun⟩
    | ok level =>
        have hlevelled : Even e serials (w, { j with initialized := true, level })
            (w', { j' with initialized := true, level }) :=
          ⟨h.world, congrArg (fun k : Journal => { k with initialized := true, level }) h.journal⟩
        dsimp only
        rw [hfile, hname]
        split
        · exact ⟨rfl, hlevelled.attachTerminal⟩
        · split
          · exact hlevelled.attachFile _
          · exact ⟨rfl, hlevelled⟩

theorem reset (h : Even e serials (w, j) (w', j')) : Even e serials (w, j.reset) (w', j'.reset) :=
  ⟨h.world, congrArg Journal.reset h.journal⟩

end Even

theorem loggers_setup (w : World) (j : Journal) (s : Option LoggingSettings) :
    (setup w j s).2.2.loggers = j.loggers := by
  refine setup_cases w j s (fun _ => rfl) (fun _ _ _ _ => rfl) ?_
  intro level v k _ _ opened
  cases opened <;> rfl

end TreeWatch.Log.Journal
