import TreeWatch.Log.Journal
import TreeWatch.Proofs.Tree.Reordering

/-!
# Logs in worlds made in another order

A log goes to the same files in both worlds, whatever their numbers are. Which lines it gets does
not depend on them.
-/

namespace TreeWatch.Log

def Sink.relabel (ρ : Nat → Nat) : Sink → Sink
  | .terminal => .terminal
  | .file serial => .file (ρ serial)

def Handler.relabel (ρ : Nat → Nat) (h : Handler) : Handler :=
  { h with sink := h.sink.relabel ρ }

namespace Journal

def relabel (ρ : Nat → Nat) (j : Journal) : Journal :=
  { j with handlers := j.handlers.map (Handler.relabel ρ) }

/-- The worlds differ in the order in which they were made, and the journals in the numbers of their
files. -/
structure Reordered (ρ : Nat → Nat) (x y : World × Journal) : Prop where
  world : World.Reordered ρ x.1 y.1
  journal : y.2 = x.2.relabel ρ

namespace Reordered

variable {ρ : Nat → Nat} {w v : World} {j k : Journal}

theorem meetLogger (h : Reordered ρ (w, j) (v, k)) (name : String) :
    Reordered ρ (w, j.meetLogger name) (v, k.meetLogger name) := by
  obtain rfl : k = j.relabel ρ := h.journal
  refine ⟨h.world, ?_⟩
  have hmet : (j.relabel ρ).loggers.contains name = j.loggers.contains name := rfl
  unfold Journal.meetLogger
  rw [hmet]
  split <;> rfl

theorem deliver (h : Reordered ρ (w, j) (v, k)) (line : String) (sink : Sink) :
    Reordered ρ (Journal.deliver line w j sink)
      (Journal.deliver line v k (sink.relabel ρ)) := by
  obtain rfl : k = j.relabel ρ := h.journal
  cases sink with
  | terminal => exact ⟨h.world, rfl⟩
  | file serial => exact ⟨h.world.appendTo serial _, rfl⟩

theorem deliverAll (h : Reordered ρ (w, j) (v, k)) (r : Record) (hs : List Handler) :
    Reordered ρ
      (hs.foldl (fun x handler => Journal.deliver (r.line x.1.now ++ "\n") x.1 x.2 handler.sink)
        (w, j))
      ((hs.map (Handler.relabel ρ)).foldl
        (fun x handler => Journal.deliver (r.line x.1.now ++ "\n") x.1 x.2 handler.sink)
        (v, k)) := by
  induction hs generalizing w v j k with
  | nil => exact h
  | cons handler rest ih =>
      have hnow : v.now = w.now := h.world.eq_of_aside (q := World.now) fun _ _ _ _ => rfl
      rw [List.map_cons, List.foldl_cons, List.foldl_cons]
      dsimp only
      rw [hnow]
      exact ih (h.deliver _ handler.sink)

theorem emit (h : Reordered ρ (w, j) (v, k)) (r : Record) :
    Reordered ρ (j.emit w r) (k.emit v r) := by
  have hmet := h.meetLogger r.logger
  have hjournal : k.meetLogger r.logger = (j.meetLogger r.logger).relabel ρ := hmet.journal
  unfold Journal.emit
  dsimp only
  rw [hjournal]
  generalize j.meetLogger r.logger = j'
  have hbelongs : belongs (j'.relabel ρ).loggers r.logger = belongs j'.loggers r.logger := rfl
  have hkeeps : (j'.relabel ρ).keeps r.level = j'.keeps r.level := rfl
  rw [hbelongs, hkeeps]
  split
  · refine ⟨h.world, ?_⟩
    split <;> rfl
  · split
    · have hpushed : Reordered ρ (w, { j' with records := j'.records.push r })
          (v, { j'.relabel ρ with records := (j'.relabel ρ).records.push r }) := ⟨h.world, rfl⟩
      have hfilter : (j'.relabel ρ).handlers.filter (·.level ≤ r.level) =
          (j'.handlers.filter (·.level ≤ r.level)).map (Handler.relabel ρ) := List.filter_map
      have hall := hpushed.deliverAll r (j'.handlers.filter (·.level ≤ r.level))
      rw [← hfilter] at hall
      exact hall
    · exact ⟨h.world, rfl⟩

theorem emitAll (h : Reordered ρ (w, j) (v, k)) (rs : List Record) :
    Reordered ρ (j.emitAll w rs) (k.emitAll v rs) := by
  induction rs generalizing w v j k with
  | nil => exact h
  | cons r rs ih => exact ih (h.emit r)

/-! ## Setting up -/

theorem attach (h : Reordered ρ (w, j) (v, k)) (sink : Sink) :
    Reordered ρ (w, j.attach sink) (v, k.attach (sink.relabel ρ)) := by
  obtain rfl : k = j.relabel ρ := h.journal
  refine ⟨h.world, ?_⟩
  simp [Journal.attach, Journal.relabel, Handler.relabel]

theorem attachTerminal (h : Reordered ρ (w, j) (v, k)) :
    Reordered ρ (w, Journal.attachTerminal w j) (v, Journal.attachTerminal v k) := by
  have honTerminal : v.onTerminal = w.onTerminal :=
    h.world.eq_of_aside (q := World.onTerminal) fun _ _ _ _ => rfl
  unfold Journal.attachTerminal
  rw [honTerminal]
  split
  · exact h.attach .terminal
  · exact h

theorem attachFile (h : Reordered ρ (w, j) (v, k)) (file : FileName) :
    Reordered ρ (Journal.attachFile w j file).2 (Journal.attachFile v k file).2 := by
  have hpath : filePath v file.text = filePath w file.text :=
    h.world.eq_of_aside (q := (filePath · file.text)) fun _ _ _ _ => rfl
  have honTerminal : v.onTerminal = w.onTerminal :=
    h.world.eq_of_aside (q := World.onTerminal) fun _ _ _ _ => rfl
  unfold Journal.attachFile
  dsimp only
  rw [hpath]
  split
  · exact h
  · rcases h.world.openAppend (filePath w file.text) with
      ⟨e, hw, hv⟩ | ⟨serial, w', v', hw, hv, hworld⟩
    · rw [hw, hv]
      dsimp only
      rw [honTerminal]
      split
      · have hwritten : ∀ text, Reordered ρ (w, j.write text) (v, k.write text) := by
          intro text
          obtain rfl : k = j.relabel ρ := h.journal
          exact ⟨h.world, rfl⟩
        exact (hwritten _).attach .terminal
      · exact h
    · rw [hw, hv]
      have hopened : Reordered ρ (w', j) (v', k) := ⟨hworld, h.journal⟩
      exact hopened.attach (.file serial)

theorem setup (h : Reordered ρ (w, j) (v, k)) (settings : Option LoggingSettings) :
    Reordered ρ (j.setup w settings).2 (k.setup v settings).2 := by
  obtain rfl : k = j.relabel ρ := h.journal
  have hfile : fileSetting v settings = fileSetting w settings :=
    h.world.eq_of_aside (q := (fileSetting · settings)) fun _ _ _ _ => rfl
  have hname : fileName? v = fileName? w :=
    h.world.eq_of_aside (q := fileName?) fun _ _ _ _ => rfl
  have hinitialized : (j.relabel ρ).initialized = j.initialized := rfl
  unfold Journal.setup
  rw [hinitialized]
  split
  · exact h
  · dsimp only
    cases LoggingSettings.thresholdOf settings with
    | error e => exact ⟨h.world, rfl⟩
    | ok level =>
        have hlevelled : Reordered ρ (w, { j with initialized := true, level })
            (v, { j.relabel ρ with initialized := true, level }) := ⟨h.world, rfl⟩
        dsimp only
        rw [hfile, hname]
        split
        · exact hlevelled.attachTerminal
        · split
          · exact hlevelled.attachFile _
          · exact hlevelled

theorem reset (h : Reordered ρ (w, j) (v, k)) : Reordered ρ (w, j.reset) (v, k.reset) := by
  obtain rfl : k = j.relabel ρ := h.journal
  exact ⟨h.world, rfl⟩

end Reordered

end Journal

end TreeWatch.Log
