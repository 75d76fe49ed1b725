import TextMasking.Proofs.Masking.Pass
import TextMasking.Proofs.Masking.Tallies
import TextMasking.Proofs.Session.Events
import TextMasking.Session.Watcher

/-! # The passes of a session

A session runs passes for a batch, one over each target, and one more when its rules change
(`Session.passes`, `Watcher.eventPasses`); a watcher runs those of its events until it stops
(`Watcher.passes`).  What it reports are the reports of these passes, merged in order
(`Watcher.report_of_run`). -/

namespace TextMasking

/-- A pass of an engine over a node of a document. -/
structure Pass where
  engine : Engine
  document : Document
  node : NodeId

/-- What is reported of the pass. -/
def Pass.report (p : Pass) : Report := (p.engine.apply p.document p.node).2

namespace Session

/-- The passes over nodes that a batch has added, each over the document that the one before it has
left. -/
def addedPasses (engine : Engine) (added : List NodeId) : List NodeId → Document → List Pass
  | [], _ => []
  | id :: rest, d =>
    if d.isTarget added id then
      ⟨engine, d, id⟩ :: addedPasses engine added rest (engine.apply d id).1
    else addedPasses engine added rest d

/-- The passes for a batch. -/
def passes (s : Session) (batch : List Mutation) (d : Document) : List Pass :=
  match s.engine with
  | none => []
  | some engine =>
    addedPasses engine (Mutation.addedNodes batch) (Mutation.addedNodes batch) d

variable {engine : Engine} {added ids : List NodeId} {d : Document} {r : Report}

/-- Added nodes are masked by their passes, and the reports are merged. -/
theorem report_foldl_maskAdded (engine : Engine) (added ids : List NodeId) (d : Document)
    (r : Report) : (ids.foldl (maskAdded engine added) (r, d)).1 =
      ((addedPasses engine added ids d).map Pass.report).foldl Report.merge r := by
  induction ids generalizing r d with
  | nil => rfl
  | cons id ids ih =>
      rw [List.foldl_cons, maskAdded, addedPasses]
      dsimp only
      split_ifs
      · exact ih _ _
      · exact ih _ _

/-- **The report of a batch** is that of its passes. -/
theorem report_handleBatch (s : Session) (batch : List Mutation) (d : Document) :
    (s.handleBatch batch d).1 = Report.mergeAll ((s.passes batch d).map Pass.report) := by
  unfold handleBatch passes
  cases s.engine with
  | none => rfl
  | some engine => exact report_foldl_maskAdded engine _ _ d .empty

/-- Passes for a batch are run over attached nodes of well-formed documents. -/
theorem of_mem_addedPasses (wf : d.WellFormed) {p : Pass}
    (hp : p ∈ addedPasses engine added ids d) :
    p.document.WellFormed ∧ p.document.attached p.node = true := by
  induction ids generalizing d with
  | nil => cases hp
  | cons id ids ih =>
      rw [addedPasses] at hp
      split_ifs at hp with ht
      · cases List.mem_cons.mp hp with
        | inl e =>
            rw [e]
            refine ⟨wf, ?_⟩
            unfold Document.isTarget at ht
            simp only [Bool.and_eq_true] at ht
            exact ht.1.1
        | inr hp => exact ih (engine.apply_masks wf id).remasked.wellFormed hp
      · exact ih wf hp

theorem of_mem_passes {s : Session} {batch : List Mutation} (wf : d.WellFormed) {p : Pass}
    (hp : p ∈ s.passes batch d) :
    p.document.WellFormed ∧ p.document.attached p.node = true := by
  unfold passes at hp
  cases he : s.engine with
  | none =>
      rw [he] at hp
      cases hp
  | some engine =>
      rw [he] at hp
      exact of_mem_addedPasses wf hp

end Session

/-- Turning masks back keeps a document well formed. -/
theorem Document.wellFormed_restore {d : Document} (wf : d.WellFormed) (x : NodeId) :
    (d.restore x).2.WellFormed := by
  unfold restore
  generalize d.maskIds x = ids
  induction ids generalizing d with
  | nil => exact wf
  | cons id ids ih =>
      rw [unmaskAll]
      cases h : d.unmask id with
      | error e => exact ih wf
      | ok res => exact ih (Remasked.unmask wf h).wellFormed

namespace Watcher

/-- The passes that an event leads to. -/
def eventPasses (w : Watcher) (root : NodeId) : WatchEvent → List Pass
  | .mutations batch => w.session.passes batch w.document
  | .rules rules =>
    if w.session.active then
      [⟨.ofRules rules w.session.options, (w.document.restore root).2, root⟩]
    else []
  | .disable => []

/-- The passes that events lead to until one stops the watcher. -/
def passes (w : Watcher) (root : NodeId) : List WatchEvent → List Pass
  | [] => []
  | e :: rest =>
    w.eventPasses root e ++
      match handle { w with queue := { w.queue with events := rest } } root e with
      | (.masked _, w) => w.passes root rest
      | (.stopped _, _) => []

variable {w : Watcher} {root : NodeId} {e : WatchEvent} {r : Report}

/-- An event that does not stop the watcher adds the reports of its passes. -/
theorem merge_handle (h : (w.handle root e).1 = .masked r) (total : Report) :
    total.merge r = ((w.eventPasses root e).map Pass.report).foldl Report.merge total := by
  cases e with
  | mutations batch =>
      obtain rfl : (w.session.handleBatch batch w.document).1 = r := by
        simpa [handle] using h
      rw [Session.report_handleBatch, Report.merge_mergeAll]
      rfl
  | rules rules =>
      obtain rfl : (w.session.changeRules rules w.document root).1 = r := by
        simpa [handle] using h
      unfold Session.changeRules eventPasses
      split_ifs <;> rfl
  | disable => cases h

/-- An event that stops the watcher leads to no pass. -/
theorem eventPasses_of_stopped {n : Nat} (h : (w.handle root e).1 = .stopped n) :
    w.eventPasses root e = [] := by
  cases e with
  | mutations batch => cases h
  | rules rules => cases h
  | disable => rfl

theorem report_of_drain {total report : Report} {events : List WatchEvent}
    (h : (w.drain root total events).1 = some report) :
    report = ((w.passes root events).map Pass.report).foldl Report.merge total := by
  induction events generalizing w total with
  | nil =>
      rw [drain] at h
      split_ifs at h
      cases h
      rfl
  | cons e rest ih =>
      let waiting : Watcher := { w with queue := { w.queue with events := rest } }
      have hsame : waiting.eventPasses root e = w.eventPasses root e := by
        cases e <;> rfl
      rw [passes, List.map_append, List.foldl_append, ← hsame]
      rw [drain] at h
      cases hstep : waiting.handle root e with
      | mk answer w' =>
          have hanswer : (waiting.handle root e).1 = answer := congrArg Prod.fst hstep
          rw [hstep] at h
          cases answer with
          | masked r =>
              rw [← merge_handle hanswer]
              exact ih h
          | stopped n =>
              rw [eventPasses_of_stopped hanswer]
              cases h
              rfl

/-- **The report of a run** is that of its passes. -/
theorem report_of_run {report : Report} (h : (w.run root).1 = some report) :
    report = Report.mergeAll ((w.passes root w.queue.events).map Pass.report) :=
  report_of_drain h

/-- Events leave a well-formed document. -/
theorem wellFormed_handle (wf : w.document.WellFormed) (root : NodeId) (e : WatchEvent) :
    (w.handle root e).2.document.WellFormed := by
  cases e with
  | mutations batch =>
      obtain ⟨n, hn⟩ := w.session.handleBatch_masks batch wf
      exact hn.remasked.wellFormed
  | rules rules =>
      show (w.session.changeRules rules w.document root).2.2.WellFormed
      unfold Session.changeRules
      split_ifs
      · obtain ⟨n, hn⟩ :=
          w.session.start_masks rules (Document.wellFormed_restore wf root) root
        exact hn.remasked.wellFormed
      · exact wf
  | disable =>
      show (w.session.disable w.document root).2.2.WellFormed
      unfold Session.disable
      split_ifs
      · exact Document.wellFormed_restore wf root
      · exact wf

theorem wellFormed_of_mem_eventPasses (wf : w.document.WellFormed) {p : Pass}
    (hp : p ∈ w.eventPasses root e) : p.document.WellFormed := by
  cases e with
  | mutations batch => exact (Session.of_mem_passes wf hp).1
  | rules rules =>
      unfold eventPasses at hp
      split_ifs at hp
      · rw [List.mem_singleton.mp hp]
        exact Document.wellFormed_restore wf root
      · cases hp
  | disable => cases hp

/-- The passes of a run are run over well-formed documents. -/
theorem wellFormed_of_mem_passes {events : List WatchEvent} (wf : w.document.WellFormed) {p : Pass}
    (hp : p ∈ w.passes root events) : p.document.WellFormed := by
  induction events generalizing w with
  | nil => cases hp
  | cons e rest ih =>
      let waiting : Watcher := { w with queue := { w.queue with events := rest } }
      have hnext := wellFormed_handle (w := waiting) wf root e
      rw [passes] at hp
      cases List.mem_append.mp hp with
      | inl hp => exact wellFormed_of_mem_eventPasses wf hp
      | inr hp =>
          cases hstep : waiting.handle root e with
          | mk answer w' =>
              rw [hstep] at hp hnext
              cases answer with
              | masked r => exact ih hnext hp
              | stopped n => cases hp

end Watcher

end TextMasking
