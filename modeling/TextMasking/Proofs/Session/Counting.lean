import TextMasking.Proofs.Document.Additions
import TextMasking.Proofs.Document.Kept
import TextMasking.Proofs.Masking.Steps
import TextMasking.Proofs.Session.Passes

/-! # Reports count what happened

Whatever is masked, a report counts the masks that have come below the root, and its summary adds up
to them (`Report.Counted`).

Texts that could not be replaced are counted too.  In a pass over an element that is attached there
are none, since all texts below it stay attached until their turn.  A text that is itself passed
over loses its parent when the first rule masks in it; what later rules find in it, read by itself,
they have to leave (`Engine.late`). -/

namespace TextMasking

open Document (root)

namespace Report

/-- The report counts the masks that have come below the root, and its summary adds up to them. -/
structure Counted (r : Report) (d d' : Document) : Prop where
  growth : (d'.maskIds root).length = (d.maskIds root).length + r.masksCreated
  summed : r.masksCreated = total r.summary

variable {r r' : Report} {d d' d'' : Document}

theorem Counted.empty (d : Document) : Report.empty.Counted d d := ⟨rfl, rfl⟩

theorem Counted.merge (h : r.Counted d d') (h' : r'.Counted d' d'') :
    (r.merge r').Counted d d'' where
  growth := by
    rw [h'.growth, h.growth, Nat.add_assoc]
    rfl
  summed := by
    unfold Report.merge
    dsimp only
    rw [total_foldl_tally, ← h.summed, ← h'.summed]

end Report

namespace Engine

/-- **A pass counts its masks,** and so does its summary. -/
theorem counted_apply (e : Engine) {d : Document} (wf : d.WellFormed) (x : NodeId) :
    (e.apply d x).2.Counted d (e.apply d x).1 where
  growth := (e.apply_masks wf x).maskCount
  summed := by
    have hkeeps (m : Matcher) : m.Keeps x e.options fun _ r =>
        r.masksCreated = Report.total r.summary :=
      { giveUp := fun _ _ _ h => h
        replace := by
          intro d d' r f new _ _ _ h
          unfold Report.record
          dsimp only
          rw [Report.total_tally, h]
        leave := fun _ _ _ _ _ _ _ h => h }
    exact Engine.keeps (fun m _ => hkeeps m) wf rfl

end Engine

/-! ### Texts that are left -/

/-- The passage by itself. -/
def Passage.alone (p : Passage) : Passage := ⟨"", p.text, ""⟩

namespace Matcher

/-- Something is found in the passage, and the rule is not given up there. -/
def hits (m : Matcher) (options : Options) (p : Passage) : Bool :=
  match m.scan p.before p.text p.after options with
  | .ok (_ :: _) => true
  | _ => false

/-- How many rules find something in the text of a passage by itself after one of the rules before
them has masked in the passage. -/
def late (options : Options) (p : Passage) : List Matcher → Nat
  | [] => 0
  | m :: ms =>
    if m.hits options p then ms.countP (·.hits options p.alone) else late options p ms

end Matcher

/-- The text of a node that a pass over the node reads. -/
def Document.passage? (d : Document) (x : NodeId) (options : Options) : Option Passage :=
  (d.place? x).bind (·.passage? options)

namespace Document

variable {d : Document} {x : NodeId}

theorem tree?_of_text? {s : String} (h : d.text? x = some s) :
    d.tree? x = some (.text x s .nil) := by
  unfold text? at h
  split at h
  · rename_i hx
    cases h
    cases isNode_of_tree? hx
    exact hx
  · cases h

/-- Of a node that is not a text nothing is read. -/
theorem passage?_eq_none (h : d.text? x = none) (options : Options) :
    d.passage? x options = none := by
  unfold passage?
  cases hp : d.place? x with
  | none => rfl
  | some p =>
      rw [text?, tree?_of_place? hp] at h
      rw [Option.bind_some, Forest.Place.passage?]
      cases hn : p.node <;> simp_all

end Document

/-- How many rules of an engine come too late in a pass over an attached node. -/
def Engine.late (e : Engine) (d : Document) (x : NodeId) : Nat :=
  match d.passage? x e.options with
  | none => 0
  | some p => Matcher.late e.options p e.matchers.matchers

namespace Matcher

variable {m : Matcher} {ms : List Matcher} {x : NodeId} {options : Options} {d d' : Document}
  {r : Report} {p : Passage}

/-- In a pass over a text nothing else is read. -/
theorem passages_of_text (options : Options) {s : String}
    (hx : d.tree? x = some (.text x s .nil)) :
    d.passages x options = ((d.passage? x options).map fun p => (x, p)).toList := by
  unfold Document.passages Document.passage? Document.textIds
  rw [hx]
  simp only [Option.getD_some, Forest.textIds, List.filterMap_cons, List.filterMap_nil]
  cases (d.place? x).bind (·.passage? options) <;> rfl

theorem passages_of_passage? (hp : d.passage? x options = some p) :
    d.passages x options = [(x, p)] := by
  cases htext : d.text? x with
  | none =>
      rw [Document.passage?_eq_none htext] at hp
      cases hp
  | some s =>
      rw [passages_of_text options (Document.tree?_of_text? htext), hp]
      rfl

/-- A rule over one passage. -/
theorem apply_of_passage? (hp : d.passage? x options = some p) :
    m.apply x options (d, r) =
      match m.scan p.before p.text p.after options with
      | .error fault =>
        (d, { r with
          scanSkips := r.scanSkips ++ [⟨m.rule.pattern, fault.message m.rule.pattern⟩] })
      | .ok [] => (d, r)
      | .ok (first :: found) => m.replaceFound (d, r) ⟨x, p.text, first :: found⟩ := by
  unfold apply
  dsimp only
  rw [passages_of_passage? hp, findings]
  cases m.scan p.before p.text p.after options with
  | error fault => rfl
  | ok found => cases found <;> rfl

/-- **Rules over a text without a parent** leave it as it is, and each one that finds something in
it is counted. -/
theorem unitsLeft_of_detached (hp : d.passage? x options = some p) (ha : d.attached x = false) :
    (ms.foldl (fun state m => m.apply x options state) (d, r)).2.unitsLeftUnmodified =
      r.unitsLeftUnmodified + ms.countP (·.hits options p) := by
  induction ms generalizing r with
  | nil => rfl
  | cons m ms ih =>
      rw [List.foldl_cons, apply_of_passage? hp, List.countP_cons, hits]
      cases m.scan p.before p.text p.after options with
      | error fault => exact ih
      | ok found =>
          cases found with
          | nil => exact ih
          | cons first found =>
              cases m.replaceFound_cases d r ⟨x, p.text, first :: found⟩ with
              | inl hok =>
                  obtain ⟨new, d', hrep, -⟩ := hok
                  obtain ⟨-, -, -, -, -, hatt, -, -⟩ := Document.replaceText_cases hrep
                  rw [ha] at hatt
                  cases hatt
              | inr hleft =>
                  obtain ⟨e, -, hstate⟩ := hleft
                  dsimp only
                  rw [hstate, ih]
                  simp
                  omega

/-- A text that was replaced stands by itself. -/
theorem passage?_of_replaced {fragments : List Fragment} {new : List NodeId}
    (wf : d.WellFormed) (h : d.replaceText x fragments = .ok (new, d'))
    (hp : d.passage? x options = some p) :
    d'.passage? x options = some p.alone ∧ d'.attached x = false := by
  have wf' := (Document.Extends.replaceText wf h).wellFormed wf
  obtain ⟨place, s, hplace, hnode, -, -, htrees, -⟩ := Document.replaceText_cases h
  have hloose : d'.place? x = some ⟨[], .nil, .text x s .nil, .nil⟩ := by
    have hmem : Forest.text x s .nil ∈ d'.trees := by simp [htrees]
    rw [wf'.place?_of_mem hmem List.mem_cons_self]
    exact (Forest.IsNode.text s).place?_self
  obtain ⟨hroot, habove⟩ := wf.above_replaceText_self h
  constructor
  · rw [Document.passage?, hloose, Option.bind_some]
    rw [Document.passage?, hplace, Option.bind_some, Forest.Place.passage?, hnode] at hp
    dsimp only at hp
    split_ifs at hp with hskip
    rw [Bool.or_eq_true, not_or] at hskip
    have hread : ¬((Forest.Place.mk [] .nil (.text x s .nil) .nil).excluded ||
        options.skipBlank && Text.blank s) = true := by
      simpa [Forest.Place.excluded, Forest.headExcluded] using hskip.2
    obtain rfl := Option.some.inj hp
    rw [Forest.Place.passage?]
    dsimp only
    rw [if_neg hread]
    rfl
  · rw [Bool.eq_false_iff]
    intro ha
    rw [Document.attached_iff_mem, habove] at ha
    exact ha.elim hroot List.not_mem_nil

/-- A text that is read and cannot be replaced is not attached. -/
theorem not_attached_of_passage? {fragments : List Fragment} {e : TreeError} (wf : d.WellFormed)
    (hp : d.passage? x options = some p) (h : d.replaceText x fragments = .error e) :
    d.attached x = false := by
  have hmem : (x, p) ∈ d.passages x options := by
    rw [passages_of_passage? hp]
    exact List.mem_singleton_self _
  obtain ⟨u, hu, -⟩ := wf.mem_passages_iff.mp hmem
  exact Document.not_attached_of_replaceText wf hu h

/-- **Rules over an attached text:** the first one that finds something masks it, and the text is
left by the rules behind it. -/
theorem unitsLeft_of_text (wf : d.WellFormed) (hp : d.passage? x options = some p)
    (ha : d.attached x = true) :
    (ms.foldl (fun state m => m.apply x options state) (d, r)).2.unitsLeftUnmodified =
      r.unitsLeftUnmodified + late options p ms := by
  induction ms generalizing r with
  | nil => rfl
  | cons m ms ih =>
      rw [List.foldl_cons, apply_of_passage? hp, late, hits]
      cases m.scan p.before p.text p.after options with
      | error fault => exact ih
      | ok found =>
          cases found with
          | nil => exact ih
          | cons first found =>
              cases m.replaceFound_cases d r ⟨x, p.text, first :: found⟩ with
              | inl hok =>
                  obtain ⟨new, d', hrep, hstate⟩ := hok
                  obtain ⟨halone, hdetached⟩ := passage?_of_replaced wf hrep hp
                  dsimp only
                  rw [hstate, if_pos rfl, unitsLeft_of_detached halone hdetached]
                  rfl
              | inr hleft =>
                  obtain ⟨e, hrep, -⟩ := hleft
                  rw [not_attached_of_passage? wf hp hrep] at ha
                  cases ha

/-- Rules that read nothing do nothing. -/
theorem foldl_apply_of_nothing (h : d.passages x options = []) :
    ms.foldl (fun state m => m.apply x options state) (d, r) = (d, r) := by
  induction ms with
  | nil => rfl
  | cons m ms ih =>
      have hsame : m.apply x options (d, r) = (d, r) := by
        unfold apply
        dsimp only
        rw [h]
        rfl
      rw [List.foldl_cons, hsame]
      exact ih

/-- **In a pass over an attached node that is not a text no text is left:** what lies below it stays
attached. -/
theorem keeps_attached (m : Matcher) (x : NodeId) (options : Options) :
    m.Keeps x options fun d r =>
      d.attached x = true ∧ d.text? x = none ∧ r.unitsLeftUnmodified = 0 where
  giveUp := fun _ _ _ h => h
  replace := by
    rintro d d' r f new wf hf hrep ⟨ha, htext, hleft⟩
    have hne : x ≠ f.id := by
      rintro rfl
      exact (hf.place wf).1 htext
    have hagree := Document.agree_replaceText wf hrep (Document.mem_ids_of_attached wf ha) hne
    refine ⟨?_, hagree.text?_eq.trans htext, hleft⟩
    rw [Document.attached, hagree.above_eq]
    exact ha
  leave := by
    rintro d r f e wf hf hrep ⟨ha, htext, -⟩
    obtain ⟨u, hu⟩ := hf.exists_unit wf
    have hno := Document.not_attached_of_replaceText wf hu hrep
    obtain ⟨hftext, -, hplace⟩ := hf.place wf
    have hx : x ∈ d.above f.id := by
      refine hplace.resolve_left ?_
      intro e
      exact hftext (e ▸ htext)
    have hatt : d.attached f.id = true := by
      rw [Document.attached_iff_mem] at ha ⊢
      refine .inr ?_
      rcases ha with rfl | ha
      · exact hx
      · exact wf.above_subset hx ha
    rw [hno] at hatt
    cases hatt

end Matcher

namespace Engine

/-- No rule comes too late where the node of the pass is not a text. -/
theorem late_eq_zero (e : Engine) {d : Document} {x : NodeId} (h : d.text? x = none) :
    e.late d x = 0 := by
  rw [late, Document.passage?_eq_none h]

/-- **A pass over an attached node leaves the texts that its rules come too late for.** -/
theorem unitsLeft_apply (e : Engine) {d : Document} {x : NodeId} (wf : d.WellFormed)
    (ha : d.attached x = true) : (e.apply d x).2.unitsLeftUnmodified = e.late d x := by
  cases htext : d.text? x with
  | none =>
      rw [e.late_eq_zero htext]
      exact (Engine.keeps (fun m _ => m.keeps_attached x e.options) wf ⟨ha, htext, rfl⟩).2.2
  | some s =>
      have hpassages := Matcher.passages_of_text e.options (Document.tree?_of_text? htext)
      rw [late]
      cases hp : d.passage? x e.options with
      | none =>
          rw [hp] at hpassages
          rw [Engine.apply, Matcher.foldl_apply_of_nothing hpassages]
          rfl
      | some p => exact (Matcher.unitsLeft_of_text wf hp ha).trans (Nat.zero_add _)

end Engine

/-! ### Batches -/

namespace Session

/-- Added nodes are masked by passes that count their masks. -/
theorem counted_foldl_maskAdded (engine : Engine) (added ids : List NodeId) {d d' : Document}
    {r : Report} (wf : d'.WellFormed) (h : r.Counted d d') :
    (ids.foldl (maskAdded engine added) (r, d')).1.Counted d
      (ids.foldl (maskAdded engine added) (r, d')).2 := by
  induction ids generalizing r d' with
  | nil => exact h
  | cons id ids ih =>
      rw [List.foldl_cons, maskAdded]
      dsimp only
      split_ifs
      · exact ih (engine.apply_masks wf id).remasked.wellFormed
          (h.merge (engine.counted_apply wf id))
      · exact ih wf h

theorem counted_handleBatch (s : Session) (batch : List Mutation) {d : Document}
    (wf : d.WellFormed) : (s.handleBatch batch d).1.Counted d (s.handleBatch batch d).2 := by
  unfold handleBatch
  cases s.engine with
  | none => exact .empty d
  | some engine => exact counted_foldl_maskAdded engine _ _ wf (.empty d)

/-- A batch leaves what its passes leave. -/
theorem unitsLeft_handleBatch (s : Session) (batch : List Mutation) {d : Document}
    (wf : d.WellFormed) : (s.handleBatch batch d).1.unitsLeftUnmodified =
      ((s.passes batch d).map fun p => p.engine.late p.document p.node).sum := by
  have hmerge (r : Report) (reports : List Report) :
      (reports.foldl Report.merge r).unitsLeftUnmodified =
        r.unitsLeftUnmodified + (reports.map (·.unitsLeftUnmodified)).sum := by
    induction reports generalizing r with
    | nil => rfl
    | cons first reports ih =>
        rw [List.foldl_cons, ih, List.map_cons, List.sum_cons, ← Nat.add_assoc]
        rfl
  rw [report_handleBatch, Report.mergeAll, hmerge, List.map_map]
  refine (Nat.zero_add _).trans (congrArg List.sum (List.map_congr_left fun p hp => ?_))
  obtain ⟨wf', ha⟩ := of_mem_passes wf hp
  exact p.engine.unitsLeft_apply wf' ha

/-- **Reports count what happened.**  A pass over any node of a document that can be reached, and
the handling of any batch, counts the masks that have come below the root, and the summary adds up
to them.  If the node is attached, the texts that are left are those that rules come too late for,
none if the node is not a text; the passes of a batch are all run over attached nodes. -/
theorem reports_count (s : String) (changes : List TreeChange) (e : Engine) (x : NodeId)
    (session : Session) (batch : List Mutation) :
    let d := (Document.ofPlainText s).changeAll changes
    let pass := e.apply d x
    let handled := session.handleBatch batch d
    let passes := session.passes batch d
    pass.2.Counted d pass.1 ∧ handled.1.Counted d handled.2 ∧
      (d.attached x = true → pass.2.unitsLeftUnmodified = e.late d x) ∧
      (d.text? x = none → e.late d x = 0) ∧
      (∀ p ∈ passes, p.document.attached p.node = true) ∧
      handled.1.unitsLeftUnmodified =
        (passes.map fun p => p.engine.late p.document p.node).sum := by
  intro d pass handled passes
  have wf : d.WellFormed :=
    Document.wellFormed_changeAll (Document.wellFormed_ofPlainText s) changes
  exact ⟨e.counted_apply wf x, session.counted_handleBatch batch wf, e.unitsLeft_apply wf,
    Engine.late_eq_zero e, fun p hp => (of_mem_passes wf hp).2,
    session.unitsLeft_handleBatch batch wf⟩

/-- Two rules find something in a text that is added by itself. -/
theorem reports_count_late :
    let e := Engine.ofRules [.literal "Acme" "[A]", .literal "Bob" "[B]"] .default
    let d := (Document.ofPlainText "").changeAll [.host (.appendText 0 "Acme Bob")]
    let handled := Session.handleBatch ⟨.default, some e⟩ [.added 1] d
    d.attached 1 = true ∧ e.late d 1 = 1 ∧ (e.apply d 1).2.unitsLeftUnmodified = 1 ∧
      handled.1.masksCreated = 1 ∧ handled.1.Counted d handled.2 := by
  intro e d handled
  obtain ⟨-, hcounted, hleft, -⟩ := reports_count "" [.host (.appendText 0 "Acme Bob")] e 1
    ⟨.default, some e⟩ [.added 1]
  have ha : d.attached 1 = true := by decide +kernel
  have hlate : e.late d 1 = 1 := by decide +kernel
  exact ⟨ha, hlate, (hleft ha).trans hlate, by decide +kernel, hcounted⟩

/-- A text that is added by itself is left by the second of two rules: it lost its parent when the
first one masked in it. -/
theorem not_unitsLeft_eq_zero : ¬∀ (s : String) (changes : List TreeChange) (session : Session)
    (batch : List Mutation),
    let d := (Document.ofPlainText s).changeAll changes
    (∀ p ∈ session.passes batch d, p.document.attached p.node = true) →
      (session.handleBatch batch d).1.unitsLeftUnmodified = 0 := by
  intro h
  have hzero := h "" [.host (.appendText 0 "Acme Bob")]
    ⟨.default, some (.ofRules [.literal "Acme" "[A]", .literal "Bob" "[B]"] .default)⟩
    [.added 1] fun p hp => (of_mem_passes (Document.wellFormed_changeAll
      (Document.wellFormed_ofPlainText "") _) hp).2
  revert hzero
  decide +kernel

end Session

end TextMasking
