import TextMasking.Proofs.Masking.Reached
import TextMasking.Proofs.Masking.Skipping
import TextMasking.Proofs.Session.Counting

/-! # Passes that give rules up

Which matchers of a pass mask and which are given up is settled by the texts at its node
(`Turn.course`).  The trees after the turns of those that mask follow the document after the pass,
and what these find is counted (`Tracks.foldl_course`).  What is listed as given up is settled in
the same way, unless the node is a text: it is read by itself after a matcher has masked in it
(`Passage.givenUp`).  So passes over one node in two documents list the same if the texts at the
node are the same (`Tracks.scanSkips_congr`). -/

namespace TextMasking

namespace Matcher

variable {m : Matcher} {options : Options}

/-- The fault in the first passage that has one. -/
def fault? (m : Matcher) (options : Options) (ps : List Passage) : Option ScanFault :=
  ps.findSome? fun p =>
    match m.scan p.before p.text p.after options with
    | .ok _ => none
    | .error fault => some fault

/-- What is listed when a matcher is given up. -/
def skip (m : Matcher) (fault : ScanFault) : SkippedRule :=
  ⟨m.rule.pattern, fault.message m.rule.pattern⟩

theorem fault?_cons (p : Passage) (ps : List Passage) : m.fault? options (p :: ps) =
    match m.scan p.before p.text p.after options with
    | .ok _ => m.fault? options ps
    | .error fault => some fault := by
  unfold fault?
  rw [List.findSome?_cons]
  cases m.scan p.before p.text p.after options <;> rfl

theorem fault?_eq_none_iff {ps : List Passage} : m.fault? options ps = none ↔
    ∀ p ∈ ps, ∃ found, m.scan p.before p.text p.after options = .ok found := by
  unfold fault?
  rw [List.findSome?_eq_none_iff]
  refine forall₂_congr fun p _ => ?_
  cases m.scan p.before p.text p.after options <;> simp

/-- **The first fault is the one for which a matcher is given up.** -/
theorem findings_error_iff {passages : List (NodeId × Passage)} {fault : ScanFault} :
    m.findings options passages = .error fault ↔
      m.fault? options (passages.map Prod.snd) = some fault := by
  induction passages with
  | nil => simp [findings, fault?]
  | cons q rest ih =>
      rw [List.map_cons, fault?_cons, findings]
      cases m.scan q.2.before q.2.text q.2.after options with
      | error e => simp [bind, Except.bind]
      | ok found =>
          dsimp only
          rw [← ih]
          cases m.findings options rest <;> simp [bind, Except.bind, pure, Except.pure]

theorem apply_of_fault {d : Document} {x : NodeId} {fault : ScanFault}
    (h : m.findings options (d.passages x options) = .error fault) (r : Report) :
    m.apply x options (d, r) = (d, { r with scanSkips := r.scanSkips ++ [m.skip fault] }) := by
  unfold apply
  dsimp only
  rw [h]
  rfl

end Matcher

/-! ### The course of a pass -/

namespace Turn

/-- Which matchers mask in a pass, and which are given up. -/
structure Course where
  kept : List Matcher
  givenUp : List SkippedRule

variable (options : Options) (n x : NodeId)

/-- The course of a pass over a node with these texts. -/
def course : List Matcher → List (NodeId × TextUnit) → Course
  | [], _ => ⟨[], []⟩
  | m :: ms, ps =>
    match m.fault? options (read options ps) with
    | none =>
      let rest := course ms (left options n ⟨m, x⟩ x ps)
      ⟨m :: rest.kept, rest.givenUp⟩
    | some fault =>
      let rest := course ms ps
      ⟨rest.kept, m.skip fault :: rest.givenUp⟩

variable {options n x} {t : Turn} {trees : List Forest} {m : Matcher} {ms : List Matcher}
  {ps : List (NodeId × TextUnit)} {fault : ScanFault}

theorem course_cons_of_none (h : m.fault? options (read options ps) = none) :
    course options n x (m :: ms) ps =
      ⟨m :: (course options n x ms (left options n ⟨m, x⟩ x ps)).kept,
        (course options n x ms (left options n ⟨m, x⟩ x ps)).givenUp⟩ := by
  rw [course, h]

theorem course_cons_of_some (h : m.fault? options (read options ps) = some fault) :
    course options n x (m :: ms) ps =
      ⟨(course options n x ms ps).kept, m.skip fault :: (course options n x ms ps).givenUp⟩ := by
  rw [course, h]

/-- A turn meets no fault if its matcher finds none in the texts at the node. -/
theorem clean_scansIn_iff : Clean (t.scansIn options trees) ↔
    t.matcher.fault? options (read options (textsAt t.scope trees)) = none := by
  have hclean : Clean (t.scansIn options trees) ↔
      ∀ p ∈ texts trees, ∃ found, t.scan options p.1 p.2 = .ok found := by
    have hscans : t.scansIn options trees = (texts trees).flatMap fun p =>
        t.scans options p.1 p.2 := by
      rw [scansIn, texts, List.flatMap_assoc]
    rw [hscans]
    constructor
    · intro h p hp
      exact clean_scans_iff.mp fun s hs => h s (List.mem_flatMap.mpr ⟨p, hp, hs⟩)
    · intro h s hs
      obtain ⟨p, hp, hs⟩ := List.mem_flatMap.mp hs
      exact clean_scans_iff.mpr (h p hp) s hs
  rw [hclean, Matcher.fault?_eq_none_iff]
  constructor
  · intro h p hp
    obtain ⟨q, hq, hqp⟩ := List.mem_filterMap.mp hp
    obtain ⟨hq, hunder⟩ := mem_textsAt.mp hq
    obtain ⟨found, hscan⟩ := h q hq
    have hr : t.Reaches q.1 q.2 := hunder
    rw [scan, if_pos hr, hqp] at hscan
    exact ⟨found, hscan⟩
  · intro h p hp
    rw [scan]
    split_ifs with hr
    · cases hpass : p.2.passage? options with
      | none => exact ⟨[], rfl⟩
      | some q => exact h q (List.mem_filterMap.mpr ⟨p, mem_textsAt.mpr ⟨hp, hr⟩, hpass⟩)
    · exact ⟨[], rfl⟩

end Turn

namespace Tracks

open Turn (Clean afterAll course cutAll left overNode read scansIn scansOf textsAt)

variable {n x : NodeId} {d : Document} {trees : List Forest}

/-- **One matcher** masks, or it is given up for the first fault in the texts at the node. -/
theorem apply_cases (h : Tracks n trees d) (hx : x < n) (hs : d.Steady x) (options : Options)
    (m : Matcher) (r : Report) :
    (m.fault? options (read options (textsAt x trees)) = none ∧
        Tracks n (cutAll options n ⟨m, x⟩ trees) (m.apply x options (d, r)).1 ∧
        Counts (scansIn options ⟨m, x⟩ trees) r (m.apply x options (d, r)).2 ∧
        (d.attached x = true → (m.apply x options (d, r)).2.scanSkips = r.scanSkips)) ∨
      ∃ fault, m.fault? options (read options (textsAt x trees)) = some fault ∧
        m.apply x options (d, r) =
          (d, { r with scanSkips := r.scanSkips ++ [m.skip fault] }) := by
  cases hf : m.fault? options (read options (textsAt x trees)) with
  | none =>
      obtain ⟨htracks, hcounts⟩ :=
        h.take (t := ⟨m, x⟩) (r := r) hx hs (Turn.clean_scansIn_iff.mpr hf)
      refine .inl ⟨rfl, htracks, hcounts, fun ha => ?_⟩
      rw [← h.map_snd_passages hx (h.wellFormed.texts_attached ha)] at hf
      unfold Matcher.apply
      dsimp only
      cases hfs : m.findings options (d.passages x options) with
      | error fault =>
          rw [Matcher.findings_error_iff.mp hfs] at hf
          cases hf
      | ok fs => exact (m.skips_foldl_replaceFound fs d r).2
  | some fault =>
      refine .inr ⟨fault, rfl, Matcher.apply_of_fault ?_ r⟩
      rcases hs.texts h.wellFormed with ha | hno
      · rw [Matcher.findings_error_iff, h.map_snd_passages hx ha]
        exact hf
      · have hnone : textsAt x trees = [] := by
          rw [h.textsAt_eq hx, List.map_eq_nil_iff, List.filter_eq_nil_iff]
          intro p hp hu
          obtain ⟨hroot, hid⟩ := of_decide_eq_true hu
          exact hno p.1 p.2 hp ((h.wellFormed.mem_textIds_iff hp).mpr hid) hroot
        rw [hnone] at hf
        cases hf

/-- **Matchers in order:** the trees after the turns of those that are kept follow the document, and
what these find is counted.  Over an attached node that is not a text, the others are listed. -/
theorem foldl_course (h : Tracks n trees d) (hx : x < n) (hs : d.Steady x) (options : Options)
    (ms : List Matcher) (r : Report) :
    let course := course options n x ms (textsAt x trees)
    let state := ms.foldl (fun state m => m.apply x options state) (d, r)
    Tracks n (afterAll options n (overNode x course.kept) trees) state.1 ∧
      Counts (scansOf options n (overNode x course.kept) trees) r state.2 ∧
      (d.attached x = true → d.text? x = none →
        state.2.scanSkips = r.scanSkips ++ course.givenUp) := by
  -- a text loses its parent to the first matcher that masks in it, so the node is only steady
  induction ms generalizing d trees r with
  | nil =>
      change Tracks n (afterAll options n [] trees) d ∧ Counts (scansOf options n [] trees) r r ∧ _
      rw [Turn.afterAll_nil, Turn.scansOf_nil]
      exact ⟨h, .of_eq rfl rfl, fun _ _ => (List.append_nil _).symm⟩
  | cons m ms ih =>
      rcases h.apply_cases hx hs options m r with
        ⟨hf, htracks, hcounts, hskips⟩ | ⟨fault, hf, hstate⟩
      · have hs' := m.steady_apply h.wellFormed x options r hs
        obtain ⟨htracks', hcounts', hskips'⟩ := ih htracks hs' (m.apply x options (d, r)).2
        rw [Turn.textsAt_cutAll hx] at htracks' hcounts' hskips'
        rw [Turn.course_cons_of_none hf, List.foldl_cons]
        dsimp only
        rw [Turn.overNode_cons, Turn.afterAll_cons]
        refine ⟨htracks', (hcounts.trans hcounts').perm Turn.scansOf_cons.symm, fun ha htext => ?_⟩
        obtain ⟨ha', htext', -⟩ := (m.keeps_attached x options).apply (r := .empty) h.wellFormed
          ⟨ha, htext, rfl⟩
        rw [m.document_apply x options d .empty r] at ha' htext'
        rw [← hskips ha]
        exact hskips' ha' htext'
      · obtain ⟨htracks', hcounts', hskips'⟩ :=
          ih h hs { r with scanSkips := r.scanSkips ++ [m.skip fault] }
        rw [Turn.course_cons_of_some hf, List.foldl_cons, hstate]
        refine ⟨htracks', ⟨hcounts'.masksCreated, hcounts'.occurrences⟩, fun ha htext => ?_⟩
        rw [hskips' ha htext]
        exact List.append_cons _ _ _ |>.symm

end Tracks

/-! ### Passes over a text -/

/-- Which matchers are given up in a pass over a text: it is read in its place until one of them
masks in it, and by itself from then on. -/
def Passage.givenUp (options : Options) (p : Passage) : List Matcher → List SkippedRule
  | [] => []
  | m :: ms =>
    match m.scan p.before p.text p.after options with
    | .error fault => m.skip fault :: p.givenUp options ms
    | .ok [] => p.givenUp options ms
    | .ok (_ :: _) => p.alone.givenUp options ms

namespace Matcher

variable {options : Options} {x : NodeId} {d d' : Document} {ms : List Matcher} {p : Passage}

/-- **Matchers over a text:** those that are given up are listed. -/
theorem scanSkips_of_text (wf : d.WellFormed) (hp : d.passage? x options = some p)
    (hplace : d.attached x = true ∨ p.alone = p) (r : Report) :
    (ms.foldl (fun state m => m.apply x options state) (d, r)).2.scanSkips =
      r.scanSkips ++ p.givenUp options ms := by
  induction ms generalizing d p r with
  | nil => exact (List.append_nil _).symm
  | cons m ms ih =>
      rw [List.foldl_cons, apply_of_passage? hp, Passage.givenUp]
      cases m.scan p.before p.text p.after options with
      | error fault =>
          dsimp only
          rw [ih wf hp hplace]
          exact (List.append_cons _ _ _).symm
      | ok found =>
          cases found with
          | nil => exact ih wf hp hplace r
          | cons first found =>
              dsimp only
              cases m.replaceFound_cases d r ⟨x, p.text, first :: found⟩ with
              | inl hok =>
                  obtain ⟨new, d', hrep, hstate⟩ := hok
                  have wf' := (Document.Extends.replaceText wf hrep).wellFormed wf
                  rw [hstate, ih wf' (passage?_of_replaced wf hrep hp).1 (.inr rfl)]
                  rfl
              | inr hleft =>
                  -- the text has lost its parent before, so it is read by itself already
                  obtain ⟨e, hrep, hstate⟩ := hleft
                  have hno := not_attached_of_passage? wf hp hrep
                  have halone : p.alone = p := hplace.resolve_left (by simp [hno])
                  rw [hstate, halone, ih wf hp hplace]

end Matcher

namespace Tracks

open Turn (read textsAt)

variable {n x : NodeId} {d d' : Document} {trees trees' : List Forest}

/-- **Passes over a node whose texts are the same give up the same rules.** -/
theorem scanSkips_congr (h : Tracks n trees d) (h' : Tracks n trees' d') (e : Engine) (hx : x < n)
    (ha : d.attached x = true) (ha' : d'.attached x = true) (htext : d'.text? x = d.text? x)
    (htexts : textsAt x trees' = textsAt x trees) :
    (e.apply d' x).2.scanSkips = (e.apply d x).2.scanSkips := by
  have hread (options : Options) : (d'.passages x options).map Prod.snd =
      (d.passages x options).map Prod.snd := by
    rw [h'.map_snd_passages hx (h'.wellFormed.texts_attached ha'),
      h.map_snd_passages hx (h.wellFormed.texts_attached ha), htexts]
  rw [Engine.apply, Engine.apply]
  cases hs : d.text? x with
  | none =>
      rw [hs] at htext
      rw [(h.foldl_course hx (.inl ha) _ _ _).2.2 ha hs,
        (h'.foldl_course hx (.inl ha') _ _ _).2.2 ha' htext, htexts]
  | some s =>
      rw [hs] at htext
      have hpassages := Matcher.passages_of_text e.options (Document.tree?_of_text? hs)
      have hpassages' := Matcher.passages_of_text e.options (Document.tree?_of_text? htext)
      have hsame : d'.passage? x e.options = d.passage? x e.options := by
        have hone (o : Option Passage) :
            ((o.map fun p => (x, p)).toList.map Prod.snd).head? = o := by cases o <;> rfl
        rw [← hone (d'.passage? x e.options), ← hpassages', hread, hpassages, hone]
      cases hp : d.passage? x e.options with
      | none =>
          rw [hp] at hpassages
          rw [hsame, hp] at hpassages'
          rw [Matcher.foldl_apply_of_nothing hpassages, Matcher.foldl_apply_of_nothing hpassages']
      | some p =>
          rw [Matcher.scanSkips_of_text h.wellFormed hp (.inl ha),
            Matcher.scanSkips_of_text h'.wellFormed (hsame.trans hp) (.inl ha')]

end Tracks

end TextMasking
