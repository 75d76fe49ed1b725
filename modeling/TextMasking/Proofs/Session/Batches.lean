import TextMasking.Proofs.Masking.Courses
import TextMasking.Proofs.Masking.Pieces
import TextMasking.Proofs.Masking.Sparing
import TextMasking.Proofs.Session.Coverage

/-! # A batch is a set

The passes of a batch are run over nodes that do not overlap.  So each of them finds its texts as
they were when the batch came in, also if rules were given up before (`Session.Awaits`), and all of
them together make of each text what the one pass over it makes of it.  Hence the order of the
entries does not matter, nor how often a node is named (`Session.handleBatch_set`).

This holds unless a pass is run over a node that the batch itself has made: a batch may name a node
that is not known yet, and whether it is known at its turn depends on the passes before
(`Session.not_handleBatch_set`). -/

namespace TextMasking

open Turn (Agree PartOf Under afterAll course overNode scansOf textsAt)

namespace Turn

variable {o : Options} {n i : NodeId} {u : TextUnit} {T : NodeId → List Turn}
  {order order' : List NodeId}

/-- Turns over nodes that no text lies at or below together make of a text what those over the one
that holds it make of it, and so their order does not matter. -/
theorem yield_flatMap_perm (hp : order.Perm order') (hn : order.Nodup)
    (hT : ∀ z, ∀ t ∈ T z, t.scope = z) (hlt : ∀ z ∈ order, z < n)
    (hone : ∀ z ∈ order, ∀ z' ∈ order, (i = z ∨ z ∈ u.above.map (·.id)) →
      (i = z' ∨ z' ∈ u.above.map (·.id)) → z = z') :
    yield o n (order.flatMap T) i u = yield o n (order'.flatMap T) i u := by
  have hheld {z j : NodeId} {v : TextUnit} {t : Turn} (hz : z ∈ order) (ht : t ∈ T z)
      (hv : PartOf n i u.above j v) (hr : t.Reaches j v) : i = z ∨ z ∈ u.above.map (·.id) := by
    obtain rfl := hT z t ht
    exact hv.held (hlt _ hz) hr
  by_cases hc : ∃ c ∈ order, i = c ∨ c ∈ u.above.map (·.id)
  · obtain ⟨c, hc, hcu⟩ := hc
    have hidle : ∀ z ∈ order, z ≠ c → ∀ t ∈ T z, ∀ j v, PartOf n i u.above j v →
        t.scan o j v = .ok [] := fun z hz hne t ht j v hv =>
      scan_of_not_reaches fun hr => hne (hone z hz c hc (hheld hz ht hv hr) hcu)
    rw [yield_agree (.flatMap hn hc hidle) ⟨rfl, .inl rfl⟩,
      yield_agree (.flatMap (hp.nodup_iff.mp hn) (hp.subset hc)
        fun z hz => hidle z (hp.symm.subset hz)) ⟨rfl, .inl rfl⟩]
  · have hidle (t : Turn) (ht : t ∈ order.flatMap T) : t.scan o i u = .ok [] := by
      obtain ⟨z, hz, ht⟩ := List.mem_flatMap.mp ht
      exact scan_of_not_reaches fun hr => hc ⟨z, hz, hheld hz ht ⟨rfl, .inl rfl⟩ hr⟩
    have hidle' (t : Turn) (ht : t ∈ order'.flatMap T) : t.scan o i u = .ok [] :=
      hidle t ((hp.flatMap_right T).mem_iff.mpr ht)
    rw [yield_of_idle hidle, yield_of_idle hidle']

end Turn

/-- Documents that the same trees follow show the same at an old node. -/
theorem Tracks.tree?_congr {n id : NodeId} {trees : List Forest} {d D D' : Document}
    (h : Tracks n trees D) (h' : Tracks n trees D') (hsub : d.nodes ⊆ D.nodes)
    (hsub' : d.nodes ⊆ D'.nodes) (hid : id ∈ d.ids) (hlt : id < n) :
    (D'.tree? id).map (Forest.blur n) = (D.tree? id).map (Forest.blur n) := by
  rw [← Document.map_fst_nodes] at hid
  obtain ⟨⟨id, kind⟩, hmem, rfl⟩ := List.mem_map.mp hid
  by_cases htext : ∃ s, kind = .text s
  · obtain ⟨s, rfl⟩ := htext
    rw [h'.wellFormed.tree?_text_iff.mpr (hsub' hmem), h.wellFormed.tree?_text_iff.mpr (hsub hmem)]
  · have hno {E : Document} (wf : E.WellFormed) (hE : (id, kind) ∈ E.nodes) (s : String) :
        (id, .text s) ∉ E.nodes := fun hs => htext ⟨s, wf.kind_unique hE hs⟩
    rw [h'.tree?_of_not_text hlt (hno h'.wellFormed (hsub' hmem)),
      h.tree?_of_not_text hlt (hno h.wellFormed (hsub hmem))]

namespace Session

open Mutation (addedNodes)

variable {engine : Engine} {added : List NodeId} {d D : Document} {trees : List Forest}
  {x z : NodeId}

/-! ### Passes over targets -/

/-- A target over which a pass is still to be run stands as it stood when the batch came in, and so
do the texts at it. -/
structure Awaits (added : List NodeId) (d D : Document) (trees : List Forest) (z : NodeId) :
    Prop where
  mem_added : z ∈ added
  mem_ids : z ∈ d.ids
  isTarget : D.isTarget added z = true
  text?_eq : D.text? z = d.text? z
  textsAt_eq : textsAt z trees = textsAt z d.trees

/-- The turns of the matchers that mask in a pass over a node. -/
def turns (engine : Engine) (d : Document) (z : NodeId) : List Turn :=
  overNode z (course engine.options d.fresh z engine.matchers.matchers (textsAt z d.trees)).kept

namespace Awaits

theorem attached (h : Awaits added d D trees z) : D.attached z = true :=
  (Document.isTarget_iff.mp h.isTarget).1

theorem lt (h : Awaits added d D trees z) (wf : d.WellFormed) : z < d.fresh :=
  wf.mem_ids_iff.mp h.mem_ids

/-- **After a pass over another target** a target still stands as it stood. -/
theorem apply (hz : Awaits added d D trees z) (hx : Awaits added d D trees x) (hne : z ≠ x)
    (wf : d.WellFormed) (h : Tracks d.fresh trees D) :
    Awaits added d (engine.apply D x).1 (afterAll engine.options d.fresh (turns engine d x) trees)
      z := by
  have hid : z ∈ D.ids := Document.mem_ids_of_attached h.wellFormed hz.attached
  have hbeyond : x ∉ D.above z := fun hab =>
    (Document.isTarget_iff.mp hz.isTarget).2.2 x hab hx.mem_added
  have hagree := engine.agree_beyond h.wellFormed hid hne hbeyond
  refine ⟨hz.mem_added, hz.mem_ids, ?_, hagree.text?_eq.trans hz.text?_eq, ?_⟩
  · rw [Document.isTarget_confined h.wellFormed (engine.apply_confined h.wellFormed x) hx.mem_added
      hid hne]
    exact hz.isTarget
  · rw [← hz.textsAt_eq]
    refine Turn.textsAt_afterAll (hx.lt wf) (hz.lt wf)
      (fun t ht => Turn.scope_of_mem_overNode ht) (h.apart (hx.lt wf) (hz.lt wf) ?_)
    rintro ⟨i, u⟩ hu ⟨-, hux⟩ ⟨-, huz⟩
    rw [← h.wellFormed.above_of_mem_units hu] at hux huz
    exact hne (Document.target_unique h.wellFormed hz.mem_added hx.mem_added hz.isTarget
      hx.isTarget huz hux)

/-- **The pass over a target** does to the trees what it would have done when the batch came in, and
it reports the same rules. -/
theorem pass (engine : Engine) (hz : Awaits added d D trees z) (wf : d.WellFormed)
    (ha : d.attached z = true) (h : Tracks d.fresh trees D) :
    Tracks d.fresh (afterAll engine.options d.fresh (turns engine d z) trees)
        (engine.apply D z).1 ∧
      Counts (scansOf engine.options d.fresh (turns engine d z) trees) Report.empty
        (engine.apply D z).2 ∧
      (engine.apply D z).2.scanSkips = (engine.apply d z).2.scanSkips := by
  obtain ⟨htracks, hcounts, -⟩ := h.foldl_course (hz.lt wf) (.inl hz.attached) engine.options
    engine.matchers.matchers { Report.empty with compileSkips := engine.matchers.skipped }
  rw [hz.textsAt_eq] at htracks hcounts
  exact ⟨htracks, ⟨hcounts.masksCreated, hcounts.occurrences⟩,
    (Tracks.self wf).scanSkips_congr h engine (hz.lt wf) ha hz.attached hz.text?_eq hz.textsAt_eq⟩

end Awaits

/-- What the passes over targets come to. -/
structure Handled (engine : Engine) (d : Document) (targets : List NodeId) (trees : List Forest)
    (state state' : Report × Document) : Prop where
  tracks : Tracks d.fresh
    (afterAll engine.options d.fresh (targets.flatMap (turns engine d)) trees) state'.2
  counts : Counts (scansOf engine.options d.fresh (targets.flatMap (turns engine d)) trees)
    state.1 state'.1
  nodes_subset : state.2.nodes ⊆ state'.2.nodes
  compileSkips : ∀ skip, skip ∈ state'.1.compileSkips ↔
    skip ∈ state.1.compileSkips ∨ targets ≠ [] ∧ skip ∈ engine.matchers.skipped
  scanSkips : ∀ skip, skip ∈ state'.1.scanSkips ↔
    skip ∈ state.1.scanSkips ∨ ∃ z ∈ targets, skip ∈ (engine.apply d z).2.scanSkips

/-- **Passes over targets, one after the other,** come to what the turns of each of them come to,
taken as they were when the batch came in. -/
theorem handled_foldl_passOver {targets : List NodeId} (wf : d.WellFormed) (hn : targets.Nodup)
    (ha : ∀ z ∈ targets, d.attached z = true) (h : Tracks d.fresh trees D)
    (hz : ∀ z ∈ targets, Awaits added d D trees z) (r : Report) :
    Handled engine d targets trees (r, D) (targets.foldl (passOver engine) (r, D)) := by
  -- on the targets; the trees follow the present document, and the targets to come await their pass
  induction targets generalizing D trees r with
  | nil =>
      refine ⟨?_, ?_, List.Subset.refl _, ?_, ?_⟩
      · rw [List.flatMap_nil, Turn.afterAll_nil]
        exact h
      · rw [List.flatMap_nil, Turn.scansOf_nil]
        exact .of_eq rfl rfl
      · simp
      · simp
  | cons z targets ih =>
      obtain ⟨hnot, hn⟩ := List.nodup_cons.mp hn
      obtain ⟨haz, ha⟩ := List.forall_mem_cons.mp ha
      obtain ⟨hfirst, hrest⟩ := List.forall_mem_cons.mp hz
      obtain ⟨htracks, hcounts, hscan⟩ := hfirst.pass engine wf haz h
      have hnext := ih hn ha htracks (fun z' hz' => (hrest z' hz').apply hfirst
        (fun e => hnot (e ▸ hz')) wf h) (r.merge (engine.apply D z).2)
      rw [List.foldl_cons]
      refine ⟨?_, ?_, ?_, fun skip => ?_, fun skip => ?_⟩
      · rw [List.flatMap_cons, Turn.afterAll_append]
        exact hnext.tracks
      · rw [List.flatMap_cons]
        exact ((hcounts.merge r).trans hnext.counts).perm Turn.scansOf_append.symm
      · exact List.Subset.trans (engine.apply_masks h.wellFormed z).nodes_subset hnext.nodes_subset
      · refine (hnext.compileSkips skip).trans ?_
        have hmerge : skip ∈ (r.merge (engine.apply D z).2).compileSkips ↔ _ :=
          Report.mem_foldl_list
        rw [hmerge, engine.compileSkips_apply, or_assoc]
        simp
        tauto
      · refine (hnext.scanSkips skip).trans ?_
        have hmerge : skip ∈ (r.merge (engine.apply D z).2).scanSkips ↔ _ :=
          Report.mem_foldl_list
        rw [hmerge, hscan, or_assoc]
        simp

/-! ### Batches that name the same nodes -/

/-- Two handlings come to the same: every node that was known is the same with what lies below it,
up to the numbers of new nodes, there are as many masks, as many of each pattern, and the same rules
were left out. -/
structure Alike (d : Document) (handled handled' : Report × Document) : Prop where
  tree?_eq : ∀ id ∈ d.ids, (handled'.2.tree? id).map (Forest.blur d.fresh) =
    (handled.2.tree? id).map (Forest.blur d.fresh)
  masksCreated_eq : handled'.1.masksCreated = handled.1.masksCreated
  occurrences_eq : ∀ pattern, handled'.1.occurrences pattern = handled.1.occurrences pattern
  compileSkips_iff : ∀ skip, skip ∈ handled'.1.compileSkips ↔ skip ∈ handled.1.compileSkips
  scanSkips_iff : ∀ skip, skip ∈ handled'.1.scanSkips ↔ skip ∈ handled.1.scanSkips

/-- A batch whose passes are run over nodes that were known comes to the passes over its targets. -/
theorem handled_handleBatch (wf : d.WellFormed) (options : Options) (engine : Engine)
    (batch : List Mutation)
    (hknown : passRoots engine (addedNodes batch) (addedNodes batch) d ⊆ d.ids) :
    Handled engine d ((addedNodes batch).filter (d.isTarget (addedNodes batch))) d.trees
      (.empty, d) (handleBatch ⟨options, some engine⟩ batch d) := by
  have hnodup : (addedNodes batch).Nodup := nodup_eraseDups _
  have hroots := passRoots_eq_filter wf hnodup (List.Subset.refl _) hknown
  have hhandled : handleBatch ⟨options, some engine⟩ batch d =
      (passRoots engine (addedNodes batch) (addedNodes batch) d).foldl (passOver engine)
        (.empty, d) := foldl_maskAdded engine _ _ _ _
  rw [hhandled, hroots]
  have hawaits : ∀ z ∈ (addedNodes batch).filter (d.isTarget (addedNodes batch)),
      Awaits (addedNodes batch) d d d.trees z := by
    intro z hz
    obtain ⟨hadd, htarget⟩ := List.mem_filter.mp hz
    exact ⟨hadd, hknown (hroots ▸ hz), htarget, rfl, rfl⟩
  exact handled_foldl_passOver wf (hnodup.filter _) (fun z hz => (hawaits z hz).attached) (.self wf)
    hawaits _

/-- The order of the targets does not matter. -/
theorem Handled.alike {targets targets' : List NodeId} {handled handled' : Report × Document}
    (wf : d.WellFormed) (hp : targets.Perm targets') (hn : targets.Nodup)
    (hadd : targets ⊆ added) (ht : ∀ z ∈ targets, d.isTarget added z = true)
    (h : Handled engine d targets d.trees (.empty, d) handled)
    (h' : Handled engine d targets' d.trees (.empty, d) handled') : Alike d handled handled' := by
  -- two targets do not hold a common text, so each text is taken apart in one of the passes
  have hyield : ∀ f ∈ d.trees, ∀ p ∈ f.textsIn [] "" "",
      Turn.yield engine.options d.fresh (targets.flatMap (turns engine d)) p.1 p.2 =
        Turn.yield engine.options d.fresh (targets'.flatMap (turns engine d)) p.1 p.2 := by
    intro f hf p hpf
    have hu := Document.mem_units_of_mem_textsIn hf hpf
    refine Turn.yield_flatMap_perm hp hn (fun z t ht => Turn.scope_of_mem_overNode ht) ?_ ?_
    · intro z hz
      have ha := (Document.isTarget_iff.mp (ht z hz)).1
      exact wf.mem_ids_iff.mp (Document.mem_ids_of_attached wf ha)
    · intro z hz z' hz' hheld hheld'
      rw [← wf.above_of_mem_units hu] at hheld hheld'
      exact Document.target_unique wf (hadd hz) (hadd hz') (ht z hz) (ht z' hz') hheld hheld'
  obtain ⟨hafter, hscans⟩ := Turn.afterAll_congr hyield
  have htracks := h'.tracks
  have hcounts := h'.counts
  rw [← hafter] at htracks
  rw [← hscans] at hcounts
  refine ⟨fun id hid => ?_, ?_, fun pattern => ?_, fun skip => ?_, fun skip => ?_⟩
  · exact h.tracks.tree?_congr htracks h.nodes_subset h'.nodes_subset hid (wf.mem_ids_iff.mp hid)
  · rw [hcounts.masksCreated, h.counts.masksCreated]
  · rw [hcounts.occurrences, h.counts.occurrences]
  · rw [h'.compileSkips, h.compileSkips]
    have hnil : targets' = [] ↔ targets = [] := by
      rw [← List.length_eq_zero_iff, ← List.length_eq_zero_iff, hp.length_eq]
    rw [ne_eq, hnil]
  · rw [h'.scanSkips, h.scanSkips]
    simp only [hp.mem_iff]

/-- **A batch is a set.**  In a document that can be reached, let two batches name the same nodes as
added, in any order, with any repetitions and any other entries, also detached, excluded, nested or
unknown nodes.  If no pass is run over a node that the handling itself has made, as is the case where
all these nodes are known (`passRoots_subset`), the two come to the same, also where rules are given
up. -/
theorem handleBatch_set (s : String) (changes : List TreeChange) (options : Options)
    (engine : Engine) (batch batch' : List Mutation) :
    let d := (Document.ofPlainText s).changeAll changes
    (∀ id, .added id ∈ batch ↔ .added id ∈ batch') →
    passRoots engine (addedNodes batch) (addedNodes batch) d ⊆ d.ids →
    passRoots engine (addedNodes batch') (addedNodes batch') d ⊆ d.ids →
    Alike d (handleBatch ⟨options, some engine⟩ batch d)
      (handleBatch ⟨options, some engine⟩ batch' d) := by
  intro d hsame hknown hknown'
  have wf : d.WellFormed :=
    Document.wellFormed_changeAll (Document.wellFormed_ofPlainText s) changes
  have hmem (id : NodeId) : id ∈ addedNodes batch ↔ id ∈ addedNodes batch' := by
    rw [mem_addedNodes, mem_addedNodes, hsame]
  have hadded : (addedNodes batch).Perm (addedNodes batch') :=
    (List.perm_ext_iff_of_nodup (nodup_eraseDups _) (nodup_eraseDups _)).mpr hmem
  have htarget (id : NodeId) :
      d.isTarget (addedNodes batch) id = d.isTarget (addedNodes batch') id := by
    rw [Bool.eq_iff_iff, Document.isTarget_iff, Document.isTarget_iff]
    simp only [hmem]
  have h := handled_handleBatch wf options engine batch hknown
  have h' := handled_handleBatch wf options engine batch' hknown'
  refine h.alike wf ?_ ((nodup_eraseDups _).filter _) (List.filter_subset_self (addedNodes batch))
    (fun z hz => (List.mem_filter.mp hz).2) h'
  rw [List.filter_congr fun id _ => htarget id]
  exact hadded.filter _

/-- A paragraph is named with its text, in which a rule is given up, and so are another text, one in
an excluded element, an element that is not attached and a node that is not known. -/
theorem handleBatch_set_reordered :
    let changes : List TreeChange := [.host (.appendElement 0 "p"),
      .host (.appendText 1 "Acme Acme Acme Bob"), .host (.appendText 0 "Bob Acme"),
      .host (.appendElement 0 "code"), .host (.appendText 4 "Bob"), .host (.createElement "div")]
    let engine := Engine.ofRules [.literal "Acme" "[A]", .literal "Bob" "[B]"] ⟨2, true⟩
    let d := (Document.ofPlainText "").changeAll changes
    let batch : List Mutation := [.added 2, .added 6, .added 3, .added 99, .added 1, .added 5]
    let batch' : List Mutation := [.removed 6, .added 5, .added 1, .added 3, .attribute 4,
      .added 99, .added 2, .added 6, .added 3]
    let handled := handleBatch ⟨.default, some engine⟩ batch d
    passRoots engine (addedNodes batch) (addedNodes batch) d = [3, 1] ∧
      passRoots engine (addedNodes batch') (addedNodes batch') d = [1, 3] ∧
      handled.1.masksCreated = 2 ∧ handled.1.scanSkips.map (·.pattern) = ["Acme"] ∧
      Alike d handled (handleBatch ⟨.default, some engine⟩ batch' d) := by
  intro changes engine d batch batch' handled
  have hroots : passRoots engine (addedNodes batch) (addedNodes batch) d = [3, 1] := by
    decide +kernel
  have hroots' : passRoots engine (addedNodes batch') (addedNodes batch') d = [1, 3] := by
    decide +kernel
  have hsame (id : NodeId) : .added id ∈ batch ↔ .added id ∈ batch' := by
    simp [batch, batch']
    grind
  have hids : [1, 3] ⊆ d.ids := by decide +kernel
  refine ⟨hroots, hroots', by decide +kernel, by decide +kernel,
    handleBatch_set "" changes .default engine batch batch' hsame ?_ ?_⟩
  · rw [hroots]
    exact fun z hz => hids (List.mem_pair.mpr (List.mem_pair.mp hz).symm)
  · rw [hroots']
    exact hids

/-- A batch names a node that the pass over the text before it makes.  If it is named first, it is
not known at its turn. -/
theorem not_handleBatch_set : ¬∀ (s : String) (changes : List TreeChange) (options : Options)
    (engine : Engine) (batch batch' : List Mutation),
    let d := (Document.ofPlainText s).changeAll changes
    (∀ id, .added id ∈ batch ↔ .added id ∈ batch') →
    Alike d (handleBatch ⟨options, some engine⟩ batch d)
      (handleBatch ⟨options, some engine⟩ batch' d) := by
  intro h
  have hmasks := (h "" [.host (.appendText 0 "Acme Bob")] .default
    (.ofRules [.literal "Acme" "[A]", .literal "Bob" "[B]"] .default) [.added 1, .added 3]
    [.added 3, .added 1] (fun id => by simp [or_comm])).masksCreated_eq
  revert hmasks
  decide +kernel

end Session

end TextMasking
