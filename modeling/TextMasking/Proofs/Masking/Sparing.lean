import TextMasking.Proofs.Document.Kept
import TextMasking.Proofs.Document.Links
import TextMasking.Proofs.Masking.Steps
import TextMasking.Proofs.Session.Lines

/-! # What a pass spares

A pass takes apart texts at or below its node that are not excluded.  Everything else is spared
(`Document.spared`): the elements with their attributes, the masks that are there, the texts in
excluded elements, and whatever is not below the node.  Read without the leaves that are not spared,
the document is the same after each step of the pass (`Spares`), although each rule sees what the
rules before it have left.  Nothing new comes below an excluded element. -/

namespace TextMasking

namespace Document

/-- Whether a pass over `x` must leave a node alone: it is not a text, or an excluded one, or it
does not lie at or below `x`.  A node that is not known yet is not spared. -/
def spared (d : Document) (x id : NodeId) : Bool :=
  match d.tree? id with
  | none => false
  | some (.text ..) => d.excluded id || !(d.subtree x).contains id
  | some _ => true

variable {d : Document} {x id : NodeId}

theorem spared_of_fresh_le (wf : d.WellFormed) (h : d.fresh ≤ id) : d.spared x id = false := by
  have hid : id ∉ d.ids := by
    rw [wf.mem_ids_iff]
    exact Nat.not_lt_of_le h
  rw [spared, tree?_eq_none_iff.mpr hid]

theorem mem_ids_of_spared (h : d.spared x id = true) : id ∈ d.ids := by
  by_contra hid
  rw [spared, tree?_eq_none_iff.mpr hid] at h
  cases h

/-- Nothing is below a node that is not spared. -/
theorem tag?_eq_none_of_not_spared (h : d.spared x id = false) : d.tag? id = none := by
  unfold spared at h
  unfold tag?
  split at h
  · rename_i ht
    rw [ht]
  · rename_i ht
    rw [ht]
  · cases h

theorem children_eq_nil (h : d.tag? id = none) : d.children id = [] := by
  rw [List.eq_nil_iff_forall_not_mem]
  intro c hc
  obtain ⟨t, a, g, hid, -⟩ := mem_children_iff_tree?.mp hc
  have := isSome_tag?_iff.mpr ⟨t, a, g, hid⟩
  rw [h] at this
  cases this

theorem WellFormed.isSome_tag?_iff_mem (wf : d.WellFormed) :
    (d.tag? id).isSome ↔ ∃ t, (id, .element t) ∈ d.nodes := by
  rw [isSome_tag?_iff]
  constructor
  · rintro ⟨t, a, g, hid⟩
    exact ⟨t, nodes_subset_of_tree? hid List.mem_cons_self⟩
  · rintro ⟨t, hmem⟩
    obtain ⟨a, g, hid⟩ := wf.exists_tree?_element hmem
    exact ⟨t, a, g, hid⟩

theorem WellFormed.mask?_eq_some_iff (wf : d.WellFormed) {m : Mask} :
    d.mask? id = some m ↔ (id, .mask m) ∈ d.nodes := by
  rw [← wf.tree?_mask_iff, mask?]
  constructor
  · intro h
    split at h
    · rename_i ht
      cases h
      cases isNode_of_tree? ht
      exact ht
    · cases h
  · intro h
    rw [h]

/-- A mask that was not there is a new node. -/
theorem not_mem_ids_of_mask? {d' : Document} {m : Mask} (wf : d.WellFormed) (wf' : d'.WellFormed)
    (hsub : d.nodes ⊆ d'.nodes) (hmask : d'.mask? id = some m) (hnone : d.mask? id = none) :
    id ∉ d.ids := by
  intro hid
  rw [← map_fst_nodes] at hid
  obtain ⟨⟨id, k⟩, hk, rfl⟩ := List.mem_map.mp hid
  obtain rfl := wf'.kind_unique (hsub hk) (wf'.mask?_eq_some_iff.mp hmask)
  rw [wf.mask?_eq_some_iff.mpr hk] at hnone
  cases hnone

/-- What a node excludes by itself is what its spot says. -/
theorem WellFormed.excludesBelow_of_mem_spots (wf : d.WellFormed) {s : Spot}
    (h : (id, s) ∈ d.spots) : d.excludesBelow id = s.excluded := by
  obtain ⟨p, hp, rfl⟩ := wf.place?_of_mem_spots h
  rw [excludesBelow, tree?_of_place? hp]
  rfl

end Document

/-- Fragments are texts and masks. -/
theorem Fragment.element_not_mem_toForest {fresh id : NodeId} {t : String}
    {fragments : List Fragment} : (id, .element t) ∉ (toForest fresh fragments).nodes := by
  induction fragments generalizing fresh with
  | nil => exact List.not_mem_nil
  | cons f rest ih => cases f <;> simp [toForest, Forest.nodes, ih]

/-- From `d` to `d'` what a pass over `x` must leave alone was left alone, and nothing new came
below an excluded element. -/
structure Spares (x : NodeId) (d d' : Document) : Prop where
  wellFormed : d'.WellFormed
  fresh_le : d.fresh ≤ d'.fresh
  element_mem : ∀ i t, (i, .element t) ∈ d'.nodes → (i, .element t) ∈ d.nodes
  kept_eq : d'.kept (d.spared x) = d.kept (d.spared x)
  new_above : ∀ i s, (i, s) ∈ d'.spots → i ∉ d.ids →
    (s.above.any fun a => excludes a.tag a.attributes) = false

namespace Spares

variable {m : Matcher} {x : NodeId} {options : Options} {d d' d'' : Document} {f : Finding}

theorem refl (wf : d.WellFormed) : Spares x d d :=
  ⟨wf, Nat.le_refl _, fun _ _ h => h, rfl, fun _ _ hs hi =>
    absurd (d.map_fst_spots ▸ List.mem_map_of_mem hs) hi⟩

/-- A text that the pass reads now was not spared when the pass began. -/
theorem spared_of_found (wf : d.WellFormed) (h : Spares x d d') (hf : m.Found x options d' f) :
    d.spared x f.id = false := by
  obtain ⟨htext, hopen, hplace⟩ := hf.place h.wellFormed
  rw [Bool.eq_false_iff]
  intro hs
  have hagree := Document.agree_of_kept h.kept_eq hs
  rw [hagree.text?_eq, Document.text?] at htext
  rw [hagree.excluded_eq] at hopen
  rw [hagree.above_eq] at hplace
  have hsub : (d.subtree x).contains f.id = true :=
    List.contains_iff_mem.mpr
      (wf.mem_subtree_iff.mpr ⟨Document.mem_ids_of_spared hs, hplace⟩)
  unfold Document.spared at hs
  split at hs
  · cases hs
  · rw [hopen, hsub] at hs
    cases hs
  · rename_i n hn hnode
    rw [hnode] at htext
    cases n <;> simp_all

/-- **One text is taken apart:** what must be left alone still is. -/
theorem replace {new : List NodeId} (wf : d.WellFormed) (h : Spares x d d')
    (hf : m.Found x options d' f)
    (hrep : d'.replaceText f.id (Fragment.ofMatches f.text f.found) = .ok (new, d'')) :
    Spares x d d'' where
  wellFormed := (Document.Extends.replaceText h.wellFormed hrep).wellFormed h.wellFormed
  fresh_le := h.fresh_le.trans (Document.Extends.replaceText h.wellFormed hrep).fresh_le
  element_mem := by
    intro i t hi
    refine h.element_mem i t ?_
    rw [(Document.nodes_replaceText_perm h.wellFormed hrep).mem_iff, List.mem_append] at hi
    exact hi.resolve_right Fragment.element_not_mem_toForest
  kept_eq := by
    refine (Document.kept_replaceText hrep (h.spared_of_found wf hf) ?_).trans h.kept_eq
    intro i hi
    exact Document.spared_of_fresh_le wf (h.fresh_le.trans hi)
  new_above := by
    intro i s hs hi
    cases Document.above_of_mem_replaceText hrep hs with
    | inl hold => exact h.new_above i s hold hi
    | inr hnew =>
        cases hnew with
        | inl hnil => rw [hnil, List.any_nil]
        | inr hplace =>
            obtain ⟨s₀, hs₀, habove⟩ := hplace
            have hopen := (hf.place h.wellFormed).2.1
            rw [h.wellFormed.excluded_of_mem_spots hs₀, Bool.or_eq_false_iff] at hopen
            rw [habove]
            exact hopen.2

/-- Each step of a rule leaves alone what must be left alone. -/
theorem keeps (wf : d.WellFormed) (m : Matcher) (x : NodeId) (options : Options) :
    m.Keeps x options fun d' _ => Spares x d d' where
  giveUp := fun _ _ _ h => h
  replace := fun _ _ _ _ _ _ hf hrep h => h.replace wf hf hrep
  leave := fun _ _ _ _ _ _ _ h => h

/-- The children that are spared come in the same order. -/
theorem filter_children (wf : d.WellFormed) (h : Spares x d d') (i : NodeId) :
    (d'.children i).filter (d.spared x) = (d.children i).filter (d.spared x) := by
  by_cases hs : d.spared x i = true
  · exact Document.filter_children_of_kept h.kept_eq hs
  · rw [Bool.not_eq_true] at hs
    have hd := Document.tag?_eq_none_of_not_spared hs
    have hd' : d'.tag? i = none := by
      rw [← Option.not_isSome_iff_eq_none]
      intro hsome
      obtain ⟨t, hmem⟩ := h.wellFormed.isSome_tag?_iff_mem.mp hsome
      have := wf.isSome_tag?_iff_mem.mpr ⟨t, h.element_mem i t hmem⟩
      rw [hd] at this
      cases this
    rw [Document.children_eq_nil hd, Document.children_eq_nil hd']

end Spares

namespace Engine

/-- A pass leaves alone what it must. -/
theorem spares (e : Engine) {d : Document} (wf : d.WellFormed) (x : NodeId) :
    Spares x d (e.apply d x).1 :=
  Engine.keeps (P := fun d' _ => Spares x d d')
    (fun m _ => Spares.keeps wf m x e.options) wf (.refl wf)

/-- What does not lie at or below the node of a pass is as it was. -/
theorem agree_beyond (e : Engine) {d : Document} (wf : d.WellFormed) {x i : NodeId}
    (hi : i ∈ d.ids) (hne : i ≠ x) (habove : x ∉ d.above i) : d.Agree (e.apply d x).1 i := by
  refine Document.agree_of_kept (e.spares wf x).kept_eq ?_
  have hsub : (d.subtree x).contains i = false := by
    rw [Bool.eq_false_iff, ne_eq, List.contains_iff_mem, wf.mem_subtree_iff]
    exact fun h => h.2.elim hne habove
  unfold Document.spared
  split
  · rename_i hnone
    exact absurd hi (Document.tree?_eq_none_iff.mp hnone)
  · rw [hsub, Bool.not_false, Bool.or_true]
  · rfl

/-- **A pass touches only what it may.**  In every document that can be reached, a pass over any
node leaves every node that is spared where it was and as it was, in the same order among its
siblings: elements with their attributes, masks, texts in excluded elements and all that is not at
or below the node.  Nothing is logged, and no element above a new mask is excluded. -/
theorem apply_spares (s : String) (changes : List TreeChange) (e : Engine) (x : NodeId) :
    let d := (Document.ofPlainText s).changeAll changes
    let d' := (e.apply d x).1
    d'.log = d.log ∧
      (∀ i, d.spared x i = true → d'.parent? i = d.parent? i ∧ d'.tag? i = d.tag? i ∧
        (∀ name, d'.attribute? i name = d.attribute? i name) ∧ d'.text? i = d.text? i ∧
          d'.mask? i = d.mask? i) ∧
      (∀ i, (d'.children i).filter (d.spared x) = (d.children i).filter (d.spared x)) ∧
      ∀ i m, d'.mask? i = some m → d.mask? i = none →
        ∀ a ∈ d'.above i, d'.excludesBelow a = false := by
  intro d d'
  have wf : d.WellFormed :=
    Document.wellFormed_changeAll (Document.wellFormed_ofPlainText s) changes
  have h := e.spares wf x
  refine ⟨e.log_apply d x, ?_, h.filter_children wf, ?_⟩
  · intro i hi
    have hagree := Document.agree_of_kept h.kept_eq hi
    exact ⟨hagree.parent?_eq, hagree.tag?_eq, hagree.attribute?_eq, hagree.text?_eq,
      hagree.mask?_eq⟩
  · intro i m hmask hnone a ha
    have hnew := Document.not_mem_ids_of_mask? wf h.wellFormed
      (e.apply_masks wf x).nodes_subset hmask hnone
    obtain ⟨spot, hspot⟩ := Document.exists_spot (Document.mem_ids_of_mem_above ha)
    have hopen := h.new_above i spot hspot hnew
    rw [h.wellFormed.above_of_mem_spots hspot] at ha
    obtain ⟨b, hb, rfl⟩ := List.mem_map.mp ha
    obtain ⟨pre, rest, hcut⟩ := List.append_of_mem hb
    rw [h.wellFormed.excludesBelow_of_mem_spots
      (Document.mem_spots_of_suffix hspot ⟨pre, hcut.symm⟩)]
    rw [Bool.eq_false_iff]
    intro hexcl
    rw [List.any_eq_false] at hopen
    exact hopen b hb hexcl

/-- A paragraph with code and a mask in it: the code and the mask stay, and the text after them is
masked. -/
theorem apply_spares_code :
    let changes : List TreeChange := [.host (.appendElement 0 "p"), .host (.appendText 1 "Bob"),
      .replaceText 2 [.mask ⟨"Bob", "B"⟩], .host (.appendElement 1 "code"),
      .host (.appendText 4 "Acme"), .host (.appendText 1 "by Acme")]
    let d := (Document.ofPlainText "").changeAll changes
    let d' := ((Engine.ofRules [.literal "Acme" "X"] .default).apply d 1).1
    d.spared 1 3 = true ∧ d.spared 1 5 = true ∧ d'.mask? 3 = d.mask? 3 ∧ d'.text? 5 = d.text? 5 ∧
      d'.children 1 = [3, 4, 7, 8] ∧ d'.mask? 8 = some ⟨"Acme", "X"⟩ ∧ d.mask? 8 = none ∧
        d'.excludesBelow 1 = false := by
  intro changes d d'
  obtain ⟨-, hkeep, -, hnew⟩ :=
    apply_spares "" changes (Engine.ofRules [.literal "Acme" "X"] .default) 1
  have hmask : d.spared 1 3 = true := by decide +kernel
  have hcode : d.spared 1 5 = true := by decide +kernel
  have hadded : d'.mask? 8 = some ⟨"Acme", "X"⟩ := by decide +kernel
  have hnone : d.mask? 8 = none := by decide +kernel
  have habove : 1 ∈ d'.above 8 := by decide +kernel
  exact ⟨hmask, hcode, (hkeep 3 hmask).2.2.2.2, (hkeep 5 hcode).2.2.2.1, by decide +kernel, hadded,
    hnone, hnew 8 _ hadded hnone 1 habove⟩

end Engine

end TextMasking
