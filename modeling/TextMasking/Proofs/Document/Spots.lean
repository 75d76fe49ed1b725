import TextMasking.Proofs.Document.Edits

/-! # Where the nodes of a document stand

Every node is listed with the elements above it (`Document.spots`).  Whether a node is attached or
excluded can be read off its spot, and the elements above a node are listed with what is above them
(`Forest.mem_spotsFrom_of_suffix`).

A change of the trees leaves each node in its spot or says where it has gone: what is moved comes
below its new parent with all that it holds (`Forest.mem_spotsFrom_appendChild`), and when a text is
taken apart the others stay where they are (`Forest.mem_spotsFrom_splice`). -/

namespace TextMasking

/-- Where a node stands: the elements above it, nearest first; and whether it is excluded with what
lies below it. -/
structure Spot where
  above : List Forest.Ancestor
  excluded : Bool

namespace Forest

/-- The nodes of a forest below `above`. -/
def spotsFrom (above : List Ancestor) : Forest → List (NodeId × Spot)
  | .nil => []
  | .text i _ rest => (i, ⟨above, false⟩) :: rest.spotsFrom above
  | .mask i _ rest => (i, ⟨above, true⟩) :: rest.spotsFrom above
  | .element i t a children rest =>
    (i, ⟨above, excludes t a⟩) ::
      (children.spotsFrom (⟨i, t, a⟩ :: above) ++ rest.spotsFrom above)

@[simp] theorem map_fst_spotsFrom (above : List Ancestor) (f : Forest) :
    (f.spotsFrom above).map Prod.fst = f.ids := by
  induction f generalizing above with
  | nil => rfl
  | text i s rest ih => simp [spotsFrom, ids, ih]
  | mask i m rest ih => simp [spotsFrom, ids, ih]
  | element i t a c rest ihc ih => simp [spotsFrom, ids, ihc, ih]

theorem mem_ids_of_mem_spotsFrom {f : Forest} {above : List Ancestor} {i : NodeId} {s : Spot}
    (h : (i, s) ∈ f.spotsFrom above) : i ∈ f.ids := by
  rw [← map_fst_spotsFrom above f]
  exact List.mem_map_of_mem h

@[simp] theorem spotsFrom_append (above : List Ancestor) (f g : Forest) :
    (f ++ g).spotsFrom above = f.spotsFrom above ++ g.spotsFrom above := by
  induction f with
  | nil => rfl
  | text i s rest ih => simp [spotsFrom, ih]
  | mask i m rest ih => simp [spotsFrom, ih]
  | element i t a c rest _ ih => simp [spotsFrom, ih]

/-- The spot of a place. -/
def Place.toSpot (p : Place) : Spot := ⟨p.above, p.node.headExcluded⟩

theorem mem_spotsFrom_of_placeFrom {f before : Forest} {above : List Ancestor} {id : NodeId}
    {p : Place} (h : placeFrom above before id f = some p) :
    (id, p.toSpot) ∈ f.spotsFrom above := by
  induction f generalizing above before with
  | nil => cases h
  | text i s rest ih | mask i m rest ih =>
      rw [placeFrom] at h
      split_ifs at h with e
      · cases h
        cases e
        exact List.mem_cons_self
      · exact List.mem_cons_of_mem _ (ih h)
  | element i t a c rest ihc ih =>
      rw [placeFrom] at h
      split_ifs at h with e
      · cases h
        cases e
        exact List.mem_cons_self
      · refine List.mem_cons_of_mem _ (List.mem_append.mpr ?_)
        cases hc : placeFrom (⟨i, t, a⟩ :: above) .nil id c with
        | some q =>
            rw [hc] at h
            cases h
            exact .inl (ihc hc)
        | none =>
            rw [hc] at h
            exact .inr (ih h)

/-! ### Elements above a node -/

theorem suffix_of_mem_spotsFrom {f : Forest} {above : List Ancestor} {i : NodeId} {s : Spot}
    (h : (i, s) ∈ f.spotsFrom above) : above <:+ s.above := by
  induction f generalizing above with
  | nil => cases h
  | text j _ rest ih | mask j m rest ih =>
      rcases List.mem_cons.mp h with e | h
      · cases e
        exact List.suffix_rfl
      · exact ih h
  | element j t a c rest ihc ih =>
      rcases List.mem_cons.mp h with e | h
      · cases e
        exact List.suffix_rfl
      · rcases List.mem_append.mp h with h | h
        · exact (List.suffix_cons _ _).trans (ihc h)
        · exact ih h

/-- An element above a node is above the whole forest, or it is listed with what is above it. -/
theorem mem_spotsFrom_of_suffix {f : Forest} {above rest : List Ancestor} {i : NodeId} {s : Spot}
    {b : Ancestor} (h : (i, s) ∈ f.spotsFrom above) (hs : b :: rest <:+ s.above) :
    b :: rest <:+ above ∨ (b.id, ⟨rest, excludes b.tag b.attributes⟩) ∈ f.spotsFrom above := by
  induction f generalizing above with
  | nil => cases h
  | text j _ more ih | mask j m more ih =>
      rcases List.mem_cons.mp h with e | h
      · cases e
        exact .inl hs
      · exact (ih h).imp_right (List.mem_cons_of_mem _)
  | element j t a c more ihc ih =>
      rcases List.mem_cons.mp h with e | h
      · cases e
        exact .inl hs
      · rcases List.mem_append.mp h with h | h
        · rcases ihc h with hsuf | hmem
          · rcases List.suffix_cons_iff.mp hsuf with e | hsuf
            · cases e
              exact .inr List.mem_cons_self
            · exact .inl hsuf
          · exact .inr (List.mem_cons_of_mem _ (List.mem_append_left _ hmem))
        · exact (ih h).imp_right fun h => List.mem_cons_of_mem _ (List.mem_append_right _ h)

/-- Everything in a tree lies below its node, apart from the node. -/
theorem IsNode.spot_cases {t : Forest} {id i : NodeId} {above : List Ancestor} {s : Spot}
    (ht : IsNode id t) (h : (i, s) ∈ t.spotsFrom above) :
    i = id ∧ s.above = above ∨ ∃ b : Ancestor, b.id = id ∧ b :: above <:+ s.above := by
  cases ht with
  | text c | mask m =>
      rw [List.mem_singleton.mp h |> fun e => (Prod.mk.inj e).1,
        List.mem_singleton.mp h |> fun e => (Prod.mk.inj e).2]
      exact .inl ⟨rfl, rfl⟩
  | element t a c =>
      rw [spotsFrom, spotsFrom, List.append_nil] at h
      rcases List.mem_cons.mp h with e | h
      · cases e
        exact .inl ⟨rfl, rfl⟩
      · exact .inr ⟨⟨id, t, a⟩, rfl, suffix_of_mem_spotsFrom h⟩

/-! ### Changes -/

theorem mem_spotsFrom_erase {f : Forest} {above : List Ancestor} {id i : NodeId} {s : Spot}
    (h : (i, s) ∈ (f.erase id).spotsFrom above) : (i, s) ∈ f.spotsFrom above := by
  induction f generalizing above with
  | nil => exact h
  | text j c rest ih | mask j m rest ih =>
      rw [erase] at h
      split_ifs at h
      · exact List.mem_cons_of_mem _ h
      · exact List.mem_cons.mpr ((List.mem_cons.mp h).imp_right ih)
  | element j t a c rest ihc ih =>
      rw [erase] at h
      split_ifs at h
      · exact List.mem_cons_of_mem _ (List.mem_append_right _ h)
      · refine List.mem_cons.mpr ((List.mem_cons.mp h).imp_right fun h => ?_)
        exact List.mem_append.mpr ((List.mem_append.mp h).imp ihc ih)

/-- A node is where it was, or it has come with the tree below its new parent. -/
theorem mem_spotsFrom_appendChild {f tree : Forest} {above : List Ancestor} {parent i : NodeId}
    {s : Spot} (h : (i, s) ∈ (appendChild parent tree f).spotsFrom above) :
    (i, s) ∈ f.spotsFrom above ∨ ∃ b : Ancestor, ∃ rest, b.id = parent ∧
      (i, s) ∈ tree.spotsFrom (b :: rest) := by
  induction f generalizing above with
  | nil => exact .inl h
  | text j c rest ih | mask j m rest ih =>
      rcases List.mem_cons.mp h with e | h
      · exact .inl (e ▸ List.mem_cons_self)
      · exact (ih h).imp_left (List.mem_cons_of_mem _)
  | element j t a c rest ihc ih =>
      rw [appendChild] at h
      split_ifs at h with e
      · rw [spotsFrom, spotsFrom_append] at h
        rcases List.mem_cons.mp h with h | h
        · exact .inl (List.mem_cons.mpr (.inl h))
        · rcases List.mem_append.mp h with h | h
          · rcases List.mem_append.mp h with h | h
            · exact .inl (List.mem_cons_of_mem _ (List.mem_append_left _ h))
            · exact .inr ⟨⟨j, t, a⟩, above, e, h⟩
          · exact .inl (List.mem_cons_of_mem _ (List.mem_append_right _ h))
      · rcases List.mem_cons.mp h with h | h
        · exact .inl (List.mem_cons.mpr (.inl h))
        · rcases List.mem_append.mp h with h | h
          · exact (ihc h).imp_left fun h =>
              List.mem_cons_of_mem _ (List.mem_append_left _ h)
          · exact (ih h).imp_left fun h =>
              List.mem_cons_of_mem _ (List.mem_append_right _ h)

/-- A node with the numbers of the elements above it. -/
def links (n : NodeId × Spot) : NodeId × List NodeId := (n.1, n.2.above.map (·.id))

theorem map_links_congr {f : Forest} (above above' : List Ancestor)
    (ha : above'.map (·.id) = above.map (·.id)) :
    (f.spotsFrom above').map links = (f.spotsFrom above).map links := by
  induction f generalizing above above' with
  | nil => rfl
  | text j c rest ih => simp [spotsFrom, links, ha, ih above above' ha]
  | mask j m rest ih => simp [spotsFrom, links, ha, ih above above' ha]
  | element j t a c rest ihc ih =>
      have hc := ihc (⟨j, t, a⟩ :: above) (⟨j, t, a⟩ :: above') (by simp [ha])
      simp [spotsFrom, links, ha, ih above above' ha, hc]

/-- Setting an attribute leaves every node below the same elements. -/
theorem map_links_setAttribute {f : Forest} {id : NodeId} {name value : String}
    (above above' : List Ancestor) (ha : above'.map (·.id) = above.map (·.id)) :
    ((f.setAttribute id name value).spotsFrom above').map links =
      (f.spotsFrom above).map links := by
  induction f generalizing above above' with
  | nil => rfl
  | text j c rest ih => simp [setAttribute, spotsFrom, links, ha, ih above above' ha]
  | mask j m rest ih => simp [setAttribute, spotsFrom, links, ha, ih above above' ha]
  | element j t a c rest ihc ih =>
      rw [setAttribute]
      split_ifs
      · have hc := map_links_congr (f := c) (⟨j, t, a⟩ :: above)
          (⟨j, t, setAttributes name value a⟩ :: above') (by simp [ha])
        simp [spotsFrom, links, ha, map_links_congr above above' ha, hc]
      · have hc := ihc (⟨j, t, a⟩ :: above) (⟨j, t, a⟩ :: above') (by simp [ha])
        simp [spotsFrom, links, ha, ih above above' ha, hc]

/-- **The nodes of a forest in which a text was taken apart** are the others, where they were, and
the leaves in its place. -/
theorem mem_spotsFrom_splice {f leaves : Forest} {above : List Ancestor} {id i : NodeId} {s : Spot}
    (h : (i, s) ∈ (splice id leaves f).spotsFrom above) :
    (i, s) ∈ f.spotsFrom above ∨ i ∈ leaves.ids := by
  induction f generalizing above with
  | nil => exact .inl h
  | text j c rest ih =>
      rw [splice] at h
      split_ifs at h
      · rw [spotsFrom_append] at h
        rcases List.mem_append.mp h with h | h
        · exact .inr (mem_ids_of_mem_spotsFrom h)
        · exact .inl (List.mem_cons_of_mem _ h)
      · rcases List.mem_cons.mp h with e | h
        · exact .inl (e ▸ List.mem_cons_self)
        · exact (ih h).imp_left (List.mem_cons_of_mem _)
  | mask j m rest ih =>
      rcases List.mem_cons.mp h with e | h
      · exact .inl (e ▸ List.mem_cons_self)
      · exact (ih h).imp_left (List.mem_cons_of_mem _)
  | element j t a c rest ihc ih =>
      rcases List.mem_cons.mp h with e | h
      · exact .inl (e ▸ List.mem_cons_self)
      · rcases List.mem_append.mp h with h | h
        · exact (ihc h).imp_left fun h => List.mem_cons_of_mem _ (List.mem_append_left _ h)
        · exact (ih h).imp_left fun h => List.mem_cons_of_mem _ (List.mem_append_right _ h)

end Forest

namespace Document

/-! ### Spots of a document -/

/-- Every node of the document with where it stands. -/
def spots (d : Document) : List (NodeId × Spot) :=
  d.trees.flatMap (Forest.spotsFrom [])

@[simp] theorem map_fst_spots (d : Document) : d.spots.map Prod.fst = d.ids := by
  simp [spots, ids, List.map_flatMap]

theorem mem_spots_of_place? {d : Document} {id : NodeId} {p : Forest.Place}
    (h : d.place? id = some p) : (id, p.toSpot) ∈ d.spots := by
  obtain ⟨t, ht, -, htp⟩ := exists_tree_of_place? h
  exact List.mem_flatMap.mpr ⟨t, ht, Forest.mem_spotsFrom_of_placeFrom htp⟩

theorem exists_spot {d : Document} {id : NodeId} (h : id ∈ d.ids) : ∃ s, (id, s) ∈ d.spots := by
  rw [← map_fst_spots] at h
  obtain ⟨⟨i, s⟩, hs, rfl⟩ := List.mem_map.mp h
  exact ⟨s, hs⟩

/-- The elements above a node are listed with what is above them. -/
theorem mem_spots_of_suffix {d : Document} {id : NodeId} {s : Spot} {b : Forest.Ancestor}
    {rest : List Forest.Ancestor} (h : (id, s) ∈ d.spots) (hs : b :: rest <:+ s.above) :
    (b.id, ⟨rest, excludes b.tag b.attributes⟩) ∈ d.spots := by
  obtain ⟨t, ht, hid⟩ := List.mem_flatMap.mp h
  rcases Forest.mem_spotsFrom_of_suffix hid hs with hnil | hb
  · cases List.suffix_nil.mp hnil
  · exact List.mem_flatMap.mpr ⟨t, ht, hb⟩

theorem above_eq_nil_of_not_mem {d : Document} {id : NodeId} (h : id ∉ d.ids) :
    d.above id = [] := by
  rw [above, place?_eq_none_iff.mpr h]

theorem mem_ids_of_mem_above {d : Document} {x id : NodeId} (h : x ∈ d.above id) : id ∈ d.ids := by
  by_contra hid
  rw [above_eq_nil_of_not_mem hid] at h
  cases h

namespace WellFormed

variable {d : Document} (wf : d.WellFormed)
include wf

/-- A node stands in one spot, the one where it is looked up. -/
theorem place?_of_mem_spots {id : NodeId} {s : Spot} (h : (id, s) ∈ d.spots) :
    ∃ p, d.place? id = some p ∧ p.toSpot = s := by
  have hid : id ∈ d.ids := by
    rw [← map_fst_spots]
    exact List.mem_map_of_mem h
  cases hp : d.place? id with
  | none => exact absurd hid (place?_eq_none_iff.mp hp)
  | some p =>
      have hn := wf.ids_nodup
      rw [← map_fst_spots] at hn
      have e := List.inj_on_of_nodup_map hn (mem_spots_of_place? hp) h rfl
      exact ⟨p, rfl, (Prod.mk.inj e).2⟩

theorem above_of_mem_spots {id : NodeId} {s : Spot} (h : (id, s) ∈ d.spots) :
    d.above id = s.above.map (·.id) := by
  obtain ⟨p, hp, rfl⟩ := wf.place?_of_mem_spots h
  rw [above, hp]
  rfl

theorem excluded_of_mem_spots {id : NodeId} {s : Spot} (h : (id, s) ∈ d.spots) :
    d.excluded id = (s.excluded || s.above.any fun a => excludes a.tag a.attributes) := by
  obtain ⟨p, hp, rfl⟩ := wf.place?_of_mem_spots h
  rw [excluded, hp]
  rfl

/-- Where two documents list a node in the same spot, the same is said of it in both. -/
theorem eq_of_mem_spots {d' : Document} (wf' : d'.WellFormed) {id : NodeId} {s : Spot}
    (h : (id, s) ∈ d.spots) (h' : (id, s) ∈ d'.spots) :
    d'.above id = d.above id ∧ d'.excluded id = d.excluded id :=
  ⟨(wf'.above_of_mem_spots h').trans (wf.above_of_mem_spots h).symm,
    (wf'.excluded_of_mem_spots h').trans (wf.excluded_of_mem_spots h).symm⟩

/-- Above an element above a node is what is above the node from there on. -/
theorem above_split {x id : NodeId} (h : x ∈ d.above id) :
    ∃ pre, d.above id = pre ++ x :: d.above x := by
  obtain ⟨s, hs⟩ := exists_spot (mem_ids_of_mem_above h)
  rw [wf.above_of_mem_spots hs] at h ⊢
  obtain ⟨b, hb, rfl⟩ := List.mem_map.mp h
  obtain ⟨pre, rest, e⟩ := List.append_of_mem hb
  refine ⟨pre.map (·.id), ?_⟩
  rw [wf.above_of_mem_spots (mem_spots_of_suffix hs ⟨pre, e.symm⟩), e, List.map_append,
    List.map_cons]

theorem above_subset {x id : NodeId} (h : x ∈ d.above id) : d.above x ⊆ d.above id := by
  obtain ⟨pre, e⟩ := wf.above_split h
  rw [e]
  exact fun y hy => List.mem_append_right _ (List.mem_cons_of_mem _ hy)

/-- No node is above itself. -/
theorem not_mem_above_self {id : NodeId} : id ∉ d.above id := by
  intro h
  obtain ⟨pre, e⟩ := wf.above_split h
  have := congrArg List.length e
  simp only [List.length_append, List.length_cons] at this
  omega

/-- An element above a node that is not excluded is not excluded. -/
theorem excluded_of_mem_above {x id : NodeId} (h : x ∈ d.above id)
    (hid : d.excluded id = false) : d.excluded x = false := by
  obtain ⟨s, hs⟩ := exists_spot (mem_ids_of_mem_above h)
  rw [wf.above_of_mem_spots hs] at h
  obtain ⟨b, hb, rfl⟩ := List.mem_map.mp h
  obtain ⟨pre, rest, e⟩ := List.append_of_mem hb
  rw [wf.excluded_of_mem_spots hs, e, List.any_append, List.any_cons, Bool.or_eq_false_iff,
    Bool.or_eq_false_iff] at hid
  rw [wf.excluded_of_mem_spots (mem_spots_of_suffix hs ⟨pre, e.symm⟩)]
  exact hid.2.2

/-- Of two elements above a node, or the node itself, one is above the other. -/
theorem comparable {x y id : NodeId} (hx : id = x ∨ x ∈ d.above id)
    (hy : id = y ∨ y ∈ d.above id) : x = y ∨ x ∈ d.above y ∨ y ∈ d.above x := by
  rcases hx with rfl | hx
  · exact hy.imp_right .inr
  · rcases hy with rfl | hy
    · exact .inr (.inl hx)
    · obtain ⟨pre, e⟩ := wf.above_split hx
      obtain ⟨pre', e'⟩ := wf.above_split hy
      rw [e] at e'
      rcases List.append_eq_append_iff.mp e' with ⟨mid, -, e⟩ | ⟨mid, -, e⟩
      · cases mid with
        | nil => exact .inl (List.cons.inj e).1
        | cons z mid =>
            refine .inr (.inr ?_)
            rw [(List.cons.inj e).2]
            simp
      · cases mid with
        | nil => exact .inl (List.cons.inj e).1.symm
        | cons z mid =>
            refine .inr (.inl ?_)
            rw [(List.cons.inj e).2]
            simp

end WellFormed

theorem attached_iff_mem {d : Document} {id : NodeId} :
    d.attached id = true ↔ id = root ∨ root ∈ d.above id := by
  rw [attached, Bool.or_eq_true, beq_iff_eq, List.contains_iff_mem]

/-- While the root has no parent, what is above an attached node is attached. -/
theorem WellFormed.attached_of_mem_above {d : Document} (wf : d.WellFormed)
    (htop : d.above root = []) {x id : NodeId} (h : x ∈ d.above id) (ha : d.attached id = true) :
    d.attached x = true := by
  rw [attached_iff_mem] at ha ⊢
  have hroot : root ∈ d.above id := by
    refine ha.resolve_left ?_
    rintro rfl
    rw [htop] at h
    cases h
  rcases wf.comparable (.inr h) (.inr hroot) with e | hx | hx
  · exact .inl e
  · rw [htop] at hx
    cases hx
  · exact .inr hx

/-! ### Taking a text apart -/

namespace WellFormed

variable {d d' : Document} {id : NodeId} {fragments : List Fragment} {new : List NodeId}
  (wf : d.WellFormed) (h : d.replaceText id fragments = .ok (new, d'))
include wf h

/-- The other nodes stay where they are. -/
theorem mem_spots_replaceText {i : NodeId} {s : Spot} (hne : i ≠ id) (hs : (i, s) ∈ d.spots) :
    (i, s) ∈ d'.spots := by
  have e := Extends.replaceText wf h
  have wf' := e.wellFormed wf
  obtain ⟨p, _, -, -, -, -, ht, -⟩ := replaceText_cases h
  have hi : i < d.fresh := wf.mem_ids_iff.mp (d.map_fst_spots ▸ List.mem_map_of_mem hs)
  obtain ⟨s', hs'⟩ := exists_spot (wf'.mem_ids_iff.mpr (Nat.lt_of_lt_of_le hi e.fresh_le))
  have hmem := hs'
  rw [spots, ht, List.flatMap_append, List.mem_append, List.flatMap_map] at hmem
  rcases hmem with hmem | hmem
  · obtain ⟨f, hf, hmem⟩ := List.mem_flatMap.mp hmem
    rcases Forest.mem_spotsFrom_splice hmem with hmem | hmem
    · have hold : (i, s') ∈ d.spots := List.mem_flatMap.mpr ⟨f, hf, hmem⟩
      have hn := wf.ids_nodup
      rw [← map_fst_spots] at hn
      rwa [List.inj_on_of_nodup_map hn hs hold rfl]
    · rw [Fragment.ids_toForest, List.mem_range'_1] at hmem
      exact absurd hmem.1 (Nat.not_le_of_lt hi)
  · rw [List.flatMap_singleton, Forest.spotsFrom] at hmem
    exact absurd (Prod.mk.inj (List.mem_singleton.mp hmem)).1 hne

/-- The text itself is not the root and has no parent any more. -/
theorem above_replaceText_self : id ≠ root ∧ d'.above id = [] := by
  have wf' := (Extends.replaceText wf h).wellFormed wf
  obtain ⟨p, s, hp, hnode, -, -, ht, -⟩ := replaceText_cases h
  constructor
  · rintro rfl
    obtain ⟨t, a, c, hr⟩ := wf.exists_tree?_root
    rw [tree?_of_place? hp, hnode] at hr
    cases hr
  · have hloose : (id, ⟨[], false⟩) ∈ d'.spots := by
      rw [spots, ht]
      exact List.mem_flatMap.mpr
        ⟨_, List.mem_append_right _ (List.mem_singleton.mpr rfl), List.mem_cons_self⟩
    exact wf'.above_of_mem_spots hloose

end WellFormed

end Document

end TextMasking
