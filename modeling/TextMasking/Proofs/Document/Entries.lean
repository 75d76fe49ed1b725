import TextMasking.Proofs.Document.Links

/-! # The entries of nodes

A node by itself is what it holds and its links to the node above it and to those right below it
(`NodeEntry`).  A document gives the entry of each of its nodes (`Document.entry`), and its trees
list them all (`Document.entries`, `Document.WellFormed.entry_of_mem`).  One lemma for each change
of a forest says what it does to the entries that are listed: a node is replaced by others
(`Forest.mem_entries_substitute`, of which erasing a node and taking a text apart are cases), a tree
comes below an element (`Forest.mem_entries_appendChild`), an attribute is set
(`Forest.mem_entries_setAttribute`). -/

namespace TextMasking

/-- What a node is, with all that it holds. -/
inductive NodeContent where
  | text (content : String)
  | mask (mask : Mask)
  | element (tag : String) (attributes : Attributes)
  deriving DecidableEq, Repr

/-- The content of an element with an attribute set; nothing else has attributes. -/
def NodeContent.setAttribute (name value : String) : NodeContent → NodeContent
  | .element t a => .element t (Forest.setAttributes name value a)
  | c => c

/-- A node by itself: what it is, and its links. -/
structure NodeEntry where
  content : NodeContent
  parent : Option NodeId
  children : List NodeId
  deriving DecidableEq, Repr

namespace Forest

/-- What the first node is. -/
def content : Forest → NodeContent
  | .nil => .text ""
  | .text _ s _ => .text s
  | .mask _ m _ => .mask m
  | .element _ t a _ _ => .element t a

/-- The nodes right below the first one. -/
def kids : Forest → List NodeId
  | .element _ _ _ children _ => children.siblings
  | _ => []

/-- The entries of the nodes of a forest that lies right below `parent`. -/
def entries (parent : Option NodeId) : Forest → List (NodeId × NodeEntry)
  | .nil => []
  | .text i s rest => (i, ⟨.text s, parent, []⟩) :: rest.entries parent
  | .mask i m rest => (i, ⟨.mask m, parent, []⟩) :: rest.entries parent
  | .element i t a children rest =>
    (i, ⟨.element t a, parent, children.siblings⟩) ::
      (children.entries (some i) ++ rest.entries parent)

@[simp] theorem map_fst_entries (parent : Option NodeId) (f : Forest) :
    (f.entries parent).map Prod.fst = f.ids := by
  induction f generalizing parent with
  | nil => rfl
  | text i s rest ih => simp [entries, ids, ih]
  | mask i m rest ih => simp [entries, ids, ih]
  | element i t a c rest ihc ih => simp [entries, ids, ihc, ih]

@[simp] theorem entries_append (parent : Option NodeId) (f g : Forest) :
    (f ++ g).entries parent = f.entries parent ++ g.entries parent := by
  induction f with
  | nil => rfl
  | text i s rest ih => simp [entries, ih]
  | mask i m rest ih => simp [entries, ih]
  | element i t a c rest _ ih => simp [entries, ih]

variable {f g new : Forest} {parent q : Option NodeId} {id j : NodeId} {e : NodeEntry}

theorem mem_ids_of_mem_entries (h : (j, e) ∈ f.entries parent) : j ∈ f.ids := by
  rw [← map_fst_entries parent]
  exact List.mem_map_of_mem h

/-- The children of a node of the forest are nodes of the forest. -/
theorem mem_ids_of_mem_children (h : (j, e) ∈ f.entries parent) (hc : id ∈ e.children) :
    id ∈ f.ids := by
  induction f generalizing parent with
  | nil => cases h
  | text i s rest ih | mask i m rest ih =>
      rcases List.mem_cons.mp h with h | h
      · cases h
        cases hc
      · exact List.mem_cons_of_mem _ (ih h)
  | element i t a c rest ihc ih =>
      refine List.mem_cons_of_mem _ (List.mem_append.mpr ?_)
      rcases List.mem_cons.mp h with h | h
      · cases h
        exact .inl (c.siblings_sublist.subset hc)
      · exact (List.mem_append.mp h).imp ihc ih

/-- Where no number is used twice, the entry of a node says what is found there. -/
theorem exists_find?_of_mem_entries (hn : f.ids.Nodup) (h : (j, e) ∈ f.entries parent) :
    ∃ n, f.find? j = some n ∧ n.content = e.content ∧ n.kids = e.children := by
  induction f generalizing parent with
  | nil => cases h
  | text i s rest ih | mask i m rest ih =>
      obtain ⟨hi, hn⟩ := List.nodup_cons.mp hn
      rcases List.mem_cons.mp h with h | h
      · cases h
        exact ⟨_, if_pos rfl, rfl, rfl⟩
      · have hne : i ≠ j := fun e => hi (e ▸ mem_ids_of_mem_entries h)
        rw [find?, if_neg hne]
        exact ih hn h
  | element i t a c rest ihc ih =>
      obtain ⟨hi, hn⟩ := List.nodup_cons.mp hn
      obtain ⟨hc, hr, hcr⟩ := List.nodup_append.mp hn
      rcases List.mem_cons.mp h with h | h
      · cases h
        exact ⟨_, if_pos rfl, rfl, rfl⟩
      · have hne : i ≠ j := by
          rintro rfl
          exact hi (List.mem_append.mpr ((List.mem_append.mp h).imp mem_ids_of_mem_entries
            mem_ids_of_mem_entries))
        rw [find?, if_neg hne]
        rcases List.mem_append.mp h with h | h
        · obtain ⟨n, hfind, hn⟩ := ihc hc h
          exact ⟨n, by rw [hfind, Option.some_or], hn⟩
        · have hno : c.find? j = none :=
            find?_eq_none_iff.mpr fun hj => hcr j hj j (mem_ids_of_mem_entries h) rfl
          rw [hno, Option.none_or]
          exact ih hr h

/-- What is found is listed. -/
theorem entries_subset_of_find? {n : Forest} (h : f.find? id = some n) (parent : Option NodeId) :
    ∃ q, n.entries q ⊆ f.entries parent := by
  induction f generalizing parent with
  | nil => cases h
  | text i s rest ih | mask i m rest ih =>
      rw [find?] at h
      split_ifs at h
      · cases h
        exact ⟨parent, by simp [entries]⟩
      · obtain ⟨q, hq⟩ := ih h parent
        exact ⟨q, List.subset_cons_of_subset _ hq⟩
  | element i t a c rest ihc ih =>
      rw [find?] at h
      split_ifs at h
      · cases h
        exact ⟨parent, by simp [entries]⟩
      · rcases Option.or_eq_some_iff.mp h with h | ⟨-, h⟩
        · obtain ⟨q, hq⟩ := ihc h (some i)
          exact ⟨q, List.subset_cons_of_subset _ (List.subset_append_of_subset_left _ hq)⟩
        · obtain ⟨q, hq⟩ := ih h parent
          exact ⟨q, List.subset_cons_of_subset _ (List.subset_append_of_subset_right _ hq)⟩

theorem IsNode.siblings_eq {n : Forest} (h : IsNode id n) : n.siblings = [id] := by
  cases h <;> rfl

/-- Below a node the entries do not depend on where it is, and do not name it. -/
theorem IsNode.exists_below {n : Forest} (h : IsNode id n) (hn : n.ids.Nodup) :
    ∃ below, (∀ q, n.entries q = (id, ⟨n.content, q, n.kids⟩) :: below) ∧
      ∀ j e, (j, e) ∈ below → j ≠ id ∧ id ∉ e.children := by
  cases h with
  | text s => exact ⟨[], fun _ => rfl, by simp⟩
  | mask m => exact ⟨[], fun _ => rfl, by simp⟩
  | element t a c =>
      refine ⟨c.entries (some id), fun q => by simp [entries, content, kids], fun j e h => ?_⟩
      have hid : id ∉ c.ids := by
        rw [ids, ids, List.append_nil] at hn
        exact (List.nodup_cons.mp hn).1
      exact ⟨fun heq => hid (heq ▸ mem_ids_of_mem_entries h),
        fun hc => hid (mem_ids_of_mem_children h hc)⟩

/-- A node has the nearest element above it as its parent. -/
theorem map_parent_entries (above : List Ancestor) (f : Forest) :
    (f.entries (above.head?.map (·.id))).map (fun n => (n.1, n.2.parent)) =
      (f.spotsFrom above).map fun n => (n.1, n.2.above.head?.map (·.id)) := by
  induction f generalizing above with
  | nil => rfl
  | text i s rest ih => simp [entries, spotsFrom, ih]
  | mask i m rest ih => simp [entries, spotsFrom, ih]
  | element i t a c rest ihc ih =>
      have hc := ihc (⟨i, t, a⟩ :: above)
      rw [List.head?_cons, Option.map_some] at hc
      simp [entries, spotsFrom, ih, hc]

/-! ### Changes -/

/-- The forest with `new` instead of a node and what lies below it. -/
def substitute (id : NodeId) (new : Forest) : Forest → Forest
  | .nil => .nil
  | .text i s rest => if i = id then new ++ rest else .text i s (substitute id new rest)
  | .mask i m rest => if i = id then new ++ rest else .mask i m (substitute id new rest)
  | .element i t a children rest =>
    if i = id then new ++ rest
    else .element i t a (substitute id new children) (substitute id new rest)

theorem erase_eq_substitute (id : NodeId) (f : Forest) : f.erase id = substitute id .nil f := by
  induction f with
  | nil => rfl
  | text i s rest ih => simp [erase, substitute, ih]
  | mask i m rest ih => simp [erase, substitute, ih]
  | element i t a c rest ihc ih => simp [erase, substitute, ihc, ih]

/-- Only texts are taken apart. -/
theorem splice_eq_substitute (h : ∀ k, (id, k) ∈ f.nodes → ∃ s, k = .text s) :
    splice id new f = substitute id new f := by
  induction f with
  | nil => rfl
  | text i s rest ih =>
      rw [splice, substitute, ih fun k hk => h k (List.mem_cons_of_mem _ hk)]
  | mask i m rest ih =>
      have hne : i ≠ id := by
        rintro rfl
        obtain ⟨s, hs⟩ := h _ List.mem_cons_self
        cases hs
      rw [splice, substitute, if_neg hne, ih fun k hk => h k (List.mem_cons_of_mem _ hk)]
  | element i t a c rest ihc ih =>
      have hne : i ≠ id := by
        rintro rfl
        obtain ⟨s, hs⟩ := h _ List.mem_cons_self
        cases hs
      rw [splice, substitute, if_neg hne,
        ihc fun k hk => h k (List.mem_cons_of_mem _ (List.mem_append_left _ hk)),
        ih fun k hk => h k (List.mem_cons_of_mem _ (List.mem_append_right _ hk))]

end Forest

/-- Nodes with `new` instead of `id`. -/
def relink (id : NodeId) (new l : List NodeId) : List NodeId :=
  l.flatMap fun c => if c = id then new else [c]

theorem relink_of_not_mem {id : NodeId} {new l : List NodeId} (h : id ∉ l) :
    relink id new l = l := by
  have hl : relink id new l = l.flatMap fun c => [c] :=
    List.flatMap_congr fun c hc => if_neg fun heq : c = id => h (heq ▸ hc)
  rw [hl, List.flatMap_singleton']

@[simp] theorem relink_cons_self (id : NodeId) (new l : List NodeId) :
    relink id new (id :: l) = new ++ relink id new l := by
  rw [relink, List.flatMap_cons, if_pos rfl, relink]

theorem relink_cons_of_ne {id c : NodeId} {new l : List NodeId} (h : c ≠ id) :
    relink id new (c :: l) = c :: relink id new l := by
  rw [relink, List.flatMap_cons, if_neg h, relink, List.singleton_append]

/-- Without nodes in its place a node is left out. -/
theorem relink_nil (id : NodeId) (l : List NodeId) : relink id [] l = l.filter (· != id) := by
  induction l with
  | nil => rfl
  | cons c l ih => by_cases h : c = id <;> simp [relink_cons_of_ne, h, ih]

namespace NodeEntry

/-- The entry with the nodes `new` instead of the child `id`. -/
def relink (id : NodeId) (new : List NodeId) (e : NodeEntry) : NodeEntry :=
  { e with children := TextMasking.relink id new e.children }

theorem relink_of_not_mem {id : NodeId} {new : List NodeId} {e : NodeEntry}
    (h : id ∉ e.children) : e.relink id new = e := by
  rw [relink, TextMasking.relink_of_not_mem h]

end NodeEntry

namespace Forest

variable {f new : Forest} {parent q : Option NodeId} {id j : NodeId} {e : NodeEntry}

theorem siblings_substitute (hn : f.ids.Nodup) :
    (substitute id new f).siblings = relink id new.siblings f.siblings := by
  have hrest {rest : Forest} (h : id ∉ rest.ids) :
      relink id new.siblings rest.siblings = rest.siblings :=
    relink_of_not_mem fun hid => h (rest.siblings_sublist.subset hid)
  induction f with
  | nil => rfl
  | text i s rest ih | mask i m rest ih =>
      obtain ⟨hi, hn⟩ := List.nodup_cons.mp hn
      rw [substitute, siblings]
      split_ifs with h
      · subst h
        rw [siblings_append, relink_cons_self, hrest hi]
      · rw [siblings, relink_cons_of_ne h, ih hn]
  | element i t a c rest _ ih =>
      obtain ⟨hi, hn⟩ := List.nodup_cons.mp hn
      rw [substitute, siblings]
      split_ifs with h
      · subst h
        rw [siblings_append, relink_cons_self,
          hrest fun hr => hi (List.mem_append_right _ hr)]
      · rw [siblings, relink_cons_of_ne h, ih (List.nodup_append.mp hn).2.1]

/-- Where a node is not, nothing is linked to it. -/
theorem relink_of_mem_entries {l : List NodeId} (hid : id ∉ f.ids)
    (h : (j, e) ∈ f.entries parent) : j ≠ id ∧ e.relink id l = e := by
  refine ⟨?_, NodeEntry.relink_of_not_mem fun hc => hid (mem_ids_of_mem_children h hc)⟩
  intro heq
  exact hid (heq ▸ mem_ids_of_mem_entries h)

/-- **The nodes of a forest in which a node was replaced** are the new ones, right below what the
node was right below, and the others, to which the new ones are linked instead of the node. -/
theorem mem_entries_substitute (hn : f.ids.Nodup)
    (hq : ∀ e, (id, e) ∈ f.entries parent → e.parent = q)
    (h : (j, e) ∈ (substitute id new f).entries parent) :
    (j, e) ∈ new.entries q ∨
      j ≠ id ∧ ∃ e₀, (j, e₀) ∈ f.entries parent ∧ e₀.relink id new.siblings = e := by
  induction f generalizing parent with
  | nil => cases h
  | text i s rest ih | mask i m rest ih =>
      obtain ⟨hi, hn⟩ := List.nodup_cons.mp hn
      rw [substitute] at h
      split_ifs at h with hid
      · subst hid
        rw [entries_append] at h
        rcases List.mem_append.mp h with h | h
        · exact .inl (hq _ List.mem_cons_self ▸ h)
        · obtain ⟨hne, he⟩ := relink_of_mem_entries hi h
          exact .inr ⟨hne, e, List.mem_cons_of_mem _ h, he⟩
      · rcases List.mem_cons.mp h with h | h
        · cases h
          exact .inr ⟨hid, _, List.mem_cons_self, rfl⟩
        · refine (ih hn (fun e he => hq e (List.mem_cons_of_mem _ he)) h).imp_right ?_
          rintro ⟨hne, e₀, hmem, he⟩
          exact ⟨hne, e₀, List.mem_cons_of_mem _ hmem, he⟩
  | element i t a c rest ihc ih =>
      obtain ⟨hi, hn⟩ := List.nodup_cons.mp hn
      obtain ⟨hc, hr, -⟩ := List.nodup_append.mp hn
      rw [substitute] at h
      split_ifs at h with hid
      · subst hid
        rw [entries_append] at h
        rcases List.mem_append.mp h with h | h
        · exact .inl (hq _ List.mem_cons_self ▸ h)
        · obtain ⟨hne, he⟩ := relink_of_mem_entries (fun hr => hi (List.mem_append_right _ hr)) h
          exact .inr ⟨hne, e, List.mem_cons_of_mem _ (List.mem_append_right _ h), he⟩
      · rcases List.mem_cons.mp h with h | h
        · cases h
          refine .inr ⟨hid, _, List.mem_cons_self, ?_⟩
          rw [siblings_substitute hc]
          rfl
        · have inside {e} (he : (id, e) ∈ c.entries (some i) ++ rest.entries parent) :=
            hq e (List.mem_cons_of_mem _ he)
          rcases List.mem_append.mp h with h | h
          · refine (ihc hc (fun e he => inside (List.mem_append_left _ he)) h).imp_right ?_
            rintro ⟨hne, e₀, hmem, he⟩
            exact ⟨hne, e₀, List.mem_cons_of_mem _ (List.mem_append_left _ hmem), he⟩
          · refine (ih hr (fun e he => inside (List.mem_append_right _ he)) h).imp_right ?_
            rintro ⟨hne, e₀, hmem, he⟩
            exact ⟨hne, e₀, List.mem_cons_of_mem _ (List.mem_append_right _ hmem), he⟩

@[simp] theorem siblings_appendChild (id : NodeId) (new f : Forest) :
    (appendChild id new f).siblings = f.siblings := by
  induction f with
  | nil => rfl
  | text i s rest ih => simp [appendChild, siblings, ih]
  | mask i m rest ih => simp [appendChild, siblings, ih]
  | element i t a c rest _ ih =>
      rw [appendChild]
      split_ifs <;> simp [siblings, ih]

/-- **The nodes of a forest in which a tree was added below an element** are those of the tree,
which is right below the element, and the others, where the element is linked to the tree. -/
theorem mem_entries_appendChild (hn : f.ids.Nodup)
    (hid : ∀ e, (id, e) ∈ f.entries parent → ∃ t a, e.content = .element t a)
    (h : (j, e) ∈ (appendChild id new f).entries parent) :
    (j, e) ∈ new.entries (some id) ∨ ∃ e₀, (j, e₀) ∈ f.entries parent ∧
      e = if j = id then { e₀ with children := e₀.children ++ new.siblings } else e₀ := by
  induction f generalizing parent with
  | nil => cases h
  | text i s rest ih | mask i m rest ih =>
      have hne : i ≠ id := by
        rintro rfl
        obtain ⟨t, a, hs⟩ := hid _ List.mem_cons_self
        cases hs
      rcases List.mem_cons.mp h with h | h
      · cases h
        exact .inr ⟨_, List.mem_cons_self, (if_neg hne).symm⟩
      · refine (ih (List.nodup_cons.mp hn).2 (fun e he => hid e (List.mem_cons_of_mem _ he))
          h).imp_right ?_
        rintro ⟨e₀, hmem, he⟩
        exact ⟨e₀, List.mem_cons_of_mem _ hmem, he⟩
  | element i t a c rest ihc ih =>
      obtain ⟨hi, hn⟩ := List.nodup_cons.mp hn
      obtain ⟨hc, hr, -⟩ := List.nodup_append.mp hn
      rw [appendChild] at h
      split_ifs at h with heq
      · subst heq
        rcases List.mem_cons.mp h with h | h
        · cases h
          refine .inr ⟨_, List.mem_cons_self, ?_⟩
          rw [if_pos rfl, siblings_append]
        · rw [entries_append, List.append_assoc] at h
          rcases List.mem_append.mp h with h | h
          · have hne : j ≠ i := fun heq =>
              hi (heq ▸ List.mem_append_left _ (mem_ids_of_mem_entries h))
            exact .inr ⟨e, List.mem_cons_of_mem _ (List.mem_append_left _ h), (if_neg hne).symm⟩
          · refine (List.mem_append.mp h).imp_right fun h => ?_
            have hne : j ≠ i := fun heq =>
              hi (heq ▸ List.mem_append_right _ (mem_ids_of_mem_entries h))
            exact ⟨e, List.mem_cons_of_mem _ (List.mem_append_right _ h), (if_neg hne).symm⟩
      · rcases List.mem_cons.mp h with h | h
        · cases h
          refine .inr ⟨_, List.mem_cons_self, ?_⟩
          rw [if_neg heq, siblings_appendChild]
        · have inside {e} (he : (id, e) ∈ c.entries (some i) ++ rest.entries parent) :=
            hid e (List.mem_cons_of_mem _ he)
          rcases List.mem_append.mp h with h | h
          · refine (ihc hc (fun e he => inside (List.mem_append_left _ he)) h).imp_right ?_
            rintro ⟨e₀, hmem, he⟩
            exact ⟨e₀, List.mem_cons_of_mem _ (List.mem_append_left _ hmem), he⟩
          · refine (ih hr (fun e he => inside (List.mem_append_right _ he)) h).imp_right ?_
            rintro ⟨e₀, hmem, he⟩
            exact ⟨e₀, List.mem_cons_of_mem _ (List.mem_append_right _ hmem), he⟩

@[simp] theorem siblings_setAttribute (f : Forest) (id : NodeId) (name value : String) :
    (f.setAttribute id name value).siblings = f.siblings := by
  induction f with
  | nil => rfl
  | text i s rest ih => simp [setAttribute, siblings, ih]
  | mask i m rest ih => simp [setAttribute, siblings, ih]
  | element i t a c rest _ ih =>
      rw [setAttribute]
      split_ifs <;> simp [siblings, ih]

/-- **The nodes of a forest in which an attribute was set** are those it had; the element with the
attribute holds it. -/
theorem mem_entries_setAttribute {name value : String} (hn : f.ids.Nodup)
    (h : (j, e) ∈ (f.setAttribute id name value).entries parent) :
    ∃ e₀, (j, e₀) ∈ f.entries parent ∧
      e = if j = id then { e₀ with content := e₀.content.setAttribute name value } else e₀ := by
  induction f generalizing parent with
  | nil => cases h
  | text i s rest ih | mask i m rest ih =>
      rcases List.mem_cons.mp h with h | h
      · cases h
        exact ⟨_, List.mem_cons_self, (ite_self _).symm⟩
      · obtain ⟨e₀, hmem, he⟩ := ih (List.nodup_cons.mp hn).2 h
        exact ⟨e₀, List.mem_cons_of_mem _ hmem, he⟩
  | element i t a c rest ihc ih =>
      obtain ⟨hi, hn⟩ := List.nodup_cons.mp hn
      obtain ⟨hc, hr, -⟩ := List.nodup_append.mp hn
      rw [setAttribute] at h
      split_ifs at h with heq
      · subst heq
        rcases List.mem_cons.mp h with h | h
        · cases h
          exact ⟨_, List.mem_cons_self, (if_pos rfl).symm⟩
        · have hne : j ≠ i := by
            rintro rfl
            exact hi (List.mem_append.mpr ((List.mem_append.mp h).imp mem_ids_of_mem_entries
              mem_ids_of_mem_entries))
          exact ⟨e, List.mem_cons_of_mem _ h, (if_neg hne).symm⟩
      · rcases List.mem_cons.mp h with h | h
        · cases h
          refine ⟨_, List.mem_cons_self, ?_⟩
          rw [if_neg heq, siblings_setAttribute]
        · rcases List.mem_append.mp h with h | h
          · obtain ⟨e₀, hmem, he⟩ := ihc hc h
            exact ⟨e₀, List.mem_cons_of_mem _ (List.mem_append_left _ hmem), he⟩
          · obtain ⟨e₀, hmem, he⟩ := ih hr h
            exact ⟨e₀, List.mem_cons_of_mem _ (List.mem_append_right _ hmem), he⟩

end Forest

namespace Document

/-- The entry of a node. -/
def entry (d : Document) (id : NodeId) : NodeEntry :=
  ⟨((d.tree? id).getD .nil).content, d.parent? id, d.children id⟩

theorem kids_tree? (d : Document) (id : NodeId) :
    ((d.tree? id).getD .nil).kids = d.children id := by
  rw [children]
  cases h : d.tree? id with
  | none => rfl
  | some n => cases isNode_of_tree? h <;> rfl

@[simp] theorem parent_entry (d : Document) (id : NodeId) : (d.entry id).parent = d.parent? id :=
  rfl

@[simp] theorem children_entry (d : Document) (id : NodeId) :
    (d.entry id).children = d.children id := rfl

theorem content_entry {d : Document} {id : NodeId} {n : Forest} (h : d.tree? id = some n) :
    (d.entry id).content = n.content := by
  rw [entry, h]
  rfl

theorem entry_eq {d : Document} {id : NodeId} {n : Forest} (h : d.tree? id = some n) :
    d.entry id = ⟨n.content, d.parent? id, n.kids⟩ := by
  rw [entry, ← kids_tree?, h]
  rfl

/-- The entries of all nodes, tree by tree. -/
def entries (d : Document) : List (NodeId × NodeEntry) :=
  d.trees.flatMap (Forest.entries none)

@[simp] theorem map_fst_entries (d : Document) : d.entries.map Prod.fst = d.ids := by
  simp [entries, ids, List.map_flatMap]

namespace WellFormed

variable {d : Document} (wf : d.WellFormed) {j : NodeId} {e : NodeEntry}
include wf

/-- The trees list the entries of the nodes. -/
theorem entry_of_mem (h : (j, e) ∈ d.entries) : d.entry j = e := by
  obtain ⟨t, ht, hj⟩ := List.mem_flatMap.mp h
  obtain ⟨n, hfind, hcontent, hkids⟩ := Forest.exists_find?_of_mem_entries (wf.tree_nodup ht) hj
  have htree := wf.tree?_of_mem ht (Forest.mem_ids_of_find? hfind)
  have hparent : d.parent? j = e.parent := by
    have hmem := List.mem_map_of_mem (f := fun n => (n.1, n.2.parent)) hj
    rw [← Option.map_none, ← List.head?_nil, Forest.map_parent_entries] at hmem
    obtain ⟨⟨i, s⟩, hs, heq⟩ := List.mem_map.mp hmem
    obtain ⟨rfl, heq⟩ := Prod.mk.inj heq
    rw [parent?, wf.above_of_mem_spots (List.mem_flatMap.mpr ⟨t, ht, hs⟩), List.head?_map, heq]
  rw [entry, ← kids_tree?, htree, hfind, Option.getD_some, hcontent, hkids, hparent]

theorem mem_entries (h : j ∈ d.ids) : (j, d.entry j) ∈ d.entries := by
  rw [← map_fst_entries] at h
  obtain ⟨⟨i, e⟩, he, rfl⟩ := List.mem_map.mp h
  rwa [wf.entry_of_mem he]

/-- Where no nodes are added every node still has an entry. -/
theorem mem_entries_of_extends {d' : Document} (h : Extends d d' []) (hj : j ∈ d.ids) :
    (j, d'.entry j) ∈ d'.entries := by
  have hids := h.ids_perm
  rw [List.length_nil, List.range'_zero, List.append_nil] at hids
  exact (h.wellFormed wf).mem_entries (hids.mem_iff.mpr hj)

/-- A node with what lies below it has the entries that the document gives, apart from its own
parent. -/
theorem exists_below {id : NodeId} {n : Forest} (h : d.tree? id = some n) :
    ∃ below, (∀ q, n.entries q = (id, { d.entry id with parent := q }) :: below) ∧
      ∀ j e, (j, e) ∈ below → j ≠ id ∧ id ∉ e.children ∧ (j, e) ∈ d.entries := by
  obtain ⟨below, hbelow, hother⟩ := (isNode_of_tree? h).exists_below (wf.nodup_of_tree? h)
  obtain ⟨t, ht, -, hfind⟩ := exists_tree_of_tree? h
  obtain ⟨q, hq⟩ := Forest.entries_subset_of_find? hfind none
  refine ⟨below, fun q => by rw [hbelow, entry_eq h], fun j e hmem => ?_⟩
  obtain ⟨hne, hid⟩ := hother j e hmem
  exact ⟨hne, hid, List.mem_flatMap.mpr ⟨t, ht, hq (hbelow q ▸ List.mem_cons_of_mem _ hmem)⟩⟩

/-- Where a node is replaced, the others keep their entries but for the links to it. -/
theorem mem_entries_substitute {id : NodeId} {new : Forest}
    (h : (j, e) ∈ (d.trees.map (Forest.substitute id new)).flatMap (Forest.entries none)) :
    (j, e) ∈ new.entries (d.parent? id) ∨
      j ≠ id ∧ j ∈ d.ids ∧ e = (d.entry j).relink id new.siblings := by
  obtain ⟨u, hu, hj⟩ := List.mem_flatMap.mp h
  obtain ⟨t, ht, rfl⟩ := List.mem_map.mp hu
  have hlisted {x : NodeId × NodeEntry} (hx : x ∈ t.entries none) : x ∈ d.entries :=
    List.mem_flatMap.mpr ⟨t, ht, hx⟩
  have hq (e : NodeEntry) (he : (id, e) ∈ t.entries none) : e.parent = d.parent? id := by
    rw [← wf.entry_of_mem (hlisted he)]
    rfl
  refine (Forest.mem_entries_substitute (wf.tree_nodup ht) hq hj).imp_right ?_
  rintro ⟨hne, e₀, he₀, rfl⟩
  have hj : j ∈ d.ids := by
    rw [← map_fst_entries]
    exact List.mem_map_of_mem (hlisted he₀)
  exact ⟨hne, hj, by rw [wf.entry_of_mem (hlisted he₀)]⟩

end WellFormed

end Document

end TextMasking
