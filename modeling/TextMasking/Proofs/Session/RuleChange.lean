import TextMasking.Proofs.Masking.Pieces
import TextMasking.Proofs.Masking.Rows
import TextMasking.Session.Basic

/-! # Changing rules forgets the old ones

What a pass makes of the content of the root does not depend on the numbers of its leaves
(`Engine.apply_congr`).  Restoring leaves the content that there was before the pass if it leaves as
many texts (`Engine.inside?_restore_apply`), as it does wherever no text directly follows a text
(`Engine.length_textIds_restore_apply`).  So new rules mask the document as if there had been no
others (`Session.changeRules_eq_enable`).

A mask does not tell where the text ended that it was made from: restoring joins it to whatever
texts are beside it.  Texts that the host put side by side can be one text after that, and new rules
find in it what they could not find before (`Session.not_changeRules_eq_enable`). -/

namespace TextMasking

open Turn (overNode afterAll)

/-! ### The content of the root -/

namespace Forest

variable {x : NodeId} {above : List Ancestor} {before after : String}
  {y : NodeId → TextUnit → Forest} {f : Forest}

theorem Alternating.inside?_append (h : Alternating f) (g : Forest) :
    (f ++ g).inside? x above = g.inside? x above := by
  induction h with
  | text i s => rfl
  | mask i m => rfl
  | textMask i j s m _ ih => exact ih
  | maskCons i m _ ih => exact ih

/-- Rewriting texts into rows rewrites the content of an element. -/
theorem inside?_rewrite (hy : ∀ i u, Alternating (y i u)) (f : Forest) :
    (f.rewrite y above before after).inside? x above =
      (f.inside? x above).map fun p => (p.1, p.2.rewrite y p.1 "" "") := by
  induction f generalizing above before after with
  | nil => rfl
  | text i s rest ih =>
      rw [rewrite, (hy _ _).inside?_append]
      exact ih
  | mask i m rest ih => exact ih
  | element i t a c rest ihc ih =>
      rw [rewrite, inside?, inside?, ihc, ih]
      split_ifs
      · rfl
      · rw [Option.map_or]

end Forest

namespace Document

variable {d : Document} {n : NodeId}

/-- The content of the root, with the elements that it lies below. -/
structure Content (d : Document) (above : List Forest.Ancestor) (c : Forest) : Prop where
  inside : d.inside? root = some (above, c)
  shown : d.shown root = c.shown
  maskIds : d.maskIds root = c.maskIds
  textIds : d.textIds root = c.textIds
  spaced : ((d.tree? root).getD .nil).spaced = c.spaced
  ids_pos : ∀ i ∈ c.ids, 1 ≤ i

theorem WellFormed.exists_content (wf : d.WellFormed) : ∃ above c, d.Content above c := by
  obtain ⟨t, a, c, hroot⟩ := wf.exists_tree?_root
  obtain ⟨above, hinside⟩ := wf.exists_inside? hroot
  refine ⟨above, c, hinside, ?_, maskIds_of_tree? hroot, ?_, ?_, ?_⟩
  · rw [Document.shown, hroot, Option.getD_some, Forest.shown, Forest.shown, String.append_empty]
  · rw [Document.textIds, hroot, Option.getD_some, Forest.textIds, Forest.textIds, List.append_nil]
  · rw [hroot, Option.getD_some, Forest.spaced, Forest.spaced, Bool.and_true]
  · intro i hi
    have hn := wf.nodup_of_tree? hroot
    rw [Forest.ids, Forest.ids, List.append_nil, List.nodup_cons] at hn
    refine Nat.pos_of_ne_zero ?_
    rintro rfl
    exact hn.1 hi

/-- A document is followed by its trees with the number 1 for all leaves; the root keeps the
number 0. -/
theorem WellFormed.tracks_blur (wf : d.WellFormed) : Tracks 1 (d.trees.map (Forest.blur 1)) d where
  wellFormed := wf
  pos := Nat.one_pos
  fresh_le := (Tracks.self wf).pos
  trees_eq := ⟨[], List.forall_mem_nil _, (List.append_nil _).symm⟩

theorem inside?_of_tracks {trees : List Forest} (h : Tracks n trees d) (x : NodeId) :
    (d.inside? x).map (fun p => (p.1, p.2.blur n)) = trees.findSome? (·.inside? x []) := by
  obtain ⟨loose, hloose, htrees⟩ := h.trees_eq
  have hnone : loose.findSome? (·.inside? x []) = none := by
    rw [List.findSome?_eq_none_iff]
    intro f hf
    obtain ⟨i, s, -, rfl⟩ := hloose f hf
    rfl
  rw [inside?, ← Forest.findSome?_map_inside? Forest.inside?_blur, htrees, List.findSome?_append,
    hnone, Option.or_none]

end Document

namespace Engine

open Document (root)

variable {d : Document}

/-- What a pass over the root makes of a forest that lies below `above`. -/
def masked (e : Engine) (above : List Forest.Ancestor) (f : Forest) : Forest :=
  f.rewrite (fun i u => (Turn.yield e.options 1 (overNode root e.matchers.matchers) i u).leaves)
    above "" ""

/-- **A pass over the root** in which no rule is given up masks the content of the root. -/
theorem inside?_apply (e : Engine) (wf : d.WellFormed)
    (hskip : (e.apply d root).2.scanSkips = []) :
    ((e.apply d root).1.inside? root).map (fun p => (p.1, p.2.blur 1)) =
      (d.inside? root).map fun p => (p.1, e.masked p.1 (p.2.blur 1)) := by
  have htracks := wf.tracks_blur
  have hroot : root < 1 := Nat.one_pos
  have hsteady : d.Steady root := .inl (Document.attached_iff_mem.mpr (.inl rfl))
  have hclean := htracks.clean_of_apply hroot hsteady hskip
  obtain ⟨hafter, -⟩ := htracks.apply hroot hsteady hclean
  rw [Document.inside?_of_tracks hafter, afterAll, Forest.findSome?_map_inside?
    (Forest.inside?_rewrite fun i u => (Turn.rowOf_yield _ _ _ i u).alternating),
    ← Document.inside?_of_tracks htracks, Option.map_map]
  rfl

/-- A content has at most as many texts after a pass whose masks are all turned back, and as many
only if it is what it was. -/
theorem restored_masked (e : Engine) (above : List Forest.Ancestor) {f : Forest} {n : NodeId}
    (hf : f.maskIds = []) :
    ((e.masked above f).restored n).textIds.length ≤ f.textIds.length ∧
      (((e.masked above f).restored n).textIds.length = f.textIds.length →
        (e.masked above f).restored n = f.restored n) :=
  Forest.restored_rewrite hf fun p _ => Turn.rowOf_yield _ _ _ p.1 p.2

theorem restored_masked_of_spaced (e : Engine) (above : List Forest.Ancestor) {f : Forest}
    {n : NodeId} (hf : f.maskIds = []) (hs : f.spaced = true) :
    (e.masked above f).restored n = f.restored n :=
  Forest.restored_rewrite_of_spaced hf hs fun p _ => Turn.rowOf_yield _ _ _ p.1 p.2

/-- **Restoring after a pass** leaves of the content of the root what is left of the rows that the
pass made. -/
theorem content_restore_apply (e : Engine) (wf : d.WellFormed)
    (hskip : (e.apply d root).2.scanSkips = []) :
    ∃ above c c', d.Content above c ∧ ((e.apply d root).1.restore root).2.Content above c' ∧
      c'.blur 1 = (e.masked above (c.blur 1)).restored 1 := by
  have hmasks := e.apply_masks wf root
  obtain ⟨-, hr, hnone, -⟩ := Document.restore_root hmasks.remasked.wellFormed
  obtain ⟨above, c, hc⟩ := wf.exists_content
  obtain ⟨above₁, c₁, hc₁⟩ := hmasks.remasked.wellFormed.exists_content
  obtain ⟨above₂, c₂, hc₂⟩ := hr.wellFormed.exists_content
  have hpass := e.inside?_apply wf hskip
  have hleft := (e.apply d root).1.inside?_restore 1 root root
  rw [hc₁.inside, hc.inside] at hpass
  rw [hc₂.inside, hc₁.inside] at hleft
  obtain ⟨rfl, hpass⟩ := Prod.mk.inj (Option.some.inj hpass)
  obtain ⟨rfl, hleft⟩ := Prod.mk.inj (Option.some.inj hleft)
  dsimp only at hpass hleft
  refine ⟨_, c, c₂, hc, hc₂, ?_⟩
  -- restoring leaves no mask, so nothing more is joined when all masks are turned back again
  calc c₂.blur 1 = c₂.restored 1 :=
        (Forest.restored_eq_blur (hc₂.maskIds ▸ hnone) hc₂.ids_pos).symm
    _ = (c₁.blur 1).restored 1 := by rw [hleft, Forest.restored_blur]
    _ = _ := by rw [hpass]

/-- Where as many texts are left as there were, restoring has joined no two of them. -/
theorem inside?_restore_apply (e : Engine) (wf : d.WellFormed) (hfree : d.maskIds root = [])
    (hskip : (e.apply d root).2.scanSkips = [])
    (hleaves : (((e.apply d root).1.restore root).2.textIds root).length =
      (d.textIds root).length) :
    (((e.apply d root).1.restore root).2.inside? root).map (fun p => (p.1, p.2.blur 1)) =
      (d.inside? root).map fun p => (p.1, p.2.blur 1) := by
  obtain ⟨above, c, c', hc, hc', hcontent⟩ := e.content_restore_apply wf hskip
  have hmasks : c.maskIds = [] := hc.maskIds ▸ hfree
  have hlength : ((e.masked above (c.blur 1)).restored 1).textIds.length =
      (c.blur 1).textIds.length := by
    rw [← hcontent, Forest.textIds_blur, Forest.textIds_blur, List.length_map, List.length_map,
      ← hc.textIds, ← hc'.textIds, hleaves]
  have hsame := (e.restored_masked above (by rw [Forest.maskIds_blur, hmasks, List.map_nil])).2
    hlength
  rw [Forest.restored_blur, Forest.restored_eq_blur hmasks hc.ids_pos] at hsame
  rw [hc'.inside, hc.inside, Option.map_some, Option.map_some, hcontent, hsame]

/-- **No texts are joined** where no text directly follows a text. -/
theorem length_textIds_restore_apply (e : Engine) (wf : d.WellFormed) (hfree : d.maskIds root = [])
    (hspaced : ((d.tree? root).getD .nil).spaced = true)
    (hskip : (e.apply d root).2.scanSkips = []) :
    (((e.apply d root).1.restore root).2.textIds root).length = (d.textIds root).length := by
  obtain ⟨above, c, c', hc, hc', hcontent⟩ := e.content_restore_apply wf hskip
  have hmasks : c.maskIds = [] := hc.maskIds ▸ hfree
  rw [e.restored_masked_of_spaced above (by rw [Forest.maskIds_blur, hmasks, List.map_nil])
    (by rw [Forest.spaced_blur, ← hc.spaced, hspaced]), Forest.restored_blur,
    Forest.restored_eq_blur hmasks hc.ids_pos] at hcontent
  have hlength := congrArg (fun f : Forest => f.textIds.length) hcontent
  simp only [Forest.textIds_blur, List.length_map] at hlength
  rw [hc.textIds, hc'.textIds, hlength]

/-- Of contents that differ in numbers of leaves a pass makes the same. -/
theorem apply_congr (e : Engine) {d' : Document} (wf : d.WellFormed) (wf' : d'.WellFormed)
    (hskip : (e.apply d root).2.scanSkips = []) (hskip' : (e.apply d' root).2.scanSkips = [])
    (hfree : d.maskIds root = []) (hfree' : d'.maskIds root = [])
    (h : (d'.inside? root).map (fun p => (p.1, p.2.blur 1)) =
      (d.inside? root).map fun p => (p.1, p.2.blur 1)) :
    (e.apply d' root).1.shown root = (e.apply d root).1.shown root ∧
      (e.apply d' root).2.masksCreated = (e.apply d root).2.masksCreated := by
  have hmasks := e.apply_masks wf root
  have hmasks' := e.apply_masks wf' root
  obtain ⟨above, c, hc⟩ := hmasks.remasked.wellFormed.exists_content
  obtain ⟨above', c', hc'⟩ := hmasks'.remasked.wellFormed.exists_content
  have hcontent : c'.blur 1 = c.blur 1 := by
    have hboth := congrArg (Option.map fun p => (p.1, e.masked p.1 p.2)) h
    rw [Option.map_map, Option.map_map] at hboth
    have hsame := (e.inside?_apply wf' hskip').trans (hboth.trans (e.inside?_apply wf hskip).symm)
    rw [hc.inside, hc'.inside] at hsame
    exact (Prod.mk.inj (Option.some.inj hsame)).2
  constructor
  · rw [hc.shown, hc'.shown, ← Forest.shown_blur (n := 1) c', hcontent, Forest.shown_blur]
  · have hcount := hmasks.maskCount
    have hcount' := hmasks'.maskCount
    have hlength := congrArg (fun f : Forest => f.maskIds.length) hcontent
    simp only [Forest.maskIds_blur, List.length_map] at hlength
    rw [hfree, hc.maskIds, List.length_nil, Nat.zero_add] at hcount
    rw [hfree', hc'.maskIds, List.length_nil, Nat.zero_add] at hcount'
    rw [← hcount, ← hcount', hlength]

end Engine

namespace Session

open Document (root)

/-- **Changing rules forgets the old ones.**  Let a document that can be reached have no masks below
the root, and let no rule be given up.  Enabling a session with some rules and then changing them
shows the same text and makes as many masks as enabling it with the new rules, if turning back the
masks of the old rules leaves as many texts as there were. -/
theorem changeRules_eq_enable (s : String) (changes : List TreeChange) (options : Options)
    (first second : RuleList) :
    let d := (Document.ofPlainText s).changeAll changes
    let enabled := (idle options).enable first d root
    let changed := enabled.2.1.changeRules second enabled.2.2 root
    let afresh := (idle options).enable second d root
    d.maskIds root = [] → enabled.1.scanSkips = [] → changed.1.scanSkips = [] →
    afresh.1.scanSkips = [] →
    ((enabled.2.2.restore root).2.textIds root).length = (d.textIds root).length →
    changed.2.2.shown root = afresh.2.2.shown root ∧
      changed.1.masksCreated = afresh.1.masksCreated := by
  intro d enabled changed afresh hfree hskip hskip' hskip'' hleaves
  have wf : d.WellFormed :=
    Document.wellFormed_changeAll (Document.wellFormed_ofPlainText s) changes
  have hmasks := (Engine.ofRules first options).apply_masks wf root
  obtain ⟨-, hr, hnone, -⟩ := Document.restore_root hmasks.remasked.wellFormed
  have hsame := (Engine.ofRules first options).inside?_restore_apply wf hfree hskip hleaves
  exact (Engine.ofRules second options).apply_congr wf hr.wellFormed hskip'' hskip' hfree hnone
    hsame

/-- Two texts side by side; the old rule masks the middle of one of them. -/
theorem changeRules_eq_enable_beside :
    let changes : List TreeChange := [.host (.appendText 0 "Hi "), .host (.appendText 0 "A to B")]
    let d := (Document.ofPlainText "").changeAll changes
    let enabled := (idle .default).enable [.literal "to" "->"] d root
    let changed := enabled.2.1.changeRules [.literal "B" "[B]"] enabled.2.2 root
    let afresh := (idle .default).enable [.literal "B" "[B]"] d root
    enabled.1.masksCreated = 1 ∧ afresh.1.masksCreated = 1 ∧
      (changed.2.2.shown root = afresh.2.2.shown root ∧
        changed.1.masksCreated = afresh.1.masksCreated) :=
  ⟨by decide +kernel, by decide +kernel, changeRules_eq_enable ""
    [.host (.appendText 0 "Hi "), .host (.appendText 0 "A to B")] .default
    [.literal "to" "->"] [.literal "B" "[B]"] (by decide +kernel) (by decide +kernel)
    (by decide +kernel) (by decide +kernel) (by decide +kernel)⟩

/-- The old rule masks all of a text that directly follows another one.  Turning the mask back joins
the two, and the new rule finds a match across the place where they met. -/
theorem not_changeRules_eq_enable : ¬∀ (s : String) (changes : List TreeChange)
    (options : Options) (first second : RuleList),
    let d := (Document.ofPlainText s).changeAll changes
    let enabled := (idle options).enable first d root
    let changed := enabled.2.1.changeRules second enabled.2.2 root
    let afresh := (idle options).enable second d root
    d.maskIds root = [] → enabled.1.scanSkips = [] → changed.1.scanSkips = [] →
    afresh.1.scanSkips = [] →
    changed.2.2.shown root = afresh.2.2.shown root ∧
      changed.1.masksCreated = afresh.1.masksCreated := by
  intro h
  have hmasks := (h "" [.host (.appendText 0 "ab"), .host (.appendText 0 "cd")] .default
    [.literal "cd" "X"] [.literal "bc" "Y"] (by decide +kernel) (by decide +kernel)
    (by decide +kernel) (by decide +kernel)).2
  revert hmasks
  decide +kernel

end Session

end TextMasking
