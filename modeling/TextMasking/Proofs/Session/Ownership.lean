import TextMasking.Proofs.Session.Events

/-! # Whose masks are in a document

Every mask below the root shows a placeholder of the rules that its session masks with, unless it is
older than the last restoration: restoring turns back what is below the root at that moment, so a
mask that stands elsewhere then is left out, and the host can bring it back later.  The masks that
were left out are kept beside the run (`Live.leftOut`); no other mask outlives its rules. -/

namespace TextMasking

/-- The masks that are not below the root. -/
def Document.detachedMasks (d : Document) : List NodeId :=
  (d.trees.flatMap Forest.maskIds).filter fun id => !d.attached id

namespace Live

/-- The masks that the last restoration left out, after one more event. -/
def leftOutBy (s : Live) (leftOut : List NodeId) : SessionEvent → List NodeId
  | .changeRules _ | .disable =>
    if s.session.active then (s.document.restore Document.root).2.detachedMasks else leftOut
  | _ => leftOut

/-- The masks that the last restoration in a run left out. -/
def leftOut (s : Live) (before : List NodeId) : List SessionEvent → List NodeId
  | [] => before
  | e :: events => (s.step e).leftOut (s.leftOutBy before e) events

/-- A mask may be brought back after the session that made it has ended. -/
theorem not_idle_imp_maskFree : ¬ ∀ (s : String) (options : Options) (events : List SessionEvent),
    let now := Live.run ⟨.idle options, .ofPlainText s⟩ events
    now.session.active = false → now.document.maskIds Document.root = [] := by
  intro h
  have := h "" .default
    [.host (.appendElement 0 "p"), .host (.appendText 1 "Acme"),
      .enable [.literal "Acme" "X"], .host (.remove 1), .disable, .host (.appendChild 0 1)]
  revert this
  decide +kernel

end Live

namespace Document

theorem mem_detachedMasks {d : Document} {id : NodeId} :
    id ∈ d.detachedMasks ↔ (∃ m, (id, .mask m) ∈ d.nodes) ∧ d.attached id = false := by
  simp only [detachedMasks, nodes, List.mem_filter, List.mem_flatMap, Forest.mem_maskIds_iff,
    Bool.not_eq_true']
  refine and_congr_left fun _ => ⟨?_, ?_⟩
  · rintro ⟨t, ht, m, hm⟩
    exact ⟨m, t, ht, hm⟩
  · rintro ⟨m, t, ht, hm⟩
    exact ⟨t, ht, m, hm⟩

/-- A mask is attached if it is one of the masks below the root. -/
theorem WellFormed.mem_maskIds_root {d : Document} (wf : d.WellFormed) {id : NodeId} {m : Mask}
    (h : (id, .mask m) ∈ d.nodes) : id ∈ d.maskIds root ↔ d.attached id = true := by
  obtain ⟨t, a, c, hroot⟩ := wf.exists_tree?_root
  rw [maskIds_of_tree? hroot, wf.attached_iff hroot, Forest.mem_maskIds_iff]
  constructor
  · rintro ⟨m', hm'⟩
    exact .inr (Forest.mem_ids_of_mem_nodes hm')
  · rintro (rfl | hid)
    · rw [wf.tree?_mask_iff.mpr h] at hroot
      cases hroot
    · exact ⟨m, wf.mem_nodes_children hroot h hid⟩

end Document

namespace Live

/-- Every mask shows a placeholder of the session's rules or was left out. -/
structure Owned (s : Live) (leftOut : List NodeId) : Prop where
  wellFormed : s.document.WellFormed
  owner : ∀ id m, (id, .mask m) ∈ s.document.nodes →
    m.replacement ∈ s.session.placeholders ∨ id ∈ leftOut

/-- Right after a restoration every mask was left out. -/
theorem mem_detachedMasks_restore {d : Document} (wf : d.WellFormed) {id : NodeId} {m : Mask}
    (h : (id, .mask m) ∈ (d.restore Document.root).2.nodes) :
    id ∈ (d.restore Document.root).2.detachedMasks := by
  obtain ⟨-, hr, hnone, -⟩ := Document.restore_root wf
  refine Document.mem_detachedMasks.mpr ⟨⟨m, h⟩, ?_⟩
  rw [← Bool.not_eq_true, ← hr.wellFormed.mem_maskIds_root h, hnone]
  exact List.not_mem_nil

/-- Masks with the session's rules are owned, if the others were. -/
theorem Owned.of_masks {session : Session} {d d' : Document} {n : Nat} {leftOut : List NodeId}
    (h : Masks session.placeholders d d' n)
    (ho : ∀ id m, (id, .mask m) ∈ d.nodes →
      m.replacement ∈ session.placeholders ∨ id ∈ leftOut) :
    Owned ⟨session, d'⟩ leftOut :=
  ⟨h.remasked.wellFormed, fun id m hm => (h.placeholder id m hm).elim (ho id m) .inl⟩

/-- **Every event keeps the masks owned.** -/
theorem Owned.step {s : Live} {leftOut : List NodeId} (h : s.Owned leftOut) (e : SessionEvent) :
    (s.step e).Owned (s.leftOutBy leftOut e) := by
  have wf := h.wellFormed
  cases e with
  | host edit =>
      refine ⟨Document.wellFormed_edit wf edit, fun id m hm => h.owner id m ?_⟩
      exact Document.mask_mem_of_edit wf hm
  | enable rules =>
      unfold Live.step Session.enable
      dsimp only
      split_ifs with hactive
      · exact h
      · obtain ⟨n, hn⟩ := s.session.start_masks rules wf Document.root
        refine .of_masks hn fun id m hm => .inr ((h.owner id m hm).resolve_left fun hold => ?_)
        -- an idle session has no rules
        rw [Session.active, Option.isSome_iff_ne_none, not_not] at hactive
        rw [Session.placeholders, hactive] at hold
        exact List.not_mem_nil hold
  | batch mutations =>
      obtain ⟨n, hn⟩ := s.session.handleBatch_masks mutations wf
      exact .of_masks hn h.owner
  | changeRules rules =>
      unfold Live.step Live.leftOutBy Session.changeRules
      dsimp only
      split_ifs with hactive
      · obtain ⟨-, hr, -, -⟩ := Document.restore_root wf
        obtain ⟨n, hn⟩ := s.session.start_masks rules hr.wellFormed Document.root
        exact .of_masks hn fun id m hm => .inr (mem_detachedMasks_restore wf hm)
      · exact h
  | disable =>
      unfold Live.step Live.leftOutBy Session.disable
      dsimp only
      split_ifs with hactive
      · obtain ⟨-, hr, -, -⟩ := Document.restore_root wf
        exact ⟨hr.wellFormed, fun id m hm => .inr (mem_detachedMasks_restore wf hm)⟩
      · exact h

theorem Owned.run {s : Live} {leftOut : List NodeId} (h : s.Owned leftOut)
    (events : List SessionEvent) : (s.run events).Owned (s.leftOut leftOut events) := by
  induction events generalizing s leftOut with
  | nil => exact h
  | cons e events ih => exact ih (h.step e)

/-- **Masks belong to the rules of the session.**  However host and session take turns on a document
that had no masks, every mask below the root shows a placeholder of the session's rules, or the last
restoration left it out because it was not below the root.  While the session is idle there are only
masks of the second kind; if none of them was brought back, the document shows what it reads as. -/
theorem mask_owned (s : String) (changes : List TreeChange) (options : Options)
    (hfree : ((Document.ofPlainText s).changeAll changes).MaskFree)
    (events : List SessionEvent) :
    let start : Live := ⟨.idle options, (Document.ofPlainText s).changeAll changes⟩
    let now := start.run events
    let leftOut := start.leftOut [] events
    (∀ id ∈ now.document.maskIds Document.root, ∃ m, now.document.mask? id = some m ∧
      (m.replacement ∈ now.session.placeholders ∨ id ∈ leftOut)) ∧
    (now.session.active = false →
      (∀ id ∈ now.document.maskIds Document.root, id ∈ leftOut) ∧
      ((∀ id ∈ leftOut, now.document.attached id = false) →
        now.document.maskIds Document.root = [] ∧
        now.document.shown Document.root = now.document.unmasked Document.root)) := by
  intro start now leftOut
  have hstart : start.Owned [] :=
    ⟨Document.wellFormed_changeAll (Document.wellFormed_ofPlainText s) changes,
      fun id m hm => absurd hm (hfree id m)⟩
  have hnow : now.Owned leftOut := hstart.run events
  have wf := hnow.wellFormed
  have hidle (hi : now.session.active = false) :
      ∀ id ∈ now.document.maskIds Document.root, id ∈ leftOut := by
    intro id hid
    obtain ⟨m, hm⟩ := Document.exists_mask_of_mem_maskIds hid
    refine (hnow.owner id m hm).resolve_left fun hold => ?_
    rw [Session.active, Option.isSome_eq_false_iff, Option.isNone_iff_eq_none] at hi
    rw [Session.placeholders, hi] at hold
    exact List.not_mem_nil hold
  refine ⟨?_, fun hi => ⟨hidle hi, fun hout => ?_⟩⟩
  · intro id hid
    obtain ⟨m, hm⟩ := Document.exists_mask_of_mem_maskIds hid
    refine ⟨m, ?_, hnow.owner id m hm⟩
    rw [Document.mask?, wf.tree?_mask_iff.mpr hm]
  · have hnone : now.document.maskIds Document.root = [] := by
      rw [List.eq_nil_iff_forall_not_mem]
      intro id hid
      obtain ⟨m, hm⟩ := Document.exists_mask_of_mem_maskIds hid
      have := (wf.mem_maskIds_root hm).mp hid
      rw [hout id (hidle hi id hid)] at this
      cases this
    exact ⟨hnone, Document.shown_root_eq_unmasked wf hnone⟩

/-- A document that was just masked: its mask belongs to the rules of the session. -/
theorem mask_owned_enabled :
    ((Document.ofPlainText "Acme").changeAll []).MaskFree ∧
      let start : Live := ⟨.idle .default, .ofPlainText "Acme"⟩
      let events := [.host (.remove 2), .enable [.literal "Acme" "X"], .host (.appendChild 1 2),
        .batch [.added 2]]
      ∃ m, (start.run events).document.mask? 3 = some m ∧
        (m.replacement ∈ (start.run events).session.placeholders ∨
          3 ∈ start.leftOut [] events) :=
  ⟨Document.maskFree_ofPlainText _,
    (mask_owned "Acme" [] .default (Document.maskFree_ofPlainText _) _).1 3 (by decide +kernel)⟩

end Live

end TextMasking
