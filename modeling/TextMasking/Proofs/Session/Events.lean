import TextMasking.Proofs.Document.History
import TextMasking.Proofs.Masking.Pass
import TextMasking.Session.Basic

/-! # Sessions on a live document

The host edits a document while a session keeps it masked (`Live.run`).  Whatever a session does to
the document, it changes what is masked and nothing else (`Live.remasked_step`): it takes texts
apart with the placeholders of its engine, or it restores the document first. -/

namespace TextMasking

/-- What can happen to a live document: an edit of the host, or an event of its session. -/
inductive SessionEvent where
  | host (edit : HostEdit)
  | enable (rules : RuleList)
  | batch (mutations : List Mutation)
  | changeRules (rules : RuleList)
  | disable
  deriving Repr

/-- A document with the session that keeps it masked. -/
structure Live where
  session : Session
  document : Document

namespace Live

/-- One event; the session works on the whole document. -/
def step (s : Live) : SessionEvent → Live
  | .host e => ⟨s.session, (s.document.edit e).2⟩
  | .enable rules =>
    let (_, session, document) := s.session.enable rules s.document Document.root
    ⟨session, document⟩
  | .batch mutations => ⟨s.session, (s.session.handleBatch mutations s.document).2⟩
  | .changeRules rules =>
    let (_, session, document) := s.session.changeRules rules s.document Document.root
    ⟨session, document⟩
  | .disable =>
    let (_, session, document) := s.session.disable s.document Document.root
    ⟨session, document⟩

/-- Events in order. -/
def run (s : Live) (events : List SessionEvent) : Live :=
  events.foldl step s

end Live

namespace Session

/-- The placeholders of the rules that a session masks with. -/
def placeholders (s : Session) : List String :=
  (s.engine.map Engine.placeholders).getD []

/-- Masking with new rules. -/
theorem start_masks (s : Session) (rules : RuleList) {d : Document} (wf : d.WellFormed)
    (root : NodeId) :
    ∃ n, Masks (s.start rules d root).2.1.placeholders d (s.start rules d root).2.2 n :=
  ⟨_, (Engine.ofRules rules s.options).apply_masks wf root⟩

theorem foldl_maskAdded_masks (e : Engine) (added : List NodeId) {ids : List NodeId}
    {r : Report} {d : Document} (wf : d.WellFormed) :
    ∃ n, Masks e.placeholders d (ids.foldl (maskAdded e added) (r, d)).2 n := by
  induction ids generalizing r d with
  | nil => exact ⟨0, .refl wf⟩
  | cons id ids ih =>
      rw [List.foldl_cons, maskAdded]
      dsimp only
      split_ifs
      · have h := e.apply_masks wf id
        obtain ⟨n, hn⟩ := @ih (r.merge (e.apply d id).2) (e.apply d id).1 h.remasked.wellFormed
        exact ⟨_, h.trans hn⟩
      · exact ih wf

/-- A batch masks with the rules of the session. -/
theorem handleBatch_masks (s : Session) (batch : List Mutation) {d : Document}
    (wf : d.WellFormed) : ∃ n, Masks s.placeholders d (s.handleBatch batch d).2 n := by
  unfold handleBatch placeholders
  cases s.engine with
  | none => exact ⟨0, .refl wf⟩
  | some e => exact foldl_maskAdded_masks e _ wf

end Session

namespace Live

/-- **A session changes what is masked and nothing else.** -/
theorem remasked_step {s : Live} (wf : s.document.WellFormed) {e : SessionEvent}
    (he : ∀ edit, e ≠ .host edit) : s.document.Remasked (s.step e).document := by
  cases e with
  | host edit => exact absurd rfl (he edit)
  | enable rules =>
      unfold step Session.enable
      dsimp only
      split_ifs
      · exact .refl wf
      · obtain ⟨n, hn⟩ := s.session.start_masks rules wf Document.root
        exact hn.remasked
  | batch mutations =>
      obtain ⟨n, hn⟩ := s.session.handleBatch_masks mutations wf
      exact hn.remasked
  | changeRules rules =>
      unfold step Session.changeRules
      dsimp only
      split_ifs
      · obtain ⟨-, hr, -, -⟩ := Document.restore_root wf
        obtain ⟨n, hn⟩ := s.session.start_masks rules hr.wellFormed Document.root
        exact hr.trans hn.remasked
      · exact .refl wf
  | disable =>
      unfold step Session.disable
      dsimp only
      split_ifs
      · exact (Document.restore_root wf).2.1
      · exact .refl wf

theorem wellFormed_step {s : Live} (wf : s.document.WellFormed) (e : SessionEvent) :
    (s.step e).document.WellFormed := by
  by_cases h : ∃ edit, e = .host edit
  · obtain ⟨edit, rfl⟩ := h
    exact Document.wellFormed_edit wf edit
  · exact (remasked_step wf fun edit he => h ⟨edit, he⟩).wellFormed

end Live

end TextMasking
