import TextMasking.Proofs.Session.Mirror

/-! # Masking is transparent to the host

A host that edits a masked document cannot tell: the document reads as if there had been no session,
and the same edits are refused.  Nodes have other numbers in the masked document, so the host's
names are kept beside it (`Hosted`).  Each event keeps that document a mirror of the one with the
host's edits alone. -/

namespace TextMasking

/-- The edits of the host among events. -/
def SessionEvent.hostEdits (events : List SessionEvent) : List HostEdit :=
  events.filterMap fun
    | .host e => some e
    | _ => none

/-- A live document with the numbers of the nodes that the host knows, in order of creation. -/
structure Hosted where
  live : Live
  names : List NodeId

namespace Hosted

/-- The number of a node that the host knows; what it does not know is no node. -/
def name (s : Hosted) (n : NodeId) : NodeId :=
  s.names.getD n s.live.document.fresh

/-- One event; the host names the nodes in order of creation. -/
def step (s : Hosted) : SessionEvent → Hosted
  | .host e =>
    ⟨s.live.step (.host (e.rename s.name)),
      if e.makes then s.names ++ [s.live.document.fresh] else s.names⟩
  | e => ⟨s.live.step e, s.names⟩

/-- Events in order. -/
def run (s : Hosted) (events : List SessionEvent) : Hosted :=
  events.foldl step s

/-- A document in which every node is known to the host, with a session. -/
def ofDocument (session : Session) (d : Document) : Hosted :=
  ⟨⟨session, d⟩, List.range d.fresh⟩

end Hosted

namespace Hosted

/-- Events keep the live document a mirror of the host's own one. -/
theorem mirrors_run {s : Hosted} {h : Document} (m : Mirrors s.names h s.live.document)
    {events : List SessionEvent} (hk : HostEdit.KeepTexts h (SessionEvent.hostEdits events)) :
    Mirrors (s.run events).names (h.editAll (SessionEvent.hostEdits events))
      (s.run events).live.document := by
  induction events generalizing s h with
  | nil => exact m
  | cons e events ih =>
      by_cases he : ∃ edit, e = .host edit
      · obtain ⟨edit, rfl⟩ := he
        obtain ⟨hedit, hrest⟩ := hk
        exact @ih (s.step (.host edit)) _ (m.edit edit hedit).2 hrest
      · have hr := Live.remasked_step m.wellFormed (e := e) fun edit e' => he ⟨edit, e'⟩
        cases e with
        | host edit => exact absurd ⟨edit, rfl⟩ he
        | _ => exact @ih (s.step _) _ (m.remasked hr) hk

/-- **Masking is transparent to the host.**  Events of a session in between do not change what the
document reads as, nor which edits of the host are refused. -/
theorem transparent (s : String) (changes : List TreeChange) (session : Session)
    (events : List SessionEvent)
    (hfree : ((Document.ofPlainText s).changeAll changes).MaskFree)
    (hk : HostEdit.KeepTexts ((Document.ofPlainText s).changeAll changes)
      (SessionEvent.hostEdits events)) :
    let d := (Document.ofPlainText s).changeAll changes
    let alone := d.editAll (SessionEvent.hostEdits events)
    let now := (ofDocument session d).run events
    now.live.document.unmasked Document.root = alone.shown Document.root ∧
      ∀ e : HostEdit, e.KeepsTexts alone →
        (now.live.document.edit (e.rename now.name)).1.isSome = (alone.edit e).1.isSome := by
  intro d alone now
  have wf : d.WellFormed :=
    Document.wellFormed_changeAll (Document.wellFormed_ofPlainText s) changes
  have m : Mirrors now.names alone now.live.document :=
    mirrors_run (s := ofDocument session d) (Mirrors.refl wf hfree) hk
  refine ⟨?_, fun e he => (m.edit e he).1⟩
  rw [m.unmasked_root,
    Document.shown_root_eq_unmasked m.host_wellFormed (m.host_maskFree.maskIds_eq_nil _)]

/-- A text that is added while its paragraph is masked, and the paragraph is taken out then. -/
theorem transparent_removed :
    ((Document.ofPlainText "Acme").changeAll []).MaskFree ∧
      let events := [.enable [.literal "Acme" "X"], .host (.appendText 1 " by Acme"),
        .batch [.added 4], .host (.remove 1), .changeRules [.literal "by" "Y"]]
      let d := (Document.ofPlainText "Acme").changeAll []
      HostEdit.KeepTexts d (SessionEvent.hostEdits events) ∧
        ((ofDocument (.idle .default) d).run events).live.document.unmasked Document.root =
          (d.editAll (SessionEvent.hostEdits events)).shown Document.root := by
  refine ⟨Document.maskFree_ofPlainText _, ?_⟩
  intro events d
  have hk : HostEdit.KeepTexts d (SessionEvent.hostEdits events) := by
    refine ⟨trivial, ?_, trivial⟩
    unfold HostEdit.KeepsTexts
    decide +kernel
  exact ⟨hk, (transparent "Acme" [] (.idle .default) events (Document.maskFree_ofPlainText _) hk).1⟩

end Hosted

end TextMasking
