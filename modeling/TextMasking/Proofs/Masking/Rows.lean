import TextMasking.Proofs.Document.Restored
import TextMasking.Proofs.Masking.Turns

/-! # Rows of leaves

What comes of a text in a pass is a row of leaves that reads like it, in which no text directly
follows a text (`Forest.RowOf`, `Turn.rowOf_yield`).  When all masks are turned back one
text is left of the row.  It is the text that there was, unless it is joined to what is left of the
leaves beside it; so no text can have been joined where as many texts are left as there were
(`Forest.restored_rewrite`). -/

namespace TextMasking

namespace Forest

variable {n : NodeId} {f g : Forest} {y : NodeId → TextUnit → Forest} {above : List Ancestor}
  {before after : String}

/-! ### Rows of leaves -/

/-- A row of leaves, at least one, in which no text directly follows a text. -/
inductive Alternating : Forest → Prop
  | text (i : NodeId) (s : String) : Alternating (.text i s .nil)
  | mask (i : NodeId) (m : Mask) : Alternating (.mask i m .nil)
  | textMask (i j : NodeId) (s : String) (m : Mask) {f : Forest} :
      Alternating (.mask j m f) → Alternating (.text i s (.mask j m f))
  | maskCons (i : NodeId) (m : Mask) {f : Forest} : Alternating f → Alternating (.mask i m f)

/-- A row that reads like a text. -/
structure RowOf (s : String) (f : Forest) : Prop where
  alternating : Alternating f
  unmasked_eq : f.unmasked = s

theorem Alternating.textAfter_eq (h : Alternating f) (after : String) :
    f.textAfter after = f.unmasked ++ after := by
  induction h with
  | text i s => simp [textAfter, unmasked]
  | mask i m => simp [textAfter, unmasked]
  | textMask i j s m _ ih => rw [textAfter, ih, unmasked, String.append_assoc]
  | maskCons i m _ ih => rw [textAfter, ih, unmasked, String.append_assoc]

/-- A mask and what follows it may follow a row. -/
theorem Alternating.append_mask {j : NodeId} {m : Mask} (h : Alternating f)
    (hg : Alternating (.mask j m g)) : Alternating (f ++ .mask j m g) := by
  induction h with
  | text i s => exact .textMask i j s m hg
  | mask i m' => exact .maskCons i m' hg
  | textMask i j' s m' _ ih => exact .textMask i j' s m' ih
  | maskCons i m' _ ih => exact .maskCons i m' ih

/-- Rows in the place of the texts of a row make a row. -/
theorem Alternating.rewrite (h : Alternating f) (hy : ∀ i u, Alternating (y i u))
    (above : List Ancestor) (before after : String) :
    Alternating (f.rewrite y above before after) := by
  induction h generalizing before with
  | text i s =>
      rw [Forest.rewrite, Forest.rewrite, append_nil]
      exact hy _ _
  | mask i m => exact .mask i m
  | textMask i j s m _ ih =>
      rw [Forest.rewrite, Forest.rewrite]
      exact (hy _ _).append_mask (ih _)
  | maskCons i m _ ih => exact .maskCons i m (ih _)

/-- A forest reads the same when its texts give way to forests that read like them. -/
theorem unmasked_rewrite
    (hy : ∀ p ∈ f.textsIn above before after, (y p.1 p.2).unmasked = p.2.passage.text) :
    (f.rewrite y above before after).unmasked = f.unmasked := by
  induction f generalizing above before after with
  | nil => rfl
  | text i s rest ih =>
      obtain ⟨hs, hrest⟩ := List.forall_mem_cons.mp hy
      rw [Forest.rewrite, unmasked_append, hs, ih hrest, unmasked]
  | mask i m rest ih => rw [Forest.rewrite, unmasked, unmasked, ih hy]
  | element i t a c rest ihc ih =>
      obtain ⟨hc, hrest⟩ := List.forall_mem_append.mp hy
      rw [Forest.rewrite, unmasked, unmasked, ihc hc, ih hrest]

/-- **Of a row one text is left:** it is joined to what is left of the nodes after the row, or it
stands before them. -/
theorem Alternating.restored_append (h : Alternating f) (g : Forest) :
    (f ++ g).restored n = (g.restored n).joinText n f.unmasked ∨
      (f ++ g).restored n = .text n f.unmasked (g.restored n) := by
  -- a leaf in front of a row is joined to the text that is left of the row
  have hfront {f : Forest} (s : String)
      (hf : (f ++ g).restored n = (g.restored n).joinText n f.unmasked ∨
        (f ++ g).restored n = .text n f.unmasked (g.restored n)) :
      ((f ++ g).restored n).joinText n s = (g.restored n).joinText n (s ++ f.unmasked) ∨
        ((f ++ g).restored n).joinText n s = .text n (s ++ f.unmasked) (g.restored n) := by
    rcases hf with hf | hf <;> rw [hf]
    · exact .inl (joinText_joinText n n s f.unmasked _)
    · exact .inr rfl
  induction h with
  | text i s =>
      rw [text_append, nil_append, restored, unmasked, unmasked, String.append_empty]
      split_ifs
      · exact .inl rfl
      · exact .inr rfl
  | mask i m =>
      rw [mask_append, nil_append, restored, unmasked, unmasked, String.append_empty]
      exact .inl rfl
  | textMask i j s m _ ih => exact hfront s ih
  | maskCons i m _ ih => exact hfront m.hidden ih

/-- **Texts that gave way to rows** and are made whole again are not more than they were, and as
many only if they are what they were. -/
theorem restored_rewrite (hf : f.maskIds = []) (hy : ∀ p ∈ f.textsIn above before after,
      RowOf p.2.passage.text (y p.1 p.2)) :
    ((f.rewrite y above before after).restored n).textIds.length ≤ f.textIds.length ∧
      (((f.rewrite y above before after).restored n).textIds.length = f.textIds.length →
        (f.rewrite y above before after).restored n = f.restored n) := by
  induction f generalizing above before after with
  | nil => exact ⟨Nat.le_refl _, fun _ => rfl⟩
  | text i s rest ih =>
      obtain ⟨⟨halt, hs⟩, hrest⟩ := List.forall_mem_cons.mp hy
      have hfree : rest.maskIds = [] := hf
      obtain ⟨hle, heq⟩ := ih hfree hrest
      rw [restored_text hfree, Forest.rewrite, textIds, List.length_cons]
      have hkept {o : Forest}
          (ho : o = .text n s ((rest.rewrite y above (before ++ s) after).restored n)) :
          o.textIds.length ≤ rest.textIds.length + 1 ∧
            (o.textIds.length = rest.textIds.length + 1 → o = .text n s (rest.restored n)) := by
        subst ho
        rw [textIds, List.length_cons]
        exact ⟨Nat.succ_le_succ hle, fun h => by rw [heq (Nat.succ.inj h)]⟩
      -- a row that is joined to a text after it adds none, so there are fewer texts than before
      rcases halt.restored_append (rest.rewrite y above (before ++ s) after) with h | h
      · rcases joinText_cases n (y i ⟨above, before, s, rest.textAfter after⟩).unmasked
            ((rest.rewrite y above (before ++ s) after).restored n) with hjoin | hjoin
        · rw [h, hjoin]
          exact ⟨Nat.le_succ_of_le hle, fun e => absurd (e ▸ hle) (Nat.not_succ_le_self _)⟩
        · exact hkept (h.trans (hjoin.trans (by rw [hs])))
      · exact hkept (h.trans (by rw [hs]))
  | mask i m rest ih => cases hf
  | element i t a c rest ihc ih =>
      obtain ⟨hfc, hfr⟩ := List.append_eq_nil_iff.mp hf
      obtain ⟨hc, hrest⟩ := List.forall_mem_append.mp hy
      obtain ⟨hlec, heqc⟩ := ihc hfc hc
      obtain ⟨hler, heqr⟩ := ih hfr hrest
      rw [Forest.rewrite, restored, restored, textIds, textIds, List.length_append,
        List.length_append]
      refine ⟨Nat.add_le_add hlec hler, fun h => ?_⟩
      rw [heqc (by omega), heqr (by omega)]

/-! ### Texts that stand apart -/

/-- Whether a forest begins with a text. -/
def startsText : Forest → Bool
  | .text .. => true
  | _ => false

/-- Whether no text directly follows a text. -/
def spaced : Forest → Bool
  | .nil => true
  | .text _ _ rest => !rest.startsText && rest.spaced
  | .mask _ _ rest => rest.spaced
  | .element _ _ _ children rest => children.spaced && rest.spaced

@[simp] theorem spaced_blur (f : Forest) : (f.blur n).spaced = f.spaced := by
  have hstart (f : Forest) : (f.blur n).startsText = f.startsText := by cases f <;> rfl
  induction f with
  | nil => rfl
  | text i s rest ih => simp [blur, spaced, hstart, ih]
  | mask i m rest ih => simp [blur, spaced, ih]
  | element i t a c rest ihc ih => simp [blur, spaced, ihc, ih]

/-- Texts that stand apart are made whole again. -/
theorem restored_rewrite_of_spaced (hf : f.maskIds = []) (hs : f.spaced = true)
    (hy : ∀ p ∈ f.textsIn above before after, RowOf p.2.passage.text (y p.1 p.2)) :
    (f.rewrite y above before after).restored n = f.restored n := by
  induction f generalizing above before after with
  | nil => rfl
  | text i s rest ih =>
      obtain ⟨⟨halt, htext⟩, hrest⟩ := List.forall_mem_cons.mp hy
      have hfree : rest.maskIds = [] := hf
      rw [spaced, Bool.and_eq_true, Bool.not_eq_true'] at hs
      obtain ⟨hstart, hspaced⟩ := hs
      -- the rest is empty or begins with an element, so there is no text to join
      have hapart : (rest.restored n).joinText n s = .text n s (rest.restored n) := by
        cases rest with
        | text j s' more => cases hstart
        | mask j m more => cases hfree
        | nil => simp [restored, joinText, takeText]
        | element j t a c more => simp [restored, joinText, takeText]
      rw [restored_text hfree, Forest.rewrite]
      rcases halt.restored_append (rest.rewrite y above (before ++ s) after) with h | h
      · rw [h, htext, ih hfree hspaced hrest, hapart]
      · rw [h, htext, ih hfree hspaced hrest]
  | mask i m rest ih => cases hf
  | element i t a c rest ihc ih =>
      obtain ⟨hfc, hfr⟩ := List.append_eq_nil_iff.mp hf
      obtain ⟨hc, hrest⟩ := List.forall_mem_append.mp hy
      rw [spaced, Bool.and_eq_true] at hs
      rw [Forest.rewrite, restored, restored, ihc hfc hs.1 hc, ih hfr hs.2 hrest]

end Forest

/-! ### What comes of a text -/

namespace Fragment

variable {n : NodeId}

theorem gap_cases (text : List Char) (start stop : Nat) :
    gap text start stop = [] ∨ ∃ s, gap text start stop = [.text s] := by
  rw [gap]
  split_ifs
  · exact .inr ⟨_, rfl⟩
  · exact .inl rfl

/-- A match and what follows it make a row. -/
theorem alternating_mask_cons (text : List Char) (m : Mask) (last : Nat) (found : List TextMatch) :
    (leaves n (.mask m :: ofMatchesFrom text last found)).Alternating := by
  induction found generalizing m last with
  | nil =>
      rw [ofMatchesFrom]
      rcases gap_cases text last (Text.byteLength text) with h | ⟨s, h⟩ <;> rw [h]
      · exact .mask n m
      · exact .maskCons n m (.text n s)
  | cons f found ih =>
      rw [ofMatchesFrom]
      rcases gap_cases text last f.start with h | ⟨s, h⟩ <;> rw [h]
      · exact .maskCons n m (ih f.mask f.stop)
      · exact .maskCons n m (.textMask n n s f.mask (ih f.mask f.stop))

theorem alternating_ofMatches (text : String) (f : TextMatch) (found : List TextMatch) :
    (leaves n (ofMatches text (f :: found))).Alternating := by
  rw [ofMatches, ofMatchesFrom]
  have hmask := alternating_mask_cons (n := n) text.toList f.mask f.stop found
  rcases gap_cases text.toList 0 f.start with h | ⟨s, h⟩ <;> rw [h]
  · exact hmask
  · exact .textMask n n s f.mask hmask

end Fragment

namespace Turn

open Forest (Alternating RowOf)

theorem alternating_cut (options : Options) (n : NodeId) (t : Turn) (i : NodeId) (u : TextUnit) :
    Alternating (t.cut options n i u) := by
  unfold cut
  split
  · exact Fragment.alternating_ofMatches _ _ _
  · exact .text i u.passage.text

/-- **Turns make of a text** a row of leaves that reads like it. -/
theorem rowOf_yield (options : Options) (n : NodeId) (ts : List Turn) (i : NodeId)
    (u : TextUnit) : RowOf u.passage.text (yield options n ts i u).leaves := by
  induction ts generalizing i u with
  | nil => exact ⟨.text i u.passage.text, by simp [yield, Forest.keep, Forest.unmasked]⟩
  | cons t ts ih =>
      have hcut := alternating_cut options n t i u
      have hreads := (reads_cut options n t i u).1 ""
      rw [hcut.textAfter_eq, String.append_empty, String.append_empty] at hreads
      rw [yield]
      constructor
      · exact hcut.rewrite (fun j v => (ih j v).alternating) _ _ _
      · exact (Forest.unmasked_rewrite fun p _ => (ih p.1 p.2).unmasked_eq).trans hreads

end Turn

end TextMasking
