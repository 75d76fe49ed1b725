import TextMasking.Proofs.Regex.Traversal

/-! # Where a group is entered

An expression that begins with a group, perhaps after an assertion or a character
(`Regex.Leads`), enters the group where its match starts or one character later
(`Regex.start_le_of_preferred`), as long as no group inside or after it has the same name
(`Regex.Avoids`). -/

namespace TextMasking

/-- No group of the expression has the name. -/
def Regex.Avoids (name : String) : Regex → Prop
  | .empty | .set _ | .assert _ => True
  | .group n r => n ≠ name ∧ r.Avoids name
  | .seq a b => a.Avoids name ∧ b.Avoids name
  | .alt a b => a.Avoids name ∧ b.Avoids name
  | .times r _ _ _ => r.Avoids name

namespace Regex

variable {name : String}

theorem avoids_seqs {rs : List Regex} : (seqs rs).Avoids name ↔ ∀ r ∈ rs, r.Avoids name := by
  induction rs with
  | nil => simp [seqs, Avoids]
  | cons r rest ih =>
      cases rest with
      | nil => simp [seqs]
      | cons s rest =>
          rw [List.forall_mem_cons, ← ih, seqs]
          · rfl
          · exact fun h => List.cons_ne_nil _ _ h

theorem avoids_alts {rs : List Regex} : (alts rs).Avoids name ↔ ∀ r ∈ rs, r.Avoids name := by
  induction rs with
  | nil => simp [alts, Avoids]
  | cons r rest ih =>
      cases rest with
      | nil => simp [alts]
      | cons s rest =>
          rw [List.forall_mem_cons, ← ih, alts]
          · rfl
          · exact fun h => List.cons_ne_nil _ _ h

end Regex

/-- Meeting the goal does not enter the group. -/
def Goal.Avoids (name : String) : Goal → Prop
  | .run r => r.Avoids name
  | .leave _ => True
  | .again r _ _ => r.Avoids name

theorem Goal.Avoids.advance {name : String} {g : Goal} (h : g.Avoids name) :
    g.advance.Avoids name := by
  cases g <;> exact h

/-- Every entry of the group in `caps` was at `limit` or before. -/
def Captures.EntersBy (name : String) (limit : Nat) (caps : Captures) : Prop :=
  (∀ o ∈ caps.opened, o.1 = name → o.2 ≤ limit) ∧
    ∀ c ∈ caps.closed, c.1 = name → c.2.start ≤ limit

namespace Captures.EntersBy

variable {name : String} {limit : Nat} {caps : Captures}

theorem enter (h : caps.EntersBy name limit) {n : String} {pos : Nat}
    (hn : n = name → pos ≤ limit) : (caps.enter n pos).EntersBy name limit := by
  refine ⟨?_, h.2⟩
  intro o ho e
  rcases List.mem_cons.mp ho with rfl | ho
  · exact hn e
  · exact h.1 o ho e

theorem leave (h : caps.EntersBy name limit) (n : String) (pos : Nat) :
    (caps.leave n pos).EntersBy name limit := by
  rw [Captures.leave]
  split
  · rename_i o ho
    refine ⟨h.1, ?_⟩
    intro c hc e
    rcases List.mem_cons.mp hc with rfl | hc
    · exact h.1 _ (mem_of_lookup ho) e
    · exact h.2 c hc e
  · exact h

end Captures.EntersBy

/-- Goals that do not enter the group unfold into such goals. -/
theorem Unfolds.avoids {prev next : Option Char} {pos limit : Nat} {name : String}
    {gs gs' : List Goal} {caps caps' : Captures} (hu : Unfolds prev next pos gs caps gs' caps')
    (hgs : ∀ g ∈ gs, g.Avoids name) (hc : caps.EntersBy name limit) :
    (∀ g ∈ gs', g.Avoids name) ∧ caps'.EntersBy name limit := by
  cases hu with
  | leave n gs =>
      exact ⟨fun g hg => hgs g (List.mem_cons_of_mem _ hg), hc.leave n pos⟩
  | enter n r gs =>
      obtain ⟨⟨hn, hr⟩, hgs⟩ := List.forall_mem_cons.mp hgs
      refine ⟨List.forall_mem_cons.mpr ⟨hr, List.forall_mem_cons.mpr ⟨trivial, hgs⟩⟩, ?_⟩
      exact hc.enter fun e => absurd e hn
  | seq a b gs =>
      obtain ⟨⟨ha, hb⟩, hgs⟩ := List.forall_mem_cons.mp hgs
      exact ⟨List.forall_mem_cons.mpr ⟨ha, List.forall_mem_cons.mpr ⟨hb, hgs⟩⟩, hc⟩
  | left a b gs =>
      obtain ⟨⟨ha, -⟩, hgs⟩ := List.forall_mem_cons.mp hgs
      exact ⟨List.forall_mem_cons.mpr ⟨ha, hgs⟩, hc⟩
  | right a b gs =>
      obtain ⟨⟨-, hb⟩, hgs⟩ := List.forall_mem_cons.mp hgs
      exact ⟨List.forall_mem_cons.mpr ⟨hb, hgs⟩, hc⟩
  | againDone | empty | assert | timesDone =>
      exact ⟨fun g hg => hgs g (List.mem_cons_of_mem _ hg), hc⟩
  | againMore | timesOptional | timesBounded | timesAny | timesSome | timesMore =>
      obtain ⟨hr, hgs⟩ := List.forall_mem_cons.mp hgs
      exact ⟨List.forall_mem_cons.mpr ⟨hr, List.forall_mem_cons.mpr ⟨hr, hgs⟩⟩, hc⟩

namespace Regex

/-- The expression begins with the group and has no other of its name. -/
inductive Enters (name : String) : Regex → Prop
  | group {body : Regex} (hbody : body.Avoids name) : Enters name (.group name body)
  | seq {body r : Regex} (hbody : body.Avoids name) (hr : r.Avoids name) :
      Enters name (.seq (.group name body) r)

/-- An assertion or a character, or what is left of the choice between them. -/
inductive Edge : Regex → Prop
  | either (a : Assertion) (s : CharSet) : Edge (.alt (.assert a) (.set s))
  | assert (a : Assertion) : Edge (.assert a)
  | read (s : CharSet) : Edge (.set s)

/-- Before the group the expression reads at most as many characters. -/
inductive Leads (name : String) : Nat → Regex → Prop
  | here {r : Regex} (h : Enters name r) : Leads name 0 r
  | edge {q r : Regex} (hq : Edge q) (h : Enters name r) : Leads name 1 (.seq q r)

theorem Enters.of_seqs {name : String} {body : Regex} {after : List Regex}
    (hbody : body.Avoids name) (hafter : ∀ r ∈ after, r.Avoids name) :
    Enters name (seqs (.group name body :: after)) := by
  cases after with
  | nil => exact .group hbody
  | cons r rest => exact .seq hbody (avoids_seqs.mpr hafter)

end Regex

/-- Goals of a thread that has still to enter the group, which it does at `limit` or before. -/
inductive Awaits (name : String) (limit : Nat) : Nat → List Goal → Prop
  | before {pos width : Nat} {r : Regex} (h : r.Leads name width) (hp : pos + width ≤ limit) :
      Awaits name limit pos [.run r]
  | edge {pos : Nat} {q r : Regex} (hq : q.Edge) (h : r.Enters name) (hp : pos + 1 ≤ limit) :
      Awaits name limit pos [.run q, .run r]
  | group {pos : Nat} {body : Regex} {gs : List Goal} (hbody : body.Avoids name)
      (hgs : ∀ g ∈ gs, g.Avoids name) (hp : pos ≤ limit) :
      Awaits name limit pos (.run (.group name body) :: gs)

namespace Awaits

variable {name : String} {limit pos : Nat} {gs : List Goal} {caps : Captures}

/-- A thread unfolds towards the group, or enters it. -/
theorem unfolds {prev next : Option Char} {gs' : List Goal} {caps' : Captures}
    (h : Awaits name limit pos gs) (hc : caps.EntersBy name limit)
    (hu : Unfolds prev next pos gs caps gs' caps') :
    caps'.EntersBy name limit ∧ (Awaits name limit pos gs' ∨ ∀ g ∈ gs', g.Avoids name) := by
  have enters {body : Regex} {gs : List Goal} (hbody : body.Avoids name)
      (hgs : ∀ g ∈ gs, g.Avoids name) (hp : pos ≤ limit) :
      (caps.enter name pos).EntersBy name limit ∧
        ∀ g ∈ .run body :: .leave name :: gs, g.Avoids name :=
    ⟨hc.enter fun _ => hp,
      List.forall_mem_cons.mpr ⟨hbody, List.forall_mem_cons.mpr ⟨trivial, hgs⟩⟩⟩
  cases h with
  | before h hp =>
      cases h with
      | here h =>
          cases h with
          | group hbody =>
              cases hu
              exact (enters hbody (by simp) hp).imp_right .inr
          | seq hbody hr =>
              cases hu
              exact ⟨hc, .inl (.group hbody (List.forall_mem_singleton.mpr hr) hp)⟩
      | edge hq h =>
          cases hu
          exact ⟨hc, .inl (.edge hq h hp)⟩
  | edge hq h hp =>
      cases hq with
      | either a s =>
          cases hu with
          | left => exact ⟨hc, .inl (.edge (.assert a) h hp)⟩
          | right => exact ⟨hc, .inl (.edge (.read s) h hp)⟩
      | assert a =>
          cases hu
          exact ⟨hc, .inl (.before (.here h) (Nat.le_of_succ_le hp))⟩
      | read s => cases hu
  | group hbody hgs hp =>
      cases hu
      exact (enters hbody hgs hp).imp_right .inr

/-- The only character that a thread reads on its way is the one before the group. -/
theorem read {s : CharSet} (h : Awaits name limit pos (.run (.set s) :: gs)) :
    Awaits name limit (pos + 1) (gs.map Goal.advance) := by
  cases h with
  | before h _ =>
      cases h with
      | here h => cases h
  | edge _ h hp => exact .before (.here h) hp

end Awaits

/-- **The group is entered where the match starts, or one character later.** -/
theorem Regex.start_le_of_preferred {name : String} {width : Nat} {r : Regex}
    (h : r.Leads name width) {text : List Char} {pos : Nat} {m : Match}
    (hm : r.preferred text pos = some m) {s : Span} (hs : m.caps.span? name = some s) :
    s.start ≤ pos + width := by
  -- a thread is on its way to the group, or it has entered it in time and cannot enter it again
  have hinv := matchAt_invariant
    (P := fun p gs caps => caps.EntersBy name (pos + width) ∧
      (Awaits name (pos + width) p gs ∨ ∀ g ∈ gs, g.Avoids name)) ?_ ?_ ?_ hm
  · exact hinv.1.1.2 _ (mem_of_lookup hs) rfl
  · rintro prev next p gs caps gs' caps' hu ⟨hc, haw | hgs⟩
    · exact haw.unfolds hc hu
    · exact (hu.avoids hgs hc).symm.imp_right .inr
  · rintro p s gs caps ⟨hc, haw | hgs⟩
    · exact ⟨hc, .inl haw.read⟩
    · refine ⟨hc, .inr ?_⟩
      intro g hg
      obtain ⟨g', hg', rfl⟩ := List.mem_map.mp hg
      exact (hgs g' (List.mem_cons_of_mem _ hg')).advance
  · exact ⟨⟨by simp [Captures.empty], by simp [Captures.empty]⟩, .inl (.before h (Nat.le_refl _))⟩

end TextMasking
