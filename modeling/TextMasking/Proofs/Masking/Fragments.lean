import Mathlib.Data.List.Chain
import TextMasking.Proofs.Matching.Offsets

/-! # Fragments as they are built

Where a text is a sequence of bytes, its fragments are built in a loop over the matches
(`Fragment.build?`).  Each step cuts the text at two byte offsets, and a cut inside a character,
behind the end or before its own beginning would break it.  Matches that stand in the text one after
another (`TextMatch.InRow`) break no step, and the fragments tile the text with them
(`Fragment.Tiles`), which only one list of fragments does (`Fragment.Tiles.unique`). -/

namespace TextMasking

/-- Matches that stand in a text one after another: each is a part of the text, maybe an empty one,
and ends before the next begins. -/
structure TextMatch.InRow (text : List Char) (found : List TextMatch) : Prop where
  parts : ∀ x ∈ found, ∃ left body right, x.Cuts text left body right
  inOrder : found.Pairwise fun x y => x.stop ≤ y.start

namespace Text

/-- The part behind some characters. -/
theorem part?_append (before part after : List Char) :
    part? (byteLength before) (byteLength (before ++ part)) (before ++ part ++ after) =
      some part := by
  have hdistance : distance? (byteLength before) (byteLength (before ++ part)) =
      some (byteLength part) := by
    rw [distance?, byteLength_append, if_pos (Nat.le_add_right _ _), Nat.add_sub_cancel_left]
  simp only [part?, cutAt?, hdistance, List.append_assoc, splitAtByte_append, if_true, bind,
    Option.bind, pure]

theorem eq_splitAtByte_of_cutAt? {offset : Nat} {cs : List Char} {parts : List Char × List Char}
    (h : cutAt? offset cs = some parts) : parts = splitAtByte offset cs := by
  rw [cutAt?] at h
  split_ifs at h
  exact (Option.some.inj h).symm

/-- A part that is cut out without a fault is what stands between the offsets. -/
theorem eq_sliceBytes_of_part? {start stop : Nat} {cs part : List Char}
    (h : part? start stop cs = some part) : part = sliceBytes start stop cs := by
  obtain ⟨⟨before, rest⟩, hbefore, h⟩ := Option.bind_eq_some_iff.mp h
  obtain ⟨n, hn, h⟩ := Option.bind_eq_some_iff.mp h
  obtain ⟨⟨first, others⟩, hfirst, h⟩ := Option.bind_eq_some_iff.mp h
  obtain rfl : first = part := Option.some.inj h
  rw [distance?] at hn
  split_ifs at hn
  cases hn
  rw [sliceBytes, ← eq_splitAtByte_of_cutAt? hbefore, ← eq_splitAtByte_of_cutAt? hfirst]

end Text

namespace Fragment

/-! ### The loop -/

/-- The text between two byte offsets as a fragment, if there is any; nothing if the text cannot be
cut there. -/
def gap? (text : List Char) (start stop : Nat) : Option (List Fragment) :=
  if start < stop then (Text.part? start stop text).map fun part => [.text (String.ofList part)]
  else some []

/-- Fragments under way: those so far, and the byte offset behind the last match. -/
structure Building where
  built : List Fragment
  last : Nat

/-- Adds the text before a match and the mask that stands for it. -/
def Building.step (text : List Char) (b : Building) (m : TextMatch) : Option Building :=
  (gap? text b.last m.start).map fun before =>
    ⟨b.built ++ before ++ [.mask m.mask], m.stop⟩

/-- Adds the text behind the last match. -/
def Building.finish (text : List Char) (b : Building) : Option (List Fragment) :=
  (gap? text b.last (Text.byteLength text)).map (b.built ++ ·)

/-- Builds the fragments of a text with its matches as masks; nothing if a step is broken. -/
def build? (text : String) (found : List TextMatch) : Option (List Fragment) := do
  let b ← found.foldlM (Building.step text.toList) ⟨[], 0⟩
  b.finish text.toList

theorem eq_gap_of_gap? {text : List Char} {start stop : Nat} {fragments : List Fragment}
    (h : gap? text start stop = some fragments) : fragments = gap text start stop := by
  unfold gap? at h
  unfold gap
  split_ifs at h ⊢
  · obtain ⟨part, hpart, rfl⟩ := Option.map_eq_some_iff.mp h
    rw [Text.eq_sliceBytes_of_part? hpart]
  · exact (Option.some.inj h).symm

/-- Where no step is broken, the loop adds what the recursion over the matches does. -/
theorem eq_ofMatchesFrom_of_foldlM {text : List Char} {found : List TextMatch} {b b' : Building}
    {fragments : List Fragment} (h : found.foldlM (Building.step text) b = some b')
    (hfinish : b'.finish text = some fragments) :
    fragments = b.built ++ ofMatchesFrom text b.last found := by
  induction found generalizing b with
  | nil =>
      cases h
      obtain ⟨rest, hrest, rfl⟩ := Option.map_eq_some_iff.mp hfinish
      rw [ofMatchesFrom, eq_gap_of_gap? hrest]
  | cons m found ih =>
      rw [List.foldlM_cons] at h
      obtain ⟨b₁, hstep, hrun⟩ := Option.bind_eq_some_iff.mp h
      obtain ⟨before, hbefore, rfl⟩ := Option.map_eq_some_iff.mp hstep
      rw [ih hrun, ofMatchesFrom, eq_gap_of_gap? hbefore]
      simp

/-- **The loop builds the fragments of the text,** whatever the matches are, unless a step is
broken. -/
theorem eq_ofMatches_of_build? {text : String} {found : List TextMatch} {fragments : List Fragment}
    (h : build? text found = some fragments) : fragments = ofMatches text found := by
  obtain ⟨b, hrun, hfinish⟩ := Option.bind_eq_some_iff.mp h
  exact eq_ofMatchesFrom_of_foldlM hrun hfinish

/-! ### Tilings -/

/-- Whether the fragment is text that is left as it is. -/
def isText : Fragment → Bool
  | .text _ => true
  | .mask _ => false

/-- The masks among fragments, each with the bytes, from an offset on, that it hides. -/
def masksFrom (pos : Nat) : List Fragment → List (Span × Mask)
  | [] => []
  | .text s :: rest => masksFrom (pos + Text.byteLength s.toList) rest
  | .mask m :: rest =>
    (⟨pos, pos + Text.byteLength m.hidden.toList⟩, m) ::
      masksFrom (pos + Text.byteLength m.hidden.toList) rest

/-- Where a match stands, and the mask that stands for it. -/
def spot (m : TextMatch) : Span × Mask := (⟨m.start, m.stop⟩, m.mask)

/-- No text among the fragments is empty, and no two of them stand side by side. -/
structure Apart (fragments : List Fragment) : Prop where
  text_ne : ∀ s, .text s ∈ fragments → s ≠ ""
  chain : fragments.IsChain fun f g => f.isText = true → g.isText = false

/-- Fragments tile a text with its matches: they read as the text where each mask is read as what it
hides, the masks are the matches in their places, and between them stand texts that are not empty,
one at a time. -/
structure Tiles (text : String) (found : List TextMatch) (fragments : List Fragment) : Prop where
  unmasked_eq : String.join (fragments.map unmasked) = text
  masks_eq : masksFrom 0 fragments = found.map spot
  apart : Apart fragments

theorem masksFrom_append (pos : Nat) (a b : List Fragment) :
    masksFrom pos (a ++ b) = masksFrom pos a ++
      masksFrom (pos + Text.byteLength (String.join (a.map unmasked)).toList) b := by
  induction a generalizing pos with
  | nil => simp [masksFrom, Text.byteLength]
  | cons f rest ih => cases f <;> simp [masksFrom, ih, unmasked, Nat.add_assoc]

/-- The fragment of characters, if there are any. -/
def ofChars (cs : List Char) : List Fragment :=
  if cs = [] then [] else [.text (String.ofList cs)]

theorem unmasked_ofChars (cs : List Char) :
    String.join ((ofChars cs).map unmasked) = String.ofList cs := by
  unfold ofChars
  split_ifs with h
  · simp [h]
  · simp [unmasked]

theorem masksFrom_ofChars (pos : Nat) (cs : List Char) : masksFrom pos (ofChars cs) = [] := by
  unfold ofChars
  split_ifs <;> rfl

theorem gap?_append (before part after : List Char) :
    gap? (before ++ part ++ after) (Text.byteLength before) (Text.byteLength (before ++ part)) =
      some (ofChars part) := by
  rw [gap?, ofChars, Text.part?_append, Text.byteLength_append]
  cases part with
  | nil => simp [Text.byteLength]
  | cons c part =>
      have hpos := Text.byteLength_pos (List.cons_ne_nil c part)
      rw [if_pos (Nat.lt_add_of_pos_right hpos), if_neg (List.cons_ne_nil c part)]
      rfl

namespace Apart

variable {fragments : List Fragment}

/-- A text may stand behind a mask. -/
theorem append_ofChars (h : Apart fragments)
    (hclosed : ∀ f ∈ fragments.getLast?, f.isText = false) (cs : List Char) :
    Apart (fragments ++ ofChars cs) where
  text_ne := by
    intro s hs
    rcases List.mem_append.mp hs with hs | hs
    · exact h.text_ne s hs
    · unfold ofChars at hs
      split_ifs at hs with hne
      · cases hs
      · cases List.mem_singleton.mp hs
        simpa using hne
  chain := by
    refine h.chain.append ?_ fun f hf g _ htext => ?_
    · unfold ofChars
      split_ifs
      · exact .nil
      · exact .singleton _
    · simp [hclosed f hf] at htext

/-- A mask may stand behind all else. -/
theorem append_mask (h : Apart fragments) (mask : Mask) : Apart (fragments ++ [.mask mask]) where
  text_ne := by
    intro s hs
    refine h.text_ne s ((List.mem_append.mp hs).resolve_right fun hmask => ?_)
    cases List.mem_singleton.mp hmask
  chain := by
    refine h.chain.append (.singleton _) fun f _ g hg _ => ?_
    obtain rfl : .mask mask = g := Option.some.inj hg
    rfl

theorem of_cons {f : Fragment} (h : Apart (f :: fragments)) : Apart fragments where
  text_ne s hs := h.text_ne s (List.mem_cons_of_mem _ hs)
  chain := h.chain.of_cons

theorem ofChars_eq {s : String} (h : Apart (.text s :: fragments)) :
    ofChars s.toList = [.text s] := by
  have hne := h.text_ne s List.mem_cons_self
  rw [ofChars, if_neg (by simpa using hne), String.ofList_toList]

end Apart

namespace Tiles

variable {text read left body right : List Char} {done : List TextMatch}
  {built : List Fragment} {m : TextMatch}

/-- More text may be added behind a mask. -/
theorem append_ofChars (h : Tiles (String.ofList read) done built)
    (hclosed : ∀ f ∈ built.getLast?, f.isText = false) (more : List Char) :
    Tiles (String.ofList (read ++ more)) done (built ++ ofChars more) where
  unmasked_eq := by
    rw [List.map_append, String.join_append, h.unmasked_eq, unmasked_ofChars, String.ofList_append]
  masks_eq := by rw [masksFrom_append, masksFrom_ofChars, List.append_nil, h.masks_eq]
  apart := h.apart.append_ofChars hclosed more

/-- A mask may be added where its match begins. -/
theorem append_mask (h : Tiles (String.ofList left) done built)
    (hcuts : m.Cuts text left body right) :
    Tiles (String.ofList (left ++ body)) (done ++ [m]) (built ++ [.mask m.mask]) where
  unmasked_eq := by
    rw [List.map_append, String.join_append, h.unmasked_eq, String.ofList_append,
      ← hcuts.matched_eq]
    simp [unmasked, TextMatch.mask]
  masks_eq := by
    rw [masksFrom_append, h.masks_eq, h.unmasked_eq, List.map_append]
    simp [masksFrom, spot, TextMatch.mask, hcuts.matched_eq, hcuts.start_eq, hcuts.stop_eq]
  apart := h.apart.append_mask m.mask

end Tiles

/-! ### What a step keeps -/

/-- The fragments under way tile what was read of the text, and the last of them is a mask. -/
structure Building.Tiled (b : Building) (text : List Char) (done : List TextMatch)
    (read rest : List Char) : Prop where
  text_eq : text = read ++ rest
  last_eq : b.last = Text.byteLength read
  tiles : Tiles (String.ofList read) done b.built
  closed : ∀ f ∈ b.built.getLast?, f.isText = false

namespace Building.Tiled

variable {text read rest left body right : List Char} {done found : List TextMatch} {b : Building}
  {m : TextMatch}

/-- A step to a match that begins behind what was read is not broken. -/
theorem step (h : b.Tiled text done read rest) (hcuts : m.Cuts text left body right)
    (hle : b.last ≤ m.start) :
    ∃ b', b.step text m = some b' ∧ b'.Tiled text (done ++ [m]) (left ++ body) right := by
  have hread : read <+: text := ⟨rest, h.text_eq.symm⟩
  have hleft : left <+: text := ⟨body ++ right, by rw [hcuts.text_eq, List.append_assoc]⟩
  rw [h.last_eq, hcuts.start_eq] at hle
  -- both offsets stand between characters, and the match does not begin in what was read
  obtain ⟨more, rfl⟩ := List.prefix_of_prefix_length_le hread hleft
    (Nat.le_of_not_lt fun hlt =>
      Nat.not_lt_of_le hle ((Text.byteLength_lt_iff hleft hread).mpr hlt))
  have hgap := gap?_append read more (body ++ right)
  rw [← List.append_assoc, ← hcuts.text_eq, ← hcuts.start_eq, ← h.last_eq] at hgap
  refine ⟨⟨b.built ++ ofChars more ++ [.mask m.mask], m.stop⟩, ?_, ?_⟩
  · rw [Building.step, hgap]
    rfl
  · exact
      { text_eq := hcuts.text_eq
        last_eq := hcuts.stop_eq
        tiles := (h.tiles.append_ofChars h.closed more).append_mask hcuts
        closed := by simp [isText] }

/-- No step to matches in a row is broken. -/
theorem run (h : b.Tiled text done read rest) (hrow : TextMatch.InRow text found)
    (hle : ∀ m ∈ found, b.last ≤ m.start) :
    ∃ b' read' rest', found.foldlM (Building.step text) b = some b' ∧
      b'.Tiled text (done ++ found) read' rest' := by
  induction found generalizing b done read rest with
  | nil => exact ⟨b, read, rest, rfl, by rwa [List.append_nil]⟩
  | cons m found ih =>
      obtain ⟨⟨left, body, right, hcuts⟩, hparts⟩ := List.forall_mem_cons.mp hrow.parts
      obtain ⟨hbehind, hrest⟩ := List.pairwise_cons.mp hrow.inOrder
      obtain ⟨b₁, hstep, h₁⟩ := h.step hcuts (hle m List.mem_cons_self)
      -- the step leaves off where the match ends, and the others begin there or behind it
      have hlast : b₁.last = m.stop := by rw [h₁.last_eq, hcuts.stop_eq]
      obtain ⟨b', read', rest', hrun, h'⟩ := ih h₁ ⟨hparts, hrest⟩ (hlast ▸ hbehind)
      refine ⟨b', read', rest', ?_, by rwa [List.append_cons]⟩
      rw [List.foldlM_cons, hstep]
      exact hrun

theorem finish (h : b.Tiled text done read rest) :
    ∃ fragments, b.finish text = some fragments ∧ Tiles (String.ofList text) done fragments := by
  have hgap := gap?_append read rest []
  rw [List.append_nil, ← h.text_eq, ← h.last_eq] at hgap
  refine ⟨b.built ++ ofChars rest, ?_, ?_⟩
  · rw [Building.finish, hgap]
    rfl
  · rw [h.text_eq]
    exact h.tiles.append_ofChars h.closed rest

end Building.Tiled

/-! ### Tilings are unique -/

/-- The fragments of characters, the first of them at an offset, with masks in their places. -/
def ofSpots (cs : List Char) (pos : Nat) : List (Span × Mask) → List Fragment
  | [] => ofChars cs
  | (s, m) :: rest =>
    let (before, more) := Text.splitAtByte (s.start - pos) cs
    ofChars before ++
      .mask m :: ofSpots (Text.splitAtByte (s.stop - s.start) more).2 s.stop rest

/-- Fragments can be told from what they read as and their masks: behind a text stands a mask or
nothing, which tells where the text ends. -/
theorem Apart.eq_ofSpots {fragments : List Fragment} (h : Apart fragments) (pos : Nat) :
    fragments =
      ofSpots (String.join (fragments.map unmasked)).toList pos (masksFrom pos fragments) :=
  match fragments with
  | [] => rfl
  | .mask m :: rest => by
      have ih := h.of_cons.eq_ofSpots (pos + Text.byteLength m.hidden.toList)
      simpa [masksFrom, ofSpots, unmasked, Text.splitAtByte_zero, Text.splitAtByte_append,
        ofChars] using ih
  | [.text s] => by simp [masksFrom, ofSpots, unmasked, h.ofChars_eq]
  | .text s :: .mask m :: rest => by
      have ih := h.of_cons.of_cons.eq_ofSpots
        (pos + Text.byteLength s.toList + Text.byteLength m.hidden.toList)
      simpa [masksFrom, ofSpots, unmasked, Text.splitAtByte_append, h.ofChars_eq] using ih
  | .text _ :: .text _ :: _ => by
      have := h.chain
      simp [isText] at this

/-- A text has one tiling with its matches. -/
theorem Tiles.unique {text : String} {found : List TextMatch} {a b : List Fragment}
    (ha : Tiles text found a) (hb : Tiles text found b) : a = b := by
  rw [ha.apart.eq_ofSpots 0, hb.apart.eq_ofSpots 0, ha.unmasked_eq, ha.masks_eq, hb.unmasked_eq,
    hb.masks_eq]

/-! ### Matches in a row -/

/-- Matches in a row break no step, and the fragments tile the text with them. -/
theorem exists_tiles_of_inRow {text : String} {found : List TextMatch}
    (h : TextMatch.InRow text.toList found) :
    ∃ fragments, build? text found = some fragments ∧ Tiles text found fragments := by
  have hnone : Building.Tiled ⟨[], 0⟩ text.toList [] [] text.toList :=
    { text_eq := rfl
      last_eq := rfl
      tiles := ⟨rfl, rfl, ⟨nofun, .nil⟩⟩
      closed := nofun }
  obtain ⟨b, read, rest, hrun, hb⟩ := hnone.run h fun _ _ => Nat.zero_le _
  obtain ⟨fragments, hfinish, htiles⟩ := hb.finish
  refine ⟨fragments, ?_, by simpa using htiles⟩
  rw [build?, hrun]
  exact hfinish

/-- **Fragments tile their text.**  Matches that stand in a text one after another break no step of
the loop; the fragments that it builds are those that a pass takes, and they are the one tiling of
the text with the matches. -/
theorem ofMatches_tiles {text : String} {found : List TextMatch}
    (h : TextMatch.InRow text.toList found) :
    build? text found = some (ofMatches text found) ∧
      Tiles text found (ofMatches text found) ∧
      ∀ fragments, Tiles text found fragments → fragments = ofMatches text found := by
  obtain ⟨fragments, hbuild, htiles⟩ := exists_tiles_of_inRow h
  obtain rfl := eq_ofMatches_of_build? hbuild
  exact ⟨hbuild, htiles, fun _ hother => hother.unique htiles⟩

/-- Matches at both ends of a text, two that touch, one without a character, and characters of
several bytes. -/
theorem ofMatches_tiles_touching :
    let text := "éab€"
    let found : List TextMatch :=
      [⟨0, 2, "é", "X", "é"⟩, ⟨2, 3, "a", "", "a"⟩, ⟨3, 3, "", "Y", "b*"⟩, ⟨4, 7, "€", "éé", "€"⟩]
    let fragments : List Fragment :=
      [.mask ⟨"é", "X"⟩, .mask ⟨"a", ""⟩, .mask ⟨"", "Y"⟩, .text "b", .mask ⟨"€", "éé"⟩]
    TextMatch.InRow text.toList found ∧ build? text found = some fragments ∧
      Tiles text found fragments := by
  intro text found fragments
  have hrow : TextMatch.InRow text.toList found :=
    { parts := by
        simp only [found, List.forall_mem_cons]
        exact ⟨⟨[], ['é'], ['a', 'b', '€'], by decide +kernel, rfl, rfl, rfl⟩,
          ⟨['é'], ['a'], ['b', '€'], by decide +kernel, rfl, rfl, rfl⟩,
          ⟨['é', 'a'], [], ['b', '€'], by decide +kernel, rfl, rfl, rfl⟩,
          ⟨['é', 'a', 'b'], ['€'], [], by decide +kernel, rfl, rfl, rfl⟩, nofun⟩
      inOrder := by decide }
  have hfragments : ofMatches text found = fragments := by decide +kernel
  obtain ⟨hbuild, htiles, -⟩ := ofMatches_tiles hrow
  rw [hfragments] at hbuild htiles
  exact ⟨hrow, hbuild, htiles⟩

end Fragment

namespace Matcher

variable {m : Matcher} {before text after : String} {options : Options} {found : List TextMatch}

/-- What a scan finds stands in the text one match after another. -/
theorem inRow_of_scan (h : m.scan before text after options = .ok found) :
    TextMatch.InRow text.toList found := by
  obtain ⟨spans, hspans, rfl, -⟩ := exists_spans_of_scan h
  have hord := ordered_of_spans hspans (Nat.le_add_right _ _)
  refine ⟨fun x hx => ?_, m.pairwise_report hord (Nat.le_refl _) (by simp [ScanText.between])⟩
  obtain ⟨s, hs, rfl⟩ := List.mem_map.mp hx
  obtain ⟨hlo, hlt, hhi⟩ := hord.of_mem hs
  obtain ⟨left, body, right, hcuts, -⟩ :=
    m.isAt_report after.toList hlo (Nat.le_of_lt hlt) hhi
  exact ⟨left, body, right, hcuts⟩

/-- **No pass breaks the loop:** the fragments of a text that was scanned can be built. -/
theorem build?_of_scan (h : m.scan before text after options = .ok found) :
    Fragment.build? text found = some (Fragment.ofMatches text found) := by
  obtain ⟨fragments, hbuild, -⟩ := Fragment.exists_tiles_of_inRow (inRow_of_scan h)
  rw [hbuild, Fragment.eq_ofMatches_of_build? hbuild]

end Matcher

end TextMasking
