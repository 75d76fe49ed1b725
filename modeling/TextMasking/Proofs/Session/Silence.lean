import TextMasking.Proofs.Masking.Fences
import TextMasking.Proofs.Session.Counting
import TextMasking.Proofs.Session.Lines

/-! # Texts in which nothing is found

A pass whose rules find nothing in the texts that it reads leaves the document as it is
(`Engine.apply_eq_self`), whether they were given up or not.  The texts that are read of a plain
text are its paragraphs, each by itself (`Document.exists_paragraph_of_mem_passages`), and what is
read when a line comes is that line by itself (`Document.Body.eq_of_mem_passages`).

Pushing lines never fails, whatever the rules find (`LineStream.Growing.push_line`), and a line in
which they find nothing comes back as it is. -/

namespace TextMasking

namespace Matcher

variable {m : Matcher} {options : Options} {d : Document} {x : NodeId} {r : Report}

/-- A rule that finds nothing in the passages has no findings, or it was given up. -/
theorem findings_of_not_hits {ps : List (NodeId × Passage)}
    (h : ∀ p ∈ ps, m.hits options p.2 = false) {fs : List Finding}
    (hfs : m.findings options ps = .ok fs) : fs = [] := by
  induction ps generalizing fs with
  | nil =>
      cases hfs
      rfl
  | cons p ps ih =>
      obtain ⟨hp, hps⟩ := List.forall_mem_cons.mp h
      rw [findings] at hfs
      rw [hits] at hp
      cases hscan : m.scan p.2.before p.2.text p.2.after options with
      | error fault =>
          rw [hscan] at hfs
          cases hfs
      | ok found =>
          cases hmore : m.findings options ps with
          | error fault =>
              rw [hscan, hmore] at hfs
              cases hfs
          | ok others =>
              rw [hscan] at hp
              cases found with
              | cons first found => cases hp
              | nil =>
                  rw [hscan, hmore] at hfs
                  cases hfs
                  exact ih hps hmore

theorem apply_of_not_hits (h : ∀ p ∈ d.passages x options, m.hits options p.2 = false) :
    (m.apply x options (d, r)).1 = d := by
  rw [apply]
  dsimp only
  cases hfs : m.findings options (d.passages x options) with
  | error fault => rfl
  | ok fs =>
      rw [findings_of_not_hits h hfs]
      rfl

theorem foldl_apply_of_not_hits {ms : List Matcher}
    (h : ∀ m ∈ ms, ∀ p ∈ d.passages x options, m.hits options p.2 = false) :
    (ms.foldl (fun state m => m.apply x options state) (d, r)).1 = d := by
  induction ms generalizing r with
  | nil => rfl
  | cons m ms ih =>
      obtain ⟨hm, hms⟩ := List.forall_mem_cons.mp h
      have hstep : m.apply x options (d, r) = (d, (m.apply x options (d, r)).2) :=
        Prod.ext (apply_of_not_hits hm) rfl
      rw [List.foldl_cons, hstep]
      exact ih hms

end Matcher

namespace Engine

variable {e : Engine} {d : Document} {x : NodeId}

/-- No rule finds anything in the text, read by itself. -/
def FindsNothing (e : Engine) (s : String) : Prop :=
  ∀ m ∈ e.matchers.matchers, m.hits e.options ⟨"", s, ""⟩ = false

instance (s : String) : Decidable (e.FindsNothing s) :=
  inferInstanceAs (Decidable (∀ m ∈ e.matchers.matchers, m.hits e.options ⟨"", s, ""⟩ = false))

/-- **A pass that finds nothing** leaves the document as it is. -/
theorem apply_eq_self
    (h : ∀ p ∈ d.passages x e.options, ∃ s, p.2 = ⟨"", s, ""⟩ ∧ e.FindsNothing s) :
    (e.apply d x).1 = d := by
  refine Matcher.foldl_apply_of_not_hits fun m hm p hp => ?_
  obtain ⟨s, hs, hnothing⟩ := h p hp
  rw [hs]
  exact hnothing m hm

end Engine

/-! ### Plain texts -/

namespace Block

/-- Of blocks only the paragraphs are read, each by itself. -/
theorem exists_paragraph_of_passage? {options : Options} (hskip : options.skipBlank = true)
    {blocks : List Block} (hproper : ∀ b ∈ blocks, b.Proper) (next : NodeId) (before : String)
    {q : NodeId × TextUnit} (hq : q ∈ (forestOf next blocks).1.unitsFrom [body] before)
    {p : Passage} (hp : q.2.passage? options = some p) :
    ∃ s, .paragraph s ∈ blocks ∧ p = ⟨"", s, ""⟩ := by
  induction blocks generalizing next before with
  | nil => cases hq
  | cons b blocks ih =>
      obtain ⟨hb, hblocks⟩ := List.forall_mem_cons.mp hproper
      have hrest {next : NodeId} {before : String}
          (hq : q ∈ (forestOf next blocks).1.unitsFrom [body] before) :
          ∃ s, .paragraph s ∈ b :: blocks ∧ p = ⟨"", s, ""⟩ := by
        obtain ⟨s, hs, e⟩ := ih hblocks next before hq
        exact ⟨s, List.mem_cons_of_mem _ hs, e⟩
      rw [forestOf] at hq
      cases b with
      | paragraph s =>
          rcases List.mem_cons.mp hq with rfl | hq
          · exact ⟨s, List.mem_cons_self, TextUnit.eq_of_passage? hp ▸ rfl⟩
          · exact hrest hq
      | blank s =>
          rcases List.mem_cons.mp hq with rfl | hq
          · have hblank : Text.blank s = true := hb
            simp [TextUnit.passage?, hskip, hblank] at hp
          · exact hrest hq
      | code s =>
          rcases List.mem_cons.mp hq with rfl | hq
          · simp [TextUnit.passage?, excludes_code] at hp
          · exact hrest hq

end Block

namespace Document

/-- Of a plain text its paragraphs are read. -/
theorem exists_paragraph_of_mem_passages {text : String} {p : NodeId × Passage}
    (hp : p ∈ (ofPlainText text).passages root .default) :
    ∃ s, .paragraph s ∈ Block.ofText text ∧ p.2 = ⟨"", s, ""⟩ := by
  obtain ⟨u, hu, -, hpass⟩ := (wellFormed_ofPlainText text).mem_passages_iff.mp hp
  have hmem : (p.1, u) ∈
      (Block.forestOf (root + 1) (Block.ofText text)).1.unitsFrom [Block.body] "" := by
    rw [units, ofPlainText] at hu
    simpa [Forest.unitsFrom, Block.body] using hu
  exact Block.exists_paragraph_of_passage? rfl (Block.proper_of_mem_ofLines _) _ _ hmem hpass

theorem body_ofPlainText (text : String) :
    (ofPlainText text).Body (Block.forestOf (root + 1) (Block.ofText text)).1 :=
  ⟨wellFormed_ofPlainText text, List.mem_singleton_self _⟩

/-- A plain text is shown as it is. -/
theorem shown_ofPlainText (text : String) : (ofPlainText text).shown root = text := by
  obtain ⟨parts, -, hlines, hmap⟩ := Block.cuts_ofText text
  have hcontent : (Block.ofText text).map Block.content = parts.map Stretch.text := by
    have := congrArg (List.map Prod.fst) hmap
    rwa [List.map_map, List.map_map] at this
  rw [(body_ofPlainText text).shown, Block.shown_forestOf, hcontent, Stretch.join_text, hlines,
    Text.flatten_lines, String.ofList_toList]

end Document

/-- **A plain text in whose paragraphs nothing is found** is shown as it is after a pass. -/
theorem Engine.shown_apply_ofPlainText {rules : RuleList} {text : String}
    (h : ∀ b ∈ Block.ofText text, b = .paragraph b.content →
      (Engine.ofRules rules .default).FindsNothing b.content) :
    ((Engine.ofRules rules .default).apply (Document.ofPlainText text) Document.root).1.shown
      Document.root = text := by
  rw [Engine.apply_eq_self, Document.shown_ofPlainText]
  intro p hp
  obtain ⟨s, hs, e⟩ := Document.exists_paragraph_of_mem_passages hp
  exact ⟨s, e, h (.paragraph s) hs rfl⟩

/-! ### Streams -/

namespace Document

variable {d : Document} {f : Forest} {p i : NodeId} {line : String} {options : Options}

/-- A pass over a paragraph reads its text by itself. -/
theorem Body.eq_of_mem_passages (h : d.Body (f ++ .element p "p" [] (.text i line .nil) .nil))
    {q : NodeId × Passage} (hq : q ∈ d.passages p options) : q.2 = ⟨"", line, ""⟩ := by
  obtain ⟨u, hu, hid, hpass⟩ := h.wellFormed.mem_passages_iff.mp hq
  have hi : q.1 = i := by
    rw [textIds, (Engine.tree?_paragraph h).1] at hid
    simpa [Forest.textIds] using hid
  have hunit : u = Engine.paragraphUnit p line :=
    h.wellFormed.unit_unique hu (hi ▸ Engine.mem_units_paragraph h)
  rw [hunit] at hpass
  exact TextUnit.eq_of_passage? hpass ▸ rfl

end Document

namespace LineStream

variable {s : LineStream} {e : Engine} {line : String}

/-- A line outside of fenced blocks is given back, as it is if nothing is found in it. -/
theorem Growing.push_paragraph (h : s.Growing e) (hplain : s.fenced = none)
    (hfence : Text.isFence line.toList = false) :
    ∃ shown s', s.push line = .ok (shown, s') ∧ s'.Growing e ∧ s'.fenced = none ∧
      (e.FindsNothing line → shown = line) := by
  obtain ⟨d, f, p, i, s', hbody, hpush, hgrowing, hfenced, -⟩ := h.push_alone hplain hfence
  refine ⟨_, s', hpush, hgrowing, hfenced, fun hnothing => ?_⟩
  have hsame : (e.apply d p).1 = d :=
    Engine.apply_eq_self fun q hq => ⟨line, hbody.eq_of_mem_passages hq, hnothing⟩
  rw [hsame, Document.shown, (Engine.tree?_paragraph hbody).1]
  simp [Forest.shown]

/-- **A line is always taken,** and it is given back as it is if it is fenced or nothing is found in
it. -/
theorem Growing.push_line (h : s.Growing e) (line : String) :
    ∃ shown s', s.push line = .ok (shown, s') ∧ s'.Growing e ∧
      s'.fenced.isSome = (s.fenced.isSome ^^ Text.isFence line.toList) ∧
      (((s.openLine line.toList).1 = true → e.FindsNothing line) → shown = line) := by
  obtain hplain | ⟨code, hcode⟩ := s.fenced.eq_none_or_eq_some
  · cases hfence : Text.isFence line.toList with
    | true =>
        obtain ⟨d, code, hplace, hends, hlog⟩ := h.place_fence hplain hfence
        obtain ⟨s', hpush, hgrowing, hfenced, -⟩ := h.push_fenced hplace hends hlog
        refine ⟨line, s', hpush, hgrowing, ?_, fun _ => rfl⟩
        rw [hfenced, hplain]
        rfl
    | false =>
        obtain ⟨shown, s', hpush, hgrowing, hfenced, hshown⟩ := h.push_paragraph hplain hfence
        refine ⟨shown, s', hpush, hgrowing, ?_, fun hnothing => hshown (hnothing ?_)⟩
        · rw [hfenced, hplain]
          rfl
        · rw [openLine, hplain, hfence]
          rfl
  · obtain ⟨d, hplace, hends, hlog⟩ := h.place_fenced hcode line
    obtain ⟨s', hpush, hgrowing, hfenced, -⟩ := h.push_fenced hplace hends hlog
    refine ⟨line, s', hpush, hgrowing, ?_, fun _ => rfl⟩
    rw [hfenced, hcode]
    cases Text.isFence line.toList <;> rfl

/-- **Lines are always taken,** and they are given back as they are if nothing is found in those
outside of fenced blocks. -/
theorem Growing.pushAll_lines (h : s.Growing e) (lines : List (List Char)) :
    ∃ shown s', s.pushAll (lines.map String.ofList) = .ok (shown, s') ∧
      shown.length = lines.length ∧
      ((∀ p ∈ openLines s.fenced.isSome lines, p.1 = true →
          e.FindsNothing (String.ofList p.2)) → shown = lines.map String.ofList) := by
  induction lines generalizing s with
  | nil => exact ⟨[], s, rfl, rfl, fun _ => rfl⟩
  | cons line lines ih =>
      obtain ⟨first, s₁, hpush, hgrowing, hfenced, hfirst⟩ := h.push_line (String.ofList line)
      obtain ⟨more, s', hmore, hlength, hsame⟩ := ih hgrowing
      rw [String.toList_ofList] at hfenced hfirst
      refine ⟨first :: more, s', pushAll_cons hpush hmore, congrArg (· + 1) hlength, ?_⟩
      intro hnothing
      rw [openLines_cons, ← hfenced] at hnothing
      obtain ⟨hline, hlines⟩ := List.forall_mem_cons.mp hnothing
      rw [List.map_cons, hfirst hline, hsame hlines]

end LineStream

end TextMasking
