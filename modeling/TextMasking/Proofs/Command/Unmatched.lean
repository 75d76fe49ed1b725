import TextMasking.Proofs.Command.Modes
import TextMasking.Proofs.Command.Requests
import TextMasking.Proofs.Session.Silence

/-! # Texts that no rule matches

A text in which the rules find nothing is written as it is if it is masked as a whole.  Masked line
by line it comes back with each line ended by a line feed, so it is the same text only if its lines
ended in line feeds, with no carriage return before them (`MaskRequest.run_of_unmatched`). -/

namespace TextMasking

/-- The rules find nothing in a text, neither in its paragraphs nor in its lines that lie outside of
fenced blocks. -/
structure Engine.Unmatched (e : Engine) (text : String) : Prop where
  paragraph : ∀ b ∈ Block.ofText text, b = .paragraph b.content → e.FindsNothing b.content
  line : ∀ p ∈ openLines false (Text.rows text.toList), p.1 = true →
    e.FindsNothing (String.ofList p.2)

instance (e : Engine) (text : String) : Decidable (e.Unmatched text) :=
  decidable_of_iff
    ((∀ b ∈ Block.ofText text, b = .paragraph b.content → e.FindsNothing b.content) ∧
      ∀ p ∈ openLines false (Text.rows text.toList), p.1 = true →
        e.FindsNothing (String.ofList p.2))
    ⟨fun h => ⟨h.1, h.2⟩, fun h => ⟨h.paragraph, h.line⟩⟩

namespace Command.MaskRequest

open Machine

variable {r : MaskRequest} {c : Context} {w : Machine} {place : List String}
  {load : StateM Machine RuleList} {rules : RuleList} {text : String}

/-- The lines of a text are pushed, and what comes of them is written. -/
theorem exec_maskLines_of_text (hload : load.run w = (rules, w))
    (hready : Ready w.files r.output place)
    (hapart : ∀ i ∈ r.input, ∀ o ∈ r.output, w.files.locate i ≠ w.files.locate o)
    (hcontent : (content r.input).run w = (.ok text.toUTF8, w)) {shown : List String}
    {s' : LineStream}
    (hpush : (LineStream.start rules .default).pushAll
      ((Text.rows text.toList).map String.ofList) = .ok (shown, s')) :
    exec (r.maskLines load) w = (.ok s'.report, w.wrote r.output place (written shown)) := by
  have hbytes : Text.byteLines text.toUTF8.toList =
      (Text.lines text.toList).map Text.encode := by
    rw [Text.toList_toUTF8, Text.byteLines_encode]
  rw [Text.rows, List.map_map] at hpush
  exact exec_maskLines_of_lines hload hready hapart hcontent hbytes hpush

theorem written_rows (text : String) :
    written ((Text.rows text.toList).map String.ofList) =
      String.ofList (Text.relined text.toList) := by
  rw [written, List.flatMap_map, Text.relined]
  simp only [String.toList_ofList]

/-- A text that no rule matches is written as it is if it is masked as a whole. -/
theorem run_whole_of_unmatched (hfinds : r.Finds c w rules) (hmode : r.lineBuffered = false)
    (hready : Ready w.files r.output place)
    (hcontent : (content r.input).run w = (.ok text.toUTF8, w))
    (hunmatched : (Engine.ofRules rules .default).Unmatched text) (hdiff : r.diff = false) :
    ∃ errors, exec (r.run c) w = (.ok (), { w.wrote r.output place text with errors }) := by
  obtain ⟨load, hrules, hload⟩ := hfinds
  obtain ⟨errors, hmask⟩ := exec_maskWhole (c := c) hload hready hcontent (Text.decode_toUTF8 text)
  rw [Engine.shown_apply_ofPlainText hunmatched.paragraph, present_of_not_diff hdiff] at hmask
  obtain ⟨errors', hrun⟩ := exec_run hrules (by rwa [hmode, if_neg Bool.false_ne_true])
  refine ⟨errors', hrun.trans ?_⟩
  cases r.output <;> rfl

/-- Masked line by line, it is written with each line ended by a line feed. -/
theorem run_lines_of_unmatched (hfinds : r.Finds c w rules) (hmode : r.lineBuffered = true)
    (hready : Ready w.files r.output place)
    (hapart : ∀ i ∈ r.input, ∀ o ∈ r.output, w.files.locate i ≠ w.files.locate o)
    (hcontent : (content r.input).run w = (.ok text.toUTF8, w))
    (hunmatched : (Engine.ofRules rules .default).Unmatched text) :
    ∃ errors, exec (r.run c) w = (.ok (),
      { w.wrote r.output place (.ofList (Text.relined text.toList)) with errors }) := by
  obtain ⟨load, hrules, hload⟩ := hfinds
  obtain ⟨hgrowing, hplain, -⟩ := LineStream.growing_start rules .default
  obtain ⟨shown, s', hpush, -, hsame⟩ := hgrowing.pushAll_lines (Text.rows text.toList)
  rw [hplain] at hsame
  have hmask := exec_maskLines_of_text hload hready hapart hcontent hpush
  rw [hsame hunmatched.line, written_rows] at hmask
  exact exec_run hrules (by rwa [hmode, if_pos rfl])

/-- **A text that no rule matches** is written as it is, or line by line with each line ended by a
line feed; so the same characters are written unless lines are masked one by one and one of them did
not end in a line feed only. -/
theorem run_of_unmatched (hfinds : r.Finds c w rules) (hready : Ready w.files r.output place)
    (hapart : r.lineBuffered = true →
      ∀ i ∈ r.input, ∀ o ∈ r.output, w.files.locate i ≠ w.files.locate o)
    (hcontent : (content r.input).run w = (.ok text.toUTF8, w))
    (hunmatched : (Engine.ofRules rules .default).Unmatched text) (hdiff : r.diff = false) :
    ∃ shown errors,
      exec (r.run c) w = (.ok (), { w.wrote r.output place shown with errors }) ∧
      (r.lineBuffered = false → shown = text) ∧
      (r.lineBuffered = true → shown = .ofList (Text.relined text.toList)) ∧
      (shown = text ↔
        (r.lineBuffered = true → ∀ line ∈ Text.lines text.toList, Text.EndsInFeed line)) := by
  cases hmode : r.lineBuffered with
  | false =>
      obtain ⟨errors, hrun⟩ :=
        run_whole_of_unmatched hfinds hmode hready hcontent hunmatched hdiff
      exact ⟨text, errors, hrun, fun _ => rfl, nofun, iff_of_true rfl nofun⟩
  | true =>
      obtain ⟨errors, hrun⟩ :=
        run_lines_of_unmatched hfinds hmode hready (hapart hmode) hcontent hunmatched
      refine ⟨_, errors, hrun, nofun, fun _ => rfl, ?_⟩
      rw [← Text.relined_eq_iff, ← String.toList_inj, String.toList_ofList]
      exact ⟨fun h _ => h, fun h => h rfl⟩

/-- A machine with a rule document. -/
def furnished (rules : RuleList) (text : String) : Machine :=
  ⟨⟨[(["rules.json"], .file rules.document.toUTF8)], []⟩, text.toUTF8, "", ""⟩

/-- A request whose rules are those of the document. -/
def furnishedRequest (lineBuffered : Bool) : MaskRequest :=
  ⟨none, none, some "rules.json", false, true, lineBuffered⟩

theorem finds_furnished (rules : RuleList) (text : String) (lineBuffered : Bool) :
    (furnishedRequest lineBuffered).Finds offTerminal (furnished rules text) rules :=
  finds_of_document rfl rfl

/-- A line comes back with another end. -/
theorem run_of_unmatched_return :
    let rules : RuleList := [.literal "Acme" "[A]"]
    let text := "Acm\r\n\x60\x60\x60\nAcme"
    let w := furnished rules text
    ∃ errors, exec ((furnishedRequest true).run offTerminal) w =
      (.ok (), { w.wrote none [] "Acm\n\x60\x60\x60\nAcme\n" with errors }) := by
  intro rules text w
  have hready : Ready w.files none [] := nofun
  have hunmatched : (Engine.ofRules rules .default).Unmatched text := by decide +kernel
  obtain ⟨shown, errors, hrun, -, hshown, -⟩ :=
    run_of_unmatched (finds_furnished rules text true) hready nofun rfl hunmatched rfl
  have hlines : shown = "Acm\n\x60\x60\x60\nAcme\n" := (hshown rfl).trans (by decide +kernel)
  exact ⟨errors, hlines ▸ hrun⟩

/-- A carriage return is lost. -/
theorem not_run_of_unmatched : ¬∀ (r : MaskRequest) (c : Context) (w : Machine)
    (rules : RuleList) (text : String) (place : List String), r.Finds c w rules →
    Ready w.files r.output place →
    (∀ i ∈ r.input, ∀ o ∈ r.output, w.files.locate i ≠ w.files.locate o) →
    (content r.input).run w = (.ok text.toUTF8, w) →
    (Engine.ofRules rules .default).Unmatched text → r.diff = false →
    ∃ errors, exec (r.run c) w = (.ok (), { w.wrote r.output place text with errors }) := by
  intro h
  let rules : RuleList := [.literal "Acme" "[A]"]
  let w := furnished rules "x\r\n"
  have hunmatched : (Engine.ofRules rules .default).Unmatched "x\r\n" := by decide +kernel
  have hfinds := finds_furnished rules "x\r\n" true
  obtain ⟨_, hsame⟩ := h (furnishedRequest true) offTerminal w rules "x\r\n" [] hfinds nofun nofun
    rfl hunmatched rfl
  have hready : Ready w.files none [] := nofun
  obtain ⟨_, hrun⟩ := run_lines_of_unmatched hfinds rfl hready nofun rfl hunmatched
  have houtput : "" ++ "x\r\n" = "" ++ String.ofList (Text.relined "x\r\n".toList) :=
    congrArg (·.2.output) (hsame.symm.trans hrun)
  exact absurd houtput (by decide +kernel)

end Command.MaskRequest

end TextMasking
