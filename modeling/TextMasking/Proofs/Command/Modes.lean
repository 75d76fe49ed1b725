import TextMasking.Command.Mask
import TextMasking.Proofs.Command.Running
import TextMasking.Proofs.Session.Lines
import TextMasking.Proofs.Text.Lines

/-! # Masking as a whole and line by line

A text that is masked as a whole is read, masked in one pass and written
(`MaskRequest.exec_maskWhole`).  A text that is masked line by line is pushed on a stream, and what
comes back is written (`MaskRequest.exec_maskLines`).  Both write the same characters if the rules
look for words that are found wherever they occur (`MaskRequest.maskLines_of_maskWhole`): the blocks
of the whole text and the lines of the stream come to the same rendering of the lines.

The output must not be the input, since it is emptied before the lines are read. -/

namespace TextMasking

/-- An idle session starts with one pass. -/
theorem Session.enable_idle (options : Options) (rules : RuleList) (d : Document) (x : NodeId) :
    (Session.idle options).enable rules d x =
      let e := Engine.ofRules rules options
      ((e.apply d x).2, ⟨options, some e⟩, (e.apply d x).1) := rfl

namespace Command.MaskRequest

open Machine

variable {r : MaskRequest} {w w' : Machine} {place : List String}

theorem exec_openOutput (h : Ready w.files r.output place) :
    exec r.openOutput w = (.ok (), w.wrote r.output place "") := by
  rw [openOutput]
  cases hout : r.output with
  | none =>
      show (Except.ok (), w) = (_, Machine.mk _ _ (w.output ++ "") _)
      rw [String.append_empty]
  | some path =>
      show exec (orFail _ _) w = _
      rw [exec_orFail, run_create (h path hout)]
      rfl

/-- An output that was made can be written. -/
theorem exists_ready (h : exec r.openOutput w = (.ok (), w')) :
    ∃ place, Ready w.files r.output place := by
  rw [openOutput] at h
  cases hout : r.output with
  | none => exact ⟨[], nofun⟩
  | some path =>
      rw [hout] at h
      dsimp only at h
      have hrun : (Platform.create path : StateM Machine _).run w = _ := run_changes _ _
      rw [exec_orFail, hrun] at h
      cases hcreate : w.files.create path with
      | error e =>
          rw [hcreate] at h
          cases h
      | ok files =>
          obtain ⟨place, hplace, -⟩ := FileSystem.writable_of_create hcreate
          exact ⟨place, fun _ hpath => Option.some.inj hpath ▸ hplace⟩

theorem exists_exec_readInput (r : MaskRequest) (w : Machine) : ∃ context, exec r.readInput w =
    ((((content r.input).run w).1.bind fun bytes =>
        (Text.decode bytes).mapError fun _ => FileError.notText).mapError
      fun e => ⟨context ++ [e.message]⟩, w) := by
  rw [readInput]
  cases r.input with
  | none => exact ⟨_, exec_orFail _ _ w⟩
  | some path =>
      refine ⟨[s!"Failed to read input file {path}"], ?_⟩
      dsimp only
      rw [exec_orFail, run_readText]
      rfl

/-- A text that is read is what the input holds. -/
theorem exec_readInput_iff {text : String} : exec r.readInput w = (.ok text, w') ↔
    w' = w ∧ ∃ bytes, (content r.input).run w = (.ok bytes, w) ∧ Text.decode bytes = .ok text := by
  obtain ⟨context, hread⟩ := exists_exec_readInput r w
  have hcontent := run_content r.input w
  rw [hread, Prod.mk.injEq, mapError_eq_ok]
  constructor
  · rintro ⟨h, rfl⟩
    cases hbytes : ((content r.input).run w).1 with
    | error e =>
        rw [hbytes] at h
        cases h
    | ok bytes =>
        rw [hbytes] at h hcontent
        exact ⟨rfl, bytes, hcontent, mapError_eq_ok.mp h⟩
  · rintro ⟨rfl, bytes, hbytes, hdecode⟩
    rw [hbytes]
    exact ⟨mapError_eq_ok.mpr hdecode, rfl⟩

/-! ### A text as a whole -/

variable {c : Context} {load : StateM Machine RuleList} {rules : RuleList} {report : Report}
  {text : String}

/-- When the text is read, it is masked in one pass, and what comes of it is written. -/
theorem exists_exec_maskWhole (hload : load.run w = (rules, w))
    (hread : exec r.readInput w = (.ok text, w)) :
    let pass := (Engine.ofRules rules .default).apply (Document.ofPlainText text) Document.root
    ∃ errors, exec (r.maskWhole c load) w = exec (do
      r.openOutput
      put r.output (r.present c text (pass.1.shown Document.root))
      return pass.2) { w with errors } := by
  rw [maskWhole, exec_bind_of_ok hread, exec_bind_of_ok (exec_lift load w), hload,
    Session.enable_idle]
  dsimp only
  split
  · rename_i path _
    obtain ⟨errors, hmention⟩ := run_mention c .info s!"Writing masked content to file: {path}" w
    rw [exec_bind_of_ok (exec_lift _ w), hmention]
    exact ⟨errors, rfl⟩
  · exact ⟨w.errors, rfl⟩

/-- **A text that is masked as a whole** comes to what one pass makes of it. -/
theorem exec_maskWhole {bytes : ByteArray} (hload : load.run w = (rules, w))
    (hready : Ready w.files r.output place) (hcontent : (content r.input).run w = (.ok bytes, w))
    (hdecode : Text.decode bytes = .ok text) :
    let pass := (Engine.ofRules rules .default).apply (Document.ofPlainText text) Document.root
    ∃ errors, exec (r.maskWhole c load) w = (.ok pass.2, { w with errors }.wrote r.output place
      (r.present c text (pass.1.shown Document.root))) := by
  obtain ⟨errors, hrun⟩ := exists_exec_maskWhole (c := c) hload
    (exec_readInput_iff.mpr ⟨rfl, bytes, hcontent, hdecode⟩)
  refine ⟨errors, hrun.trans ?_⟩
  have hopen : exec r.openOutput { w with errors } = _ := exec_openOutput hready
  have hput := exec_put (w := { w with errors }) hready ""
  rw [exec_bind_of_ok hopen, exec_bind_of_ok (hput _), String.empty_append]
  rfl

/-- A text that was masked as a whole could be read, and its output could be made. -/
theorem exists_of_maskWhole (hload : load.run w = (rules, w))
    (h : exec (r.maskWhole c load) w = (.ok report, w')) :
    ∃ bytes text place, (content r.input).run w = (.ok bytes, w) ∧
      Text.decode bytes = .ok text ∧ Ready w.files r.output place := by
  have hrun := h
  rw [maskWhole] at h
  obtain ⟨text, w₁, hread, -⟩ := exists_of_exec_bind h
  obtain ⟨rfl, bytes, hcontent, hdecode⟩ := exec_readInput_iff.mp hread
  obtain ⟨errors, hwrite⟩ := exists_exec_maskWhole (c := c) hload hread
  obtain ⟨_, w₂, hopen, -⟩ := exists_of_exec_bind (hwrite.symm.trans hrun)
  obtain ⟨place, hready⟩ := exists_ready hopen
  exact ⟨bytes, text, place, hcontent, hdecode, hready⟩

/-! ### A text line by line -/

section

variable {s s' : LineStream} {line : List Char} {shown : String} {bytes : ByteArray}

/-- A line that is pushed without its end is written with a line feed. -/
theorem run_maskLine (hready : Ready w.files r.output place)
    (hpush : s.push (String.ofList (Text.dropLineEnd line)) = .ok (shown, s')) (before : String) :
    (r.maskLine s (Text.encode line) : StateM Machine _).run (w.wrote r.output place before) =
      (.ok s', w.wrote r.output place (before ++ (shown ++ "\n"))) := by
  show exec _ _ = _
  rw [Text.decode_encode]
  dsimp only
  rw [String.toList_ofList, hpush]
  exact exec_bind_of_ok (exec_put hready before _)

/-- The lines as they are written. -/
def written (shown : List String) : String :=
  String.ofList (shown.flatMap fun line => line.toList ++ ['\n'])

theorem written_cons (line : String) (rest : List String) :
    written (line :: rest) = line ++ "\n" ++ written rest := by
  rw [written, List.flatMap_cons, String.ofList_append, String.ofList_append, String.ofList_toList]
  rfl

/-- Lines that are pushed are written one after the other. -/
theorem run_foldSteps (hready : Ready w.files r.output place) {lines : List (List Char)}
    {shown : List String}
    (hpush : s.pushAll (lines.map fun line => String.ofList (Text.dropLineEnd line)) =
      .ok (shown, s')) (before : String) :
    (foldSteps r.maskLine s (lines.map Text.encode)).run (w.wrote r.output place before) =
      (.ok s', w.wrote r.output place (before ++ written shown)) := by
  induction lines generalizing s shown before with
  | nil =>
      cases hpush
      exact congrArg (_, w.wrote r.output place ·) (String.append_empty).symm
  | cons line lines ih =>
      obtain ⟨first, s₁, more, hfirst, hmore, rfl⟩ := LineStream.exists_of_pushAll_cons hpush
      have hwritten : before ++ written (first :: more) =
          before ++ (first ++ "\n") ++ written more := by
        simp only [written_cons, String.append_assoc]
      rw [List.map_cons, foldSteps, StateT.run_bind, run_maskLine hready hfirst, hwritten]
      exact ih hmore _

/-- **A text that is masked line by line** is pushed line by line, and what comes of the lines is
written. -/
theorem exec_maskLines_of_lines (hload : load.run w = (rules, w))
    (hready : Ready w.files r.output place)
    (hapart : ∀ i ∈ r.input, ∀ o ∈ r.output, w.files.locate i ≠ w.files.locate o)
    (hcontent : (content r.input).run w = (.ok bytes, w)) {lines : List (List Char)}
    (hbytes : Text.byteLines bytes.toList = lines.map Text.encode) {shown : List String}
    (hpush : (LineStream.start rules .default).pushAll
      (lines.map fun line => String.ofList (Text.dropLineEnd line)) = .ok (shown, s')) :
    exec (r.maskLines load) w = (.ok s'.report, w.wrote r.output place (written shown)) := by
  have hfold := run_foldLines (content_wrote hready hapart hcontent "") r.maskLine
    (LineStream.start rules .default)
  rw [hbytes, run_foldSteps hready hpush, String.empty_append] at hfold
  rw [maskLines, exec_bind_of_ok (exec_lift load w), hload]
  dsimp only
  split
  · rename_i path hin
    rw [exec_bind_of_ok (exec_openInput (hin ▸ hcontent)), exec_bind_of_ok (exec_openOutput hready),
      exec_bind, exec_orFail, hfold]
    rfl
  · rw [exec_bind_of_ok (exec_openOutput hready), exec_bind, exec_orFail, hfold]
    rfl

/-- Lines without carriage returns that end in a line feed are pushed without it. -/
theorem exec_maskLines (hload : load.run w = (rules, w)) (hready : Ready w.files r.output place)
    (hapart : ∀ i ∈ r.input, ∀ o ∈ r.output, w.files.locate i ≠ w.files.locate o)
    (hcontent : (content r.input).run w = (.ok bytes, w)) {rows : List (List Char)}
    (hbytes : Text.byteLines bytes.toList = rows.map fun row => Text.encode (row ++ ['\n']))
    (hrows : ∀ row ∈ rows, '\r' ∉ row) {shown : List String}
    (hpush : (LineStream.start rules .default).pushAll (rows.map String.ofList) = .ok (shown, s')) :
    exec (r.maskLines load) w = (.ok s'.report, w.wrote r.output place (written shown)) := by
  have hdropped : (rows.map (· ++ ['\n'])).map (fun line => String.ofList (Text.dropLineEnd line)) =
      rows.map String.ofList := by
    rw [List.map_map]
    exact List.map_congr_left fun row hrow =>
      congrArg String.ofList (Text.dropLineEnd_line (hrows row hrow))
  have hlines : Text.byteLines bytes.toList = (rows.map (· ++ ['\n'])).map Text.encode := by
    rw [hbytes, List.map_map]
    rfl
  exact exec_maskLines_of_lines hload hready hapart hcontent hlines (hdropped ▸ hpush)

end

theorem present_of_not_diff (h : r.diff = false) (text masked : String) :
    r.present c text masked = masked := by
  rw [present, h]
  exact if_neg Bool.false_ne_true

/-- **A text is masked line by line as it is masked as a whole** if all its lines end in a line
feed, without carriage returns, the rules look for words, and none of them was given up in it: the
same characters are written, as many masks are made, and the same lines are fenced. -/
theorem maskLines_of_maskWhole {bytes : ByteArray} (hload : load.run w = (rules, w))
    (hwords : ∀ rule ∈ rules, rule.IsWord ∧ rule.StartsInAscii) (hdiff : r.diff = false)
    (hapart : ∀ i ∈ r.input, ∀ o ∈ r.output, w.files.locate i ≠ w.files.locate o)
    (hcontent : (content r.input).run w = (.ok bytes, w))
    (hlines : ∀ line ∈ Text.byteLines bytes.toList, line.getLast? = some 10 ∧ 13 ∉ line)
    (hwhole : exec (r.maskWhole c load) w = (.ok report, w')) (hskips : report.scanSkips = []) :
    ∃ report' text,
      exec (r.maskLines load) w = (.ok report', { w' with errors := w.errors }) ∧
      report'.masksCreated = report.masksCreated ∧
      Text.decode bytes = .ok text ∧
      (LineStream.start rules .default).fencing
          ((Text.lines text.toList).map fun line => String.ofList (Text.dropLineEnd line)) =
        (Block.ofText text).flatMap Block.fencing := by
  obtain ⟨bytes', text, place, hcontent', hdecode, hready⟩ := exists_of_maskWhole hload hwhole
  obtain rfl : bytes = bytes' := by
    rw [hcontent] at hcontent'
    cases hcontent'
    rfl
  obtain ⟨errors, hrun⟩ := exec_maskWhole (c := c) hload hready hcontent hdecode
  obtain ⟨hreport, hw'⟩ := Prod.mk.inj (hwhole.symm.trans hrun)
  obtain rfl := Except.ok.inj hreport
  obtain ⟨rows, hrows, hbytes, hclean⟩ := Text.exists_lines hdecode hlines
  obtain ⟨found, hfound, he⟩ := (Engine.ofRules rules .default).exists_ofLiteral hwords
  obtain ⟨hshown, hmasks, hsparse⟩ := Engine.apply_ofPlainText hfound he hrows hskips
  obtain ⟨hgrowing, hplain, hzero⟩ := LineStream.growing_start rules .default
  obtain ⟨shown, s', hpush, hshown', hmasks', hfencing⟩ :=
    hgrowing.pushedAll hfound he rows (by rwa [hplain])
  rw [hplain] at hshown' hmasks' hfencing
  refine ⟨s'.report, text, ?_, ?_, hdecode, ?_⟩
  · have hwritten := congrArg String.ofList (hshown'.trans hshown.symm)
    rw [String.ofList_toList] at hwritten
    rw [hw', errors_wrote, present_of_not_diff hdiff, ← hwritten]
    exact exec_maskLines hload hready hapart hcontent hbytes
      (fun row hrow => (hclean row hrow).2) hpush
  · rw [hmasks', hzero, Nat.zero_add, hmasks]
    rfl
  · have hdropped : ((Text.lines text.toList).map fun line =>
        String.ofList (Text.dropLineEnd line)) = rows.map String.ofList := by
      rw [hrows, List.map_map]
      exact List.map_congr_left fun row hrow =>
        congrArg String.ofList (Text.dropLineEnd_line (hclean row hrow).2)
    rw [Block.fencing_ofText hrows fun row hrow => (hclean row hrow).1, hdropped]
    exact hfencing

/-! ### Runs without files -/

/-- A request without files. -/
def ofStreams : MaskRequest := ⟨none, none, none, false, false, false⟩

/-- What is given where there is no terminal. -/
def offTerminal : Context := ⟨"", .plain, .plain, false⟩

/-- A machine without files. -/
def fed (text : String) : Machine := ⟨⟨[], []⟩, text.toUTF8, "", ""⟩

theorem exec_maskWhole_fed (rules : RuleList) (text : String) :
    let pass := (Engine.ofRules rules .default).apply (Document.ofPlainText text) Document.root
    ∃ w', exec (ofStreams.maskWhole offTerminal (pure rules)) (fed text) = (.ok pass.2, w') ∧
      w'.output = pass.1.shown Document.root := by
  intro pass
  have hload : (pure rules : StateM Machine RuleList).run (fed text) = (rules, fed text) := rfl
  have hready : Ready (fed text).files ofStreams.output [] := nofun
  obtain ⟨errors, hrun⟩ :=
    exec_maskWhole (c := offTerminal) hload hready rfl (Text.decode_toUTF8 text)
  exact ⟨_, hrun, String.empty_append⟩

/-- A fenced block is closed by a fence of the other style in both runs. -/
theorem maskLines_of_maskWhole_fenced :
    let rules : RuleList := [.literal "Acme" "[A]", ⟨"ID", "[I]", true, true, false⟩]
    let w := fed "Acme\n\x60\x60\x60\nAcme\n~~~\nACME ID\nIDs\n"
    ∃ report w' report',
      exec (ofStreams.maskWhole offTerminal (pure rules)) w = (.ok report, w') ∧
      w'.output = "[A]\n\x60\x60\x60\nAcme\n~~~\n[A] [I]\nIDs\n" ∧ report.masksCreated = 3 ∧
      exec (ofStreams.maskLines (pure rules)) w = (.ok report', { w' with errors := w.errors }) ∧
      report'.masksCreated = 3 := by
  intro rules w
  obtain ⟨w', hwhole, houtput⟩ :=
    exec_maskWhole_fed rules "Acme\n\x60\x60\x60\nAcme\n~~~\nACME ID\nIDs\n"
  have hclean : ∀ line ∈ Text.byteLines w.input.toList, line.getLast? = some 10 ∧ 13 ∉ line := by
    rw [show w = fed _ from rfl, fed, Text.toList_toUTF8, Text.byteLines_encode]
    decide +kernel
  obtain ⟨report', text, hlines, hmasks, -⟩ := maskLines_of_maskWhole (r := ofStreams) rfl
    (by decide +kernel) rfl nofun rfl hclean hwhole (by decide +kernel)
  refine ⟨_, w', report', hwhole, houtput.trans ?_, ?_, hlines, hmasks.trans ?_⟩ <;> decide +kernel

/-- A whole word whose first letter has a stray variant is lost at the start of a text, where the
whole text has a line feed before it. -/
theorem not_maskLines_of_maskWhole : ¬∀ (r : MaskRequest) (c : Context)
    (load : StateM Machine RuleList) (rules : RuleList) (bytes : ByteArray) (w w' : Machine)
    (report : Report), load.run w = (rules, w) → (∀ rule ∈ rules, rule.IsWord) →
    r.diff = false → (∀ i ∈ r.input, ∀ o ∈ r.output, w.files.locate i ≠ w.files.locate o) →
    (content r.input).run w = (.ok bytes, w) →
    (∀ line ∈ Text.byteLines bytes.toList, line.getLast? = some 10 ∧ 13 ∉ line) →
    exec (r.maskWhole c load) w = (.ok report, w') → report.scanSkips = [] →
    ∃ report', exec (r.maskLines load) w = (.ok report', { w' with errors := w.errors }) ∧
      report'.masksCreated = report.masksCreated := by
  intro h
  let rules : RuleList := [⟨"k", "X", true, false, false⟩]
  let rows : List (List Char) := [['x'], ['\u212A', '\u212A']]
  have hload (w : Machine) : (pure rules : StateM Machine RuleList).run w = (rules, w) := rfl
  have hbytes : Text.byteLines (fed "x\n\u212A\u212A\n").input.toList =
      rows.map fun row => Text.encode (row ++ ['\n']) := by
    rw [fed, Text.toList_toUTF8, Text.byteLines_encode]
    decide +kernel
  have hclean : ∀ line ∈ Text.byteLines (fed "x\n\u212A\u212A\n").input.toList,
      line.getLast? = some 10 ∧ 13 ∉ line := by
    rw [hbytes]
    decide +kernel
  obtain ⟨w', hwhole, -⟩ := exec_maskWhole_fed rules "x\n\u212A\u212A\n"
  obtain ⟨report', hrun, hmasks⟩ := h ofStreams offTerminal (pure rules) rules _ _ w' _ (hload _)
    (by decide +kernel) rfl nofun rfl hclean hwhole (by decide +kernel)
  -- two masks are made in the whole text, but one in its lines
  have hone : ((LineStream.start rules .default).pushAll (rows.map String.ofList)).toOption.map
      (·.2.report.masksCreated) = some 1 := by decide +kernel
  have hready : Ready (fed "x\n\u212A\u212A\n").files ofStreams.output [] := nofun
  rcases hpush : (LineStream.start rules .default).pushAll (rows.map String.ofList) with _ | ⟨_, s'⟩
  · rw [hpush] at hone
    cases hone
  · have hagain := exec_maskLines (hload _) hready nofun rfl hbytes (by decide) hpush
    obtain rfl := Except.ok.inj (Prod.mk.inj (hagain.symm.trans hrun)).1
    rw [hpush] at hone
    rw [show s'.report.masksCreated = 1 from Option.some.inj hone] at hmasks
    revert hmasks
    decide +kernel

end Command.MaskRequest

end TextMasking
