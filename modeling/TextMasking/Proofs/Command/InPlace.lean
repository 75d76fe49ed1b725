import TextMasking.Proofs.Command.Unmatched

/-! # A file that is masked in place

A file may be the input and the output.  Masked as a whole it is read before it is emptied, so it
comes to hold what would be printed without an output.  Masked line by line it is emptied before it
is read, so it comes to hold nothing (`MaskRequest.run_in_place`). -/

namespace TextMasking.Command.MaskRequest

open Machine

variable {r : MaskRequest} {c : Context} {w : Machine} {path : String} {place : List String}
  {load : StateM Machine RuleList} {rules : RuleList} {text : String}

/-- The request with its output on the standard output. -/
def printing (r : MaskRequest) : MaskRequest := { r with output := none }

/-- Without colours, what is shown does not depend on where it goes. -/
theorem present_printing (hcolour : r.diff = true → c.output.coloured = false)
    (text masked : String) : r.printing.present c text masked = r.present c text masked := by
  rw [present, present]
  by_cases hdiff : r.diff = true
  · simp only [printing, hdiff, if_true, hcolour hdiff, Bool.false_and]
  · simp only [printing, hdiff]
    rfl

/-- A file that can be read is an output that can be made. -/
theorem exists_ready_of_read {bytes : ByteArray} (hout : r.output = some path)
    (hread : w.files.read path = .ok bytes) :
    ∃ place, w.files.Writable path place ∧ Ready w.files r.output place := by
  obtain ⟨place, hplace⟩ := FileSystem.exists_writable_of_read hread
  refine ⟨place, hplace, fun o ho => ?_⟩
  rw [hout, Option.mem_some_iff] at ho
  rwa [← ho]

theorem run_content_of_read {bytes : ByteArray} (hin : r.input = some path)
    (hread : w.files.read path = .ok bytes) : (content r.input).run w = (.ok bytes, w) := by
  rw [hin]
  exact congrArg (·, w) hread

/-- A file that is masked line by line in place is emptied, and then it has no lines. -/
theorem exec_maskLines_in_place (hin : r.input = some path) (hout : r.output = some path)
    (hload : load.run w = (rules, w)) (hread : w.files.read path = .ok text.toUTF8)
    (hplace : w.files.Writable path place) (hready : Ready w.files r.output place) :
    exec (r.maskLines load) w =
      (.ok (LineStream.start rules .default).report, w.wrote r.output place "") := by
  have hempty : (content r.input).run (w.wrote r.output place "") =
      (.ok "".toUTF8, w.wrote r.output place "") := by
    rw [hin, hout]
    exact congrArg (·, _) (hplace.read_put _)
  have hfold := run_foldLines hempty r.maskLine (LineStream.start rules .default)
  have hopen : exec (orFail [s!"Failed to open input file {path}"] (Platform.openInput path)) w =
      (.ok (), w) := exec_openInput (congrArg (·, w) hread)
  rw [Text.toList_toUTF8] at hfold
  rw [maskLines, exec_bind_of_ok (exec_lift load w), hload, hin]
  dsimp only
  rw [exec_bind_of_ok hopen, exec_bind_of_ok (exec_openOutput hready), ← hin, exec_bind,
    exec_orFail, hfold]
  rfl

/-- Lines that are written are nothing if there are none. -/
theorem written_eq_empty_iff {shown : List String} : written shown = "" ↔ shown = [] := by
  rw [written, String.ofList_eq_empty_iff, List.flatMap_eq_nil_iff, List.eq_nil_iff_forall_not_mem]
  simp

theorem rows_eq_nil_iff {cs : List Char} : Text.rows cs = [] ↔ cs = [] := by
  rw [Text.rows, List.map_eq_nil_iff]
  constructor
  · intro h
    rw [← Text.flatten_lines cs, h]
    rfl
  · rintro rfl
    rfl

section

variable (hin : r.input = some path) (hout : r.output = some path)
  (hread : w.files.read path = .ok text.toUTF8) (hfinds : r.Finds c w rules)
include hin hout hread hfinds

/-- Masked as a whole in place, a file comes to hold what would be printed. -/
theorem run_whole_in_place (hmode : r.lineBuffered = false)
    (hcolour : r.diff = true → c.output.coloured = false) :
    ∃ w₁ w₂ printed,
      exec (r.printing.run c) w = (.ok (), w₁) ∧ w₁.files = w.files ∧
      w₁.output = w.output ++ printed ∧
      exec (r.run c) w = (.ok (), w₂) ∧ w₂.files.read path = .ok printed.toUTF8 := by
  obtain ⟨load, hrules, hload⟩ := hfinds
  obtain ⟨place, hplace, hready⟩ := exists_ready_of_read hout hread
  have hfree : Ready w.files r.printing.output place := nofun
  have hcontent := run_content_of_read hin hread
  have hdecode := Text.decode_toUTF8 text
  obtain ⟨_, hprint⟩ := exec_maskWhole (r := r.printing) (c := c) hload hfree hcontent hdecode
  obtain ⟨_, hwrite⟩ := exec_maskWhole (r := r) (c := c) hload hready hcontent hdecode
  rw [present_printing hcolour] at hprint
  obtain ⟨_, hrun₁⟩ := exec_run (r := r.printing) hrules
    (by rwa [printing, hmode, if_neg Bool.false_ne_true])
  obtain ⟨_, hrun₂⟩ := exec_run hrules (by rwa [hmode, if_neg Bool.false_ne_true])
  refine ⟨_, _, _, hrun₁, rfl, rfl, hrun₂, ?_⟩
  rw [hout]
  exact hplace.read_put _

/-- Masked line by line in place, a file comes to hold nothing, although its lines would be
printed. -/
theorem run_lines_in_place (hmode : r.lineBuffered = true) :
    ∃ w₁ w₂ shown,
      exec (r.printing.run c) w = (.ok (), w₁) ∧ w₁.files = w.files ∧
      w₁.output = w.output ++ written shown ∧
      shown.length = (Text.rows text.toList).length ∧
      exec (r.run c) w = (.ok (), w₂) ∧ w₂.files.read path = .ok "".toUTF8 := by
  obtain ⟨load, hrules, hload⟩ := hfinds
  obtain ⟨place, hplace, hready⟩ := exists_ready_of_read hout hread
  have hfree : Ready w.files r.printing.output place := nofun
  have hcontent := run_content_of_read hin hread
  obtain ⟨hgrowing, -⟩ := LineStream.growing_start rules .default
  obtain ⟨shown, s', hpush, hlength, -⟩ := hgrowing.pushAll_lines (Text.rows text.toList)
  have hprint := exec_maskLines_of_text (r := r.printing) hload hfree nofun hcontent hpush
  have hwrite := exec_maskLines_in_place hin hout hload hread hplace hready
  obtain ⟨_, hrun₁⟩ := exec_run (r := r.printing) (c := c) hrules
    (by rwa [printing, hmode, if_pos rfl])
  obtain ⟨_, hrun₂⟩ := exec_run (c := c) hrules (by rwa [hmode, if_pos rfl])
  refine ⟨_, _, shown, hrun₁, rfl, rfl, hlength, hrun₂, ?_⟩
  rw [hout]
  exact hplace.read_put _

end

/-- **A file that is masked in place** holds what would be printed if it is masked as a whole.
Masked line by line it holds nothing, and that would be printed only if it held nothing before. -/
theorem run_in_place (hin : r.input = some path) (hout : r.output = some path)
    (hread : w.files.read path = .ok text.toUTF8) (hfinds : r.Finds c w rules)
    (hcolour : r.diff = true → c.output.coloured = false) :
    ∃ w₁ w₂ printed left,
      exec (r.printing.run c) w = (.ok (), w₁) ∧ w₁.files = w.files ∧
      w₁.output = w.output ++ printed ∧
      exec (r.run c) w = (.ok (), w₂) ∧ w₂.files.read path = .ok left.toUTF8 ∧
      (r.lineBuffered = true → left = "") ∧
      (left = printed ↔ (r.lineBuffered = true → text = "")) := by
  cases hmode : r.lineBuffered with
  | false =>
      obtain ⟨w₁, w₂, printed, hprint, hfiles, houtput, hrun, hleft⟩ :=
        run_whole_in_place hin hout hread hfinds hmode hcolour
      exact ⟨w₁, w₂, printed, printed, hprint, hfiles, houtput, hrun, hleft, nofun,
        iff_of_true rfl nofun⟩
  | true =>
      obtain ⟨w₁, w₂, shown, hprint, hfiles, houtput, hlength, hrun, hleft⟩ :=
        run_lines_in_place hin hout hread hfinds hmode
      refine ⟨w₁, w₂, _, "", hprint, hfiles, houtput, hrun, hleft, fun _ => rfl, ?_⟩
      rw [eq_comm, written_eq_empty_iff, ← List.length_eq_zero_iff, hlength,
        List.length_eq_zero_iff, rows_eq_nil_iff, String.toList_eq_nil_iff]
      exact ⟨fun h _ => h, fun h => h rfl⟩

/-- A machine with a rule document and a file. -/
def stocked (rules : RuleList) (text : String) : Machine :=
  ⟨⟨[(["rules.json"], .file rules.document.toUTF8), (["f.txt"], .file text.toUTF8)], []⟩, .empty,
    "", ""⟩

/-- A request to mask the file in place. -/
def inPlace (lineBuffered : Bool) : MaskRequest :=
  ⟨some "f.txt", some "f.txt", some "rules.json", false, true, lineBuffered⟩

theorem read_stocked (rules : RuleList) (text : String) :
    (stocked rules text).files.read "f.txt" = .ok text.toUTF8 := rfl

theorem finds_stocked (rules : RuleList) (text : String) (lineBuffered : Bool) :
    (inPlace lineBuffered).Finds offTerminal (stocked rules text) rules :=
  finds_of_document rfl rfl

/-- A line of a file is lost. -/
theorem run_in_place_line :
    let w := stocked [.literal "Acme" "[A]"] "Acme\n"
    ∃ w' printed, exec ((inPlace true).run offTerminal) w = (.ok (), w') ∧
      w'.files.read "f.txt" = .ok "".toUTF8 ∧ printed ≠ "" ∧
      (exec ((inPlace true).printing.run offTerminal) w).2.output = printed := by
  intro w
  obtain ⟨w₁, w₂, printed, left, hprint, -, houtput, hrun, hleft, hlines, hsame⟩ :=
    run_in_place (r := inPlace true) rfl rfl (read_stocked _ "Acme\n") (finds_stocked _ _ true)
      nofun
  obtain rfl := hlines rfl
  refine ⟨w₂, printed, hrun, hleft, fun h => ?_, ?_⟩
  · exact absurd (hsame.mp h.symm rfl) (by decide)
  · rw [hprint, houtput]
    exact String.empty_append

/-- The lines that would be printed are not left in the file. -/
theorem not_run_in_place : ¬∀ (r : MaskRequest) (c : Context) (w : Machine) (rules : RuleList)
    (path text : String), r.input = some path → r.output = some path →
    w.files.read path = .ok text.toUTF8 → r.Finds c w rules → c.output.coloured = false →
    ∃ w₁ w₂ printed, exec (r.printing.run c) w = (.ok (), w₁) ∧
      w₁.output = w.output ++ printed ∧ exec (r.run c) w = (.ok (), w₂) ∧
      w₂.files.read path = .ok printed.toUTF8 := by
  intro h
  let rules : RuleList := [.literal "Acme" "[A]"]
  have hread := read_stocked rules "Acme\n"
  have hfinds := finds_stocked rules "Acme\n" true
  obtain ⟨_, _, printed, hprint, houtput, hrun, hleft⟩ :=
    h (inPlace true) offTerminal _ rules "f.txt" "Acme\n" rfl rfl hread hfinds rfl
  obtain ⟨_, _, shown, hprint', -, houtput', hlength, hrun', hleft'⟩ :=
    run_lines_in_place (r := inPlace true) rfl rfl hread hfinds rfl
  obtain rfl := (Prod.mk.inj (hprint.symm.trans hprint')).2
  obtain rfl := (Prod.mk.inj (hrun.symm.trans hrun')).2
  have hnothing : printed = "" :=
    String.toByteArray_inj.mp (Except.ok.inj (hleft.symm.trans hleft'))
  have hwritten : written shown = "" := by
    have := houtput.symm.trans houtput'
    rwa [hnothing, String.append_empty, eq_comm, String.append_eq_left_iff] at this
  rw [written_eq_empty_iff.mp hwritten] at hlength
  exact absurd hlength (by decide)

end TextMasking.Command.MaskRequest
