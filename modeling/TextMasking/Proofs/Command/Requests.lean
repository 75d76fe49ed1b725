import TextMasking.Command.Mask
import TextMasking.Proofs.Command.Running
import TextMasking.Proofs.Storage.Stores

/-! # Requests for masking

A request that is run finds its rules first, or fails before it touches anything
(`MaskRequest.finds_or_fails`).  When the text is masked, only the summary is left to be told
(`MaskRequest.exec_run`). -/

namespace TextMasking

open Machine

/-- Loading rules from a rule document changes nothing. -/
theorem RuleList.run_loadFrom (path : String) (w : Machine) :
    (RuleList.loadFrom path : StateM Machine _).run w =
      (((RuleList.loadFrom path : StateM Machine _).run w).1, w) := by
  rw [loadFrom, StateT.run_bind, run_readText]
  cases (w.files.read path).bind fun bytes =>
    (Text.decode bytes).mapError fun _ => FileError.notText <;> rfl

/-- Loading stored rules changes nothing. -/
theorem RuleStore.run_loadOrEmpty (store : RuleStore) (w : Machine) :
    (store.loadOrEmpty : StateM Machine _).run w =
      (((store.loadOrEmpty : StateM Machine _).run w).1, w) := by
  rw [loadOrEmpty, StateT.run_bind, run_load]
  cases ((store.load : StateM Machine _).run w).1 <;> rfl

namespace Command.MaskRequest

variable {r : MaskRequest} {c : Context} {w w' : Machine} {load : StateM Machine RuleList}
  {rules : RuleList} {report : Report}

/-- The request finds the rules, at once or when they are used. -/
def Finds (r : MaskRequest) (c : Context) (w : Machine) (rules : RuleList) : Prop :=
  ∃ load : StateM Machine RuleList,
    exec (r.findRules c) w = (.ok load, w) ∧ load.run w = (rules, w)

/-- The rules are found, or the request fails and nothing has changed. -/
theorem finds_or_fails (r : MaskRequest) (c : Context) (w : Machine) :
    (∃ rules, r.Finds c w rules) ∨ ∃ e, exec (r.run c) w = (.error e, w) := by
  have hfound : (∃ rules, r.Finds c w rules) ∨ ∃ e, exec (r.findRules c) w = (.error e, w) := by
    unfold Finds findRules
    cases r.rules with
    | none => exact .inl ⟨_, _, rfl, RuleStore.run_loadOrEmpty c.store w⟩
    | some path =>
        have hload : exec (ExceptT.mk (RuleList.loadFrom path : StateM Machine _)) w =
            (((RuleList.loadFrom path : StateM Machine _).run w).1, w) :=
          RuleList.run_loadFrom path w
        dsimp only
        rw [exec_bind, hload]
        cases ((RuleList.loadFrom path : StateM Machine _).run w).1 with
        | error e => exact .inr ⟨e, rfl⟩
        | ok rules => exact .inl ⟨rules, _, rfl, rfl⟩
  refine hfound.imp_right fun ⟨e, he⟩ => ⟨e, ?_⟩
  rw [run, exec_bind, he]

/-- The rules of a rule document are found. -/
theorem finds_of_document {path : String} (hr : r.rules = some path)
    (hread : w.files.read path = .ok rules.document.toUTF8) : r.Finds c w rules := by
  have hload :
      exec (ExceptT.mk (RuleList.loadFrom path : StateM Machine _)) w = (.ok rules, w) := by
    show StateT.run (RuleList.loadFrom path) w = _
    rw [RuleList.loadFrom, StateT.run_bind, run_readText, hread]
    simp only [Except.bind, Text.decode_toUTF8, Except.mapError]
    show (((RuleList.read rules.document).mapError _), w) = _
    rw [RuleList.read, RuleList.read?_document]
    dsimp only
    rw [RuleList.ofJson_toJson]
    rfl
  refine ⟨pure rules, ?_, rfl⟩
  rw [findRules, hr]
  exact exec_bind_of_ok hload

/-- When the text is masked, the summary is told. -/
theorem exec_run (hrules : exec (r.findRules c) w = (.ok load, w))
    (hmask : exec (if r.lineBuffered then r.maskLines load else r.maskWhole c load) w =
      (.ok report, w')) :
    ∃ errors, exec (r.run c) w = (.ok (), { w' with errors }) := by
  have htell : ∃ errors, exec (if !r.noSummary && !c.quiet then
        Platform.printError (m := StateM Machine) (report.render c.errors)
      else return ()) w' = (.ok (), { w' with errors }) := by
    split
    · exact ⟨_, rfl⟩
    · exact ⟨w'.errors, rfl⟩
  rw [run, exec_bind_of_ok hrules]
  dsimp only
  by_cases hmode : r.lineBuffered = true
  · rw [if_pos hmode] at hmask ⊢
    rwa [exec_bind_of_ok hmask]
  · rw [if_neg hmode] at hmask ⊢
    rwa [exec_bind_of_ok hmask]

end Command.MaskRequest

end TextMasking
