import TextMasking.Command.Program
import TextMasking.Proofs.Storage.Stores

/-! # Commands on the stored rules are transactions

A command on the stored rules that fails changes no file, and one that goes well leaves the rules
that it should leave, to be loaded by the next command (`Command.rules_transaction`). -/

namespace TextMasking

namespace Command

open FileSystem Machine

/-- A command on the store at `path` fails without disturbing a file, or goes well and leads to a
machine with the property. -/
def Settles (x : ExceptT Failure (StateM Machine) Unit) (w : Machine) (path : String)
    (property : Machine → Prop) : Prop :=
  match exec x w with
  | (.ok (), w') => property w'
  | (.error _, w') => Undisturbed w.files w'.files path

section Settling

variable {α : Type} {w w' : Machine} {path : String} {property : Machine → Prop}
  {x : ExceptT Failure (StateM Machine) α} {f : α → ExceptT Failure (StateM Machine) Unit}

theorem Settles.imp {x : ExceptT Failure (StateM Machine) Unit} {weaker : Machine → Prop}
    (h : Settles x w path property) (himp : ∀ w', property w' → weaker w') :
    Settles x w path weaker := by
  unfold Settles at h ⊢
  split at h
  · exact himp _ h
  · exact h

theorem settles_throw (failure : Failure) (w : Machine) (path : String)
    (property : Machine → Prop) : Settles (throw failure) w path property :=
  Undisturbed.refl w.files path

/-- After a step that changes no file, the rest settles the command. -/
theorem settles_bind {a : α} (hx : exec x w = (.ok a, w')) (hfiles : w'.files = w.files)
    (h : Settles (f a) w' path property) : Settles (x >>= f) w path property := by
  rw [Settles, exec_bind_of_ok hx, ← hfiles]
  exact h

/-- A step that fails and changes no file settles the command. -/
theorem settles_bind_of_error {e : Failure} (hx : exec x w = (.error e, w'))
    (h : Undisturbed w.files w'.files path) : Settles (x >>= f) w path property := by
  rw [Settles, exec_bind, hx]
  exact h

theorem exec_mention (c : Context) (severity : Severity) (text : String) (w : Machine) :
    ∃ errors, exec (liftM (c.mention (m := StateM Machine) severity text)) w =
      (.ok (), { w with errors }) := by
  obtain ⟨errors, hrun⟩ := run_mention c severity text w
  exact ⟨errors, by rw [exec_lift, hrun]⟩

theorem settles_mention {w : Machine} (c : Context) (severity : Severity) (text : String)
    (h : ∀ errors, property { w with errors }) :
    Settles (liftM (c.mention (m := StateM Machine) severity text)) w path property := by
  obtain ⟨errors, hmention⟩ := exec_mention c severity text w
  rw [Settles, hmention]
  exact h errors

end Settling

namespace Context

variable {w : Machine} {c : Context} {property : Machine → Prop}

theorem exec_loadRules (c : Context) (w : Machine) :
    exec (c.loadRules : ExceptT Failure (StateM Machine) RuleList) w =
      (((c.store.load : StateM Machine _).run w).1.mapError fun e =>
        ⟨s!"Failed to load rules from {c.storePath}" :: e.chain⟩, w) := by
  rw [loadRules, exec_bind, exec_lift, RuleStore.run_load]
  cases ((c.store.load : StateM Machine _).run w).1 <;> rfl

/-- A command that begins by loading the rules is settled by what it does with the rules. -/
theorem settles_loadRules {f : RuleList → ExceptT Failure (StateM Machine) Unit}
    (h : ∀ rules, ((c.store.load : StateM Machine _).run w).1 = .ok rules →
      Settles (f rules) w c.storePath property) :
    Settles (c.loadRules >>= f) w c.storePath property := by
  have hload := exec_loadRules c w
  cases hrules : ((c.store.load : StateM Machine _).run w).1 with
  | error e =>
    rw [hrules] at hload
    exact settles_bind_of_error hload (.refl w.files c.storePath)
  | ok rules =>
    rw [hrules] at hload
    exact settles_bind hload rfl (h rules hrules)

/-- A command that saves rules and then mentions it leaves these rules. -/
theorem settles_saveRules (c : Context) (rules : RuleList) (w : Machine) (severity : Severity)
    (text : String) :
    Settles (do c.saveRules rules; c.mention (m := StateM Machine) severity text) w c.storePath
      fun w' => (c.store.load : StateM Machine _).run w' = (.ok rules, w') := by
  obtain ⟨files, hgrown, ⟨place, hplace, hrun⟩ | ⟨e, hrun, hread⟩⟩ :=
    RuleStore.run_save c.storePath w
  · have hsave : exec (c.saveRules rules : ExceptT Failure (StateM Machine) Unit) w =
        (.ok (), { w with files := files.put place (.file rules.document.toUTF8) }) := by
      rw [saveRules, exec_bind, exec_lift, store, hrun]
      rfl
    rw [Settles, exec_bind_of_ok hsave]
    obtain ⟨errors, hmention⟩ := exec_mention c severity text
      { w with files := files.put place (.file rules.document.toUTF8) }
    rw [hmention]
    exact RuleStore.run_load_of_document (hplace.read_put _)
  · have hsave : exec (c.saveRules rules : ExceptT Failure (StateM Machine) Unit) w =
        (.error ⟨s!"Failed to save rules to {c.storePath}" :: (StoreError.unwritable e).chain⟩,
          { w with files }) := by
      rw [saveRules, exec_bind, exec_lift, store, hrun]
      rfl
    exact settles_bind_of_error hsave (hgrown.undisturbed hread)

end Context

namespace RulesRequest

/-- What a request that went well leaves, where `before` was loaded before it. -/
def Leaves (files : FileSystem) (before : Except StoreError RuleList) (after : RuleList) :
    RulesRequest → Prop
  | .list => before = .ok after
  | .add rule => ∃ rules, before = .ok rules ∧
      after = rules ++ [{ rule with pattern := Text.trim rule.pattern }]
  | .remove number => ∃ rules, before = .ok rules ∧
      1 ≤ number ∧ number ≤ rules.length ∧ after = rules.eraseIdx (number - 1)
  | .replace source => ∃ bytes text, files.read source = .ok bytes ∧
      Text.decode bytes = .ok text ∧ RuleList.read text = .ok after
  | .export _ => before = .ok after

/-- The request does not export onto the store. -/
def Spares (files : FileSystem) (storePath : String) (r : RulesRequest) : Prop :=
  ∀ output place, r = .export (some output) → files.locate output = .ok place →
    files.locate storePath ≠ .ok place

variable {c : Context} {w : Machine}

/-- A request leaves what it should leave. -/
def Settled (r : RulesRequest) (c : Context) (w : Machine) : Prop :=
  Settles (r.run c) w c.storePath fun w' =>
    ∃ after, (c.store.load : StateM Machine _).run w' = (.ok after, w') ∧
      r.Leaves w.files ((c.store.load : StateM Machine _).run w).1 after

/-- A machine that has the same files loads the same rules. -/
theorem run_load_of_files {w' : Machine} {rules : RuleList}
    (h : ((c.store.load : StateM Machine _).run w).1 = .ok rules) (hfiles : w'.files = w.files) :
    (c.store.load : StateM Machine _).run w' = (.ok rules, w') := by
  have hfind (found : FileEntry) :
      w'.files.find c.storePath = .ok found ↔ w.files.find c.storePath = .ok found := by
    rw [hfiles]
  rw [RuleStore.run_load, Context.store, RuleStore.run_load_congr hfind, ← Context.store, h]

theorem settled_list (c : Context) (w : Machine) : Settled .list c w := by
  refine Context.settles_loadRules fun rules hrules => ?_
  cases hempty : rules.isEmpty with
  | true =>
    rw [if_pos rfl]
    exact settles_mention c _ _ fun errors => ⟨rules, run_load_of_files hrules rfl, hrules⟩
  | false => exact ⟨rules, run_load_of_files hrules rfl, hrules⟩

/-- The rule with a number is the one so far into the list. -/
theorem of_takeOut {rules others : RuleList} {number : Nat} {rule : Rule}
    (h : takeOut rules number = .ok (rule, others)) :
    1 ≤ number ∧ number ≤ rules.length ∧ others = rules.eraseIdx (number - 1) := by
  cases number with
  | zero => cases h
  | succ index =>
    simp only [takeOut, RuleList.remove] at h
    cases hrule : rules[index]? with
    | none =>
      rw [hrule] at h
      cases h
    | some found =>
      rw [hrule] at h
      cases h
      have hlength := (List.getElem?_eq_some_iff.1 hrule).1
      exact ⟨by omega, by omega, rfl⟩

theorem settled_remove (number : Nat) (c : Context) (w : Machine) :
    Settled (.remove number) c w := by
  refine Context.settles_loadRules fun rules hrules => ?_
  cases htake : takeOut rules number with
  | error e => exact settles_throw _ w _ _
  | ok removed =>
    obtain ⟨rule, others⟩ := removed
    obtain ⟨hfirst, hlast, hothers⟩ := of_takeOut htake
    exact (Context.settles_saveRules c others w _ _).imp fun w' hload =>
      ⟨others, hload, rules, hrules, hfirst, hlast, hothers⟩

theorem of_add {rules more : RuleList} {rule : Rule} (h : rules.add rule = .ok more) :
    more = rules ++ [{ rule with pattern := Text.trim rule.pattern }] := by
  simp only [RuleList.add] at h
  split_ifs at h
  cases h
  rfl

theorem settled_add (rule : Rule) (c : Context) (w : Machine) : Settled (.add rule) c w := by
  refine Context.settles_loadRules fun rules hrules => ?_
  -- the warning about a rule without a matcher only tells something
  cases hmore : rules.add rule with
  | error e =>
    cases Matcher.compile rule with
    | error e' => exact settles_bind (exec_lift _ w) rfl (settles_throw _ _ _ _)
    | ok matcher => exact settles_throw _ w _ _
  | ok more =>
    have hsave (told : Machine) : Settles
        (do c.saveRules more
            c.mention (m := StateM Machine) .success s!"Added rule #{more.length}.")
        told c.storePath fun w' =>
          ∃ after, (c.store.load : StateM Machine _).run w' = (.ok after, w') ∧
            Leaves w.files ((c.store.load : StateM Machine _).run w).1 after (.add rule) :=
      (Context.settles_saveRules c more told _ _).imp fun _ hload =>
        ⟨more, hload, rules, hrules, of_add hmore⟩
    cases Matcher.compile rule with
    | error e => exact settles_bind (exec_lift _ w) rfl (hsave _)
    | ok matcher => exact hsave w

theorem settled_replace (source : String) (c : Context) (w : Machine) :
    Settled (.replace source) c w := by
  have hread := exec_orFail [s!"Failed to read {source}"] (Platform.readText source) w
  rw [run_readText] at hread
  rw [Settled, run, replaceRules]
  cases hbytes : w.files.read source with
  | error e =>
    rw [hbytes] at hread
    exact settles_bind_of_error hread (.refl _ _)
  | ok bytes =>
    rw [hbytes] at hread
    cases htext : Text.decode bytes with
    | error e =>
      simp only [Except.bind, htext, Except.mapError] at hread
      exact settles_bind_of_error hread (.refl _ _)
    | ok text =>
      simp only [Except.bind, htext, Except.mapError] at hread
      refine settles_bind hread rfl ?_
      cases hrules : RuleList.read text with
      | error e =>
        have himport := RuleStore.run_importDocument_of_error hrules c.store w
        rw [Settles, exec_bind, exec_lift, himport]
        exact Undisturbed.refl _ _
      | ok rules =>
        have himport := RuleStore.run_importDocument_of_ok hrules c.store w
        obtain ⟨files, hgrown, ⟨place, hplace, hrun⟩ | ⟨e, hrun, hread'⟩⟩ :=
          RuleStore.run_save c.storePath w
        · rw [Context.store, hrun] at himport
          obtain ⟨errors, hmention⟩ := exec_mention c .success s!"Imported {rules.length} rules."
            { w with files := files.put place (.file rules.document.toUTF8) }
          rw [Settles, exec_bind, exec_lift, Context.store, himport]
          dsimp only [Except.map]
          rw [hmention]
          exact ⟨rules, RuleStore.run_load_of_document (hplace.read_put _), bytes, text, hbytes,
            htext, hrules⟩
        · rw [Context.store, hrun] at himport
          rw [Settles, exec_bind, exec_lift, Context.store, himport]
          exact hgrown.undisturbed hread'

theorem settled_export (output : Option String) (c : Context) (w : Machine)
    (h : Spares w.files c.storePath (.export output)) : Settled (.export output) c w := by
  refine Context.settles_loadRules fun rules hrules => ?_
  cases output with
  | none => exact ⟨rules, run_load_of_files hrules rfl, hrules⟩
  | some out =>
    have hwrite := exec_orFail [s!"Failed to write {out}"]
      (Platform.writeText out (rules.document ++ "\n")) w
    cases hcreate : w.files.create out with
    | error e =>
      rw [RuleStore.run_writeText_of_create hcreate] at hwrite
      exact settles_bind_of_error hwrite (.refl _ _)
    | ok created =>
      obtain ⟨place, hplace, -⟩ := writable_of_create hcreate
      have hapart := h out place rfl hplace.locate_eq
      rw [RuleStore.run_writeText hplace] at hwrite
      obtain ⟨errors, hmention⟩ := exec_mention c .success s!"Exported rules to {out}."
        { w with files := w.files.put place (.file (rules.document ++ "\n").toUTF8) }
      dsimp only
      rw [Settles, exec_bind_of_ok hwrite, hmention]
      refine ⟨rules, ?_, hrules⟩
      rw [RuleStore.run_load, Context.store, RuleStore.run_load_congr (hplace.find_put_iff hapart),
        ← Context.store, hrules]

/-- A request fails without disturbing a file, or leaves what it should leave. -/
theorem settled (r : RulesRequest) (c : Context) (w : Machine)
    (h : Spares w.files c.storePath r) : Settled r c w := by
  cases r with
  | list => exact settled_list c w
  | add rule => exact settled_add rule c w
  | remove number => exact settled_remove number c w
  | replace source => exact settled_replace source c w
  | «export» output => exact settled_export output c w h

end RulesRequest

/-! ### The program -/

theorem run_themePath (env : Environment) (settings : Settings) (w : Machine) :
    ∃ path, (themePath? env settings : StateM Machine _).run w = (path, w) := by
  rw [themePath?]
  cases settings.theme with
  | some path => exact ⟨_, rfl⟩
  | none => cases env.configFile? "theme.yaml" <;> exact ⟨_, rfl⟩

/-- Loading the theme changes nothing. -/
theorem run_loadTheme (env : Environment) (settings : Settings) (w : Machine) :
    ∃ theme, (loadTheme env settings : StateM Machine _).run w = (theme, w) := by
  obtain ⟨path, hpath⟩ := run_themePath env settings w
  rw [loadTheme, StateT.run_bind, hpath]
  cases path with
  | none => exact ⟨_, rfl⟩
  | some path =>
    refine ⟨(((w.files.read path).bind fun bytes =>
        (Text.decode bytes).mapError fun _ => FileError.notText).mapError
          (.unreadable path)).bind fun text => (Theme.read? text).elim (.error .invalid) .ok, ?_⟩
    show StateT.run (Platform.readText path >>= _) w = _
    rw [StateT.run_bind, run_readText]
    cases (w.files.read path).bind fun bytes =>
        (Text.decode bytes).mapError fun _ => FileError.notText with
    | error e => rfl
    | ok text =>
      dsimp only [bind, Except.mapError, Except.bind]
      cases Theme.read? text <;> rfl

/-- What the program says of a command line that it can read, with a theme that it can load. -/
theorem run_program {env : Environment} {args : List String} {i : Invocation} {theme : Theme}
    {w : Machine} (hread : Invocation.read env.storeVariable args = .ok i)
    (htheme : (loadTheme env i.settings : StateM Machine _).run w = (.ok theme, w)) :
    (program env args : StateM Machine Nat).run w =
      match exec (i.run env theme) w with
      | (.ok (), w') => (0, w')
      | (.error failure, w') =>
        (1, { w' with errors := w'.errors ++
          (Display.mk theme env.errorsAreTerminal).message .error failure.line }) := by
  rw [program, hread]
  dsimp only
  rw [StateT.run_bind, htheme]
  show StateT.run ((i.run (m := StateM Machine) env theme).run >>= _) w = _
  rw [StateT.run_bind, exec]
  rcases StateT.run (i.run (m := StateM Machine) env theme).run w with ⟨_ | ⟨⟨⟩⟩, w'⟩ <;> rfl

/-- A command line that asks, if it can be read, for a request on the rules stored at a path, and
not for an export onto them. -/
def AsksForRules (env : Environment) (args : List String) (path : String) (files : FileSystem) :
    Prop :=
  ∀ i, Invocation.read env.storeVariable args = .ok i →
    i.settings.store.or (env.configFile? "rules.json") = some path ∧
      ∃ r, i.request = .rules r ∧ r.Spares files path

/-- Every command on the stored rules is a transaction: if the program says that it failed, no file
changed, and if not, what is loaded from then on are the rules that the request should leave. -/
theorem rules_transaction {env : Environment} {args : List String} {path : String} {w : Machine}
    (h : AsksForRules env args path w.files) :
    ∃ code w', (program env args : StateM Machine Nat).run w = (code, w') ∧
      (code ≠ 0 → Undisturbed w.files w'.files path) ∧
      (code = 0 → ∀ i r, Invocation.read env.storeVariable args = .ok i → i.request = .rules r →
        ∃ after, (RuleStore.load (.file path) : StateM Machine _).run w' = (.ok after, w') ∧
          r.Leaves w.files ((RuleStore.load (.file path) : StateM Machine _).run w).1 after) := by
  cases hread : Invocation.read env.storeVariable args with
  | error notice =>
    rw [program, hread]
    cases notice with
    | version => exact ⟨0, _, rfl, fun hcode => absurd rfl hcode, fun _ _ _ hi => by cases hi⟩
    | help => exact ⟨0, _, rfl, fun hcode => absurd rfl hcode, fun _ _ _ hi => by cases hi⟩
    | usage => exact ⟨2, _, rfl, fun _ => .refl _ _, fun _ _ _ hi => by cases hi⟩
  | ok i =>
    obtain ⟨hstore, r, hrequest, hspares⟩ := h i hread
    obtain ⟨theme | theme, htheme⟩ := run_loadTheme env i.settings w
    · rw [program, hread]
      dsimp only
      rw [StateT.run_bind, htheme]
      exact ⟨1, _, rfl, fun _ => .refl _ _, fun hcode => by cases hcode⟩
    · have hrun : i.run (m := StateM Machine) env theme = r.run
          ⟨path, ⟨theme, env.outputIsTerminal⟩, ⟨theme, env.errorsAreTerminal⟩,
            i.settings.quiet⟩ := by
        simp only [Invocation.run, hstore, hrequest]
      have hsettled := RulesRequest.settled r
        ⟨path, ⟨theme, env.outputIsTerminal⟩, ⟨theme, env.errorsAreTerminal⟩, i.settings.quiet⟩
        w hspares
      rw [RulesRequest.Settled, ← hrun, Settles] at hsettled
      rw [run_program hread htheme]
      rcases hexec : exec (i.run (m := StateM Machine) env theme) w with ⟨failure | ⟨⟨⟩⟩, w'⟩
      all_goals rw [hexec] at hsettled
      · exact ⟨1, _, rfl, fun _ => hsettled, fun hcode => by cases hcode⟩
      · refine ⟨0, w', rfl, fun hcode => absurd rfl hcode, fun _ i' r' hi hr => ?_⟩
        cases hi
        rw [hrequest] at hr
        cases hr
        exact hsettled

/-- A rule is added to a store that is not there yet; its pattern is trimmed. -/
theorem rules_transaction_noFiles :
    let args := ["--store", "rules.json", "rules", "add", " name ", "X"]
    ∃ code w',
      (program ⟨none, none, false, false⟩ args : StateM Machine Nat).run noFiles = (code, w') ∧
      (code ≠ 0 → Undisturbed noFiles.files w'.files "rules.json") ∧
      (code = 0 → (RuleStore.load (.file "rules.json") : StateM Machine _).run w' =
        (.ok [.literal "name" "X"], w')) := by
  intro args
  have hread : Invocation.read none args =
      .ok ⟨⟨false, false, some "rules.json", none⟩, .rules (.add (.literal " name " "X"))⟩ := by
    decide
  have hspares : (RulesRequest.add (.literal " name " "X")).Spares noFiles.files "rules.json" :=
    fun output place h => by cases h
  obtain ⟨code, w', hrun, hfailed, hdone⟩ :=
    @rules_transaction ⟨none, none, false, false⟩ args "rules.json" noFiles fun i hi => by
      cases hread.symm.trans hi
      exact ⟨rfl, _, rfl, hspares⟩
  refine ⟨code, w', hrun, hfailed, fun hcode => ?_⟩
  obtain ⟨after, hload, rules, hbefore, hafter⟩ := hdone hcode _ _ hread rfl
  have hempty :
      ((RuleStore.load (.file "rules.json") : StateM Machine _).run noFiles).1 = .ok [] := by
    rw [RuleStore.run_load_file]
    rfl
  rw [hempty] at hbefore
  cases hbefore
  rw [hload, hafter]
  rfl

end Command

end TextMasking
