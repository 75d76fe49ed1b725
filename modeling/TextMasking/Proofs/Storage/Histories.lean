import TextMasking.Proofs.Storage.Stores

/-! # Stores over time

A store that is loaded, saved and imported into, over and over, answers as one that just remembers
the rules that were stored last, whether it keeps them as values or as a document in a file
(`RuleStore.file_answers_as_memory`).  One operation keeps the agreement between the store and the
rules (`StoreOperation.run_perform_file`), and so does a run of them
(`StoreOperation.run_performAll_file`). -/

namespace TextMasking

/-- What is done with a store. -/
inductive StoreOperation where
  | load
  | loadOrEmpty
  | save (rules : RuleList)
  | importDocument (document : String)

namespace StoreOperation

/-- What an operation says: the rules, if it is one that returns some. -/
abbrev Answer := Except StoreError (Option RuleList)

section Running

variable {m : Type → Type} [Monad m] [Platform m]

/-- Does an operation, and returns the store that goes on. -/
def perform (store : RuleStore) : StoreOperation → m (Answer × RuleStore)
  | .load => return ((← store.load).map some, store)
  | .loadOrEmpty => return (.ok (some (← store.loadOrEmpty)), store)
  | .save rules => do
    match ← store.save rules with
    | .ok store => return (.ok none, store)
    | .error e => return (.error e, store)
  | .importDocument document => do
    match ← store.importDocument document with
    | .ok (rules, store) => return (.ok (some rules), store)
    | .error e => return (.error e, store)

/-- Does operations one after the other. -/
def performAll (store : RuleStore) : List StoreOperation → m (List Answer × RuleStore)
  | [] => return ([], store)
  | operation :: rest => do
    let (answer, store) ← operation.perform store
    let (answers, store) ← performAll store rest
    return (answer :: answers, store)

end Running

/-! ### A store that remembers -/

/-- The rules that an operation stores, if it stores some. -/
def stores? : StoreOperation → Option RuleList
  | .save rules => some rules
  | .importDocument document => (RuleList.read document).toOption
  | _ => none

/-- The rules that were stored last. -/
def lastStored (operations : List StoreOperation) : RuleList :=
  (operations.filterMap stores?).getLastD []

/-- What an operation says where these rules are stored. -/
def answer (rules : RuleList) : StoreOperation → Answer
  | .save _ => .ok none
  | .importDocument document => (RuleList.read document).map some |>.mapError .rejected
  | _ => .ok (some rules)

/-- What operations say one after the other. -/
def answers (rules : RuleList) : List StoreOperation → List Answer
  | [] => []
  | operation :: rest => operation.answer rules :: answers (operation.stores?.getD rules) rest

variable {rules : RuleList} {w : Machine} {path : String}

theorem getLastD_filterMap_cons (operation : StoreOperation) (rest : List StoreOperation)
    (rules : RuleList) :
    ((operation :: rest).filterMap stores?).getLastD rules =
      (rest.filterMap stores?).getLastD (operation.stores?.getD rules) := by
  rw [List.filterMap_cons]
  cases operation.stores? with
  | none => rfl
  | some stored => rw [List.getLastD_cons, Option.getD_some]

/-- What loading says after other operations. -/
theorem answers_load (rules : RuleList) (before after : List StoreOperation) :
    (answers rules (before ++ .load :: after))[before.length]? =
      some (.ok (some ((before.filterMap stores?).getLastD rules))) := by
  induction before generalizing rules with
  | nil => rfl
  | cons operation before ih =>
    rw [getLastD_filterMap_cons]
    exact ih (operation.stores?.getD rules)

/-- One operation after the other, on a machine. -/
theorem run_performAll_cons (store : RuleStore) (operation : StoreOperation)
    (rest : List StoreOperation) (w : Machine) :
    (performAll store (operation :: rest) : StateM Machine _).run w =
      let first := (operation.perform store : StateM Machine _).run w
      let others := (performAll first.1.2 rest : StateM Machine _).run first.2
      ((first.1.1 :: others.1.1, others.1.2), others.2) := rfl

/-! ### A store in memory -/

theorem run_perform_memory (rules : RuleList) (operation : StoreOperation) (w : Machine) :
    (operation.perform (.memory rules) : StateM Machine _).run w =
      ((operation.answer rules, .memory (operation.stores?.getD rules)), w) := by
  cases operation with
  | load => rfl
  | loadOrEmpty => rfl
  | save stored => rfl
  | importDocument document =>
    rw [perform, StateT.run_bind, answer, stores?]
    cases hread : RuleList.read document with
    | error e =>
      rw [RuleStore.run_importDocument_of_error hread]
      rfl
    | ok imported =>
      rw [RuleStore.run_importDocument_of_ok hread]
      rfl

theorem run_performAll_memory (rules : RuleList) (operations : List StoreOperation) (w : Machine) :
    (performAll (.memory rules) operations : StateM Machine _).run w =
      ((answers rules operations, .memory ((operations.filterMap stores?).getLastD rules)), w) := by
  induction operations generalizing rules with
  | nil => rfl
  | cons operation rest ih =>
    rw [run_performAll_cons, run_perform_memory, getLastD_filterMap_cons, answers]
    dsimp only
    rw [ih]

/-! ### A store in a file -/

/-- The file holds these rules: as their document, or as no rules where there is no file yet. -/
inductive Holds (w : Machine) (path : String) : RuleList → Prop
  | missing (h : w.files.present path = false) : Holds w path []
  | written {rules : RuleList} (h : w.files.read path = .ok rules.document.toUTF8) :
      Holds w path rules

theorem Holds.run_load (h : Holds w path rules) :
    (RuleStore.load (.file path) : StateM Machine _).run w = (.ok rules, w) := by
  cases h with
  | missing h =>
    rw [RuleStore.run_load_file, h]
    rfl
  | written h => exact RuleStore.run_load_of_document h

/-- The file holds what was saved, or it could not be written. -/
theorem run_save_cases (path : String) (stored : RuleList) (w : Machine) :
    (∃ w', (RuleStore.save stored (.file path) : StateM Machine _).run w = (.ok (.file path), w') ∧
        Holds w' path stored) ∨
      ∃ e w', (RuleStore.save stored (.file path) : StateM Machine _).run w =
        (.error (.unwritable e), w') := by
  obtain ⟨files, -, ⟨place, hplace, hrun⟩ | ⟨e, hrun, -⟩⟩ := RuleStore.run_save path w
  · exact .inl ⟨_, hrun stored, .written (hplace.read_put _)⟩
  · exact .inr ⟨e, _, hrun stored⟩

/-- An operation that does not fail to write says what it says where these rules are remembered, and
the file holds the rules that are stored then. -/
theorem run_perform_file (h : Holds w path rules) (operation : StoreOperation) :
    (∃ w', (operation.perform (.file path) : StateM Machine _).run w =
        ((operation.answer rules, .file path), w') ∧ Holds w' path (operation.stores?.getD rules)) ∨
      ∃ e store' w', (operation.perform (.file path) : StateM Machine _).run w =
        ((.error (.unwritable e), store'), w') := by
  cases operation with
  | load =>
    refine .inl ⟨w, ?_, h⟩
    rw [perform, StateT.run_bind, h.run_load]
    rfl
  | loadOrEmpty =>
    refine .inl ⟨w, ?_, h⟩
    rw [perform, StateT.run_bind, RuleStore.loadOrEmpty, StateT.run_bind, h.run_load]
    rfl
  | save stored =>
    rw [perform, StateT.run_bind]
    obtain ⟨w', hrun, hholds⟩ | ⟨e, w', hrun⟩ := run_save_cases path stored w
    · rw [hrun]
      exact .inl ⟨w', rfl, hholds⟩
    · rw [hrun]
      exact .inr ⟨e, .file path, w', rfl⟩
  | importDocument document =>
    rw [perform, StateT.run_bind, answer, stores?]
    cases hread : RuleList.read document with
    | error e =>
      rw [RuleStore.run_importDocument_of_error hread]
      exact .inl ⟨w, rfl, h⟩
    | ok imported =>
      rw [RuleStore.run_importDocument_of_ok hread]
      obtain ⟨w', hrun, hholds⟩ | ⟨e, w', hrun⟩ := run_save_cases path imported w
      · rw [hrun]
        exact .inl ⟨w', rfl, hholds⟩
      · rw [hrun]
        exact .inr ⟨e, .file path, w', rfl⟩

/-- No operation failed because a file could not be written. -/
def Written (answers : List Answer) : Prop := ∀ e, .error (.unwritable e) ∉ answers

/-- Operations that do not fail to write say one after the other what they say where the rules are
remembered. -/
theorem run_performAll_file (h : Holds w path rules) (operations : List StoreOperation)
    (hwritten : Written ((performAll (.file path) operations : StateM Machine _).run w).1.1) :
    ∃ w', (performAll (.file path) operations : StateM Machine _).run w =
      ((answers rules operations, .file path), w') ∧
        Holds w' path ((operations.filterMap stores?).getLastD rules) := by
  induction operations generalizing w rules with
  | nil => exact ⟨w, rfl, h⟩
  | cons operation rest ih =>
    rw [run_performAll_cons] at hwritten ⊢
    obtain ⟨w₁, hrun, hholds⟩ | ⟨e, store₁, w₁, hrun⟩ := run_perform_file h operation
    · rw [hrun] at hwritten ⊢
      have hrest : Written ((performAll (.file path) rest : StateM Machine _).run w₁).1.1 :=
        fun e he => hwritten e (List.mem_cons_of_mem _ he)
      obtain ⟨w', hothers, hholds'⟩ := ih hholds hrest
      refine ⟨w', ?_, ?_⟩
      · dsimp only
        rw [hothers, answers]
      · rw [getLastD_filterMap_cons]
        exact hholds'
    · rw [hrun] at hwritten
      exact absurd List.mem_cons_self (hwritten e)

theorem load_ne_unwritable (path : String) (w : Machine) (e : FileError) :
    ((RuleStore.load (.file path) : StateM Machine _).run w).1 ≠ .error (.unwritable e) := by
  rw [RuleStore.run_load_file]
  dsimp only
  split
  · split
    · rename_i text _
      cases RuleList.read text <;> simp [Except.mapError]
    · simp
  · simp

/-- An operation on a file that can be written does not fail to write, and the file can be written
still. -/
theorem run_perform_of_writable {place : List String} (h : w.files.Writable path place)
    (operation : StoreOperation) :
    ∃ answer w', (operation.perform (.file path) : StateM Machine _).run w =
        ((answer, .file path), w') ∧
      (∀ e, answer ≠ .error (.unwritable e)) ∧ w'.files.Writable path place := by
  have hload := RuleStore.run_load (.file path) w
  have hwrites := load_ne_unwritable path w
  generalize ((RuleStore.load (.file path) : StateM Machine _).run w).1 = loaded at hload hwrites
  cases operation with
  | load =>
    rw [perform, StateT.run_bind, hload]
    refine ⟨loaded.map some, w, rfl, fun e he => ?_, h⟩
    cases loaded with
    | error e' => exact hwrites e (by simpa [Except.map] using he)
    | ok rules => cases he
  | loadOrEmpty =>
    rw [perform, StateT.run_bind, RuleStore.loadOrEmpty, StateT.run_bind, hload]
    cases loaded with
    | error e' => exact ⟨.ok (some []), w, rfl, by simp, h⟩
    | ok rules => exact ⟨.ok (some rules), w, rfl, by simp, h⟩
  | save stored =>
    rw [perform, StateT.run_bind, RuleStore.run_save_of_writable h]
    exact ⟨.ok none, _, rfl, by simp, h.put stored.document.toUTF8⟩
  | importDocument document =>
    rw [perform, StateT.run_bind]
    cases hread : RuleList.read document with
    | error e =>
      rw [RuleStore.run_importDocument_of_error hread]
      exact ⟨.error (.rejected e), w, rfl, by simp, h⟩
    | ok imported =>
      rw [RuleStore.run_importDocument_of_ok hread, RuleStore.run_save_of_writable h]
      exact ⟨.ok (some imported), _, rfl, by simp, h.put imported.document.toUTF8⟩

/-- Where the file can be written at first, no operation fails to write. -/
theorem written_of_writable {place : List String} (h : w.files.Writable path place)
    (operations : List StoreOperation) :
    Written ((performAll (.file path) operations : StateM Machine _).run w).1.1 := by
  induction operations generalizing w with
  | nil => exact fun e he => absurd he List.not_mem_nil
  | cons operation rest ih =>
    obtain ⟨answer, w', hrun, hanswer, hplace⟩ := run_perform_of_writable h operation
    rw [run_performAll_cons, hrun]
    intro e he
    obtain he | he := List.mem_cons.1 he
    · exact hanswer e he.symm
    · exact ih hplace e he

end StoreOperation

namespace RuleStore

open StoreOperation Machine

/-- A store that keeps its rules in a file that is not there at first answers every sequence of
operations as a store that keeps them in memory does.  Loading always gives what was stored last,
and a document that is refused changes neither of them. -/
theorem file_answers_as_memory {w : Machine} {path : String}
    (hmissing : w.files.present path = false) (operations : List StoreOperation)
    (hwritten : Written ((performAll (.file path) operations : StateM Machine _).run w).1.1)
    (w₀ : Machine) :
    ∃ answers w',
      (performAll (.file path) operations : StateM Machine _).run w = ((answers, .file path), w') ∧
      (performAll (.memory []) operations : StateM Machine _).run w₀ =
        ((answers, .memory (lastStored operations)), w₀) ∧
      (∀ before after, operations = before ++ .load :: after →
        answers[before.length]? = some (.ok (some (lastStored before)))) ∧
      (load (.file path) : StateM Machine _).run w' = (.ok (lastStored operations), w') ∧
      ∀ document e, RuleList.read document = .error e →
        (importDocument (.file path) document : StateM Machine _).run w' =
          (.error (.rejected e), w') ∧
        (importDocument (.memory (lastStored operations)) document : StateM Machine _).run w₀ =
          (.error (.rejected e), w₀) := by
  obtain ⟨w', hrun, hholds⟩ := run_performAll_file (.missing hmissing) operations hwritten
  refine ⟨StoreOperation.answers [] operations, w', hrun, run_performAll_memory [] operations w₀,
    ?_, hholds.run_load, fun document e hread => ⟨?_, ?_⟩⟩
  · rintro before after rfl
    exact answers_load [] before after
  · exact run_importDocument_of_error hread _ w'
  · exact run_importDocument_of_error hread _ w₀

theorem writable_noFiles : noFiles.files.Writable "rules.json" ["rules.json"] where
  locate_eq := by decide
  not_directory := by simp [noFiles, FileSystem.entry?]
  names_file := by decide

theorem read_empty : RuleList.read "" = .error .notJson := by
  have htokens : Json.tokens? [] = some [] := by rw [Json.tokens?.eq_def]
  simp only [RuleList.read, Json.read?, String.toList_empty, htokens]
  rfl

/-- An empty document between saving and loading: both stores refuse it and still hold the rule. -/
theorem file_answers_as_memory_noFiles :
    let saved : RuleList := [.literal "name" "X"]
    let operations := [.load, .save saved, .importDocument "", .load]
    ∃ answers w',
      (performAll (.file "rules.json") operations : StateM Machine _).run noFiles =
        ((answers, .file "rules.json"), w') ∧
      (performAll (.memory []) operations : StateM Machine _).run noFiles =
        ((answers, .memory saved), noFiles) ∧
      answers[3]? = some (.ok (some saved)) := by
  intro saved operations
  have hmissing : noFiles.files.present "rules.json" = false := by decide
  have hrefused : stores? (.importDocument "") = none := by
    rw [stores?, read_empty]
    rfl
  have hlast : lastStored [.load, .save saved, .importDocument ""] = saved := by
    rw [lastStored, List.filterMap_cons, List.filterMap_cons, List.filterMap_cons, hrefused]
    rfl
  obtain ⟨answers, w', hfile, hmemory, hload, -⟩ :=
    file_answers_as_memory hmissing operations (written_of_writable writable_noFiles operations)
      noFiles
  have hstored : lastStored operations = saved := by
    rw [lastStored, List.filterMap_cons, List.filterMap_cons, List.filterMap_cons, hrefused]
    rfl
  have hthird := hload [.load, .save saved, .importDocument ""] [] rfl
  rw [hlast] at hthird
  rw [hstored] at hmemory
  exact ⟨answers, w', hfile, hmemory, hthird⟩

end RuleStore

end TextMasking
