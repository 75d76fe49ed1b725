import TextMasking.Command.Context
import TextMasking.Proofs.Storage.Files

/-! # Commands on a machine

A command is run on a machine step by step (`Machine.exec_bind_of_ok`), and a command that came to
its end went through all its steps (`Machine.exists_of_exec_bind`).  What is written to an output
that could be made stands there in order (`Machine.exec_put`), and another input holds what it held
(`Machine.content_wrote`). -/

namespace TextMasking.Machine

variable {α β : Type} {x : ExceptT Failure (StateM Machine) α}
  {f : α → ExceptT Failure (StateM Machine) β} {w w' : Machine} {a : α} {b : β}

/-- What a program that may fail comes to. -/
def exec (x : ExceptT Failure (StateM Machine) α) (w : Machine) : Except Failure α × Machine :=
  x.run.run w

theorem exec_lift (x : StateM Machine α) (w : Machine) :
    exec (liftM x) w = (.ok (x.run w).1, (x.run w).2) := rfl

theorem exec_bind (x : ExceptT Failure (StateM Machine) α)
    (f : α → ExceptT Failure (StateM Machine) β) (w : Machine) :
    exec (x >>= f) w =
      match exec x w with
      | (.ok a, w') => exec (f a) w'
      | (.error e, w') => (.error e, w') := by
  show (ExceptT.run (x >>= f)).run w = _
  rw [exec, ExceptT.run_bind, StateT.run_bind]
  show (match (x.run.run w) with | (r, w') => _) = _
  rcases x.run.run w with ⟨_ | _, w'⟩ <;> rfl

theorem exec_bind_of_ok (h : exec x w = (.ok a, w')) : exec (x >>= f) w = exec (f a) w' := by
  rw [exec_bind, h]

theorem exists_of_exec_bind (h : exec (x >>= f) w = (.ok b, w')) :
    ∃ a w₁, exec x w = (.ok a, w₁) ∧ exec (f a) w₁ = (.ok b, w') := by
  rw [exec_bind] at h
  rcases hx : exec x w with ⟨_ | a, w₁⟩
  · rw [hx] at h
    cases h
  · rw [hx] at h
    exact ⟨a, w₁, rfl, h⟩

theorem exec_orFail (context : List String) (result : StateM Machine (Except FileError α))
    (w : Machine) :
    exec (Command.orFail context result) w =
      ((result.run w).1.mapError fun e => ⟨context ++ [e.message]⟩, (result.run w).2) := by
  rw [Command.orFail, exec_bind, exec_lift]
  dsimp only
  cases (result.run w).1 <;> rfl

theorem run_changes (f : FileSystem → Except FileError FileSystem) (w : Machine) :
    (changes f).run w =
      match f w.files with
      | .ok files => (.ok (), { w with files })
      | .error e => (.error e, w) := by
  show (match f w.files with | .ok files => _ | .error e => _ : StateM Machine _).run w = _
  cases f w.files <;> rfl

theorem mapError_eq_ok {ε ε' : Type} {x : Except ε α} {f : ε → ε'} :
    x.mapError f = .ok a ↔ x = .ok a := by
  cases x <;> simp [Except.mapError]

theorem run_mention (c : Command.Context) (severity : Severity) (text : String) (w : Machine) :
    ∃ errors, (c.mention severity text : StateM Machine Unit).run w = ((), { w with errors }) := by
  rw [Command.Context.mention]
  split_ifs
  · exact ⟨_, rfl⟩
  · exact ⟨w.errors, rfl⟩

/-! ### Input -/

variable {source : Option String} {path : String} {bytes : ByteArray}

theorem run_content (source : Option String) (w : Machine) :
    (content source).run w = (((content source).run w).1, w) := by
  cases source <;> rfl

theorem run_readText (path : String) (w : Machine) :
    (Platform.readText path : StateM Machine _).run w =
      ((w.files.read path).bind fun bytes =>
        (Text.decode bytes).mapError fun _ => FileError.notText, w) := by
  have hread : (Platform.read path : StateM Machine _).run w = (w.files.read path, w) := rfl
  rw [Platform.readText, StateT.run_bind, hread]
  cases w.files.read path <;> rfl

theorem exec_openInput {context : List String}
    (hcontent : (content (some path)).run w = (.ok bytes, w)) :
    exec (Command.orFail context (Platform.openInput path)) w = (.ok (), w) := by
  obtain ⟨found, hfound⟩ := FileSystem.exists_find_of_read (Prod.mk.inj hcontent).1
  rw [exec_orFail]
  show (((w.files.find path).map fun _ => ()).mapError _, w) = _
  rw [hfound]
  rfl

theorem run_foldLines {σ : Type} (hcontent : (content source).run w = (.ok bytes, w))
    (step : σ → List UInt8 → StateM Machine (Except Failure σ)) (start : σ) :
    (Platform.foldLines source step start : StateM Machine _).run w =
      ((foldSteps step start (Text.byteLines bytes.toList)).run w).map Except.ok id := by
  show (StateT.run (content source >>= _) w) = _
  rw [StateT.run_bind, hcontent]
  rfl

/-! ### Output -/

/-- The output can be made and written: it is the standard output, or a file at `place`. -/
def Ready (files : FileSystem) (output : Option String) (place : List String) : Prop :=
  ∀ path ∈ output, files.Writable path place

/-- The machine when `text` has been written to the output. -/
def wrote (w : Machine) (output : Option String) (place : List String) (text : String) : Machine :=
  match output with
  | none => { w with output := w.output ++ text }
  | some _ => { w with files := w.files.put place (.file text.toUTF8) }

variable {output : Option String} {place : List String}

/-- What was told before does not matter. -/
theorem errors_wrote (errors text : String) :
    { { w with errors }.wrote output place text with errors := w.errors } =
      w.wrote output place text := by
  cases output <;> rfl

theorem run_create (h : w.files.Writable path place) :
    (Platform.create path : StateM Machine _).run w = (.ok (), w.wrote (some path) place "") :=
  (run_changes _ _).trans (by rw [h.create]; rfl)

theorem exec_put (h : Ready w.files output place) (before text : String) :
    exec (Command.put output text) (w.wrote output place before) =
      (.ok (), w.wrote output place (before ++ text)) := by
  cases output with
  | none =>
      show (Except.ok (), Machine.mk _ _ (w.output ++ before ++ text) _) = _
      rw [String.append_assoc]
      rfl
  | some path =>
      have happend := (h path rfl).append before.toUTF8 text.toUTF8
      have hbytes : (before ++ text).toUTF8 = before.toUTF8 ++ text.toUTF8 :=
        String.toByteArray_append
      have hrun : (Platform.append path text.toUTF8 : StateM Machine _).run
          (w.wrote (some path) place before) =
            (.ok (), w.wrote (some path) place (before ++ text)) := by
        rw [wrote, wrote, hbytes]
        exact (run_changes _ _).trans (by rw [happend])
      rw [Command.put, exec_orFail, hrun]
      rfl

/-- Writing the output leaves another input as it is. -/
theorem content_wrote (h : Ready w.files output place)
    (hapart : ∀ i ∈ source, ∀ o ∈ output, w.files.locate i ≠ w.files.locate o)
    (hcontent : (content source).run w = (.ok bytes, w)) (text : String) :
    (content source).run (w.wrote output place text) = (.ok bytes, w.wrote output place text) := by
  obtain ⟨hbytes, -⟩ := Prod.mk.inj hcontent
  cases source with
  | none =>
      cases output with
      | none => exact congrArg (·, _) hbytes
      | some o => exact congrArg (·, _) hbytes
  | some i =>
      cases output with
      | none => exact congrArg (·, _) hbytes
      | some o =>
          have hfile := h o rfl
          have hne : w.files.locate i ≠ .ok place := hfile.locate_eq ▸ hapart i rfl o rfl
          exact congrArg (·, _) (hfile.read_put_of_ne hne hbytes)

end TextMasking.Machine
