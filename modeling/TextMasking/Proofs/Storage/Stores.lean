import TextMasking.Proofs.Rules.Document
import TextMasking.Proofs.Storage.Directories
import TextMasking.Proofs.Text.Lines

/-! # Rules in a file

What is saved is loaded (`RuleStore.run_load_of_document`).  Saving writes the whole document, or it
adds directories at most and the path leads to no file in the end (`RuleStore.run_save`). -/

namespace TextMasking

namespace FileSystem

variable {fs : FileSystem} {path other : String} {place start target names : List String}
  {content : ByteArray}

/-- A file that can be read can be written. -/
theorem exists_writable_of_read (h : fs.read path = .ok content) :
    ∃ place, fs.Writable path place := by
  obtain ⟨place, hlocate, hentry, hname⟩ := find_eq_ok_iff.mp (read_eq_ok_iff.mp h)
  exact ⟨place, hlocate, by simp [hentry], hname (by simp)⟩

/-- No file changed, and what can be read at the path is the same. -/
structure Undisturbed (fs fs' : FileSystem) (path : String) : Prop where
  files : ∀ place content,
    fs'.entry? place = some (.file content) ↔ fs.entry? place = some (.file content)
  bytes : (fs'.read path).toOption = (fs.read path).toOption

theorem Undisturbed.refl (fs : FileSystem) (path : String) : Undisturbed fs fs path :=
  ⟨fun _ _ => .rfl, rfl⟩

/-- Added directories disturb nothing where the path leads to no file in the end. -/
theorem Grown.undisturbed {fs' : FileSystem} (h : Grown fs fs')
    (hread : ∀ content, fs'.read path ≠ .ok content) : Undisturbed fs fs' path where
  files place content := ⟨h.no_file place content, h.keeps place (.file content)⟩
  bytes := by
    have hnone : ∀ content, fs.read path ≠ .ok content :=
      fun content hc => hread content (h.read hc)
    cases hold : fs.read path with
    | ok content => exact absurd hold (hnone content)
    | error e =>
      cases hnew : fs'.read path with
      | ok content => exact absurd hnew (hread content)
      | error e' => rfl

/-- A file can be written again when it has been written. -/
theorem Writable.put (h : fs.Writable path place) (content : ByteArray) :
    (fs.put place (.file content)).Writable path place where
  locate_eq := h.locate_put _
  not_directory := by
    rw [fileEntry_put h.ne_nil, if_pos rfl]
    simp
  names_file := h.names_file

/-- A file that is made leads no path anywhere new. -/
theorem walk_of_walk_put (hne : place ≠ [])
    (h : (fs.put place (.file content)).walk start names = .ok target) :
    fs.walk start names = .ok target := by
  induction names generalizing start with
  | nil => exact h
  | cons name names ih =>
    rw [walk] at h ⊢
    rw [fileEntry_put hne] at h
    by_cases hstart : start = place
    · rw [if_pos hstart] at h
      cases h
    · rw [if_neg hstart] at h
      split at h
      · cases h
      · cases h
      · split_ifs at h ⊢
        · exact ih h
        · exact ih h

theorem locate_of_locate_put (hne : place ≠ [])
    (h : (fs.put place (.file content)).locate other = .ok target) :
    fs.locate other = .ok target := by
  rw [locate] at h ⊢
  rw [workingDirectory_put] at h
  split_ifs at h ⊢
  · exact walk_of_walk_put hne h
  · exact walk_of_walk_put hne h

/-- Writing a file changes nothing about what a path to another place leads to. -/
theorem Writable.find_put_iff (h : fs.Writable path place) (hother : fs.locate other ≠ .ok place)
    (found : FileEntry) :
    (fs.put place (.file content)).find other = .ok found ↔ fs.find other = .ok found := by
  refine ⟨fun hfind => ?_, h.find_put hother⟩
  obtain ⟨target, hlocate, hentry, hname⟩ := find_eq_ok_iff.mp hfind
  have hold := locate_of_locate_put h.ne_nil hlocate
  have hne : target ≠ place := fun e => hother (e ▸ hold)
  rw [fileEntry_put h.ne_nil, if_neg hne] at hentry
  exact find_eq_ok_iff.mpr ⟨target, hold, hentry, hname⟩

end FileSystem

/-- A machine without files. -/
def Machine.noFiles : Machine := ⟨⟨[], []⟩, .empty, "", ""⟩

namespace RuleStore

open FileSystem Machine

variable {w : Machine} {path : String} {place : List String} {bytes : ByteArray} {text : String}
  {rules : RuleList}

/-! ### Loading -/

/-- What loading from a file comes to, and that it changes nothing. -/
theorem run_load_file (path : String) (w : Machine) :
    (load (.file path) : StateM Machine _).run w =
      (if w.files.present path then
        match (w.files.read path).bind fun bytes =>
            (Text.decode bytes).mapError fun _ => FileError.notText with
        | .ok text => (RuleList.read text).mapError (.invalid path)
        | .error e => .error (.unreadable path e)
      else .ok [], w) := by
  have hpresent : (Platform.present path : StateM Machine _).run w =
      (w.files.present path, w) := rfl
  rw [load, StateT.run_bind, hpresent]
  show StateT.run (if w.files.present path = true then _ else _) w = _
  cases w.files.present path with
  | false => rfl
  | true =>
    rw [if_pos rfl, if_pos rfl]
    show StateT.run (Platform.readText path >>= _) w = _
    rw [StateT.run_bind, run_readText]
    cases (w.files.read path).bind fun bytes =>
      (Text.decode bytes).mapError fun _ => FileError.notText <;> rfl

theorem run_load (store : RuleStore) (w : Machine) :
    (store.load : StateM Machine _).run w = (((store.load : StateM Machine _).run w).1, w) := by
  cases store with
  | memory => rfl
  | file path => rw [run_load_file]

theorem present_of_read (h : w.files.read path = .ok bytes) : w.files.present path = true := by
  obtain ⟨found, hfound⟩ := exists_find_of_read h
  rw [present, hfound]
  rfl

theorem run_load_of_read (hread : w.files.read path = .ok bytes)
    (hdecode : Text.decode bytes = .ok text) :
    (load (.file path) : StateM Machine _).run w =
      ((RuleList.read text).mapError (.invalid path), w) := by
  simp only [run_load_file, present_of_read hread, hread, Except.bind, hdecode, Except.mapError,
    if_true]

/-- A file that holds the document of rules holds these rules. -/
theorem run_load_of_document (h : w.files.read path = .ok rules.document.toUTF8) :
    (load (.file path) : StateM Machine _).run w = (.ok rules, w) := by
  rw [run_load_of_read h (Text.decode_toUTF8 _), RuleList.read, RuleList.read?_document]
  dsimp only
  rw [RuleList.ofJson_toJson]
  rfl

/-- Loading depends on what the path leads to. -/
theorem run_load_congr {w' : Machine}
    (h : ∀ found, w'.files.find path = .ok found ↔ w.files.find path = .ok found) :
    ((load (.file path) : StateM Machine _).run w').1 =
      ((load (.file path) : StateM Machine _).run w).1 := by
  rw [run_load_file, run_load_file]
  dsimp only
  cases hfind : w.files.find path with
  | ok found =>
    have hfind' := (h found).2 hfind
    simp only [present, FileSystem.read, hfind, hfind']
  | error e =>
    cases hfind' : w'.files.find path with
    | ok found =>
      rw [(h found).1 hfind'] at hfind
      cases hfind
    | error e' =>
      simp only [present, hfind, hfind']
      rfl

/-! ### Saving -/

theorem run_writeText (h : w.files.Writable path place) (text : String) :
    (Platform.writeText path text : StateM Machine _).run w =
      (.ok (), { w with files := w.files.put place (.file text.toUTF8) }) := by
  have happend := h.append "".toUTF8 text.toUTF8
  have hbytes : "".toUTF8 ++ text.toUTF8 = text.toUTF8 :=
    String.toByteArray_append.symm.trans (congrArg _ String.empty_append)
  rw [hbytes] at happend
  rw [Platform.writeText, StateT.run_bind, run_create h]
  exact (run_changes _ _).trans (by rw [wrote, happend])

theorem run_writeText_of_create {e : FileError} (h : w.files.create path = .error e)
    (text : String) :
    (Platform.writeText path text : StateM Machine _).run w = (.error e, w) := by
  have hcreate : (Platform.create path : StateM Machine _).run w = (.error e, w) :=
    (run_changes _ _).trans (by rw [h])
  rw [Platform.writeText, StateT.run_bind, hcreate]
  rfl

/-- Saving where the path leads to a place for a file writes the document there. -/
theorem run_save_of_writable (h : w.files.Writable path place) (rules : RuleList) :
    (save rules (.file path) : StateM Machine _).run w =
      (.ok (.file path), { w with files := w.files.put place (.file rules.document.toUTF8) }) := by
  rw [save, StateT.run_bind, run_makeParents_of_locate h.locate_eq]
  show StateT.run (Platform.writeText path rules.document >>= _) w = _
  rw [StateT.run_bind, run_writeText h]
  rfl

/-- Saving adds directories at most, and then it writes the document, or it fails and the path leads
to no file. -/
theorem run_save (path : String) (w : Machine) :
    ∃ files, Grown w.files files ∧
      ((∃ place, files.Writable path place ∧
          ∀ rules, (save rules (.file path) : StateM Machine _).run w =
            (.ok (.file path),
              { w with files := files.put place (.file rules.document.toUTF8) })) ∨
        ∃ e, (∀ rules, (save rules (.file path) : StateM Machine _).run w =
            (.error (.unwritable e), { w with files })) ∧
          ∀ bytes, files.read path ≠ .ok bytes) := by
  obtain ⟨files, hgrown, hrun | ⟨e, hrun, hnowhere⟩⟩ := run_makeParents path w
  · refine ⟨files, hgrown, ?_⟩
    cases hcreate : files.create path with
    | ok fs' =>
      obtain ⟨place, hplace, -⟩ := writable_of_create hcreate
      refine .inl ⟨place, hplace, fun rules => ?_⟩
      have hwrite := run_writeText (w := { w with files }) hplace rules.document
      rw [save, StateT.run_bind, hrun]
      show StateT.run (Platform.writeText path rules.document >>= _) _ = _
      rw [StateT.run_bind, hwrite]
      rfl
    | error e =>
      refine .inr ⟨e, fun rules => ?_, fun bytes hread => ?_⟩
      · have hwrite := run_writeText_of_create (w := { w with files }) hcreate rules.document
        rw [save, StateT.run_bind, hrun]
        show StateT.run (Platform.writeText path rules.document >>= _) _ = _
        rw [StateT.run_bind, hwrite]
        rfl
      · obtain ⟨place, hplace⟩ := exists_writable_of_read hread
        rw [hplace.create] at hcreate
        cases hcreate
  · refine ⟨files, hgrown, .inr ⟨e, fun rules => ?_, fun bytes hread => ?_⟩⟩
    · rw [save, StateT.run_bind, hrun]
      rfl
    · obtain ⟨place, hplace⟩ := exists_writable_of_read hread
      exact hnowhere place hplace.locate_eq

/-! ### Importing -/

/-- What is no rule document is refused, and nothing changes. -/
theorem run_importDocument_of_error {e : ImportError} (h : RuleList.read text = .error e)
    (store : RuleStore) (w : Machine) :
    (store.importDocument text : StateM Machine _).run w = (.error (.rejected e), w) := by
  rw [importDocument, h]
  rfl

/-- A rule document is saved. -/
theorem run_importDocument_of_ok (h : RuleList.read text = .ok rules) (store : RuleStore)
    (w : Machine) :
    (store.importDocument text : StateM Machine _).run w =
      (((store.save rules : StateM Machine _).run w).1.map fun s => (rules, s),
        ((store.save rules : StateM Machine _).run w).2) := by
  rw [importDocument, h]
  show StateT.run (store.save rules >>= _) w = _
  rw [StateT.run_bind]
  rcases (store.save rules : StateM Machine _).run w with ⟨_ | _, w'⟩ <;> rfl

end RuleStore

end TextMasking
