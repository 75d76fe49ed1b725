import TextMasking.Proofs.Command.Running
import TextMasking.Proofs.Storage.Paths

/-! # Directories that are made

Making the directories above a path adds directories and changes no file
(`Machine.run_makeParents`).  Where it fails, the path leads nowhere, and where the path leads
somewhere already, there is nothing to make (`Machine.run_makeParents_of_locate`). -/

namespace TextMasking

namespace FileSystem

variable {fs fs' fs'' : FileSystem} {path : String} {place start target names : List String}
  {entry : FileEntry} {content : ByteArray}

theorem workingDirectory_put (fs : FileSystem) (place : List String) (entry : FileEntry) :
    (fs.put place entry).workingDirectory = fs.workingDirectory := by
  rw [put]
  split_ifs <;> rfl

/-- Directories were added, and nothing else happened. -/
structure Grown (fs fs' : FileSystem) : Prop where
  workingDirectory_eq : fs'.workingDirectory = fs.workingDirectory
  keeps : ∀ place entry, fs.entry? place = some entry → fs'.entry? place = some entry
  no_file : ∀ place content,
    fs'.entry? place = some (.file content) → fs.entry? place = some (.file content)

namespace Grown

theorem refl (fs : FileSystem) : Grown fs fs :=
  ⟨rfl, fun _ _ h => h, fun _ _ h => h⟩

theorem trans (h : Grown fs fs') (h' : Grown fs' fs'') : Grown fs fs'' where
  workingDirectory_eq := h'.workingDirectory_eq.trans h.workingDirectory_eq
  keeps place entry hentry := h'.keeps place entry (h.keeps place entry hentry)
  no_file place content hfile := h.no_file place content (h'.no_file place content hfile)

variable (h : Grown fs fs')
include h

theorem walk (hwalk : fs.walk start names = .ok target) :
    fs'.walk start names = .ok target := by
  induction names generalizing start with
  | nil => exact hwalk
  | cons name names ih =>
    rw [FileSystem.walk] at hwalk ⊢
    split at hwalk
    · cases hwalk
    · cases hwalk
    · rename_i hstart
      rw [h.keeps start _ hstart]
      dsimp only
      split_ifs at hwalk ⊢
      · exact ih hwalk
      · exact ih hwalk

theorem locate (hlocate : fs.locate path = .ok target) : fs'.locate path = .ok target := by
  rw [FileSystem.locate] at hlocate ⊢
  rw [h.workingDirectory_eq]
  split_ifs at hlocate ⊢
  · exact h.walk hlocate
  · exact h.walk hlocate

theorem find (hfind : fs.find path = .ok entry) : fs'.find path = .ok entry := by
  obtain ⟨place, hlocate, hentry, hname⟩ := find_eq_ok_iff.mp hfind
  exact find_eq_ok_iff.mpr ⟨place, h.locate hlocate, h.keeps place entry hentry, hname⟩

/-- A file that could be read can be read still. -/
theorem read (hread : fs.read path = .ok content) : fs'.read path = .ok content :=
  read_eq_ok_iff.mpr (h.find (read_eq_ok_iff.mp hread))

end Grown

theorem grown_makeDirectory (h : fs.makeDirectory path = .ok fs') : Grown fs fs' := by
  rw [makeDirectory] at h
  cases hlocate : fs.locate path with
  | error e =>
    rw [hlocate] at h
    cases h
  | ok place =>
    rw [hlocate] at h
    simp only [bind, Except.bind] at h
    split at h
    · cases h
    · rename_i hnone
      split at h
      · cases h
        have hne : place ≠ [] := by
          rintro rfl
          cases hnone
        refine ⟨workingDirectory_put fs place _, fun other entry hentry => ?_,
          fun other content hfile => ?_⟩
        · have hother : other ≠ place := by
            rintro rfl
            exact absurd hentry (by simp [hnone])
          rw [fileEntry_put hne, if_neg hother, hentry]
        · rw [fileEntry_put hne] at hfile
          split_ifs at hfile
          · cases hfile
          · exact hfile
      · cases h
      · cases h

theorem exists_locate_of_isDirectory (h : fs.isDirectory path = true) :
    ∃ place, fs.locate path = .ok place := by
  obtain ⟨place, hlocate, -⟩ := find_eq_ok_iff.mp (isDirectory_iff.mp h)
  exact ⟨place, hlocate⟩

theorem makeDirectory_of_isDirectory (h : fs.isDirectory path = true) :
    fs.makeDirectory path = .error .exists := by
  obtain ⟨place, hlocate, hentry, -⟩ := find_eq_ok_iff.mp (isDirectory_iff.mp h)
  rw [makeDirectory, hlocate]
  simp only [bind, Except.bind, hentry]
  rfl

end FileSystem

namespace Machine

open FileSystem TextMasking.Path

variable {w w' : Machine} {path last before : String} {above rest segs place target : List String}
  {e : FileError}

theorem run_makeDirectories_cons (path : String) (above : List String) (w : Machine) :
    (Platform.makeDirectories (path :: above) : StateM Machine _).run w =
      match w.files.makeDirectory path with
      | .ok files => (.ok (), { w with files })
      | .error .notFound =>
        match (Platform.makeDirectories above : StateM Machine _).run w with
        | (.error e, w') => (.error e, w')
        | (.ok (), w') =>
          match w'.files.makeDirectory path with
          | .ok files => (.ok (), { w' with files })
          | .error e => (if w'.files.isDirectory path then .ok () else .error e, w')
      | .error e => (if w.files.isDirectory path then .ok () else .error e, w) := by
  have hmake (w : Machine) : (Platform.makeDirectory path : StateM Machine _).run w =
      match w.files.makeDirectory path with
      | .ok files => (.ok (), { w with files })
      | .error e => (.error e, w) := run_changes _ w
  rw [Platform.makeDirectories, StateT.run_bind, hmake]
  cases w.files.makeDirectory path with
  | ok files => rfl
  | error e =>
    cases e with
    | notFound =>
      show StateT.run (Platform.makeDirectories above >>= _) w = _
      rw [StateT.run_bind]
      rcases (Platform.makeDirectories above : StateM Machine _).run w with ⟨_ | ⟨⟨⟩⟩, w'⟩
      · rfl
      · show StateT.run (Platform.makeDirectory path >>= _) w' = _
        rw [StateT.run_bind, hmake]
        dsimp only
        cases w'.files.makeDirectory path <;> rfl
    | _ => rfl

/-- Making directories changes no file. -/
theorem run_makeDirectories (paths : List String) (w : Machine) :
    ∃ files, ((Platform.makeDirectories paths : StateM Machine _).run w).2 = { w with files } ∧
      Grown w.files files := by
  induction paths with
  | nil => exact ⟨w.files, rfl, .refl _⟩
  | cons path above ih =>
    obtain ⟨files, hfiles, hgrown⟩ := ih
    rw [run_makeDirectories_cons]
    cases hmake : w.files.makeDirectory path with
    | ok files => exact ⟨files, rfl, grown_makeDirectory hmake⟩
    | error e =>
      cases e with
      | notFound =>
        rcases hrun : (Platform.makeDirectories above : StateM Machine _).run w with ⟨_ | _, w'⟩
        · rw [hrun] at hfiles
          exact ⟨files, hfiles, hgrown⟩
        · rw [hrun] at hfiles
          obtain rfl : w' = { w with files } := hfiles
          dsimp only
          cases hagain : FileSystem.makeDirectory files path with
          | ok files' => exact ⟨files', rfl, hgrown.trans (grown_makeDirectory hagain)⟩
          | error e => exact ⟨files, rfl, hgrown⟩
      | _ => exact ⟨w.files, rfl, .refl _⟩

theorem run_makeDirectories_of_isDirectory (h : w.files.isDirectory path = true)
    (above : List String) :
    (Platform.makeDirectories (path :: above) : StateM Machine _).run w = (.ok (), w) := by
  rw [run_makeDirectories_cons, makeDirectory_of_isDirectory h]
  simp only [h, if_true]

/-- If the directories above segments cannot be made, the path of the segments leads nowhere. -/
theorem locate_ne_of_run_makeDirectories (h : Segmented segs)
    (hrun : (Platform.makeDirectories (aboveReversed segs) : StateM Machine _).run w =
      (.error e, w')) : w'.files.locate (ofReversed segs) ≠ .ok place := by
  fun_induction aboveReversed segs generalizing w w' e place with
  | case1 segs last before rest hdrop parent =>
    rename_i ih
    have habove : Segmented parent := segmented_above h hdrop
    -- it is enough that the first directory is not there in the end
    suffices hno : w'.files.isDirectory (ofReversed parent) ≠ true by
      exact fun hlocate => hno (isDirectory_ofReversed h hdrop hlocate)
    intro hdirectory
    rw [run_makeDirectories_cons] at hrun
    split at hrun
    · cases hrun
    · split at hrun
      · rename_i hfailed
        obtain ⟨-, rfl⟩ := Prod.mk.inj hrun
        obtain ⟨place', hplace⟩ := exists_locate_of_isDirectory hdirectory
        exact ih habove hfailed hplace
      · split at hrun
        · cases hrun
        · obtain ⟨hfailed, rfl⟩ := Prod.mk.inj hrun
          rw [if_pos hdirectory] at hfailed
          cases hfailed
    · obtain ⟨hfailed, rfl⟩ := Prod.mk.inj hrun
      rw [if_pos hdirectory] at hfailed
      cases hfailed
  | case2 => cases hrun

/-- What making the directories above a path comes to. -/
theorem run_makeParents (path : String) (w : Machine) :
    ∃ files, Grown w.files files ∧
      ((Platform.makeParents path : StateM Machine _).run w = (.ok (), { w with files }) ∨
        ∃ e, (Platform.makeParents path : StateM Machine _).run w = (.error e, { w with files }) ∧
          ∀ place, files.locate path ≠ .ok place) := by
  obtain ⟨files, hfiles, hgrown⟩ := run_makeDirectories (Path.above path) w
  refine ⟨files, hgrown, ?_⟩
  rw [Platform.makeParents]
  rcases hrun : (Platform.makeDirectories (above path) : StateM Machine _).run w with ⟨e | ⟨⟨⟩⟩, w'⟩
  · right
    rw [hrun] at hfiles
    obtain rfl : w' = { w with files } := hfiles
    refine ⟨e, rfl, fun place hlocate => ?_⟩
    by_cases hempty : segments path = [""]
    · rw [above, hempty, aboveReversed_empty] at hrun
      cases hrun
    · rw [← ofReversed_segments hempty] at hlocate
      exact locate_ne_of_run_makeDirectories (segmented_segments path) hrun hlocate
  · left
    rw [hrun] at hfiles
    exact Prod.ext rfl hfiles

/-- There is nothing to make above a path that leads somewhere. -/
theorem run_makeParents_of_locate (h : w.files.locate path = .ok target) :
    (Platform.makeParents path : StateM Machine _).run w = (.ok (), w) := by
  rw [Platform.makeParents, above]
  by_cases hempty : segments path = [""]
  · rw [hempty, aboveReversed_empty]
    rfl
  · have hsegmented := segmented_segments path
    have hpath := ofReversed_segments hempty
    generalize (segments path).reverse = segs at hsegmented hpath ⊢
    rw [aboveReversed.eq_def]
    split
    · rename_i last before rest hdrop
      rw [← hpath] at h
      exact run_makeDirectories_of_isDirectory (isDirectory_ofReversed hsegmented hdrop h) _
    · rfl

end Machine

end TextMasking
