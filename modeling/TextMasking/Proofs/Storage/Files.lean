import Mathlib.Data.List.Basic
import TextMasking.Storage.FileSystem

/-! # Files that are written

A file that was made holds what was added to it, in order (`FileSystem.Writable.append`).  No path
that led somewhere leads elsewhere when the file is written (`FileSystem.Writable.locate_put`), so
what other files hold can still be read (`FileSystem.Writable.read_put`). -/

namespace TextMasking.FileSystem

variable {fs fs' : FileSystem} {path other : String} {place q start target names : List String}
  {entry entry' : FileEntry} {content before : ByteArray}

/-! ### Entries -/

theorem lookup_cons_entry (e : List String × FileEntry) (entries : List (List String × FileEntry))
    (q : List String) :
    (e :: entries).lookup q = if q = e.1 then some e.2 else entries.lookup q := by
  rw [List.lookup_cons]
  split_ifs with h
  · rw [beq_iff_eq.mpr h]
  · rw [beq_eq_false_iff_ne.mpr h]

theorem lookup_map_put (entries : List (List String × FileEntry)) (q : List String) :
    (entries.map fun e => if e.1 = place then (place, entry) else e).lookup q =
      if q = place then (entries.lookup q).map fun _ => entry else entries.lookup q := by
  induction entries with
  | nil => simp
  | cons e entries ih =>
      rw [List.map_cons, lookup_cons_entry, lookup_cons_entry, ih]
      grind

theorem lookup_put (fs : FileSystem) (place : List String) (entry : FileEntry) (q : List String) :
    (fs.put place entry).entries.lookup q =
      if q = place then some entry else fs.entries.lookup q := by
  rw [put]
  split_ifs with hold hq hq
  · obtain ⟨old, hold⟩ := Option.isSome_iff_exists.mp hold
    rw [lookup_map_put, if_pos hq, hq, hold, Option.map_some]
  · rw [lookup_map_put, if_neg hq]
  · rw [List.lookup_append, hq, Option.not_isSome_iff_eq_none.mp hold, lookup_cons_entry,
      if_pos rfl, Option.none_or]
  · rw [List.lookup_append, lookup_cons_entry, if_neg hq, List.lookup_nil, Option.or_none]

theorem fileEntry_put (hplace : place ≠ []) (q : List String) :
    entry? (fs.put place entry) q = if q = place then some entry else fs.entry? q := by
  rw [ entry?, entry?, lookup_put]
  split_ifs with hq hne <;> simp_all

/-- What was put at a place last stands there. -/
theorem put_put : (fs.put place entry).put place entry' = fs.put place entry' := by
  have hnow : ((fs.put place entry).entries.lookup place).isSome = true := by
    rw [lookup_put, if_pos rfl]
    rfl
  rw [put, if_pos hnow, put, put]
  split_ifs with hold
  · simp only [FileSystem.mk.injEq, List.map_map, and_true]
    refine List.map_congr_left fun e _ => ?_
    rw [Function.comp_apply]
    by_cases he : e.1 = place
    · rw [if_pos he, if_pos he, if_pos rfl]
    · rw [if_neg he, if_neg he]
  · have hnone := Option.not_isSome_iff_eq_none.mp hold
    simp only [FileSystem.mk.injEq, List.map_append, List.map_cons, List.map_nil, if_true, and_true,
      List.append_cancel_right_eq]
    refine (List.map_congr_left fun e he => ?_).trans (List.map_id _)
    have hne := List.lookup_eq_none_iff.mp hnone e he
    rw [if_neg fun heq => by simp [heq] at hne]
    rfl

/-! ### Paths -/

/-- Writing a file leads no path elsewhere. -/
theorem walk_put (hplace : fs.entry? place ≠ some .directory) (hne : place ≠ [])
    (h : fs.walk start names = .ok target) :
    (fs.put place entry).walk start names = .ok target := by
  induction names generalizing start with
  | nil => exact h
  | cons name names ih =>
      have hput (hdir : fs.entry? start = some .directory) :
          entry? (fs.put place entry) start = some .directory := by
        rw [fileEntry_put hne, if_neg, hdir]
        rintro rfl
        exact hplace hdir
      rw [walk] at h ⊢
      cases hstart : fs.entry? start with
      | none =>
          rw [hstart] at h
          cases h
      | some e =>
          cases e with
          | file =>
              rw [hstart] at h
              cases h
          | directory =>
              rw [hstart] at h
              rw [hput hstart]
              dsimp only at h ⊢
              split_ifs at h ⊢
              · exact ih h
              · exact ih h

theorem locate_put (hplace : fs.entry? place ≠ some .directory) (hne : place ≠ [])
    (h : fs.locate other = .ok target) : (fs.put place entry).locate other = .ok target := by
  have hdirectory : (fs.put place entry).workingDirectory = fs.workingDirectory := by
    rw [put]
    split_ifs <;> rfl
  rw [locate] at h ⊢
  rw [hdirectory]
  split_ifs at h with hempty hlong
  · rw [if_neg hempty, if_neg hlong, if_pos ‹_›]
    exact walk_put hplace hne h
  · rw [if_neg hempty, if_neg hlong, if_neg ‹_›]
    exact walk_put hplace hne h

/-! ### What a path leads to -/

/-- A path leads to the entry at its place; one that names a directory does not lead to a file. -/
theorem find_eq_ok_iff : fs.find path = .ok entry ↔ ∃ place, fs.locate path = .ok place ∧
    fs.entry? place = some entry ∧ (entry ≠ .directory → Path.namesDirectory path = false) := by
  rw [find]
  cases hlocate : fs.locate path with
  | error e =>
      simp only [bind, Except.bind, reduceCtorEq, false_iff]
      rintro ⟨place, hplace, -⟩
      cases hplace
  | ok place =>
      simp only [bind, Except.bind, Except.ok.injEq, exists_eq_left']
      cases fs.entry? place with
      | none => simp [throw, throwThe, MonadExceptOf.throw]
      | some found =>
          cases found with
          | directory =>
              constructor
              · intro h
                cases h
                exact ⟨rfl, fun hne => absurd rfl hne⟩
              · rintro ⟨h, -⟩
                cases h
                rfl
          | file content =>
              cases Path.namesDirectory path with
              | true =>
                  constructor
                  · intro h
                    cases h
                  · rintro ⟨h, hname⟩
                    cases h
                    cases hname (by simp)
              | false => simp [pure, Except.pure]

theorem read_eq_ok_iff : fs.read path = .ok content ↔ fs.find path = .ok (.file content) := by
  rw [read]
  cases fs.find path with
  | error e => simp [bind, Except.bind]
  | ok found =>
      cases found with
      | directory => simp [bind, Except.bind, throw, throwThe, MonadExceptOf.throw]
      | file other => simp [bind, Except.bind, pure, Except.pure]

theorem isDirectory_iff : fs.isDirectory path = true ↔ fs.find path = .ok .directory := by
  rw [isDirectory]
  cases fs.find path with
  | error e => simp
  | ok found => cases found <;> simp

/-- A file that can be read is there. -/
theorem exists_find_of_read (h : fs.read path = .ok content) : ∃ found, fs.find path = .ok found :=
  ⟨_, read_eq_ok_iff.mp h⟩

/-- A path to a place where a file can be written. -/
structure Writable (fs : FileSystem) (path : String) (place : List String) : Prop where
  locate_eq : fs.locate path = .ok place
  not_directory : fs.entry? place ≠ some .directory
  names_file : Path.namesDirectory path = false

namespace Writable

variable (h : fs.Writable path place)
include h

theorem ne_nil : place ≠ [] := by
  rintro rfl
  exact h.not_directory rfl

theorem create : fs.create path = .ok (fs.put place (.file .empty)) := by
  have hentry := h.not_directory
  rw [FileSystem.create, h.locate_eq]
  simp only [bind, Except.bind, h.names_file]
  split
  · contradiction
  · rfl
  · rfl

theorem locate_put (entry : FileEntry) : (fs.put place entry).locate path = .ok place :=
  FileSystem.locate_put h.not_directory h.ne_nil h.locate_eq

theorem read_put (content : ByteArray) :
    (fs.put place (.file content)).read path = .ok content := by
  refine read_eq_ok_iff.mpr (find_eq_ok_iff.mpr ⟨place, h.locate_put _, ?_, fun _ => h.names_file⟩)
  rw [fileEntry_put h.ne_nil, if_pos rfl]

theorem append (before content : ByteArray) :
    (fs.put place (.file before)).append path content =
      .ok (fs.put place (.file (before ++ content))) := by
  rw [FileSystem.append, h.read_put, h.locate_put]
  simp only [bind, Except.bind, pure, Except.pure, put_put]

/-- What another path leads to is there still. -/
theorem find_put (hother : fs.locate other ≠ .ok place) {found : FileEntry}
    (hfind : fs.find other = .ok found) : (fs.put place entry).find other = .ok found := by
  obtain ⟨target, hlocate, hentry, hname⟩ := find_eq_ok_iff.mp hfind
  have hne : target ≠ place := fun e => hother (e ▸ hlocate)
  refine find_eq_ok_iff.mpr ⟨target, ?_, ?_, hname⟩
  · exact FileSystem.locate_put h.not_directory h.ne_nil hlocate
  · rw [fileEntry_put h.ne_nil, if_neg hne, hentry]

/-- What another file holds can be read still. -/
theorem read_put_of_ne (hother : fs.locate other ≠ .ok place)
    (hread : fs.read other = .ok content) :
    (fs.put place entry).read other = .ok content :=
  read_eq_ok_iff.mpr (h.find_put hother (read_eq_ok_iff.mp hread))

end Writable

/-- A file that is made is empty. -/
theorem writable_of_create (h : fs.create path = .ok fs') :
    ∃ place, fs.Writable path place ∧ fs' = fs.put place (.file .empty) := by
  rw [create] at h
  cases hlocate : fs.locate path with
  | error e =>
      rw [hlocate] at h
      cases h
  | ok place =>
      rw [hlocate] at h
      simp only [bind, Except.bind] at h
      cases hfile : Path.namesDirectory path with
      | true =>
          rw [hfile] at h
          split at h <;> cases h
      | false =>
          rw [hfile] at h
          split at h
          · cases h
          · cases h
            exact ⟨place, ⟨hlocate, by simp [*], hfile⟩, rfl⟩
          · cases h
            exact ⟨place, ⟨hlocate, by simp [*], hfile⟩, rfl⟩

end TextMasking.FileSystem
