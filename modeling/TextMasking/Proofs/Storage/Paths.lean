import TextMasking.Proofs.Storage.Files

/-! # The directories above a path

A path that leads somewhere leads through the directory that is named above it
(`FileSystem.isDirectory_ofReversed`), and so on up to the first one.  A path is its segments with
slashes between them (`Path.segments_ofReversed`), and the path above goes the same steps but for
the last one (`Path.steps_ofReversed`). -/

namespace TextMasking.Path

/-- Segments as a path has them: there are some, and none holds a slash. -/
structure Segmented (segments : List String) : Prop where
  ne_nil : segments ≠ []
  no_slash : ∀ s ∈ segments, '/' ∉ s.toList

variable {path last before x : String} {rest segs parent : List String}

/-! ### Paths of segments -/

theorem splitChars_eq_splitOn (c : Char) (cs : List Char) :
    Text.splitChars c cs = cs.splitOn c := by
  have hpieces : ∀ piece ∈ Text.splitChars c cs, c ∉ piece :=
    fun piece => Text.not_mem_of_mem_splitChars
  have h := List.splitOn_intercalate c hpieces (Text.splitChars_ne_nil c cs)
  rw [Text.intercalate_splitChars] at h
  exact h.symm

theorem segmented_segments (path : String) : Segmented (segments path).reverse := by
  refine ⟨?_, fun s hs => ?_⟩
  · simpa [segments, Text.split] using Text.splitChars_ne_nil '/' path.toList
  · rw [List.mem_reverse, segments, Text.split, List.mem_map] at hs
    obtain ⟨piece, hpiece, rfl⟩ := hs
    rw [String.toList_ofList]
    exact Text.not_mem_of_mem_splitChars hpiece

theorem Segmented.of_suffix (h : Segmented segs) (hsuffix : parent <:+ segs) (hne : parent ≠ []) :
    Segmented parent :=
  ⟨hne, fun s hs => h.no_slash s (hsuffix.mem hs)⟩

/-- The segments of a path that is put together are those it is put together of. -/
theorem segments_ofReversed (h : Segmented segs) (hne : segs ≠ [""]) :
    segments (ofReversed segs) = segs.reverse := by
  have hpieces : ∀ piece ∈ segs.reverse.map String.toList, '/' ∉ piece := by
    intro piece hpiece
    obtain ⟨s, hs, rfl⟩ := List.mem_map.1 hpiece
    exact h.no_slash s (List.mem_reverse.1 hs)
  have hsplit := List.splitOn_intercalate '/' hpieces (by simpa using h.ne_nil)
  rw [segments, Text.split, ofReversed, if_neg hne, String.toList_intercalate,
    splitChars_eq_splitOn, show "/".toList = ['/'] from rfl, hsplit, List.map_map]
  simp [Function.comp_def]

theorem ofReversed_segments (h : segments path ≠ [""]) :
    ofReversed (segments path).reverse = path := by
  have hne : (segments path).reverse ≠ [""] := by simpa using h
  rw [ofReversed, if_neg hne, List.reverse_reverse, segments, Text.split, ← String.toList_inj,
    String.toList_intercalate, List.map_map]
  simpa [Function.comp_def] using Text.intercalate_splitChars '/' path.toList

theorem steps_ofReversed (h : Segmented segs) :
    steps (ofReversed segs) = segs.reverse.filter fun s => !isIdle s := by
  by_cases hroot : segs = [""]
  · subst hroot
    decide
  · rw [steps, segments_ofReversed h hroot]

theorem ofReversed_ne_empty (h : Segmented segs) : ofReversed segs ≠ "" := by
  intro hempty
  by_cases hroot : segs = [""]
  · subst hroot
    exact absurd hempty (by decide)
  · have hsegments := segments_ofReversed h hroot
    rw [hempty, show segments "" = [""] from by decide] at hsegments
    exact hroot (by simpa using congrArg List.reverse hsegments.symm)

/-- The path of the segments before the last one is how the path begins. -/
theorem exists_ofReversed_cons (h : Segmented segs) (x : String) :
    ∃ more, ofReversed (x :: segs) = ofReversed segs ++ more := by
  have hcons : x :: segs ≠ [""] := fun heq => h.ne_nil (List.cons_eq_cons.1 heq).2
  rw [ofReversed, if_neg hcons, List.reverse_cons,
    String.intercalate_append_of_ne_nil (by simpa using h.ne_nil) (by simp), ofReversed]
  by_cases hroot : segs = [""]
  · subst hroot
    exact ⟨x, by simp⟩
  · exact ⟨"/" ++ x, by simp [hroot, String.append_assoc]⟩

theorem exists_ofReversed_of_suffix (h : Segmented segs) (hsuffix : parent <:+ segs)
    (hne : parent ≠ []) : ∃ more, ofReversed segs = ofReversed parent ++ more := by
  obtain ⟨front, rfl⟩ := hsuffix
  induction front with
  | nil => exact ⟨"", by simp⟩
  | cons x front ih =>
    have hfront : Segmented (front ++ parent) :=
      h.of_suffix (List.suffix_cons x _) (by simp [hne])
    obtain ⟨more, hmore⟩ := ih hfront
    obtain ⟨name, hname⟩ := exists_ofReversed_cons hfront x
    exact ⟨more ++ name, by rw [List.cons_append, hname, hmore, String.append_assoc]⟩

/-! ### Segments that lead nowhere -/

theorem dropIdle_suffix (segs : List String) : dropIdle segs <:+ segs := by
  fun_induction dropIdle segs with
  | case1 last before rest _ ih => exact ih.trans (List.suffix_cons last _)
  | case2 => exact List.suffix_refl _
  | case3 => exact List.suffix_refl _

theorem dropIdle_ne_nil (h : segs ≠ []) : dropIdle segs ≠ [] := by
  fun_induction dropIdle segs with
  | case1 _ _ _ _ ih => exact ih (by simp)
  | case2 => simp
  | case3 => exact h

theorem filter_dropIdle (segs : List String) :
    (dropIdle segs).filter (fun s => !isIdle s) = segs.filter fun s => !isIdle s := by
  fun_induction dropIdle segs with
  | case1 last before rest hidle ih =>
    rw [ih]
    exact (List.filter_cons_of_neg (by simp [hidle])).symm
  | case2 => rfl
  | case3 => rfl

theorem isIdle_of_dropIdle (h : dropIdle segs = last :: before :: rest) : isIdle last = false := by
  fun_induction dropIdle segs with
  | case1 _ _ _ _ ih => exact ih h
  | case2 other _ _ hother =>
    obtain ⟨rfl, -⟩ := List.cons_eq_cons.1 h
    simpa using hother
  | case3 segs hsegs => exact absurd h (hsegs last before rest)

theorem aboveReversed_empty : aboveReversed [""].reverse = [] := by
  rw [aboveReversed.eq_def]
  rfl

theorem above_suffix (hdrop : dropIdle segs = last :: before :: rest) :
    dropIdle (before :: rest) <:+ segs := by
  have hrest : before :: rest <:+ dropIdle segs := hdrop ▸ List.suffix_cons last _
  exact (dropIdle_suffix _).trans (hrest.trans (dropIdle_suffix segs))

section Above

variable (h : Segmented segs) (hdrop : dropIdle segs = last :: before :: rest)
include h hdrop

theorem segmented_above : Segmented (dropIdle (before :: rest)) :=
  h.of_suffix (above_suffix hdrop) (dropIdle_ne_nil (by simp))

/-- A path goes the steps of the path above it, and then its last one. -/
theorem steps_above :
    steps (ofReversed segs) = steps (ofReversed (dropIdle (before :: rest))) ++ [last] := by
  rw [steps_ofReversed h, steps_ofReversed (segmented_above h hdrop), List.filter_reverse,
    List.filter_reverse, filter_dropIdle, ← filter_dropIdle segs, hdrop, List.filter_cons,
    if_pos (by simp [isIdle_of_dropIdle hdrop]), List.reverse_cons]

theorem isAbsolute_above :
    isAbsolute (ofReversed segs) = isAbsolute (ofReversed (dropIdle (before :: rest))) := by
  have habove := segmented_above h hdrop
  obtain ⟨more, hmore⟩ := exists_ofReversed_of_suffix h (above_suffix hdrop) habove.ne_nil
  have hne : (ofReversed (dropIdle (before :: rest))).toList ≠ [] := by
    simpa using ofReversed_ne_empty habove
  rw [hmore, isAbsolute, isAbsolute, String.toList_append, List.head?_append_of_ne_nil _ hne]

theorem utf8ByteSize_above_le :
    (ofReversed (dropIdle (before :: rest))).utf8ByteSize ≤ (ofReversed segs).utf8ByteSize := by
  have habove := segmented_above h hdrop
  obtain ⟨more, hmore⟩ := exists_ofReversed_of_suffix h (above_suffix hdrop) habove.ne_nil
  rw [hmore, String.utf8ByteSize_append]
  omega

end Above

end TextMasking.Path

namespace TextMasking.FileSystem

open TextMasking.Path

variable {fs : FileSystem} {start target : List String} {names segs : List String}
  {name path last before : String} {rest : List String}

/-- A step leads on from a directory. -/
theorem walk_append_singleton (h : fs.walk start (names ++ [name]) = .ok target) :
    ∃ place, fs.walk start names = .ok place ∧ fs.entry? place = some .directory := by
  induction names generalizing start with
  | nil =>
    refine ⟨start, rfl, ?_⟩
    rw [List.nil_append, walk] at h
    split at h
    · cases h
    · cases h
    · assumption
  | cons other names ih =>
    rw [List.cons_append, walk] at h
    rw [walk]
    split at h
    · cases h
    · cases h
    · split_ifs at h ⊢
      · exact ih h
      · exact ih h

/-- A path that leads somewhere leads through the directory above it. -/
theorem isDirectory_ofReversed (h : Segmented segs) (hdrop : dropIdle segs = last :: before :: rest)
    (hlocate : fs.locate (ofReversed segs) = .ok target) :
    fs.isDirectory (ofReversed (dropIdle (before :: rest))) = true := by
  have hempty : ¬(ofReversed (dropIdle (before :: rest))).isEmpty := by
    simpa using ofReversed_ne_empty (segmented_above h hdrop)
  have hsize := utf8ByteSize_above_le h hdrop
  rw [locate] at hlocate
  split_ifs at hlocate with _ hlong
  all_goals
    rw [steps_above h hdrop] at hlocate
    obtain ⟨place, hwalk, hdirectory⟩ := walk_append_singleton hlocate
    have hlong' : ¬maxPath < (ofReversed (dropIdle (before :: rest))).utf8ByteSize := by omega
    have habove : fs.locate (ofReversed (dropIdle (before :: rest))) = .ok place := by
      simp_all [locate, isAbsolute_above h hdrop]
    refine isDirectory_iff.mpr (find_eq_ok_iff.mpr ⟨place, habove, hdirectory, ?_⟩)
    exact fun hne => absurd rfl hne

end TextMasking.FileSystem
