import Mathlib.Data.List.Basic
import TextMasking.Text.Lines
import TextMasking.Text.Utf8

/-! # Lines of characters and of bytes

A text that is encoded has the encoded lines (`byteLines_encode`): a line feed is encoded as one
byte, and that byte is part of no other character.  So where all lines of some bytes have an end,
those of their text have one as well (`exists_lines`).  Characters whose lines are ended anew are
the same if all lines ended in a line feed only (`relined_eq_iff`). -/

namespace TextMasking.Text

variable {α : Type} {ends : α → Bool} {x : α} {xs ys current line : List α}

/-! ### Cutting -/

/-- What comes after the end of a line is cut by itself. -/
theorem cutFrom_append (hx : ends x = true) (current xs ys : List α) :
    cutFrom ends current (xs ++ x :: ys) =
      cutFrom ends current (xs ++ [x]) ++ cutFrom ends [] ys := by
  induction xs generalizing current with
  | nil => simp [cutFrom, hx]
  | cons y xs ih =>
      simp only [List.cons_append, cutFrom]
      split_ifs
      · rw [ih, List.cons_append]
      · exact ih _

theorem cutFrom_skip (h : ∀ y ∈ xs, ends y = false) (current ys : List α) :
    cutFrom ends current (xs ++ ys) = cutFrom ends (xs.reverse ++ current) ys := by
  induction xs generalizing current with
  | nil => rfl
  | cons y xs ih =>
      obtain ⟨hy, h⟩ := List.forall_mem_cons.mp h
      rw [List.cons_append, cutFrom, hy, if_neg Bool.false_ne_true, ih h, List.reverse_cons,
        List.append_assoc, List.singleton_append]

theorem cutFrom_line (hx : ends x = true) (h : ∀ y ∈ xs, ends y = false) :
    cutFrom ends [] (xs ++ [x]) = [xs ++ [x]] := by
  rw [cutFrom_skip h]
  simp [cutFrom, hx]

/-- Only the last element of a line may end it. -/
theorem eq_false_of_mem_dropLast (hcurrent : ∀ y ∈ current, ends y = false)
    (h : line ∈ cutFrom ends current xs) : ∀ y ∈ line.dropLast, ends y = false := by
  induction xs generalizing current with
  | nil =>
      rw [cutFrom] at h
      split_ifs at h
      · cases h
      · rw [List.mem_singleton.mp h]
        exact fun y hy => hcurrent y (List.mem_reverse.mp (List.dropLast_subset _ hy))
  | cons x xs ih =>
      rw [cutFrom] at h
      split_ifs at h with hx
      · rcases List.mem_cons.mp h with rfl | h
        · rw [List.reverse_cons, List.dropLast_concat]
          exact fun y hy => hcurrent y (List.mem_reverse.mp hy)
        · exact ih (List.forall_mem_nil _) h
      · exact ih (List.forall_mem_cons.mpr ⟨Bool.eq_false_iff.mpr hx, hcurrent⟩) h

/-- No line is empty. -/
theorem ne_nil_of_mem_cutFrom (h : line ∈ cutFrom ends current xs) : line ≠ [] := by
  induction xs generalizing current with
  | nil =>
      cases current with
      | nil => cases h
      | cons y current =>
          rw [List.mem_singleton.mp h]
          simp
  | cons x xs ih =>
      rw [cutFrom] at h
      split_ifs at h
      · rcases List.mem_cons.mp h with rfl | h
        · simp
        · exact ih h
      · exact ih h

theorem lines_line {line : List Char} (h : '\n' ∉ line) :
    lines (line ++ ['\n']) = [line ++ ['\n']] :=
  cutFrom_line (by simp) (fun y hy => by simpa using fun e : y = '\n' => h (e ▸ hy))

/-- A line more is a line more. -/
theorem lines_append_line {cs line : List Char} (hcs : cs = [] ∨ ∃ a, cs = a ++ ['\n'])
    (h : '\n' ∉ line) : lines (cs ++ (line ++ ['\n'])) = lines cs ++ [line ++ ['\n']] := by
  obtain rfl | ⟨a, rfl⟩ := hcs
  · exact lines_line h
  · rw [List.append_assoc, List.singleton_append, lines, cutFrom_append (by simp)]
    exact congrArg _ (lines_line h)

/-! ### Encoding -/

/-- The bytes of characters. -/
def encode (cs : List Char) : List UInt8 := cs.flatMap String.utf8EncodeChar

theorem utf8EncodeChar_eq {a : Char} (ha : a.toNat < 128) :
    String.utf8EncodeChar a = [a.toUInt8] := by
  refine String.utf8EncodeChar_eq_singleton (Char.utf8Size_eq_one_iff.mpr ?_)
  exact Nat.le_of_lt_succ ha

/-- The byte of an ASCII character is part of no other character. -/
theorem mem_utf8EncodeChar_iff {a : Char} (ha : a.toNat < 128) (c : Char) :
    a.toUInt8 ∈ String.utf8EncodeChar c ↔ c = a := by
  constructor
  · intro h
    have hbyte : a.toUInt8.toNat = a.toNat := Nat.mod_eq_of_lt (Nat.lt_trans ha (by decide))
    have hv : c.val.toNat = c.toNat := rfl
    rw [String.utf8EncodeChar] at h
    split_ifs at h with h₁ h₂ h₃
    all_goals
      simp only [List.mem_cons, List.not_mem_nil, or_false, ← UInt8.toNat_inj, UInt8.toNat_ofNat',
        hbyte] at h
    · rw [hv] at h₁ h
      exact Char.toNat_inj.mp (by omega)
    · omega
    · omega
    · omega
  · rintro rfl
    rw [utf8EncodeChar_eq ha]
    exact List.mem_singleton_self _

theorem mem_encode_iff {a : Char} (ha : a.toNat < 128) {cs : List Char} :
    a.toUInt8 ∈ encode cs ↔ a ∈ cs := by
  simp only [encode, List.mem_flatMap, mem_utf8EncodeChar_iff ha, exists_eq_right]

theorem encode_cons (c : Char) (cs : List Char) :
    encode (c :: cs) = String.utf8EncodeChar c ++ encode cs := List.flatMap_cons

theorem encode_append (a b : List Char) : encode (a ++ b) = encode a ++ encode b :=
  List.flatMap_append

/-- Characters are cut where they are encoded as a line feed. -/
theorem cutFrom_encode (cs current : List Char) :
    cutFrom (· = (10 : UInt8)) (encode current.reverse).reverse (encode cs) =
      (cutFrom (· = '\n') current cs).map encode := by
  induction cs generalizing current with
  | nil =>
      cases current with
      | nil => rfl
      | cons c current => simp [encode, cutFrom]
  | cons c cs ih =>
      rw [encode_cons, cutFrom]
      split_ifs with hc
      · have hfeed : String.utf8EncodeChar c = [10] := by
          rw [of_decide_eq_true hc]
          exact utf8EncodeChar_eq (by decide)
        rw [hfeed, List.map_cons, ← ih []]
        simp [cutFrom, encode, hfeed]
      · have hends : ∀ b ∈ String.utf8EncodeChar c, decide (b = (10 : UInt8)) = false := by
          intro b hb
          refine decide_eq_false fun e => hc (decide_eq_true ?_)
          rw [e] at hb
          exact (mem_utf8EncodeChar_iff (a := '\n') (by decide) c).mp hb
        rw [cutFrom_skip hends, ← ih (c :: current)]
        simp [encode]

/-- **A text that is encoded has the encoded lines.** -/
theorem byteLines_encode (cs : List Char) : byteLines (encode cs) = (lines cs).map encode :=
  cutFrom_encode cs []

/-! ### Decoding -/

theorem toList_loop (bytes : ByteArray) (i : Nat) (before : List UInt8) :
    ByteArray.toList.loop bytes i before = before.reverse ++ bytes.data.toList.drop i := by
  fun_induction ByteArray.toList.loop bytes i before with
  | case1 i before h ih =>
      have hget : bytes.get! i = bytes.data.toList[i] := getElem!_pos bytes.data i h
      rw [ih, List.drop_eq_getElem_cons h, List.reverse_cons, List.append_assoc, hget]
      rfl
  | case2 i before h =>
      rw [List.drop_eq_nil_of_le (Nat.le_of_not_lt h), List.append_nil]

theorem toList_toUTF8 (s : String) : s.toUTF8.toList = encode s.toList := by
  rw [ByteArray.toList, toList_loop, String.toUTF8_eq_toByteArray, ← String.utf8Encode_toList,
    List.utf8Encode, List.toList_data_toByteArray]
  rfl

/-- Bytes that are text are the encoded text. -/
theorem eq_of_decode {bytes : ByteArray} {s : String} (h : decode bytes = .ok s) :
    bytes = s.toUTF8 := by
  rw [decode, String.fromUTF8?] at h
  split_ifs at h
  cases h
  rfl

theorem decode_toUTF8 (s : String) : decode s.toUTF8 = .ok s := by
  have hvalid : s.toUTF8.IsValidUTF8 := s.isValidUTF8
  rw [decode, String.fromUTF8?, dif_pos hvalid]
  rfl

/-- Encoded characters are their text. -/
theorem decode_encode (cs : List Char) : decode ⟨(encode cs).toArray⟩ = .ok (String.ofList cs) := by
  have hbytes : ByteArray.mk (encode cs).toArray = (String.ofList cs).toUTF8 := by
    rw [String.toUTF8_eq_toByteArray, String.toByteArray_ofList, List.utf8Encode]
    exact ByteArray.ext List.data_toByteArray.symm
  rw [hbytes, decode_toUTF8]

theorem dropLineEnd_append (row : List Char) :
    dropLineEnd (row ++ ['\n']) = if row.getLast? = some '\r' then row.dropLast else row := by
  rw [dropLineEnd, List.getLast?_concat, if_pos rfl, List.dropLast_concat]

/-- A line without carriage returns is its characters and a line feed. -/
theorem dropLineEnd_line {line : List Char} (h : '\r' ∉ line) :
    dropLineEnd (line ++ ['\n']) = line := by
  rw [dropLineEnd_append, if_neg fun e => h (List.mem_of_getLast? e)]

theorem eq_of_getLast?_encode {line : List Char} (h : (encode line).getLast? = some 10) :
    line = line.dropLast ++ ['\n'] := by
  rcases line.eq_nil_or_concat' with rfl | ⟨init, c, rfl⟩
  · cases h
  · rw [encode_append, encode_cons, List.getLast?_append_of_ne_nil _ (by simp)] at h
    have hmem : '\n'.toUInt8 ∈ String.utf8EncodeChar c ++ encode [] := List.mem_of_getLast? h
    rw [encode, List.flatMap_nil, List.append_nil, mem_utf8EncodeChar_iff (by decide)] at hmem
    rw [hmem, List.dropLast_concat]

/-- **Bytes all of whose lines have an end** are those of a text of such lines. -/
theorem exists_lines {bytes : ByteArray} {s : String} (hs : decode bytes = .ok s)
    (h : ∀ line ∈ byteLines bytes.toList, line.getLast? = some 10 ∧ 13 ∉ line) :
    ∃ rows : List (List Char), lines s.toList = rows.map (· ++ ['\n']) ∧
      byteLines bytes.toList = rows.map (fun row => encode (row ++ ['\n'])) ∧
      ∀ row ∈ rows, '\n' ∉ row ∧ '\r' ∉ row := by
  have hbytes : byteLines bytes.toList = (lines s.toList).map encode := by
    rw [eq_of_decode hs, toList_toUTF8, byteLines_encode]
  rw [hbytes] at h
  have hline : ∀ line ∈ lines s.toList, line = line.dropLast ++ ['\n'] ∧
      '\n' ∉ line.dropLast ∧ '\r' ∉ line.dropLast := by
    intro line hmem
    obtain ⟨hlast, hreturn⟩ := h _ (List.mem_map_of_mem hmem)
    refine ⟨?_, fun hfeed => ?_, fun hr => ?_⟩
    · exact eq_of_getLast?_encode hlast
    · exact absurd (eq_false_of_mem_dropLast (List.forall_mem_nil _) hmem _ hfeed) (by simp)
    · exact hreturn ((mem_encode_iff (a := '\r') (by decide)).mpr (List.dropLast_subset _ hr))
  refine ⟨(lines s.toList).map List.dropLast, ?_, ?_, ?_⟩
  · rw [List.map_map]
    exact (List.map_id _).symm.trans (List.map_congr_left fun line hmem => (hline line hmem).1)
  · rw [hbytes, List.map_map]
    exact List.map_congr_left fun line hmem => congrArg encode (hline line hmem).1
  · intro row hrow
    obtain ⟨line, hmem, rfl⟩ := List.mem_map.mp hrow
    exact (hline line hmem).2

/-! ### Lines ended anew -/

/-- The lines without their ends. -/
def rows (cs : List Char) : List (List Char) :=
  (lines cs).map dropLineEnd

/-- The characters with each line ended by a line feed. -/
def relined (cs : List Char) : List Char :=
  (rows cs).flatMap (· ++ ['\n'])

/-- Characters that end in a line feed, with no carriage return before it. -/
def EndsInFeed (line : List Char) : Prop :=
  ∃ row, line = row ++ ['\n'] ∧ row.getLast? ≠ some '\r'

/-- Ending a line anew changes nothing if it ended in a line feed only. -/
theorem dropLineEnd_eq_iff {line : List Char} :
    dropLineEnd line ++ ['\n'] = line ↔ EndsInFeed line := by
  constructor
  · intro h
    refine ⟨dropLineEnd line, h.symm, fun hlast => ?_⟩
    have hdrop := dropLineEnd_append (dropLineEnd line)
    rw [h, if_pos hlast] at hdrop
    have hlength := congrArg List.length hdrop
    rw [List.length_dropLast] at hlength
    have hpos : 0 < (dropLineEnd line).length := List.length_pos_of_mem (List.mem_of_getLast? hlast)
    omega
  · rintro ⟨row, rfl, hlast⟩
    rw [dropLineEnd_append, if_neg hlast]

theorem not_mem_dropLineEnd {line : List Char} (h : '\n' ∉ line.dropLast) :
    '\n' ∉ dropLineEnd line := by
  rw [dropLineEnd]
  dsimp only
  split_ifs with hlast hreturn
  · exact fun hmem => h (List.dropLast_subset _ hmem)
  · exact h
  · intro hmem
    rcases line.eq_nil_or_concat' with rfl | ⟨init, c, rfl⟩
    · cases hmem
    · rw [List.dropLast_concat] at h
      rw [List.getLast?_concat, Option.some.injEq] at hlast
      rcases List.mem_append.mp hmem with hmem | hmem
      · exact h hmem
      · exact hlast (List.mem_singleton.mp hmem).symm

theorem not_mem_of_mem_rows {cs row : List Char} (h : row ∈ rows cs) : '\n' ∉ row := by
  obtain ⟨line, hline, rfl⟩ := List.mem_map.mp h
  refine not_mem_dropLineEnd fun hmem => ?_
  have := eq_false_of_mem_dropLast (List.forall_mem_nil _) hline '\n' hmem
  simp at this

/-- Rows that are ended by line feeds are the lines. -/
theorem lines_flatMap {rows : List (List Char)} (h : ∀ row ∈ rows, '\n' ∉ row) :
    lines (rows.flatMap (· ++ ['\n'])) = rows.map (· ++ ['\n']) := by
  induction rows with
  | nil => rfl
  | cons row rows ih =>
      obtain ⟨hrow, hrows⟩ := List.forall_mem_cons.mp h
      rw [List.flatMap_cons, List.append_assoc, List.singleton_append, lines,
        cutFrom_append (by simp)]
      exact congrArg₂ _ (lines_line hrow) (ih hrows)

/-- **The characters stay as they are** if every line ends in a line feed only. -/
theorem relined_eq_iff {cs : List Char} :
    relined cs = cs ↔ ∀ line ∈ lines cs, EndsInFeed line := by
  have hmap : (rows cs).map (· ++ ['\n']) = (lines cs).map fun line => dropLineEnd line ++ ['\n'] :=
    List.map_map
  constructor
  · intro h line hline
    have hlines := lines_flatMap fun row (hrow : row ∈ rows cs) => not_mem_of_mem_rows hrow
    rw [← relined, h, hmap] at hlines
    have hsame := List.map_eq_map_iff.mp ((List.map_id _).trans hlines) line hline
    exact dropLineEnd_eq_iff.mp hsame.symm
  · intro h
    rw [relined, List.flatMap_def, hmap,
      List.map_congr_left fun line hline => dropLineEnd_eq_iff.mpr (h line hline), List.map_id',
      flatten_lines]

end TextMasking.Text
