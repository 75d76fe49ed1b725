/-!
# Byte offsets

Offsets into a text are counted in bytes of UTF-8. `byteLength` measures characters, `splitAtByte`
cuts them at an offset; a cut at the length of the first part of two gives the two parts back
(`splitAtByte_append`).
-/

namespace TextMasking.Text

/-- The number of bytes that the characters take. -/
def byteLength : List Char → Nat
  | [] => 0
  | c :: rest => c.utf8Size + byteLength rest

/-- The characters that begin before the offset, and the others. -/
def splitAtByte (offset : Nat) : List Char → List Char × List Char
  | [] => ([], [])
  | c :: rest =>
    if offset = 0 then ([], c :: rest)
    else
      let (before, after) := splitAtByte (offset - c.utf8Size) rest
      (c :: before, after)

/-- The characters from one offset to another. -/
def sliceBytes (start stop : Nat) (cs : List Char) : List Char :=
  (splitAtByte (stop - start) (splitAtByte start cs).2).1

@[simp] theorem byteLength_append (a b : List Char) :
    byteLength (a ++ b) = byteLength a + byteLength b := by
  induction a with
  | nil => simp [byteLength]
  | cons c a ih => simp [byteLength, ih, Nat.add_assoc]

theorem byteLength_pos {cs : List Char} (h : cs ≠ []) : 0 < byteLength cs := by
  cases cs with
  | nil => exact absurd rfl h
  | cons c cs => exact Nat.lt_of_lt_of_le c.utf8Size_pos (Nat.le_add_right ..)

theorem splitAtByte_zero (cs : List Char) : splitAtByte 0 cs = ([], cs) := by
  cases cs <;> rfl

theorem splitAtByte_append (a b : List Char) : splitAtByte (byteLength a) (a ++ b) = (a, b) := by
  induction a with
  | nil => exact splitAtByte_zero b
  | cons c a ih =>
    have hc := c.utf8Size_pos
    simp only [byteLength, List.cons_append, splitAtByte]
    rw [if_neg (by omega), Nat.add_sub_cancel_left, ih]

end TextMasking.Text
