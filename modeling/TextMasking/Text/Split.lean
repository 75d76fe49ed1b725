/-!
# Splitting

A text is split at a separator into the pieces that stand between. The pieces put together with the
separator are the text again (`intercalate_splitChars`), and no piece holds it
(`not_mem_of_mem_splitChars`).
-/

namespace TextMasking.Text

/-- What stands between the separators among characters. -/
def splitChars (separator : Char) : List Char → List (List Char)
  | [] => [[]]
  | c :: rest =>
    let pieces := splitChars separator rest
    if c = separator then [] :: pieces
    else (c :: pieces.headD []) :: pieces.tail

theorem splitChars_ne_nil (separator : Char) (cs : List Char) : splitChars separator cs ≠ [] := by
  cases cs with
  | nil => simp [splitChars]
  | cons c rest => by_cases h : c = separator <;> simp [splitChars, h]

theorem intercalate_splitChars (separator : Char) (cs : List Char) :
    [separator].intercalate (splitChars separator cs) = cs := by
  induction cs with
  | nil => rfl
  | cons c rest ih =>
    have hne := splitChars_ne_nil separator rest
    cases hp : splitChars separator rest with
    | nil => exact absurd hp hne
    | cons piece others =>
      rw [hp] at ih
      by_cases h : c = separator
      · subst h
        simp_all [splitChars, List.intercalate]
      · cases others <;> simp_all [splitChars, List.intercalate]

theorem not_mem_of_mem_splitChars {separator : Char} {cs piece : List Char}
    (h : piece ∈ splitChars separator cs) : separator ∉ piece := by
  induction cs generalizing piece with
  | nil => simp_all [splitChars]
  | cons c rest ih =>
    cases hp : splitChars separator rest with
    | nil => exact absurd hp (splitChars_ne_nil separator rest)
    | cons first others =>
      rw [hp] at ih
      by_cases hc : c = separator <;> simp [splitChars, hc, hp] at h <;> grind

/-- What stands between the separators in a text. -/
def split (separator : Char) (s : String) : List String :=
  (splitChars separator s.toList).map String.ofList

end TextMasking.Text
