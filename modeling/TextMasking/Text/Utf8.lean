/-!
# Bytes as text

A file holds bytes; they are text if they are UTF-8. Where they are not, the fault is located: the
offset of the first byte that belongs to no character, and the number of bytes that are wrong there,
unless the bytes end inside a character that could still become one.
-/

namespace TextMasking.Text

/-- Why bytes are not text. -/
structure EncodingFault where
  /-- The number of bytes before the fault. -/
  index : Nat
  /-- The number of wrong bytes; none if more bytes could mend it. -/
  length : Option Nat
  deriving DecidableEq, Repr

def EncodingFault.message (f : EncodingFault) : String :=
  match f.length with
  | some n => s!"invalid utf-8 sequence of {n} bytes from index {f.index}"
  | none => s!"incomplete utf-8 byte sequence from index {f.index}"

/-- The ranges that the bytes after the first byte of a character lie in; none if no character
begins with that byte. -/
def continuation? (first : Nat) : Option (List (Nat × Nat)) :=
  let tail := (0x80, 0xBF)
  if first < 0x80 then some []
  else if first < 0xC2 then none
  else if first < 0xE0 then some [tail]
  else if first = 0xE0 then some [(0xA0, 0xBF), tail]
  else if first = 0xED then some [(0x80, 0x9F), tail]
  else if first < 0xF0 then some [tail, tail]
  else if first = 0xF0 then some [(0x90, 0xBF), tail, tail]
  else if first < 0xF4 then some [tail, tail, tail]
  else if first = 0xF4 then some [(0x80, 0x8F), tail, tail]
  else none

/-- What the bytes after the first byte of a character are found to be. -/
inductive Continuation where
  | whole
  | cutOff
  | wrong (good : Nat)

/-- Compares bytes with the ranges they should lie in. -/
def continues : List (Nat × Nat) → List UInt8 → Continuation
  | [], _ => .whole
  | _ :: _, [] => .cutOff
  | (lo, hi) :: more, b :: rest =>
    if lo ≤ b.toNat ∧ b.toNat ≤ hi then
      match continues more rest with
      | .wrong n => .wrong (n + 1)
      | found => found
    else .wrong 0

/-- The first fault in the bytes; `index` bytes came before them. The bytes of the character that is
being read are skipped. -/
def faultFrom (index skip : Nat) : List UInt8 → Option EncodingFault
  | [] => none
  | b :: rest =>
    match skip with
    | n + 1 => faultFrom (index + 1) n rest
    | 0 =>
      match continuation? b.toNat with
      | none => some ⟨index, some 1⟩
      | some ranges =>
        match continues ranges rest with
        | .whole => faultFrom (index + 1) ranges.length rest
        | .cutOff => some ⟨index, none⟩
        | .wrong n => some ⟨index, some (n + 1)⟩

/-- The text that bytes encode. -/
def decode (bytes : ByteArray) : Except EncodingFault String :=
  match String.fromUTF8? bytes with
  | some s => .ok s
  | none => .error ((faultFrom 0 0 bytes.toList).getD ⟨0, none⟩)

end TextMasking.Text
