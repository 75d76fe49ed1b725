/-!
# Texts that must not be shown

A text that may hold a secret is shown by its size only, and a short one not even by that.
-/

namespace TextMasking

/-- The most bytes of a text whose size is kept back. -/
def redactLimit : Nat := 8

/-- What is shown instead of a text; the size counts bytes. -/
def redact (s : String) : String :=
  if s.utf8ByteSize ≤ redactLimit then "[MASKED]" else s!"[MASKED: {s.utf8ByteSize} chars]"

end TextMasking
