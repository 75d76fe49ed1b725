import TextMasking.Json.Basic

/-!
# Writing a JSON text

Values are written over several lines: each item and each member on a line of its own, two columns
further in than what it is in. Quotes, backslashes and control characters are escaped, and nothing
else.
-/

namespace TextMasking.Json

/-- A hexadecimal digit. -/
def hexDigit (n : Nat) : Char :=
  if n < 10 then Char.ofNat ('0'.toNat + n) else Char.ofNat ('a'.toNat + (n - 10))

/-- A character of a string as it is written. -/
def escapeChar (c : Char) : List Char :=
  if c = '"' then ['\\', '"']
  else if c = '\\' then ['\\', '\\']
  else if c = '\n' then ['\\', 'n']
  else if c = '\r' then ['\\', 'r']
  else if c = '\t' then ['\\', 't']
  else if c.toNat = 8 then ['\\', 'b']
  else if c.toNat = 12 then ['\\', 'f']
  else if c.toNat < 0x20 then
    ['\\', 'u', '0', '0', hexDigit (c.toNat / 16), hexDigit (c.toNat % 16)]
  else [c]

/-- A string as it is written. -/
def quote (s : String) : String :=
  "\"" ++ String.ofList (s.toList.flatMap escapeChar) ++ "\""

/-- The start of a line `depth` levels in. -/
def lineStart (depth : Nat) : String :=
  "\n" ++ String.ofList (List.replicate (2 * depth) ' ')

mutual

/-- A value whose first line begins `depth` levels in. -/
def prettyAt (depth : Nat) : Json → String
  | .null => "null"
  | .bool b => if b then "true" else "false"
  | .number s => s
  | .string s => quote s
  | .array [] => "[]"
  | .array (v :: rest) =>
    "[" ++ lineStart (depth + 1) ++ prettyAt (depth + 1) v ++ prettyItems (depth + 1) rest
      ++ lineStart depth ++ "]"
  | .object [] => "\x7b\x7d"
  | .object ((name, v) :: rest) =>
    "\x7b" ++ lineStart (depth + 1) ++ quote name ++ ": " ++ prettyAt (depth + 1) v
      ++ prettyMembers (depth + 1) rest ++ lineStart depth ++ "\x7d"

/-- The items after the first one. -/
def prettyItems (depth : Nat) : List Json → String
  | [] => ""
  | v :: rest => "," ++ lineStart depth ++ prettyAt depth v ++ prettyItems depth rest

/-- The members after the first one. -/
def prettyMembers (depth : Nat) : List (String × Json) → String
  | [] => ""
  | (name, v) :: rest =>
    "," ++ lineStart depth ++ quote name ++ ": " ++ prettyAt depth v ++ prettyMembers depth rest

end

/-- A value as it is written. -/
def pretty (v : Json) : String :=
  prettyAt 0 v

end TextMasking.Json
