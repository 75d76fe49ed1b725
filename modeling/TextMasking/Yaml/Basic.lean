/-!
# YAML values

A YAML text holds scalars, sequences and mappings. A scalar is a text; one that is written without
quotes may stand for nothing, a truth value or a number instead.
-/

namespace TextMasking

/-- A YAML value. -/
inductive Yaml where
  | scalar (text : String) (quoted : Bool)
  | sequence (items : List Yaml)
  | mapping (entries : List (Yaml × Yaml))

namespace Yaml

/-- What is not written. -/
def absent : Yaml := .scalar "" false

def isScalar : Yaml → Bool
  | .scalar .. => true
  | _ => false

/-- Whether the value is a scalar with this text. -/
def isScalarOf (text : String) : Yaml → Bool
  | .scalar t _ => t == text
  | _ => false

/-! ### Scalars without quotes -/

/-- Whether a scalar stands for nothing. -/
def isNull (text : String) : Bool :=
  ["", "~", "null", "Null", "NULL"].contains text

/-- Whether a scalar is a truth value. -/
def isBool (text : String) : Bool :=
  ["true", "True", "TRUE", "false", "False", "FALSE"].contains text

/-- The characters after a sign. -/
def unsigned : List Char → List Char
  | c :: rest => if c = '+' ∨ c = '-' then rest else c :: rest
  | [] => []

/-- Whether the characters are digits, one at least. -/
def isDigits (digit : Char → Bool) (cs : List Char) : Bool :=
  !cs.isEmpty && cs.all digit

/-- Whether a character is a hexadecimal digit. -/
def isHexDigit (c : Char) : Bool :=
  c.isDigit || ('a' ≤ c && c ≤ 'f') || ('A' ≤ c && c ≤ 'F')

/-- Whether the characters are a whole number without a sign. Digits after a needless zero are
none. -/
def isWhole : List Char → Bool
  | '0' :: 'x' :: rest => isDigits isHexDigit rest
  | '0' :: 'o' :: rest => isDigits (fun c => '0' ≤ c && c ≤ '7') rest
  | '0' :: 'b' :: rest => isDigits (fun c => c = '0' || c = '1') rest
  | '0' :: rest => rest.isEmpty
  | cs => isDigits Char.isDigit cs

/-- Whether the characters are a number with a point or an exponent, without a sign. -/
def isDecimal (cs : List Char) : Bool :=
  let whole := cs.takeWhile Char.isDigit
  let rest := cs.dropWhile Char.isDigit
  let point := rest.head? = some '.'
  let fraction := if point then rest.tail.takeWhile Char.isDigit else []
  let rest := if point then rest.tail.dropWhile Char.isDigit else rest
  (!whole.isEmpty || !fraction.isEmpty) && (point || !rest.isEmpty) &&
    match rest with
    | [] => true
    | mark :: exponent =>
      (mark = 'e' || mark = 'E') && isDigits Char.isDigit (unsigned exponent)

/-- Whether a scalar is a number. -/
def isNumber (text : String) : Bool :=
  let cs := unsigned text.toList
  isWhole cs || isDecimal cs || [".inf", ".Inf", ".INF"].contains (String.ofList cs) ||
    [".nan", ".NaN", ".NAN"].contains text

/-- Whether a scalar that is written without quotes is a text. -/
def isText (text : String) : Bool :=
  !isNull text && !isBool text && !isNumber text

end Yaml

end TextMasking
