import TextMasking.Regex.Escape

/-!
# Bracketed classes

Sets of characters written in brackets: characters, ranges, named classes and further brackets, put
together by union, `&&` (both), `--` (without) and `~~` (in one of the two).
-/

namespace TextMasking.Regex

open Unicode

/-- A set with the depth to which brackets and operators are nested in it. -/
structure ClassPart where
  set : CharSet
  depth : Nat

inductive ClassOp where
  | inter
  | diff
  | either

/-- Brackets and operators that wait for what follows. -/
inductive ClassFrame where
  /-- An open bracket, after the parts of the enclosing one. -/
  | bracket (outer : List ClassPart) (negated : Bool)
  | operator (op : ClassOp) (left : ClassPart)

/-- The union of parts, the last one first. -/
def unionParts : List ClassPart → ClassPart
  | [] => ⟨.none, 0⟩
  | [p] => p
  | ps => ⟨(ps.map (·.set)).foldl (fun s t => .union t s) .none, 1 + (ps.map (·.depth)).foldl max 0⟩

/-- Joins two operands; case variants are added to both first. -/
def joinParts (f : Flags) (op : ClassOp) (a b : ClassPart) : ClassPart :=
  let s := f.foldSet a.set
  let t := f.foldSet b.set
  let set :=
    match op with
    | .inter => .inter s t
    | .diff => .diff s t
    | .either => .union (.diff s t) (.diff t s)
  ⟨set, 1 + max a.depth b.depth⟩

/-- Ends the operator that waits, if any, with its right operand. -/
def endOperator (f : Flags) (right : ClassPart) : List ClassFrame → ClassPart × List ClassFrame
  | .operator op left :: frames => (joinParts f op left right, frames)
  | frames => (right, frames)

/-- The class that stands between `[:` and `:]`. -/
def asciiClass? : String → Option CharSet
  | "alnum" => some (.ofRanges [('0', '9'), ('A', 'Z'), ('a', 'z')])
  | "alpha" => some (.ofRanges [('A', 'Z'), ('a', 'z')])
  | "ascii" => some (.range '\x00' '\x7f')
  | "blank" => some (.ofList ['\t', ' '])
  | "cntrl" => some (.ofRanges [('\x00', '\x1f'), ('\x7f', '\x7f')])
  | "digit" => some (.range '0' '9')
  | "graph" => some (.range '!' '~')
  | "lower" => some (.range 'a' 'z')
  | "print" => some (.range ' ' '~')
  | "punct" => some (.ofRanges [('!', '/'), (':', '@'), ('[', '\x60'), ('\x7b', '~')])
  | "space" => some (.ofList ['\t', '\n', '\x0b', '\x0c', '\r', ' '])
  | "upper" => some (.range 'A' 'Z')
  | "word" => some .asciiWord
  | "xdigit" => some (.ofRanges [('0', '9'), ('A', 'F'), ('a', 'f')])
  | _ => none

/-- A named class after `[`, with what follows it; anything else there opens a bracket. -/
def namedClass? (input : List Char) : Option (CharSet × Bool × List Char) :=
  match input with
  | ':' :: rest =>
    let (negated, rest) :=
      match rest with
      | '^' :: rest => (true, rest)
      | rest => (false, rest)
    let name := rest.takeWhile (· != ':')
    match rest.dropWhile (· != ':') with
    | ':' :: ']' :: after => (asciiClass? (String.ofList name)).map (·, negated, after)
    | _ => none
  | _ => none

/-- The start of a bracket after `[`: whether it is negated, the hyphens and the closing bracket
that stand for themselves because nothing came before them, and what follows. -/
def openBracket (f : Flags) (input : List Char) :
    Except SyntaxError (Bool × List ClassPart × List Char) := do
  let (negated, input) :=
    match f.skip input with
    | '^' :: rest => (true, f.skip rest)
    | input => (false, input)
  let (parts, input) := hyphens [] input
  match input with
  | [] => throw .unclosedClass
  | ']' :: rest =>
    if parts.isEmpty then
      let rest := f.skip rest
      if rest.isEmpty then throw .unclosedClass
      return (negated, [⟨.char ']', 0⟩], rest)
    else return (negated, parts, input)
  | _ => return (negated, parts, input)
where
  hyphens (parts : List ClassPart) : List Char → List ClassPart × List Char
    | '-' :: rest => hyphens (⟨.char '-', 0⟩ :: parts) rest
    | input => (parts, f.skip input)

/-- One character or escape of a bracket. -/
def readClassAtom (f : Flags) : List Char → Except SyntaxError (Atom × List Char)
  | [] => .error .unclosedClass
  | '\\' :: rest => readEscape f rest
  | c :: rest => .ok (.literal c false, rest)

/-- A literal of a bracket; where characters do not count it is ASCII. -/
def classLiteral (f : Flags) (c : Char) : Except SyntaxError Char :=
  if !f.unicode && c.toNat ≥ 0x80 then .error .needsUnicode else .ok c

/-- The character after a hyphen, past the space of a verbose pattern. -/
def peekPastSpace (f : Flags) (inComment : Bool) : List Char → Option Char
  | [] => none
  | c :: rest =>
    if !f.verbose then some c
    else if isBlank c then peekPastSpace f inComment rest
    else if !inComment && c = '#' then peekPastSpace f true rest
    else some c

/-- A character, a range of characters or a class inside a bracket. -/
def readClassItem (f : Flags) (input : List Char) :
    Except SyntaxError (ClassPart × List Char) := do
  let (first, rest) ← readClassAtom f input
  let single : Except SyntaxError ClassPart :=
    match first with
    | .literal c _ => (classLiteral f c).map fun c => ⟨.char c, 0⟩
    | .set s => .ok ⟨s, 0⟩
    | .assert _ => .error .classItem
  match f.skip rest with
  | [] => throw .unclosedClass
  | '-' :: after =>
    let peeked := peekPastSpace f false after
    if peeked = some ']' || peeked = some '-' then return (← single, '-' :: after)
    else
      let after := f.skip after
      if after.isEmpty then throw .unclosedClass
      let (last, rest) ← readClassAtom f after
      match first, last with
      | .literal a _, .literal b _ =>
        let a ← classLiteral f a
        let b ← classLiteral f b
        if b < a then throw .classRange
        return (⟨.range a b, 0⟩, rest)
      | _, _ => throw .classRange
  | rest => return (← single, rest)

/-- Reads the rest of a class. `parts` holds the parts of the innermost bracket, the last one first;
every step reads at least one character, so `steps` need not exceed their number. -/
def readClass (f : Flags) (steps : Nat) (frames : List ClassFrame) (parts : List ClassPart)
    (input : List Char) : Except SyntaxError (ClassPart × List Char) :=
  match steps with
  | 0 => .error .unclosedClass
  | steps + 1 => do
    let operator (op : ClassOp) (rest : List Char) := do
      let (left, frames) := endOperator f (unionParts parts) frames
      readClass f steps (.operator op left :: frames) [] rest
    match f.skip input with
    | [] => throw .unclosedClass
    | '[' :: rest =>
      match namedClass? rest with
      | some (s, negated, rest) =>
        readClass f steps frames (⟨← f.finishSet negated s, 0⟩ :: parts) rest
      | none =>
        let (negated, inner, rest) ← openBracket f rest
        readClass f steps (.bracket parts negated :: frames) inner rest
    | ']' :: rest =>
      let (all, frames) := endOperator f (unionParts parts) frames
      match frames with
      | .bracket outer negated :: frames =>
        let part : ClassPart := ⟨← f.finishSet negated all.set, 1 + all.depth⟩
        if frames.isEmpty then return (part, rest)
        else readClass f steps frames (part :: outer) rest
      | _ => throw .unclosedClass
    | '&' :: '&' :: rest => operator .inter rest
    | '-' :: '-' :: rest => operator .diff rest
    | '~' :: '~' :: rest => operator .either rest
    | input =>
      let (part, rest) ← readClassItem f input
      readClass f steps frames (part :: parts) rest

/-- Reads a class after its opening bracket. -/
def readBracket (f : Flags) (input : List Char) : Except SyntaxError (ClassPart × List Char) := do
  let (negated, parts, rest) ← openBracket f input
  readClass f (rest.length + 1) [.bracket [] negated] parts rest

end TextMasking.Regex
