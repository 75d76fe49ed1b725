import TextMasking.Regex.Bracket

/-!
# Reading a regular expression

`Regex.read` reads the text of a regular expression. Flags change what they precede up to the end of
their group. Parts are nested at most `maxDepth` deep, which counts groups, repetitions, classes,
alternatives, and sequences of two parts or more.
-/

namespace TextMasking.Regex

open Unicode

/-- The depth to which parts may be nested. -/
def maxDepth : Nat := 250

/-- The largest number of copies that a repetition may name. -/
def maxCount : Nat := 4294967295

/-- A part of a pattern that was read. A list of flags is a part that cannot be repeated. -/
structure Part where
  regex : Regex
  depth : Nat
  isFlags : Bool

/-- The greatest depth among parts. -/
def maxPartDepth (ps : List Part) : Nat :=
  (ps.map (·.depth)).foldl max 0

/-- Parts in sequence; the list has the last one first. -/
def joinSequence : List Part → Part
  | [] => ⟨.empty, 0, false⟩
  | [p] => p
  | ps => ⟨seqs (ps.reverse.map (·.regex)), 1 + maxPartDepth ps, false⟩

/-- Parts as alternatives; the list has the last one first. -/
def joinAlternatives : List Part → Part
  | [] => ⟨.empty, 0, false⟩
  | [p] => p
  | ps => ⟨alts (ps.reverse.map (·.regex)), 1 + maxPartDepth ps, false⟩

/-- What was read of a group: finished alternatives and the parts of the one being read, both with
the last one first. -/
structure Level where
  branches : List Part
  items : List Part

/-- The group as one part. -/
def Level.toPart (level : Level) : Part :=
  joinAlternatives (joinSequence level.items :: level.branches)

/-- A group that is open: its name if it has one, the flags outside of it and what was read
there. -/
structure OpenGroup where
  name : Option String
  flags : Flags
  outer : Level

/-- What was read so far. -/
structure Reading where
  level : Level
  groups : List OpenGroup
  flags : Flags
  names : List String

namespace Reading

def initial : Reading := ⟨⟨[], []⟩, [], Flags.initial, []⟩

/-- Adds a part to the sequence being read. -/
def push (st : Reading) (p : Part) : Reading :=
  { st with level := { st.level with items := p :: st.level.items } }

/-- Opens a group with the flags that hold inside. -/
def openGroup (st : Reading) (name : Option String) (inside : Flags) : Reading :=
  { st with level := ⟨[], []⟩, groups := ⟨name, st.flags, st.level⟩ :: st.groups, flags := inside }

/-- Closes the innermost group. -/
def closeGroup (st : Reading) : Except SyntaxError Reading :=
  match st.groups with
  | [] => .error .unopenedGroup
  | ⟨name, flags, outer⟩ :: groups =>
    let body := st.level.toPart
    let regex :=
      match name with
      | some n => .group n body.regex
      | none => body.regex
    .ok ({ st with level := outer, groups, flags }.push ⟨regex, 1 + body.depth, false⟩)

/-- Begins another alternative. -/
def alternate (st : Reading) : Reading :=
  { st with level := ⟨joinSequence st.level.items :: st.level.branches, []⟩ }

/-- Repeats the last part. -/
def repeatLast (st : Reading) (min : Nat) (max : Option Nat) (greedy : Bool) :
    Except SyntaxError Reading :=
  match st.level.items with
  | [] => .error .nothingToRepeat
  | p :: items =>
    if p.isFlags then .error .nothingToRepeat
    else
      let part : Part := ⟨.times p.regex min max (greedy != st.flags.lazyFirst), 1 + p.depth, false⟩
      .ok { st with level := { st.level with items := part :: items } }

end Reading

/-! ### Groups -/

/-- Whether `c` may stand in the name of a group. -/
def isNameChar (first : Bool) (c : Char) : Bool :=
  if first then c == '_' || isAlphabetic c
  else c == '_' || c == '.' || c == '[' || c == ']' || isAlphanumeric c

/-- Reads the name of a group up to its `>`. -/
def readName (input : List Char) : Except SyntaxError (String × List Char) :=
  let name := input.takeWhile (· != '>')
  match name, input.dropWhile (· != '>') with
  | c :: more, _ :: rest =>
    if isNameChar true c && more.all (isNameChar false) then .ok (String.ofList name, rest)
    else .error .groupName
  | _, _ => .error .groupName

/-- Reads what follows the parenthesis that opens a group. -/
def readGroup (st : Reading) (input : List Char) : Except SyntaxError (Reading × List Char) := do
  let named (rest : List Char) := do
    let (name, rest) ← readName rest
    if st.names.contains name then throw .repeatedName
    return ({ st with names := name :: st.names }.openGroup (some name) st.flags, rest)
  match st.flags.skip input with
  | '?' :: '=' :: _ | '?' :: '!' :: _ | '?' :: '<' :: '=' :: _ | '?' :: '<' :: '!' :: _ =>
    throw .lookAround
  | '?' :: 'P' :: '<' :: rest => named rest
  | '?' :: '<' :: rest => named rest
  | '?' :: rest =>
    let (items, stop, rest) ← Flags.read [] rest
    let inside := st.flags.apply items true
    if stop = ':' then return (st.openGroup none inside, rest)
    else if items.isEmpty then throw .nothingToRepeat
    else return ({ st with flags := inside }.push ⟨.empty, 0, true⟩, rest)
  | rest => return (st.openGroup none st.flags, rest)

/-! ### Repetitions -/

/-- The digits at the start, with the space between and after them; blanks may precede them. -/
def readDigits (f : Flags) (input : List Char) : List Char × List Char :=
  let (digits, rest) := go false [] (input.dropWhile isBlank)
  (digits.reverse, f.skip (rest.dropWhile isBlank))
where
  go (inComment : Bool) (seen : List Char) : List Char → List Char × List Char
    | [] => (seen, [])
    | c :: rest =>
      if inComment then go (c != '\n') seen rest
      else if c.isDigit then go false (c :: seen) rest
      else if f.verbose && !seen.isEmpty && isBlank c then go false seen rest
      else if f.verbose && !seen.isEmpty && c = '#' then go true seen rest
      else (seen, c :: rest)

/-- The number that the digits write, if there are any and it is not too large. -/
def countOf (digits : List Char) : Except SyntaxError Nat :=
  let n := digits.foldl (fun n c => n * 10 + (c.toNat - '0'.toNat)) 0
  if digits.isEmpty || n > maxCount then .error .repeatCount else .ok n

/-- Whether a repetition is followed by the sign for as few copies as possible. -/
def readGreed : List Char → Bool × List Char
  | '?' :: rest => (false, rest)
  | rest => (true, rest)

/-- Reads a repetition with counts, after its opening brace. -/
def readCounts (st : Reading) (input : List Char) : Except SyntaxError (Reading × List Char) := do
  let f := st.flags
  let (digits, rest) := readDigits f (f.skip input)
  let (min, max, rest) ←
    match rest with
    | ',' :: rest =>
      match f.skip rest with
      | '\x7d' :: rest => pure (← countOf digits, none, '\x7d' :: rest)
      | rest =>
        let min ← countOf digits
        let (digits, rest) := readDigits f rest
        pure (min, some (← countOf digits), rest)
    | rest => do
      let n ← countOf digits
      pure (n, some n, rest)
  match rest with
  | '\x7d' :: rest =>
    let (greedy, rest) := readGreed (f.skip rest)
    if max.any (· < min) then throw .repeatCount
    return (← st.repeatLast min max greedy, rest)
  | _ => throw .repeatCount

/-! ### Patterns -/

/-- Reads one part, or what opens or closes a group, starting at the character `c`. -/
def readPart (st : Reading) (c : Char) (rest : List Char) :
    Except SyntaxError (Reading × List Char) := do
  let f := st.flags
  let uncounted (min : Nat) (max : Option Nat) := do
    let (greedy, rest) := readGreed rest
    return (← st.repeatLast min max greedy, rest)
  let leaf (r : Regex) (rest : List Char) := pure (st.push ⟨r, 0, false⟩, rest)
  match c with
  | '(' => readGroup st rest
  | ')' => return (← st.closeGroup, rest)
  | '|' => return (st.alternate, rest)
  | '[' =>
    let (part, rest) ← readBracket f rest
    return (st.push ⟨.set part.set, part.depth, false⟩, rest)
  | '?' => uncounted 0 (some 1)
  | '*' => uncounted 0 none
  | '+' => uncounted 1 none
  | '\x7b' => readCounts st rest
  | '\\' =>
    let (atom, rest) ← readEscape f rest
    leaf (← atom.toRegex f) rest
  | '.' => leaf (.set (← f.dot)) rest
  | '^' => leaf (.assert f.caret) rest
  | '$' => leaf (.assert f.dollar) rest
  | c => leaf (.set (← literalSet f c false)) rest

/-- Reads to the end. Every step reads at least one character, so `steps` need not exceed their
number. -/
def readParts (steps : Nat) (st : Reading) (input : List Char) : Except SyntaxError Part :=
  match st.flags.skip input with
  | [] => if st.groups.isEmpty then .ok st.level.toPart else .error .unclosedGroup
  | c :: rest =>
    match steps with
    | 0 => .error .unclosedGroup
    | steps + 1 => do
      let (st, rest) ← readPart st c rest
      readParts steps st rest

/-- The regular expression that a text writes. -/
def read (source : List Char) : Except SyntaxError Regex := do
  let part ← readParts source.length Reading.initial source
  if part.depth > maxDepth then throw .tooDeep
  return part.regex

end TextMasking.Regex
