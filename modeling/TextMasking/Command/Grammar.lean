/-!
# Command lines

A command line is read level by level: a level has options, and either operands or the names of the
commands below it. Options may stand anywhere on their level. An option is given by its name after
two dashes or by its letter after one; letters may share a dash. The path that an option takes
follows as the next word, after an equals sign, or right after the letter. After a word of two
dashes there are only operands.
-/

namespace TextMasking.Command

/-- What an option is for. -/
inductive OptionKind where
  | switch
  | file
  | help
  | version
  deriving DecidableEq, Repr

/-- An option: its name, its letter if it has one, and what it is for. -/
structure OptionForm where
  name : String
  letter : Option Char
  kind : OptionKind
  deriving DecidableEq, Repr

/-- A level of the command line. -/
inductive Grammar where
  | level (options : List OptionForm) (operands : Nat) (commands : List (String × Grammar))

namespace Grammar

def options : Grammar → List OptionForm
  | level options _ _ => options

/-- The number of operands. -/
def operands : Grammar → Nat
  | level _ operands _ => operands

def commands : Grammar → List (String × Grammar)
  | level _ _ commands => commands

def named? (g : Grammar) (name : String) : Option OptionForm :=
  g.options.find? fun o => o.name == name

def lettered? (g : Grammar) (letter : Char) : Option OptionForm :=
  g.options.find? fun o => o.letter == some letter

end Grammar

/-- What is shown instead of the work of a command. -/
inductive Notice where
  | version
  | help
  /-- The command line is wrong. -/
  | usage
  deriving DecidableEq, Repr

/-- What was given on one level; a switch is given with an empty value. -/
structure Given where
  options : List (String × String)
  operands : List String
  deriving DecidableEq, Repr

namespace Given

def nothing : Given := ⟨[], []⟩

def has (g : Given) (name : String) : Bool := (g.options.lookup name).isSome

/-- Adds an option, which may be given once. A path is not empty. -/
def add (g : Given) (o : OptionForm) (value : Option String) : Except Notice Given :=
  match o.kind, value with
  | .help, none => .error .help
  | .version, none => .error .version
  | .switch, none => give ""
  | .file, some path => if path.isEmpty then .error .usage else give path
  | _, _ => .error .usage
where
  /-- Adds an option with its value. -/
  give (value : String) : Except Notice Given :=
    if g.has o.name then .error .usage else .ok { g with options := g.options ++ [(o.name, value)] }

end Given

/-- A command line as it was read: the names of the commands, and what was given on each level,
outermost first. -/
structure Words where
  path : List String
  levels : List Given
  deriving DecidableEq, Repr

namespace Words

/-- Whether a switch was given on some level. -/
def switch (w : Words) (name : String) : Bool := w.levels.any (·.has name)

/-- The value of an option on the innermost level that has it. -/
def file? (w : Words) (name : String) : Option String :=
  w.levels.reverse.findSome? fun g => g.options.lookup name

/-- The operands of the innermost level. -/
def operands (w : Words) : List String := (w.levels.getLast?.map (·.operands)).getD []

end Words

namespace Grammar

/-- The name and the value of an option that is written with two dashes. -/
def splitOption (cs : List Char) : String × Option String :=
  match cs.dropWhile (· ≠ '=') with
  | [] => (String.ofList cs, none)
  | _ :: value => (String.ofList (cs.takeWhile (· ≠ '=')), some (String.ofList value))

/-- Whether a word could be an option. -/
def looksLikeOption : List Char → Bool
  | '-' :: _ :: _ => true
  | _ => false

/-- Reads letters that share a dash. The option whose path is the next word is told. -/
def readLetters (g : Grammar) (given : Given) :
    List Char → Except Notice (Given × Option OptionForm)
  | [] => .ok (given, none)
  | c :: rest =>
    match g.lettered? c with
    | none => .error .usage
    | some o =>
      if o.kind = .file then
        match rest with
        | [] => .ok (given, some o)
        | '=' :: value => do return (← given.add o (some (String.ofList value)), none)
        | value => do return (← given.add o (some (String.ofList value)), none)
      else do g.readLetters (← given.add o none) rest

/-- Reads a word that gives options. The option whose path is the next word is told. -/
def readOptions (g : Grammar) (given : Given) (word : List Char) :
    Except Notice (Given × Option OptionForm) :=
  match word with
  | '-' :: '-' :: long =>
    let (name, value) := splitOption long
    match g.named? name with
    | none => .error .usage
    | some o =>
      if o.kind = .file ∧ value = none then .ok (given, some o)
      else do return (← given.add o value, none)
  | _ => g.readLetters given word.tail

/-- Ends a level: it has all its operands, and no command is missing. -/
def finish (g : Grammar) (given : Given) : Except Notice Words :=
  if g.commands.isEmpty ∧ given.operands.length = g.operands then .ok ⟨[], [given]⟩
  else .error .usage

/-- Whether words name a command to be explained. -/
def isTopic (g : Grammar) : List String → Bool
  | [] => true
  | word :: rest =>
    match g.commands.lookup word with
    | some below => below.isTopic rest
    | none => word == "help" && !g.commands.isEmpty && rest.isEmpty

/-- Reads the words of a level and the levels below. -/
def read (g : Grammar) (given : Given) : List String → Except Notice Words
  | [] => g.finish given
  | word :: rest =>
    if word = "--" then g.finish { given with operands := given.operands ++ rest }
    else if looksLikeOption word.toList then
      match g.readOptions given word.toList with
      | .error notice => .error notice
      | .ok (given, none) => g.read given rest
      | .ok (given, some o) =>
        match rest with
        | [] => .error .usage
        | path :: rest =>
          if looksLikeOption path.toList then .error .usage
          else
            match given.add o (some path) with
            | .error notice => .error notice
            | .ok given => g.read given rest
    else
      match g.commands.lookup word with
      | some below =>
        match below.read .nothing rest with
        | .error notice => .error notice
        | .ok words => .ok ⟨word :: words.path, given :: words.levels⟩
      | none =>
        if !g.commands.isEmpty && word == "help" then
          .error (if g.isTopic rest then .help else .usage)
        else if given.operands.length < g.operands then
          g.read { given with operands := given.operands ++ [word] } rest
        else .error .usage

end Grammar

end TextMasking.Command
