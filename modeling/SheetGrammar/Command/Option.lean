/-!
# Options of a command line

The words behind the name of a command are options with values: a long name after
two dashes or a letter after one.  The value follows in the same word or is the next
word.  Words are taken from left to right, so that the first fault counts.

## Main definitions

* `UsageError` — why a command line is refused.
* `CommandOption`, `Settings` — the options of a command and what was set by them.
* `Settings.read` — reading the words of a command line.
-/

namespace SheetGrammar

/-- Why a command line is refused. -/
inductive UsageError
  | missingCommand
  | unknownCommand (name : String)
  | unknownOption (word : String)
  /-- A word that is neither an option nor the value of one. -/
  | unexpectedWord (word : String)
  | missingValue (option : String)
  | invalidValue (option value : String)
  /-- An option that stands for itself has a value. -/
  | needlessValue (option : String)
  | repeatedOption (option : String)
  | missingOption (option : String)
  deriving DecidableEq, Repr

/-- The text shown for a refused command line. -/
def UsageError.message : UsageError → String
  | missingCommand => "a command is missing"
  | unknownCommand name => s!"unknown command '{name}'"
  | unknownOption word => s!"unknown option '{word}'"
  | unexpectedWord word => s!"unexpected word '{word}'"
  | missingValue option => s!"option '--{option}' needs a value"
  | invalidValue option value => s!"invalid value '{value}' for option '--{option}'"
  | needlessValue option => s!"option '--{option}' takes no value"
  | repeatedOption option => s!"option '--{option}' is given more than once"
  | missingOption option => s!"option '--{option}' is missing"

/-- Why reading a command line stops. -/
inductive Stop
  /-- Help is wanted. -/
  | help
  | refused (cause : UsageError)
  deriving DecidableEq, Repr

/-- An option: its names, whether it may be given several times, and how its value
is set in `σ`, which fails if the value is not valid. -/
structure CommandOption (σ : Type) where
  name : String
  letter : Option Char
  repeatable : Bool
  set : String → σ → Option σ

/-- What was set by options, and the names of these. -/
structure Settings (σ : Type) where
  values : σ
  given : List String

namespace Settings

variable {σ : Type}

/-- Sets the value of an option. -/
def add (s : Settings σ) (o : CommandOption σ) (value : String) : Except Stop (Settings σ) :=
  if !o.repeatable && s.given.contains o.name then .error (.refused (.repeatedOption o.name))
  else match o.set value s.values with
    | some values => .ok ⟨values, o.name :: s.given⟩
    | none => .error (.refused (.invalidValue o.name value))

/-- What a word of a command line says. -/
inductive Word (σ : Type)
  /-- An option, with its value if the word holds it. -/
  | option (o : CommandOption σ) (value : Option String)
  /-- No option follows any more. -/
  | terminator
  | stop (s : Stop)

/-- A word with a long name. -/
def readLong (options : List (CommandOption σ)) (word : String) (rest : List Char) : Word σ :=
  let name := String.ofList (rest.takeWhile (· ≠ '='))
  let value := match rest.dropWhile (· ≠ '=') with
    | [] => none
    | _ :: value => some (String.ofList value)
  match options.find? fun o => o.name = name with
  | some o => .option o value
  | none =>
    if name ≠ "help" then .stop (.refused (.unknownOption word))
    else if value.isSome then .stop (.refused (.needlessValue name))
    else .stop .help

/-- A word with a letter. -/
def readShort (options : List (CommandOption σ)) (word : String) (letter : Char)
    (rest : List Char) : Word σ :=
  match options.find? fun o => o.letter = some letter with
  | some o =>
    match rest with
    | [] => .option o none
    | '=' :: value => .option o (some (String.ofList value))
    | value => .option o (some (String.ofList value))
  | none => .stop (if letter = 'h' then .help else .refused (.unknownOption word))

/-- What a word says where an option may stand. -/
def readWord (options : List (CommandOption σ)) (word : String) : Word σ :=
  match word.toList with
  | ['-', '-'] => .terminator
  | '-' :: '-' :: rest => readLong options word rest
  | '-' :: letter :: rest => readShort options word letter rest
  | _ => .stop (.refused (.unexpectedWord word))

/-- Whether a word can be the value of the option before it: it does not look like an
option. -/
def isValue (word : String) : Bool :=
  match word.toList with
  | '-' :: _ :: _ => false
  | _ => true

/-- Reads the words of a command line. -/
def readWords (options : List (CommandOption σ)) :
    Settings σ → List String → Except Stop (Settings σ)
  | s, [] => .ok s
  | s, word :: words =>
    match readWord options word with
    | .stop stop => .error stop
    | .terminator =>
      match words with
      | [] => .ok s
      | word :: _ => .error (.refused (.unexpectedWord word))
    | .option o (some value) =>
      match s.add o value with
      | .error e => .error e
      | .ok s => readWords options s words
    | .option o none =>
      match words with
      | [] => .error (.refused (.missingValue o.name))
      | value :: words =>
        if isValue value then
          match s.add o value with
          | .error e => .error e
          | .ok s => readWords options s words
        else .error (.refused (.missingValue o.name))

/-- Reads the words of a command line; some options have to be given. -/
def read (options : List (CommandOption σ)) (needed : List String) (start : σ)
    (words : List String) : Except Stop σ :=
  match readWords options ⟨start, []⟩ words with
  | .error e => .error e
  | .ok s =>
    match needed.find? fun name => !s.given.contains name with
    | some name => .error (.refused (.missingOption name))
    | none => .ok s.values

end Settings

end SheetGrammar
