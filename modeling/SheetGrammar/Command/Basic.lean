import SheetGrammar.Command.Option
import SheetGrammar.Record.Format
import SheetGrammar.Sheet.Delimiter
import SheetGrammar.Word

/-!
# Commands

A command line asks for one of four commands, for help or for the version.

## Main definitions

* `SheetSource`, `Destination`, `Command` — the commands.
* `Request.ofWords` — what a command line asks for.
-/

namespace SheetGrammar

/-- Which sheets are read and how. -/
structure SheetSource where
  paths : List String
  delimiter : Option UInt8
  encoding : Option String
  deriving DecidableEq, Repr

/-- Where a document is written and how. -/
structure Destination where
  path : Option String
  format : Option DocumentFormat
  deriving DecidableEq, Repr

/-- A document that is read from a file. -/
structure DocumentSource where
  path : String
  format : Option DocumentFormat
  deriving DecidableEq, Repr

/-- A command. -/
inductive Command
  /-- Reads sheets by a grammar. -/
  | read (sheets : SheetSource) (grammar : String) (output : Destination)
  /-- Runs rules on a document. -/
  | derive (input : DocumentSource) (rules : String) (output : Destination)
  /-- Reads sheets and runs rules on the document at once. -/
  | run (sheets : SheetSource) (grammar rules : String) (output : Destination)
  /-- Shows a document as tables. -/
  | preview (input : DocumentSource) (maxDepth : Option Nat)
  deriving DecidableEq, Repr

namespace Command

/-! ### Options -/

/-- The values of all options of all commands. -/
structure Draft where
  inputs : List String
  delimiter : Option UInt8
  encoding : Option String
  config : String
  grammar : String
  rules : String
  output : Option String
  format : Option DocumentFormat
  inputFormat : Option DocumentFormat
  maxDepth : Option Nat

namespace Draft

/-- A draft without any option. -/
def blank : Draft := ⟨[], none, none, "", "", "", none, none, none, none⟩

/-- The first input. -/
def input (d : Draft) : String := d.inputs.headD ""

/-- The sheets to read. -/
def sheets (d : Draft) : SheetSource := ⟨d.inputs, d.delimiter, d.encoding⟩

/-- The document to read. -/
def document (d : Draft) : DocumentSource := ⟨d.input, d.inputFormat⟩

/-- Where to write the document. -/
def destination (d : Draft) : Destination := ⟨d.output, d.format⟩

end Draft

/-- A path, which is not empty. -/
def path? (value : String) : Option String := if value = "" then none else some value

/-- A natural number of 64 bits; a plus sign may stand before it. -/
def natural? (value : String) : Option Nat :=
  let ds := match value.toList with
    | '+' :: ds => ds
    | ds => ds
  if ds ≠ [] ∧ ds.all Char.isDigit ∧ digitsValue ds < wordSize 64 then some (digitsValue ds)
  else none

/-- The option for inputs. -/
def inputOption (repeatable : Bool) : CommandOption Draft :=
  ⟨"input", some 'i', repeatable, fun value d =>
    (path? value).map fun p => { d with inputs := d.inputs ++ [p] }⟩

/-- The options for sheets. -/
def sheetOptions : List (CommandOption Draft) :=
  [inputOption true,
   ⟨"delimiter", none, false, fun value d =>
     (parseDelimiter value).toOption.map fun b => { d with delimiter := some b }⟩,
   ⟨"input-encoding", none, false, fun value d => some { d with encoding := some value }⟩]

/-- The options for a document that is read. -/
def documentOptions : List (CommandOption Draft) :=
  [inputOption false,
   ⟨"input-format", none, false, fun value d =>
     (DocumentFormat.ofName? value).map fun f => { d with inputFormat := some f }⟩]

/-- The options for a document that is written. -/
def destinationOptions : List (CommandOption Draft) :=
  [⟨"output", some 'o', false, fun value d =>
     (path? value).map fun p => { d with output := some p }⟩,
   ⟨"format", none, false, fun value d =>
     (DocumentFormat.ofName? value).map fun f => { d with format := some f }⟩]

/-- The option for a configuration. -/
def configOption : CommandOption Draft :=
  ⟨"config", some 'c', false, fun value d =>
    (path? value).map fun p => { d with config := p }⟩

/-- The option for a grammar. -/
def grammarOption : CommandOption Draft :=
  ⟨"grammar", some 'g', false, fun value d =>
    (path? value).map fun p => { d with grammar := p }⟩

/-- The option for rules. -/
def rulesOption : CommandOption Draft :=
  ⟨"rules", some 'r', false, fun value d =>
    (path? value).map fun p => { d with rules := p }⟩

/-- The option for the depth of a preview. -/
def depthOption : CommandOption Draft :=
  ⟨"max-depth", none, false, fun value d =>
    (natural? value).map fun n => { d with maxDepth := some n }⟩

/-! ### Command lines -/

/-- The names of the commands. -/
def names : List String := ["read", "derive", "run", "preview", "help"]

/-- The command of a name with the words behind it. -/
def ofWords (name : String) (words : List String) : Except Stop Command :=
  let settings := fun options needed => Settings.read options needed Draft.blank words
  match name with
  | "read" =>
    (settings (sheetOptions ++ configOption :: destinationOptions) ["input", "config"]).map
      fun d => read d.sheets d.config d.destination
  | "derive" =>
    (settings (documentOptions ++ configOption :: destinationOptions) ["input", "config"]).map
      fun d => derive d.document d.config d.destination
  | "run" =>
    (settings (sheetOptions ++ grammarOption :: rulesOption :: destinationOptions)
        ["input", "grammar", "rules"]).map
      fun d => run d.sheets d.grammar d.rules d.destination
  | "preview" =>
    (settings (documentOptions ++ [depthOption]) ["input"]).map
      fun d => preview d.document d.maxDepth
  | name => .error (.refused (.unknownCommand name))

/-- The paths of the files that a command reads, in this order. -/
def inputPaths : Command → List String
  | read sheets grammar _ => grammar :: sheets.paths
  | derive input rules _ => [rules, input.path]
  | run sheets grammar rules _ => grammar :: rules :: sheets.paths
  | preview input _ => [input.path]

end Command

/-- What a command line asks for. -/
inductive Request
  | command (c : Command)
  | help
  | version
  deriving DecidableEq, Repr

namespace Request

/-- The end of reading a command line. -/
def ofStop : Stop → Except UsageError Request
  | .help => .ok help
  | .refused cause => .error cause

/-- Help on a command. -/
def helpOn : List String → Except UsageError Request
  | [] => .ok help
  | name :: rest =>
    if Command.names.contains name then
      match rest with
      | [] => .ok help
      | word :: _ => .error (.unknownCommand word)
    else .error (.unknownCommand name)

/-- What a command line asks for. -/
def ofWords : List String → Except UsageError Request
  | [] => .error .missingCommand
  | "help" :: words => helpOn words
  | "--help" :: _ => .ok help
  | "--version" :: _ => .ok version
  | name :: words =>
    match name.toList with
    | '-' :: 'h' :: _ => .ok help
    | '-' :: 'V' :: _ => .ok version
    | _ =>
      match Command.ofWords name words with
      | .ok c => .ok (command c)
      | .error stop => ofStop stop

end Request

end SheetGrammar
