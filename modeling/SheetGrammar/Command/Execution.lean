import SheetGrammar.Command.Basic
import SheetGrammar.Command.Log
import SheetGrammar.Config.Derive
import SheetGrammar.Config.Read
import SheetGrammar.Preview

/-!
# Running commands

A command goes through stages: it loads its configurations, loads its input, works on
it, and writes the result as the last thing it does.  The first stage that fails ends
it.  Each stage logs what it does.

## Main definitions

* `Stage` — a result, or a failure, with what was logged on the way.
* `loadReadPlan`, `loadDerivePlan`, `loadSheets`, `loadDocument` — loading.
* `Command.readSheets`, `Command.deriveSource`, `Command.runSheets` — commands whose plans and
  sheets are loaded.
* `Command.result` — what a command makes of its inputs.
* `Command.execute` — the whole command, and what can be seen of it.
-/

namespace SheetGrammar

/-- A part of a command: what it logs, and its result or why it failed. -/
structure Stage (α : Type) where
  log : List LogEntry
  result : Except Failure α

namespace Stage

variable {α β : Type}

/-- A stage that logs nothing. -/
def ofResult (result : Except Failure α) : Stage α := ⟨[], result⟩

/-- One stage after another, unless the first one fails. -/
def andThen (s : Stage α) (next : α → Stage β) : Stage β :=
  match s.result with
  | .error f => ⟨s.log, .error f⟩
  | .ok a => ⟨s.log ++ (next a).log, (next a).result⟩

instance : Monad Stage where
  pure a := ⟨[], .ok a⟩
  bind := andThen

/-- A stage that logs an entry at level `info`. -/
def tell (message : String) : Stage Unit := ⟨[⟨.info, message⟩], .ok ()⟩

end Stage

/-! ### Loading -/

/-- The inputs that are left when one of them has been read: standard input is read
only once. -/
def Inputs.after (i : Inputs) (path : String) : Inputs :=
  if Path.isDash path then { i with stdin := [] } else i

/-- Makes a plan of the text of a file. -/
def buildFrom {γ π : Type} (i : Inputs) (path reading building : String)
    (read : String → Except ParseError γ) (build : γ → Except Error π) : Except Failure π :=
  match i.readText path with
  | .error f => .error f
  | .ok text =>
    match read text with
    | .error e => .error ⟨[s!"{reading} {quotedPath path}"], .parse e⟩
    | .ok config =>
      (build config).mapError fun e => ⟨[s!"{building} {quotedPath path}"], .plan e⟩

/-- Loads a read plan. -/
def loadReadPlan (i : Inputs) (path : String) : Stage ReadPlan := do
  let p ← Stage.ofResult (buildFrom i path "Parsing read configuration"
    "Compiling grammar from" ReadConfig.ofText ReadConfig.build)
  let shown := quotedPath path
  Stage.tell
    s!"Grammar {shown}: {p.grammar.size} row type(s), {p.selectors.length} sheet selector(s)"
  return p

/-- Loads a derive plan, whose rules use the evaluators of this library. -/
def loadDerivePlan (i : Inputs) (path : String) : Stage DerivePlan := do
  let p ← Stage.ofResult (buildFrom i path "Parsing derive configuration"
    "Compiling derivation rules from" DeriveConfig.ofText fun c => c.build .builtins)
  let shown := quotedPath path
  Stage.tell s!"Rules {shown}: {p.rules.length} rule(s), {p.selectors.length} sheet selector(s)"
  return p

/-- Loads sheets, whose encoding is one of a table. -/
def loadSheets (table : List Encoding) (i : Inputs) (s : SheetSource) : Stage (List Sheet) := do
  let e ← Stage.ofResult (Workbook.encodingOf table s.encoding)
  match s.delimiter with
  | some d =>
    let shown := showDelimiter d
    Stage.tell s!"Reading {s.paths.length} sheet(s) with delimiter '{shown}'"
  | none => pure ()
  ⟨Workbook.readLog i s.paths s.delimiter e, Workbook.read i s.paths s.delimiter e⟩

/-- Loads a document. -/
def loadDocument (i : Inputs) (s : DocumentSource) : Stage Document :=
  Stage.ofResult
    ((i.readDocument s.path (.resolve (some s.path) s.format)).mapError fun f =>
      f.within s!"Loading tree document {quotedPath s.path}")

/-! ### Working -/

/-- Classifies the rows of sheets. -/
def classifySheets (p : ReadPlan) (sheets : List Sheet) : Stage Document :=
  ⟨p.classifyLog sheets,
   (p.classifyWorkbook sheets).mapError fun e => ⟨["Classifying sheet rows"], .plan e⟩⟩

/-- Derives the columns of a document. -/
def deriveDocument (p : DerivePlan) (d : Document) : Stage Document :=
  ⟨p.deriveLog d.sheets,
   (p.derive d).mapError fun e => ⟨["Applying derivation rules"], .plan e⟩⟩

/-! ### Results -/

/-- What a command delivers: a text, where it goes, and what is logged then. -/
structure Delivery where
  /-- The file to write; standard output if there is none. -/
  path : Option String
  text : String
  message : String
  deriving DecidableEq, Repr

/-- Delivers a document. -/
def Destination.deliver (o : Destination) (d : Document) : Delivery :=
  let format := DocumentFormat.resolve o.path o.format
  let count := d.sheets.length
  match o.path.filter fun p => !Path.isDash p with
  | some p =>
    ⟨some p, d.text format, s!"Wrote {count} sheet(s) to {quotedPath p} as {format.title}"⟩
  | none => ⟨none, d.text format, s!"Wrote {count} sheet(s) to stdout"⟩

namespace Command

/-- Classifies sheets and delivers their document. -/
def readSheets (p : ReadPlan) (sheets : List Sheet) (output : Destination) : Stage Delivery := do
  let d ← classifySheets p sheets
  return output.deliver d

/-- Loads a document, derives its columns and delivers it. -/
def deriveSource (q : DerivePlan) (i : Inputs) (input : DocumentSource) (output : Destination) :
    Stage Delivery := do
  let d ← loadDocument i input
  let d ← deriveDocument q d
  return output.deliver d

/-- Classifies sheets, derives the columns of their document and delivers it. -/
def runSheets (p : ReadPlan) (q : DerivePlan) (sheets : List Sheet) (output : Destination) :
    Stage Delivery := do
  let d ← classifySheets p sheets
  let d ← deriveDocument q d
  return output.deliver d

/-- What a command makes of its inputs, with a table of encodings. -/
def result (table : List Encoding) (i : Inputs) : Command → Stage Delivery
  | read sheets grammar output => do
    let p ← loadReadPlan i grammar
    let ss ← loadSheets table (i.after grammar) sheets
    readSheets p ss output
  | derive input rules output => do
    let q ← loadDerivePlan i rules
    deriveSource q (i.after rules) input output
  | run sheets grammar rules output => do
    let p ← loadReadPlan i grammar
    let q ← loadDerivePlan (i.after grammar) rules
    let ss ← loadSheets table ((i.after grammar).after rules) sheets
    runSheets p q ss output
  | preview input maxDepth => do
    let d ← loadDocument i input
    let shown := quotedPath input.path
    return ⟨none, d.preview maxDepth, s!"Displayed {d.sheets.length} sheet(s) from {shown}"⟩

end Command

/-- What can be seen of a command that has run. -/
structure Outcome where
  /-- The text on standard output. -/
  stdout : String
  /-- The file that was written, and its text. -/
  written : Option (String × String)
  failure : Option Failure
  log : List LogEntry

/-- The exit code: one for a failure. -/
def Outcome.exitCode (o : Outcome) : Nat := if o.failure.isSome then 1 else 0

/-- Writes a delivery; only some files can be created. -/
def Delivery.write (d : Delivery) (canCreate : String → Bool) (log : List LogEntry) : Outcome :=
  let done := log ++ [⟨.info, d.message⟩]
  match d.path with
  | none => ⟨d.text, none, none, done⟩
  | some p =>
    if canCreate p then ⟨"", some (p, d.text), none, done⟩
    else ⟨"", none, some ⟨[s!"Creating output file {quotedPath p}"], .system⟩, log⟩

/-- Runs a command with a table of encodings, where only some files can be created. -/
def Command.execute (table : List Encoding) (c : Command) (i : Inputs)
    (canCreate : String → Bool) : Outcome :=
  let stage := c.result table i
  match stage.result with
  | .error f => ⟨"", none, some f, stage.log⟩
  | .ok d => d.write canCreate stage.log

/-! ### Other requests -/

/-- The exit code for a command line that is refused. -/
def usageExitCode : Nat := 2

/-- The version of the program. -/
def versionText (program : String) : String := program ++ " 0.1.0\n"

end SheetGrammar
