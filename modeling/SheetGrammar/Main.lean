import SheetGrammar.Command.Execution

/-!
# The program

Reads what a command needs, runs it, and writes what it delivers.
-/

namespace SheetGrammar

/-- What a path leads to. -/
def contentAt (path : String) : IO Content := do
  try
    return .file (← IO.FS.readBinFile path).toList
  catch e =>
    match e with
    | .inappropriateType .. => return .directory
    | _ => return .missing

/-- All bytes of standard input. -/
partial def standardInput : IO (List UInt8) := do
  let input ← IO.getStdin
  let rec readFrom (bytes : ByteArray) : IO ByteArray := do
    let more ← input.read 65536
    if more.isEmpty then return bytes else readFrom (bytes ++ more)
  return (← readFrom .empty).toList

/-- The inputs behind some paths. -/
def gatherInputs (paths : List String) : IO Inputs := do
  let files := paths.filter fun path => !Path.isDash path
  let contents ← files.mapM fun path => do return (path, ← contentAt path)
  let stdin ← if paths.any Path.isDash then standardInput else pure []
  return ⟨fun path => (contents.lookup path).getD .missing, stdin⟩

/-- Writes a file, if it can be created. -/
def tryWrite (path text : String) : IO Bool := do
  try
    IO.FS.writeFile path text
    return true
  catch _ => return false

/-- Runs a command and writes its file. -/
def runCommand (c : Command) : IO Outcome := do
  let inputs ← gatherInputs c.inputPaths
  let outcome := c.execute Encoding.all inputs fun _ => true
  match outcome.written with
  | none => return outcome
  | some (path, text) =>
    if ← tryWrite path text then return outcome
    else return c.execute Encoding.all inputs fun _ => false

/-- How the program is used. The library that reads command lines would write this page itself;
it is written by hand here, and no command depends on it. -/
def helpText : String :=
  "\n".intercalate
    ["Classifies the rows of sheets into trees of records and derives columns.",
     "",
     "  read -i FILE... -c GRAMMAR      reads sheets by a grammar",
     "  derive -i DOCUMENT -c RULES     runs rules on a document",
     "  run -i FILE... -g GRAMMAR -r RULES",
     "                                  reads sheets and runs rules",
     "  preview -i DOCUMENT             shows a document as tables",
     "",
     "Sheets: --delimiter D, --input-encoding LABEL.",
     "Documents: --input-format json|yaml, -o FILE, --format json|yaml, --max-depth N.",
     ""]

/-- Shows what can be seen of a command. -/
def showOutcome (o : Outcome) : IO Unit := do
  for entry in o.log do
    if entry.level.isShownAt .info then
      IO.eprintln s!"[{entry.level.name}] {entry.message}"
  IO.print o.stdout
  match o.failure with
  | some f => IO.eprintln s!"error: {f.text}"
  | none => pure ()

end SheetGrammar

open SheetGrammar in
/-- Runs the command that the words of the command line ask for. -/
def main (words : List String) : IO UInt32 := do
  match Request.ofWords words with
  | .error e =>
    IO.eprintln s!"error: {e.message}"
    return usageExitCode.toUInt32
  | .ok .help =>
    IO.print helpText
    return 0
  | .ok .version =>
    let name := (← IO.appPath).fileName
    IO.print (versionText (name.getD ""))
    return 0
  | .ok (.command c) =>
    let outcome ← runCommand c
    showOutcome outcome
    return outcome.exitCode.toUInt32
