import SheetGrammar.DerivePlan
import SheetGrammar.ReadPlan
import SheetGrammar.Sheet.Workbook

/-!
# What commands log

While a command runs it tells what it does, at several levels of detail.  Each stage
has its log beside its result; after a failure a stage logs nothing more.

## Main definitions

* `LogLevel`, `LogEntry` — the levels and the entries.
* `Workbook.readLog` — what loading sheets logs.
* `ReadPlan.classifyLog` — what classifying their rows logs.
* `DerivePlan.deriveLog` — what deriving columns logs.
-/

namespace SheetGrammar

/-- How detailed an entry is. -/
inductive LogLevel
  | warn
  | info
  | debug
  | trace
  deriving DecidableEq, Repr

namespace LogLevel

/-- The name shown for a level. -/
def name : LogLevel → String
  | warn => "WARN"
  | info => "INFO"
  | debug => "DEBUG"
  | trace => "TRACE"

/-- How far down a level is. -/
def rank : LogLevel → Nat
  | warn => 0
  | info => 1
  | debug => 2
  | trace => 3

/-- Whether entries of a level are shown when the log goes down to another one. -/
def isShownAt (level deepest : LogLevel) : Bool := level.rank ≤ deepest.rank

end LogLevel

/-- An entry of the log. -/
structure LogEntry where
  level : LogLevel
  message : String
  deriving DecidableEq, Repr

/-! ### Loading -/

/-- What loading files as sheets logs; `index` is that of the first. -/
def Workbook.readLogFrom (i : Inputs) (delimiter : Option UInt8) (e : Encoding) :
    (index : Nat) → List String → List LogEntry
  | _, [] => []
  | index, path :: paths =>
    match Workbook.readSheet i delimiter e index path with
    | .error _ => []
    | .ok s =>
      ⟨.debug, s!"Loaded sheet '{s.name}' with {s.rows.length} row(s)"⟩
        :: readLogFrom i delimiter e (index + 1) paths

/-- What loading a workbook logs. -/
def Workbook.readLog (i : Inputs) (paths : List String) (delimiter : Option UInt8)
    (e : Encoding) : List LogEntry :=
  if 1 < Workbook.dashCount paths then [] else readLogFrom i delimiter e 0 paths

/-! ### Classifying -/

namespace Classifier

/-- What feeding a row logs: every transition, and that the row was dropped. -/
def feedLog (c : Classifier) (cells : List String) : List LogEntry :=
  let fed := c.feed cells
  let row := s!"sheet '{c.sheet}' row {fed.classifier.rowsRead}"
  let steps := fed.steps.map fun (t, depth) =>
    LogEntry.mk .trace s!"{row}: {t.name} (depth {depth})"
  match fed.result with
  | .ok .dropped => steps ++ [⟨.debug, s!"{row} matched no active row type; dropped"⟩]
  | _ => steps

/-- What feeding rows logs, up to the first failure; at the end, how many rows were
dropped. -/
def feedAllLog (c : Classifier) : List (List String) → List LogEntry
  | [] =>
    if c.rowsDropped = 0 then []
    else [⟨.debug, s!"sheet '{c.sheet}': {c.rowsDropped} of {c.rowsRead} row(s) dropped"⟩]
  | cells :: rows =>
    let fed := c.feed cells
    c.feedLog cells ++ match fed.result with
      | .error _ => []
      | .ok _ => feedAllLog fed.classifier rows

end Classifier

namespace ReadPlan

/-- What reading a sheet from an entry type logs. -/
def entryLog (p : ReadPlan) (s : Sheet) (entry : String) : List LogEntry :=
  let rowsLog := match Classifier.ofEntry p.grammar entry s.name with
    | .error _ => []
    | .ok c => c.feedAllLog s.rows
  ⟨.debug, s!"Sheet '{s.name}' uses entry row type '{entry}'"⟩ :: rowsLog

/-- What reading a sheet logs. -/
def sheetLog (p : ReadPlan) (s : Sheet) : List LogEntry :=
  match p.entry? s, p.unmatched with
  | none, .skip => [⟨.warn, s!"No sheet selector matched '{s.name}'; skipping"⟩]
  | none, .fail => []
  | some entry, _ => p.entryLog s entry

/-- The entry for a sheet that was read. -/
def treeLog (s : Sheet) (tree : SheetTree) : LogEntry :=
  ⟨.info, s!"Sheet '{tree.name}': {tree.recordCount} record(s) from {s.rows.length} row(s)"⟩

/-- What classifying the rows of sheets logs, up to the first failure. -/
def classifyLog (p : ReadPlan) : List Sheet → List LogEntry
  | [] => []
  | s :: ss =>
    p.sheetLog s ++ match p.classifySheet s with
      | .error _ => []
      | .ok tree => tree.toList.map (treeLog s) ++ classifyLog p ss

end ReadPlan

/-! ### Deriving -/

namespace DerivePlan

/-- What deriving the columns of a sheet logs. -/
def sheetLog (p : DerivePlan) (s : SheetTree) : List LogEntry :=
  match p.names? s with
  | none => [⟨.debug, s!"No rule selector matched sheet '{s.name}'; passing through"⟩]
  | some names =>
    let missing := names.filter fun name => (p.rule? name).isNone
    let listed := ", ".intercalate names
    missing.map
        (fun name => ⟨.warn, s!"Sheet '{s.name}' names undefined rule '{name}'; skipping it"⟩)
      ++ [⟨.debug, s!"Sheet '{s.name}' applies rule(s) [{listed}]"⟩]

/-- What deriving the columns of sheets logs, up to the first failure. -/
def deriveLog (p : DerivePlan) : List SheetTree → List LogEntry
  | [] => []
  | s :: ss =>
    p.sheetLog s ++ match p.deriveSheet s with
      | .error _ => []
      | .ok _ => deriveLog p ss

end DerivePlan

end SheetGrammar
