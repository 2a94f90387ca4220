import SheetGrammar.Config.Entry
import SheetGrammar.ReadPlan

/-!
# Read configurations

A read configuration lists types of rows and says from which type each sheet is
read.  Building it checks everything that does not depend on the sheets.

## Main definitions

* `RowTypeEntry`, `ReadSheetEntry`, `ReadConfig` — configurations as they are written.
* `ReadConfig.ofText` — reading one.
* `ReadConfig.build` — the plan that it means.
-/

namespace SheetGrammar

open Structured (Reading readText readList)

/-! ### Entries -/

/-- A condition on the cell of a column. -/
structure CellConditionEntry where
  col : String
  pattern : String
  deriving DecidableEq, Repr

/-- Reads a condition on a cell. -/
def CellConditionEntry.read : Yaml.Node → Reading CellConditionEntry :=
  Entry.read
    [Entry.slot "col" [] readText fun c col => { c with col := col },
     Entry.slot "pattern" [] readText fun c pattern => { c with pattern := pattern }]
    ["col"] ⟨"", ""⟩

/-- A cell to keep. -/
structure CellEntry where
  col : String
  tag : String
  datatype : Datatype
  deriving DecidableEq, Repr

/-- Reads a cell to keep. -/
def CellEntry.read : Yaml.Node → Reading CellEntry :=
  Entry.read
    [Entry.slot "col" [] readText fun c col => { c with col := col },
     Entry.slot "tag" [] readText fun c tag => { c with tag := tag },
     Entry.slot "datatype" [] (Yaml.Node.readVariant Datatype.ofName?)
       fun c datatype => { c with datatype := datatype }]
    ["col"] ⟨"", "", .string⟩

/-- A type of rows. -/
structure RowTypeEntry where
  name : String
  conditions : List CellConditionEntry
  cells : List CellEntry
  children : List String
  deriving DecidableEq, Repr

/-- Reads a type of rows. -/
def RowTypeEntry.read : Yaml.Node → Reading RowTypeEntry :=
  Entry.read
    [Entry.slot "name" [] readText fun t name => { t with name := name },
     Entry.slot "when" [] (readList CellConditionEntry.read)
       fun t conditions => { t with conditions := conditions },
     Entry.slot "cells" ["cell"] (readList CellEntry.read) fun t cells => { t with cells := cells },
     Entry.slot "children" [] Entry.readNames fun t children => { t with children := children }]
    ["name"] ⟨"", [], [], []⟩

/-- Which sheets are read from which type of rows. -/
structure ReadSheetEntry where
  conditions : List ConditionEntry
  row : String
  deriving DecidableEq, Repr

/-- Reads a sheet entry. -/
def ReadSheetEntry.read : Yaml.Node → Reading ReadSheetEntry :=
  Entry.read
    [Entry.slot "when" [] (readList ConditionEntry.read)
       fun s conditions => { s with conditions := conditions },
     Entry.slot "row" ["entry"] readText fun s row => { s with row := row }]
    ["row"] ⟨[], ""⟩

/-- A read configuration. -/
structure ReadConfig where
  unmatchedSheets : UnmatchedSheets
  sheets : List ReadSheetEntry
  rows : List RowTypeEntry
  deriving DecidableEq, Repr

namespace ReadConfig

/-- Reads a configuration. -/
def read : Yaml.Node → Reading ReadConfig :=
  Entry.read
    [Entry.slot "unmatched_sheets" [] (Yaml.Node.readVariant UnmatchedSheets.ofName?)
       fun c unmatched => { c with unmatchedSheets := unmatched },
     Entry.slot "sheets" ["sheet"] (readList ReadSheetEntry.read)
       fun c sheets => { c with sheets := sheets },
     Entry.slot "rows" ["row"] (readList RowTypeEntry.read) fun c rows => { c with rows := rows }]
    [] ⟨.skip, [], []⟩

/-- Reads the text of a configuration. -/
def ofText (text : String) : Reading ReadConfig := Yaml.readText (fun _ => read) text

end ReadConfig

/-! ### Plans -/

/-- The type of rows that is meant. -/
def RowTypeEntry.compile (t : RowTypeEntry) : Except Error RowType :=
  if trim t.name = "" then .error (.configuration .unnamedRowType)
  else
    (t.conditions.foldlM (fun (type : RowType) c => type.withCondition c.col c.pattern)
        ((RowType.ofName (trim t.name)).withChildren t.children)).bind fun type =>
      t.cells.foldlM (fun (type : RowType) c => type.withCell c.col c.tag c.datatype) type

/-- The selector that is meant; its target is a type of the grammar. -/
def ReadSheetEntry.compile (g : Grammar) (s : ReadSheetEntry) :
    Except Error (SheetSelector String) :=
  if g.defines (trim s.row) then
    (s.conditions.mapM ConditionEntry.compile).map fun conditions => ⟨conditions, trim s.row⟩
  else .error (.configuration (.undefinedEntry (trim s.row)))

namespace ReadConfig

/-- The grammar of the types of rows, all children of which are defined. -/
def grammar (c : ReadConfig) : Except Error Grammar :=
  match c.rows.mapM RowTypeEntry.compile with
  | .error e => .error e
  | .ok types =>
    match Grammar.ofTypes types with
    | .error e => .error e
    | .ok g => g.validate.map fun _ => g

/-- The plan that a configuration means. -/
def build (c : ReadConfig) : Except Error ReadPlan :=
  match c.grammar with
  | .error e => .error e
  | .ok g =>
    if c.sheets = [] then .error (.configuration .noSheetSelectors)
    else (c.sheets.mapM (ReadSheetEntry.compile g)).map fun selectors =>
      ⟨selectors, g, c.unmatchedSheets⟩

end ReadConfig

end SheetGrammar
