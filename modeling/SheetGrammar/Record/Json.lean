import SheetGrammar.Json.Printer
import SheetGrammar.Json.Structured
import SheetGrammar.Record.Reader

/-!
# Documents as JSON

## Main definitions

* `Document.toJson`, `Document.jsonText` — writing a document.
* `Document.ofJsonText` — reading one.
-/

namespace SheetGrammar

/-- A value of a cell. -/
def Value.toJson : Value → Json
  | .string s => .string s
  | .integer n => .integer n.toInt
  | .float x => .float x

/-- A column. -/
def Column.toJson (c : Column) : Json :=
  .object [("col", .string c.col), ("tag", .string c.tag), ("value", c.value.toJson)] true

namespace Record

mutual

/-- A record. -/
def toJson : Record → Json
  | ⟨name, index, columns, children⟩ =>
    .object
      [("name", .string name), ("index", .integer index),
       ("columns", .array (columns.map Column.toJson) true),
       ("children", .array (groupsToJson children) true)] true

/-- Some groups. -/
def groupsToJson : List (Group Record) → List Json
  | [] => []
  | ⟨name, rows⟩ :: groups =>
    .object [("name", .string name), ("rows", .array (rowsToJson rows) true)] true
      :: groupsToJson groups

/-- Some records. -/
def rowsToJson : List Record → List Json
  | [] => []
  | r :: rs => toJson r :: rowsToJson rs

end

end Record

/-- A sheet. -/
def SheetTree.toJson (s : SheetTree) : Json :=
  .object
    [("name", .string s.name), ("index", .integer s.index),
     ("rows", .array (Record.rowsToJson s.rows) true)] true

namespace Document

/-- A document. -/
def toJson (d : Document) : Json :=
  .object [("sheets", .array (d.sheets.map SheetTree.toJson) true)] true

/-- The JSON text of a document. -/
def jsonText (d : Document) : String := d.toJson.pretty

end Document

/-! ### Reading -/

namespace Json

/-- How many lists and mappings a reader may enter, one within the other; the text
itself holds fewer. -/
def readerDepth : Nat := maxDepth + 1

/-- Reads a text that holds one value and nothing else. -/
def readText {β : Type} (read : Nat → Json → Structured.Reading β) (text : String) :
    Structured.Reading β :=
  let (value, complete) := ofText text
  match read readerDepth value with
  | .error e => .error e
  | .ok b => if complete then .ok b else .error .malformed

end Json

/-- Reads a document. -/
def Document.ofJsonText (text : String) : Structured.Reading Document :=
  Json.readText Document.read text

end SheetGrammar
