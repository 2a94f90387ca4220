import SheetGrammar.Record.Reader
import SheetGrammar.Yaml.Printer
import SheetGrammar.Yaml.Structured

/-!
# Documents as YAML

## Main definitions

* `Document.toYaml`, `Document.yamlText` — writing a document.
* `Document.ofYamlText` — reading one.
-/

namespace SheetGrammar

/-- A mapping with names as keys. -/
def Yaml.ofFields (fields : List (String × Yaml)) : Yaml :=
  .mapping (fields.map fun f => (.string f.1, f.2))

/-- A value of a cell. -/
def Value.toYaml : Value → Yaml
  | .string s => .string s
  | .integer n => .integer n.toInt
  | .float x => .float x

/-- A column. -/
def Column.toYaml (c : Column) : Yaml :=
  .ofFields [("col", .string c.col), ("tag", .string c.tag), ("value", c.value.toYaml)]

namespace Record

mutual

/-- A record. -/
def toYaml : Record → Yaml
  | ⟨name, index, columns, children⟩ =>
    .ofFields
      [("name", .string name), ("index", .integer index),
       ("columns", .sequence (columns.map Column.toYaml)),
       ("children", .sequence (groupsToYaml children))]

/-- Some groups. -/
def groupsToYaml : List (Group Record) → List Yaml
  | [] => []
  | ⟨name, rows⟩ :: groups =>
    .ofFields [("name", .string name), ("rows", .sequence (rowsToYaml rows))]
      :: groupsToYaml groups

/-- Some records. -/
def rowsToYaml : List Record → List Yaml
  | [] => []
  | r :: rs => toYaml r :: rowsToYaml rs

end

end Record

/-- A sheet. -/
def SheetTree.toYaml (s : SheetTree) : Yaml :=
  .ofFields
    [("name", .string s.name), ("index", .integer s.index),
     ("rows", .sequence (Record.rowsToYaml s.rows))]

namespace Document

/-- A document. -/
def toYaml (d : Document) : Yaml :=
  .ofFields [("sheets", .sequence (d.sheets.map SheetTree.toYaml))]

/-- The YAML text of a document. -/
def yamlText (d : Document) : String := d.toYaml.render

/-- Reads a document. -/
def ofYamlText (text : String) : Structured.Reading Document := Yaml.readText Document.read text

end Document

end SheetGrammar
