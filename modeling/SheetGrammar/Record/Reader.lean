import SheetGrammar.Record.Basic
import SheetGrammar.Structured

/-!
# Reading documents

A document is read from a structured text.  The depth given to a reader bounds how
many lists and mappings may be nested in what it reads.

## Main definitions

* `Column.read`, `Record.read`, `SheetTree.read`, `Document.read` — the readers.
-/

namespace SheetGrammar

open Structured

variable {α : Type} [Structured α]

/-! ### Columns -/

/-- A column that is being read. -/
structure PartialColumn where
  col? : Option String
  tag? : Option String
  value? : Option Value

namespace PartialColumn

/-- The fields of a column. -/
def fields : List (Field α PartialColumn) :=
  [field "col" [] readText col? fun c s => { c with col? := some s },
   field "tag" [] readText tag? fun c s => { c with tag? := some s },
   field "value" [] readValue value? fun c v => { c with value? := some v }]

/-- The column, if its address and value were read. -/
def finish (c : PartialColumn) : Reading Column :=
  match required "col" c.col?, required "value" c.value? with
  | .ok col, .ok value => .ok ⟨col, c.tag?.getD "", value⟩
  | .error e, _ => .error e
  | _, .error e => .error e

end PartialColumn

/-- Reads a column. -/
def Column.read : Nat → α → Reading Column
  | 0, _ => .error .malformed
  | _ + 1, part =>
    readStruct false PartialColumn.fields ⟨none, none, none⟩ PartialColumn.finish part

/-- Reads a list of columns. -/
def Column.readMany : Nat → α → Reading (List Column)
  | 0, _ => .error .malformed
  | depth + 1, part => readList (Column.read depth) part

/-! ### Records -/

/-- A record that is being read. -/
structure PartialRecord where
  name? : Option String
  index? : Option Nat
  columns? : Option (List Column)
  children? : Option (List (Group Record))

namespace PartialRecord

/-- The fields of a record. -/
def fields (readColumns : α → Reading (List Column))
    (readChildren : α → Reading (List (Group Record))) : List (Field α PartialRecord) :=
  [field "name" [] readText name? fun r s => { r with name? := some s },
   field "index" [] readNatural index? fun r n => { r with index? := some n },
   field "columns" ["cols"] readColumns columns? fun r cs => { r with columns? := some cs },
   field "children" [] readChildren children? fun r gs => { r with children? := some gs }]

/-- The record, if its name and index were read. -/
def finish (r : PartialRecord) : Reading Record :=
  match required "name" r.name?, required "index" r.index? with
  | .ok name, .ok index => .ok ⟨name, index, r.columns?.getD [], r.children?.getD []⟩
  | .error e, _ => .error e
  | _, .error e => .error e

end PartialRecord

/-- A named list of records that is being read, in a group or in a sheet. -/
structure PartialRows where
  name? : Option String
  index? : Option Nat
  rows? : Option (List Record)

namespace PartialRows

/-- The fields of a group. -/
def groupFields (readRows : α → Reading (List Record)) : List (Field α PartialRows) :=
  [field "name" [] readText name? fun g s => { g with name? := some s },
   field "rows" [] readRows rows? fun g rs => { g with rows? := some rs }]

/-- The group, if its name was read. -/
def finishGroup (g : PartialRows) : Reading (Group Record) :=
  (required "name" g.name?).map fun name => ⟨name, g.rows?.getD []⟩

/-- The fields of a sheet. -/
def sheetFields (readRows : α → Reading (List Record)) : List (Field α PartialRows) :=
  [field "name" [] readText name? fun g s => { g with name? := some s },
   field "index" [] readNatural index? fun g n => { g with index? := some n },
   field "rows" [] readRows rows? fun g rs => { g with rows? := some rs }]

/-- The sheet, if its name and position were read. -/
def finishSheet (g : PartialRows) : Reading SheetTree :=
  match required "name" g.name?, required "index" g.index? with
  | .ok name, .ok index => .ok ⟨name, index, g.rows?.getD []⟩
  | .error e, _ => .error e
  | _, .error e => .error e

end PartialRows

namespace Record

mutual

/-- Reads a record. -/
def read : Nat → α → Reading Record
  | 0, _ => .error .malformed
  | depth + 1, part =>
    readStruct false (PartialRecord.fields (Column.readMany depth) (readGroups depth))
      ⟨none, none, none, none⟩ PartialRecord.finish part

/-- Reads a list of groups. -/
def readGroups : Nat → α → Reading (List (Group Record))
  | 0, _ => .error .malformed
  | depth + 1, part => readList (readGroup depth) part

/-- Reads a group. -/
def readGroup : Nat → α → Reading (Group Record)
  | 0, _ => .error .malformed
  | depth + 1, part =>
    readStruct false (PartialRows.groupFields (readRows depth)) ⟨none, none, none⟩
      PartialRows.finishGroup part

/-- Reads a list of records. -/
def readRows : Nat → α → Reading (List Record)
  | 0, _ => .error .malformed
  | depth + 1, part => readList (read depth) part

end

end Record

/-! ### Sheets and documents -/

/-- Reads a sheet. -/
def SheetTree.read : Nat → α → Reading SheetTree
  | 0, _ => .error .malformed
  | depth + 1, part =>
    readStruct false (PartialRows.sheetFields (Record.readRows depth)) ⟨none, none, none⟩
      PartialRows.finishSheet part

/-- Reads a list of sheets. -/
def SheetTree.readMany : Nat → α → Reading (List SheetTree)
  | 0, _ => .error .malformed
  | depth + 1, part => readList (SheetTree.read depth) part

/-- Reads a document. -/
def Document.read : Nat → α → Reading Document
  | 0, _ => .error .malformed
  | depth + 1, part =>
    readStruct false
      [field "sheets" [] (SheetTree.readMany depth) id fun _ sheets => some sheets] none
      (fun sheets? => (required "sheets" sheets?).map Document.mk) part

end SheetGrammar
