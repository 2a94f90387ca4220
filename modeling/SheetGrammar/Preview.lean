import SheetGrammar.Record.Basic
import SheetGrammar.Text.Blank

/-!
# Previews

A preview shows the records of a sheet in a table, one record on each line, with
the records under another one indented below it.

## Main definitions

* `Preview.Cell`, `Preview.tableLine`, `Preview.table` — tables of aligned cells.
* `Preview.recordLines` — the cells of a record and of those under it.
* `SheetTree.preview`, `Document.preview` — the text that is shown.
-/

namespace SheetGrammar

namespace Preview

/-! ### Tables -/

/-- A cell of a table. -/
abbrev Cell := List Char

/-- A cell as it is shown: what would break the line becomes a blank. -/
def flatten (c : Cell) : Cell :=
  c.map fun ch => if ch = '\n' ∨ ch = '\r' ∨ ch = '\t' then ' ' else ch

/-- A cell filled up with blanks to a width. -/
def fill (width : Nat) (c : Cell) : Cell := c ++ List.replicate (width - c.length) ' '

/-- A line of the table, without the blanks at its end. -/
def tableLine (widths : List Nat) (cells : List Cell) : List Char :=
  dropBlanksEnd
    ([' ', ' '].intercalate (List.zipWith (fun c w => fill w (flatten c)) cells widths))

/-- The widths of the columns, in characters; no row has fewer cells than the heads. -/
def columnWidths (heads : List Cell) (rows : List (List Cell)) : List Nat :=
  rows.foldl (fun widths row => List.zipWith (fun w c => max w c.length) widths row)
    (heads.map List.length)

/-- The width of the dashes below a head. -/
def dashWidth (width : Nat) : Nat := max width 3

/-- The lines of a table: the heads, dashes and the rows. -/
def table (heads : List Cell) (rows : List (List Cell)) : List (List Char) :=
  let widths := columnWidths heads rows
  let dashes := widths.map dashWidth
  tableLine widths heads
    :: tableLine dashes (dashes.map fun w => List.replicate w '-')
    :: rows.map (tableLine widths)

/-! ### Records -/

/-- A column with its address, its tag or both. -/
def describe (c : Column) : List Char :=
  let name := if c.tag = "" then c.col.toList else c.col.toList ++ '[' :: c.tag.toList ++ [']']
  name ++ '=' :: c.value.display.toList

/-- The cells of a record at a depth. -/
def cellsOf (depth : Nat) (name : String) (index : Nat) (columns : List Column) : List Cell :=
  [List.replicate (2 * depth) ' ' ++ name.toList, (toString index).toList,
   [' ', ' '].intercalate (columns.map describe)]

/-- Whether records at a depth are the deepest to be shown. -/
def isLast (limit : Option Nat) (depth : Nat) : Bool := limit.any fun deepest => deepest ≤ depth

mutual

/-- The cells of a record and of those under it, up to a depth. -/
def recordLines (limit : Option Nat) (depth : Nat) : Record → List (List Cell)
  | ⟨name, index, columns, children⟩ =>
    cellsOf depth name index columns
      :: if isLast limit depth then [] else groupLines limit (depth + 1) children

/-- The cells of the records of some groups. -/
def groupLines (limit : Option Nat) (depth : Nat) : List (Group Record) → List (List Cell)
  | [] => []
  | ⟨_, rows⟩ :: groups => rowLines limit depth rows ++ groupLines limit depth groups

/-- The cells of some records. -/
def rowLines (limit : Option Nat) (depth : Nat) : List Record → List (List Cell)
  | [] => []
  | r :: rs => recordLines limit depth r ++ rowLines limit depth rs

end

/-- The heads of the table. -/
def heads : List Cell := ["record".toList, "#".toList, "columns".toList]

/-- The line above the table. -/
def title (s : SheetTree) : List Char :=
  '#' :: ' ' :: s.name.toList ++ " (sheet ".toList ++ (toString s.index).toList ++ [')']

end Preview

/-- The lines of a sheet, down to a depth. -/
def SheetTree.previewLines (s : SheetTree) (limit : Option Nat) : List (List Char) :=
  Preview.title s :: Preview.table Preview.heads (Preview.rowLines limit 0 s.rows)

/-- The text shown for a sheet, down to a depth. -/
def SheetTree.preview (s : SheetTree) (limit : Option Nat) : String :=
  String.ofList ((s.previewLines limit).flatMap fun line => line ++ ['\n'])

/-- The text shown for a document, down to a depth, with empty lines between sheets. -/
def Document.preview (d : Document) (limit : Option Nat) : String :=
  "\n".intercalate (d.sheets.map fun s => s.preview limit)

end SheetGrammar
