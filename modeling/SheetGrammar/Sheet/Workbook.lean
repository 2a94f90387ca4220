import SheetGrammar.Inputs
import SheetGrammar.Sheet.Csv
import SheetGrammar.Sheet.Delimiter

/-!
# Workbooks of files

Each file is one sheet, named after the file.  Standard input may be one of them.

## Main definitions

* `Inputs.readRows` — a file as rows of cells.
* `Workbook.read` — the sheets of some files.
-/

namespace SheetGrammar

namespace Inputs

/-- A file as rows of cells. -/
def readRows (i : Inputs) (path : String) (delimiter : UInt8) (e : Encoding) :
    Except Failure (List (List String)) :=
  match i.open? path with
  | .error f => .error f
  | .ok (.file bytes) => Csv.readRows delimiter e bytes
  | .ok _ => .error ⟨["Reading row 1"], .system⟩

end Inputs

/-! ### Sheets -/

/-- The name of the sheet that is read from a path, with its index. -/
def Sheet.nameOf (path : String) (index : Nat) : String :=
  if Path.isDash path then s!"stdin{index + 1}"
  else (Path.stem? path).getD s!"sheet{index + 1}"

namespace Workbook

/-- Reads a file as a sheet. -/
def readSheet (i : Inputs) (delimiter : Option UInt8) (e : Encoding) (index : Nat)
    (path : String) : Except Failure Sheet :=
  match i.readRows path (delimiterFor path delimiter) e with
  | .error f => .error (f.within s!"Reading sheet rows from {quotedPath path}")
  | .ok rows => .ok ⟨Sheet.nameOf path index, index, rows⟩

/-- Reads files as sheets; `index` is that of the first. -/
def readSheets (i : Inputs) (delimiter : Option UInt8) (e : Encoding) :
    (index : Nat) → List String → Except Failure (List Sheet)
  | _, [] => .ok []
  | index, path :: paths =>
    match readSheet i delimiter e index path with
    | .error f => .error f
    | .ok s => (readSheets i delimiter e (index + 1) paths).map (s :: ·)

/-- How many of some paths stand for standard input. -/
def dashCount (paths : List String) : Nat := (paths.filter Path.isDash).length

/-- The sheets of some files. Standard input may be among them once. -/
def read (i : Inputs) (paths : List String) (delimiter : Option UInt8) (e : Encoding) :
    Except Failure (List Sheet) :=
  if 1 < dashCount paths then .error (.ofCause (.repeatedStdin (dashCount paths)))
  else readSheets i delimiter e 0 paths

/-- The encoding of a label in a table; UTF-8 without one. -/
def encodingOf (table : List Encoding) : Option String → Except Failure Encoding
  | none => .ok .utf8
  | some label =>
    match Encoding.ofLabel? table label with
    | some e => .ok e
    | none => .error (.ofCause (.unknownEncoding label))

end Workbook

end SheetGrammar
