/-!
# Sheets

A sheet is a list of rows of cells; rows may differ in length.  A cell that is
empty and has only empty cells after it counts as absent.

## Main definitions

* `Sheet`, `Sheet.position` — a sheet and its position, counted from 1.
* `Sheet.dropEmptyEnd` — a row without the empty cells at its end.
-/

namespace SheetGrammar

/-- A sheet: its name, its index in the workbook counted from 0, and its rows. -/
structure Sheet where
  name : String
  index : Nat
  rows : List (List String)
  deriving DecidableEq, Repr

namespace Sheet

/-- The position of a sheet in its workbook, counted from 1. -/
def position (s : Sheet) : Nat := s.index + 1

/-- A row without the empty cells at its end. -/
def dropEmptyEnd : List String → List String
  | [] => []
  | cell :: cells =>
    match dropEmptyEnd cells with
    | [] => if cell = "" then [] else [cell]
    | rest => cell :: rest

end Sheet

end SheetGrammar
