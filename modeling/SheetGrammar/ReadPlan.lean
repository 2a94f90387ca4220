import SheetGrammar.Classifier
import SheetGrammar.Selector

/-!
# Reading a workbook

A read plan says, for each sheet, from which type of rows it is read.

## Main definitions

* `UnmatchedSheets` — what becomes of sheets that no selector picks.
* `ReadPlan` — selectors of entry types, a grammar and that policy.
* `ReadPlan.classifyWorkbook` — the document of some sheets.
-/

namespace SheetGrammar

/-- What becomes of a sheet that no selector picks. -/
inductive UnmatchedSheets
  /-- It is left out. -/
  | skip
  /-- It is a failure. -/
  | fail
  deriving DecidableEq, Repr, Inhabited

namespace UnmatchedSheets

/-- The name of a policy. -/
def name : UnmatchedSheets → String
  | skip => "skip"
  | fail => "fail"

/-- The policy of a name. -/
def ofName? (s : String) : Option UnmatchedSheets :=
  if s = "skip" then some skip else if s = "fail" then some fail else none

end UnmatchedSheets

/-- How a workbook is read. -/
structure ReadPlan where
  selectors : List (SheetSelector String)
  grammar : Grammar
  unmatched : UnmatchedSheets

namespace ReadPlan

/-- The entry type of a sheet. -/
def entry? (p : ReadPlan) (s : Sheet) : Option String :=
  SheetSelector.select? p.selectors s.name s.position

/-- The tree of a sheet, or nothing if the sheet is to be left out. -/
def classifySheet (p : ReadPlan) (s : Sheet) : Except Error (Option SheetTree) :=
  match p.entry? s with
  | none =>
    match p.unmatched with
    | .skip => .ok none
    | .fail => .error (.unmatchedSheet s.name s.position)
  | some entry =>
    (classify p.grammar entry s).map fun rows => some ⟨s.name, s.position, rows⟩

/-- The trees of some sheets, up to the first failure. -/
def classifySheets (p : ReadPlan) : List Sheet → Except Error (List SheetTree)
  | [] => .ok []
  | s :: ss =>
    match p.classifySheet s with
    | .error e => .error e
    | .ok tree =>
      match classifySheets p ss with
      | .error e => .error e
      | .ok trees => .ok (tree.toList ++ trees)

/-- The document of some sheets. -/
def classifyWorkbook (p : ReadPlan) (sheets : List Sheet) : Except Error Document :=
  (p.classifySheets sheets).map Document.mk

end ReadPlan

end SheetGrammar
