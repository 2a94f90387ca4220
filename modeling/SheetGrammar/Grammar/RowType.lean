import SheetGrammar.Address
import SheetGrammar.Pattern
import SheetGrammar.Record.Basic

/-!
# Types of rows

A type of row says which rows belong to it, which cells of them are kept, and
which types of rows may follow under them.

## Main definitions

* `MatchCondition`, `Extraction`, `RowType` — the parts of a type.
* `RowType.matches` — whether a row belongs to the type.
* `RowType.extract` — the columns that the type keeps of a row.
-/

namespace SheetGrammar

/-- A condition on a row: the cell of a column matches a pattern. -/
structure MatchCondition where
  cell : CellRef
  pattern : Pattern
  deriving Repr

/-- Whether a row satisfies the condition. The empty pattern holds of every row;
any other fails where the row ends before the column. -/
def MatchCondition.holds (c : MatchCondition) (cells : List String) : Bool :=
  c.pattern.text = "" || (c.cell.get? cells).any c.pattern.isMatch

/-- A cell that is kept, under a tag, as a value of a datatype. -/
structure Extraction where
  cell : CellRef
  tag : String
  datatype : Datatype
  deriving Repr

/-- A type of rows. -/
structure RowType where
  name : String
  conditions : List MatchCondition
  extractions : List Extraction
  /-- The names of the types that may follow under a row of this type. -/
  children : List String
  deriving Repr

namespace RowType

/-- A type with a name alone, which every row belongs to. -/
def ofName (name : String) : RowType := ⟨name, [], [], []⟩

/-- Adds a condition. The pattern is looked at before the address. -/
def withCondition (t : RowType) (address pattern : String) : Except Error RowType :=
  match Pattern.parse? pattern with
  | none => .error (.invalidPattern pattern (.rowType t.name))
  | some p =>
    (CellRef.parse address).map fun cell => { t with conditions := t.conditions ++ [⟨cell, p⟩] }

/-- Adds a cell to keep. -/
def withCell (t : RowType) (address tag : String) (datatype : Datatype) : Except Error RowType :=
  (CellRef.parse address).map fun cell =>
    { t with extractions := t.extractions ++ [⟨cell, tag, datatype⟩] }

/-- Adds types that may follow. -/
def withChildren (t : RowType) (children : List String) : RowType :=
  { t with children := t.children ++ children }

/-- Whether a row belongs to the type: all conditions hold. -/
def «matches» (t : RowType) (cells : List String) : Bool :=
  t.conditions.all fun c => c.holds cells

/-- The column that a cell to keep gives, if the row reaches as far. -/
def extractCell (t : RowType) (cells : List String) (sheet : String) (e : Extraction) :
    Except Error (Option Column) :=
  match e.cell.get? cells with
  | none => .ok none
  | some raw =>
    match e.datatype.read? raw with
    | some value => .ok (some ⟨e.cell.address, e.tag, value⟩)
    | none => .error (.extraction t.name e.cell.address raw e.datatype.name sheet)

/-- The columns of the cells to keep, in order; those beyond the end of the row
are left out. -/
def extractAll (t : RowType) (cells : List String) (sheet : String) :
    List Extraction → Except Error (List Column)
  | [] => .ok []
  | e :: es =>
    match t.extractCell cells sheet e with
    | .error err => .error err
    | .ok column =>
      match extractAll t cells sheet es with
      | .error err => .error err
      | .ok columns => .ok (column.toList ++ columns)

/-- The columns that the type keeps of a row. -/
def extract (t : RowType) (cells : List String) (sheet : String) : Except Error (List Column) :=
  t.extractAll cells sheet t.extractions

end RowType

end SheetGrammar
