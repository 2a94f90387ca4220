import SheetGrammar.Record.Value

/-!
# Record trees

Classifying the rows of a sheet gives a tree: records with columns, under which
further records stand in groups, one group for each type of row.

## Main definitions

* `Column`, `Record`, `Group`, `SheetTree`, `Document` — the parts of the tree.
* `Column.matches` — whether a column is meant by an address or a tag.
* `Record.walk` — the records of a tree, each before those under it.
* `SheetTree.recordCount` — the number of records of a sheet.
-/

namespace SheetGrammar

/-- A named value of a record: the address of its cell, a tag, and the value. -/
structure Column where
  col : String
  tag : String
  value : Value
  deriving DecidableEq, Repr, Inhabited

/-- Whether a column is meant by an address or by a tag. An empty address or tag
means no column. -/
def Column.matches (c : Column) (col tag : String) : Bool :=
  (col ≠ "" && c.col = col) || (tag ≠ "" && c.tag = tag)

/-- Rows of one type under a record. -/
structure Group (α : Type) where
  name : String
  rows : List α
  deriving Repr

/-- A record: the type of its row, its number among its siblings, its columns,
and the groups of records under it. -/
structure Record where
  name : String
  index : Nat
  columns : List Column
  children : List (Group Record)
  deriving Inhabited

/-- The records under one record that have the same type. -/
abbrev ChildGroup := Group Record

/-- The records of a sheet, with the sheet's name and its position counted from 1. -/
structure SheetTree where
  name : String
  index : Nat
  rows : List Record
  deriving Inhabited

/-- The records of some sheets. -/
structure Document where
  sheets : List SheetTree
  deriving Inhabited

namespace Record

/-- The first group under a record that has a name. -/
def child? (r : Record) (name : String) : Option ChildGroup :=
  r.children.find? fun g => g.name = name

/-- The first column that has a tag. -/
def columnByTag? (r : Record) (tag : String) : Option Column :=
  r.columns.find? fun c => c.tag = tag

/-! ### Walking and counting -/

mutual

/-- The records of a tree: a record, then those of its groups in order. -/
def walk : Record → List Record
  | ⟨name, index, columns, children⟩ =>
    ⟨name, index, columns, children⟩ :: walkGroups children

/-- The records of some groups in order. -/
def walkGroups : List (Group Record) → List Record
  | [] => []
  | ⟨_, rows⟩ :: groups => walkRows rows ++ walkGroups groups

/-- The records of some trees in order. -/
def walkRows : List Record → List Record
  | [] => []
  | r :: rs => walk r ++ walkRows rs

end

mutual

/-- How many records a tree has. -/
def count : Record → Nat
  | ⟨_, _, _, children⟩ => 1 + countGroups children

/-- How many records some groups have. -/
def countGroups : List (Group Record) → Nat
  | [] => 0
  | ⟨_, rows⟩ :: groups => countRows rows + countGroups groups

/-- How many records some trees have. -/
def countRows : List Record → Nat
  | [] => 0
  | r :: rs => count r + countRows rs

end

mutual

/-- Whether two trees are equal up to what their values agree on. -/
def agrees : Record → Record → Bool
  | ⟨n, i, cs, gs⟩, ⟨n', i', cs', gs'⟩ =>
    n = n' && i = i' && columnsAgree cs cs' && groupsAgree gs gs'

/-- Whether groups are equal in this sense. -/
def groupsAgree : List (Group Record) → List (Group Record) → Bool
  | [], [] => true
  | ⟨n, rs⟩ :: gs, ⟨n', rs'⟩ :: gs' => n = n' && rowsAgree rs rs' && groupsAgree gs gs'
  | _, _ => false

/-- Whether lists of records are equal in this sense. -/
def rowsAgree : List Record → List Record → Bool
  | [], [] => true
  | r :: rs, r' :: rs' => agrees r r' && rowsAgree rs rs'
  | _, _ => false

/-- Whether columns are equal in this sense. -/
def columnsAgree : List Column → List Column → Bool
  | [], [] => true
  | c :: cs, c' :: cs' =>
    c.col = c'.col && c.tag = c'.tag && c.value.agrees c'.value && columnsAgree cs cs'
  | _, _ => false

end

end Record

/-- How many records a sheet has, those under others included. -/
def SheetTree.recordCount (s : SheetTree) : Nat := Record.countRows s.rows

/-- Whether two sheets are equal up to what their values agree on. -/
def SheetTree.agrees (s t : SheetTree) : Bool :=
  s.name = t.name && s.index = t.index && Record.rowsAgree s.rows t.rows

/-- Whether two documents are equal up to what their values agree on. -/
def Document.agrees (d e : Document) : Bool :=
  d.sheets.length = e.sheets.length && (d.sheets.zip e.sheets).all fun p => p.1.agrees p.2

/-! ### Small lemmas -/

namespace Record

mutual

theorem length_walk : ∀ r : Record, r.walk.length = r.count
  | ⟨_, _, _, children⟩ => by
    simp only [walk, count, List.length_cons, length_walkGroups children]
    omega

theorem length_walkGroups : ∀ gs : List (Group Record), (walkGroups gs).length = countGroups gs
  | [] => rfl
  | ⟨_, rows⟩ :: gs => by
    simp only [walkGroups, countGroups, List.length_append, length_walkRows rows,
      length_walkGroups gs]

theorem length_walkRows : ∀ rs : List Record, (walkRows rs).length = countRows rs
  | [] => rfl
  | r :: rs => by
    simp only [walkRows, countRows, List.length_append, length_walk r, length_walkRows rs]

end

@[simp] theorem walkRows_append (rs ss : List Record) :
    walkRows (rs ++ ss) = walkRows rs ++ walkRows ss := by
  induction rs with
  | nil => rfl
  | cons r rs ih => simp [walkRows, ih]

@[simp] theorem walkGroups_append (gs hs : List (Group Record)) :
    walkGroups (gs ++ hs) = walkGroups gs ++ walkGroups hs := by
  induction gs with
  | nil => rfl
  | cons g gs ih => obtain ⟨n, rows⟩ := g; simp [walkGroups, ih]

end Record

end SheetGrammar
