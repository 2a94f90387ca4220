import SheetGrammar.Evaluator
import SheetGrammar.Record.Basic

/-!
# Rules that derive columns

A rule looks at a record and appends one column to it.  It applies to records whose
type matches its pattern and on which all its guards hold; the new value comes from
its evaluator.  Of several rules, each sees the columns of those before it.

## Main definitions

* `ColumnRef`, `Guard`, `Rule` — the parts of a rule.
* `Rule.applies`, `Rule.sourceValues`, `Rule.derive` — one rule on one record.
* `Record.deriveColumns` — several rules on one record.
* `Record.deriveTree` — several rules on a record and all records under it.
-/

namespace SheetGrammar

/-- Columns that are meant by an address or by a tag. -/
structure ColumnRef where
  col : String
  tag : String
  deriving DecidableEq, Repr, Inhabited

/-- The columns that are meant. -/
def ColumnRef.select (r : ColumnRef) (columns : List Column) : List Column :=
  columns.filter fun c => c.matches r.col r.tag

/-- A condition on the columns of a record. -/
structure Guard where
  source : ColumnRef
  pattern : Pattern
  deriving Repr

/-- Whether the string in some column that is meant matches. -/
def Guard.holds (g : Guard) (columns : List Column) : Bool :=
  ((g.source.select columns).filterMap fun c => c.value.text?).any g.pattern.isMatch

/-- A rule. -/
structure Rule where
  name : String
  /-- Which types of records the rule is about. -/
  rowType : Pattern
  guards : List Guard
  sources : List ColumnRef
  output : ColumnRef
  /-- The evaluator, once the rule has one. -/
  evaluator : Option Evaluator

namespace Rule

/-- The pattern that stands for all types of records. -/
def anyRowType : String := ".*"

/-- A rule with a name about some types of records; an empty pattern means all. -/
def ofName (name rowType : String) : Except Error Rule :=
  let text := if rowType = "" then anyRowType else rowType
  match Pattern.parse? text with
  | some p => .ok ⟨name, p, [], [], ⟨"", ""⟩, none⟩
  | none => .error (.invalidPattern text (.ruleRowType name))

/-- Adds a guard. -/
def withGuard (r : Rule) (col tag pattern : String) : Except Error Rule :=
  match Pattern.parse? pattern with
  | some p => .ok { r with guards := r.guards ++ [⟨⟨col, tag⟩, p⟩] }
  | none => .error (.invalidPattern pattern (.guardOf r.name))

/-- Adds columns whose values are used. -/
def withSource (r : Rule) (col tag : String) : Rule :=
  { r with sources := r.sources ++ [⟨col, tag⟩] }

/-- Sets the address and the tag of the new column. -/
def withOutput (r : Rule) (col tag : String) : Rule := { r with output := ⟨col, tag⟩ }

/-- Sets the evaluator. -/
def withEvaluator (r : Rule) (e : Evaluator) : Rule := { r with evaluator := some e }

/-- Whether the rule applies to a record. -/
def applies (r : Rule) (record : Record) : Bool :=
  r.rowType.isMatch record.name && r.guards.all fun g => g.holds record.columns

/-- The values of all columns that are meant, source by source. -/
def sourceValues (r : Rule) (columns : List Column) : List Value :=
  r.sources.flatMap fun s => (s.select columns).map Column.value

/-- The column that the rule makes of a record, or nothing if it does not apply. -/
def derive (r : Rule) (sheet : String) (record : Record) : Except Error (Option Column) :=
  if r.applies record then
    match r.evaluator with
    | none => .error (.unboundExpression r.name)
    | some eval =>
      match eval (r.sourceValues record.columns) with
      | .ok value => .ok (some ⟨r.output.col, r.output.tag, value⟩)
      | .error e => .error (.ruleFailed r.name record.name record.index sheet e)
  else .ok none

end Rule

namespace Record

/-- Appends a column. -/
def addColumn (r : Record) (c : Column) : Record := { r with columns := r.columns ++ [c] }

/-- Runs rules on a record, up to the first failure: the record with the columns
derived so far, and that failure. -/
def deriveColumns (sheet : String) (r : Record) : List Rule → Record × Option Error
  | [] => (r, none)
  | rule :: rules =>
    match rule.derive sheet r with
    | .error e => (r, some e)
    | .ok none => deriveColumns sheet r rules
    | .ok (some c) => deriveColumns sheet (r.addColumn c) rules

mutual

/-- Runs rules on the records under a record and then on the record itself, up to
the first failure. -/
def deriveTree (rules : List Rule) (sheet : String) : Record → Record × Option Error
  | ⟨name, index, columns, children⟩ =>
    match deriveGroups rules sheet children with
    | (children, some e) => (⟨name, index, columns, children⟩, some e)
    | (children, none) => deriveColumns sheet ⟨name, index, columns, children⟩ rules

/-- Runs rules on the records of some groups, up to the first failure. -/
def deriveGroups (rules : List Rule) (sheet : String) :
    List (Group Record) → List (Group Record) × Option Error
  | [] => ([], none)
  | ⟨name, rows⟩ :: groups =>
    match deriveRows rules sheet rows with
    | (rows, some e) => (⟨name, rows⟩ :: groups, some e)
    | (rows, none) =>
      match deriveGroups rules sheet groups with
      | (groups, failure) => (⟨name, rows⟩ :: groups, failure)

/-- Runs rules on some records and those under them, up to the first failure. -/
def deriveRows (rules : List Rule) (sheet : String) : List Record → List Record × Option Error
  | [] => ([], none)
  | r :: rs =>
    match deriveTree rules sheet r with
    | (r, some e) => (r :: rs, some e)
    | (r, none) =>
      match deriveRows rules sheet rs with
      | (rs, failure) => (r :: rs, failure)

end

end Record

end SheetGrammar
