import SheetGrammar.Rule
import SheetGrammar.Selector

/-!
# Deriving columns in a document

A derive plan says, for each sheet, which rules run on its records.

## Main definitions

* `DerivePlan` — rules with distinct names and selectors of lists of names.
* `DerivePlan.deriveSheet`, `DerivePlan.derive` — the rules of each sheet at work.
-/

namespace SheetGrammar

/-- Which rules run on which sheets. -/
structure DerivePlan where
  selectors : List (SheetSelector (List String))
  rules : List Rule

namespace DerivePlan

/-- A plan without rules. -/
def empty : DerivePlan := ⟨[], []⟩

/-- The rule of a name. -/
def rule? (p : DerivePlan) (name : String) : Option Rule :=
  p.rules.find? fun r => r.name = name

/-- Adds a rule; its name must be new. -/
def addRule (p : DerivePlan) (r : Rule) : Except Error DerivePlan :=
  match p.rule? r.name with
  | some _ => .error (.configuration (.duplicateRule r.name))
  | none => .ok { p with rules := p.rules ++ [r] }

/-- Adds a selector. -/
def addSelector (p : DerivePlan) (s : SheetSelector (List String)) : DerivePlan :=
  { p with selectors := p.selectors ++ [s] }

/-- The names of the rules for a sheet. -/
def names? (p : DerivePlan) (s : SheetTree) : Option (List String) :=
  SheetSelector.select? p.selectors s.name s.index

/-- The rules of some names; names without a rule are skipped. -/
def rulesOf (p : DerivePlan) (names : List String) : List Rule := names.filterMap p.rule?

/-- Runs the rules of a sheet. A sheet that no selector matches stays as it is. -/
def deriveSheet (p : DerivePlan) (s : SheetTree) : Except Error SheetTree :=
  match p.names? s with
  | none => .ok s
  | some names =>
    match Record.deriveRows (p.rulesOf names) s.name s.rows with
    | (_, some e) => .error e
    | (rows, none) => .ok { s with rows := rows }

/-- Runs the rules of some sheets, up to the first failure. -/
def deriveSheets (p : DerivePlan) : List SheetTree → Except Error (List SheetTree)
  | [] => .ok []
  | s :: ss =>
    match p.deriveSheet s with
    | .error e => .error e
    | .ok t => (deriveSheets p ss).map (t :: ·)

/-- Runs the rules of all sheets of a document. -/
def derive (p : DerivePlan) (d : Document) : Except Error Document :=
  (p.deriveSheets d.sheets).map Document.mk

end DerivePlan

end SheetGrammar
