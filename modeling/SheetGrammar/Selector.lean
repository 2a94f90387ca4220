import SheetGrammar.Error
import SheetGrammar.Pattern

/-!
# Selecting sheets

A selector carries conditions on the name and the position of a sheet and a
target.  The first selector whose conditions all hold decides.

## Main definitions

* `SheetCondition`, `SheetSelector` — conditions and selectors.
* `SheetSelector.select?` — the target for a sheet.
-/

namespace SheetGrammar

/-- A condition on a sheet. -/
inductive SheetCondition
  /-- The pattern matches somewhere in the name. -/
  | name (pattern : Pattern)
  /-- The position, counted from 1, lies between two bounds, both included. -/
  | range (low high : Nat)
  deriving Repr

namespace SheetCondition

/-- A condition on the name, read from the text of a pattern. -/
def ofName (pattern : String) : Except Error SheetCondition :=
  match Pattern.parse? pattern with
  | some p => .ok (name p)
  | none => .error (.invalidPattern pattern .selector)

/-- Whether the condition holds of a sheet. -/
def holds (sheet : String) (position : Nat) : SheetCondition → Bool
  | name p => p.isMatch sheet
  | range low high => low ≤ position && position ≤ high

end SheetCondition

/-- Conditions on sheets and what they select. -/
structure SheetSelector (α : Type) where
  conditions : List SheetCondition
  target : α
  deriving Repr

namespace SheetSelector

variable {α : Type}

/-- Whether all conditions hold of a sheet; without conditions they do. -/
def «matches» (s : SheetSelector α) (sheet : String) (position : Nat) : Bool :=
  s.conditions.all fun c => c.holds sheet position

/-- The target of the first selector that matches. -/
def select? (selectors : List (SheetSelector α)) (sheet : String) (position : Nat) : Option α :=
  (selectors.find? fun s => s.matches sheet position).map target

end SheetSelector

end SheetGrammar
