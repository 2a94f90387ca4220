import SheetGrammar.NameList
import SheetGrammar.Selector
import SheetGrammar.Yaml.Structured

/-!
# Entries of configurations

A configuration is a tree of entries with named fields.  A field that an entry does
not have is an error, and so is a field that occurs twice, under whichever of its
names.

## Main definitions

* `Entry.Filling`, `Entry.slot`, `Entry.read` — reading an entry field by field.
* `Entry.readNames` — a list of names, written as a list or as one text.
* `ConditionEntry`, `ConditionEntry.compile` — a condition on a sheet.
-/

namespace SheetGrammar

namespace Entry

open Structured (Reading Field readStruct)

/-- An entry of which some fields were read; the others have their defaults. -/
structure Filling (σ : Type) where
  entry : σ
  /-- The names of the fields that were read. -/
  filled : List String

variable {σ β : Type}

/-- A field whose value goes into the entry by `set`. -/
def slot (name : String) (aliases : List String) (read : Yaml.Node → Reading β)
    (set : σ → β → σ) : Field Yaml.Node (Filling σ) :=
  { name := name, aliases := aliases, isRead := fun s => s.filled.contains name,
    read := fun part s => (read part).map fun b => ⟨set s.entry b, name :: s.filled⟩ }

/-- The entry, once the fields that it must have were read. -/
def finish (needed : List String) (s : Filling σ) : Reading σ :=
  match needed.find? fun name => !s.filled.contains name with
  | some name => .error (.missingField name)
  | none => .ok s.entry

/-- Reads an entry; `start` has the defaults. -/
def read (fields : List (Field Yaml.Node (Filling σ))) (needed : List String) (start : σ) :
    Yaml.Node → Reading σ :=
  readStruct true fields ⟨start, []⟩ (finish needed)

/-- A name in a list of names: what means a string and is not tagged otherwise. -/
def name? (n : Yaml.Node) : Option String := n.value?.bind Value.text?

/-- The items of a list that is not tagged otherwise. -/
def untaggedItems? : Yaml.Node → Option (List Yaml.Node)
  | .sequence tag items true => if (Yaml.localTag? tag).isNone then some items else none
  | _ => none

/-- Reads some names: a list of them, or one text with commas between them. -/
def readNames (n : Yaml.Node) : Reading (List String) :=
  let names := match untaggedItems? n with
    | some items => (items.mapM name?).map NameList.join
    | none => name? n
  Structured.orFail (names.map NameList.parse)

end Entry

/-! ### Conditions on sheets -/

/-- A condition on a sheet as it is written: a pattern for the name, or bounds for
the position. -/
structure ConditionEntry where
  name : Option String
  low : Option Nat
  high : Option Nat
  deriving DecidableEq, Repr

namespace ConditionEntry

/-- Reads a condition. -/
def read : Yaml.Node → Structured.Reading ConditionEntry :=
  Entry.read
    [Entry.slot "name" ["pattern"] (Yaml.Node.readOptional Structured.readText)
       fun c name => { c with name := name },
     Entry.slot "low" [] (Yaml.Node.readOptional Structured.readNatural)
       fun c low => { c with low := low },
     Entry.slot "high" [] (Yaml.Node.readOptional Structured.readNatural)
       fun c high => { c with high := high }]
    [] ⟨none, none, none⟩

/-- The condition that is meant. Without an upper bound the lower one is the only
position. -/
def compile : ConditionEntry → Except Error SheetCondition
  | ⟨some pattern, none, none⟩ => SheetCondition.ofName pattern
  | ⟨none, some low, high⟩ =>
    if low = 0 ∨ high.getD low < low then
      .error (.configuration (.emptyRange low (high.getD low)))
    else .ok (.range low (high.getD low))
  | _ => .error (.configuration .unclearCondition)

end ConditionEntry

end SheetGrammar
