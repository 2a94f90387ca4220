import SheetGrammar.Word

/-!
# YAML values

The values that YAML texts mean once plain scalars are resolved.

## Main definitions

* `Yaml` — the values.
* `Yaml.untagged` — a value without the tags around it.
* `Yaml.text?`, `Yaml.natural?` — the string or the natural number of 64 bits that a value is.
-/

namespace SheetGrammar

/-- A YAML value. -/
inductive Yaml
  | null
  | bool (b : Bool)
  /-- An integer of 64 bits, with or without sign. -/
  | integer (n : Int)
  | float (x : Float)
  | string (s : String)
  | sequence (items : List Yaml)
  /-- The entries in order, with distinct keys. -/
  | mapping (entries : List (Yaml × Yaml))
  /-- A value under a tag of the text's own. -/
  | tagged (tag : String) (value : Yaml)
  deriving Repr, Inhabited

namespace Yaml

/-- A value without the tags around it. -/
def untagged : Yaml → Yaml
  | tagged _ value => untagged value
  | value => value

/-- The string that a value is, if it is one. -/
def text? (y : Yaml) : Option String :=
  match y.untagged with
  | string s => some s
  | _ => none

/-- The natural number of 64 bits that a value is, if it is one. -/
def natural? (y : Yaml) : Option Nat :=
  match y.untagged with
  | integer n => if 0 ≤ n ∧ n < wordSize 64 then some n.toNat else none
  | _ => none

end Yaml

end SheetGrammar
