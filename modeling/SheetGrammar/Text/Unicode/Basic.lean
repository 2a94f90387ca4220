import SheetGrammar.Text.CharSet

/-!
# Named sets of characters

Tables of the Unicode standard hold sets of characters, each under the names
that a pattern may use for it.

## Main definitions

* `NamedSet` — a set with its names.
* `NamedSet.find?` — the set of a name in a table.
-/

namespace SheetGrammar.Unicode

/-- A set of characters with its names, in lower case and without separators.
The members are written as hexadecimal ranges. -/
structure NamedSet where
  names : List String
  ranges : String
  deriving Repr

/-- The members of a named set. -/
def NamedSet.chars (s : NamedSet) : CharSet := .ofText s.ranges

/-- The set that a table holds under a name. -/
def NamedSet.find? (table : List NamedSet) (name : String) : Option CharSet :=
  (table.find? fun s => s.names.contains name).map NamedSet.chars

end SheetGrammar.Unicode
