import SheetGrammar.Json.Reader
import SheetGrammar.Structured
import SheetGrammar.Word

/-!
# JSON as a format of structured texts

## Main definitions

* `Json.value?` — the value of a cell that a JSON value means.
* the instance of `Structured`.
-/

namespace SheetGrammar.Json

/-- The value of a cell: an integer beyond those of a cell becomes a float. -/
def value? : Json → Option Value
  | integer n =>
    match Int64.ofInt? n with
    | some k => some (.integer k)
    | none => some (.float n.toNat.toUInt64.toFloat)
  | float x => some (.float x)
  | string s => some (.string s)
  | _ => none

/-- Structures are objects, or arrays of the fields in order. -/
instance : Structured Json where
  items?
    | array items closed => some ⟨items, closed⟩
    | _ => none
  entries?
    | object members closed => some ⟨members.map fun m => (some m.1, m.2), closed⟩
    | _ => none
  text?
    | string s => some s
    | _ => none
  natural?
    | integer n => if 0 ≤ n ∧ n < wordSize 64 then some n.toNat else none
    | _ => none
  value? := value?
  isSound := isSound
  positional := true

end SheetGrammar.Json
