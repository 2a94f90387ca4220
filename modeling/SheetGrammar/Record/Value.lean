import SheetGrammar.Decimal.Text
import SheetGrammar.Text.Blank
import SheetGrammar.Word

/-!
# Cell values

A cell holds a string, an integer of 64 bits or a float.  A datatype says how the
text of a cell is read as a value.

## Main definitions

* `Value` — the values, with `Value.typeName` and `Value.display`.
* `Datatype`, `Datatype.read?` — the reading of a cell's text.
* `Value.agrees` — equality as numbers compare: what is no number differs from itself.
-/

namespace SheetGrammar

/-- The value of a cell. -/
inductive Value
  | string (s : String)
  | integer (n : Int64)
  | float (x : Float)
  deriving DecidableEq, Repr, Inhabited

namespace Value

/-- The name of a value's type. -/
def typeName : Value → String
  | string _ => "string"
  | integer _ => "integer"
  | float _ => "float"

/-- The string that a value is, if it is one. -/
def text? : Value → Option String
  | string s => some s
  | _ => none

end Value

/-- A float as it is shown: digits and a point alone, without a point for a
whole number; the larger of two equally near decimals is taken. -/
def showFloat (x : Float) : String :=
  match FloatParts.ofFloat? x with
  | some p => String.ofList (Decimal.shortest .up p).plain
  | none =>
    if x == Decimal.infinity then "inf" else if x == -Decimal.infinity then "-inf" else "NaN"

namespace Value

/-- A value as it is shown. -/
def display : Value → String
  | string s => s
  | integer n => toString n.toInt
  | float x => showFloat x

/-- Whether two values are equal as their types compare them. -/
def agrees : Value → Value → Bool
  | string s, string t => s = t
  | integer m, integer n => m = n
  | float x, float y => x == y
  | _, _ => false

end Value

/-- The integers that a cell can hold. -/
def Int64.ofInt? (n : Int) : Option Int64 :=
  if -wordSize 63 ≤ n ∧ n < wordSize 63 then some (Int64.ofInt n) else none

/-- Reads an integer: an optional sign and at least one digit. -/
def readInteger? (cs : List Char) : Option Int :=
  let (negative, ds) := Decimal.takeSign cs
  if ds ≠ [] ∧ ds.all Char.isDigit then
    some (if negative then -(digitsValue ds : Int) else digitsValue ds)
  else none

/-- How the text of a cell is read. -/
inductive Datatype
  /-- The text is the value. -/
  | string
  /-- The text without blanks around it is an integer of 64 bits. -/
  | integer
  /-- The text without blanks around it is a finite float. -/
  | float
  deriving DecidableEq, Repr, Inhabited

namespace Datatype

/-- The name of a datatype. -/
def name : Datatype → String
  | string => "string"
  | integer => "integer"
  | float => "float"

/-- The datatype of a name. -/
def ofName? (s : String) : Option Datatype :=
  if s = "string" then some string
  else if s = "integer" then some integer
  else if s = "float" then some float
  else none

/-- Reads the text of a cell as a value of the datatype. -/
def read? (raw : String) : Datatype → Option Value
  | string => some (.string raw)
  | integer => ((readInteger? (trimBlanks raw.toList)).bind Int64.ofInt?).map .integer
  | float =>
    ((readFloat? (trimBlanks raw.toList)).filter fun x => x.isFinite).map .float

end Datatype

end SheetGrammar
