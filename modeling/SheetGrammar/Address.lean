import SheetGrammar.Error
import SheetGrammar.Text.Blank
import SheetGrammar.Decimal.Text

/-!
# Column addresses

A column of a sheet is named either by letters, as spreadsheets do (`A`, `Z`,
`AA`, up to `XFD`), or by its position, counted from 1.  Both ways lead to the
same index, counted from 0.

## Main definitions

* `lettersPosition?` — the position that letters name, in bijective base 26.
* `columnIndex` — the index of a column address.
* `CellRef` — an address together with its index.
-/

namespace SheetGrammar

/-- The number of columns of the widest sheet; its last column is `XFD`. -/
def maxColumns : Nat := 16384

/-- Whether a character is a letter from `a` to `z` or from `A` to `Z`. -/
def isLetter (c : Char) : Bool := c.isUpper || c.isLower

/-- The value of a letter as a digit of bijective base 26, from 1 for `a` to 26
for `z`, in either case. -/
def letterValue (c : Char) : Nat :=
  if c.isUpper then c.toNat - 'A'.toNat + 1 else c.toNat - 'a'.toNat + 1

/-- The position that letters name, given that of the letters before them. It is
given up as soon as it lies beyond the last column. -/
def lettersPosition? : Nat → List Char → Option Nat
  | acc, [] => some acc
  | acc, c :: cs =>
    let next := acc * 26 + letterValue c
    if maxColumns < next then none else lettersPosition? next cs

/-- The position that an address without surrounding blanks names. -/
def addressPosition? (cs : List Char) : Option Nat :=
  if cs = [] then none
  else if cs.all Char.isDigit then some (digitsValue cs)
  else if cs.all isLetter then lettersPosition? 0 cs
  else none

/-- The index of the column that an address names. Blanks around the address do
not count; a failure shows the address as it was given. -/
def columnIndex (address : String) : Except Error Nat :=
  match addressPosition? (trimBlanks address.toList) with
  | some position =>
    if 1 ≤ position ∧ position ≤ maxColumns then .ok (position - 1)
    else .error (.invalidAddress address)
  | none => .error (.invalidAddress address)

/-- A column address, as it is shown, with the index of its column. -/
structure CellRef where
  address : String
  index : Nat
  deriving DecidableEq, Repr

namespace CellRef

/-- Reads a column address. -/
def parse (address : String) : Except Error CellRef :=
  (columnIndex address).map fun index => ⟨trim address, index⟩

/-- The cell of this column in a row, if the row is long enough. -/
def get? (r : CellRef) (cells : List String) : Option String := cells[r.index]?

end CellRef

end SheetGrammar
