import SheetGrammar.Yaml.Basic
import SheetGrammar.Yaml.Style

/-!
# Writing YAML texts

Collections are written in block style.  The items of a sequence stand in the column
of the key that it belongs to; empty collections stand in brackets.

## Main definitions

* `Yaml.floatText` — a float.
* `Yaml.write` — a value behind a colon or a dash.
* `Yaml.render` — the text of a value.
-/

namespace SheetGrammar.Yaml

/-- A float. -/
def floatText (x : Float) : List Char :=
  match FloatParts.ofFloat? x with
  | some p => (Decimal.shortest .toEven p).compact .bare
  | none =>
    if x == Decimal.infinity then ".inf".toList
    else if x == -Decimal.infinity then "-.inf".toList
    else ".nan".toList

/-- Some blanks. -/
def pad (n : Nat) : List Char := List.replicate n ' '

/-- A key; keys are scalars on one line. -/
def keyText : Yaml → List Char
  | .bool b => (toString b).toList
  | .integer n => (toString n).toList
  | .float x => floatText x
  | .string s => (writeString 0 s).dropLast
  | _ => "null".toList

mutual

/-- A value behind the dash of an item or the colon of an entry, which stand in a
column, with the end of its last line. -/
def write (column : Nat) (dash : Bool) : Yaml → List Char
  | .null => " null\n".toList
  | .bool b => ' ' :: ((toString b).toList ++ ['\n'])
  | .integer n => ' ' :: ((toString n).toList ++ ['\n'])
  | .float x => ' ' :: (floatText x ++ ['\n'])
  | .string s => ' ' :: writeString (column + 2) s
  | .sequence [] => " []\n".toList
  | .sequence items =>
    if dash then writeItems [' '] (column + 2) items
    else writeItems ('\n' :: pad column) column items
  | .mapping [] => " \x7b\x7d\n".toList
  | .mapping entries =>
    writeEntries (if dash then [' '] else '\n' :: pad (column + 2)) (column + 2) entries
  | .tagged tag y => ' ' :: '!' :: (tag.toList ++ write column dash y)

/-- Items in a column, each with its dash; `lead` stands in front of the first. -/
def writeItems (lead : List Char) (column : Nat) : List Yaml → List Char
  | [] => []
  | y :: ys => lead ++ '-' :: (write column true y ++ writeItems (pad column) column ys)

/-- Entries in a column; `lead` stands in front of the first. -/
def writeEntries (lead : List Char) (column : Nat) : List (Yaml × Yaml) → List Char
  | [] => []
  | (k, v) :: es =>
    lead ++ keyText k ++ ':' :: (write column false v ++ writeEntries (pad column) column es)

end

mutual

/-- Whether the last block in a value leaves its end open, given the same of what comes
before it. -/
def opens (before : Bool) : Yaml → Bool
  | .string s => if styleOf s.toList = .literal then leavesOpen s else before
  | .sequence items => opensItems before items
  | .mapping entries => opensEntries before entries
  | .tagged _ y => opens before y
  | _ => before

/-- The same of items. -/
def opensItems (before : Bool) : List Yaml → Bool
  | [] => before
  | y :: ys => opensItems (opens before y) ys

/-- The same of entries. -/
def opensEntries (before : Bool) : List (Yaml × Yaml) → Bool
  | [] => before
  | (k, v) :: es => opensEntries (opens (opens before k) v) es

end

/-- A value at the top of a text. -/
def writeTop : Yaml → List Char
  | .sequence (y :: ys) => writeItems [] 0 (y :: ys)
  | .mapping (e :: es) => writeEntries [] 0 (e :: es)
  | y => (write 0 false y).drop 1

/-- The text of a value. A marker follows where the end of the last block is open. -/
def render (y : Yaml) : String :=
  String.ofList (writeTop y ++ (if opens false y then "...\n".toList else []))

end SheetGrammar.Yaml
