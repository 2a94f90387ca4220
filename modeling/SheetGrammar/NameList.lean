import SheetGrammar.Text.Blank

/-!
# Lists of names

Several names may stand in one text, with commas between them.  Blanks around a
name do not belong to it, and what is left empty is no name.

## Main definitions

* `NameList.parse` — the names in a text.
* `NameList.join` — a text with some names.
-/

namespace SheetGrammar.NameList

/-- The names in a text. -/
def parse (text : String) : List String :=
  ((text.toList.splitOn ',').map fun part => String.ofList (trimBlanks part)).filter (· ≠ "")

/-- The text in which some names stand between commas. -/
def join (names : List String) : String := ",".intercalate names

end SheetGrammar.NameList
