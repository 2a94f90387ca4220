/-!
# Blanks

White space in the sense of Unicode, and cutting it off at both ends of a text.

## Main definitions

* `isBlank` — the characters with the property White_Space.
* `trimBlanks`, `trim` — a text without the blanks at its ends.
-/

namespace SheetGrammar

/-- Whether a character is white space. -/
def isBlank (c : Char) : Bool :=
  let n := c.toNat
  (9 ≤ n && n ≤ 13) || n == 0x20 || n == 0x85 || n == 0xA0 || n == 0x1680
    || (0x2000 ≤ n && n ≤ 0x200A) || n == 0x2028 || n == 0x2029 || n == 0x202F
    || n == 0x205F || n == 0x3000

/-- A text without the blanks at its start. -/
def dropBlanks (cs : List Char) : List Char := cs.dropWhile isBlank

/-- A text without the blanks at its end. -/
def dropBlanksEnd (cs : List Char) : List Char := (cs.reverse.dropWhile isBlank).reverse

/-- A text without the blanks at either end. -/
def trimBlanks (cs : List Char) : List Char := dropBlanksEnd (dropBlanks cs)

/-- A string without the blanks at either end. -/
def trim (s : String) : String := String.ofList (trimBlanks s.toList)

end SheetGrammar
