import SheetGrammar.Json.Basic
import SheetGrammar.Json.Text
import SheetGrammar.Decimal.Text

/-!
# Writing JSON texts

Items and members stand on lines of their own, indented by two blanks for every
array and object around them.

## Main definitions

* `Json.floatText` — a number with a point or an exponent.
* `Json.render` — a value at a level of nesting.
* `Json.pretty` — the text of a value.
-/

namespace SheetGrammar.Json

/-- A float. What is not finite has no number in JSON and is written as `null`. -/
def floatText (x : Float) : List Char :=
  match FloatParts.ofFloat? x with
  | some p => (Decimal.shortest .toEven p).compact .plus
  | none => ['n', 'u', 'l', 'l']

/-- The start of a line at a level of nesting. -/
def newLine (level : Nat) : List Char := '\n' :: List.replicate (2 * level) ' '

/-- The lines between two brackets. -/
def block (left right : Char) (level : Nat) : List (List Char) → List Char
  | [] => [left, right]
  | lines =>
    left :: (newLine (level + 1) ++ (',' :: newLine (level + 1)).intercalate lines
      ++ newLine level ++ [right])

mutual

/-- A value at a level of nesting. -/
def render (level : Nat) : Json → List Char
  | null => ['n', 'u', 'l', 'l']
  | bool true => ['t', 'r', 'u', 'e']
  | bool false => ['f', 'a', 'l', 's', 'e']
  | integer n => (toString n).toList
  | float x => floatText x
  | string s => quoteText s
  | array items _ => block '[' ']' level (renderItems (level + 1) items)
  | object members _ => block '\x7b' '\x7d' level (renderMembers (level + 1) members)
  | unreadable => []
  | broken => []

/-- The lines of items. -/
def renderItems (level : Nat) : List Json → List (List Char)
  | [] => []
  | j :: js => render level j :: renderItems level js

/-- The lines of members. -/
def renderMembers (level : Nat) : List (String × Json) → List (List Char)
  | [] => []
  | (name, j) :: ms => (quoteText name ++ ':' :: ' ' :: render level j) :: renderMembers level ms

end

/-- The text of a value, which ends with a line feed. -/
def pretty (j : Json) : String := String.ofList (render 0 j ++ ['\n'])

end SheetGrammar.Json
