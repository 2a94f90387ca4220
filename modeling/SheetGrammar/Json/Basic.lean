/-!
# JSON values

The values of JSON texts.  A text that breaks off or goes wrong still has a value
up to that place: what could not be read is `broken`, and the arrays and objects
around it are not `closed`.  Whoever looks at a value in the order of its text
meets the fault where the text has it.

## Main definitions

* `Json` — the values.
* `Json.isSound` — whether a value holds no fault.
-/

namespace SheetGrammar

/-- A value of a JSON text. -/
inductive Json
  | null
  | bool (b : Bool)
  /-- A number written without point and exponent. -/
  | integer (n : Int)
  /-- Any other number. -/
  | float (x : Float)
  | string (s : String)
  /-- The items; `closed` unless reading stopped among them. -/
  | array (items : List Json) (closed : Bool)
  /-- The members in order, names repeated as in the text; `closed` unless reading
  stopped among them. -/
  | object (members : List (String × Json)) (closed : Bool)
  /-- A number beyond all floats, or a string with half a pair of surrogates. It can
  be passed over but not read. -/
  | unreadable
  /-- Here reading stopped. -/
  | broken
  deriving Repr, Inhabited

namespace Json

mutual

/-- Whether the value holds no fault. -/
def isSound : Json → Bool
  | null => true
  | bool _ => true
  | integer _ => true
  | float _ => true
  | string _ => true
  | array items closed => closed && areSound items
  | object members closed => closed && areSoundMembers members
  | unreadable => true
  | broken => false

/-- Whether no value of a list holds a fault. -/
def areSound : List Json → Bool
  | [] => true
  | j :: js => isSound j && areSound js

/-- Whether no member's value holds a fault. -/
def areSoundMembers : List (String × Json) → Bool
  | [] => true
  | (_, j) :: ms => isSound j && areSoundMembers ms

end

end Json

end SheetGrammar
