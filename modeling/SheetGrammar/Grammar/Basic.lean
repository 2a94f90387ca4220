import SheetGrammar.Grammar.RowType

/-!
# Grammars

A grammar is a set of row types with distinct names.  Types may list each other
as children, themselves included, but only types of the grammar.

## Main definitions

* `Grammar`, `Grammar.get?` — grammars and the look-up of a name.
* `Grammar.insert`, `Grammar.ofTypes` — building a grammar.
* `Grammar.validate` — whether all children are defined.
-/

namespace SheetGrammar

/-- A set of row types, in the order in which they were added. -/
structure Grammar where
  types : List RowType
  deriving Repr

namespace Grammar

/-- The grammar without types. -/
def empty : Grammar := ⟨[]⟩

/-- The row type of a name. -/
def get? (g : Grammar) (name : String) : Option RowType :=
  g.types.find? fun t => t.name = name

/-- Whether a row type bears the name. -/
def defines (g : Grammar) (name : String) : Bool := (g.get? name).isSome

/-- The number of row types. -/
def size (g : Grammar) : Nat := g.types.length

/-- Adds a row type; its name must be new. -/
def insert (g : Grammar) (t : RowType) : Except Error Grammar :=
  if g.defines t.name then .error (.configuration (.duplicateRowType t.name))
  else .ok ⟨g.types ++ [t]⟩

/-- Adds row types one after the other. -/
def insertAll (g : Grammar) : List RowType → Except Error Grammar
  | [] => .ok g
  | t :: ts =>
    match g.insert t with
    | .error e => .error e
    | .ok g => insertAll g ts

/-- The grammar of some row types with distinct names. -/
def ofTypes (ts : List RowType) : Except Error Grammar := empty.insertAll ts

/-- The first child of a row type that the grammar does not define. -/
def undefinedChild? (g : Grammar) (t : RowType) : Option String :=
  t.children.find? fun c => !g.defines c

/-- The row types in the order of their names. -/
def sorted (g : Grammar) : List RowType := g.types.mergeSort fun s t => s.name ≤ t.name

/-- Checks that all children are defined. Of several undefined ones, the first
of the type that comes first by name is reported. -/
def validate (g : Grammar) : Except Error Unit :=
  match g.sorted.findSome? fun t => (g.undefinedChild? t).map (t.name, ·) with
  | some (t, c) => .error (.configuration (.undefinedChild t c))
  | none => .ok ()

end Grammar

end SheetGrammar
