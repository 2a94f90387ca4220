import SheetGrammar.Record.Value

/-!
# Structured texts

Documents and configurations are structures with named fields, written in a format
of lists, mappings and scalars.  They are read in the order of the text, so that of
several faults the first one in the text is reported; only fields that are missing
show at the end of their structure.

## Main definitions

* `ParseError` — why a text does not fit.
* `Structured` — how the parts of a text in some format are seen.
* `Field`, `readStruct` — the fields of a structure, and reading it.
* `readList` — reading a list.
-/

namespace SheetGrammar

/-- Why a text is not well formed or does not fit. -/
inductive ParseError
  | missingField (name : String)
  | unknownField (name : String)
  | duplicateField (name : String)
  | unknownVariant (name : String)
  /-- The kind of an expression is not a string. -/
  | kindNotString
  /-- The name of a parameter of an expression is not a string. -/
  | parameterNotString
  /-- An expression has neither a kind nor a single entry. -/
  | unclearExpression
  /-- Any other fault, such as one of the format itself. -/
  | malformed
  deriving DecidableEq, Repr

/-- The text shown for a fault, as far as it is this library's. -/
def ParseError.message? : ParseError → Option String
  | missingField name => some ("missing field \x60" ++ name ++ "\x60")
  | unknownField name => some ("unknown field \x60" ++ name ++ "\x60")
  | duplicateField name => some ("duplicate field \x60" ++ name ++ "\x60")
  | unknownVariant name => some ("unknown variant \x60" ++ name ++ "\x60")
  | kindNotString => some "expression kind must be a string"
  | parameterNotString => some "expression parameter names must be strings"
  | unclearExpression =>
    some "expression needs a 'kind' key or a single '<kind>: \x7b...\x7d' entry"
  | malformed => none

/-- Parts of a list or a mapping, in order, and whether it was closed: reading may
have stopped inside. -/
structure Parts (α : Type) where
  parts : List α
  closed : Bool

/-- How the parts of a text in some format are seen. -/
class Structured (α : Type) where
  /-- The items of a list. -/
  items? : α → Option (Parts α)
  /-- The entries of a mapping; a key that is no string is left out. -/
  entries? : α → Option (Parts (Option String × α))
  /-- A scalar as a string. -/
  text? : α → Option String
  /-- A scalar as a natural number of 64 bits. -/
  natural? : α → Option Nat
  /-- A scalar as the value of a cell. -/
  value? : α → Option Value
  /-- Whether a part can be passed over, since it holds no fault. -/
  isSound : α → Bool
  /-- Whether a structure may be written as the list of its fields. -/
  positional : Bool

namespace Structured

variable {α σ β : Type} [Structured α]

/-- What reading a part gives. -/
abbrev Reading := Except ParseError

/-! ### Scalars and lists -/

/-- Makes a failure of what is not there. -/
def orFail : Option β → Reading β
  | some b => .ok b
  | none => .error .malformed

/-- Reads a string. -/
def readText (part : α) : Reading String := orFail (text? part)

/-- Reads a natural number. -/
def readNatural (part : α) : Reading Nat := orFail (natural? part)

/-- Reads the value of a cell. -/
def readValue (part : α) : Reading Value := orFail (value? part)

/-- Reads parts one after the other. -/
def readAll (read : α → Reading β) : List α → Reading (List β)
  | [] => .ok []
  | part :: parts =>
    match read part with
    | .error e => .error e
    | .ok b => (readAll read parts).map (b :: ·)

/-- Reads a list. -/
def readList (read : α → Reading β) (part : α) : Reading (List β) :=
  match items? part with
  | none => .error .malformed
  | some list =>
    match readAll read list.parts with
    | .error e => .error e
    | .ok bs => if list.closed then .ok bs else .error .malformed

/-! ### Structures -/

/-- A field of a structure, of which `σ` holds what was read so far. -/
structure Field (α σ : Type) where
  name : String
  /-- Further names that a text may use. -/
  aliases : List String
  /-- Whether the field was read. -/
  isRead : σ → Bool
  /-- Reads the field. -/
  read : α → σ → Reading σ

/-- Whether a text may use the name for the field. -/
def Field.hasName (f : Field α σ) (key : String) : Bool := f.name = key || f.aliases.contains key

/-- A field whose value is stored by `set` and found by `get?`. -/
def field (name : String) (aliases : List String) (read : α → Reading β) (get? : σ → Option β)
    (set : σ → β → σ) : Field α σ :=
  { name := name, aliases := aliases, isRead := fun s => (get? s).isSome,
    read := fun part s => (read part).map (set s) }

/-- Reads an entry of a structure. Entries that are no fields are passed over,
unless reading is strict. -/
def readEntry (strict : Bool) (fields : List (Field α σ)) (s : σ) :
    Option String × α → Reading σ
  | (none, _) => .error .malformed
  | (some key, part) =>
    match fields.find? fun f => f.hasName key with
    | some f => if f.isRead s then .error (.duplicateField f.name) else f.read part s
    | none =>
      if strict then .error (.unknownField key)
      else if isSound part then .ok s
      else .error .malformed

/-- Reads the entries of a structure one after the other. -/
def readEntries (strict : Bool) (fields : List (Field α σ)) :
    σ → List (Option String × α) → Reading σ
  | s, [] => .ok s
  | s, entry :: entries =>
    match readEntry strict fields s entry with
    | .error e => .error e
    | .ok s => readEntries strict fields s entries

/-- Reads the fields of a structure in their order, as many as there are. -/
def readPositions : List (Field α σ) → σ → List α → Reading σ
  | _, s, [] => .ok s
  | [], _, _ :: _ => .error .malformed
  | f :: fields, s, part :: parts =>
    match f.read part s with
    | .error e => .error e
    | .ok s => readPositions fields s parts

/-- Reads a structure: `start` holds no field, and `finish` makes the structure of
the fields read. -/
def readStruct (strict : Bool) (fields : List (Field α σ)) (start : σ)
    (finish : σ → Reading β) (part : α) : Reading β :=
  match entries? part with
  | some mapping =>
    match readEntries strict fields start mapping.parts with
    | .error e => .error e
    | .ok s => if mapping.closed then finish s else .error .malformed
  | none =>
    if positional α then
      match items? part with
      | none => .error .malformed
      | some list =>
        match readPositions fields start list.parts with
        | .error e => .error e
        | .ok s =>
          if list.closed then (finish s).mapError fun _ => .malformed else .error .malformed
    else .error .malformed

/-- The value of a field that has to be there. -/
def required (name : String) : Option β → Reading β
  | some b => .ok b
  | none => .error (.missingField name)

end Structured

end SheetGrammar
