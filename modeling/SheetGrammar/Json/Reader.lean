import SheetGrammar.Json.Number
import SheetGrammar.Json.Text

/-!
# Reading JSON texts

Arrays and objects are nested at most 127 deep.  Reading never fails: it stops at
the first fault and gives the value up to there.

## Main definitions

* `Json.readValue` — reads a value at the start of a text.
* `Json.ofText` — the value of a text, and whether nothing stands behind it.
-/

namespace SheetGrammar.Json

/-- What is left of a text, or nothing if reading has stopped. -/
abbrev Rest := Option (List Char)

/-- Whether a character may stand between the parts of a text. -/
def isSpace (c : Char) : Bool := c = ' ' || c = '\n' || c = '\t' || c = '\r'

/-- A text without the space at its start. -/
def skipSpace (cs : List Char) : List Char := cs.dropWhile isSpace

/-- Reads items up to the closing bracket; there is at least one. -/
def readItems (value : List Char → Json × Rest) : Nat → List Char → List Json × Bool × Rest
  | 0, _ => ([], false, none)
  | fuel + 1, cs =>
    let (item, rest) := value cs
    match rest with
    | none => ([item], false, none)
    | some rest =>
      match skipSpace rest with
      | ',' :: rest =>
        let (items, closed, rest) := readItems value fuel rest
        (item :: items, closed, rest)
      | ']' :: rest => ([item], true, some rest)
      | _ => ([item], false, none)

/-- Reads members up to the closing brace; there is at least one. -/
def readMembers (value : List Char → Json × Rest) :
    Nat → List Char → List (String × Json) × Bool × Rest
  | 0, _ => ([], false, none)
  | fuel + 1, cs =>
    match skipSpace cs with
    | '"' :: cs =>
      match readString? cs with
      | none => ([], false, none)
      | some (none, _) => ([], false, none)
      | some (some name, rest) =>
        match skipSpace rest with
        | ':' :: rest =>
          let (item, rest) := value rest
          match rest with
          | none => ([(name, item)], false, none)
          | some rest =>
            match skipSpace rest with
            | ',' :: rest =>
              let (members, closed, rest) := readMembers value fuel rest
              ((name, item) :: members, closed, rest)
            | '\x7d' :: rest => ([(name, item)], true, some rest)
            | _ => ([(name, item)], false, none)
        | _ => ([(name, broken)], false, none)
    | _ => ([], false, none)

/-- The rest of a text that starts with the given characters. -/
def afterWord? (word : List Char) (cs : List Char) : Option (List Char) :=
  if word.isPrefixOf cs then some (cs.drop word.length) else none

/-- Reads a value that is neither an array nor an object. -/
def readScalar (cs : List Char) : Json × Rest :=
  match cs with
  | '"' :: cs =>
    match readString? cs with
    | some (some s, rest) => (string s, some rest)
    | some (none, rest) => (unreadable, some rest)
    | none => (broken, none)
  | 'n' :: cs => ((afterWord? ['u', 'l', 'l'] cs).elim (broken, none) fun r => (null, some r))
  | 't' :: cs => ((afterWord? ['r', 'u', 'e'] cs).elim (broken, none) fun r => (bool true, some r))
  | 'f' :: cs =>
    ((afterWord? ['a', 'l', 's', 'e'] cs).elim (broken, none) fun r => (bool false, some r))
  | cs =>
    match readNumber? cs with
    | some (n, rest) => (n, some rest)
    | none => (broken, none)

/-- Reads a value at the start of a text, arrays and objects nested at most
`depth` deep. -/
def readValue : Nat → List Char → Json × Rest
  | 0, cs =>
    match skipSpace cs with
    | '[' :: _ => (broken, none)
    | '\x7b' :: _ => (broken, none)
    | cs => readScalar cs
  | depth + 1, cs =>
    match skipSpace cs with
    | '[' :: cs =>
      match skipSpace cs with
      | ']' :: rest => (array [] true, some rest)
      | cs =>
        let (items, closed, rest) := readItems (readValue depth) (cs.length + 1) cs
        (array items closed, rest)
    | '\x7b' :: cs =>
      match skipSpace cs with
      | '\x7d' :: rest => (object [] true, some rest)
      | cs =>
        let (members, closed, rest) := readMembers (readValue depth) (cs.length + 1) cs
        (object members closed, rest)
    | cs => readScalar cs

/-- How deep arrays and objects may be nested. -/
def maxDepth : Nat := 127

/-- The value of a text, and whether nothing but space stands behind it. -/
def ofText (text : String) : Json × Bool :=
  let (value, rest) := readValue maxDepth text.toList
  (value, rest.any fun rest => skipSpace rest = [])

end SheetGrammar.Json
