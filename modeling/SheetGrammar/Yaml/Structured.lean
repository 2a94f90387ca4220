import SheetGrammar.Structured
import SheetGrammar.Yaml.Basic
import SheetGrammar.Yaml.Resolve
import SheetGrammar.Word

/-!
# YAML as a format of structured texts

A scalar keeps its text where a string is wanted.  Where any value may stand, the
meaning of the scalar counts.  A place without a value stands for an empty list and
for a mapping without entries.

## Main definitions

* the instance of `Structured` for nodes.
* `Node.readOptional`, `Node.readVariant` — options and names out of a few.
* `Yaml.ofNode`, `Yaml.readEntries` — values of any kind.
* `readText` — reads a text that holds one document.
-/

namespace SheetGrammar.Yaml

open SheetGrammar.Structured (Reading)

namespace Node

/-- Whether nothing is written at the place of the node. -/
def isBlank : Node → Bool
  | void => true
  | scalar _ .plain "" => true
  | _ => false

/-- A scalar as a string. -/
def text? : Node → Option String
  | scalar _ _ text => some text
  | _ => none

/-- Whether a scalar may be read as a natural number. -/
def mayBeNatural (tag : Option String) (style : Style) : Bool :=
  style = .plain || (style = .literal && tag = some (standardTag "int"))

/-- A scalar as a natural number of 64 bits. -/
def natural? : Node → Option Nat
  | scalar tag style text =>
    let cs := text.toList
    if mayBeNatural tag style ∧ cs.head? ≠ some '-' then
      (integerOfText? cs).bind fun n => if 0 ≤ n ∧ n < wordSize 64 then some n.toNat else none
    else none
  | _ => none

/-- The value of a cell: an integer beyond those of a cell becomes a float. -/
def value? : Node → Option Value
  | scalar tag style text =>
    if (localTag? tag).isSome then none
    else match meaningOfScalar? tag style text with
      | some (.integer n) =>
        match Int64.ofInt? n with
        | some k => some (.integer k)
        | none => some (.float n.toNat.toUInt64.toFloat)
      | some (.float x) => some (.float x)
      | some .string => some (.string text)
      | _ => none
  | _ => none

/-- Structures are mappings. -/
instance : Structured Node where
  items?
    | sequence _ items closed => some ⟨items, closed⟩
    | n => if n.isBlank then some ⟨[], true⟩ else none
  entries?
    | mapping _ entries closed => some ⟨entries.map fun e => (e.1.text?, e.2), closed⟩
    | n => if n.isBlank then some ⟨[], true⟩ else none
  text? := text?
  natural? := natural?
  value? := value?
  isSound := isSound
  positional := false

/-- Whether a node stands for no value where there may be one; a null whose tag says so
has to look like one. -/
def isAbsent : Node → Reading Bool
  | scalar tag .plain text =>
    match tag with
    | none => .ok (text = "" || isNullText text.toList)
    | some tag =>
      if tag ≠ standardTag "null" then .ok false
      else if isNullText text.toList then .ok true
      else .error .malformed
  | void => .ok true
  | broken => .error .malformed
  | cycle => .error .malformed
  | _ => .ok false

/-- Reads a value that may be absent. -/
def readOptional {β : Type} (read : Node → Reading β) (n : Node) : Reading (Option β) :=
  match n.isAbsent with
  | .error e => .error e
  | .ok true => .ok none
  | .ok false => (read n).map some

/-- Reads a name out of a few. It may also be the tag of a place without a value. -/
def readVariant {β : Type} (ofName? : String → Option β) (n : Node) : Reading β :=
  let known := fun name => (ofName? name).elim (.error (.unknownVariant name)) Except.ok
  let ofTag := fun (tag : Option String) (rest : Reading Unit) (otherwise : Reading β) =>
    match localTag? tag with
    | none => otherwise
    | some name =>
      match known name with
      | .error e => .error e
      | .ok b => rest.map fun _ => b
  match n with
  | scalar tag style text =>
    let isNull := style = .plain && (text = "" || isNullText text.toList)
    ofTag tag (if isNull then .ok () else .error .malformed) (known text)
  | sequence tag _ _ => ofTag tag (.error .malformed) (.error .malformed)
  | mapping tag _ _ => ofTag tag (.error .malformed) (.error .malformed)
  | _ => .error .malformed

end Node

/-! ### Values of any kind -/

/-- The number of a value, for comparing keys: all that are not numbers are alike. -/
def sameFloat (x y : Float) : Bool := x == y || (x.isNaN && y.isNaN)

mutual

/-- Whether two values are the same as keys. -/
def sameKey : Yaml → Yaml → Bool
  | .null, .null => true
  | .bool a, .bool b => a = b
  | .integer a, .integer b => a = b
  | .float a, .float b => sameFloat a b
  | .string a, .string b => a = b
  | .sequence as, .sequence bs => sameItems as bs
  | .mapping as, .mapping bs => as.length = bs.length && sameEntries as bs
  | .tagged s a, .tagged t b => s = t && sameKey a b
  | _, _ => false

/-- Whether two lists of values are the same. -/
def sameItems : List Yaml → List Yaml → Bool
  | [], [] => true
  | a :: as, b :: bs => sameKey a b && sameItems as bs
  | _, _ => false

/-- Whether all entries of a mapping are entries of another one. -/
def sameEntries : List (Yaml × Yaml) → List (Yaml × Yaml) → Bool
  | [], _ => true
  | (k, v) :: es, others => hasEntry k v others && sameEntries es others

/-- Whether a mapping has an entry. -/
def hasEntry (k v : Yaml) : List (Yaml × Yaml) → Bool
  | [] => false
  | (k', v') :: es => (sameKey k k' && sameKey v v') || hasEntry k v es

end

/-- The value of a meaning. -/
def ofMeaning (text : String) : Meaning → Yaml
  | .null => .null
  | .bool b => .bool b
  | .integer n => .integer n
  | .float x => .float x
  | .string => .string text

/-- Puts a value under a tag of the text's own; the tag has to have a name. -/
def underTag (tag : Option String) (read : Reading Yaml) : Reading Yaml :=
  match localTag? tag with
  | none => read
  | some name => if name = "" then .error .malformed else read.map (.tagged name)

/-- Reads a scalar as a value. -/
def readScalar (tag : Option String) (style : Style) (text : String) : Reading Yaml :=
  let plainTag := if (localTag? tag).isSome then none else tag
  underTag tag (((meaningOfScalar? plainTag style text).map (ofMeaning text)).elim
    (.error .malformed) Except.ok)

/-- Reads entries with `read`; keys may not occur twice. -/
def readDistinct (read : Node → Reading Yaml) :
    List (Yaml × Yaml) → List (Node × Node) → Reading (List (Yaml × Yaml))
  | acc, [] => .ok acc.reverse
  | acc, (k, v) :: entries =>
    match read k with
    | .error e => .error e
    | .ok k =>
      if acc.any fun e => sameKey e.1 k then .error .malformed
      else match read v with
        | .error e => .error e
        | .ok v => readDistinct read ((k, v) :: acc) entries

/-- Reads a value of any kind, with at most `depth` collections within each other. -/
def read : Nat → Node → Reading Yaml
  | _, .scalar tag style text => readScalar tag style text
  | _, .void => .ok .null
  | _, .broken => .error .malformed
  | _, .cycle => .error .malformed
  | 0, _ => .error .malformed
  | depth + 1, .sequence tag items closed =>
    underTag tag (match Structured.readAll (read depth) items with
      | .error e => .error e
      | .ok ys => if closed then .ok (.sequence ys) else .error .malformed)
  | depth + 1, .mapping tag entries closed =>
    underTag tag (match readDistinct (read depth) [] entries with
      | .error e => .error e
      | .ok es => if closed then .ok (.mapping es) else .error .malformed)

/-- Reads named values one after the other. -/
def readNamed (depth : Nat) : List (Option String × Node) → Reading (List (String × Yaml))
  | [] => .ok []
  | (none, _) :: _ => .error .malformed
  | (some key, n) :: entries =>
    match read depth n with
    | .error e => .error e
    | .ok y => (readNamed depth entries).map ((key, y) :: ·)

/-- Named values in the order of their names; of values with one name the last counts. -/
def sortNamed (entries : List (String × Yaml)) : List (String × Yaml) :=
  let last := entries.foldr
    (fun e acc => if acc.any fun f => f.1 = e.1 then acc else e :: acc) []
  last.mergeSort fun a b => a.1 ≤ b.1

/-- Reads a mapping of named values. -/
def readEntries : Nat → Node → Reading (List (String × Yaml))
  | 0, _ => .error .malformed
  | depth + 1, n =>
    match Structured.entries? n with
    | none => .error .malformed
    | some ps =>
      match readNamed depth ps.parts with
      | .error e => .error e
      | .ok entries => if ps.closed then .ok (sortNamed entries) else .error .malformed

/-! ### Whole texts -/

/-- How many collections a reader may enter, one within the other. -/
def readerDepth : Nat := 128

/-- Reads a text that holds one document and nothing else. -/
def readText {β : Type} (read : Nat → Node → Reading β) (text : String) : Reading β :=
  let (n, complete) := Node.ofText text
  match read readerDepth n with
  | .error e => .error e
  | .ok b => if complete then .ok b else .error .malformed

end SheetGrammar.Yaml
