import SheetGrammar.Decimal.Text
import SheetGrammar.Text.Hex
import SheetGrammar.Yaml.Node
import SheetGrammar.Word

/-!
# What scalars mean

A plain scalar without a tag may be null, a truth value, an integer or a float by the
look of its text; any other scalar is a string, unless a tag says otherwise.

## Main definitions

* `Meaning` — what a scalar means.
* `meaningOfText` — the meaning of a plain scalar.
* `meaningOfScalar?` — the meaning of any scalar.
* `localTag?` — the name of a tag that the text defines itself.
-/

namespace SheetGrammar.Yaml

/-- What a scalar means. -/
inductive Meaning
  | null
  | bool (b : Bool)
  | integer (n : Int)
  | float (x : Float)
  | string
  deriving Repr

/-! ### The look of a text -/

/-- Whether a text means null. -/
def isNullText (cs : List Char) : Bool :=
  ["~", "null", "Null", "NULL"].contains (String.ofList cs)

/-- The truth value that a text means. -/
def boolOfText? (cs : List Char) : Option Bool :=
  if ["true", "True", "TRUE"].contains (String.ofList cs) then some true
  else if ["false", "False", "FALSE"].contains (String.ofList cs) then some false
  else none

/-- A text without one sign at its start. -/
def dropSign : List Char → List Char
  | '+' :: cs => cs
  | '-' :: cs => cs
  | cs => cs

/-- Whether a text starts with a sign. -/
def isSigned (cs : List Char) : Bool := cs.head?.any fun c => c = '+' || c = '-'

/-- Whether a text consists of digits but is no number, since zeros lead. -/
def hasLeadingZeros (cs : List Char) : Bool :=
  let ds := dropSign cs
  1 < ds.length && ds.head? = some '0' && ds.all Char.isDigit

/-- The number that digits of a base stand for. -/
def digitsInBase? (base : Nat) (ds : List Char) : Option Nat :=
  if ds = [] then none
  else ds.foldlM (fun n d =>
    (hexValue? d).bind fun v => if v < base then some (base * n + v) else none) 0

/-- The number of an unsigned text that names its base. -/
def basedNumber? : List Char → Option Nat
  | '0' :: 'x' :: ds => digitsInBase? 16 ds
  | '0' :: 'o' :: ds => digitsInBase? 8 ds
  | '0' :: 'b' :: ds => digitsInBase? 2 ds
  | _ => none

/-- The integer that a text means, of any size. -/
def integerOfText? (cs : List Char) : Option Int :=
  match cs with
  | '-' :: ds =>
    match basedNumber? ds with
    | some n => some (-(n : Int))
    | none => if hasLeadingZeros cs then none else (digitsInBase? 10 ds).map fun n => -(n : Int)
  | _ =>
    let ds := if cs.head? = some '+' then cs.drop 1 else cs
    match basedNumber? ds with
    | some n => some n
    | none => if hasLeadingZeros cs then none else (digitsInBase? 10 ds).map Int.ofNat

/-- The float that a text means; numbers beyond all floats are none. -/
def floatOfText? (cs : List Char) : Option Float :=
  let s := String.ofList cs
  let unsigned := if cs.head? = some '+' then cs.drop 1 else cs
  if cs.head? = some '+' ∧ isSigned unsigned then none
  else if [".inf", ".Inf", ".INF"].contains (String.ofList unsigned) then some Decimal.infinity
  else if ["-.inf", "-.Inf", "-.INF"].contains s then some (-Decimal.infinity)
  else if [".nan", ".NaN", ".NAN"].contains s then some Decimal.notANumber
  else (readFloat? unsigned).filter fun x => x.isFinite

/-- Whether an integer can be told from other numbers: those beyond 64 bits, but within
128, are a fault. -/
inductive IntegerSize
  | word
  | long
  | beyond
  deriving DecidableEq

/-- The size of an integer. -/
def integerSize (n : Int) : IntegerSize :=
  if -wordSize 63 ≤ n ∧ n < wordSize 64 then .word
  else if -wordSize 127 ≤ n ∧ n < wordSize 128 then .long
  else .beyond

/-- The meaning of a float's text, or of a string's. -/
def meaningOfFloat (cs : List Char) : Meaning :=
  if hasLeadingZeros cs then .string
  else match floatOfText? cs with
    | some x => .float x
    | none => .string

/-- The meaning of a plain scalar. -/
def meaningOfText (cs : List Char) : Option Meaning :=
  if cs = [] ∨ isNullText cs then some .null
  else match boolOfText? cs with
    | some b => some (.bool b)
    | none =>
      match integerOfText? cs with
      | none => some (meaningOfFloat cs)
      | some n =>
        match integerSize n with
        | .word => some (.integer n)
        | .long => none
        | .beyond => some (meaningOfFloat cs)

/-! ### Tags -/

/-- What the tags of the standard start with. -/
def standardTag (name : String) : String := "tag:yaml.org,2002:" ++ name

/-- The name of a tag that the text defines itself. -/
def localTag? (tag : Option String) : Option String :=
  match tag.map String.toList with
  | some ('!' :: name) => some (String.ofList name)
  | _ => none

/-- The meaning of a scalar under a tag of the standard; `none` if its text does not
fit. -/
def meaningUnderTag? (tag : String) (cs : List Char) : Option Meaning :=
  if tag = standardTag "bool" then (boolOfText? cs).map .bool
  else if tag = standardTag "int" then
    (integerOfText? cs).bind fun n => if integerSize n = .word then some (.integer n) else none
  else if tag = standardTag "float" then (floatOfText? cs).map .float
  else if tag = standardTag "null" then if isNullText cs then some .null else none
  else some .string

/-- The meaning of a scalar whose tag, if it has one, is not of the text's own. -/
def meaningOfScalar? (tag : Option String) (style : Style) (text : String) : Option Meaning :=
  match tag with
  | some tag => meaningUnderTag? tag text.toList
  | none => if style = .plain then meaningOfText text.toList else some .string

end SheetGrammar.Yaml
