import SheetGrammar.Text.Unicode.Categories
import SheetGrammar.Text.Unicode.Scripts
import SheetGrammar.Text.Unicode.ScriptExtensions
import SheetGrammar.Text.Unicode.Properties

/-!
# Looking up sets of characters

Finds the set of characters that a name stands for, be it a general category, a
script or a binary property.

## Main definitions

* `Unicode.category?`, `Unicode.script?` — the sets of the two kinds of values.
* `Unicode.named?` — the set of a name alone.
* `Unicode.wordChars`, `Unicode.digitChars`, `Unicode.spaceChars` — the classes of patterns.
-/

namespace SheetGrammar.Unicode

/-- A name as the tables hold it: in lower case, without separators and without
an `is` in front. Characters outside ASCII do not count. -/
def normalName (s : List Char) : String :=
  let keep (cs : List Char) : List Char :=
    (cs.filter fun c => c ≠ ' ' ∧ c ≠ '_' ∧ c ≠ '-' ∧ c.toNat < 0x80).map Char.toLower
  match s with
  | a :: b :: rest =>
    if a.toLower = 'i' ∧ b.toLower = 's' then
      let name := String.ofList (keep rest)
      if name = "c" then "isc" else name
    else String.ofList (keep s)
  | _ => String.ofList (keep s)

/-- The parts of the categories that consist of others. -/
def compound : List (List String × List String) :=
  [(["c", "other"], ["cc", "cf", "cn", "co"]),
   (["l", "letter"], ["ll", "lm", "lo", "lt", "lu"]),
   (["lc", "casedletter"], ["ll", "lt", "lu"]),
   (["m", "mark", "combiningmark"], ["mc", "me", "mn"]),
   (["n", "number"], ["nd", "nl", "no"]),
   (["p", "punctuation", "punct"], ["pc", "pd", "pe", "pf", "pi", "po", "ps"]),
   (["s", "symbol"], ["sc", "sk", "sm", "so"]),
   (["z", "separator"], ["zl", "zp", "zs"])]

/-- The union of some categories that have no parts. -/
def categoryUnion (names : List String) : CharSet :=
  .unions (names.filterMap (NamedSet.find? categories))

/-- The members of a general category. -/
def category? (name : String) : Option CharSet :=
  if name = "any" then some .all
  else if name = "ascii" then some (.ofIntervals [(0, 0x7F)])
  else if name = "assigned" then (NamedSet.find? categories "cn").map CharSet.compl
  else if name = "surrogate" ∨ name = "cs" then some .empty
  else match compound.find? fun p => p.1.contains name with
    | some p => some (categoryUnion p.2)
    | none => NamedSet.find? categories name

/-- The members of a script. -/
def script? (name : String) : Option CharSet := NamedSet.find? scripts name

/-- The characters that are used with a script. -/
def scriptExtension? (name : String) : Option CharSet :=
  (NamedSet.find? scriptExtensions name).orElse fun _ => script? name

/-- The members of a binary property. -/
def property? (name : String) : Option CharSet := NamedSet.find? properties name

/-- Names of properties that have values; they stand for no set by themselves. -/
def valuedProperties : List String :=
  ["generalcategory", "gc", "script", "scriptextensions", "scx", "age", "wordbreak", "wb",
   "sentencebreak", "sb", "graphemeclusterbreak", "gcb"]

/-- The set that a name stands for: a binary property, a general category or a
script, in this order. The short names of the categories `Cf`, `Sc` and `LC` are
never those of a property. -/
def named? (name : String) : Option CharSet :=
  let propertyFirst := name ≠ "cf" ∧ name ≠ "sc" ∧ name ≠ "lc"
  match (if propertyFirst then property? name else none) with
  | some s => some s
  | none =>
    if propertyFirst ∧ valuedProperties.contains name then none
    else (category? name).orElse fun _ => script? name

/-- Decimal digits. -/
def digitChars : CharSet := categoryUnion ["nd"]

/-- White space. -/
def spaceChars : CharSet := .ofText "9-D 20 85 A0 1680 2000-200A 2028-2029 202F 205F 3000"

/-- The characters of words: letters, marks, digits, connectors and joiners. -/
def wordChars : CharSet :=
  .unions ([property? "alphabetic", property? "joincontrol"].filterMap id
    ++ [categoryUnion ["mc", "me", "mn", "nd", "pc"]])

/-- The characters that make no visible mark of their own, the space excepted. -/
def unprintableChars : CharSet :=
  (categoryUnion ["cc", "cf", "cn", "co", "zl", "zp", "zs"]).diff (.single ' ')

/-- The characters that extend the one before them. -/
def extendingChars : CharSet := (property? "graphemeextend").getD .empty

end SheetGrammar.Unicode
