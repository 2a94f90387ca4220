/-!
# Tokens of YAML texts

## Main definitions

* `Style` — how a scalar is written.
* `Token` — the tokens.
-/

namespace SheetGrammar.Yaml

/-- How a scalar is written. -/
inductive Style
  | plain
  | singleQuoted
  | doubleQuoted
  | literal
  | folded
  deriving DecidableEq, Repr

/-- A token of a text. -/
inductive Token
  | streamEnd
  /-- The version that a document is written in. -/
  | version (major minor : Nat)
  /-- What a handle stands for in the tags of a document. -/
  | handle (handle start : String)
  | documentStart
  | documentEnd
  | blockSequenceStart
  | blockMappingStart
  | blockEnd
  | flowSequenceStart
  | flowSequenceEnd
  | flowMappingStart
  | flowMappingEnd
  /-- A dash before an item. -/
  | blockEntry
  /-- A comma. -/
  | flowEntry
  | key
  | value
  | alias (name : String)
  | anchor (name : String)
  | tag (handle suffix : String)
  | scalar (style : Style) (text : String)
  deriving DecidableEq, Repr

end SheetGrammar.Yaml
