import SheetGrammar.Sheet.Path

/-!
# Delimiters

The byte between the cells of a row, given by name or by itself, or else implied
by the extension of the file.

## Main definitions

* `DelimiterError` — why a text names no delimiter.
* `parseDelimiter` — the delimiter that a text names.
* `delimiterFor` — the delimiter of a file.
-/

namespace SheetGrammar

/-- Why a text names no delimiter. -/
inductive DelimiterError
  | empty
  | tooLong
  | notAscii
  deriving DecidableEq, Repr

/-- The text shown for a text that names no delimiter. -/
def DelimiterError.message : DelimiterError → String
  | empty => "Delimiter cannot be empty"
  | tooLong => "Delimiter must be a single character"
  | notAscii => "Delimiter must be ASCII"

/-- The delimiter that a text names. Any single ASCII character names itself. -/
def parseDelimiter (text : String) : Except DelimiterError UInt8 :=
  if text = "tab" then .ok 9
  else if text = "comma" then .ok 44
  else if text = "pipe" then .ok 124
  else if text = "semicolon" then .ok 59
  else match text.toList with
    | [] => .error .empty
    | [c] => if c.toNat < 0x80 then .ok c.toNat.toUInt8 else .error .notAscii
    | _ => .error .tooLong

/-- The delimiter of a file: the one that is given, else a tab for the extension
`tsv`, else a comma. -/
def delimiterFor (path : String) : Option UInt8 → UInt8
  | some d => d
  | none => if Path.hasExtension path ["tsv"] then 9 else 44

/-- A delimiter as messages show it. -/
def showDelimiter (d : UInt8) : String :=
  if d = 9 then "\\t" else String.singleton (Char.ofNat d.toNat)

end SheetGrammar
