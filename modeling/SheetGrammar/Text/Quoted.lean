import SheetGrammar.Text.Unicode.Lookup

/-!
# Quoted text

Names stand in messages between double quotes, with everything escaped that would
not show or that a quote could be mistaken for.

## Main definitions

* `escapeChar` — a character as it stands between the quotes.
* `quoted`, `quotedPath` — a string between quotes, and a path.
-/

namespace SheetGrammar

/-- A number in hexadecimal digits, in lower case. -/
def hexText (n : Nat) : List Char := Nat.toDigits 16 n

/-- A character as it stands between quotes: a backslash comes before backslashes
and the given marks, and what cannot be seen is written by name or by number. -/
def escapeChar (marks : List Char) (c : Char) : List Char :=
  if c = '\x00' then ['\\', '0']
  else if c = '\t' then ['\\', 't']
  else if c = '\r' then ['\\', 'r']
  else if c = '\n' then ['\\', 'n']
  else if c = '\\' ∨ c ∈ marks then ['\\', c]
  else if 0x20 ≤ c.toNat ∧ c.toNat < 0x7F then [c]
  else if Unicode.extendingChars.contains c ∨ Unicode.unprintableChars.contains c then
    '\\' :: 'u' :: '\x7b' :: (hexText c.toNat ++ ['\x7d'])
  else [c]

/-- A string between quotes. -/
def quoted (s : String) : String :=
  String.ofList ('"' :: (s.toList.flatMap (escapeChar ['"']) ++ ['"']))

/-- A path between quotes; single quotes in it are escaped as well. -/
def quotedPath (path : String) : String :=
  String.ofList ('"' :: (path.toList.flatMap (escapeChar ['"', '\x27']) ++ ['"']))

end SheetGrammar
