import SheetGrammar.Text.Hex

/-!
# Strings of JSON texts

## Main definitions

* `Json.escapeText`, `Json.quoteText` — a string as it stands in a text.
* `Json.readString?` — reads a string behind its opening quote.
-/

namespace SheetGrammar.Json

/-- A character as it stands in a string: quotes, backslashes and control
characters are escaped. -/
def escapeChar (c : Char) : List Char :=
  if c = '"' then ['\\', '"']
  else if c = '\\' then ['\\', '\\']
  else if c = '\x08' then ['\\', 'b']
  else if c = '\x0c' then ['\\', 'f']
  else if c = '\n' then ['\\', 'n']
  else if c = '\r' then ['\\', 'r']
  else if c = '\t' then ['\\', 't']
  else if c.toNat < 0x20 then
    ['\\', 'u', '0', '0', hexDigit (c.toNat / 16), hexDigit (c.toNat % 16)]
  else [c]

/-- A string without its quotes. -/
def escapeText (cs : List Char) : List Char := cs.flatMap escapeChar

/-- A string with its quotes. -/
def quoteText (s : String) : List Char := '"' :: (escapeText s.toList ++ ['"'])

/-! ### Reading -/

/-- The value of four hexadecimal digits. -/
def hexWord? (a b c d : Char) : Option Nat :=
  match hexValue? a, hexValue? b, hexValue? c, hexValue? d with
  | some a, some b, some c, some d => some (((a * 16 + b) * 16 + c) * 16 + d)
  | _, _, _, _ => none

/-- The character of an escape with one letter. -/
def simpleEscape? (c : Char) : Option Char :=
  if c = '"' then some '"'
  else if c = '\\' then some '\\'
  else if c = '/' then some '/'
  else if c = 'b' then some '\x08'
  else if c = 'f' then some '\x0c'
  else if c = 'n' then some '\n'
  else if c = 'r' then some '\r'
  else if c = 't' then some '\t'
  else none

/-- The character of a pair of surrogates. -/
def pairChar (high low : Nat) : Char :=
  Char.ofNat (0x10000 + (high - 0xD800) * 0x400 + (low - 0xDC00))

/-- A string that is being read: its characters so far, in reverse, a high surrogate
that waits for its partner, and whether all others came in pairs. -/
structure Partial where
  chars : List Char
  high? : Option Nat
  paired : Bool

namespace Partial

/-- A string of which nothing was read. -/
def start : Partial := ⟨[], none, true⟩

/-- Gives up the surrogate that waits, if there is one. -/
def settle (p : Partial) : Partial := ⟨p.chars, none, p.paired && p.high?.isNone⟩

/-- Adds a character. -/
def push (p : Partial) (c : Char) : Partial := { p.settle with chars := c :: p.chars }

/-- Adds what an escape with four digits stands for. -/
def pushUnit (p : Partial) (n : Nat) : Partial :=
  if 0xDC00 ≤ n ∧ n ≤ 0xDFFF then
    match p.high? with
    | some high => ⟨pairChar high n :: p.chars, none, p.paired⟩
    | none => { p with paired := false }
  else if 0xD800 ≤ n ∧ n ≤ 0xDBFF then { p.settle with high? := some n }
  else p.push (Char.ofNat n)

/-- The string, if all surrogates came in pairs. -/
def text? (p : Partial) : Option String :=
  if p.settle.paired then some (String.ofList p.chars.reverse) else none

end Partial

/-- Reads a string behind its opening quote, up to and with the closing one. Inside,
`none` stands for a string in which a surrogate stands alone. -/
def readStringFrom? : Partial → List Char → Option (Option String × List Char)
  | _, [] => none
  | p, '"' :: cs => some (p.text?, cs)
  | p, '\\' :: 'u' :: a :: b :: c :: d :: cs =>
    match hexWord? a b c d with
    | none => none
    | some n => readStringFrom? (p.pushUnit n) cs
  | p, '\\' :: c :: cs =>
    match simpleEscape? c with
    | none => none
    | some e => readStringFrom? (p.push e) cs
  | p, c :: cs =>
    if c = '\\' ∨ c.toNat < 0x20 then none else readStringFrom? (p.push c) cs

/-- Reads a string behind its opening quote. -/
def readString? (cs : List Char) : Option (Option String × List Char) :=
  readStringFrom? Partial.start cs

end SheetGrammar.Json
