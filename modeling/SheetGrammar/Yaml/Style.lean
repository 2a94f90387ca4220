import SheetGrammar.Yaml.Resolve

/-!
# Writing scalars

A string is written plain where it reads back as itself.  It is put between single
quotes where it would read as something else, between double quotes where it holds
characters that do not show, and as a literal block where it has several lines.

## Main definitions

* `styleOf` — how a string is written.
* `writeString` — a string in that style.
-/

namespace SheetGrammar.Yaml

/-! ### What a string holds -/

/-- Whether a character shows as itself. -/
def isVisible (c : Char) : Bool :=
  let n := c.toNat
  n == 0x0A || (0x20 ≤ n && n ≤ 0x7E) || (0xA0 ≤ n && n ≤ 0xD7FF)
    || (0xE000 ≤ n && n ≤ 0xFFFD && n != 0xFEFF) || 0x10000 ≤ n

/-- Whether a character with a special meaning at the start of a text starts this one;
`rest` is the text behind it. -/
def startsSpecial (c : Char) (rest : List Char) : Bool :=
  "#,[]\x7b\x7d&*!|>\x27\"%@\x60".toList.contains c
    || ((c = '?' || c = ':' || c = '-') && isBlankOrEnd rest)

/-- Whether a colon in front of a blank or a `#` behind one follows a character. -/
def hasInnerMark : Char → List Char → Bool
  | _, [] => false
  | before, c :: rest =>
    (c = ':' && isBlankOrEnd rest) || (c = '#' && (isGap before || isBreak before))
      || hasInnerMark c rest

/-- Whether a text would be taken for something else than a scalar. -/
def hasMarks : List Char → Bool
  | [] => false
  | c :: rest =>
    ['-', '-', '-'].isPrefixOf (c :: rest) || ['.', '.', '.'].isPrefixOf (c :: rest)
      || startsSpecial c rest || hasInnerMark c rest

/-- Whether two characters that satisfy `p` and `q` follow each other. -/
def hasAdjacent (p q : Char → Bool) : List Char → Bool
  | [] => false
  | c :: rest => (p c && rest.head?.any q) || hasAdjacent p q rest

/-- Whether a character is a space. -/
def isSpace (c : Char) : Bool := c = ' '

/-- Whether a text can stand in quotes or in a block at all, other than with escapes. -/
def isRepresentable (cs : List Char) : Bool :=
  cs.all isVisible && !hasAdjacent isSpace isBreak cs

/-- Whether a text can stand between single quotes. -/
def fitsSingle (cs : List Char) : Bool := isRepresentable cs && !hasAdjacent isBreak isSpace cs

/-- Whether a text can stand plain. -/
def fitsPlain (cs : List Char) : Bool :=
  cs.all isVisible && !cs.any isBreak && cs.head?.all (fun c => !isSpace c)
    && cs.getLast?.all (fun c => !isSpace c) && !hasMarks cs

/-- Whether a text can stand as a literal block. -/
def fitsLiteral (cs : List Char) : Bool :=
  isRepresentable cs && cs.getLast?.all fun c => !isSpace c

/-- Whether a plain scalar with this text would be a string. -/
def readsAsString (cs : List Char) : Bool :=
  match meaningOfText cs with
  | some .string => !hasLeadingZeros cs
  | _ => false

/-- How a string is written. -/
def styleOf (cs : List Char) : Style :=
  if cs.contains '\n' then if fitsLiteral cs then .literal else .doubleQuoted
  else if readsAsString cs && fitsPlain cs then .plain
  else if fitsSingle cs then .singleQuoted
  else .doubleQuoted

/-! ### Writing -/

/-- A hexadecimal digit, in upper case. -/
def upperHexDigit (n : Nat) : Char := (hexDigit n).toUpper

/-- A number in some hexadecimal digits. -/
def hexDigits : Nat → Nat → List Char
  | 0, _ => []
  | count + 1, n => hexDigits count (n / 16) ++ [upperHexDigit (n % 16)]

/-- The letter that stands for a character behind a backslash. -/
def escapeLetter? (c : Char) : Option Char :=
  if c = '\x00' then some '0'
  else if c = '\x07' then some 'a'
  else if c = '\x08' then some 'b'
  else if c = '\t' then some 't'
  else if c = '\n' then some 'n'
  else if c = '\x0b' then some 'v'
  else if c = '\x0c' then some 'f'
  else if c = '\r' then some 'r'
  else if c = '\x1b' then some 'e'
  else if c = '"' then some '"'
  else if c = '\\' then some '\\'
  else if c = '\x85' then some 'N'
  else if c = '\u2028' then some 'L'
  else if c = '\u2029' then some 'P'
  else none

/-- A character between double quotes. -/
def escapeChar (c : Char) : List Char :=
  match escapeLetter? c with
  | some e => ['\\', e]
  | none =>
    if isVisible c then [c]
    else if c.toNat ≤ 0xFF then '\\' :: 'x' :: hexDigits 2 c.toNat
    else if c.toNat ≤ 0xFFFF then '\\' :: 'u' :: hexDigits 4 c.toNat
    else '\\' :: 'U' :: hexDigits 8 c.toNat

/-- A string between double quotes. -/
def writeDouble (cs : List Char) : List Char := '"' :: (cs.flatMap escapeChar ++ ['"'])

/-- Characters on lines that are indented; `fresh` holds at the start of a line. -/
def writeIndented (indent : Nat) (double : Char → List Char) :
    (fresh : Bool) → List Char → List Char
  | _, [] => []
  | fresh, c :: cs =>
    if isBreak c then c :: writeIndented indent double true cs
    else if fresh then List.replicate indent ' ' ++ double c ++ writeIndented indent double false cs
    else double c ++ writeIndented indent double false cs

/-- A character between single quotes. -/
def doubleQuote (c : Char) : List Char := if c = '\x27' then ['\x27', '\x27'] else [c]

/-- A string between single quotes. -/
def writeSingle (indent : Nat) (cs : List Char) : List Char :=
  '\x27' :: (writeIndented indent doubleQuote false cs
    ++ (if cs.getLast?.any isBreak then List.replicate indent ' ' else []) ++ ['\x27'])

/-- Whether the line ends at the end of a block say more than that the last line ends. -/
def keepsBreaks (cs : List Char) : Bool :=
  match cs.reverse with
  | [c] => isBreak c
  | c :: d :: _ => isBreak c && isBreak d
  | [] => false

/-- The signs behind the indicator of a literal block. -/
def literalHints (cs : List Char) : List Char :=
  (if cs.head?.any fun c => isSpace c || isBreak c then ['2'] else [])
    ++ (if keepsBreaks cs then ['+'] else if cs.getLast?.any isBreak then [] else ['-'])

/-- A string as a literal block, without the end of its last line. -/
def writeLiteral (indent : Nat) (cs : List Char) : List Char :=
  '|' :: (literalHints cs ++ '\n' :: writeIndented indent (fun c => [c]) true cs)

/-- A string and the end of its line; further lines are indented. -/
def writeString (indent : Nat) (s : String) : List Char :=
  let cs := s.toList
  match styleOf cs with
  | .literal => writeLiteral indent cs ++ (if cs.getLast?.any isBreak then [] else ['\n'])
  | .singleQuoted => writeSingle indent cs ++ ['\n']
  | .doubleQuoted => writeDouble cs ++ ['\n']
  | _ => cs ++ ['\n']

/-- Whether a string is written as a block whose end has to be marked. -/
def leavesOpen (s : String) : Bool := styleOf s.toList = .literal && keepsBreaks s.toList

end SheetGrammar.Yaml
