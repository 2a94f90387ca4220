import SheetGrammar.Pattern.Basic
import SheetGrammar.Text.Blank
import SheetGrammar.Text.Hex
import SheetGrammar.Text.Unicode.Valued

/-!
# Escapes in patterns

What stands behind a backslash: a character in disguise, a class of characters
or an anchor.  Flags decide whether classes range over all of Unicode, whether
case counts and whether blanks between the parts of a pattern do.

## Main definitions

* `Flags` — the settings that hold at a place of a pattern.
* `skipBlanks` — passes over blanks and comments where they do not count.
* `Piece`, `readEscape?` — the meaning of an escape.
-/

namespace SheetGrammar.Pattern

/-- The settings that hold at a place of a pattern. -/
structure Flags where
  /-- Letters match in either case. -/
  ignoreCase : Bool
  /-- `^` and `$` match at every line. -/
  multiLine : Bool
  /-- `.` matches line ends too. -/
  dotAll : Bool
  /-- Repetitions are lazy, and greedy with a `?`. -/
  swapGreed : Bool
  /-- Classes range over all of Unicode. -/
  unicode : Bool
  /-- Blanks and comments do not count. -/
  verbose : Bool
  /-- A carriage return ends a line too. -/
  crlf : Bool
  deriving DecidableEq, Repr

/-- The settings at the start of a pattern. -/
def Flags.initial : Flags := ⟨false, false, false, false, true, false, false⟩

/-- Passes over blanks, and over comments from a `#` to the end of the line. -/
def dropComments : Bool → List Char → List Char
  | _, [] => []
  | true, c :: cs => dropComments (c ≠ '\n') cs
  | false, c :: cs =>
    if isBlank c then dropComments false cs
    else if c = '#' then dropComments true cs
    else c :: cs

/-- Passes over blanks and comments where they do not count. -/
def skipBlanks (f : Flags) (cs : List Char) : List Char :=
  if f.verbose then dropComments false cs else cs

/-- The meaning of an escape or of a character that stands for itself. -/
inductive Piece
  /-- One character; `byte` tells that it was written as a byte, with two
  hexadecimal digits. -/
  | literal (c : Char) (byte : Bool)
  /-- One character of a set. -/
  | set (s : CharSet)
  /-- A condition on the place. -/
  | anchor (a : Anchor)
  deriving Repr

/-! ### Sets under flags -/

/-- The letters, digits and the underscore of ASCII. -/
def asciiWord : CharSet := .ofText "30-39 41-5A 5F 61-7A"

/-- The word characters under the flags. -/
def wordSet (f : Flags) : CharSet := if f.unicode then Unicode.wordChars else asciiWord

/-- A set with the other cases of its letters, if case does not count. -/
def foldSet (f : Flags) (s : CharSet) : CharSet :=
  if f.ignoreCase then
    if f.unicode then s.foldCase else s.foldCase.inter (.ofIntervals [(0, 0x7F)])
  else s

/-- A set after case and negation have been seen to. Without Unicode a negated
set would cut characters into bytes, and there is none. -/
def finishSet? (f : Flags) (negated : Bool) (s : CharSet) : Option CharSet :=
  let s := foldSet f s
  if f.unicode then some (if negated then s.compl else s)
  else if negated || !s.isAscii then none
  else some s

/-- The set of `\d`, `\s`, `\w` and their negations. -/
def perlSet? (f : Flags) (c : Char) : Option CharSet :=
  let lower := c.toLower
  let s :=
    if lower = 'd' then (if f.unicode then Unicode.digitChars else .ofText "30-39")
    else if lower = 's' then (if f.unicode then Unicode.spaceChars else .ofText "9-D 20")
    else wordSet f
  if c = lower then some s
  else if f.unicode then some s.compl
  else none

/-- The set of a property written `name`, `name=value`, `name:value` or
`name!=value`. -/
def propertySet? (text : List Char) : Option (Bool × CharSet) :=
  let name := text.takeWhile fun c => c ≠ ':' ∧ c ≠ '='
  let valued (negated : Bool) (property value : List Char) : Option (Bool × CharSet) :=
    (Unicode.valued? (Unicode.normalName property) (Unicode.normalName value)).map (negated, ·)
  -- the sign `!=` is looked for before the others
  let rec splitAt : List Char → List Char → Option (List Char × List Char)
    | _, [] => none
    | acc, '!' :: '=' :: rest => some (acc.reverse, rest)
    | acc, c :: rest => splitAt (c :: acc) rest
  match splitAt [] text with
  | some (property, value) => valued true property value
  | none =>
    let byColon := text.takeWhile (· ≠ ':')
    match text.dropWhile (· ≠ ':') with
    | _ :: value => valued false byColon value
    | [] =>
      match text.dropWhile (· ≠ '=') with
      | _ :: value => valued false name value
      | [] => (Unicode.named? (Unicode.normalName text)).map (false, ·)

/-- Reads what follows `\p` or `\P`. -/
def readProperty? (f : Flags) (negated : Bool) (cs : List Char) : Option (CharSet × List Char) :=
  let finish (text rest : List Char) : Option (CharSet × List Char) :=
    if !f.unicode then none
    else (propertySet? text).bind fun (flipped, s) =>
      (finishSet? f (negated != flipped) s).map (·, rest)
  match skipBlanks f cs with
  | [] => none
  | c :: rest =>
    if c = '\x7b' then
      let body := rest.takeWhile (· ≠ '\x7d')
      match rest.dropWhile (· ≠ '\x7d') with
      | [] => none
      | _ :: rest => finish (if f.verbose then body.filter (!isBlank ·) else body) rest
    else if c = '\\' then none
    else finish [c] (skipBlanks f rest)

/-! ### Characters by number -/

/-- Reads exactly `n` hexadecimal digits. -/
def readHexDigits? (f : Flags) : Nat → Nat → List Char → Option (Nat × List Char)
  | 0, acc, cs => some (acc, cs)
  | _ + 1, _, [] => none
  | n + 1, acc, c :: cs =>
    match hexValue? c with
    | some d => readHexDigits? f n (16 * acc + d) (skipBlanks f cs)
    | none => none

/-- Reads hexadecimal digits up to a closing brace. -/
def readHexBraced? (f : Flags) : Nat → Option Nat → List Char → Option (Nat × List Char)
  | 0, _, _ => none
  | _ + 1, _, [] => none
  | fuel + 1, acc, c :: cs =>
    if c = '\x7d' then acc.map (·, skipBlanks f cs)
    else match hexValue? c with
      | some d => readHexBraced? f fuel (some (16 * acc.getD 0 + d)) (skipBlanks f cs)
      | none => none

/-- Reads a character by its number, behind `\x`, `\u` or `\U`. -/
def readHex? (f : Flags) (digits : Nat) (cs : List Char) : Option (Piece × List Char) :=
  match skipBlanks f cs with
  | [] => none
  | c :: rest =>
    if c = '\x7b' then
      let rest := skipBlanks f rest
      (readHexBraced? f (rest.length + 1) none rest).bind fun (n, rest) =>
        (charOfCode? n).map fun c => (.literal c false, rest)
    else
      (readHexDigits? f digits 0 (c :: rest)).bind fun (n, rest) =>
        (charOfCode? n).map fun c => (.literal c (digits = 2), rest)

/-! ### Escapes -/

/-- The characters that mean something in patterns. -/
def isMeta (c : Char) : Bool :=
  "\\.+*?()|[]\x7b\x7d^$#&-~".toList.contains c

/-- Whether a backslash before the character only makes it stand for itself. -/
def isPlainEscape (c : Char) : Bool :=
  isMeta c || (c.toNat < 0x80 && !c.isAlphanum && c ≠ '<' && c ≠ '>')

/-- Reads the name in braces that may follow `\b`. Braces that do not hold a name
belong to a repetition. -/
def readEdgeName? (f : Flags) (cs : List Char) : Option (Option Anchor × List Char) :=
  let isNameChar := fun c : Char => c.isAlpha || c = '-'
  let word := wordSet f
  match cs with
  | '\x7b' :: rest =>
    match skipBlanks f rest with
    | [] => none
    | c :: inner =>
      if !isNameChar c then some (none, cs)
      else
        let body := (c :: inner).takeWhile fun c => isNameChar c || (f.verbose && isBlank c)
        let name := String.ofList (body.filter isNameChar)
        match (c :: inner).dropWhile fun c => isNameChar c || (f.verbose && isBlank c) with
        | '\x7d' :: rest =>
          if name = "start" then some (some (.wordStart word), rest)
          else if name = "end" then some (some (.wordEnd word), rest)
          else if name = "start-half" then some (some (.wordStartHalf word), rest)
          else if name = "end-half" then some (some (.wordEndHalf word), rest)
          else none
        | _ => none
  | _ => some (none, cs)

/-- The characters that have a letter of their own. -/
def controlLetter? (c : Char) : Option Char :=
  if c = 'a' then some '\x07'
  else if c = 'f' then some '\x0c'
  else if c = 't' then some '\t'
  else if c = 'n' then some '\n'
  else if c = 'r' then some '\r'
  else if c = 'v' then some '\x0b'
  else none

/-- Reads what follows a backslash. -/
def readEscape? (f : Flags) : List Char → Option (Piece × List Char)
  | [] => none
  | c :: cs =>
    if c = 'x' then readHex? f 2 cs
    else if c = 'u' then readHex? f 4 cs
    else if c = 'U' then readHex? f 8 cs
    else if c = 'p' ∨ c = 'P' then
      (readProperty? f (c = 'P') cs).map fun (s, rest) => (.set s, rest)
    else if "dswDSW".toList.contains c then (perlSet? f c).map fun s => (.set s, cs)
    else if isPlainEscape c then some (.literal c false, cs)
    else if c = 'A' then some (.anchor .start, cs)
    else if c = 'z' then some (.anchor .finish, cs)
    else if c = 'b' then
      (readEdgeName? f cs).map fun (a, rest) => (.anchor (a.getD (.wordEdge (wordSet f))), rest)
    else if c = 'B' then some (.anchor (.noWordEdge (wordSet f)), cs)
    else if c = '<' then some (.anchor (.wordStart (wordSet f)), cs)
    else if c = '>' then some (.anchor (.wordEnd (wordSet f)), cs)
    else (controlLetter? c).map fun c => (.literal c false, cs)

/-- The set that a character stands for: itself and, if case does not count, its
other cases. A byte above U+007F is no character. -/
def literalSet? (f : Flags) (c : Char) (byte : Bool) : Option CharSet :=
  if f.unicode then some (foldSet f (.single c))
  else if byte && 0x80 ≤ c.toNat then none
  else if c.toNat < 0x80 then some (foldSet f (.single c))
  else some (.single c)

end SheetGrammar.Pattern
