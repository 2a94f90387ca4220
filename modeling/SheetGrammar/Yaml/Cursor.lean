/-!
# Places in YAML texts

A cursor stands before a character of a text and knows its line and column, since
indentation carries meaning.

## Main definitions

* `isBreak`, `isGap`, `isBlankOrEnd` — line ends and blanks.
* `Cursor` — a place in a text and what follows it.
* `Gap` — blanks and line ends between the words of a scalar, and how they fold.
-/

namespace SheetGrammar.Yaml

/-- Whether a character ends a line. -/
def isBreak (c : Char) : Bool :=
  c = '\n' || c = '\r' || c = '\x85' || c = '\u2028' || c = '\u2029'

/-- Whether a character is a blank. -/
def isGap (c : Char) : Bool := c = ' ' || c = '\t'

/-- Whether a text starts with a blank or a line end, or is at its end. -/
def isBlankOrEnd : List Char → Bool
  | [] => true
  | c :: _ => isGap c || isBreak c

/-- Whether a text starts with a line end, or is at its end. -/
def isBreakOrEnd : List Char → Bool
  | [] => true
  | c :: _ => isBreak c

/-- A place in a text. -/
structure Cursor where
  rest : List Char
  /-- How many characters come before. -/
  index : Nat
  line : Nat
  column : Nat
  deriving Repr

namespace Cursor

/-- The start of a text. -/
def ofText (text : String) : Cursor := ⟨text.toList, 0, 0, 0⟩

/-- Passes over characters of a line. -/
def skip (c : Cursor) (n : Nat) : Cursor :=
  { c with rest := c.rest.drop n, index := c.index + n, column := c.column + n }

/-- Passes over characters of a line for as long as they satisfy a condition. -/
def skipWhile (c : Cursor) (p : Char → Bool) : Cursor := c.skip (c.rest.takeWhile p).length

/-- Passes over the rest of a line. -/
def skipLine (c : Cursor) : Cursor := c.skipWhile fun x => !isBreak x

/-- Goes to the next line, over a line end of some characters. -/
def nextLine (c : Cursor) (n : Nat) : Cursor :=
  { rest := c.rest.drop n, index := c.index + n, line := c.line + 1, column := 0 }

/-- Passes over a line end, if there is one. What it stands for in a scalar is a line
feed, except for separators of lines and of paragraphs. -/
def readBreak (c : Cursor) : List Char × Cursor :=
  match c.rest with
  | '\r' :: '\n' :: _ => (['\n'], c.nextLine 2)
  | x :: _ =>
    if x = '\n' ∨ x = '\r' ∨ x = '\x85' then (['\n'], c.nextLine 1)
    else if isBreak x then ([x], c.nextLine 1)
    else ([], c)
  | [] => ([], c)

/-- Whether a marker of documents, three times the same character, stands here. -/
def atMarker (c : Cursor) (mark : Char) : Bool :=
  c.column = 0 && [mark, mark, mark].isPrefixOf c.rest && isBlankOrEnd (c.rest.drop 3)

/-- Whether a document starts or ends here. -/
def atAnyMarker (c : Cursor) : Bool := c.atMarker '-' || c.atMarker '.'

end Cursor

/-! ### Gaps -/

/-- What stands between two words of a scalar: the blanks before the first line end
and, once `broken`, what the line ends stand for. -/
structure Gap where
  blanks : List Char
  broken : Bool
  breaks : List Char
  /-- Whether the first line end was escaped, so that it stands for nothing. -/
  escaped : Bool

namespace Gap

/-- The start of a gap. -/
def start : Gap := ⟨[], false, [], false⟩

/-- The start of a gap behind an escaped line end. -/
def afterEscape : Gap := ⟨[], true, [], true⟩

/-- What a gap stands for: its blanks within a line; a blank for one line end; and of
several line feeds, all but the first. -/
def text (g : Gap) : List Char :=
  if !g.broken then g.blanks
  else if g.escaped then g.breaks
  else match g.breaks with
    | ['\n'] => [' ']
    | '\n' :: more => more
    | breaks => breaks

/-- Reads a gap. A tab that stands for indentation is a fault where `tabs` says so,
which is told the column. -/
def read (tabs : Nat → Bool) : Nat → Gap → Cursor → Option (Gap × Cursor)
  | 0, g, c => some (g, c)
  | fuel + 1, g, c =>
    match c.rest with
    | [] => some (g, c)
    | x :: _ =>
      if isGap x then
        if x = '\t' ∧ g.broken ∧ tabs c.column then none
        else if g.broken then read tabs fuel g (c.skip 1)
        else read tabs fuel { g with blanks := g.blanks ++ [x] } (c.skip 1)
      else if isBreak x then
        let (ends, c) := c.readBreak
        read tabs fuel { g with broken := true, breaks := g.breaks ++ ends } c
      else some (g, c)

end Gap

end SheetGrammar.Yaml
