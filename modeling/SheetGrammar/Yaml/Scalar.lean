import SheetGrammar.Text.Hex
import SheetGrammar.Yaml.Cursor
import SheetGrammar.Yaml.Token

/-!
# Reading scalars

Plain and quoted scalars consist of words with gaps between them; block scalars of
lines.

## Main definitions

* `readPlain?`, `readQuoted?`, `readBlock?` — scalars in each style.
-/

namespace SheetGrammar.Yaml

/-! ### Plain scalars -/

/-- Whether a character ends a plain scalar inside brackets. -/
def endsFlowWord (c : Char) : Bool :=
  c = ',' || c = '[' || c = ']' || c = '\x7b' || c = '\x7d'

/-- Reads a word of a plain scalar. Inside brackets, a colon right before a bracket,
a comma or a question mark is a fault. -/
def readWord? (flow : Bool) : List Char → Option (List Char)
  | [] => some []
  | x :: cs =>
    if isGap x || isBreak x then some []
    else if flow && x = ':' && (cs.head?.any fun y => y = '?' || endsFlowWord y) then none
    else if (x = ':' && isBlankOrEnd cs) || (flow && endsFlowWord x) then some []
    else (readWord? flow cs).map (x :: ·)

/-- What was read of a scalar that may go on over several lines. -/
structure Plain where
  text : List Char
  cursor : Cursor
  /-- Whether the scalar ends in front of a line of its own. -/
  broken : Bool

/-- Reads words and gaps. Outside brackets, a line that is not indented by `indent`
ends the scalar; inside, `flow` holds. -/
def readWords? (flow : Bool) (indent : Nat) : Nat → List Char → Gap → Cursor → Option Plain
  | 0, text, gap, c => some ⟨text, c, gap.broken⟩
  | fuel + 1, text, gap, c =>
    if c.atAnyMarker ∨ c.rest.head? = some '#' then some ⟨text, c, gap.broken⟩
    else match readWord? flow c.rest with
      | none => none
      | some word =>
        let text := if word = [] then text else text ++ gap.text ++ word
        let gap := if word = [] then gap else Gap.start
        let c := c.skip word.length
        if !isBlankOrEnd c.rest ∨ c.rest = [] then some ⟨text, c, gap.broken⟩
        else match Gap.read (fun column => column < indent) c.rest.length gap c with
          | none => none
          | some (gap, c) =>
            if !flow ∧ c.column < indent then some ⟨text, c, gap.broken⟩
            else readWords? flow indent fuel text gap c

/-- Reads a plain scalar. -/
def readPlain? (flow : Bool) (indent : Nat) (c : Cursor) : Option Plain :=
  readWords? flow indent (c.rest.length + 1) [] Gap.start c

/-! ### Quoted scalars -/

/-- The character that a letter behind a backslash stands for. -/
def escape? (c : Char) : Option Char :=
  if c = '0' then some '\x00'
  else if c = 'a' then some '\x07'
  else if c = 'b' then some '\x08'
  else if c = 't' ∨ c = '\t' then some '\t'
  else if c = 'n' then some '\n'
  else if c = 'v' then some '\x0b'
  else if c = 'f' then some '\x0c'
  else if c = 'r' then some '\r'
  else if c = 'e' then some '\x1b'
  else if c = ' ' then some ' '
  else if c = '"' then some '"'
  else if c = '/' then some '/'
  else if c = '\\' then some '\\'
  else if c = 'N' then some '\x85'
  else if c = '_' then some '\xa0'
  else if c = 'L' then some '\u2028'
  else if c = 'P' then some '\u2029'
  else none

/-- How many hexadecimal digits follow a letter behind a backslash. -/
def escapeDigits? (c : Char) : Option Nat :=
  if c = 'x' then some 2 else if c = 'u' then some 4 else if c = 'U' then some 8 else none

/-- The character that an escape stands for, and how long the escape is; the text
starts behind the backslash. -/
def readEscape? : List Char → Option (Char × Nat)
  | [] => none
  | c :: cs =>
    match escapeDigits? c with
    | none => (escape? c).map (·, 2)
    | some n =>
      let digits := cs.take n
      if digits.length < n then none
      else ((hexNumber? digits).bind charOfCode?).map (·, n + 2)

/-- Where a word of a quoted scalar ends. -/
inductive WordEnd
  /-- Before a gap, or at the closing quote. -/
  | plain
  /-- Before an escaped line end. -/
  | escapedBreak
  deriving DecidableEq

/-- Reads a word between double quotes: its text and how long it is. -/
def readDoubleWord? : Nat → List Char → Option (List Char × Nat × WordEnd)
  | 0, _ => some ([], 0, .plain)
  | _, [] => some ([], 0, .plain)
  | fuel + 1, x :: cs =>
    if isGap x || isBreak x || x = '"' then some ([], 0, .plain)
    else if x = '\\' then
      if cs.head?.any isBreak then some ([], 0, .escapedBreak)
      else match readEscape? cs with
        | none => none
        | some (c, n) =>
          (readDoubleWord? fuel (cs.drop (n - 1))).map fun (word, m, e) => (c :: word, m + n, e)
    else (readDoubleWord? fuel cs).map fun (word, m, e) => (x :: word, m + 1, e)

/-- Reads a word between single quotes: its text and how long it is. -/
def readSingleWord : List Char → List Char × Nat
  | [] => ([], 0)
  | '\x27' :: '\x27' :: cs =>
    let (word, n) := readSingleWord cs
    ('\x27' :: word, n + 2)
  | x :: cs =>
    if isGap x || isBreak x || x = '\x27' then ([], 0)
    else
      let (word, n) := readSingleWord cs
      (x :: word, n + 1)

/-- Reads a word between quotes. -/
def readQuotedWord? (quote : Char) (cs : List Char) : Option (List Char × Nat × WordEnd) :=
  if quote = '"' then readDoubleWord? cs.length cs
  else
    let (word, n) := readSingleWord cs
    some (word, n, .plain)

/-- Reads words and gaps up to the closing quote. -/
def readQuotedWords? (quote : Char) : Nat → List Char → Cursor → Option (List Char × Cursor)
  | 0, _, _ => none
  | fuel + 1, text, c =>
    if c.atAnyMarker ∨ c.rest = [] then none
    else match readQuotedWord? quote c.rest with
      | none => none
      | some (word, n, e) =>
        let c := c.skip n
        let text := text ++ word
        if e = .escapedBreak then
          let c := (c.skip 1).readBreak.2
          match Gap.read (fun _ => false) c.rest.length Gap.afterEscape c with
          | none => none
          | some (gap, c) => readQuotedWords? quote fuel (text ++ gap.text) c
        else if c.rest.head? = some quote then some (text, c.skip 1)
        else
          match Gap.read (fun _ => false) c.rest.length Gap.start c with
          | none => none
          | some (gap, c) => readQuotedWords? quote fuel (text ++ gap.text) c

/-- Reads a scalar between quotes, behind the opening one. -/
def readQuoted? (quote : Char) (c : Cursor) : Option (List Char × Cursor) :=
  readQuotedWords? quote (c.rest.length + 1) [] c

/-! ### Block scalars -/

/-- What happens to the line ends at the end of a block scalar. -/
inductive Chomping
  /-- None is kept. -/
  | strip
  /-- One is kept. -/
  | clip
  /-- All are kept. -/
  | keep
  deriving DecidableEq

/-- Reads a sign that says what to keep. -/
def readChomping? (c : Cursor) : Option (Chomping × Cursor) :=
  match c.rest with
  | '+' :: _ => some (.keep, c.skip 1)
  | '-' :: _ => some (.strip, c.skip 1)
  | _ => none

/-- Reads a digit that says how deep the lines are indented; zero is a fault. -/
def readIncrement? (c : Cursor) : Option (Option Nat × Cursor) :=
  match c.rest with
  | x :: _ =>
    if x = '0' then none
    else if x.isDigit then some (some (x.toNat - '0'.toNat), c.skip 1)
    else some (none, c)
  | [] => some (none, c)

/-- Reads the sign and the digit behind the indicator of a block scalar, in either
order. -/
def readHeader? (c : Cursor) : Option (Chomping × Option Nat × Cursor) :=
  match readChomping? c with
  | some (chomping, c) => (readIncrement? c).map fun (n, c) => (chomping, n, c)
  | none =>
    match readIncrement? c with
    | none => none
    | some (none, c) => some (.clip, none, c)
    | some (some n, c) =>
      match readChomping? c with
      | some (chomping, c) => some (chomping, some n, c)
      | none => some (.clip, some n, c)

/-- Reads empty lines before a line of a block scalar, and the indentation of that
line as far as it belongs to the scalar. Before the first line the indentation is
not known unless `indent?` gives it; then the deepest line counts, which `deepest`
tells. -/
def readEmptyLines? (indent? : Option Nat) :
    Nat → List Char → Nat → Cursor → Option (List Char × Nat × Cursor)
  | 0, breaks, deepest, c => some (breaks, deepest, c)
  | fuel + 1, breaks, deepest, c =>
    let within := fun column : Nat => indent?.all fun indent => column < indent
    let blanks := (c.rest.takeWhile (· = ' ')).length
    let c := c.skip (match indent? with
      | some indent => min blanks (indent - c.column)
      | none => blanks)
    let deepest := max deepest c.column
    if within c.column ∧ c.rest.head? = some '\t' then none
    else if (c.rest.head?.any isBreak) then
      let (ends, c) := c.readBreak
      readEmptyLines? indent? fuel (breaks ++ ends) deepest c
    else some (breaks, deepest, c)

/-- What was read of a block scalar: its text, the last line end and the empty lines
behind it, and whether the last line started with a blank. -/
structure BlockText where
  text : List Char
  leading : List Char
  trailing : List Char
  indented : Bool

/-- What stands between two lines of a block scalar. -/
def BlockText.joint (b : BlockText) (folds indented : Bool) : List Char :=
  if folds && b.leading = ['\n'] && !b.indented && !indented then
    if b.trailing = [] then [' '] else b.trailing
  else b.leading ++ b.trailing

/-- Reads the lines of a block scalar. -/
def readBlockLines? (folds : Bool) (indent : Nat) :
    Nat → BlockText → Cursor → Option (BlockText × Cursor)
  | 0, b, c => some (b, c)
  | fuel + 1, b, c =>
    if c.column = indent ∧ c.rest ≠ [] then
      let indented := c.rest.head?.any isGap
      let line := c.rest.takeWhile fun x => !isBreak x
      let (ends, next) := (c.skip line.length).readBreak
      match readEmptyLines? (some indent) (next.rest.length + 1) [] 0 next with
      | none => none
      | some (trailing, _, next) =>
        readBlockLines? folds indent fuel
          ⟨b.text ++ b.joint folds indented ++ line, ends, trailing, indented⟩ next
    else some (b, c)

/-- Reads a block scalar behind its indicator; `parent` is the indentation of the
collection around it, -1 at the top. -/
def readBlock? (folds : Bool) (parent : Int) (c : Cursor) : Option (List Char × Cursor) :=
  match readHeader? c with
  | none => none
  | some (chomping, increment, c) =>
    let c := c.skipWhile isGap
    let c := if c.rest.head? = some '#' then c.skipLine else c
    if !isBreakOrEnd c.rest then none
    else
      let c := c.readBreak.2
      let given := increment.map fun n => parent.toNat + n
      match readEmptyLines? given (c.rest.length + 1) [] 0 c with
      | none => none
      | some (trailing, deepest, c) =>
        let indent := given.getD (max (max deepest (parent + 1).toNat) 1)
        match readBlockLines? folds indent (c.rest.length + 1) ⟨[], [], trailing, false⟩ c with
        | none => none
        | some (b, c) =>
          some (b.text ++ (if chomping = .strip then [] else b.leading)
            ++ (if chomping = .keep then b.trailing else []), c)

end SheetGrammar.Yaml
