import SheetGrammar.Pattern.Class
import SheetGrammar.Pattern.Room
import SheetGrammar.Word

/-!
# Reading patterns

A pattern is read from left to right with a stack of open groups.  A text that is
no pattern reads as nothing: look-around and backreferences do not exist, groups
and classes have to be closed, and repetitions need something to repeat.

## Main definitions

* `Item`, `Level`, `OpenGroup` — what has been read so far.
* `readNode?` — the tree of a pattern's text.
-/

namespace SheetGrammar.Pattern

/-- A part of a sequence: a tree, or a setting of flags, which nothing can
repeat. -/
structure Item where
  node : Option Node
  depth : Nat
  deriving Repr, Inhabited

/-- The alternatives and the parts of the last one, both from right to left. -/
structure Level where
  finished : List Item
  parts : List Item
  deriving Repr, Inhabited

namespace Level

/-- Nothing read yet. -/
def start : Level := ⟨[], []⟩

/-- Adds a part to the last alternative. -/
def push (l : Level) (i : Item) : Level := { l with parts := i :: l.parts }

/-- The largest depth among some parts. -/
def maxDepth (l : List Item) : Nat := l.foldl (fun d i => max d i.depth) 0

/-- The last alternative as one part. -/
def sequence (l : Level) : Item :=
  match l.parts with
  | [] => ⟨some .empty, 0⟩
  | [i] => ⟨some (i.node.getD .empty), i.depth⟩
  | parts => ⟨some (.sequence (parts.reverse.filterMap (·.node))), maxDepth parts + 1⟩

/-- Ends the last alternative. -/
def bar (l : Level) : Level := ⟨l.sequence :: l.finished, []⟩

/-- All alternatives as one part. -/
def whole (l : Level) : Item :=
  match l.finished with
  | [] => l.sequence
  | finished =>
    let last := l.sequence
    let nodes := finished.reverse.map fun i => i.node.getD .empty
    ⟨some (.choices nodes (last.node.getD .empty)), max last.depth (maxDepth finished) + 1⟩

end Level

/-- A group whose closing parenthesis has not been read: what stands before it,
its number if it captures, and the flags that hold again behind it. -/
structure OpenGroup where
  outside : Level
  index : Option Nat
  flags : Flags
  deriving Repr

/-- All that has been read. -/
structure Progress where
  flags : Flags
  level : Level
  groups : List OpenGroup
  count : Nat
  names : List (List Char)
  deriving Repr

/-! ### Repetitions -/

/-- Repeats the last part. -/
def repeatLast? (p : Progress) (low : Nat) (high : Option Nat) (greedy : Bool) : Option Progress :=
  match p.level.parts with
  | ⟨some node, depth⟩ :: rest =>
    let node := node.repeat' low high (greedy != p.flags.swapGreed)
    some { p with level := { p.level with parts := ⟨some node, depth + 1⟩ :: rest } }
  | _ => none

/-- Reads the question mark that makes a repetition lazy. -/
def readGreed : List Char → Bool × List Char
  | '?' :: cs => (false, cs)
  | cs => (true, cs)

/-- Reads digits, with blanks around them. -/
def readCount (f : Flags) : Nat → Option Nat → List Char → Option Nat × List Char
  | 0, acc, cs => (acc, cs)
  | fuel + 1, acc, cs =>
    match cs with
    | c :: rest =>
      if c.isDigit then readCount f fuel (some (10 * acc.getD 0 + digitValue c)) (skipBlanks f rest)
      else (acc, dropBlanks cs)
    | [] => (acc, [])
where
  /-- The value of a digit. -/
  digitValue (c : Char) : Nat := c.toNat - '0'.toNat

/-- The largest count of a repetition. -/
def maxCount : Nat := wordSize 32 - 1

/-- Reads the bounds of a repetition behind the opening brace. -/
def readBounds? (f : Flags) (cs : List Char) : Option ((Nat × Option Nat) × List Char) :=
  let number := fun cs : List Char => readCount f cs.length none (dropBlanks cs)
  let close := fun (low : Nat) (high : Option Nat) (cs : List Char) =>
    match cs with
    | '\x7d' :: rest => some ((low, high), skipBlanks f rest)
    | _ => none
  let fits := fun n : Nat => n ≤ maxCount
  match skipBlanks f cs with
  | [] => none
  | cs =>
    match number cs with
    | (low, ',' :: rest) =>
      match skipBlanks f rest with
      | '\x7d' :: rest => low.bind fun n => if fits n then close n none ('\x7d' :: rest) else none
      | rest =>
        match low, number rest with
        | some n, (some m, rest) => if fits n ∧ fits m ∧ n ≤ m then close n (some m) rest else none
        | _, _ => none
    | (some n, rest) => if fits n then close n (some n) rest else none
    | (none, _) => none

/-! ### Groups -/

/-- Sets or clears the flag of a letter. -/
def Flags.set? (f : Flags) (c : Char) (on : Bool) : Option Flags :=
  if c = 'i' then some { f with ignoreCase := on }
  else if c = 'm' then some { f with multiLine := on }
  else if c = 's' then some { f with dotAll := on }
  else if c = 'U' then some { f with swapGreed := on }
  else if c = 'u' then some { f with unicode := on }
  else if c = 'x' then some { f with verbose := on }
  else if c = 'R' then some { f with crlf := on }
  else none

/-- Reads flags up to a colon or a closing parenthesis, which stays. Every letter
may stand once, and a minus once, in front of some letter. -/
def readFlags? : Flags → Bool → List Char → List Char → Option (Flags × List Char)
  | _, _, _, [] => none
  | f, negative, seen, c :: cs =>
    if c = ':' ∨ c = ')' then
      if seen.head? = some '-' then none else some (f, c :: cs)
    else if seen.contains c then none
    else if c = '-' then readFlags? f true ('-' :: seen) cs
    else match f.set? c (!negative) with
      | some f => readFlags? f negative (c :: seen) cs
      | none => none

/-- Whether a character may start the name of a group. -/
def isNameStart (c : Char) : Bool :=
  c = '_' || c.isAlpha
    || (0x80 ≤ c.toNat && ((Unicode.property? "alphabetic").getD .empty).contains c)

/-- Whether a character may stand in the name of a group. -/
def isNameChar (c : Char) : Bool :=
  isNameStart c || c = '.' || c = '[' || c = ']' || c.isDigit
    || (0x80 ≤ c.toNat && (Unicode.categoryUnion ["nd", "nl", "no"]).contains c)

/-- Reads the name of a group up to the closing angle bracket. -/
def readName? (cs : List Char) : Option (List Char × List Char) :=
  let name := cs.takeWhile (· ≠ '>')
  match name, cs.dropWhile (· ≠ '>') with
  | c :: rest, '>' :: behind =>
    if isNameStart c && rest.all isNameChar then some (name, behind) else none
  | _, _ => none

/-- Opens a group and enters it. -/
def Progress.enter (p : Progress) (index : Option Nat) (inside : Flags) : Progress :=
  { p with
    flags := inside
    level := .start
    groups := ⟨p.level, index, p.flags⟩ :: p.groups
    count := p.count + if index.isSome then 1 else 0 }

/-- Opens a group that captures under a name. -/
def enterNamed? (p : Progress) (cs : List Char) : Option (Progress × List Char) :=
  (readName? cs).bind fun (name, rest) =>
    if p.names.contains name then none
    else
      let p := { p with names := name :: p.names }
      some (p.enter (some (p.count + 1)) p.flags, rest)

/-- Reads what follows an opening parenthesis. -/
def openGroup? (p : Progress) (cs : List Char) : Option (Progress × List Char) :=
  match skipBlanks p.flags cs with
  | '?' :: 'P' :: '<' :: rest => enterNamed? p rest
  | '?' :: '<' :: '=' :: _ => none
  | '?' :: '<' :: '!' :: _ => none
  | '?' :: '<' :: rest => enterNamed? p rest
  | '?' :: rest =>
    match readFlags? p.flags false [] rest with
    | some (f, ')' :: behind) =>
      -- flags must be named, and hold up to the end of the group around them
      if rest.head? = some ')' then none
      else some ({ p with flags := f, level := p.level.push ⟨none, 0⟩ }, behind)
    | some (f, _ :: behind) => some (p.enter none f, behind)
    | _ => none
  | rest => some (p.enter (some (p.count + 1)) p.flags, rest)

/-- Leaves the innermost open group. -/
def leave? (p : Progress) : Option Progress :=
  match p.groups with
  | [] => none
  | g :: groups =>
    let inside := p.level.whole
    let body := inside.node.getD .empty
    let node := match g.index with
      | some i => Node.group i body
      | none => body
    some { p with flags := g.flags, level := g.outside.push ⟨some node, inside.depth + 1⟩, groups }

/-! ### The whole pattern -/

/-- The tree of an escape or a character. -/
def pieceNode? (f : Flags) : Piece → Option Node
  | .literal c byte => (literalSet? f c byte).map Node.chars
  | .set s => some (.chars s)
  | .anchor a => some (.anchor a)

/-- The tree of `.`. -/
def dotNode? (f : Flags) : Option Node :=
  if !f.unicode then none
  else if f.dotAll then some (.chars .all)
  else if f.crlf then some (.chars (CharSet.ofText "A D").compl)
  else some (.chars (CharSet.ofText "A").compl)

/-- The condition of `^`. -/
def caretAnchor (f : Flags) : Anchor :=
  if f.multiLine then (if f.crlf then .anyLineStart else .lineStart) else .start

/-- The condition of `$`. -/
def dollarAnchor (f : Flags) : Anchor :=
  if f.multiLine then (if f.crlf then .anyLineEnd else .lineEnd) else .finish

/-- Adds a tree to the sequence. -/
def Progress.push (p : Progress) (n : Node) (depth : Nat) : Progress :=
  { p with level := p.level.push ⟨some n, depth⟩ }

/-- Reads on to the end of the pattern. -/
def readOn? : Nat → Progress → List Char → Option Progress
  | 0, _, _ => none
  | fuel + 1, p, cs =>
    match skipBlanks p.flags cs with
    | [] => some p
    | '(' :: rest => (openGroup? p rest).bind fun (p, rest) => readOn? fuel p rest
    | ')' :: rest => (leave? p).bind fun p => readOn? fuel p rest
    | '|' :: rest => readOn? fuel { p with level := p.level.bar } rest
    | '[' :: rest =>
      (readClass? p.flags rest).bind fun (part, rest) =>
        readOn? fuel (p.push (.chars part.members) part.depth) rest
    | '?' :: rest =>
      let (greedy, rest) := readGreed rest
      (repeatLast? p 0 (some 1) greedy).bind fun p => readOn? fuel p rest
    | '*' :: rest =>
      let (greedy, rest) := readGreed rest
      (repeatLast? p 0 none greedy).bind fun p => readOn? fuel p rest
    | '+' :: rest =>
      let (greedy, rest) := readGreed rest
      (repeatLast? p 1 none greedy).bind fun p => readOn? fuel p rest
    | '\x7b' :: rest =>
      (readBounds? p.flags rest).bind fun ((low, high), rest) =>
        let (greedy, rest) := readGreed rest
        (repeatLast? p low high greedy).bind fun p => readOn? fuel p rest
    | '\\' :: rest =>
      (readEscape? p.flags rest).bind fun (piece, rest) =>
        (pieceNode? p.flags piece).bind fun n => readOn? fuel (p.push n 0) rest
    | '.' :: rest => (dotNode? p.flags).bind fun n => readOn? fuel (p.push n 0) rest
    | '^' :: rest => readOn? fuel (p.push (.anchor (caretAnchor p.flags)) 0) rest
    | '$' :: rest => readOn? fuel (p.push (.anchor (dollarAnchor p.flags)) 0) rest
    | c :: rest =>
      (literalSet? p.flags c false).bind fun s => readOn? fuel (p.push (.chars s) 0) rest

/-- How deep the parts of a pattern may be nested. -/
def maxDepth : Nat := 250

/-- The tree of a pattern. There is none for a text that is no pattern, that is
nested too deeply or that takes too much room. -/
def readNode? (cs : List Char) : Option Node :=
  (readOn? (cs.length + 1) ⟨.initial, .start, [], 0, []⟩ cs).bind fun p =>
    if p.groups.isEmpty then
      let whole := p.level.whole
      let node := whole.node.getD .empty
      if whole.depth ≤ maxDepth ∧ node.fits then some node else none
    else none

end SheetGrammar.Pattern
