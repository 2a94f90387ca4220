import SheetGrammar.Text.Unicode.Folding

/-!
# Patterns as trees

The meaning of a regular expression once its text has been read: case folding,
the flags and the names of character classes are gone, and what is left is built
from sets of characters, anchors, groups, sequence, choice and repetition.

## Main definitions

* `Anchor` — conditions on a place between two characters.
* `Node` — the trees.
* `Node.repeat'`, `Node.sequence`, `Node.choices` — trees of trees, without detours.
* `Node.groupBound` — the number of the last capture group that can take part in a match.
-/

namespace SheetGrammar.Pattern

/-- A condition on a place in a text, told from the characters on its two sides. -/
inductive Anchor
  /-- The start of the text. -/
  | start
  /-- The end of the text. -/
  | finish
  /-- The start of a line; lines end with a line feed. -/
  | lineStart
  /-- The end of a line. -/
  | lineEnd
  /-- The start of a line; lines end with a carriage return, a line feed or both. -/
  | anyLineStart
  /-- The end of a line of that kind. -/
  | anyLineEnd
  /-- A word starts or ends here. -/
  | wordEdge (word : CharSet)
  /-- No word starts or ends here. -/
  | noWordEdge (word : CharSet)
  /-- A word starts here. -/
  | wordStart (word : CharSet)
  /-- A word ends here. -/
  | wordEnd (word : CharSet)
  /-- No word character stands before this place. -/
  | wordStartHalf (word : CharSet)
  /-- No word character stands behind this place. -/
  | wordEndHalf (word : CharSet)
  deriving Repr, Inhabited

/-- Whether the condition holds between two characters, of which either is
missing at an end of the text. -/
def Anchor.holds (before after : Option Char) : Anchor → Bool
  | start => before.isNone
  | finish => after.isNone
  | lineStart => before = none ∨ before = some '\n'
  | lineEnd => after = none ∨ after = some '\n'
  | anyLineStart =>
    before = none ∨ before = some '\n' ∨ (before = some '\r' ∧ after ≠ some '\n')
  | anyLineEnd =>
    after = none ∨ after = some '\r' ∨ (after = some '\n' ∧ before ≠ some '\r')
  | wordEdge w => before.any w.contains != after.any w.contains
  | noWordEdge w => before.any w.contains == after.any w.contains
  | wordStart w => !before.any w.contains && after.any w.contains
  | wordEnd w => before.any w.contains && !after.any w.contains
  | wordStartHalf w => !before.any w.contains
  | wordEndHalf w => !after.any w.contains

/-- A pattern without its text. -/
inductive Node
  /-- Matches the empty text. -/
  | empty
  /-- Matches one character of the set. -/
  | chars (set : CharSet)
  /-- Matches the empty text where the condition holds. -/
  | anchor (a : Anchor)
  /-- Remembers where its body matched. -/
  | group (index : Nat) (body : Node)
  /-- Matches one part after the other. -/
  | seq (first second : Node)
  /-- Matches one of the parts, the first if possible. -/
  | choice (first second : Node)
  /-- Matches its body `low` times, and more often up to `high` times, as often
  as possible if `greedy` and else as rarely as possible. -/
  | repeated (body : Node) (low : Nat) (high : Option Nat) (greedy : Bool)
  deriving Repr, Inhabited

namespace Node

/-- Whether the tree matches nothing but the empty text. -/
def isEmptyOnly : Node → Bool
  | empty => true
  | chars _ => false
  | anchor _ => true
  | group _ body => body.isEmptyOnly
  | seq a b => a.isEmptyOnly && b.isEmptyOnly
  | choice a b => a.isEmptyOnly && b.isEmptyOnly
  | repeated body _ high _ => high = some 0 || body.isEmptyOnly

/-- Whether every match of the tree has at least one character. -/
def isNonempty : Node → Bool
  | empty => false
  | chars set => set.intervals ≠ []
  | anchor _ => false
  | group _ body => body.isNonempty
  | seq a b => a.isNonempty || b.isNonempty
  | choice a b => a.isNonempty && b.isNonempty
  | repeated body low _ _ => low ≠ 0 && body.isNonempty

/-- A repetition. Repeating a tree that matches the empty text alone more than
once changes nothing, and neither does repeating a tree once. -/
def repeat' (body : Node) (low : Nat) (high : Option Nat) (greedy : Bool) : Node :=
  let (low, high) :=
    if body.isEmptyOnly then (min low 1, some ((high.getD 1).min 1)) else (low, high)
  if low = 0 ∧ high = some 0 then empty
  else if low = 1 ∧ high = some 1 then body
  else repeated body low high greedy

/-- One part after the other; parts that are empty are left out. -/
def sequence : List Node → Node
  | [] => empty
  | empty :: parts => sequence parts
  | part :: parts =>
    match sequence parts with
    | empty => part
    | rest => seq part rest

/-- The alternatives of a tree, from left to right. -/
def alternatives : Node → List Node
  | choice a b => a.alternatives ++ b.alternatives
  | n => [n]

/-- The set of a tree that matches one character. -/
def set? : Node → Option CharSet
  | chars set => some set
  | _ => none

/-- Some alternatives, which are characters or sets of them. Characters alone and sets alone are
one set together; no two of these matches are of different lengths. -/
def joinSets? (nodes : List Node) : Option Node :=
  (nodes.mapM set?).bind fun sets =>
    let single := fun s : CharSet => s.onlyCode?.isSome
    if sets.all single || sets.all fun s => !single s then some (chars (.unions sets)) else none

/-- A choice between some trees and a last one. -/
def choices (first : List Node) (last : Node) : Node :=
  let nodes := (first ++ [last]).flatMap alternatives
  (joinSets? nodes).getD (nodes.dropLast.foldr choice (nodes.getLastD empty))

/-- The largest number of a capture group in the tree. -/
def groupBound : Node → Nat
  | empty => 0
  | chars _ => 0
  | anchor _ => 0
  | group index body => max index body.groupBound
  | seq a b => max a.groupBound b.groupBound
  | choice a b => max a.groupBound b.groupBound
  | repeated body _ _ _ => body.groupBound

end Node

end SheetGrammar.Pattern
