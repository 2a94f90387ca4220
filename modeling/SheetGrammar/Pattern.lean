import SheetGrammar.Pattern.Program
import SheetGrammar.Pattern.Reader

/-!
# Patterns

Regular expressions that test texts and cut pieces out of them.  Matching is
leftmost-first: of all matches the one that starts first counts, and of those the
one that prefers earlier alternatives and, for greedy repetitions, more rounds.

## Main definitions

* `Pattern` — a compiled pattern with its text.
* `Pattern.parse?` — compiles a text.
* `Pattern.isMatch` — whether a pattern matches somewhere in a text.
* `Pattern.captures?` — what the groups of the leftmost match hold.
-/

namespace SheetGrammar

/-- A pattern: its text and what the text means. -/
structure Pattern where
  text : String
  /-- How many groups of the pattern capture something. -/
  groups : Nat
  program : Pattern.Program
  deriving Repr, Inhabited

namespace Pattern

/-- Compiles a pattern; `none` if the text is no pattern. -/
def parse? (text : String) : Option Pattern :=
  (readNode? text.toList).map fun n => ⟨text, n.groupBound, n.compile⟩

/-- The part of a text between two places. -/
def slice (cs : List Char) (start stop : Nat) : String :=
  String.ofList ((cs.drop start).take (stop - start))

/-- What the leftmost match in a text holds: first the match itself, then each
group, or `none` for a group that took no part. -/
def captures? (p : Pattern) (text : String) : Option (List (Option String)) :=
  (p.program.search text.toList).map fun slots =>
    (List.range (p.groups + 1)).map fun i =>
      match slots.getD (2 * i) none, slots.getD (2 * i + 1) none with
      | some a, some b => some (slice text.toList a b)
      | _, _ => none

/-- Whether a pattern matches somewhere in a text. -/
def isMatch (p : Pattern) (text : String) : Bool :=
  (p.program.search text.toList).isSome

end Pattern

end SheetGrammar
