import SheetGrammar.Text.Hex

/-!
# Sets of characters

A set of characters is kept as an increasing list of disjoint intervals of code
points.  Every operation goes through `CharSet.ofIntervals`, which sorts and
merges, so two sets with the same members have the same intervals.

## Main definitions

* `CharSet` — the sets.
* `CharSet.contains` — membership.
* `CharSet.union`, `inter`, `diff`, `symmDiff`, `compl` — the Boolean operations.
* `CharSet.ofText` — the sets of a table written as hexadecimal ranges.
-/

namespace SheetGrammar

/-- A set of characters, as intervals of code points with both ends included. -/
structure CharSet where
  intervals : List (Nat × Nat)
  deriving DecidableEq, Repr, Inhabited

namespace CharSet

/-- The largest code point. -/
def maxCode : Nat := 0x10FFFF

/-- Merges the touching intervals of a list sorted by lower end, from the left. -/
def merge : List (Nat × Nat) → List (Nat × Nat)
  | [] => []
  | [p] => [p]
  | p :: q :: rest =>
    if q.1 ≤ p.2 + 1 then merge ((p.1, max p.2 q.2) :: rest) else p :: merge (q :: rest)
termination_by l => l.length

/-- The set of all code points in some interval of the list; an interval whose
ends are reversed is empty. -/
def ofIntervals (l : List (Nat × Nat)) : CharSet :=
  ⟨merge ((l.filter fun p => p.1 ≤ p.2).mergeSort fun p q => p.1 ≤ q.1)⟩

/-- The empty set. -/
def empty : CharSet := ⟨[]⟩

/-- The set of all characters. -/
def all : CharSet := ⟨[(0, maxCode)]⟩

/-- The set of one character. -/
def single (c : Char) : CharSet := ⟨[(c.toNat, c.toNat)]⟩

/-- The characters from `lo` to `hi`. -/
def range (lo hi : Char) : CharSet := ofIntervals [(lo.toNat, hi.toNat)]

/-- Whether a code point is in the set. -/
def containsCode (s : CharSet) (n : Nat) : Bool :=
  s.intervals.any fun p => p.1 ≤ n && n ≤ p.2

/-- Whether a character is in the set. -/
def contains (s : CharSet) (c : Char) : Bool :=
  s.containsCode c.toNat

/-- The members of either set. -/
def union (s t : CharSet) : CharSet :=
  ofIntervals (s.intervals ++ t.intervals)

/-- The gaps of a merged list from the code point `start` on. -/
def gaps (start : Nat) : List (Nat × Nat) → List (Nat × Nat)
  | [] => if start ≤ maxCode then [(start, maxCode)] else []
  | (lo, hi) :: rest =>
    if start < lo then (start, lo - 1) :: gaps (hi + 1) rest else gaps (hi + 1) rest

/-- All characters that are not in the set. -/
def compl (s : CharSet) : CharSet := ⟨gaps 0 s.intervals⟩

/-- The members of both sets. -/
def inter (s t : CharSet) : CharSet := (s.compl.union t.compl).compl

/-- The members of `s` that are not in `t`. -/
def diff (s t : CharSet) : CharSet := (s.compl.union t).compl

/-- The members of exactly one of the two sets. -/
def symmDiff (s t : CharSet) : CharSet := (s.diff t).union (t.diff s)

/-- The union of a list of sets. -/
def unions (l : List CharSet) : CharSet :=
  ofIntervals (l.flatMap (·.intervals))

/-- The only member of the set, if it has just one. -/
def onlyCode? (s : CharSet) : Option Nat :=
  match s.intervals with
  | [(lo, hi)] => if lo = hi then some lo else none
  | _ => none

/-- Whether all members are below U+0080. -/
def isAscii (s : CharSet) : Bool := s.intervals.all fun p => p.2 < 0x80

/-- Reads one `LO-HI` or `CODE` of a table. -/
def intervalOfText (s : List Char) : Nat × Nat :=
  let lo := (hexNumber? (s.takeWhile (· ≠ '-'))).getD 0
  match s.dropWhile (· ≠ '-') with
  | [] => (lo, lo)
  | _ :: hi => (lo, (hexNumber? hi).getD 0)

/-- The words of a table. -/
def wordsOf (cs : List Char) : List (List Char) :=
  (cs.splitOnP fun c => c = ' ' || c = '\n').filter (· ≠ [])

/-- The set that a table lists as hexadecimal ranges, separated by blanks. -/
def ofText (s : String) : CharSet := ofIntervals ((wordsOf s.toList).map intervalOfText)

end CharSet

end SheetGrammar
