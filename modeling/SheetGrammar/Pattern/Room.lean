import SheetGrammar.Pattern.Basic

/-!
# The room of patterns

A pattern is refused if the automaton that reads the bytes of a text takes too much room.  There
are two of them, one for either direction.  Repetitions are written out in both, and a set of
characters is spelled out by the bytes that its members have in UTF-8: the forward automaton has
one state for all places from which the same bytes lead on, and the backward automaton shares
nothing but common beginnings.

It is an estimate in two respects: states of very large sets may be forgotten before they can be
shared, and alternatives that begin alike may be spelled out together.

## Main definitions

* `byteSequences` — the bytes of the members of a set.
* `Direction`, `setRoom`, `Node.room` — the room of a set and of a tree.
* `Node.fits` — whether a pattern may take the room that it takes.
-/

namespace SheetGrammar.Pattern

/-! ### Bytes of sets -/

/-- A range of bytes, both ends included. -/
abbrev ByteRange := Nat × Nat

/-- The numbers from `lo` to `hi`, written in base 64 with a digit of any size in front of `k`
others, as sequences of ranges of digits. -/
def digitRanges : (k lo hi : Nat) → List (List ByteRange)
  | 0, lo, hi => [[(lo, hi)]]
  | k + 1, lo, hi =>
    let unit := 64 ^ (k + 1)
    let (first, skipped) := (lo / unit, lo % unit)
    let (last, reached) := (hi / unit, hi % unit)
    if first = last then (digitRanges k skipped reached).map ((first, first) :: ·)
    else
      -- whole units stand between one that is begun within and one that is ended within
      let start := if skipped = 0 then first else first + 1
      let stop := if reached + 1 = unit then last + 1 else last
      (if skipped = 0 then [] else (digitRanges k skipped (unit - 1)).map ((first, first) :: ·))
        ++ (if start < stop then [(start, stop - 1) :: List.replicate (k + 1) (0, 63)] else [])
        ++ (if reached + 1 = unit then [] else (digitRanges k 0 reached).map ((last, last) :: ·))

/-- How UTF-8 writes the code points between two bounds: with so many bytes behind the first one,
to which a number is added. -/
structure Encoded where
  behind : Nat
  mark : Nat
  low : Nat
  high : Nat

/-- The ways to write code points. Surrogates are not written at all. -/
def encodings : List Encoded :=
  [⟨0, 0, 0, 0x7F⟩, ⟨1, 0xC0, 0x80, 0x7FF⟩, ⟨2, 0xE0, 0x800, 0xD7FF⟩, ⟨2, 0xE0, 0xE000, 0xFFFF⟩,
   ⟨3, 0xF0, 0x10000, 0x10FFFF⟩]

/-- Turns digits into bytes. -/
def Encoded.bytes (e : Encoded) : List ByteRange → List ByteRange
  | [] => []
  | (lo, hi) :: rest =>
    (lo + e.mark, hi + e.mark) :: rest.map fun (lo, hi) => (lo + 0x80, hi + 0x80)

/-- The bytes of the code points of an interval, in increasing order. -/
def intervalSequences (interval : Nat × Nat) : List (List ByteRange) :=
  encodings.flatMap fun e =>
    let (lo, hi) := (max interval.1 e.low, min interval.2 e.high)
    if lo ≤ hi then (digitRanges e.behind lo hi).map e.bytes else []

/-- The bytes of the members of a set, in increasing order. -/
def byteSequences (s : CharSet) : List (List ByteRange) := s.intervals.flatMap intervalSequences

/-! ### States -/

/-- The ranges that sequences begin with, each with what comes behind it. -/
def branches : List (List ByteRange) → List (ByteRange × List (List ByteRange))
  | [] => []
  | [] :: others => branches others
  | (r :: rest) :: others =>
    match branches others with
    | [] => [(r, [rest])]
    | (r', rests) :: more =>
      if r = r' then (r, rest :: rests) :: more else (r, [rest]) :: (r', rests) :: more

/-- The places in the tree of some sequences that lead on, each told by what lies behind it; no
sequence has more than `depth` ranges. -/
def places : (depth : Nat) → List (List ByteRange) → List (List (List ByteRange))
  | 0, _ => []
  | depth + 1, seqs =>
    if seqs.all List.isEmpty then []
    else seqs :: (branches seqs).flatMap fun (_, rests) => places depth rests

/-! ### Room -/

/-- A direction in which an automaton reads. -/
inductive Direction
  | forwards
  | backwards
  deriving DecidableEq, Repr

/-- The room of a state. -/
def stateRoom : Nat := 32

/-- The room that a range of bytes takes in a state that reads several. -/
def rangeRoom : Nat := 8

/-- The room that a way on takes in a state that reads nothing. -/
def wayRoom : Nat := 4

/-- The room of a state that reads one of some ranges. -/
def readerRoom (ranges : Nat) : Nat := stateRoom + ranges * rangeRoom

/-- The room of a state with some ways on. -/
def splitRoom (ways : Nat) : Nat := stateRoom + ways * wayRoom

/-- How many bytes a code point has. -/
def byteCount (n : Nat) : Nat :=
  if n < 0x80 then 1 else if n < 0x800 then 2 else if n < 0x10000 then 3 else 4

/-- The room of a set with members beyond ASCII. -/
def wideRoom (d : Direction) (s : CharSet) : Nat :=
  let seqs := byteSequences s
  let states := places 4 seqs
  match d with
  | .forwards =>
    states.eraseDups.foldl (fun room state => room + readerRoom (branches state).length) stateRoom
  | .backwards =>
    states.foldl (fun room state => room + (branches state).length * stateRoom)
      (splitRoom seqs.length + stateRoom)

/-- The room of a set of characters. -/
def setRoom (d : Direction) (s : CharSet) : Nat :=
  match s.onlyCode? with
  | some n => byteCount n * stateRoom
  | none => if s.isAscii then stateRoom + readerRoom s.intervals.length else wideRoom d s

namespace Node

/-- The room of a tree. Only the forward automaton notes where groups begin and end. -/
def room (d : Direction) : Node → Nat
  | empty => stateRoom
  | chars set => setRoom d set
  | anchor _ => stateRoom
  | group _ body => body.room d + if d = .forwards then 2 * stateRoom else 0
  | seq a b => a.room d + b.room d
  | choice a b =>
    -- alternatives in a row have one state in front of them and one behind
    match b with
    | choice _ _ => a.room d + wayRoom + b.room d
    | _ => splitRoom 2 + stateRoom + a.room d + b.room d
  | repeated body low none _ =>
    if 0 < low then low * body.room d + splitRoom 2
    else if body.isNonempty then body.room d + splitRoom 2
    else body.room d + 2 * splitRoom 2 + stateRoom
  | repeated body low (some high) _ =>
    if low = high then low * body.room d
    else
      let needed := if 0 < low then low * body.room d else if high = 1 then 0 else stateRoom
      needed + stateRoom + (high - low) * (splitRoom 2 + body.room d)

/-- The room of what stands around every pattern: the end of a match, the search for its start,
and forwards the match as a group of its own. -/
def frameRoom (d : Direction) : Nat :=
  2 * stateRoom + readerRoom 1 + splitRoom 2 + if d = .forwards then 2 * stateRoom else 0

/-- The room that a pattern may take. -/
def maxRoom : Nat := 10485760

/-- Whether the automata of a pattern take no more room than they may. -/
def fits (n : Node) : Bool :=
  [Direction.forwards, .backwards].all fun d => frameRoom d + n.room d ≤ maxRoom

end Node

end SheetGrammar.Pattern
