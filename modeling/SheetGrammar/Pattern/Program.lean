import SheetGrammar.Pattern.Basic

/-!
# Patterns as programs

A tree is turned into a program: instructions that consume a character, choose
between two continuations, note a place or test a condition.  A search runs all
ways through the program at once, in order of preference, one character after
the other, so its time grows with the product of text and program.

## Main definitions

* `Inst`, `Program` — instructions and programs.
* `Node.compile` — the program of a tree.
* `Program.search` — the places that the preferred leftmost match notes.
-/

namespace SheetGrammar.Pattern

/-- An instruction; `next` and the like are the numbers of instructions. -/
inductive Inst
  /-- Consumes a character of the set. -/
  | chars (set : CharSet) (next : Nat)
  /-- Goes on in two ways, of which the first is preferred. -/
  | split (first second : Nat)
  /-- Notes the place under a number. -/
  | save (slot next : Nat)
  /-- Goes on if the condition holds. -/
  | anchor (a : Anchor) (next : Nat)
  /-- Ends the match. -/
  | accept
  deriving Repr, Inhabited

/-- Instructions with the number of the first one. -/
structure Program where
  insts : Array Inst
  entry : Nat
  slots : Nat
  deriving Repr, Inhabited

/-! ### From trees to programs -/

/-- Adds an instruction and tells its number. -/
def put (i : Inst) (p : Array Inst) : Nat × Array Inst := (p.size, p.push i)

/-- The choice between going on in the body and leaving, in order of preference. -/
def loopInst (greedy : Bool) (body leave : Nat) : Inst :=
  if greedy then .split body leave else .split leave body

/-- Adds `n` copies of a body, each of which goes on with the one behind it. -/
def copies (emit : Nat → Array Inst → Nat × Array Inst) : Nat → Nat → Array Inst → Nat × Array Inst
  | 0, next, p => (next, p)
  | n + 1, next, p =>
    let (next, p) := emit next p
    copies emit n next p

/-- Adds `n` copies of a body, each optional and each only reached through the
one before it; leaving any of them goes on with `next`. -/
def optionals (emit : Nat → Array Inst → Nat × Array Inst) (greedy : Bool) (next : Nat) :
    Nat → Nat → Array Inst → Nat × Array Inst
  | 0, rest, p => (rest, p)
  | n + 1, rest, p =>
    let (body, p) := emit rest p
    let (here, p) := put (loopInst greedy body next) p
    optionals emit greedy next n here p

/-- Adds a body that may be run again and again after its first run. -/
def plus (emit : Nat → Array Inst → Nat × Array Inst) (greedy : Bool) (next : Nat)
    (p : Array Inst) : Nat × Array Inst :=
  let (again, p) := put .accept p
  let (body, p) := emit again p
  (body, p.setIfInBounds again (loopInst greedy body next))

/-- Adds the instructions of a tree in front of the instruction `next`, and tells
the number of the first. -/
def Node.emit : Node → Nat → Array Inst → Nat × Array Inst
  | .empty, next, p => (next, p)
  | .chars set, next, p => put (.chars set next) p
  | .anchor a, next, p => put (.anchor a next) p
  | .group index body, next, p =>
    let (last, p) := put (.save (2 * index + 1) next) p
    let (inner, p) := body.emit last p
    put (.save (2 * index) inner) p
  | .seq a b, next, p =>
    let (second, p) := b.emit next p
    a.emit second p
  | .choice a b, next, p =>
    let (first, p) := a.emit next p
    let (second, p) := b.emit next p
    put (.split first second) p
  | .repeated body low (some high) greedy, next, p =>
    let (rest, p) := optionals body.emit greedy next (high - low) next p
    copies body.emit low rest p
  | .repeated body 0 none greedy, next, p =>
    if body.isNonempty then
      let (again, p) := put .accept p
      let (inner, p) := body.emit again p
      (again, p.setIfInBounds again (loopInst greedy inner next))
    else
      -- entering the loop is tried before leaving it even where the body is empty
      let (inner, p) := plus body.emit greedy next p
      put (loopInst greedy inner next) p
  | .repeated body (low + 1) none greedy, next, p =>
    let (rest, p) := plus body.emit greedy next p
    copies body.emit low rest p

/-- The program of a tree. -/
def Node.compile (n : Node) : Program :=
  let (entry, insts) := n.emit 0 #[.accept]
  { insts, entry, slots := 2 * (n.groupBound + 1) }

/-! ### Running a program -/

/-- One way through the program: where it stands, and the places noted so far. -/
structure Thread where
  pc : Nat
  slots : Array (Option Nat)
  deriving Repr, Inhabited

namespace Program

/-- Follows threads through all instructions that consume nothing, depth first
and in order of preference. An instruction that was reached before is not
entered again. The threads that wait for a character or have ended are added in
front of `waiting`. -/
def follow (p : Program) (place : Nat) (before after : Option Char) :
    Nat → List Thread → Array Bool → List Thread → Array Bool × List Thread
  | 0, _, seen, waiting => (seen, waiting)
  | _ + 1, [], seen, waiting => (seen, waiting)
  | fuel + 1, t :: todo, seen, waiting =>
    if seen.getD t.pc true then follow p place before after fuel todo seen waiting
    else
      let seen := seen.setIfInBounds t.pc true
      match p.insts.getD t.pc .accept with
      | .split a b =>
        follow p place before after fuel (⟨a, t.slots⟩ :: ⟨b, t.slots⟩ :: todo) seen waiting
      | .save slot next =>
        follow p place before after fuel
          (⟨next, t.slots.setIfInBounds slot (some place)⟩ :: todo) seen waiting
      | .anchor a next =>
        if a.holds before after then
          follow p place before after fuel (⟨next, t.slots⟩ :: todo) seen waiting
        else follow p place before after fuel todo seen waiting
      | .chars _ _ => follow p place before after fuel todo seen (t :: waiting)
      | .accept => follow p place before after fuel todo seen (t :: waiting)

/-- Runs the waiting threads in order of preference: those that can consume the
next character are moved on, up to the first one that has ended, which is a match. -/
def advance (p : Program) (place : Nat) (next : Option Char) :
    List Thread → List Thread → List Thread × Option (Array (Option Nat))
  | [], moved => (moved.reverse, none)
  | t :: waiting, moved =>
    match p.insts.getD t.pc .accept with
    | .accept => (moved.reverse, some (t.slots.setIfInBounds 1 (some place)))
    | .chars set k =>
      if next.any set.contains then advance p place next waiting (⟨k, t.slots⟩ :: moved)
      else advance p place next waiting moved
    | _ => advance p place next waiting moved

/-- The thread that starts a match at a place. -/
def startThread (p : Program) (place : Nat) : Thread :=
  ⟨p.entry, (Array.replicate p.slots none).setIfInBounds 0 (some place)⟩

/-- What a search carries from one place to the next: the threads in order of
preference, and the places noted by the best match so far. -/
structure Sweep where
  threads : List Thread
  best : Option (Array (Option Nat))
  deriving Repr, Inhabited

/-- Lets a search pass one place. Until a match is found, a new one may start at
every place, behind all that have started before. -/
def pass (p : Program) (place : Nat) (before after : Option Char) (s : Sweep) : Sweep :=
  let starting := if s.best.isSome then s.threads else s.threads ++ [p.startThread place]
  let fuel := 2 * p.insts.size + starting.length + 1
  let (_, waiting) :=
    p.follow place before after fuel starting (Array.replicate p.insts.size false) []
  let (moved, found) := p.advance place after waiting.reverse []
  ⟨moved, found.orElse fun _ => s.best⟩

/-- Searches from a place on. -/
def run (p : Program) (place : Nat) (before : Option Char) (s : Sweep) :
    List Char → Option (Array (Option Nat))
  | [] => (p.pass place before none s).best
  | c :: cs =>
    let s := p.pass place before (some c) s
    if s.threads.isEmpty && s.best.isSome then s.best else run p (place + 1) (some c) s cs

/-- The places that the leftmost match notes; of several that start there, the
preferred one counts. -/
def search (p : Program) (cs : List Char) : Option (Array (Option Nat)) :=
  p.run 0 none ⟨[], none⟩ cs

end Program

end SheetGrammar.Pattern
