import SheetGrammar.Pattern.Escape

/-!
# Bracketed classes

A set of characters in brackets: characters, ranges, escapes, named ASCII classes
and further brackets, joined, and combined by intersection `&&`, difference `--`
and symmetric difference `~~`, from left to right.  How deep a class is nested counts
towards the depth of its pattern.

## Main definitions

* `ClassOp` — the operations between operands.
* `ClassPart`, `OpenClass` — a part of a class, a class whose closing bracket has not been read.
* `readClass?` — reads a class.
-/

namespace SheetGrammar.Pattern

/-- An operation between two operands of a class. -/
inductive ClassOp
  | inter
  | diff
  | symmDiff
  deriving DecidableEq, Repr

/-- The set that an operation makes of two. -/
def ClassOp.apply : ClassOp → CharSet → CharSet → CharSet
  | inter => CharSet.inter
  | diff => CharSet.diff
  | symmDiff => CharSet.symmDiff

/-- A part of a class that has been read: its members, and how deep it is nested. -/
structure ClassPart where
  members : CharSet
  depth : Nat
  deriving Repr

/-- A class that is being read: whether it is negated, the operation that waits
for its second operand, and the items of the operand so far, the last one first. -/
structure OpenClass where
  negated : Bool
  waiting : Option (ClassOp × ClassPart)
  items : List ClassPart
  deriving Repr

namespace OpenClass

/-- Adds an item to the operand. -/
def add (o : OpenClass) (item : ClassPart) : OpenClass := { o with items := item :: o.items }

/-- The items of the operand as one part. Several items are a level of their own. -/
def operand (o : OpenClass) : ClassPart :=
  match o.items with
  | [] => ⟨.empty, 0⟩
  | [item] => item
  | items => ⟨.unions (items.map (·.members)), items.foldl (fun d i => max d i.depth) 0 + 1⟩

/-- All operands so far as one part. Case is seen to before an operation. -/
def operands (f : Flags) (o : OpenClass) : ClassPart :=
  match o.waiting with
  | none => o.operand
  | some (op, left) =>
    ⟨op.apply (foldSet f left.members) (foldSet f o.operand.members),
     max left.depth o.operand.depth + 1⟩

/-- Ends the operand and starts another one behind an operation. -/
def operate (f : Flags) (o : OpenClass) (op : ClassOp) : OpenClass :=
  ⟨o.negated, some (op, o.operands f), []⟩

/-- The whole class as one part, which the brackets nest one level deeper. -/
def close? (f : Flags) (o : OpenClass) : Option ClassPart :=
  let part := o.operands f
  (finishSet? f o.negated part.members).map fun s => ⟨s, part.depth + 1⟩

end OpenClass

/-- The ASCII classes that have names of their own between `[:` and `:]`. -/
def asciiClasses : List (String × String) :=
  [("alnum", "30-39 41-5A 61-7A"), ("alpha", "41-5A 61-7A"), ("ascii", "0-7F"),
   ("blank", "9 20"), ("cntrl", "0-1F 7F"), ("digit", "30-39"), ("graph", "21-7E"),
   ("lower", "61-7A"), ("print", "20-7E"), ("punct", "21-2F 3A-40 5B-60 7B-7E"),
   ("space", "9-D 20"), ("upper", "41-5A"), ("word", "30-39 41-5A 5F 61-7A"),
   ("xdigit", "30-39 41-46 61-66")]

/-- Reads a named ASCII class behind its opening bracket. The outer `none` says
that there is none, the inner one that it is no class without Unicode. -/
def readAsciiClass? (f : Flags) (cs : List Char) : Option (Option CharSet × List Char) :=
  match cs with
  | ':' :: cs =>
    let (negated, cs) := match cs with
      | '^' :: cs => (true, cs)
      | cs => (false, cs)
    match cs.dropWhile (· ≠ ':') with
    | ':' :: ']' :: rest =>
      let name := String.ofList (cs.takeWhile (· ≠ ':'))
      (asciiClasses.find? (·.1 = name)).map fun entry =>
        (finishSet? f negated (.ofText entry.2), rest)
    | _ => none
  | _ => none

/-- A single character as an item of a class. -/
def charPart (c : Char) : ClassPart := ⟨.single c, 0⟩

/-- Reads the hyphens at the start of a class, each of which stands for itself. -/
def readHyphens (f : Flags) : Nat → List ClassPart → List Char → List ClassPart × List Char
  | 0, items, cs => (items, cs)
  | fuel + 1, items, cs =>
    match cs with
    | '-' :: rest => readHyphens f fuel (charPart '-' :: items) (skipBlanks f rest)
    | cs => (items, cs)

/-- Reads the start of a class, behind its opening bracket: a negation, hyphens,
and a closing bracket that stands for itself. -/
def openClass? (f : Flags) (cs : List Char) : Option (OpenClass × List Char) :=
  let (negated, cs) := match skipBlanks f cs with
    | '^' :: rest => (true, skipBlanks f rest)
    | cs => (false, cs)
  let (hyphens, cs) := readHyphens f cs.length [] cs
  match hyphens, cs with
  | _, [] => none
  | [], ']' :: rest =>
    match skipBlanks f rest with
    | [] => none
    | rest => some (⟨negated, none, [charPart ']']⟩, rest)
  | hyphens, cs => some (⟨negated, none, hyphens⟩, cs)

/-- Reads an escape or a character that stands for itself. -/
def readItem? (f : Flags) : List Char → Option (Piece × List Char)
  | [] => none
  | '\\' :: cs => readEscape? f cs
  | c :: cs => some (.literal c false, cs)

/-- A single character as a member of a class. Without Unicode it has to be ASCII. -/
def memberChar? (f : Flags) : Piece → Option Char
  | .literal c _ => if f.unicode || c.toNat < 0x80 then some c else none
  | _ => none

/-- The members that an item stands for. -/
def memberSet? (f : Flags) : Piece → Option CharSet
  | .set s => some s
  | p => (memberChar? f p).map CharSet.single

/-- Reads a member of a class: a single item or a range. -/
def readMember? (f : Flags) (cs : List Char) : Option (CharSet × List Char) :=
  (readItem? f cs).bind fun (first, rest) =>
    match skipBlanks f rest with
    | [] => none
    | '-' :: behind =>
      match skipBlanks f behind with
      | [] => none
      | ']' :: _ => (memberSet? f first).map (·, '-' :: behind)
      | '-' :: _ => (memberSet? f first).map (·, '-' :: behind)
      | behind =>
        (readItem? f behind).bind fun (second, rest) =>
          match memberChar? f first, memberChar? f second with
          | some lo, some hi => if lo ≤ hi then some (.range lo hi, rest) else none
          | _, _ => none
    | rest => (memberSet? f first).map (·, rest)

/-- Reads the rest of the open classes, the innermost of which is `top`. -/
def readOpenClasses? (f : Flags) :
    Nat → OpenClass → List OpenClass → List Char → Option (ClassPart × List Char)
  | 0, _, _, _ => none
  | fuel + 1, top, outer, cs =>
    match skipBlanks f cs with
    | [] => none
    | '[' :: rest =>
      match readAsciiClass? f rest with
      | some (s, rest) => s.bind fun s => readOpenClasses? f fuel (top.add ⟨s, 0⟩) outer rest
      | none =>
        (openClass? f rest).bind fun (inner, rest) =>
          readOpenClasses? f fuel inner (top :: outer) rest
    | ']' :: rest =>
      (top.close? f).bind fun part =>
        match outer with
        | [] => some (part, rest)
        | next :: outer => readOpenClasses? f fuel (next.add part) outer rest
    | '&' :: '&' :: rest => readOpenClasses? f fuel (top.operate f .inter) outer rest
    | '-' :: '-' :: rest => readOpenClasses? f fuel (top.operate f .diff) outer rest
    | '~' :: '~' :: rest => readOpenClasses? f fuel (top.operate f .symmDiff) outer rest
    | cs =>
      (readMember? f cs).bind fun (s, rest) =>
        readOpenClasses? f fuel (top.add ⟨s, 0⟩) outer rest

/-- Reads a class behind its opening bracket. -/
def readClass? (f : Flags) (cs : List Char) : Option (ClassPart × List Char) :=
  (openClass? f cs).bind fun (top, rest) => readOpenClasses? f (rest.length + 1) top [] rest

end SheetGrammar.Pattern
