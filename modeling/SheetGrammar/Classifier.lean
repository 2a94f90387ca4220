import SheetGrammar.Grammar.Basic
import SheetGrammar.Sheet.Basic

/-!
# Classifying rows

A classifier turns the flat rows of a sheet into a tree of records.  It keeps a
stack of frames.  Each frame collects records of one type of rows; the newest of
them is open, and the frame above collects records under it.  A row is tried
against the top frame: it becomes the next record there, or else a frame for the
next untried child type is opened, or else the frame is closed and its records
join the open record of the frame below.  A row that nothing takes is dropped.

## Main definitions

* `Frame`, `Classifier`, `Classifier.ofEntry` — the stack and its start.
* `Classifier.step` — one transition.
* `Classifier.feed` — the transitions of one row, up to its match or drop.
* `Classifier.finish` — the records, once all frames are closed.
* `classify` — the records of a sheet.

## Main results

* `Classifier.potential_step_lt` — opening and closing frames lowers the potential,
  so that `feed` ends.
-/

namespace SheetGrammar

/-- What a classifier does with a row. -/
inductive Transition
  /-- The row became a record of the top frame. -/
  | matched
  /-- A frame for a child type was opened. -/
  | descended
  /-- The top frame was closed. -/
  | ascended
  /-- No frame takes the row. -/
  | dropped
  deriving DecidableEq, Repr

namespace Transition

/-- The name shown for a transition. -/
def name : Transition → String
  | matched => "Match"
  | descended => "Descend"
  | ascended => "Ascend"
  | dropped => "Drop"

/-- Whether the classifier is done with the row. -/
def endsRow : Transition → Bool
  | matched | dropped => true
  | descended | ascended => false

end Transition

/-! ### Frames -/

/-- Records of one type that are being collected. -/
structure Frame where
  rowType : RowType
  /-- How many child types were tried under the open record. -/
  nextChild : Nat
  /-- The records, the newest first; that one is open. -/
  rows : List Record

namespace Frame

/-- A frame without records. -/
def ofRowType (t : RowType) : Frame := ⟨t, 0, []⟩

/-- A frame for a type that the grammar has to define. -/
def ofName (g : Grammar) (name sheet : String) : Except Error Frame :=
  match g.get? name with
  | some t => .ok (ofRowType t)
  | none => .error (.undefinedRowType name sheet)

/-- The records in the order of their rows. -/
def records (f : Frame) : List Record := f.rows.reverse

/-- The child types that were not tried yet under the open record. -/
def untried (f : Frame) : List String :=
  match f.rows with
  | [] => []
  | _ :: _ => f.rowType.children.drop f.nextChild

/-- Adds a record, which opens it: all child types are untried again. -/
def add (f : Frame) (columns : List Column) : Frame :=
  { f with
    nextChild := 0
    rows := ⟨f.rowType.name, f.rows.length + 1, columns, []⟩ :: f.rows }

/-- Counts one more child type as tried. -/
def advance (f : Frame) : Frame := { f with nextChild := f.nextChild + 1 }

/-- Puts the records of a closed frame under the open record. Neither happens
without records. -/
def attach (f above : Frame) : Frame :=
  match f.rows, above.rows with
  | r :: rs, _ :: _ =>
    { f with
      rows := { r with children := r.children ++ [⟨above.rowType.name, above.records⟩] } :: rs }
  | _, _ => f

end Frame

/-! ### The classifier -/

/-- A stack of frames, together with counts of rows. -/
structure Classifier where
  grammar : Grammar
  /-- The name of the sheet, for errors. -/
  sheet : String
  top : Frame
  /-- The frames under the top, downwards. -/
  below : List Frame
  rowsRead : Nat
  rowsDropped : Nat

namespace Classifier

/-- A classifier at the start of a sheet, with one frame for the entry type. -/
def ofEntry (g : Grammar) (entry sheet : String) : Except Error Classifier :=
  (Frame.ofName g entry sheet).map fun root => ⟨g, sheet, root, [], 0, 0⟩

/-- The frames from the top downwards. -/
def frames (c : Classifier) : List Frame := c.top :: c.below

/-- How many frames are open. -/
def depth (c : Classifier) : Nat := c.frames.length

/-- One transition. A failed extraction changes nothing; an undefined child type
counts as tried. -/
def step (c : Classifier) (cells : List String) : Classifier × Except Error Transition :=
  if c.top.rowType.matches cells then
    match c.top.rowType.extract cells c.sheet with
    | .error e => (c, .error e)
    | .ok columns => ({ c with top := c.top.add columns }, .ok .matched)
  else
    match c.top.untried with
    | child :: _ =>
      match Frame.ofName c.grammar child c.sheet with
      | .error e => ({ c with top := c.top.advance }, .error e)
      | .ok f => ({ c with top := f, below := c.top.advance :: c.below }, .ok .descended)
    | [] =>
      match c.below with
      | f :: below => ({ c with top := f.attach c.top, below := below }, .ok .ascended)
      | [] => (c, .ok .dropped)

/-! ### The potential -/

/-- How many child types of open records were not tried yet, in some frames. -/
def untriedCount (fs : List Frame) : Nat := fs.foldr (fun f n => f.untried.length + n) 0

/-- A bound on the number of transitions that one row can cause. -/
def potential (c : Classifier) : Nat := c.depth + 2 * untriedCount c.frames

@[simp] theorem untriedCount_cons (f : Frame) (fs : List Frame) :
    untriedCount (f :: fs) = f.untried.length + untriedCount fs := by
  simp [untriedCount]

@[simp] theorem untried_attach (f above : Frame) : (f.attach above).untried = f.untried := by
  unfold Frame.attach
  split
  · next r rs _ _ h _ => simp [Frame.untried, h]
  · rfl

@[simp] theorem untried_ofRowType (t : RowType) : (Frame.ofRowType t).untried = [] := rfl

theorem untried_ofName {g : Grammar} {name sheet : String} {f : Frame}
    (h : Frame.ofName g name sheet = .ok f) : f.untried = [] := by
  unfold Frame.ofName at h
  split at h
  · cases h; rfl
  · cases h

theorem untried_advance {f : Frame} {child : String} {rest : List String}
    (h : f.untried = child :: rest) : f.advance.untried = rest := by
  cases hr : f.rows with
  | nil => simp [Frame.untried, hr] at h
  | cons r rs =>
    simp only [Frame.untried, hr] at h
    simp only [Frame.untried, Frame.advance, hr]
    rw [← List.tail_drop, h, List.tail_cons]

/-- Opening or closing a frame lowers the potential. -/
theorem potential_step_lt {c d : Classifier} {cells : List String} {t : Transition}
    (h : c.step cells = (d, .ok t)) (ht : t.endsRow = false) : d.potential < c.potential := by
  unfold step at h
  split at h
  · split at h
    · cases h
    · cases h; cases ht
  · split at h
    · next child rest hu =>
      split at h
      · cases h
      · next f hf =>
        cases h
        simp [potential, depth, frames, untried_ofName hf, untried_advance hu, hu]
        omega
    · next hu =>
      split at h
      · next f below hb =>
        cases h
        simp [potential, depth, frames, hu, hb]
      · cases h; cases ht

/-! ### Feeding rows -/

/-- What became of a row: the classifier after it, the last transition or the
failure, and every transition with the depth that it led to. -/
structure Fed where
  classifier : Classifier
  result : Except Error Transition
  steps : List (Transition × Nat)

/-- Takes transitions until the row is matched or dropped, or one fails. -/
def settle (c : Classifier) (cells : List String) : Fed :=
  match _step : c.step cells with
  | (d, .error e) => ⟨d, .error e, []⟩
  | (d, .ok t) =>
    if _ends : t.endsRow then ⟨d, .ok t, [(t, d.depth)]⟩
    else
      let rest := settle d cells
      { rest with steps := (t, d.depth) :: rest.steps }
termination_by c.potential
decreasing_by exact potential_step_lt _step (by simpa using _ends)

/-- Counts a row as dropped if it was. -/
def countDrop (c : Classifier) (result : Except Error Transition) : Classifier :=
  match result with
  | .ok .dropped => { c with rowsDropped := c.rowsDropped + 1 }
  | _ => c

/-- Reads one row. -/
def feed (c : Classifier) (cells : List String) : Fed :=
  let fed := settle { c with rowsRead := c.rowsRead + 1 } cells
  { fed with classifier := fed.classifier.countDrop fed.result }

/-- Reads rows up to the first failure. -/
def feedAll (c : Classifier) : List (List String) → Except Error Classifier
  | [] => .ok c
  | cells :: rows =>
    let fed := c.feed cells
    match fed.result with
    | .error e => .error e
    | .ok _ => feedAll fed.classifier rows

/-- The last frame, once those above have been closed. -/
def unwind (top : Frame) : List Frame → Frame
  | [] => top
  | f :: below => unwind (f.attach top) below

/-- The records of the root frame, once all others are closed. -/
def finish (c : Classifier) : List Record := (unwind c.top c.below).records

end Classifier

/-- The records of a sheet, read from an entry type. -/
def classify (g : Grammar) (entry : String) (s : Sheet) : Except Error (List Record) :=
  match Classifier.ofEntry g entry s.name with
  | .error e => .error e
  | .ok c => (c.feedAll s.rows).map Classifier.finish

end SheetGrammar
