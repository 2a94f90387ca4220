import SheetGrammar.Classifier

/-!
# Runs of a classifier

A classifier may be stepped and fed at will: with any rows, and after failures too.
This file says once what a single transition does, and turns what every transition
keeps into what every run keeps.

## Main definitions

* `Classifier.Stepped` — a transition as a relation, one constructor for each kind.
* `Classifier.Call`, `Classifier.call` — stepping or feeding a row.
* `Classifier.after` — the classifier after some calls, whatever they return.
* `Classifier.matchedRows` — the rows of the calls that return a match.

## Main results

* `Classifier.stepped_step` — `step` takes exactly these transitions.
* `Classifier.settle_induction` — induction over the transitions of one row.
* `Classifier.call_induction` — what every transition does, a call does too.
* `Classifier.after_induction` — what every transition keeps holds after every run.
-/

namespace SheetGrammar

namespace Classifier

variable {c d : Classifier} {cells : List String} {r : Except Error Transition}

/-! ### One transition -/

/-- `Stepped c cells d r` says that the row `cells` takes `c` to `d` with the result `r`. -/
inductive Stepped (c : Classifier) (cells : List String) :
    Classifier → Except Error Transition → Prop
  /-- The row belongs to the top frame. -/
  | matched (columns : List Column) (hm : c.top.rowType.matches cells = true)
      (hx : c.top.rowType.extract cells c.sheet = .ok columns) :
      Stepped c cells { c with top := c.top.add columns } (.ok .matched)
  /-- The row belongs to the top frame, but its cells do not fit. -/
  | misread (e : Error) (hm : c.top.rowType.matches cells = true)
      (hx : c.top.rowType.extract cells c.sheet = .error e) : Stepped c cells c (.error e)
  /-- A frame for an untried child type is opened. -/
  | descended (child : String) (rest : List String) (t : RowType)
      (hm : c.top.rowType.matches cells = false) (hu : c.top.untried = child :: rest)
      (ht : c.grammar.get? child = some t) :
      Stepped c cells { c with top := .ofRowType t, below := c.top.advance :: c.below }
        (.ok .descended)
  /-- The untried child type is not defined. -/
  | undefinedChild (child : String) (rest : List String)
      (hm : c.top.rowType.matches cells = false) (hu : c.top.untried = child :: rest)
      (ht : c.grammar.get? child = none) :
      Stepped c cells { c with top := c.top.advance }
        (.error (.undefinedRowType child c.sheet))
  /-- The top frame is closed. -/
  | ascended (f : Frame) (below : List Frame) (hm : c.top.rowType.matches cells = false)
      (hu : c.top.untried = []) (hb : c.below = f :: below) :
      Stepped c cells { c with top := f.attach c.top, below := below } (.ok .ascended)
  /-- Only the root frame is left, and it does not take the row. -/
  | dropped (hm : c.top.rowType.matches cells = false) (hu : c.top.untried = [])
      (hb : c.below = []) : Stepped c cells c (.ok .dropped)

theorem ofName_eq (g : Grammar) (name sheet : String) :
    Frame.ofName g name sheet =
      match g.get? name with
      | some t => .ok (.ofRowType t)
      | none => .error (.undefinedRowType name sheet) := rfl

theorem stepped_step (c : Classifier) (cells : List String) :
    Stepped c cells (c.step cells).1 (c.step cells).2 := by
  unfold step
  cases hm : c.top.rowType.matches cells with
  | true =>
    rw [if_pos rfl]
    cases hx : c.top.rowType.extract cells c.sheet with
    | error e => exact .misread e hm hx
    | ok columns => exact .matched columns hm hx
  | false =>
    rw [if_neg (by decide)]
    cases hu : c.top.untried with
    | cons child rest =>
      simp only [ofName_eq]
      cases ht : c.grammar.get? child with
      | none => exact .undefinedChild child rest hm hu ht
      | some t => exact .descended child rest t hm hu ht
    | nil =>
      cases hb : c.below with
      | cons f below => exact .ascended f below hm hu hb
      | nil => exact .dropped hm hu hb

/-- No transition changes the grammar or the name of the sheet. -/
theorem Stepped.context (h : Stepped c cells d r) : d.grammar = c.grammar ∧ d.sheet = c.sheet := by
  cases h <;> exact ⟨rfl, rfl⟩

/-- No transition counts rows. -/
theorem Stepped.counts (h : Stepped c cells d r) :
    d.rowsRead = c.rowsRead ∧ d.rowsDropped = c.rowsDropped := by
  cases h <;> exact ⟨rfl, rfl⟩

/-! ### The transitions of one row -/

/-- Induction over the transitions of one row: `motive c d r` has to hold of the last
transition, and to pass from the rest of the transitions to all of them. -/
theorem settle_induction {motive : Classifier → Classifier → Except Error Transition → Prop}
    (failed : ∀ c d e, Stepped c cells d (.error e) → motive c d (.error e))
    (ended : ∀ c d t, Stepped c cells d (.ok t) → t.endsRow = true → motive c d (.ok t))
    (more : ∀ c d d' t r, Stepped c cells d (.ok t) → t.endsRow = false →
      motive d d' r → motive c d' r) (c : Classifier) :
    motive c (c.settle cells).classifier (c.settle cells).result := by
  have hs := stepped_step c cells
  rw [settle]
  split
  · next d e h =>
    rw [h] at hs
    exact failed c d e hs
  · next d t h =>
    rw [h] at hs
    split
    · next ht => exact ended c d t hs ht
    · next ht =>
      have ht : t.endsRow = false := by simpa using ht
      -- the potential falls, so the rest of the transitions is shorter
      have : d.potential < c.potential := potential_step_lt h ht
      exact more c d _ t _ hs ht (settle_induction failed ended more d)
termination_by c.potential

/-! ### Calls -/

/-- A call on a classifier. -/
inductive Call
  /-- One transition. -/
  | step (cells : List String)
  /-- All transitions of a row. -/
  | feed (cells : List String)

/-- The row that a call is about. -/
def Call.row : Call → List String
  | step cells => cells
  | feed cells => cells

/-- The classifier after a call, and what the call returns. -/
def call (c : Classifier) : Call → Classifier × Except Error Transition
  | .step cells => c.step cells
  | .feed cells => ((c.feed cells).classifier, (c.feed cells).result)

/-- The classifier after calls; it is used on whatever they return. -/
def after (c : Classifier) : List Call → Classifier
  | [] => c
  | k :: ks => (c.call k).1.after ks

/-- The rows of the calls that return a match, in the order of the calls. -/
def matchedRows (c : Classifier) : List Call → List (List String)
  | [] => []
  | k :: ks =>
    match (c.call k).2 with
    | .ok .matched => k.row :: (c.call k).1.matchedRows ks
    | _ => (c.call k).1.matchedRows ks

@[simp] theorem after_nil (c : Classifier) : c.after [] = c := rfl

@[simp] theorem after_cons (c : Classifier) (k : Call) (ks : List Call) :
    c.after (k :: ks) = (c.call k).1.after ks := rfl

theorem after_append (c : Classifier) (ks ls : List Call) :
    c.after (ks ++ ls) = (c.after ks).after ls := by
  induction ks generalizing c with
  | nil => rfl
  | cons k ks ih => exact ih _

theorem matchedRows_of_matched {c : Classifier} {k : Call} (h : (c.call k).2 = .ok .matched)
    (ks : List Call) : c.matchedRows (k :: ks) = k.row :: (c.call k).1.matchedRows ks := by
  rw [matchedRows, h]

theorem matchedRows_of_ne {c : Classifier} {k : Call} (h : (c.call k).2 ≠ .ok .matched)
    (ks : List Call) : c.matchedRows (k :: ks) = (c.call k).1.matchedRows ks := by
  rw [matchedRows]
  split
  · next hr => exact absurd hr h
  · rfl

@[simp] theorem countDrop_top (c : Classifier) (r : Except Error Transition) :
    (c.countDrop r).top = c.top := by
  unfold countDrop; split <;> rfl

@[simp] theorem countDrop_below (c : Classifier) (r : Except Error Transition) :
    (c.countDrop r).below = c.below := by
  unfold countDrop; split <;> rfl

/-- What every transition does, a call does too, if it passes along the transitions of a row and
the counts of rows do not matter for it. -/
theorem call_induction {I : Classifier → Prop}
    {Q : List String → Classifier → Classifier → Except Error Transition → Prop}
    (hkeep : ∀ {c cells d r}, Stepped c cells d r → I c → I d)
    (hstep : ∀ {c cells d r}, Stepped c cells d r → I c → Q cells c d r)
    (hmore : ∀ {c cells d d' t r}, Stepped c cells d (.ok t) → t.endsRow = false → I c →
      Q cells d d' r → Q cells c d' r)
    (hread : ∀ {c} (n : Nat), I c → I { c with rowsRead := n })
    (hcount : ∀ {c cells d r} (n : Nat), Q cells { c with rowsRead := n } d r →
      Q cells c (d.countDrop r) r)
    (h : I c) (k : Call) : Q k.row c (c.call k).1 (c.call k).2 := by
  cases k with
  | step cells => exact hstep (stepped_step c cells) h
  | feed cells =>
    have hsettle : ∀ c, I c → Q cells c (c.settle cells).classifier (c.settle cells).result :=
      settle_induction (motive := fun c d r => I c → Q cells c d r) (fun _ _ _ => hstep)
        (fun _ _ _ hs _ => hstep hs)
        (fun _ _ _ _ _ hs ht ih h => hmore hs ht h (ih (hkeep hs h)))
    exact hcount _ (hsettle _ (hread (c.rowsRead + 1) h))

/-- What every transition keeps, and the counting of rows too, holds after every run. -/
theorem after_induction {P : Classifier → Prop}
    (hstep : ∀ {c d cells r}, Stepped c cells d r → P c → P d)
    (hcount : ∀ {c} (m n : Nat), P c → P { c with rowsRead := m, rowsDropped := n })
    {c : Classifier} (h : P c) (ks : List Call) : P (c.after ks) := by
  have hsettle : ∀ {c} cells, P c → P (c.settle cells).classifier := by
    intro c cells
    exact settle_induction (motive := fun c d _ => P c → P d) (fun _ _ _ => hstep)
      (fun _ _ _ hs _ => hstep hs) (fun _ _ _ _ _ hs _ ih h => ih (hstep hs h)) c
  induction ks generalizing c with
  | nil => exact h
  | cons k ks ih =>
    apply ih
    cases k with
    | step cells => exact hstep (stepped_step c cells) h
    | feed cells =>
      have h' := hsettle cells (hcount (c.rowsRead + 1) c.rowsDropped h)
      simp only [call, feed, countDrop]
      split
      · exact hcount _ _ h'
      · exact h'

/-- A run changes neither the grammar nor the name of the sheet. -/
theorem context_after (c : Classifier) (ks : List Call) :
    (c.after ks).grammar = c.grammar ∧ (c.after ks).sheet = c.sheet :=
  after_induction (P := fun d => d.grammar = c.grammar ∧ d.sheet = c.sheet)
    (fun hs h => ⟨hs.context.1.trans h.1, hs.context.2.trans h.2⟩) (fun _ _ h => h)
    ⟨rfl, rfl⟩ ks

/-- A new classifier has one frame, which is empty and of the entry type. -/
theorem eq_of_ofEntry {g : Grammar} {entry sheet : String}
    (h : ofEntry g entry sheet = .ok c) :
    ∃ t, g.get? entry = some t ∧ c = ⟨g, sheet, .ofRowType t, [], 0, 0⟩ := by
  unfold ofEntry at h
  rw [ofName_eq] at h
  split at h
  · next t ht =>
    cases h
    exact ⟨t, ht, rfl⟩
  · cases h

end Classifier

/-! ### An example -/

/-- A type for rows with a given letter in column A; they keep the integer in column B. -/
def RowType.ofLetter (name letter : String) (children : List String) : RowType where
  name := name
  conditions := (Pattern.parse? ("^" ++ letter ++ "$")).toList.map fun p => ⟨⟨"A", 0⟩, p⟩
  extractions := [⟨⟨"B", 1⟩, "amount", .integer⟩]
  children := children

/-- Orders have items and notes. Under an item there may be an order again, or else rows of
a type that is missing. -/
def Grammar.orders : Grammar :=
  ⟨[.ofLetter "order" "O" ["item", "note"], .ofLetter "item" "I" ["order", "lost"],
    .ofLetter "note" "N" []]⟩

/-- A classifier at the start of a sheet of orders. -/
def Classifier.orders : Classifier :=
  ⟨.orders, "s", .ofRowType (.ofLetter "order" "O" ["item", "note"]), [], 0, 0⟩

theorem Classifier.ofEntry_orders : ofEntry .orders "order" "s" = .ok orders := rfl

end SheetGrammar
