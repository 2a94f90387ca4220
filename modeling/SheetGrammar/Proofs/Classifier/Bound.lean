import Mathlib.Algebra.Ring.Nat
import SheetGrammar.Proofs.Classifier.Lockstep

/-!
# How many transitions a row takes

Feeding a row is a loop of transitions.  A frame that is opened takes the row at once or has
nothing to try, as it has no record; so of all frames only those with a record have child types
that the row can still ask for.  Each of these costs at most two transitions, one that opens a
frame and one that closes it, and each frame that was open before costs one more.  A row that is
dropped has tried everything, and takes exactly that many.

## Main definitions

* `Classifier.Course` — the transitions of a row, counted up to the one that ends it.
* `Classifier.remaining` — the child types that a row can still ask for.
* `Classifier.Fed.transitions` — how many transitions were taken.

## Main results

* `Classifier.Stepped.potential_eq` — opening or closing a frame lowers the potential by one.
* `Classifier.course_settle` — the loop ends, by the transitions that it reports.
* `Classifier.feed_transitions_le` — the bound.
-/

namespace SheetGrammar

namespace Classifier

variable {c d : Classifier} {cells : List String} {n : Nat} {t : Transition}
  {r : Except Error Transition}

/-! ### The course of a row -/

/-- `Course cells n c d r` says that the row `cells` takes `n` transitions from `c` to `d`. All of
them but the last open or close a frame; the last one has the result `r`, with which the row is
matched or dropped or the loop fails. -/
inductive Course (cells : List String) :
    Nat → Classifier → Classifier → Except Error Transition → Prop
  /-- The transition fails. -/
  | failed {c d : Classifier} {e : Error} (h : c.step cells = (d, .error e)) :
      Course cells 1 c d (.error e)
  /-- The transition ends the row. -/
  | ended {c d : Classifier} {t : Transition} (h : c.step cells = (d, .ok t))
      (ht : t.endsRow = true) : Course cells 1 c d (.ok t)
  /-- The transition opens or closes a frame, and others follow. -/
  | more {n : Nat} {c d d' : Classifier} {t : Transition} {r : Except Error Transition}
      (h : c.step cells = (d, .ok t)) (ht : t.endsRow = false) (hrest : Course cells n d d' r) :
      Course cells (n + 1) c d' r

/-- How many transitions were taken; one that failed is not among the steps. -/
def Fed.transitions (fed : Fed) : Nat :=
  match fed.result with
  | .ok _ => fed.steps.length
  | .error _ => fed.steps.length + 1

theorem Fed.transitions_cons (fed : Fed) (step : Transition × Nat) :
    Fed.transitions { fed with steps := step :: fed.steps } = fed.transitions + 1 := by
  obtain ⟨d, r, steps⟩ := fed
  cases r with
  | ok t => rfl
  | error e => rfl

/-- The transitions of a row come to an end, and are those that are reported. -/
theorem course_settle (c : Classifier) (cells : List String) :
    Course cells (c.settle cells).transitions c (c.settle cells).classifier
      (c.settle cells).result := by
  obtain ⟨d, r, h⟩ : ∃ d r, c.step cells = (d, r) := ⟨_, _, rfl⟩
  cases r with
  | error e =>
    rw [settle_of_error h]
    exact .failed h
  | ok t =>
    cases ht : t.endsRow with
    | true =>
      rw [settle_of_endsRow h ht]
      exact .ended h ht
    | false =>
      -- the potential falls, so the rest of the transitions is shorter
      have : d.potential < c.potential := potential_step_lt h ht
      rw [settle_of_not_endsRow h ht, Fed.transitions_cons]
      exact .more h ht (course_settle d cells)
termination_by c.potential

/-! ### What transitions cost -/

/-- How many child types the frames with a record have behind their cursors. -/
def remaining (c : Classifier) : Nat :=
  ((c.frames.filter fun f => !f.rows.isEmpty).map fun f =>
    f.rowType.children.length - f.nextChild).sum

/-- These are the child types that were not tried yet. -/
theorem untriedCount_eq_sum (fs : List Frame) :
    untriedCount fs = ((fs.filter fun f => !f.rows.isEmpty).map fun f =>
      f.rowType.children.length - f.nextChild).sum := by
  induction fs with
  | nil => rfl
  | cons f fs ih =>
    rw [untriedCount_cons, ih]
    cases hr : f.rows with
    | nil => simp [Frame.untried, hr]
    | cons r rs => simp [Frame.untried, hr]

theorem potential_eq (c : Classifier) : c.potential = c.depth + 2 * c.remaining := by
  rw [potential, remaining, untriedCount_eq_sum]

/-- Opening or closing a frame lowers the potential by one. An opened frame has no record, and
so nothing to try. -/
theorem Stepped.potential_eq (hs : Stepped c cells d (.ok t)) (ht : t.endsRow = false) :
    c.potential = d.potential + 1 := by
  cases hs with
  | matched => cases ht
  | descended child rest t' _ hu _ =>
    simp only [potential, depth, frames, List.length_cons, untriedCount_cons, hu,
      untried_ofRowType, untried_advance hu, List.length_nil]
    omega
  | ascended f below _ hu hb =>
    simp only [potential, depth, frames, List.length_cons, untriedCount_cons, hu, hb,
      untried_attach, List.length_nil]
    omega
  | dropped => cases ht

/-- Where a row is dropped, one frame is left and nothing is to be tried. -/
theorem Stepped.potential_of_dropped (hs : Stepped c cells d (.ok .dropped)) :
    c.potential = 1 := by
  cases hs with
  | dropped _ hu hb =>
    simp [potential, depth, frames, untriedCount, hu, hb]

theorem potential_pos (c : Classifier) : 0 < c.potential :=
  Nat.lt_of_lt_of_le (Nat.succ_pos _) (Nat.le_add_right _ _)

/-- The potential bounds the transitions of a row, and tells their number if it is dropped. -/
theorem Course.le_potential (h : Course cells n c d r) :
    n ≤ c.potential ∧ (r = .ok .dropped → n = c.potential) := by
  induction h with
  | failed h => exact ⟨potential_pos _, fun hr => by cases hr⟩
  | @ended c d t h _ =>
    refine ⟨potential_pos _, ?_⟩
    rintro ⟨⟩
    have hs := stepped_step c cells
    rw [h] at hs
    exact hs.potential_of_dropped.symm
  | @more n c d d' t r h ht _ ih =>
    have hs := stepped_step c cells
    rw [h] at hs
    rw [hs.potential_eq ht]
    exact ⟨Nat.succ_le_succ ih.1, fun hr => congrArg (· + 1) (ih.2 hr)⟩

/-! ### The theorem -/

/-- **Feeding a row ends, within a bound.** Whatever frames a classifier has, and whether or not
its grammar is cyclic or lacks some child types, the row takes finitely many transitions: at most
one for each open frame and two for each child type that a frame with a record still has behind
its cursor. A row that is dropped takes exactly that many. -/
theorem feed_transitions_le (c : Classifier) (cells : List String) :
    (∃ d, Course cells (c.feed cells).transitions { c with rowsRead := c.rowsRead + 1 } d
        (c.feed cells).result ∧ (c.feed cells).classifier = d.countDrop (c.feed cells).result) ∧
      (c.feed cells).transitions ≤ c.depth + 2 * c.remaining ∧
      ((c.feed cells).result = .ok .dropped →
        (c.feed cells).transitions = c.depth + 2 * c.remaining) := by
  have hcourse := course_settle { c with rowsRead := c.rowsRead + 1 } cells
  have hbound := hcourse.le_potential
  -- counting the row leaves the frames, and so the potential, as they are
  have hpotential : potential { c with rowsRead := c.rowsRead + 1 } = c.depth + 2 * c.remaining :=
    potential_eq _
  rw [hpotential] at hbound
  exact ⟨⟨_, hcourse, rfl⟩, hbound⟩

/-- A stray row behind an order: two frames are opened and closed in vain before it is dropped. -/
theorem feed_transitions_le_orders :
    ((orders.after [.feed ["O", "1"]]).feed ["X"]).result = .ok .dropped ∧
      ((orders.after [.feed ["O", "1"]]).feed ["X"]).steps.map Prod.fst
        = [.descended, .ascended, .descended, .ascended, .dropped] ∧
      ((orders.after [.feed ["O", "1"]]).feed ["X"]).transitions = 1 + 2 * 2 := by
  have hdropped : ((orders.after [.feed ["O", "1"]]).feed ["X"]).result = .ok .dropped := by
    with_unfolding_all rfl
  refine ⟨hdropped, by decide +kernel, ?_⟩
  rw [(feed_transitions_le _ _).2.2 hdropped]
  with_unfolding_all rfl

end Classifier

end SheetGrammar
