import SheetGrammar.Proofs.Classifier.Run

/-!
# Two classifiers side by side

Two classifiers that are given the same rows can be compared transition by transition: a
relation between them that every transition keeps, with the same result on both sides, holds
after every row and after every run.

## Main definitions

* `Classifier.withContext` — the same stack, with another grammar and other counts of rows.
* `Classifier.Lockstep` — a relation that every transition keeps.
* `Classifier.Report`, `Classifier.reports` — what can be seen of each call of a run.

## Main results

* `Classifier.step_withContext` — a transition depends on the stack and on one look-up.
* `Classifier.Lockstep.settle`, `Classifier.Lockstep.feed` — it is kept by every row.
* `Classifier.Lockstep.after`, `Classifier.Lockstep.reports_eq` — and by every run.
-/

namespace SheetGrammar

namespace Classifier

variable {c d : Classifier} {cells : List String} {R : Classifier → Classifier → Prop}

/-! ### What a transition depends on -/

/-- The same stack, with another grammar and other counts of rows. -/
def withContext (c : Classifier) (g : Grammar) (rowsRead rowsDropped : Nat) : Classifier :=
  { c with grammar := g, rowsRead := rowsRead, rowsDropped := rowsDropped }

theorem finish_withContext (c : Classifier) (g : Grammar) (m n : Nat) :
    (c.withContext g m n).finish = c.finish := rfl

/-- A transition depends on the stack alone, and on the grammar only for the next child type
of the top frame. -/
theorem step_withContext {g : Grammar}
    (hget : ∀ child rest, c.top.untried = child :: rest → c.grammar.get? child = g.get? child)
    (m n : Nat) (cells : List String) :
    (c.withContext g m n).step cells = ((c.step cells).1.withContext g m n, (c.step cells).2) := by
  obtain ⟨g₀, sheet, top, below, rowsRead, rowsDropped⟩ := c
  unfold step withContext
  cases top.rowType.matches cells with
  | true =>
    simp only [if_true]
    cases top.rowType.extract cells sheet with
    | error e => rfl
    | ok columns => rfl
  | false =>
    simp only [Bool.false_eq_true, if_false]
    cases hu : top.untried with
    | nil =>
      cases below with
      | nil => rfl
      | cons f below => rfl
    | cons child rest =>
      have hchild : g₀.get? child = g.get? child := hget child rest hu
      simp only [ofName_eq, ← hchild]
      cases g₀.get? child with
      | none => rfl
      | some t => rfl

/-! ### The transitions of one row, one at a time -/

theorem settle_of_error {e : Error} (h : c.step cells = (d, .error e)) :
    c.settle cells = ⟨d, .error e, []⟩ := by
  rw [settle]
  split
  · next d' e' h' =>
    rw [h] at h'
    cases h'
    rfl
  · next d' t h' =>
    rw [h] at h'
    cases h'

theorem settle_of_endsRow {t : Transition} (h : c.step cells = (d, .ok t))
    (ht : t.endsRow = true) : c.settle cells = ⟨d, .ok t, [(t, d.depth)]⟩ := by
  rw [settle]
  split
  · next d' e h' =>
    rw [h] at h'
    cases h'
  · next d' t' h' =>
    rw [h] at h'
    cases h'
    rw [dif_pos ht]

/-- After a transition that does not end the row come those of the classifier that it leads to. -/
theorem settle_of_not_endsRow {t : Transition} (h : c.step cells = (d, .ok t))
    (ht : t.endsRow = false) :
    c.settle cells = { d.settle cells with steps := (t, d.depth) :: (d.settle cells).steps } := by
  rw [settle]
  split
  · next d' e h' =>
    rw [h] at h'
    cases h'
  · next d' t' h' =>
    rw [h] at h'
    cases h'
    rw [dif_neg (by simp [ht])]

/-! ### Lockstep -/

/-- A relation between classifiers that every transition keeps, with the same result on both
sides, and that the counting of rows keeps too. -/
structure Lockstep (R : Classifier → Classifier → Prop) : Prop where
  result : ∀ {c d}, R c d → ∀ cells, (c.step cells).2 = (d.step cells).2
  step : ∀ {c d}, R c d → ∀ cells, R (c.step cells).1 (d.step cells).1
  read : ∀ {c d}, R c d →
    R { c with rowsRead := c.rowsRead + 1 } { d with rowsRead := d.rowsRead + 1 }
  drop : ∀ {c d}, R c d →
    R { c with rowsDropped := c.rowsDropped + 1 } { d with rowsDropped := d.rowsDropped + 1 }

namespace Lockstep

theorem settle (hR : Lockstep R) {c d : Classifier} (h : R c d) (cells : List String) :
    (c.settle cells).result = (d.settle cells).result ∧
      R (c.settle cells).classifier (d.settle cells).classifier := by
  have hresult := hR.result h cells
  have hnext := hR.step h cells
  obtain ⟨c', r, hc⟩ : ∃ c' r, c.step cells = (c', r) := ⟨_, _, rfl⟩
  obtain ⟨d', r', hd⟩ : ∃ d' r', d.step cells = (d', r') := ⟨_, _, rfl⟩
  rw [hc, hd] at hresult hnext
  subst hresult
  cases r with
  | error e =>
    rw [settle_of_error hc, settle_of_error hd]
    exact ⟨rfl, hnext⟩
  | ok t =>
    cases ht : t.endsRow with
    | true =>
      rw [settle_of_endsRow hc ht, settle_of_endsRow hd ht]
      exact ⟨rfl, hnext⟩
    | false =>
      -- the potential falls, so the rest of the transitions is shorter
      have : c'.potential < c.potential := potential_step_lt hc ht
      rw [settle_of_not_endsRow hc ht, settle_of_not_endsRow hd ht]
      exact settle hR hnext cells
termination_by c.potential

theorem feed (hR : Lockstep R) (h : R c d) (cells : List String) :
    (c.feed cells).result = (d.feed cells).result ∧
      R (c.feed cells).classifier (d.feed cells).classifier := by
  obtain ⟨hresult, hnext⟩ := hR.settle (hR.read h) cells
  refine ⟨hresult, ?_⟩
  simp only [Classifier.feed, hresult, countDrop]
  split
  · exact hR.drop hnext
  · exact hnext

theorem call (hR : Lockstep R) (h : R c d) (k : Call) :
    (c.call k).2 = (d.call k).2 ∧ R (c.call k).1 (d.call k).1 := by
  cases k with
  | step cells => exact ⟨hR.result h cells, hR.step h cells⟩
  | feed cells => exact hR.feed h cells

theorem after (hR : Lockstep R) (h : R c d) (ks : List Call) : R (c.after ks) (d.after ks) := by
  induction ks generalizing c d with
  | nil => exact h
  | cons k ks ih => exact ih (hR.call h k).2

/-- Rows are read by both classifiers or fail alike. -/
theorem feedAll (hR : Lockstep R) (h : R c d) (rows : List (List String)) :
    (∃ e, c.feedAll rows = .error e ∧ d.feedAll rows = .error e) ∨
      ∃ c' d', c.feedAll rows = .ok c' ∧ d.feedAll rows = .ok d' ∧ R c' d' := by
  induction rows generalizing c d with
  | nil => exact .inr ⟨c, d, rfl, rfl, h⟩
  | cons cells rows ih =>
    obtain ⟨hresult, hnext⟩ := hR.feed h cells
    unfold Classifier.feedAll
    simp only [← hresult]
    cases (c.feed cells).result with
    | error e => exact .inl ⟨e, rfl, rfl⟩
    | ok t => exact ih hnext

end Lockstep

/-! ### What can be seen of a run -/

/-- What can be seen of a call: what it returns, how many frames it leaves open, and how many
rows were dropped up to then. -/
structure Report where
  result : Except Error Transition
  depth : Nat
  rowsDropped : Nat

/-- What can be seen of the calls of a run, one after the other. -/
def reports (c : Classifier) : List Call → List Report
  | [] => []
  | k :: ks =>
    ⟨(c.call k).2, (c.call k).1.depth, (c.call k).1.rowsDropped⟩ :: (c.call k).1.reports ks

theorem Lockstep.reports_eq (hR : Lockstep R) (hdepth : ∀ {c d}, R c d → c.depth = d.depth)
    (hdrops : ∀ {c d}, R c d → c.rowsDropped = d.rowsDropped) (h : R c d) (ks : List Call) :
    c.reports ks = d.reports ks := by
  induction ks generalizing c d with
  | nil => rfl
  | cons k ks ih =>
    obtain ⟨hresult, hnext⟩ := hR.call h k
    rw [reports, reports, hresult, hdepth hnext, hdrops hnext, ih hnext]

end Classifier

end SheetGrammar
