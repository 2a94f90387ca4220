import SheetGrammar.Proofs.Classifier.Stack
import SheetGrammar.Proofs.Except

/-!
# Failures of a classifier

A classifier can fail in two ways: a row misses the datatype of a cell to keep, or a child type
is not defined.  With a closed grammar the second never happens, since every frame is of a type
of the grammar and opens frames for its children alone.

## Main definitions

* `RowType.Misreads`, `Grammar.Misreads` — an error shows a cell that misses its datatype.

## Main results

* `RowType.misreads_of_extract` — extracting columns fails in this way alone.
* `Classifier.Stepped.misreads` — with a closed grammar so does a transition.
* `Classifier.misreads_of_feed`, `misreads_of_classify` — and so do a row and a sheet.
-/

namespace SheetGrammar

/-! ### Rows that a type cannot read -/

namespace RowType

variable {t : RowType} {sheet : String} {cells : List String} {e : Error} {xs : List Extraction}
  {columns : List Column}

/-- The error shows a cell of the row that the type keeps, but whose text is not of the
datatype that it should be of. -/
def Misreads (t : RowType) (sheet : String) (cells : List String) (e : Error) : Prop :=
  ∃ x ∈ t.extractions, ∃ raw, x.cell.get? cells = some raw ∧ x.datatype.read? raw = none ∧
    e = .extraction t.name x.cell.address raw x.datatype.name sheet

theorem extractCell_eq_error {x : Extraction} (h : t.extractCell cells sheet x = .error e) :
    ∃ raw, x.cell.get? cells = some raw ∧ x.datatype.read? raw = none ∧
      e = .extraction t.name x.cell.address raw x.datatype.name sheet := by
  unfold extractCell at h
  split at h
  · cases h
  · next raw hraw =>
    split at h
    · cases h
    · next hread =>
      cases h
      exact ⟨raw, hraw, hread, rfl⟩

theorem extractAll_cons_eq_ok_iff {x : Extraction} :
    t.extractAll cells sheet (x :: xs) = .ok columns ↔
      ∃ o, t.extractCell cells sheet x = .ok o ∧
        ∃ rest, t.extractAll cells sheet xs = .ok rest ∧ o.toList ++ rest = columns := by
  rw [extractAll]
  cases t.extractCell cells sheet x with
  | error e => simp
  | ok o => cases t.extractAll cells sheet xs <;> simp

theorem extractAll_cons_eq_error_iff {x : Extraction} :
    t.extractAll cells sheet (x :: xs) = .error e ↔
      t.extractCell cells sheet x = .error e ∨
        (∃ o, t.extractCell cells sheet x = .ok o) ∧ t.extractAll cells sheet xs = .error e := by
  rw [extractAll]
  cases t.extractCell cells sheet x with
  | error e => simp
  | ok o => cases t.extractAll cells sheet xs <;> simp

theorem extractAll_eq_error (h : t.extractAll cells sheet xs = .error e) :
    ∃ x ∈ xs, t.extractCell cells sheet x = .error e := by
  induction xs with
  | nil => cases h
  | cons x xs ih =>
    rcases extractAll_cons_eq_error_iff.mp h with hcell | ⟨-, hrest⟩
    · exact ⟨x, List.mem_cons_self, hcell⟩
    · obtain ⟨y, hy, hcell⟩ := ih hrest
      exact ⟨y, List.mem_cons_of_mem x hy, hcell⟩

/-- A type fails to read a row only where a cell is not of its datatype. -/
theorem misreads_of_extract (h : t.extract cells sheet = .error e) : t.Misreads sheet cells e := by
  obtain ⟨x, hx, hcell⟩ := extractAll_eq_error h
  exact ⟨x, hx, extractCell_eq_error hcell⟩

/-- What is kept as a string is always read. -/
theorem not_misreads_of_string (h : ∀ x ∈ t.extractions, x.datatype = .string) :
    ¬ t.Misreads sheet cells e := by
  rintro ⟨x, hx, raw, -, hread, -⟩
  rw [h x hx] at hread
  cases hread

end RowType

/-- The error shows that a row belongs to a type of the grammar that cannot read it. -/
def Grammar.Misreads (g : Grammar) (sheet : String) (cells : List String) (e : Error) : Prop :=
  ∃ t ∈ g.types, t.matches cells = true ∧ t.Misreads sheet cells e

/-! ### Transitions and runs -/

namespace Classifier

variable {c d : Classifier} {entry : String} {cells : List String} {e : Error}

/-- With a closed grammar a transition fails only where a row is misread. -/
theorem Stepped.misreads (hs : Stepped c cells d (.error e)) (h : HasStack entry c)
    (hg : c.grammar.Closed) : c.grammar.Misreads c.sheet cells e := by
  -- the top frame is of a type of the grammar
  have htop : c.top.rowType ∈ c.grammar.types := Grammar.mem_of_get? h.sound.defined
  cases hs with
  | misread e hm hx => exact ⟨c.top.rowType, htop, hm, RowType.misreads_of_extract hx⟩
  | undefinedChild child rest hm hu ht =>
    -- an untried type is a child of the top frame's type, so that its look-up cannot miss
    have hdefined := hg c.top.rowType htop child (Frame.mem_children_of_untried hu)
    obtain ⟨t, ht'⟩ := Grammar.defines_eq_true_iff.mp hdefined
    rw [ht] at ht'
    cases ht'

/-- With a closed grammar the transitions of a row fail only where the row is misread. -/
theorem misreads_of_settle (hg : c.grammar.Closed) (h : HasStack entry c)
    (he : (c.settle cells).result = .error e) : c.grammar.Misreads c.sheet cells e := by
  refine settle_induction
    (motive := fun c _ r => c.grammar.Closed → HasStack entry c → r = .error e →
      c.grammar.Misreads c.sheet cells e) ?_ ?_ ?_ c hg h he
  · intro c d e' hs hg h he
    obtain rfl := Except.error.inj he
    exact hs.misreads h hg
  · intro c d t _ _ _ _ he
    cases he
  · intro c d d' t r hs _ ih hg h he
    obtain ⟨hgrammar, hsheet⟩ := hs.context
    rw [← hgrammar, ← hsheet]
    rw [← hgrammar] at hg
    exact ih hg (hs.stacked h) he

theorem misreads_of_feed (hg : c.grammar.Closed) (h : HasStack entry c)
    (he : (c.feed cells).result = .error e) : c.grammar.Misreads c.sheet cells e :=
  misreads_of_settle (c := { c with rowsRead := c.rowsRead + 1 }) hg h he

/-- With a closed grammar rows fail only where one of them is misread. -/
theorem misreads_of_feedAll {rows : List (List String)} (hg : c.grammar.Closed)
    (h : HasStack entry c) (he : c.feedAll rows = .error e) :
    ∃ cells ∈ rows, c.grammar.Misreads c.sheet cells e := by
  induction rows generalizing c with
  | nil => cases he
  | cons cells rows ih =>
    unfold feedAll at he
    simp only at he
    split at he
    · next hfeed =>
      cases he
      exact ⟨cells, List.mem_cons_self, misreads_of_feed hg h hfeed⟩
    · -- the next row meets the same grammar, and a stack that is still in shape
      obtain ⟨hgrammar, hsheet⟩ := context_after c [.feed cells]
      obtain ⟨row, hrow, hmis⟩ := ih (by rw [← hgrammar] at hg; exact hg)
        (stacked_after h [.feed cells]) he
      refine ⟨row, List.mem_cons_of_mem cells hrow, ?_⟩
      rwa [← hgrammar, ← hsheet]

end Classifier

/-- **Only a cell can fail.** If the grammar is closed and defines the entry type, a sheet
fails only where one of its rows belongs to a type that cannot read it. -/
theorem misreads_of_classify {g : Grammar} {entry : String} {s : Sheet} {e : Error}
    (hg : g.Closed) (hentry : g.defines entry = true) (he : classify g entry s = .error e) :
    ∃ cells ∈ s.rows, g.Misreads s.name cells e := by
  unfold classify at he
  split at he
  · next herror =>
    obtain ⟨t, ht⟩ := Grammar.defines_eq_true_iff.mp hentry
    simp [Classifier.ofEntry, Classifier.ofName_eq, ht, Except.map] at herror
  · next c hc =>
    obtain ⟨t, ht, rfl⟩ := Classifier.eq_of_ofEntry hc
    have hfeed := Except.map_eq_error_iff.mp he
    exact Classifier.misreads_of_feedAll hg (Classifier.stacked_of_ofEntry hc) hfeed

end SheetGrammar
