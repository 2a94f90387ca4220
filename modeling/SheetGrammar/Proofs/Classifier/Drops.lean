import SheetGrammar.Proofs.Classifier.Lockstep
import SheetGrammar.Proofs.Classifier.Walk
import SheetGrammar.Proofs.Except

/-!
# Rows behind a dropped row

A row is dropped once all frames are closed and the root has tried all its child types.  The
child types are tried again only under a new record, so that from then on every row is dropped
that is not of the entry type, rows of its child types too.  The same holds before the first
record.  A row that is dropped in this way leaves no trace but in the counts, and a sheet gives
the same records without it.

## Main definitions

* `Classifier.Waits` — the last row was dropped, or there is no record yet.
* `Classifier.Idle` — only the root is left, and it tries no child type.
* `Sheet.without` — a sheet without some of its rows.

## Main results

* `Classifier.Waits.idle` — a classifier that waits is idle.
* `Classifier.Idle.after` — an idle classifier drops every row that is not of the entry type.
* `Classifier.feedAll_kept` — rows that an idle classifier drops can be left out.
* `Classifier.dropped_until_entry` — what a dropped row does to the rows behind it.
-/

namespace SheetGrammar

/-- A sheet without the rows at some places. -/
def Sheet.without (s : Sheet) (deleted : Nat → Bool) : Sheet :=
  { s with rows := (s.rows.zipIdx.filter fun row => !deleted row.2).map Prod.fst }

namespace Classifier

variable {g : Grammar} {entry sheet : String} {t : RowType} {c d : Classifier}
  {cells : List String} {rows history : List (List String)}

/-- The last of the rows fed so far was dropped, or none of them has become a record. -/
def Waits (c : Classifier) (history : List (List String)) : Prop :=
  c.matchedRows (history.map .feed) = [] ∨
    ∃ before last, history = before ++ [last] ∧
      ((c.after (before.map .feed)).feed last).result = .ok .dropped

/-! ### Idle classifiers -/

/-- Only the root frame is left, and it tries no child type. -/
structure Idle (c : Classifier) : Prop where
  below : c.below = []
  untried : c.top.untried = []

theorem Idle.step (h : c.Idle) (hm : c.top.rowType.matches cells = false) :
    c.step cells = (c, .ok .dropped) := by
  rw [Classifier.step, hm, h.untried, h.below]
  rfl

/-- An idle classifier drops a row that is not of the type of the root, and stays as it is. -/
theorem Idle.feed (h : c.Idle) (hm : c.top.rowType.matches cells = false) :
    (c.feed cells).result = .ok .dropped ∧
      (c.feed cells).classifier
        = { c with rowsRead := c.rowsRead + 1, rowsDropped := c.rowsDropped + 1 } := by
  have hidle : Idle { c with rowsRead := c.rowsRead + 1 } := ⟨h.below, h.untried⟩
  have hsettle := settle_of_endsRow (hidle.step hm) rfl
  simp only [Classifier.feed, hsettle, countDrop, and_self]

/-- An idle classifier drops all rows that are not of the type of the root. -/
theorem Idle.after (h : c.Idle) (hrows : ∀ cells ∈ rows, c.top.rowType.matches cells = false) :
    c.after (rows.map .feed)
      = { c with
          rowsRead := c.rowsRead + rows.length
          rowsDropped := c.rowsDropped + rows.length } ∧
      (c.reports (rows.map .feed)).map Report.result = rows.map fun _ => .ok .dropped := by
  induction rows generalizing c with
  | nil => exact ⟨rfl, rfl⟩
  | cons cells rows ih =>
    obtain ⟨hm, hrows⟩ := List.forall_mem_cons.mp hrows
    obtain ⟨hresult, hnext⟩ := h.feed hm
    -- the row only counts, so that the classifier is idle as before
    obtain ⟨hafter, hreports⟩ :=
      ih (c := { c with rowsRead := c.rowsRead + 1, rowsDropped := c.rowsDropped + 1 })
        ⟨h.below, h.untried⟩ hrows
    rw [List.map_cons, List.map_cons, after_cons, reports, List.map_cons]
    simp only [call, hresult, hnext, hafter, hreports, List.length_cons, and_true]
    rw [Nat.add_right_comm, Nat.add_right_comm c.rowsDropped, Nat.add_assoc, Nat.add_assoc]

theorem finish_of_below (h : c.below = []) : c.finish = c.top.records := by
  rw [finish, h]
  rfl

/-- A row of the type of the root becomes its next record. -/
theorem Idle.feed_of_matches (h : c.Idle) (hm : c.top.rowType.matches cells = true)
    {columns : List Column} (hx : c.top.rowType.extract cells c.sheet = .ok columns) :
    (c.feed cells).result = .ok .matched ∧
      (c.feed cells).classifier.finish
        = c.finish ++ [⟨c.top.rowType.name, c.finish.length + 1, columns, []⟩] := by
  have hstep : Classifier.step { c with rowsRead := c.rowsRead + 1 } cells
      = ({ c with top := c.top.add columns, rowsRead := c.rowsRead + 1 }, .ok .matched) := by
    rw [Classifier.step, if_pos hm, hx]
  have hfeed : (c.feed cells).result = .ok .matched ∧ (c.feed cells).classifier
      = { c with top := c.top.add columns, rowsRead := c.rowsRead + 1 } := by
    simp only [Classifier.feed, settle_of_endsRow hstep rfl, countDrop, and_self]
  have hlength : c.top.records.length = c.top.rows.length := List.length_reverse
  have hbefore := finish_of_below h.below
  have hafter := finish_of_below
    (c := { c with top := c.top.add columns, rowsRead := c.rowsRead + 1 }) h.below
  refine ⟨hfeed.1, ?_⟩
  rw [hfeed.2, hafter, hbefore, Frame.records_add, hlength]

/-- A row that the top frame takes but cannot read only counts. -/
theorem feed_of_misread {e : Error} (hm : c.top.rowType.matches cells = true)
    (hx : c.top.rowType.extract cells c.sheet = .error e) :
    (c.feed cells).result = .error e ∧
      (c.feed cells).classifier = { c with rowsRead := c.rowsRead + 1 } := by
  have hstep : Classifier.step { c with rowsRead := c.rowsRead + 1 } cells
      = ({ c with rowsRead := c.rowsRead + 1 }, .error e) := by
    rw [Classifier.step, if_pos hm, hx]
  simp only [Classifier.feed, settle_of_error hstep, countDrop, and_self]

/-- What an idle classifier drops is not of the type of the root. -/
theorem Idle.matches_of_feed (h : c.Idle) (hr : (c.feed cells).result = .ok .dropped) :
    c.top.rowType.matches cells = false := by
  cases hm : c.top.rowType.matches cells with
  | false => rfl
  | true =>
    cases hx : c.top.rowType.extract cells c.sheet with
    | ok columns =>
      rw [(h.feed_of_matches hm hx).1] at hr
      cases hr
    | error e =>
      rw [(feed_of_misread hm hx).1] at hr
      cases hr

/-! ### Classifiers that wait -/

/-- A classifier that has just dropped a row is idle. -/
theorem idle_of_feed (h : (c.feed cells).result = .ok .dropped) :
    (c.feed cells).classifier.Idle := by
  have hsettle : ∀ c : Classifier, (c.settle cells).result = .ok .dropped →
      (c.settle cells).classifier.Idle := by
    refine settle_induction (motive := fun c d r => r = .ok .dropped → d.Idle) ?_ ?_ ?_
    · intro c d e _ he
      cases he
    · rintro c d t hs _ ⟨⟩
      cases hs with
      | dropped _ hu hb => exact ⟨hb, hu⟩
    · intro c d d' t r _ _ ih
      exact ih
  obtain ⟨hbelow, huntried⟩ := hsettle _ h
  refine ⟨?_, ?_⟩
  · simpa [Classifier.feed] using hbelow
  · simpa [Classifier.feed] using huntried

/-- Only the root frame is there, and it has no record. -/
structure Fresh (c : Classifier) : Prop where
  below : c.below = []
  rows : c.top.rows = []

theorem Fresh.idle (h : c.Fresh) : c.Idle :=
  ⟨h.below, by rw [Frame.untried, h.rows]⟩

theorem fresh_of_ofEntry (h : ofEntry g entry sheet = .ok c) : c.Fresh := by
  obtain ⟨t, -, rfl⟩ := eq_of_ofEntry h
  exact ⟨rfl, rfl⟩

/-- A row that does not become the first record leaves a classifier as fresh as it was. -/
theorem Fresh.feed (h : c.Fresh) (hr : (c.feed cells).result ≠ .ok .matched) :
    (c.feed cells).classifier.Fresh := by
  cases hm : c.top.rowType.matches cells with
  | false =>
    rw [(h.idle.feed hm).2]
    exact ⟨h.below, h.rows⟩
  | true =>
    cases hx : c.top.rowType.extract cells c.sheet with
    | ok columns => exact absurd (h.idle.feed_of_matches hm hx).1 hr
    | error e =>
      rw [(feed_of_misread hm hx).2]
      exact ⟨h.below, h.rows⟩

/-- A classifier stays fresh until a row becomes a record. -/
theorem Fresh.after (h : c.Fresh) (hm : c.matchedRows (history.map .feed) = []) :
    (c.after (history.map .feed)).Fresh := by
  induction history generalizing c with
  | nil => exact h
  | cons cells history ih =>
    rw [List.map_cons] at hm
    have hr : (c.feed cells).result ≠ .ok .matched := by
      intro hr
      rw [matchedRows_of_matched (k := .feed cells) hr] at hm
      cases hm
    rw [matchedRows_of_ne (k := .feed cells) hr] at hm
    exact ih (h.feed hr) hm

theorem Waits.idle (h : c.Waits history) (hc : ofEntry g entry sheet = .ok c) :
    (c.after (history.map .feed)).Idle := by
  rcases h with hnone | ⟨before, last, rfl, hlast⟩
  · exact ((fresh_of_ofEntry hc).after hnone).idle
  · have hidle := idle_of_feed hlast
    have hafter : c.after ((before ++ [last]).map .feed)
        = ((c.after (before.map .feed)).feed last).classifier := by
      rw [List.map_append, after_append]
      rfl
    rwa [hafter]

/-- The root frame is of the entry type. -/
theorem rowType_of_idle (h : HasStack entry c) (hidle : c.Idle)
    (ht : c.grammar.get? entry = some t) : c.top.rowType = t := by
  unfold HasStack at h
  rw [hidle.below] at h
  cases h with
  | root hf he =>
    have hdefined := hf.defined
    rw [he, ht] at hdefined
    exact (Option.some.inj hdefined).symm

/-! ### Sheets without some rows -/

/-- Both have the same stack; their counts of rows may differ. -/
def SameStack (c d : Classifier) : Prop := ∃ m n, d = c.withContext c.grammar m n

theorem sameStack_refl (c : Classifier) : SameStack c c := ⟨c.rowsRead, c.rowsDropped, rfl⟩

theorem SameStack.finish_eq (h : SameStack c d) : d.finish = c.finish := by
  obtain ⟨m, n, rfl⟩ := h
  exact finish_withContext c c.grammar m n

theorem lockstep_sameStack : Lockstep SameStack where
  result := by
    rintro c _ ⟨m, n, rfl⟩ cells
    rw [step_withContext fun _ _ _ => rfl]
  step := by
    rintro c _ ⟨m, n, rfl⟩ cells
    rw [step_withContext fun _ _ _ => rfl]
    exact ⟨m, n, by rw [(stepped_step c cells).context.1]⟩
  read := by
    rintro c _ ⟨m, n, rfl⟩
    exact ⟨m + 1, n, rfl⟩
  drop := by
    rintro c _ ⟨m, n, rfl⟩
    exact ⟨m, n + 1, rfl⟩

/-- Rows that an idle classifier drops can be left out: the stack comes to be the same. Places
are counted from `i` on. -/
theorem feedAll_kept {c' : Classifier} {deleted : Nat → Bool} {i : Nat} (hcd : SameStack c d)
    (h : c.feedAll rows = .ok c')
    (hdeleted : ∀ j cells, rows[j]? = some cells → deleted (i + j) = true →
      (c.after ((rows.take j).map .feed)).Idle ∧
        ((c.after ((rows.take j).map .feed)).feed cells).result = .ok .dropped) :
    ∃ d', d.feedAll (((rows.zipIdx i).filter fun row => !deleted row.2).map Prod.fst) = .ok d' ∧
      SameStack c' d' := by
  induction rows generalizing c d i with
  | nil =>
    obtain rfl := Except.ok.inj h
    exact ⟨d, rfl, hcd⟩
  | cons cells rows ih =>
    unfold feedAll at h
    cases hr : (c.feed cells).result with
    | error e => simp [hr] at h
    | ok t =>
      simp only [hr] at h
      -- the places of the other rows are counted from the next one on
      have hrest : ∀ j row, rows[j]? = some row → deleted (i + 1 + j) = true →
          ((c.feed cells).classifier.after ((rows.take j).map .feed)).Idle ∧
            (((c.feed cells).classifier.after ((rows.take j).map .feed)).feed row).result
              = .ok .dropped := by
        intro j row hj hdel
        exact hdeleted (j + 1) row (by simpa using hj) (by rwa [Nat.add_right_comm] at hdel)
      rw [List.zipIdx_cons]
      cases hdel : deleted i with
      | true =>
        obtain ⟨hidle, hdropped⟩ : c.Idle ∧ (c.feed cells).result = .ok .dropped :=
          hdeleted 0 cells rfl hdel
        have hnext := (hidle.feed (hidle.matches_of_feed hdropped)).2
        have hsame : SameStack (c.feed cells).classifier d := by
          obtain ⟨m, n, rfl⟩ := hcd
          rw [hnext]
          exact ⟨m, n, rfl⟩
        rw [List.filter_cons_of_neg (by simp [hdel])]
        exact ih hsame h hrest
      | false =>
        obtain ⟨hresult, hsame⟩ := lockstep_sameStack.feed hcd cells
        rw [List.filter_cons_of_pos (by simp [hdel]), List.map_cons, feedAll]
        simp only [← hresult, hr]
        exact ih hsame h hrest

/-! ### The theorem -/

/-- **What a dropped row does to the rows behind it.** If the last row was dropped, or none has
become a record yet, then all rows up to the next one of the entry type are dropped, and the
stack stays as it is; that next row, if it can be read, becomes the next record of the root.
So a sheet has the same records without any rows that were dropped behind another dropped row
or before the first record. -/
theorem dropped_until_entry (h : ofEntry g entry sheet = .ok c) (ht : g.get? entry = some t) :
    (∀ history, c.Waits history → ∀ rows : List (List String),
      (∀ cells ∈ rows, t.matches cells = false) →
      let d := c.after (history.map .feed)
      let d' := d.after (rows.map .feed)
      (d.reports (rows.map .feed)).map Report.result = rows.map (fun _ => .ok .dropped) ∧
        d'.frames = d.frames ∧
        ∀ cells columns, t.matches cells = true → t.extract cells sheet = .ok columns →
          (d'.feed cells).result = .ok .matched ∧
            (d'.feed cells).classifier.finish
              = d.finish ++ [⟨entry, d.finish.length + 1, columns, []⟩]) ∧
    ∀ (s : Sheet) (records : List Record) (deleted : Nat → Bool), s.name = sheet →
      classify g entry s = .ok records →
      (∀ i cells, s.rows[i]? = some cells → deleted i = true → c.Waits (s.rows.take i) ∧
        ((c.after ((s.rows.take i).map .feed)).feed cells).result = .ok .dropped) →
      classify g entry (s.without deleted) = .ok records := by
  constructor
  · intro history hwaits rows hrows d d'
    have hidle : d.Idle := hwaits.idle h
    have hcontext : d.grammar = g ∧ d.sheet = sheet := by
      obtain ⟨t, -, rfl⟩ := eq_of_ofEntry h
      exact context_after _ _
    have htype : d.top.rowType = t :=
      rowType_of_idle (stacked_after (stacked_of_ofEntry h) _) hidle (by rw [hcontext.1, ht])
    obtain ⟨hafter, hreports⟩ := hidle.after (by rw [htype]; exact hrows)
    refine ⟨hreports, ?_, fun cells columns hm hx => ?_⟩
    · simp only [d', hafter, frames]
    · have hidle' : d'.Idle := by
        simp only [d', hafter]
        exact ⟨hidle.below, hidle.untried⟩
      have htop : d'.top = d.top ∧ d'.below = d.below ∧ d'.sheet = d.sheet := by
        simp only [d', hafter, and_self]
      have hm' : d'.top.rowType.matches cells = true := by rw [htop.1, htype, hm]
      have hx' : d'.top.rowType.extract cells d'.sheet = .ok columns := by
        rw [htop.1, htop.2.2, htype, hcontext.2, hx]
      obtain ⟨hresult, hfinish⟩ := hidle'.feed_of_matches hm' hx'
      refine ⟨hresult, ?_⟩
      rw [hfinish, htop.1, htype, Grammar.name_of_get? ht, finish_of_below hidle'.below,
        finish_of_below hidle.below, htop.1]
  · rintro s records deleted rfl hclassify hdeleted
    have hkept : ∀ j cells, s.rows[j]? = some cells → deleted (0 + j) = true →
        (c.after ((s.rows.take j).map .feed)).Idle ∧
          ((c.after ((s.rows.take j).map .feed)).feed cells).result = .ok .dropped := by
      intro j cells hj hdel
      rw [Nat.zero_add] at hdel
      obtain ⟨hwaits, hdropped⟩ := hdeleted j cells hj hdel
      exact ⟨hwaits.idle h, hdropped⟩
    simp only [classify, h] at hclassify
    obtain ⟨c', hc', rfl⟩ := Except.map_eq_ok_iff.mp hclassify
    obtain ⟨d', hd', hsame⟩ := feedAll_kept (sameStack_refl c) hc' hkept
    simp only [classify, Sheet.without, h]
    exact Except.map_eq_ok_iff.mpr ⟨d', hd', hsame.finish_eq⟩

/-- Behind a stray row an item and a note are lost, though orders have such children; the next
order counts on. -/
theorem dropped_until_entry_orders :
    orders.Waits [["O", "1"], ["X"]] ∧
      ((orders.after ([["O", "1"], ["X"]].map .feed)).reports
          ([["I", "2"], ["N", "3"]].map .feed)).map Report.result
        = [.ok .dropped, .ok .dropped] ∧
      classify .orders "order"
          (Sheet.without ⟨"s", 0, [["O", "1"], ["X"], ["I", "2"], ["O", "4"]]⟩ fun i => i = 2)
        = .ok [⟨"order", 1, [⟨"B", "amount", .integer 1⟩], []⟩,
            ⟨"order", 2, [⟨"B", "amount", .integer 4⟩], []⟩] := by
  have hentry : Grammar.orders.get? "order" = some (.ofLetter "order" "O" ["item", "note"]) := rfl
  have hwaits : orders.Waits [["O", "1"], ["X"]] :=
    .inr ⟨[["O", "1"]], ["X"], rfl, by with_unfolding_all rfl⟩
  obtain ⟨hdropped, hwithout⟩ := dropped_until_entry ofEntry_orders hentry
  refine ⟨hwaits, (hdropped _ hwaits [["I", "2"], ["N", "3"]] (by decide +kernel)).1, ?_⟩
  refine hwithout _ _ _ rfl (by with_unfolding_all rfl) fun i cells hi hdel => ?_
  obtain rfl : i = 2 := by simpa using hdel
  obtain rfl : ["I", "2"] = cells := Option.some.inj hi
  exact ⟨hwaits, by with_unfolding_all rfl⟩

end Classifier

end SheetGrammar
