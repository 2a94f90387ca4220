import SheetGrammar.Proofs.Classifier.Stack
import SheetGrammar.Proofs.Record.Walk
import Mathlib.Data.List.Forall2

/-!
# Every matched row becomes one record

Records wait in several frames at once and join their parents only when those frames are
closed.  Read in the order in which they will end up, though, the records of the whole
stack always are the rows matched so far: a match adds one record at the end, and no other
transition changes the list.

## Main definitions

* `Record.StandsFor` — a record holds what its type keeps of a row.
* `Classifier.stackHeads` — the records of a stack in the order of the finished walk.

## Main results

* `Classifier.heads_finish` — closing all frames keeps that order.
* `Classifier.adds_call` — a call adds one record if it returns a match, and else none.
* `Classifier.walk_finish_after` — no row is lost, duplicated or reordered.
-/

namespace SheetGrammar

namespace Record

/-! ### Records and rows -/

/-- A record stands for a row: the type that it names takes the row, and keeps exactly the
columns of the record. -/
def StandsFor (g : Grammar) (sheet : String) (r : Record) (cells : List String) : Prop :=
  ∃ t, g.get? r.name = some t ∧ t.matches cells = true ∧ t.extract cells sheet = .ok r.columns

@[simp] theorem standsFor_alone (g : Grammar) (sheet : String) (r : Record)
    (cells : List String) : r.alone.StandsFor g sheet cells ↔ r.StandsFor g sheet cells :=
  Iff.rfl

end Record

namespace Frame

variable {f above : Frame}

@[simp] theorem records_ofRowType (t : RowType) : (ofRowType t).records = [] := rfl

theorem records_add (f : Frame) (columns : List Column) :
    (f.add columns).records
      = f.records ++ [⟨f.rowType.name, f.rows.length + 1, columns, []⟩] := by
  simp [records]

/-- Closing a frame with records makes them a group under the open record. -/
theorem records_attach {r : Record} {rs : List Record} (hf : f.rows = r :: rs)
    (ha : above.rows ≠ []) :
    (f.attach above).records
      = rs.reverse ++ [{ r with
          children := r.children ++ [⟨above.rowType.name, above.records⟩] }] := by
  obtain ⟨a, as, has⟩ := List.exists_cons_of_ne_nil ha
  simp [records, attach, hf, has]

/-- Closing a frame moves its records behind those of the frame under it. -/
theorem heads_attach (hf : f.rows ≠ []) (above : Frame) :
    Record.heads (f.attach above).records
      = Record.heads f.records ++ Record.heads above.records := by
  by_cases ha : above.rows = []
  · simp [attach_of_rows_eq_nil f ha, records, ha]
  · obtain ⟨r, rs, hr⟩ := List.exists_cons_of_ne_nil hf
    have hf' : f.records = rs.reverse ++ [r] := by simp [records, hr]
    rw [records_attach hr ha, hf', Record.heads_append, Record.heads_addGroup,
      Record.heads_append, List.append_assoc]

end Frame

namespace Classifier

/-! ### The records of a stack -/

/-- The records of a stack: those of lower frames come first. -/
def stackHeads (top : Frame) : List Frame → List Record
  | [] => Record.heads top.records
  | f :: below => stackHeads f below ++ Record.heads top.records

/-- The records of a classifier, in the order in which they are going to be. -/
def heads (c : Classifier) : List Record := stackHeads c.top c.below

variable {g : Grammar} {entry : String} {top f : Frame} {below : List Frame}
  {c d : Classifier} {cells : List String} {r : Except Error Transition}

/-- Only the records of the top frame count where the top frame changes. -/
theorem stackHeads_congr {top' : Frame} {rs : List Record} (below : List Frame)
    (h : Record.heads top'.records = Record.heads top.records ++ rs) :
    stackHeads top' below = stackHeads top below ++ rs := by
  cases below with
  | nil => exact h
  | cons f below => simp only [stackHeads, h, List.append_assoc]

theorem stackHeads_advance (top : Frame) (below : List Frame) :
    stackHeads top.advance below = stackHeads top below := by
  cases below with
  | nil => rfl
  | cons f below => rfl

theorem stackHeads_attach (hf : f.rows ≠ []) (top : Frame) (below : List Frame) :
    stackHeads (f.attach top) below = stackHeads top (f :: below) :=
  stackHeads_congr below (Frame.heads_attach hf top)

/-- Closing all frames of a stack keeps its records and their order. -/
theorem heads_unwind (h : Stacked g entry top below) :
    Record.heads (unwind top below).records = stackHeads top below := by
  -- each step closes the top frame, which keeps the order of the whole stack
  induction below generalizing top with
  | nil => rfl
  | cons f below ih =>
    cases h with
    | push ht hs h =>
      have hclose := (Stacked.push ht hs h).close
      rw [unwind, ih hclose, stackHeads_attach hs.isOpen]

theorem heads_finish (h : HasStack entry c) : Record.heads c.finish = c.heads :=
  heads_unwind h

/-! ### What a transition adds -/

/-- `Adds cells c d r` says that the result `r` tells what `d` holds beyond `c`: for a match
one more record, which stands for the row, and else nothing. -/
def Adds (cells : List String) (c d : Classifier) (r : Except Error Transition) : Prop :=
  match r with
  | .ok .matched => ∃ rec : Record,
      rec.StandsFor c.grammar c.sheet cells ∧ d.heads = c.heads ++ [rec]
  | _ => d.heads = c.heads

theorem Adds.heads_eq_of_ne (h : Adds cells c d r) (hr : r ≠ .ok .matched) :
    d.heads = c.heads := by
  unfold Adds at h
  split at h
  · exact absurd rfl hr
  · exact h

/-- A transition that does not end the row adds nothing. -/
theorem Adds.heads_eq {t : Transition} (h : Adds cells c d (.ok t)) (ht : t.endsRow = false) :
    d.heads = c.heads := by
  refine h.heads_eq_of_ne ?_
  rintro ⟨⟩
  cases ht

theorem Adds.congr {c' : Classifier} (h : Adds cells c d r) (hh : c.heads = c'.heads)
    (hg : c.grammar = c'.grammar) (hn : c.sheet = c'.sheet) : Adds cells c' d r := by
  unfold Adds at *
  rw [hh, hg, hn] at h
  exact h

theorem Stepped.adds (hs : Stepped c cells d r) (h : HasStack entry c) : Adds cells c d r := by
  unfold HasStack at h
  cases hs with
  | matched columns hm hx =>
    refine ⟨⟨c.top.rowType.name, c.top.rows.length + 1, columns, []⟩,
      ⟨c.top.rowType, h.sound.defined, hm, hx⟩, ?_⟩
    refine stackHeads_congr c.below ?_
    rw [Frame.records_add, Record.heads_append, Record.heads_leaf]
  | misread e => exact rfl
  | descended child rest t =>
    simp [Adds, heads, stackHeads, stackHeads_advance]
  | undefinedChild child rest =>
    exact stackHeads_advance c.top c.below
  | ascended f below _ _ hb =>
    rw [hb] at h
    cases h with
    | push _ hs _ =>
      simp only [Adds, heads, hb]
      exact stackHeads_attach hs.isOpen c.top below
  | dropped => exact rfl

/-- A call adds what its last transition adds; those before it add nothing. -/
theorem adds_call (h : HasStack entry c) (k : Call) :
    Adds k.row c (c.call k).1 (c.call k).2 := by
  refine call_induction (I := HasStack entry) (Q := Adds) (fun hs => hs.stacked)
    (fun hs => hs.adds) ?_ (fun _ h => h) ?_ h k
  · intro c cells d d' t r hs ht hc hrest
    exact hrest.congr ((hs.adds hc).heads_eq ht) hs.context.1 hs.context.2
  · intro c cells d r n hadds
    -- counting rows and drops leaves the frames as they are
    unfold Adds heads at *
    simpa only [countDrop_top, countDrop_below] using hadds

/-! ### Runs -/

/-- A run adds one record for each match, in the order of the calls. -/
theorem heads_after (h : HasStack entry c) (ks : List Call) :
    ∃ rs, (c.after ks).heads = c.heads ++ rs ∧
      List.Forall₂ (Record.StandsFor c.grammar c.sheet) rs (c.matchedRows ks) := by
  induction ks generalizing c with
  | nil => exact ⟨[], by simp, .nil⟩
  | cons k ks ih =>
    have hk := adds_call h k
    obtain ⟨rs, hrs, hall⟩ := ih (stacked_after h [k])
    have hcontext := context_after c [k]
    simp only [after_cons, after_nil] at hrs hall hcontext
    rw [hcontext.1, hcontext.2] at hall
    rw [after_cons]
    by_cases hr : (c.call k).2 = .ok .matched
    · rw [hr] at hk
      obtain ⟨rec, hrec, hheads⟩ := hk
      rw [matchedRows_of_matched hr]
      refine ⟨rec :: rs, ?_, .cons hrec hall⟩
      rw [hrs, hheads, List.append_assoc, List.singleton_append]
    · rw [matchedRows_of_ne hr]
      exact ⟨rs, by rw [hrs, hk.heads_eq_of_ne hr], hall⟩

/-! ### Counting rows -/

/-- Feeding a row ends with a match or a drop, unless it fails; only a drop is counted. -/
theorem rowsDropped_feed {t : Transition} (h : (c.feed cells).result = .ok t) :
    (t = .matched ∧ (c.feed cells).classifier.rowsDropped = c.rowsDropped) ∨
      (t = .dropped ∧ (c.feed cells).classifier.rowsDropped = c.rowsDropped + 1) := by
  have hsettle : ∀ c : Classifier, (c.settle cells).classifier.rowsDropped = c.rowsDropped ∧
      ∀ t, (c.settle cells).result = .ok t → t.endsRow = true := by
    refine settle_induction (motive := fun c d r =>
      d.rowsDropped = c.rowsDropped ∧ ∀ t, r = .ok t → t.endsRow = true) ?_ ?_ ?_
    · intro c d e hs
      exact ⟨hs.counts.2, fun t ht => by cases ht⟩
    · intro c d t hs ht
      refine ⟨hs.counts.2, ?_⟩
      rintro t' ⟨⟩
      exact ht
    · intro c d d' t r hs _ ih
      exact ⟨ih.1.trans hs.counts.2, ih.2⟩
  obtain ⟨hdrops, hends⟩ := hsettle { c with rowsRead := c.rowsRead + 1 }
  have h' : (settle { c with rowsRead := c.rowsRead + 1 } cells).result = .ok t := h
  have ht := hends t h'
  cases t with
  | matched => exact .inl ⟨rfl, by simpa [feed, countDrop, h'] using hdrops⟩
  | descended => cases ht
  | ascended => cases ht
  | dropped => exact .inr ⟨rfl, by simpa [feed, countDrop, h'] using hdrops⟩

/-- Where feeding rows does not fail, each row is matched or counted as dropped. -/
theorem length_matchedRows_feedAll {rows : List (List String)} (h : c.feedAll rows = .ok d) :
    d = c.after (rows.map .feed) ∧
      (c.matchedRows (rows.map .feed)).length + d.rowsDropped = c.rowsDropped + rows.length := by
  induction rows generalizing c with
  | nil =>
    cases h
    exact ⟨rfl, by simp [matchedRows]⟩
  | cons cells rows ih =>
    unfold feedAll at h
    cases hr : (c.feed cells).result with
    | error e => simp [hr] at h
    | ok t =>
      simp only [hr] at h
      obtain ⟨hd, hlength⟩ := ih h
      refine ⟨hd, ?_⟩
      rcases rowsDropped_feed hr with ⟨rfl, hdrops⟩ | ⟨rfl, hdrops⟩
      · simp [matchedRows, call, hr]
        omega
      · simp [matchedRows, call, hr]
        omega

/-! ### The theorem -/

/-- The records of a run stand for its matched rows. -/
theorem standsFor_finish_after {entry sheet : String} (h : ofEntry g entry sheet = .ok c)
    (ks : List Call) :
    List.Forall₂ (Record.StandsFor g sheet) (Record.walkRows (c.after ks).finish)
      (c.matchedRows ks) := by
  have hstack := stacked_of_ofEntry h
  obtain ⟨rs, hrs, hall⟩ := heads_after hstack ks
  obtain ⟨t, -, rfl⟩ := eq_of_ofEntry h
  rw [← heads_finish (stacked_after hstack ks)] at hrs
  have hstart : heads ⟨g, sheet, .ofRowType t, [], 0, 0⟩ = [] := rfl
  rw [hstart, List.nil_append] at hrs
  rw [← hrs, Record.heads, List.forall₂_map_left_iff] at hall
  simpa only [Record.standsFor_alone] using hall

/-- The records of a sheet and its dropped rows are as many as its rows. -/
theorem recordCount_of_classify {entry : String} {s : Sheet} {rows : List Record}
    (h : classify g entry s = .ok rows) :
    ∃ c d, ofEntry g entry s.name = .ok c ∧ c.feedAll s.rows = .ok d ∧ d.finish = rows ∧
      SheetTree.recordCount ⟨s.name, s.position, rows⟩ + d.rowsDropped = s.rows.length := by
  unfold classify at h
  cases hc : ofEntry g entry s.name with
  | error e => simp [hc] at h
  | ok c =>
    simp only [hc] at h
    cases hd : c.feedAll s.rows with
    | error e => simp [hd, Except.map] at h
    | ok d =>
      simp only [hd, Except.map, Except.ok.injEq] at h
      obtain ⟨hafter, hlength⟩ := length_matchedRows_feedAll hd
      have hcount := (standsFor_finish_after hc (s.rows.map .feed)).length_eq
      obtain ⟨t, -, rfl⟩ := eq_of_ofEntry hc
      rw [← hafter, h, Record.length_walkRows] at hcount
      refine ⟨_, d, rfl, hd, h, ?_⟩
      rw [SheetTree.recordCount, hcount, hlength, Nat.zero_add]

/-- **No row is lost, duplicated or reordered.** Whatever is done with a classifier, the walk
of its records lists one record for each call that returned a match, in the order of the
calls. In a sheet, the records and the dropped rows are as many as the rows. -/
theorem walk_finish_after (g : Grammar) (entry : String) :
    (∀ (sheet : String) (c : Classifier), ofEntry g entry sheet = .ok c → ∀ ks : List Call,
      List.Forall₂ (Record.StandsFor g sheet) (Record.walkRows (c.after ks).finish)
        (c.matchedRows ks)) ∧
    ∀ (s : Sheet) (rows : List Record), classify g entry s = .ok rows →
      ∃ c d, ofEntry g entry s.name = .ok c ∧ c.feedAll s.rows = .ok d ∧ d.finish = rows ∧
        SheetTree.recordCount ⟨s.name, s.position, rows⟩ + d.rowsDropped = s.rows.length := by
  constructor
  · intro sheet c hc ks
    exact standsFor_finish_after hc ks
  · intro s rows h
    exact recordCount_of_classify h

/-- An item that cannot be read between two rows that can, and a sheet whose first row is
dropped. -/
theorem walk_finish_orders :
    List.Forall₂ (Record.StandsFor .orders "s")
      (Record.walkRows
        (orders.after [.feed ["O", "1"], .feed ["I", "x"], .step ["I", "2"]]).finish)
      [["O", "1"], ["I", "2"]] ∧
    ∃ c d, ofEntry .orders "order" "s" = .ok c ∧ c.feedAll [["X"], ["O", "1"]] = .ok d ∧
      d.finish = [⟨"order", 1, [⟨"B", "amount", .integer 1⟩], []⟩] ∧ 1 + d.rowsDropped = 2 := by
  have hmatched : orders.matchedRows [.feed ["O", "1"], .feed ["I", "x"], .step ["I", "2"]]
      = [["O", "1"], ["I", "2"]] := by decide +kernel
  refine ⟨?_, ?_⟩
  · have h := (walk_finish_after .orders "order").1 "s" orders ofEntry_orders
      [.feed ["O", "1"], .feed ["I", "x"], .step ["I", "2"]]
    rwa [hmatched] at h
  · exact (walk_finish_after .orders "order").2 ⟨"s", 0, [["X"], ["O", "1"]]⟩
      [⟨"order", 1, [⟨"B", "amount", .integer 1⟩], []⟩] (by with_unfolding_all rfl)

end Classifier

end SheetGrammar
