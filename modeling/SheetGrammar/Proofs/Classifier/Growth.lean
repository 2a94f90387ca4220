import SheetGrammar.Proofs.Classifier.Walk

/-!
# What a call does to the finished records

The records of a classifier can be asked for at any time: all frames are closed for the answer.
Opening and closing frames does not change the answer, since an empty frame leaves nothing behind
and any other is closed for the answer anyway; moving a cursor does not change it either.  So a
row that is dropped or fails leaves no trace in the records, however far it has taken the stack
apart, and a row that is matched adds one record at their open end.

## Main definitions

* `Record.Grows` — records with one more at the open end, at any depth.
* `Classifier.Yields` — what the result of a call tells about the finished records.

## Main results

* `Record.Grows.heads_eq` — the new record is the last one of a walk.
* `Frame.grows_attach` — records that grow in a frame grow in the frame below when it is closed.
* `Classifier.Stepped.yields` — what one transition does to the finished records.
* `Classifier.finish_call` — what a call does to them.
-/

namespace SheetGrammar

namespace Record

/-- `Grows leaf rs rs'` says that `rs'` is `rs` with the record `leaf` at the open end: above it,
each record is the last one of its group, and each group the last one of its record. -/
inductive Grows (leaf : Record) : List Record → List Record → Prop
  /-- The record is the next one of the list. -/
  | next (rs : List Record) : Grows leaf rs (rs ++ [leaf])
  /-- The record is the first one of a new group under the last record of the list. -/
  | opens (rs : List Record) (r : Record) :
      Grows leaf (rs ++ [r])
        (rs ++ [{ r with children := r.children ++ [⟨leaf.name, [leaf]⟩] }])
  /-- The last group under the last record of the list grows. -/
  | joins (rs : List Record) (r : Record) (name : String) {rows rows' : List Record}
      (h : Grows leaf rows rows') :
      Grows leaf (rs ++ [{ r with children := r.children ++ [⟨name, rows⟩] }])
        (rs ++ [{ r with children := r.children ++ [⟨name, rows'⟩] }])

variable {leaf : Record} {rs rs' : List Record}

theorem Grows.ne_nil (h : Grows leaf rs rs') : rs' ≠ [] := by
  cases h <;> simp

/-- Where there was no record, the new one is the only one. -/
theorem Grows.eq_of_nil (h : Grows leaf rs rs') (hrs : rs = []) : rs' = [leaf] := by
  cases h with
  | next => rw [hrs, List.nil_append]
  | opens => simp at hrs
  | joins => simp at hrs

/-- The new record is the last one of a walk, and the others are as they were. -/
theorem Grows.heads_eq (h : Grows leaf rs rs') : heads rs' = heads rs ++ heads [leaf] := by
  induction h with
  | next rs => exact heads_append rs [leaf]
  | opens rs r => rw [heads_append, heads_append, heads_addGroup, List.append_assoc]
  | joins rs r name _ ih =>
    rw [heads_append, heads_append, heads_addGroup, heads_addGroup, ih]
    simp only [List.append_assoc]

end Record

/-- Records that grow in a frame grow in the frame below once it is closed: in a group that is
there already, or, if it was empty, in a new one. -/
theorem Frame.grows_attach {f above above' : Frame} {leaf : Record} (hf : f.rows ≠ [])
    (htype : above'.rowType = above.rowType)
    (hname : above.rows = [] → above.rowType.name = leaf.name)
    (h : Record.Grows leaf above.records above'.records) :
    Record.Grows leaf (f.attach above).records (f.attach above').records := by
  obtain ⟨r, rs, hr⟩ := List.exists_cons_of_ne_nil hf
  have ha' : above'.rows ≠ [] := by simpa [records] using h.ne_nil
  rw [records_attach hr ha', htype]
  by_cases ha : above.rows = []
  · have hrecords : f.records = rs.reverse ++ [r] := by simp [records, hr]
    rw [h.eq_of_nil (by simp [records, ha]), hname ha, attach_of_rows_eq_nil f ha, hrecords]
    exact .opens rs.reverse r
  · rw [records_attach hr ha]
    exact .joins rs.reverse r above.rowType.name h

namespace Classifier

variable {g : Grammar} {entry sheet : String} {top top' : Frame} {below : List Frame}
  {leaf : Record} {c d d' : Classifier} {cells : List String} {r : Except Error Transition}

/-! ### Closing all frames -/

/-- Where the cursor of a frame stands does not matter once it is closed. -/
theorem records_unwind_advance (f : Frame) (below : List Frame) :
    (unwind f.advance below).records = (unwind f below).records := by
  cases below with
  | nil => rfl
  | cons f' below => rfl

/-- Records that grow in the top frame grow at the root once all frames are closed. -/
theorem grows_unwind (hstack : Stacked g entry top below) (htype : top'.rowType = top.rowType)
    (hname : top.rows = [] → top.rowType.name = leaf.name)
    (h : Record.Grows leaf top.records top'.records) :
    Record.Grows leaf (unwind top below).records (unwind top' below).records := by
  -- each step closes the top frame, behind which the frame below has records
  induction below generalizing top top' with
  | nil => exact h
  | cons f below ih =>
    cases hstack with
    | push ht hs hstack =>
      refine ih (Stacked.push ht hs hstack).close ?_ ?_ (Frame.grows_attach hs.isOpen htype hname h)
      · rw [Frame.rowType_attach, Frame.rowType_attach]
      · intro hrows
        exact absurd ((Frame.rows_attach_eq_nil f top).mp hrows) hs.isOpen

/-! ### What a transition yields -/

/-- `Yields cells c d r` says that the result `r` tells how the finished records of `d` differ
from those of `c`: for a match by one more record without others under it, which stands for the
row, and else not at all. -/
def Yields (cells : List String) (c d : Classifier) (r : Except Error Transition) : Prop :=
  match r with
  | .ok .matched => ∃ leaf : Record, leaf.children = [] ∧
      leaf.StandsFor c.grammar c.sheet cells ∧ Record.Grows leaf c.finish d.finish
  | _ => d.finish = c.finish

theorem Yields.finish_eq (h : Yields cells c d r) (hr : r ≠ .ok .matched) :
    d.finish = c.finish := by
  unfold Yields at h
  split at h
  · exact absurd rfl hr
  · exact h

theorem Stepped.yields (hs : Stepped c cells d r) (h : HasStack entry c) :
    Yields cells c d r := by
  cases hs with
  | matched columns hm hx =>
    refine ⟨⟨c.top.rowType.name, c.top.rows.length + 1, columns, []⟩, rfl,
      ⟨c.top.rowType, h.sound.defined, hm, hx⟩, grows_unwind h rfl (fun _ => rfl) ?_⟩
    rw [Frame.records_add]
    exact .next _
  | misread e => exact rfl
  | descended child rest t =>
    -- the new frame is empty, and would be closed without a trace
    have hclosed : c.top.advance.attach (.ofRowType t) = c.top.advance :=
      Frame.attach_of_rows_eq_nil _ rfl
    simp only [Yields, finish, unwind, hclosed]
    exact records_unwind_advance c.top c.below
  | undefinedChild child rest => exact records_unwind_advance c.top c.below
  | ascended f below _ _ hb =>
    simp only [Yields, finish, hb, unwind]
  | dropped => exact rfl

/-- What a call yields is what its last transition yields; those before it change nothing. -/
theorem yields_call (h : HasStack entry c) (k : Call) :
    Yields k.row c (c.call k).1 (c.call k).2 := by
  refine call_induction (I := HasStack entry) (Q := Yields) (fun hs => hs.stacked)
    (fun hs => hs.yields) ?_ (fun _ h => h) ?_ h k
  · intro c cells d d' t r hs ht hc hrest
    have hsame : d.finish = c.finish := by
      refine (hs.yields hc).finish_eq ?_
      rintro ⟨⟩
      cases ht
    unfold Yields at *
    rwa [hsame, hs.context.1, hs.context.2] at hrest
  · intro c cells d r n hyields
    unfold Yields finish at *
    simpa only [countDrop_top, countDrop_below] using hyields

/-! ### The theorem -/

/-- **Anything but a match leaves the records untouched.** After any calls, a call that opens or
closes a frame, drops its row or fails leaves the finished records as they were, however many
transitions it has taken.  A call that returns a match adds exactly one record, which has no
others under it and stands for the row: it is the last one of a walk, and above it each record
is the last one of its list. -/
theorem finish_call (h : ofEntry g entry sheet = .ok c) (ks : List Call) (k : Call) :
    (((c.after ks).call k).2 ≠ .ok .matched →
      ((c.after ks).call k).1.finish = (c.after ks).finish) ∧
    (((c.after ks).call k).2 = .ok .matched →
      ∃ leaf : Record, leaf.children = [] ∧ leaf.StandsFor g sheet k.row ∧
        Record.Grows leaf (c.after ks).finish ((c.after ks).call k).1.finish ∧
        Record.heads ((c.after ks).call k).1.finish
          = Record.heads (c.after ks).finish ++ [leaf]) := by
  have hyields := yields_call (stacked_after (stacked_of_ofEntry h) ks) k
  have hcontext : (c.after ks).grammar = g ∧ (c.after ks).sheet = sheet := by
    obtain ⟨t, -, rfl⟩ := eq_of_ofEntry h
    exact context_after _ ks
  refine ⟨hyields.finish_eq, fun hr => ?_⟩
  rw [hr] at hyields
  obtain ⟨⟨name, index, columns, children⟩, hleaf, hstands, hgrows⟩ := hyields
  rw [hcontext.1, hcontext.2] at hstands
  obtain rfl : children = [] := hleaf
  exact ⟨_, rfl, hstands, hgrows, hgrows.heads_eq⟩

/-- A note behind an item: the missing type stops it after a frame was opened and closed, and the
records are as before. Fed again, it becomes the last child of the order. -/
theorem finish_call_orders :
    ofEntry .orders "order" "s" = .ok orders ∧
      (let c := orders.after [.feed ["O", "1"], .feed ["I", "2"]]
       (c.call (.feed ["N", "3"])).2 ≠ .ok .matched ∧
        (c.feed ["N", "3"]).steps.map Prod.fst = [.descended, .ascended] ∧
        (c.call (.feed ["N", "3"])).1.finish = c.finish) ∧
      (let c := orders.after [.feed ["O", "1"], .feed ["I", "2"], .feed ["N", "3"]]
       (c.call (.feed ["N", "3"])).2 = .ok .matched ∧
        Record.Grows ⟨"note", 1, [⟨"B", "amount", .integer 3⟩], []⟩ c.finish
          (c.call (.feed ["N", "3"])).1.finish) := by
  have hfailed : ((orders.after [.feed ["O", "1"], .feed ["I", "2"]]).call
      (.feed ["N", "3"])).2 ≠ .ok .matched := by
    have hresult : ((orders.after [.feed ["O", "1"], .feed ["I", "2"]]).call
        (.feed ["N", "3"])).2 = .error (.undefinedRowType "lost" "s") := by with_unfolding_all rfl
    rw [hresult]
    exact nofun
  have hmatched : ((orders.after [.feed ["O", "1"], .feed ["I", "2"], .feed ["N", "3"]]).call
      (.feed ["N", "3"])).2 = .ok .matched := by with_unfolding_all rfl
  refine ⟨ofEntry_orders, ⟨hfailed, by decide +kernel, ?_⟩, hmatched, ?_⟩
  · exact (finish_call ofEntry_orders _ _).1 hfailed
  · obtain ⟨leaf, -, -, hgrows, hheads⟩ := (finish_call ofEntry_orders _ _).2 hmatched
    -- the walk was the order and the item, and the note is new
    obtain rfl : leaf = ⟨"note", 1, [⟨"B", "amount", .integer 3⟩], []⟩ := by
      have hlast := congrArg List.getLast? hheads
      rw [List.getLast?_concat] at hlast
      exact Option.some.inj (hlast.symm.trans (by with_unfolding_all rfl))
    exact hgrows

end Classifier

end SheetGrammar
