import SheetGrammar.Proofs.Classifier.Walk

/-!
# The frames of a classifier

What the shape of a stack says about its frames one by one, from the top downwards, and about
their number.  A stack still holds a record for every row that was matched, and each frame under
the top has one of them; so a stack cannot be deeper than the matches allow, however the types
nest and whatever failed in between.

## Main results

* `Classifier.Stacked.exists_root` — the last frame is of the entry type.
* `Classifier.Stacked.supports` — each frame supports the one above it.
* `Classifier.Stacked.eq_zero_of_rows` — only the top frame may be without records.
* `Classifier.Stacked.length_le` — the stack has a record for each frame under the top.
* `Classifier.length_heads_after` — it has as many records as calls were matched.
* `Classifier.frames_after` — the frames after any run.
-/

namespace SheetGrammar

namespace Record

theorem length_heads_pos {rs : List Record} (h : rs ≠ []) : 0 < (heads rs).length := by
  obtain ⟨r, rs, rfl⟩ := List.exists_cons_of_ne_nil h
  rw [heads, walkRows, walk_eq]
  exact Nat.succ_pos _

end Record

namespace Frame

variable {g : Grammar} {f above : Frame}

/-- The child just before the cursor names the type of the frame above. -/
theorem Supports.exists_child (hs : f.Supports above) (ha : above.Sound g) :
    ∃ child, f.rowType.children[f.nextChild - 1]? = some child ∧
      g.get? child = some above.rowType :=
  ⟨above.rowType.name, hs.child, ha.defined⟩

/-- A frame that supports another holds a record. -/
theorem Supports.records_ne_nil (hs : f.Supports above) : f.records ≠ [] := by
  intro h
  exact hs.isOpen (List.reverse_eq_nil_iff.mp h)

end Frame

namespace Classifier

variable {g : Grammar} {entry sheet : String} {top f above : Frame} {below : List Frame}
  {c : Classifier}

/-! ### Frames one by one -/

/-- The last frame of a stack is the root, which is of the entry type. -/
theorem Stacked.exists_root (h : Stacked g entry top below) :
    ∃ root, (top :: below).getLast? = some root ∧ g.get? entry = some root.rowType := by
  induction h with
  | @root f hf he =>
    refine ⟨f, rfl, ?_⟩
    rw [← he]
    exact hf.defined
  | push ht hs h ih =>
    obtain ⟨root, hlast, hroot⟩ := ih
    refine ⟨root, ?_, hroot⟩
    rw [List.getLast?_cons_cons]
    exact hlast

theorem Stacked.forall_sound (h : Stacked g entry top below) : ∀ f ∈ top :: below, f.Sound g := by
  induction h with
  | root hf he =>
    intro f hmem
    rw [List.mem_singleton.mp hmem]
    exact hf
  | push ht hs h ih =>
    intro f hmem
    rcases List.mem_cons.mp hmem with rfl | hmem
    · exact ht
    · exact ih f hmem

/-- Of two frames next to each other the lower one supports the other. -/
theorem Stacked.supports (h : Stacked g entry top below) {i : Nat}
    (habove : (top :: below)[i]? = some above) (hf : (top :: below)[i + 1]? = some f) :
    f.Supports above := by
  induction h generalizing i with
  | root => simp at hf
  | @push top f' below ht hs h ih =>
    cases i with
    | zero =>
      obtain rfl : top = above := Option.some.inj habove
      obtain rfl : f' = f := Option.some.inj hf
      exact hs
    | succ i => exact ih habove hf

/-- A frame without records is the top frame. -/
theorem Stacked.eq_zero_of_rows (h : Stacked g entry top below) {i : Nat}
    (hf : (top :: below)[i]? = some f) (hrows : f.rows = []) : i = 0 := by
  cases i with
  | zero => rfl
  | succ i =>
    -- a frame further down has one above it, which hangs on a record
    have hi : i < (top :: below).length :=
      Nat.lt_of_succ_lt (List.getElem?_eq_some_iff.mp hf).1
    have hs := h.supports (List.getElem?_eq_getElem hi) hf
    exact absurd hrows hs.isOpen

/-! ### The number of frames -/

/-- A stack has a record for each frame under the top, besides the records of the top frame. -/
theorem Stacked.length_le (h : Stacked g entry top below) :
    below.length + (Record.heads top.records).length ≤ (stackHeads top below).length := by
  induction h with
  | root => simp [stackHeads]
  | @push top f below ht hs h ih =>
    -- the records of `f` counted apart from the frames so far; one of them now stands for `f`
    have hpos := Record.length_heads_pos hs.records_ne_nil
    rw [stackHeads, List.length_append, List.length_cons]
    omega

/-- A stack has as many records as calls were matched. -/
theorem length_heads_after (h : ofEntry g entry sheet = .ok c) (ks : List Call) :
    (c.after ks).heads.length = (c.matchedRows ks).length := by
  rw [← heads_finish (stacked_after (stacked_of_ofEntry h) ks), Record.heads, List.length_map]
  exact (standsFor_finish_after h ks).length_eq

/-! ### The theorem -/

/-- The frames after a run make up a stack for the grammar that the classifier started with. -/
theorem stacked_frames_after (h : ofEntry g entry sheet = .ok c) (ks : List Call) :
    Stacked g entry (c.after ks).top (c.after ks).below := by
  have hstack : HasStack entry (c.after ks) := stacked_after (stacked_of_ofEntry h) ks
  obtain ⟨t, -, rfl⟩ := eq_of_ofEntry h
  rw [HasStack, (context_after _ ks).1] at hstack
  exact hstack

theorem depth_after_le (h : ofEntry g entry sheet = .ok c) (ks : List Call) :
    (c.after ks).depth ≤ (c.matchedRows ks).length + 1 := by
  have hle := (stacked_frames_after h ks).length_le
  have hheads := length_heads_after h ks
  rw [heads] at hheads
  rw [depth, frames, List.length_cons]
  omega

/-- **The stack is in shape after every run.** Whatever rows a classifier is stepped with and fed,
and whether or not some of these calls fail, there is a last frame, the root, and it is of the
entry type. Every cursor stays inside the child types, and at their start in a frame without
records. A frame with another one above it has a record, its cursor has passed some child type,
and the last one that it passed names the type of the frame above. So only the top frame may be
without records, and there is at most one frame more than there were calls that returned a
match. -/
theorem frames_after (h : ofEntry g entry sheet = .ok c) (ks : List Call) :
    let d := c.after ks
    (∃ root, d.frames.getLast? = some root ∧ g.get? entry = some root.rowType) ∧
      (∀ f ∈ d.frames, f.nextChild ≤ f.rowType.children.length ∧
        (f.rows = [] → f.nextChild = 0)) ∧
      (∀ i above f, d.frames[i]? = some above → d.frames[i + 1]? = some f →
        f.rows ≠ [] ∧ 1 ≤ f.nextChild ∧
          ∃ child, f.rowType.children[f.nextChild - 1]? = some child ∧
            g.get? child = some above.rowType) ∧
      (∀ i f, d.frames[i]? = some f → f.rows = [] → i = 0) ∧
      d.depth ≤ (c.matchedRows ks).length + 1 := by
  intro d
  have hstack : Stacked g entry d.top d.below := stacked_frames_after h ks
  refine ⟨hstack.exists_root, ?_, ?_, fun i f => hstack.eq_zero_of_rows, depth_after_le h ks⟩
  · intro f hf
    have hsound := hstack.forall_sound f hf
    exact ⟨hsound.cursor_le, hsound.cursor_eq_zero⟩
  · intro i above f habove hf
    have hs := hstack.supports habove hf
    have hsound := hstack.forall_sound above (List.mem_of_getElem? habove)
    exact ⟨hs.isOpen, hs.cursor_pos, hs.exists_child hsound⟩

/-- An item of an order that hangs under another order cannot be read, which leaves an empty frame
on a stack as deep as it can be. A note behind an item comes to the missing type, and only moves
the cursor of the item. -/
theorem frames_after_orders :
    ofEntry .orders "order" "s" = .ok orders ∧
      (let d := orders.after
          [.feed ["O", "1"], .feed ["I", "2"], .feed ["O", "3"], .feed ["I", "x"]]
       d.frames.map (fun f => (f.rowType.name, f.nextChild, f.rows.length))
          = [("item", 0, 0), ("order", 1, 1), ("item", 1, 1), ("order", 1, 1)] ∧
        (∀ i f, d.frames[i]? = some f → f.rows = [] → i = 0) ∧ d.depth ≤ 3 + 1) ∧
      (let d := orders.after [.feed ["O", "1"], .feed ["I", "2"], .feed ["N", "3"]]
       d.frames.map (fun f => (f.rowType.name, f.nextChild, f.rows.length))
          = [("item", 2, 1), ("order", 1, 1)] ∧
        ∃ root, d.frames.getLast? = some root ∧
          Grammar.orders.get? "order" = some root.rowType) := by
  obtain ⟨-, -, -, honly, hdepth⟩ := frames_after ofEntry_orders
    [.feed ["O", "1"], .feed ["I", "2"], .feed ["O", "3"], .feed ["I", "x"]]
  obtain ⟨hroot, -⟩ := frames_after ofEntry_orders
    [.feed ["O", "1"], .feed ["I", "2"], .feed ["N", "3"]]
  have hmatched : (orders.matchedRows
      [.feed ["O", "1"], .feed ["I", "2"], .feed ["O", "3"], .feed ["I", "x"]]).length = 3 := by
    decide +kernel
  rw [hmatched] at hdepth
  exact ⟨ofEntry_orders, ⟨by decide +kernel, honly, hdepth⟩, by decide +kernel, hroot⟩

end Classifier

end SheetGrammar
