import SheetGrammar.Proofs.Classifier.Run
import SheetGrammar.Proofs.Grammar

/-!
# The stack of a classifier

The frames of a classifier hang together: every frame under the top has an open record,
and the frame above it is of the child type that its cursor has just passed.  Only the
top frame may be without records.

## Main definitions

* `Frame.Sound` — what holds of each frame by itself.
* `Frame.Supports` — how a frame and the one above it belong together.
* `Classifier.Stacked` — both, from the top frame down to the root.

## Main results

* `Classifier.Stepped.stacked` — every transition keeps the stack in this shape.
* `Classifier.stacked_after` — it has this shape after every run.
-/

namespace SheetGrammar

namespace Frame

variable {g : Grammar} {f above : Frame} {t : RowType} {child : String} {rest : List String}

@[simp] theorem rowType_ofRowType (t : RowType) : (ofRowType t).rowType = t := rfl

@[simp] theorem rows_ofRowType (t : RowType) : (ofRowType t).rows = [] := rfl

@[simp] theorem rowType_advance (f : Frame) : f.advance.rowType = f.rowType := rfl

@[simp] theorem rows_advance (f : Frame) : f.advance.rows = f.rows := rfl

@[simp] theorem nextChild_advance (f : Frame) : f.advance.nextChild = f.nextChild + 1 := rfl

@[simp] theorem rows_add (f : Frame) (columns : List Column) :
    (f.add columns).rows = ⟨f.rowType.name, f.rows.length + 1, columns, []⟩ :: f.rows := rfl

@[simp] theorem rowType_attach (f above : Frame) : (f.attach above).rowType = f.rowType := by
  unfold attach; split <;> rfl

@[simp] theorem nextChild_attach (f above : Frame) :
    (f.attach above).nextChild = f.nextChild := by
  unfold attach; split <;> rfl

@[simp] theorem rows_attach_eq_nil (f above : Frame) :
    (f.attach above).rows = [] ↔ f.rows = [] := by
  unfold attach
  split
  · next hf _ => simp [hf]
  · rfl

/-- A frame without records leaves nothing behind when it is closed. -/
theorem attach_of_rows_eq_nil (f : Frame) (h : above.rows = []) : f.attach above = f := by
  unfold attach
  rw [h]
  split
  · next ha => cases ha
  · rfl

theorem ne_nil_of_untried (h : f.untried = child :: rest) : f.rows ≠ [] := by
  intro hr
  simp [untried, hr] at h

theorem untried_eq_drop (h : f.rows ≠ []) :
    f.untried = f.rowType.children.drop f.nextChild := by
  unfold untried
  split
  · next hr => exact absurd hr h
  · rfl

/-- The first untried type is the one at the cursor. -/
theorem getElem?_of_untried (h : f.untried = child :: rest) :
    f.rowType.children[f.nextChild]? = some child := by
  rw [untried_eq_drop (ne_nil_of_untried h)] at h
  rw [← List.head?_drop, h, List.head?_cons]

theorem mem_children_of_untried (h : f.untried = child :: rest) : child ∈ f.rowType.children :=
  List.mem_of_getElem? (getElem?_of_untried h)

/-! ### Frames one by one -/

/-- What holds of each frame by itself. -/
structure Sound (g : Grammar) (f : Frame) : Prop where
  /-- The grammar defines the type of the frame. -/
  defined : g.get? f.rowType.name = some f.rowType
  /-- The cursor stays inside the child types. -/
  cursor_le : f.nextChild ≤ f.rowType.children.length
  /-- Without a record no child type was tried. -/
  cursor_eq_zero : f.rows = [] → f.nextChild = 0

theorem Sound.ofRowType (h : g.get? t.name = some t) : (ofRowType t).Sound g :=
  ⟨h, Nat.zero_le _, fun _ => rfl⟩

theorem Sound.add (h : f.Sound g) (columns : List Column) : (f.add columns).Sound g :=
  ⟨h.defined, Nat.zero_le _, fun _ => rfl⟩

theorem Sound.advance (h : f.Sound g) (hu : f.untried = child :: rest) : f.advance.Sound g where
  defined := h.defined
  cursor_le := (List.getElem?_eq_some_iff.mp (getElem?_of_untried hu)).1
  cursor_eq_zero hr := by
    rw [rows_advance] at hr
    exact absurd hr (ne_nil_of_untried hu)

theorem Sound.attach (h : f.Sound g) (above : Frame) : (f.attach above).Sound g where
  defined := by simpa using h.defined
  cursor_le := by simpa using h.cursor_le
  cursor_eq_zero := by simpa using h.cursor_eq_zero

/-- A frame that has tried all child types has its cursor at their end, or no record. -/
theorem Sound.cursor_of_untried (h : f.Sound g) (hu : f.untried = []) :
    f.nextChild = if f.rows = [] then 0 else f.rowType.children.length := by
  split
  · next hr => exact h.cursor_eq_zero hr
  · next hr =>
    rw [untried_eq_drop hr, List.drop_eq_nil_iff] at hu
    exact Nat.le_antisymm h.cursor_le hu

/-! ### Frames one above the other -/

/-- The frame above hangs on the open record, and is of the type just before the cursor. -/
structure Supports (f above : Frame) : Prop where
  isOpen : f.rows ≠ []
  cursor_pos : 0 < f.nextChild
  child : f.rowType.children[f.nextChild - 1]? = some above.rowType.name

theorem Supports.of_rowType {above' : Frame} (h : f.Supports above)
    (ht : above'.rowType = above.rowType) : f.Supports above' :=
  ⟨h.isOpen, h.cursor_pos, by rw [ht]; exact h.child⟩

theorem supports_ofRowType (hu : f.untried = child :: rest) (ht : t.name = child) :
    f.advance.Supports (ofRowType t) where
  isOpen := by
    rw [rows_advance]
    exact ne_nil_of_untried hu
  cursor_pos := Nat.succ_pos _
  child := by simpa [ht] using getElem?_of_untried hu

end Frame

namespace Classifier

variable {g : Grammar} {entry : String} {top f : Frame} {below : List Frame}

/-- The shape of a stack with a frame on top and others below it: all frames are sound,
each supports the one above it, and the root is of the entry type. -/
inductive Stacked (g : Grammar) (entry : String) : Frame → List Frame → Prop
  /-- The root alone. -/
  | root {f : Frame} (hf : f.Sound g) (he : f.rowType.name = entry) : Stacked g entry f []
  /-- One more frame. -/
  | push {top f : Frame} {below : List Frame} (ht : top.Sound g) (hs : f.Supports top)
      (h : Stacked g entry f below) : Stacked g entry top (f :: below)

theorem Stacked.sound (h : Stacked g entry top below) : top.Sound g := by
  cases h with
  | root hf _ => exact hf
  | push ht _ _ => exact ht

/-- The top frame may be replaced by one of the same type. -/
theorem Stacked.replace {top' : Frame} (h : Stacked g entry top below) (ht' : top'.Sound g)
    (heq : top'.rowType = top.rowType) : Stacked g entry top' below := by
  cases h with
  | root _ he => exact .root ht' (by rw [heq]; exact he)
  | push _ hs h => exact .push ht' (hs.of_rowType heq) h

/-- Closing the top frame leaves a stack. -/
theorem Stacked.close (h : Stacked g entry top (f :: below)) :
    Stacked g entry (f.attach top) below := by
  cases h with
  | push _ _ h => exact h.replace (h.sound.attach top) (Frame.rowType_attach f top)

/-- Unwinding a stack ends in a root frame. -/
theorem Stacked.unwind (h : Stacked g entry top below) :
    Stacked g entry (unwind top below) [] := by
  induction below generalizing top with
  | nil => exact h
  | cons f below ih => exact ih h.close

/-! ### Runs -/

/-- The stack of a classifier is in shape for its grammar. -/
def HasStack (entry : String) (c : Classifier) : Prop := Stacked c.grammar entry c.top c.below

theorem Stepped.stacked {c d : Classifier} {cells : List String} {r : Except Error Transition}
    (hs : Stepped c cells d r) (h : HasStack entry c) : HasStack entry d := by
  unfold HasStack at *
  cases hs with
  | matched columns => exact h.replace (h.sound.add columns) rfl
  | misread e => exact h
  | descended child rest t _ hu ht =>
    -- the new frame hangs on the cursor as it is after the step
    have hadv := h.replace (h.sound.advance hu) (Frame.rowType_advance c.top)
    exact .push (.ofRowType (Grammar.get?_name ht))
      (Frame.supports_ofRowType hu (Grammar.name_of_get? ht)) hadv
  | undefinedChild child rest _ hu =>
    exact h.replace (h.sound.advance hu) (Frame.rowType_advance c.top)
  | ascended f below _ _ hb =>
    rw [hb] at h
    exact h.close
  | dropped => exact h

theorem stacked_of_ofEntry {sheet : String} {c : Classifier}
    (h : ofEntry g entry sheet = .ok c) : HasStack entry c := by
  obtain ⟨t, ht, rfl⟩ := eq_of_ofEntry h
  exact .root (.ofRowType (Grammar.get?_name ht)) (Grammar.name_of_get? ht)

/-- The stack keeps its shape in every run. -/
theorem stacked_after {c : Classifier} (h : HasStack entry c) (ks : List Call) :
    HasStack entry (c.after ks) :=
  after_induction (fun hs h => hs.stacked h) (fun _ _ h => h) h ks

end Classifier

end SheetGrammar
