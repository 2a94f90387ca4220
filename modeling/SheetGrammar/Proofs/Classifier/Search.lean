import SheetGrammar.Proofs.Classifier.Stack

/-!
# Feeding a row is a search

Feeding a row opens and closes frames until one of them takes it.  What comes of it can be
told without these detours: there is a list of candidates, from the top frame down to the
root, for each frame its own type and then the child types from its cursor on, and the
first candidate that takes the row decides.

## Main definitions

* `Candidate` — a way in which a row could be taken.
* `Classifier.candidates` — all of them, in the order in which they count.
* `Candidate.decide?` — what comes of a candidate, unless it passes.
* `Classifier.search` — what comes of the first candidate that does not pass.

## Main results

* `Classifier.Stepped.search_eq` — a transition that does not end the row keeps the outcome
  of the search, and any other one is that outcome.
* `Classifier.feed_eq_search` — feeding a row gives the outcome of the search.
-/

namespace SheetGrammar

/-! ### Candidates -/

/-- A way in which a row could be taken. The frames above the one that is named are closed;
those under it are listed. -/
inductive Candidate
  /-- The row is the next record of the frame. -/
  | sibling (f : Frame) (below : List Frame)
  /-- The row is the first record of a new frame for the child type just before the cursor
  of the frame. -/
  | child (f : Frame) (below : List Frame) (name : String)

/-- What becomes of a row: the frames that it leaves, and the result. -/
structure Decision where
  top : Frame
  below : List Frame
  result : Except Error Transition

namespace Frame

/-- The child types under the open record from the cursor on, each with the cursor just past
it. Without a record there are none. -/
def childCandidates (f : Frame) (below : List Frame) : List Candidate :=
  if f.rows = [] then []
  else (f.rowType.children.zipIdx.drop f.nextChild).map fun (name, i) =>
    .child { f with nextChild := i + 1 } below name

/-- What becomes of a row that belongs to the type of a frame: the next record, after which
no child type is tried, or a failure that leaves the frame as it is. -/
def take? (sheet : String) (cells : List String) (f : Frame) (below : List Frame) :
    Option Decision :=
  if f.rowType.matches cells then
    match f.rowType.extract cells sheet with
    | .error e => some ⟨f, below, .error e⟩
    | .ok columns =>
      some ⟨⟨f.rowType, 0, ⟨f.rowType.name, f.rows.length + 1, columns, []⟩ :: f.rows⟩, below,
        .ok .matched⟩
  else none

end Frame

/-- What comes of a candidate; nothing if its type does not take the row. -/
def Candidate.decide? (g : Grammar) (sheet : String) (cells : List String) :
    Candidate → Option Decision
  | sibling f below => f.take? sheet cells below
  | child f below name =>
    match g.get? name with
    | none => some ⟨f, below, .error (.undefinedRowType name sheet)⟩
    | some t => Frame.take? sheet cells ⟨t, 0, []⟩ (f :: below)

namespace Classifier

/-- The candidates of a stack. Going down, each frame is closed and its records join the
frame under it. -/
def candidates (f : Frame) : List Frame → List Candidate
  | [] => .sibling f [] :: f.childCandidates []
  | f' :: below =>
    .sibling f (f' :: below) :: f.childCandidates (f' :: below) ++ candidates (f'.attach f) below

/-- What becomes of a row that no candidate takes: only the root is left, and all child
types under its open record count as tried. -/
def dropDecision (root : Frame) : Decision :=
  ⟨{ root with nextChild := if root.rows = [] then 0 else root.rowType.children.length }, [],
    .ok .dropped⟩

/-- What becomes of a row: the first candidate that takes it decides. -/
def search (g : Grammar) (sheet : String) (cells : List String) (top : Frame)
    (below : List Frame) : Decision :=
  ((candidates top below).findSome? (Candidate.decide? g sheet cells)).getD
    (dropDecision (unwind top below))

end Classifier

/-! ### Child types one by one -/

namespace Frame

variable {f : Frame} {child : String} {rest : List String}

theorem childCandidates_of_rows_eq_nil (h : f.rows = []) (below : List Frame) :
    f.childCandidates below = [] := by
  rw [childCandidates, if_pos h]

theorem childCandidates_of_untried_nil (h : f.untried = []) (below : List Frame) :
    f.childCandidates below = [] := by
  by_cases hr : f.rows = []
  · exact childCandidates_of_rows_eq_nil hr below
  · rw [untried_eq_drop hr, List.drop_eq_nil_iff] at h
    rw [childCandidates, if_neg hr, List.drop_eq_nil_of_le (by simpa using h), List.map_nil]

/-- The first child candidate is the one at the cursor, and the others are those of the
frame with its cursor advanced. -/
theorem childCandidates_of_untried_cons (h : f.untried = child :: rest) (below : List Frame) :
    f.childCandidates below = .child f.advance below child :: f.advance.childCandidates below := by
  have hr := ne_nil_of_untried h
  obtain ⟨hlt, hchild⟩ := List.getElem?_eq_some_iff.mp (getElem?_of_untried h)
  have hdrop : f.rowType.children.zipIdx.drop f.nextChild
      = (child, f.nextChild) :: f.rowType.children.zipIdx.drop (f.nextChild + 1) := by
    rw [List.drop_eq_getElem_cons (by simpa using hlt)]
    simp [hchild]
  rw [childCandidates, childCandidates, if_neg hr, if_neg (by simpa using hr), hdrop,
    List.map_cons]
  rfl

end Frame

namespace Classifier

variable {g : Grammar} {entry sheet : String} {cells : List String} {top f : Frame}
  {below : List Frame}

/-! ### The search along the stack -/

/-- The candidates behind those of the top frame. -/
def candidatesBelow (f : Frame) : List Frame → List Candidate
  | [] => []
  | f' :: below => candidates (f'.attach f) below

theorem candidates_eq (f : Frame) (below : List Frame) :
    candidates f below
      = .sibling f below :: f.childCandidates below ++ candidatesBelow f below := by
  cases below <;> simp [candidates, candidatesBelow]

/-- What a frame leaves behind does not depend on its cursor. -/
theorem candidatesBelow_advance (f : Frame) (below : List Frame) :
    candidatesBelow f.advance below = candidatesBelow f below := by
  cases below <;> rfl

theorem dropDecision_unwind_advance (f : Frame) (below : List Frame) :
    dropDecision (unwind f.advance below) = dropDecision (unwind f below) := by
  cases below <;> rfl

theorem take?_eq_none (h : f.rowType.matches cells = false) (sheet : String)
    (below : List Frame) : f.take? sheet cells below = none := by
  rw [Frame.take?, h, if_neg (by decide)]

theorem matches_of_take?_eq_none (h : f.take? sheet cells below = none) :
    f.rowType.matches cells = false := by
  cases hm : f.rowType.matches cells with
  | false => rfl
  | true =>
    rw [Frame.take?, if_pos hm] at h
    cases hx : f.rowType.extract cells sheet <;> simp [hx] at h

/-- A frame that has tried everything is left as it is by a drop. -/
theorem dropDecision_of_untried (hs : f.Sound g) (hu : f.untried = []) :
    dropDecision f = ⟨f, [], .ok .dropped⟩ := by
  rw [dropDecision, ← hs.cursor_of_untried hu]

/-- If the top frame takes the row, it decides. -/
theorem search_of_take? {d : Decision} (h : top.take? sheet cells below = some d) :
    search g sheet cells top below = d := by
  rw [search, candidates_eq, List.cons_append, List.findSome?_cons, Candidate.decide?, h,
    Option.getD_some]

/-- If the top frame does not take the row, its next child type is tried, and then the search
goes on as if it had been tried before. -/
theorem search_of_untried {child : String} {rest : List String}
    (hm : top.rowType.matches cells = false) (hu : top.untried = child :: rest) :
    search g sheet cells top below
      = ((Candidate.child top.advance below child).decide? g sheet cells).getD
          (search g sheet cells top.advance below) := by
  -- from the advanced frame the type of the frame itself is tried once more, in vain
  have hadv : (candidates top.advance below).findSome? (Candidate.decide? g sheet cells)
      = (top.advance.childCandidates below ++ candidatesBelow top below).findSome?
          (Candidate.decide? g sheet cells) := by
    rw [candidates_eq, List.cons_append, List.findSome?_cons, Candidate.decide?,
      take?_eq_none (by simpa using hm), candidatesBelow_advance]
  rw [search, search, hadv, candidates_eq, Frame.childCandidates_of_untried_cons hu,
    List.cons_append, List.findSome?_cons, Candidate.decide?, take?_eq_none hm,
    List.cons_append, List.findSome?_cons, dropDecision_unwind_advance]
  cases (Candidate.child top.advance below child).decide? g sheet cells <;> rfl

/-- If the top frame neither takes the row nor has child types to try, the search goes on
without it. -/
theorem search_of_closed (hm : top.rowType.matches cells = false) (hu : top.untried = []) :
    search g sheet cells top (f :: below) = search g sheet cells (f.attach top) below := by
  rw [search, candidates_eq, Frame.childCandidates_of_untried_nil hu, List.cons_append,
    List.findSome?_cons, Candidate.decide?, take?_eq_none hm, List.nil_append]
  rfl

/-- A frame without records is tried, and then the search goes on without it. -/
theorem search_ofRowType (t : RowType) :
    search g sheet cells (.ofRowType t) (f :: below)
      = (Frame.take? sheet cells (.ofRowType t) (f :: below)).getD
          (search g sheet cells f below) := by
  cases ht : Frame.take? sheet cells (.ofRowType t) (f :: below) with
  | some d => exact search_of_take? ht
  | none =>
    -- the frame was opened for nothing, and leaves no trace
    have hclosed : f.attach (.ofRowType t) = f := Frame.attach_of_rows_eq_nil f rfl
    rw [search_of_closed (matches_of_take?_eq_none ht) rfl, hclosed, Option.getD_none]

/-- If no frame is left, the row is dropped. -/
theorem search_of_root (hs : top.Sound g) (hm : top.rowType.matches cells = false)
    (hu : top.untried = []) : search g sheet cells top [] = ⟨top, [], .ok .dropped⟩ := by
  rw [search, candidates_eq, Frame.childCandidates_of_untried_nil hu, List.cons_append,
    List.findSome?_cons, Candidate.decide?, take?_eq_none hm]
  exact dropDecision_of_untried hs hu

/-! ### Transitions -/

/-- The outcome of the search from a classifier. -/
def outcome (c : Classifier) (cells : List String) : Decision :=
  search c.grammar c.sheet cells c.top c.below

/-- A transition that does not end the row keeps the outcome of the search; any other one
is that outcome. -/
theorem Stepped.search_eq {c d : Classifier} {r : Except Error Transition}
    (hs : Stepped c cells d r) (h : HasStack entry c) :
    c.outcome cells =
      match r with
      | .ok .descended | .ok .ascended => d.outcome cells
      | _ => ⟨d.top, d.below, r⟩ := by
  unfold outcome
  cases hs with
  | matched columns hm hx =>
    refine search_of_take? ?_
    rw [Frame.take?, if_pos hm, hx]
    rfl
  | misread e hm hx =>
    refine search_of_take? ?_
    rw [Frame.take?, if_pos hm, hx]
  | descended child rest t hm hu ht =>
    rw [search_of_untried hm hu, search_ofRowType, Candidate.decide?, ht]
    rfl
  | undefinedChild child rest hm hu ht =>
    rw [search_of_untried hm hu, Candidate.decide?, ht, Option.getD_some]
  | ascended f below hm hu hb =>
    rw [hb, search_of_closed hm hu]
  | dropped hm hu hb =>
    rw [hb, search_of_root h.sound hm hu]

theorem settle_eq_search {c : Classifier} (h : HasStack entry c) (cells : List String) :
    c.outcome cells
      = ⟨(c.settle cells).classifier.top, (c.settle cells).classifier.below,
          (c.settle cells).result⟩ := by
  refine settle_induction
    (motive := fun c d r => HasStack entry c → c.outcome cells = ⟨d.top, d.below, r⟩)
    (fun c d e hs h => hs.search_eq h) ?_ ?_ c h
  · intro c d t hs ht h
    have hsearch := hs.search_eq h
    cases t with
    | matched => exact hsearch
    | descended => cases ht
    | ascended => cases ht
    | dropped => exact hsearch
  · -- the first transition only opens or closes a frame, and the rest has the same outcome
    intro c d d' t r hs ht ih h
    have hsearch := hs.search_eq h
    cases t with
    | matched => cases ht
    | descended => exact hsearch.trans (ih (hs.stacked h))
    | ascended => exact hsearch.trans (ih (hs.stacked h))
    | dropped => cases ht

/-! ### The theorem -/

/-- **Feeding a row is a search through the candidates.** After any calls, the frames that
feeding a row leaves and its result are those of the first candidate that takes the row, or
that cannot be read or is not defined, and those of a drop if there is none. -/
theorem feed_eq_search {c : Classifier} (h : ofEntry g entry sheet = .ok c) (ks : List Call)
    (cells : List String) :
    search g sheet cells (c.after ks).top (c.after ks).below
      = ⟨((c.after ks).feed cells).classifier.top, ((c.after ks).feed cells).classifier.below,
          ((c.after ks).feed cells).result⟩ := by
  have hcontext : (c.after ks).grammar = g ∧ (c.after ks).sheet = sheet := by
    obtain ⟨t, -, rfl⟩ := eq_of_ofEntry h
    exact context_after _ ks
  have hsettle := settle_eq_search
    (c := { c.after ks with rowsRead := (c.after ks).rowsRead + 1 })
    (stacked_after (stacked_of_ofEntry h) ks) cells
  simpa only [feed, countDrop_top, countDrop_below, outcome, hcontext.1, hcontext.2]
    using hsettle

/-- A note behind an item and a row that asked for the missing type: the frame of the items
is closed, and the note becomes a child of the order. -/
theorem feed_eq_search_orders :
    ofEntry .orders "order" "s" = .ok orders ∧
      (let c := orders.after [.feed ["O", "1"], .feed ["I", "2"], .feed ["X"]]
       search .orders "s" ["N", "3"] c.top c.below
          = ⟨(c.feed ["N", "3"]).classifier.top, (c.feed ["N", "3"]).classifier.below,
              (c.feed ["N", "3"]).result⟩ ∧
        (search .orders "s" ["N", "3"] c.top c.below).top.rowType.name = "note") :=
  ⟨ofEntry_orders, feed_eq_search ofEntry_orders _ _, by decide +kernel⟩

end Classifier

end SheetGrammar
