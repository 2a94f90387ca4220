import SheetGrammar.Proofs.Record.Walk

/-!
# Records in post-order

A visit may come to the records under a record before it comes to the record itself.  Listed in
that order, the records of a tree are those of a walk, each of them as often.

## Main definitions

* `Record.postorder` — the records of a tree, each behind those under it.

## Main results

* `Record.postorder_perm_walk` — both orders list the same records.
-/

namespace SheetGrammar

namespace Record

mutual

/-- The records of a tree, each behind those under it. -/
def postorder : Record → List Record
  | ⟨name, index, columns, children⟩ =>
    postorderGroups children ++ [⟨name, index, columns, children⟩]

/-- The records of some groups in this order. -/
def postorderGroups : List (Group Record) → List Record
  | [] => []
  | ⟨_, rows⟩ :: groups => postorderRows rows ++ postorderGroups groups

/-- The records of some trees in this order. -/
def postorderRows : List Record → List Record
  | [] => []
  | r :: rs => postorder r ++ postorderRows rs

end

mutual

/-- Both orders list the same records of a tree, each as often. -/
theorem postorder_perm_walk : ∀ r : Record, r.postorder.Perm r.walk
  | ⟨name, index, columns, children⟩ => by
    rw [postorder, walk]
    exact (List.perm_append_singleton _ _).trans ((postorderGroups_perm_walk children).cons _)

theorem postorderGroups_perm_walk :
    ∀ gs : List (Group Record), (postorderGroups gs).Perm (walkGroups gs)
  | [] => .nil
  | ⟨_, rows⟩ :: gs => by
    rw [postorderGroups, walkGroups]
    exact (postorderRows_perm_walk rows).append (postorderGroups_perm_walk gs)

theorem postorderRows_perm_walk : ∀ rs : List Record, (postorderRows rs).Perm (walkRows rs)
  | [] => .nil
  | r :: rs => by
    rw [postorderRows, walkRows]
    exact (postorder_perm_walk r).append (postorderRows_perm_walk rs)

end

theorem mem_postorderRows {r : Record} {rs : List Record} :
    r ∈ postorderRows rs ↔ r ∈ walkRows rs :=
  (postorderRows_perm_walk rs).mem_iff

/-- The item of an order comes before the order. -/
example : (postorderRows [⟨"order", 1, [], [⟨"item", [⟨"item", 1, [], []⟩]⟩]⟩]).map Record.name
    = ["item", "order"] := by rfl

end Record

end SheetGrammar
