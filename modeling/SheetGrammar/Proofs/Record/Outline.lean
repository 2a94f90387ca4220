import SheetGrammar.Record.Basic

/-!
# Records with their depths

A record stands at a depth: how many records it stands under.  A walk may note the depths, and a
tree may be cut so that the records at some depth are the last ones.

## Main definitions

* `Record.outline` — the records of a walk with their depths.
* `Record.cut`, `SheetTree.cut` — a tree whose records at a depth have lost those under them.

## Main results

* `Record.map_snd_outlineRows` — without the depths an outline is a walk.
* `Record.le_of_mem_outlineRows` — nothing in a tree stands above its root.
-/

namespace SheetGrammar

namespace Record

/-! ### Outlines -/

mutual

/-- The records of a tree with their depths, in the order of a walk; the tree stands at a depth
itself. -/
def outline (depth : Nat) : Record → List (Nat × Record)
  | ⟨name, index, columns, children⟩ =>
    (depth, ⟨name, index, columns, children⟩) :: outlineGroups (depth + 1) children

/-- The same for the records of some groups. -/
def outlineGroups (depth : Nat) : List (Group Record) → List (Nat × Record)
  | [] => []
  | ⟨_, rows⟩ :: groups => outlineRows depth rows ++ outlineGroups depth groups

/-- The same for some trees. -/
def outlineRows (depth : Nat) : List Record → List (Nat × Record)
  | [] => []
  | r :: rs => outline depth r ++ outlineRows depth rs

end

mutual

theorem map_snd_outline : ∀ (depth : Nat) (r : Record), (outline depth r).map Prod.snd = r.walk
  | depth, ⟨_, _, _, children⟩ => by
    rw [outline, walk, List.map_cons, map_snd_outlineGroups (depth + 1) children]

theorem map_snd_outlineGroups :
    ∀ (depth : Nat) (gs : List (Group Record)),
      (outlineGroups depth gs).map Prod.snd = walkGroups gs
  | _, [] => rfl
  | depth, ⟨_, rows⟩ :: gs => by
    rw [outlineGroups, walkGroups, List.map_append, map_snd_outlineRows depth rows,
      map_snd_outlineGroups depth gs]

/-- Without the depths an outline is a walk. -/
theorem map_snd_outlineRows :
    ∀ (depth : Nat) (rs : List Record), (outlineRows depth rs).map Prod.snd = walkRows rs
  | _, [] => rfl
  | depth, r :: rs => by
    rw [outlineRows, walkRows, List.map_append, map_snd_outline depth r,
      map_snd_outlineRows depth rs]

end

mutual

theorem le_of_mem_outline :
    ∀ (depth : Nat) (r : Record), ∀ p ∈ outline depth r, depth ≤ p.1
  | depth, ⟨_, _, _, children⟩ => by
    rw [outline, List.forall_mem_cons]
    refine ⟨Nat.le_refl depth, fun p hp => ?_⟩
    exact Nat.le_of_succ_le (le_of_mem_outlineGroups (depth + 1) children p hp)

theorem le_of_mem_outlineGroups :
    ∀ (depth : Nat) (gs : List (Group Record)), ∀ p ∈ outlineGroups depth gs, depth ≤ p.1
  | _, [] => by simp [outlineGroups]
  | depth, ⟨_, rows⟩ :: gs => by
    rw [outlineGroups, List.forall_mem_append]
    exact ⟨le_of_mem_outlineRows depth rows, le_of_mem_outlineGroups depth gs⟩

/-- Nothing in a tree stands above its root. -/
theorem le_of_mem_outlineRows :
    ∀ (depth : Nat) (rs : List Record), ∀ p ∈ outlineRows depth rs, depth ≤ p.1
  | _, [] => by simp [outlineRows]
  | depth, r :: rs => by
    rw [outlineRows, List.forall_mem_append]
    exact ⟨le_of_mem_outline depth r, le_of_mem_outlineRows depth rs⟩

end

/-! ### Cut trees -/

mutual

/-- A tree in which each record at a depth has lost the records under it. -/
def cut : Nat → Record → Record
  | 0, ⟨name, index, columns, _⟩ => ⟨name, index, columns, []⟩
  | depth + 1, ⟨name, index, columns, children⟩ =>
    ⟨name, index, columns, cutGroups depth children⟩

/-- The same for the records of some groups. -/
def cutGroups : Nat → List (Group Record) → List (Group Record)
  | _, [] => []
  | depth, ⟨name, rows⟩ :: groups => ⟨name, cutRows depth rows⟩ :: cutGroups depth groups

/-- The same for some trees. -/
def cutRows : Nat → List Record → List Record
  | _, [] => []
  | depth, r :: rs => cut depth r :: cutRows depth rs

end

end Record

/-- A sheet in which each record at a depth has lost the records under it. -/
def SheetTree.cut (s : SheetTree) (depth : Nat) : SheetTree :=
  { s with rows := Record.cutRows depth s.rows }

end SheetGrammar
