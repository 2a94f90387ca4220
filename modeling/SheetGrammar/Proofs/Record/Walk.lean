import SheetGrammar.Record.Basic

/-!
# Records one by one

A walk lists the records of a tree.  Each of them still has the records under it; without
those, a walk says which records there are, and in which order.

## Main definitions

* `Record.alone` — a record without the records under it.
* `Record.heads` — the records of a walk, each alone.

## Main results

* `Record.heads_addGroup` — one more group puts its records behind those already there.
-/

namespace SheetGrammar

namespace Record

/-- A record without the records under it. -/
def alone (r : Record) : Record := { r with children := [] }

/-- The records of some trees in the order of a walk, each alone. -/
def heads (rs : List Record) : List Record := (walkRows rs).map alone

theorem walk_eq (r : Record) : r.walk = r :: walkGroups r.children := by
  cases r; rfl

@[simp] theorem walkRows_singleton (r : Record) : walkRows [r] = r.walk := by
  simp [walkRows]

@[simp] theorem walkGroups_singleton (g : Group Record) : walkGroups [g] = walkRows g.rows := by
  cases g; simp [walkGroups]

@[simp] theorem heads_nil : heads [] = [] := rfl

@[simp] theorem heads_append (rs ss : List Record) : heads (rs ++ ss) = heads rs ++ heads ss := by
  simp [heads]

theorem heads_leaf (name : String) (index : Nat) (columns : List Column) :
    heads [⟨name, index, columns, []⟩] = [⟨name, index, columns, []⟩] := rfl

/-- One more group under a record puts its records behind those already there. -/
theorem heads_addGroup (r : Record) (g : Group Record) :
    heads [{ r with children := r.children ++ [g] }] = heads [r] ++ heads g.rows := by
  simp [heads, walk_eq, alone]

end Record

end SheetGrammar
