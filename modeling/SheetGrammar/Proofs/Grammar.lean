import SheetGrammar.Grammar.Basic
import SheetGrammar.Proofs.Except

/-!
# Look-ups in a grammar

A look-up finds a type of the grammar that bears the name.  A grammar passes its check exactly
if it defines every child of its row types.  It is then closed: no look-up that starts from one
of its types can miss.

## Main definitions

* `Grammar.Closed` — all children are defined.

## Main results

* `Grammar.name_of_get?`, `Grammar.mem_of_get?` — what a look-up finds.
* `Grammar.validate_eq_ok_iff` — the check succeeds exactly for closed grammars.
* `Grammar.ofTypes_eq_ok_iff` — row types make a grammar if their names are distinct.
-/

namespace SheetGrammar

namespace Grammar

variable {g : Grammar} {name : String} {t : RowType}

/-! ### Look-ups -/

/-- A look-up finds a type that bears the name. -/
theorem name_of_get? (h : g.get? name = some t) : t.name = name := by
  simpa using List.find?_some h

theorem get?_name (h : g.get? name = some t) : g.get? t.name = some t := by
  rw [name_of_get? h, h]

theorem mem_of_get? (h : g.get? name = some t) : t ∈ g.types := List.mem_of_find?_eq_some h

theorem defines_eq_true_iff : g.defines name = true ↔ ∃ t, g.get? name = some t :=
  Option.isSome_iff_exists

/-! ### Closed grammars -/

/-- The grammar defines all children of its row types. -/
def Closed (g : Grammar) : Prop := ∀ t ∈ g.types, ∀ child ∈ t.children, g.defines child = true

theorem undefinedChild?_eq_none_iff :
    g.undefinedChild? t = none ↔ ∀ child ∈ t.children, g.defines child = true := by
  simp [undefinedChild?]

theorem mem_sorted : t ∈ g.sorted ↔ t ∈ g.types := (List.mergeSort_perm g.types _).mem_iff

/-- The check succeeds exactly for closed grammars. -/
theorem validate_eq_ok_iff : g.validate = .ok () ↔ g.Closed := by
  have hnone : (g.sorted.findSome? fun t => (g.undefinedChild? t).map (t.name, ·)) = none ↔
      g.Closed := by
    simp only [List.findSome?_eq_none_iff, Option.map_eq_none_iff, undefinedChild?_eq_none_iff,
      mem_sorted, Closed]
  rw [← hnone, validate]
  split
  · next h => simp [h]
  · next h => simp [h]

/-! ### Building a grammar -/

/-- A grammar defines the names of its row types. -/
theorem defines_iff_mem : g.defines name = true ↔ name ∈ g.types.map RowType.name := by
  simp [defines, get?]

/-- One more row type fits if its name is new. -/
theorem insert_eq_ok_iff {g' : Grammar} :
    g.insert t = .ok g' ↔ t.name ∉ g.types.map RowType.name ∧ g' = ⟨g.types ++ [t]⟩ := by
  rw [insert, ← defines_iff_mem]
  split
  · next h => simp [h]
  · next h => simp [h, eq_comm]

theorem insertAll_eq_foldlM (g : Grammar) (ts : List RowType) :
    g.insertAll ts = ts.foldlM insert g := by
  induction ts generalizing g with
  | nil => rfl
  | cons t ts ih =>
    rw [insertAll, List.foldlM_cons]
    cases g.insert t with
    | error e => rfl
    | ok g => exact ih g

/-- Row types make a grammar if their names are distinct. The grammar has these types, in their
order. -/
theorem ofTypes_eq_ok_iff {ts : List RowType} :
    ofTypes ts = .ok g ↔ (ts.map RowType.name).Nodup ∧ g = ⟨ts⟩ := by
  rw [ofTypes, insertAll_eq_foldlM]
  exact List.foldlM_insert_eq_ok_iff Grammar.mk insert_eq_ok_iff List.nodup_nil

end Grammar

end SheetGrammar
