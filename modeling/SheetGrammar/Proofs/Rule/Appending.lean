import SheetGrammar.Proofs.Rule.Locality

/-!
# Rules only append columns

A rule appends at most one column, which bears the address and the tag of the rule's output.  So
the columns of a record before its rules ran are the first of those after, and the others are
outputs of some of the rules, in the order of the rules.

## Main definitions

* `Column.ref` — the address and the tag of a column.
* `Record.Appends` — columns with some outputs behind them.

## Main results

* `Rule.ref_of_derive` — the column of a rule bears its output.
* `Record.appends_deriveColumns` — rules append outputs to the columns of a record.
* `Record.alike_deriveTree` — a visit appends outputs at its records, and leaves all else alone.
-/

namespace SheetGrammar

/-- The address and the tag of a column. -/
def Column.ref (c : Column) : ColumnRef := ⟨c.col, c.tag⟩

/-- The column of a rule bears its output. -/
theorem Rule.ref_of_derive {rule : Rule} {sheet : String} {r : Record} {c : Column}
    (h : rule.derive sheet r = .ok (some c)) : c.ref = rule.output := by
  unfold derive at h
  split at h
  · split at h
    · cases h
    · split at h
      · cases h
        rfl
      · cases h
  · cases h

namespace Record

/-- The columns `columns'` are those of `columns` and behind them some whose addresses and tags
are among the outputs, in their order. -/
def Appends (outputs : List ColumnRef) (columns columns' : List Column) : Prop :=
  ∃ added, columns' = columns ++ added ∧ (added.map Column.ref).Sublist outputs

variable {outputs : List ColumnRef} {output : ColumnRef} {columns columns' : List Column}

theorem appends_refl (outputs : List ColumnRef) (columns : List Column) :
    Appends outputs columns columns :=
  ⟨[], (List.append_nil columns).symm, List.nil_sublist outputs⟩

theorem Appends.skip (h : Appends outputs columns columns') :
    Appends (output :: outputs) columns columns' := by
  obtain ⟨added, heq, hsub⟩ := h
  exact ⟨added, heq, hsub.cons output⟩

theorem Appends.push {c : Column} (h : Appends outputs (columns ++ [c]) columns') :
    Appends (c.ref :: outputs) columns columns' := by
  obtain ⟨added, heq, hsub⟩ := h
  refine ⟨c :: added, ?_, hsub.cons_cons c.ref⟩
  rw [heq, List.append_assoc, List.singleton_append]

/-- Rules append outputs to the columns of a record, in their order. -/
theorem appends_deriveColumns (rules : List Rule) (sheet : String) (r : Record) :
    Appends (rules.map Rule.output) r.columns (deriveColumns sheet r rules).1.columns := by
  induction rules generalizing r with
  | nil => exact appends_refl _ _
  | cons rule rules ih =>
    rw [deriveColumns, List.map_cons]
    cases hderive : rule.derive sheet r with
    | error e => exact appends_refl _ _
    | ok column? =>
      cases column? with
      | none => exact (ih r).skip
      | some c =>
        -- the other rules see the column that this one appended
        rw [← Rule.ref_of_derive hderive]
        exact (ih (r.addColumn c)).push

variable (rules : List Rule) (sheet : String)

mutual

/-- A visit appends outputs at the records of a tree, and leaves all else as it is, also if it
fails. -/
theorem alike_deriveTree : ∀ r : Record,
    Alike (Appends (rules.map Rule.output)) r (deriveTree rules sheet r).1
  | ⟨name, index, columns, children⟩ => by
    have hchildren := groupsAlike_deriveGroups children
    rw [deriveTree]
    split
    · next children' e heq =>
      rw [heq] at hchildren
      exact .record (appends_refl _ _) hchildren
    · next children' heq =>
      rw [heq] at hchildren
      rw [deriveColumns_eq]
      exact .record (appends_deriveColumns rules sheet ⟨name, index, columns, []⟩) hchildren

theorem groupsAlike_deriveGroups : ∀ gs : List (Group Record),
    GroupsAlike (Appends (rules.map Rule.output)) gs (deriveGroups rules sheet gs).1
  | [] => .nil
  | ⟨name, rows⟩ :: gs => by
    have hrows := rowsAlike_deriveRows rows
    have hgs := groupsAlike_deriveGroups gs
    rw [deriveGroups]
    split
    · next rows' e heq =>
      rw [heq] at hrows
      exact .cons hrows (groupsAlike_refl (appends_refl _) gs)
    · next rows' heq =>
      rw [heq] at hrows
      exact .cons hrows hgs

theorem rowsAlike_deriveRows : ∀ rs : List Record,
    RowsAlike (Appends (rules.map Rule.output)) rs (deriveRows rules sheet rs).1
  | [] => .nil
  | r :: rs => by
    have hr := alike_deriveTree r
    have hrs := rowsAlike_deriveRows rs
    rw [deriveRows]
    split
    · next r' e heq =>
      rw [heq] at hr
      exact .cons hr (rowsAlike_refl (appends_refl _) rs)
    · next r' heq =>
      rw [heq] at hr
      exact .cons hr hrs

end

end Record

end SheetGrammar
