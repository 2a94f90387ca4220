import Mathlib.Data.List.Induction
import SheetGrammar.Proofs.Record.Postorder
import SheetGrammar.Proofs.Rule.Locality

/-!
# Where deriving columns fails

A visit of records ends at the first record on which the rules fail, and there at the first rule
that does.  Nothing that the visit made of other records matters, so that the failure can be found
record by record, in the order of the visit.  The visit of a tree comes to the same as the visit of the
list of its records, each of them alone.

## Main results

* `Rule.derive_eq_error_iff` — a rule fails if it applies and its evaluator fails.
* `Record.deriveColumns_eq_some_iff` — the first rule that fails decides.
* `Record.deriveTree_postorder` — a tree is visited as the list of its records.
* `Record.failure_deriveRows` — the first record in post-order on which rules fail decides.
-/

namespace SheetGrammar

variable {rules : List Rule} {sheet : String} {r : Record} {err : Error}

/-- A rule that has its evaluator fails exactly if it applies and the evaluator fails. -/
theorem Rule.derive_eq_error_iff {rule : Rule} {eval : Evaluator} (h : rule.evaluator = some eval) :
    rule.derive sheet r = .error err ↔ rule.applies r = true ∧
      ∃ e, eval (rule.sourceValues r.columns) = .error e ∧
        err = .ruleFailed rule.name r.name r.index sheet e := by
  rw [derive, h]
  cases rule.applies r with
  | false => simp
  | true =>
    cases heval : eval (rule.sourceValues r.columns) with
    | ok value => simp [heval]
    | error e => simp [heval, eq_comm]

/-! ### Visits -/

namespace Visit

variable {α β γ : Type}

/-- The failure of one visit after another is the first one that there is. -/
theorem failure_andThen (x : Visit α) (stop : α → β) (next : α → Visit β) :
    (x.andThen stop next).2 = x.2.or (next x.1).2 := by
  obtain ⟨a, failure⟩ := x
  cases failure with
  | none => rfl
  | some e => rfl

theorem map_andThen (x : Visit α) (stop : α → β) (next : α → Visit β) (f : β → γ) :
    (x.andThen stop next).map f = x.andThen (fun a => f (stop a)) fun a => (next a).map f := by
  obtain ⟨a, failure⟩ := x
  cases failure with
  | none => rfl
  | some e => rfl

theorem andThen_map (f : α → β) (x : Visit α) (stop : β → γ) (next : β → Visit γ) :
    (x.map f).andThen stop next = x.andThen (fun a => stop (f a)) fun a => next (f a) := by
  obtain ⟨a, failure⟩ := x
  cases failure with
  | none => rfl
  | some e => rfl

theorem andThen_assoc (x : Visit α) (stop : α → β) (next : α → Visit β) (stop' : β → γ)
    (next' : β → Visit γ) :
    (x.andThen stop next).andThen stop' next'
      = x.andThen (fun a => stop' (stop a)) fun a => (next a).andThen stop' next' := by
  obtain ⟨a, failure⟩ := x
  cases failure with
  | none => rfl
  | some e => rfl

end Visit

namespace Record

/-! ### One record -/

/-- Rules run one after the other; the later ones see what the earlier ones made. -/
theorem deriveColumns_append (before after : List Rule) (r : Record) :
    deriveColumns sheet r (before ++ after)
      = Visit.andThen (deriveColumns sheet r before) id fun r => deriveColumns sheet r after := by
  induction before generalizing r with
  | nil => rfl
  | cons rule before ih =>
    rw [List.cons_append, deriveColumns, deriveColumns]
    cases rule.derive sheet r with
    | error e => rfl
    | ok column? =>
      cases column? with
      | none => exact ih r
      | some c => exact ih (r.addColumn c)

theorem failure_deriveColumns_cons {rule : Rule} (h : rule.derive sheet r = .error err) :
    (deriveColumns sheet r (rule :: rules)).2 = some err := by
  rw [deriveColumns, h]

theorem derive_of_failure_singleton {rule : Rule}
    (h : (deriveColumns sheet r [rule]).2 = some err) : rule.derive sheet r = .error err := by
  rw [deriveColumns] at h
  cases hderive : rule.derive sheet r with
  | error e =>
    rw [hderive] at h
    exact congrArg Except.error (Option.some.inj h)
  | ok column? =>
    rw [hderive] at h
    cases column? with
    | none => cases h
    | some c => cases h

/-- The first rule that fails decides; it sees the columns that the rules before it appended. -/
theorem deriveColumns_eq_some_iff : (deriveColumns sheet r rules).2 = some err ↔
    ∃ before rule after, rules = before ++ rule :: after ∧
      (deriveColumns sheet r before).2 = none ∧
      rule.derive sheet (deriveColumns sheet r before).1 = .error err := by
  constructor
  · intro h
    -- from the last rule to the first, so that the rules before the failure stand together
    induction rules using List.reverseRecOn with
    | nil => cases h
    | append_singleton rules rule ih =>
      rw [deriveColumns_append, Visit.failure_andThen] at h
      cases hbefore : (deriveColumns sheet r rules).2 with
      | some e =>
        rw [hbefore, Option.some_or] at h
        obtain ⟨before, failing, after, rfl, hfails⟩ := ih (hbefore.trans h)
        exact ⟨before, failing, after ++ [rule], by simp, hfails⟩
      | none =>
        rw [hbefore, Option.none_or] at h
        exact ⟨rules, rule, [], rfl, hbefore, derive_of_failure_singleton h⟩
  · rintro ⟨before, rule, after, rfl, hbefore, hfails⟩
    rw [deriveColumns_append, Visit.failure_andThen, hbefore, Option.none_or]
    exact failure_deriveColumns_cons hfails

/-- Whether rules fail on a record depends on the record alone. -/
theorem failure_deriveColumns_alone (rules : List Rule) (sheet : String) (r : Record) :
    (deriveColumns sheet r rules).2 = (deriveColumns sheet r.alone rules).2 := by
  rw [deriveColumns_eq rules sheet r]

/-! ### Trees -/

variable (rules sheet)

/-- Some records are visited after others, if those succeed. -/
theorem deriveRows_append (rs ss : List Record) :
    deriveRows rules sheet (rs ++ ss)
      = Visit.andThen (deriveRows rules sheet rs) (· ++ ss)
          fun rs => Visit.map (rs ++ ·) (deriveRows rules sheet ss) := by
  induction rs with
  | nil => rfl
  | cons r rs ih =>
    simp only [List.cons_append, deriveRows_cons, ih, Visit.map_andThen, Visit.andThen_assoc,
      Visit.andThen_map]
    rfl

/-- A record alone is visited by running the rules on it. -/
theorem deriveTree_alone (r : Record) :
    deriveTree rules sheet r.alone = deriveColumns sheet r.alone rules := by
  cases r
  rw [alone, deriveTree_eq]
  rfl

/-- One more record alone is visited after the others, if they succeed. -/
theorem deriveRows_concat_alone (rs : List Record) (r : Record) :
    deriveRows rules sheet (rs ++ [r.alone])
      = Visit.andThen (deriveRows rules sheet rs) (· ++ [r.alone])
          fun rs => Visit.map (rs ++ [·]) (deriveColumns sheet r.alone rules) := by
  rw [deriveRows_append, deriveRows_cons, deriveTree_alone]
  obtain ⟨r', failure⟩ := deriveColumns sheet r.alone rules
  cases failure with
  | none => rfl
  | some e => rfl

mutual

/-- The visit of a tree is the visit of the list of its records, each alone, in post-order. -/
theorem deriveTree_postorder : ∀ r : Record,
    Visit.map (fun r => r.postorder.map alone) (deriveTree rules sheet r)
      = deriveRows rules sheet (r.postorder.map alone)
  | ⟨name, index, columns, children⟩ => by
    have hself : ∀ gs, Visit.map (fun r => r.postorder.map alone)
        (deriveColumns sheet ⟨name, index, columns, gs⟩ rules)
          = Visit.map ((postorderGroups gs).map alone ++ [·])
              (deriveColumns sheet (alone ⟨name, index, columns, children⟩) rules) := by
      intro gs
      rw [deriveColumns_eq, deriveColumns_eq _ _ (alone ⟨name, index, columns, children⟩)]
      simp [Visit.map, postorder, alone]
    rw [deriveTree_eq, Visit.map_andThen, postorder, List.map_append, List.map_singleton,
      deriveRows_concat_alone, ← deriveGroups_postorder children, Visit.andThen_map]
    simp only [hself, postorder, List.map_append, List.map_singleton]
    rfl

theorem deriveGroups_postorder : ∀ gs : List (Group Record),
    Visit.map (fun gs => (postorderGroups gs).map alone) (deriveGroups rules sheet gs)
      = deriveRows rules sheet ((postorderGroups gs).map alone)
  | [] => rfl
  | ⟨name, rows⟩ :: gs => by
    rw [deriveGroups_cons, Visit.map_andThen, postorderGroups, List.map_append,
      deriveRows_append, ← deriveRows_postorder rows, ← deriveGroups_postorder gs,
      Visit.andThen_map]
    simp only [Visit.map, postorderGroups, List.map_append]

theorem deriveRows_postorder : ∀ rs : List Record,
    Visit.map (fun rs => (postorderRows rs).map alone) (deriveRows rules sheet rs)
      = deriveRows rules sheet ((postorderRows rs).map alone)
  | [] => rfl
  | r :: rs => by
    rw [deriveRows_cons, Visit.map_andThen, postorderRows, List.map_append,
      deriveRows_append, ← deriveTree_postorder r, ← deriveRows_postorder rs,
      Visit.andThen_map]
    simp only [Visit.map, postorderRows, List.map_append]

end

theorem failure_deriveRows_alone (rs : List Record) :
    (deriveRows rules sheet (rs.map alone)).2
      = rs.findSome? fun s => (deriveColumns sheet s rules).2 := by
  induction rs with
  | nil => rfl
  | cons r rs ih =>
    rw [List.map_cons, deriveRows_cons, Visit.failure_andThen, deriveTree_alone, Visit.map, ih,
      ← failure_deriveColumns_alone, ← List.singleton_append, List.findSome?_append,
      List.findSome?_singleton]

/-- The first record in post-order on which rules fail decides. -/
theorem failure_deriveRows (rs : List Record) : (deriveRows rules sheet rs).2
    = (postorderRows rs).findSome? fun s => (deriveColumns sheet s rules).2 := by
  rw [← failure_deriveRows_alone, ← deriveRows_postorder]
  rfl

end Record

end SheetGrammar
