import SheetGrammar.Proofs.Rule.Appending
import SheetGrammar.Proofs.Rule.Failures

/-!
# What a visit that fails has made

A visit that fails ends in the middle of a tree, and what it has made until then stays.  The
records before the one on which the rules failed have all their columns, that record has those of
the rules before the one that failed, and the records behind it are as they were.

## Main definitions

* `Record.StopsBehind` — rules that fail on a record, behind some that succeed.
* `Record.Interrupted` — a tree whose visit came to a record and some of the rules, and no further.

## Main results

* `Record.StopsBehind.deriveColumns_eq` — the rule that fails leaves no trace.
* `Record.exists_of_failure_alone` — where the visit of a list of records ends.
* `Record.deriveTree_interrupted` — a visit that fails leaves an interrupted tree.
-/

namespace SheetGrammar

namespace Record

variable {rules ran : List Rule} {sheet : String} {r : Record} {err : Error}

/-- The rules `rules` fail on a record with an error: those of `ran` succeed, and the next one
fails on what they have made. -/
def StopsBehind (ran rules : List Rule) (sheet : String) (r : Record) (err : Error) : Prop :=
  ∃ rule left, rules = ran ++ rule :: left ∧ (deriveColumns sheet r ran).2 = none ∧
    rule.derive sheet (deriveColumns sheet r ran).1 = .error err

/-- The record has the columns of the rules before the one that fails, which leaves no trace. -/
theorem StopsBehind.deriveColumns_eq (h : StopsBehind ran rules sheet r err) :
    deriveColumns sheet r rules = ((deriveColumns sheet r ran).1, some err) := by
  obtain ⟨rule, left, rfl, hran, hfails⟩ := h
  rw [deriveColumns_append]
  generalize deriveColumns sheet r ran = visit at hran hfails ⊢
  obtain ⟨r', failure⟩ := visit
  obtain rfl : failure = none := hran
  rw [Visit.andThen, deriveColumns, hfails]

/-- What a visit has made of the tree `r` if it failed with the error `err`: the tree `r'`. It came
to the record `s` in post-order, and there ran the rules `ran`. -/
structure Interrupted (rules : List Rule) (sheet : String) (err : Error) (r r' : Record)
    (before : List Record) (s : Record) (after : List Record) (ran : List Rule) : Prop where
  postorder_eq : r.postorder = before ++ s :: after
  /-- The rules succeed on each of the records before. -/
  derives : ∀ b ∈ before, (deriveColumns sheet b.alone rules).2 = none
  /-- They fail on the record by itself, and the first that fails has the error. -/
  stops : StopsBehind ran rules sheet s.alone err
  /-- The records before have all their columns, the record has those of the rules that ran, and
  those behind are as they were. -/
  made : r'.postorder.map alone
    = before.map (fun b => (deriveColumns sheet b.alone rules).1)
      ++ (deriveColumns sheet s.alone ran).1 :: after.map alone
  /-- Names, indexes and groups are the same, and all new columns stand behind the old ones. -/
  alike : Alike (Appends (rules.map Rule.output)) r r'

/-- The visit of records without others under them ends at the first on which the rules fail. -/
theorem exists_of_failure_alone {rs : List Record}
    (h : (deriveRows rules sheet (rs.map alone)).2 = some err) :
    ∃ before s after, rs = before ++ s :: after ∧
      (∀ b ∈ before, (deriveColumns sheet b.alone rules).2 = none) ∧
      (deriveColumns sheet s.alone rules).2 = some err ∧
      (deriveRows rules sheet (rs.map alone)).1
        = before.map (fun b => (deriveColumns sheet b.alone rules).1)
          ++ (deriveColumns sheet s.alone rules).1 :: after.map alone := by
  induction rs with
  | nil => cases h
  | cons r rs ih =>
    rw [List.map_cons, deriveRows_cons, deriveTree_alone] at h ⊢
    cases hvisit : deriveColumns sheet r.alone rules with
    | mk r' failure =>
      rw [hvisit] at h
      cases failure with
      | some e =>
        obtain rfl : e = err := Option.some.inj h
        exact ⟨[], r, rs, rfl, by simp, by rw [hvisit], by rw [hvisit]; rfl⟩
      | none =>
        obtain ⟨before, s, after, rfl, hbefore, hs, hmade⟩ := ih h
        refine ⟨r :: before, s, after, rfl, ?_, hs, ?_⟩
        · exact List.forall_mem_cons.mpr ⟨by rw [hvisit], hbefore⟩
        · rw [List.map_cons, hvisit]
          exact congrArg (r' :: ·) hmade

/-- **What a visit that fails has made.** There is a first record in post-order on which the rules
fail when it stands alone; the visit fails with the error of the first rule that fails there.  The
records before it have all the columns that the rules give them alone, the record itself has those
of the rules before that one, and the records behind it are unchanged.  Names, indexes, groups and
the columns that were there before are the same everywhere. -/
theorem deriveTree_interrupted (h : (deriveTree rules sheet r).2 = some err) :
    ∃ before s after ran,
      Interrupted rules sheet err r (deriveTree rules sheet r).1 before s after ran := by
  -- in the list of its records the tree is visited alike
  have hlist := deriveTree_postorder rules sheet r
  have hfailure : (deriveRows rules sheet (r.postorder.map alone)).2 = some err := by
    rw [← hlist]
    exact h
  obtain ⟨before, s, after, hsplit, hbefore, hs, hmade⟩ := exists_of_failure_alone hfailure
  obtain ⟨ran, rule, left, hrules, hran, hfails⟩ := deriveColumns_eq_some_iff.mp hs
  have hstops : StopsBehind ran rules sheet s.alone err := ⟨rule, left, hrules, hran, hfails⟩
  refine ⟨before, s, after, ran, hsplit, hbefore, hstops, ?_, alike_deriveTree rules sheet r⟩
  rw [← hlist, hstops.deriveColumns_eq] at hmade
  exact hmade

/-- A rule that marks each record, before the one that copies its text. -/
def markAndCopy : List Rule :=
  copyText.map (fun r => { r with
    name := "mark"
    output := ⟨"M", "mark"⟩
    evaluator := some fun _ => .ok (.string "m") }) ++ copyText

/-- An order with two items, of which the second one has no text. -/
def halfRead : Record :=
  ⟨"order", 1, [⟨"A", "text", .string "o"⟩],
    [⟨"item", [⟨"item", 1, [⟨"A", "text", .string "i"⟩], []⟩, ⟨"item", 2, [], []⟩]⟩]⟩

/-- The second item is marked, the first has a copy too, and the order has neither. -/
theorem deriveTree_interrupted_items :
    (deriveTree markAndCopy "s" halfRead).2
        = some (.ruleFailed "copy" "item" 2 "s" (.missingArgument "copy")) ∧
      (∃ before s after ran,
        Interrupted markAndCopy "s" (.ruleFailed "copy" "item" 2 "s" (.missingArgument "copy"))
          halfRead (deriveTree markAndCopy "s" halfRead).1 before s after ran) ∧
      (deriveTree markAndCopy "s" halfRead).1.postorder.map (fun r => r.columns.map Column.tag)
        = [["text", "mark", "copy"], ["mark"], ["text"]] := by
  have hfails : (deriveTree markAndCopy "s" halfRead).2
      = some (.ruleFailed "copy" "item" 2 "s" (.missingArgument "copy")) := by
    with_unfolding_all rfl
  exact ⟨hfails, deriveTree_interrupted hfails, by decide +kernel⟩

end Record

end SheetGrammar
