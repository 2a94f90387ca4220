import SheetGrammar.Config.Entry
import SheetGrammar.Proofs.Except
import SheetGrammar.Proofs.Pattern

/-!
# Conditions that make sense

A condition on a sheet has three optional fields, of which few combinations make sense: a
pattern for the name, or bounds for the position.  Compiling accepts exactly these.

## Main definitions

* `ConditionEntry.Valid` — a condition makes sense.

## Main results

* `ConditionEntry.exists_compile_eq_ok_iff` — exactly the conditions that make sense are
  accepted.
-/

namespace SheetGrammar

namespace ConditionEntry

/-- A condition makes sense if it is either a pattern for the name alone, or bounds for the
position between which there is a position. Positions are counted from 1, and without an upper
bound the lower one stands for it. -/
inductive Valid : ConditionEntry → Prop
  | name {pattern : String} (h : Pattern.Compiles pattern) : Valid ⟨some pattern, none, none⟩
  | range {low : Nat} {high : Option Nat} (hlow : 1 ≤ low) (hhigh : low ≤ high.getD low) :
      Valid ⟨none, some low, high⟩

theorem exists_compile_range_iff {low : Nat} {high : Option Nat} :
    (∃ x, compile ⟨none, some low, high⟩ = .ok x) ↔ 1 ≤ low ∧ low ≤ high.getD low := by
  by_cases h : low = 0 ∨ high.getD low < low
  · have hempty : ¬ (1 ≤ low ∧ low ≤ high.getD low) := by omega
    simp [compile, h, hempty]
  · have hrange : 1 ≤ low ∧ low ≤ high.getD low := by omega
    simp [compile, h, hrange]

/-- Exactly the conditions that make sense are accepted. -/
theorem exists_compile_eq_ok_iff {c : ConditionEntry} : (∃ x, c.compile = .ok x) ↔ c.Valid := by
  constructor
  · rintro ⟨x, hx⟩
    unfold compile at hx
    split at hx
    · next pattern =>
      unfold SheetCondition.ofName at hx
      split at hx
      · next p hp => exact .name ⟨p, hp⟩
      · cases hx
    · obtain ⟨hlow, hhigh⟩ := exists_compile_range_iff.mp ⟨x, hx⟩
      exact .range hlow hhigh
    · cases hx
  · intro h
    cases h with
    | name h =>
      obtain ⟨p, hp⟩ := h
      exact ⟨.name p, by simp [compile, SheetCondition.ofName, hp]⟩
    | range hlow hhigh => exact exists_compile_range_iff.mpr ⟨hlow, hhigh⟩

end ConditionEntry

end SheetGrammar
