import SheetGrammar.Pattern

/-!
# Texts that are patterns

## Main definitions

* `Pattern.Compiles` — a text is a pattern.

## Main results

* `Pattern.captures?_eq_none_iff` — groups capture something exactly where the pattern matches.
-/

namespace SheetGrammar

namespace Pattern

/-- The text is a pattern. -/
def Compiles (text : String) : Prop := ∃ p, parse? text = some p

theorem compiles_iff {text : String} : Compiles text ↔ (parse? text).isSome = true :=
  Option.isSome_iff_exists.symm

/-- Groups capture something exactly where the pattern matches. -/
theorem captures?_eq_none_iff {p : Pattern} {text : String} :
    p.captures? text = none ↔ p.isMatch text = false := by
  rw [captures?, isMatch, Option.map_eq_none_iff, Option.isSome_eq_false_iff,
    Option.isNone_iff_eq_none]

end Pattern

end SheetGrammar
