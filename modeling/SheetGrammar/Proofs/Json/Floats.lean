import SheetGrammar.Proofs.Json.Numbers

/-!
# Floats of JSON texts stay floats

The text of a finite float has a point or an exponent, even where the float is whole, and a
text that is read as an integer has neither.  So it is enough to know that the number in the
text comes to the same float: then it is read as that float and not as an integer.

## Main definitions

* `Json.toFloat?` — the float that a number comes to, whether it was written as one or not.
* `Json.Recovers` — a float whose text comes to the same float.

## Main results

* `Decimal.mem_compact` — a written decimal has a point or an exponent.
* `Json.isDigit_of_readNumber?` — what is read as an integer consists of digits.
* `Json.Recovers.readsBack` — a float whose text comes to the same float is read back as it.
-/

namespace SheetGrammar

/-! ### Points and exponents -/

namespace Decimal

theorem mem_positional {d : Decimal} (h : d.exponent < 0) : '.' ∈ d.positional := by
  have hneg : ¬ 0 ≤ d.exponent := by omega
  unfold positional
  simp only [if_neg hneg]
  split
  · exact List.mem_append_right _ List.mem_cons_self
  · exact List.mem_cons_of_mem _ List.mem_cons_self

theorem mem_scientific (sign : PowerSign) (d : Decimal) : 'e' ∈ d.scientific sign := by
  have hpower : 'e' ∈ powerText sign (d.pointPlace - 1) := List.mem_cons_self
  exact List.mem_append_right _ hpower

/-- A decimal as documents hold it has a point or an exponent. -/
theorem mem_compact (sign : PowerSign) (d : Decimal) :
    '.' ∈ d.compact sign ∨ 'e' ∈ d.compact sign := by
  have hzero : '.' ∈ ['0', '.', '0'] := by decide
  have hwhole : '.' ∈ ['.', '0'] := by decide
  unfold compact
  rw [List.mem_append, List.mem_append]
  split
  · exact .inl (.inr hzero)
  split
  · -- without an exponent the point stands among the digits, or else in the zero behind them
    left; right
    by_cases h : 0 ≤ d.exponent
    · rw [if_pos h]
      exact List.mem_append_right _ hwhole
    · exact List.mem_append_left _ (mem_positional (by omega))
  · exact .inr (.inr (mem_scientific sign d))

end Decimal

namespace Json

variable {negative : Bool} {significand dropped : Nat} {start n : Int} {cs rest : List Char}
  {x : Float}

/-! ### What is read as an integer -/

theorem scaled_ne_integer : scaled negative significand start ≠ integer n := by
  unfold scaled
  split
  · nofun
  · nofun

theorem readPower?_ne_integer :
    readPower? negative significand start cs ≠ some (integer n, rest) := by
  unfold readPower?
  intro h
  simp only at h
  split at h
  · cases h
  split at h
  · split at h
    · cases h
    · cases h
  · exact scaled_ne_integer (Prod.mk.inj (Option.some.inj h)).1

/-- With a point no number is an integer. -/
theorem readTail?_point_ne_integer :
    readTail? negative significand dropped ('.' :: cs) ≠ some (integer n, rest) := by
  intro h
  simp only [readTail?] at h
  split at h
  · cases h
  split at h
  · split at h
    · exact readPower?_ne_integer h
    · exact scaled_ne_integer (Prod.mk.inj (Option.some.inj h)).1
  · exact scaled_ne_integer (Prod.mk.inj (Option.some.inj h)).1

/-- An integer ends with its digits. -/
theorem eq_nil_of_readTail? (h : readTail? negative significand dropped cs = some (integer n, [])) :
    cs = [] := by
  cases cs with
  | nil => rfl
  | cons c cs =>
    by_cases hpoint : c = '.'
    · subst hpoint
      exact absurd h readTail?_point_ne_integer
    · rw [readTail?_cons hpoint] at h
      split at h
      · exact absurd h readPower?_ne_integer
      · exact absurd (Prod.mk.inj (Option.some.inj h)).2 (List.cons_ne_nil c cs)

theorem isDigit_of_readUnsigned? (h : readUnsigned? negative cs = some (integer n, [])) :
    ∀ c ∈ cs, c.isDigit = true := by
  unfold readUnsigned? at h
  simp only at h
  split at h
  · cases h
  split at h
  · cases h
  · exact List.dropWhile_eq_nil_iff.mp (eq_nil_of_readTail? h)

/-- What is read as an integer consists of digits, behind a minus sign if it has one. -/
theorem isDigit_of_readNumber? (h : readNumber? cs = some (integer n, [])) :
    ∀ c ∈ cs, c = '-' ∨ c.isDigit = true := by
  cases cs with
  | nil => cases h
  | cons c cs =>
    by_cases hminus : c = '-'
    · subst hminus
      have hunsigned : readUnsigned? true cs = some (integer n, []) := h
      intro c hc
      rcases List.mem_cons.mp hc with hc | hc
      · exact .inl hc
      · exact .inr (isDigit_of_readUnsigned? hunsigned c hc)
    · rw [readNumber?_of_ne_minus hminus] at h
      exact fun c hc => .inr (isDigit_of_readUnsigned? h c hc)

/-! ### Floats -/

/-- The float that a number comes to, whether or not it was written as a float. -/
def toFloat? : Json → Option Float
  | integer n => some (Float.ofInt n)
  | float x => some x
  | _ => none

/-- The number in the text of a float comes to the same float. -/
def Recovers (x : Float) : Prop :=
  ∃ j, readNumber? (floatText x) = some (j, []) ∧ j.toFloat? = some x

theorem ReadsBack.recovers (h : ReadsBack x) : Recovers x := ⟨float x, h, rfl⟩

/-- The text of a float is not read as an integer, even if the float is whole. -/
theorem readNumber?_floatText_ne_integer (x : Float) (n : Int) :
    readNumber? (floatText x) ≠ some (integer n, []) := by
  intro h
  have hdigits := isDigit_of_readNumber? h
  unfold floatText at h hdigits
  split at hdigits
  · next p _ =>
    rcases Decimal.mem_compact .plus (Decimal.shortest .toEven p) with hpoint | hpower
    · exact absurd (hdigits _ hpoint) (by decide)
    · exact absurd (hdigits _ hpower) (by decide)
  · -- what is not finite is written as null
    exact absurd (hdigits 'n' List.mem_cons_self) (by decide)

/-- A float whose text comes to the same float is read back as that float. -/
theorem Recovers.readsBack (h : Recovers x) : ReadsBack x := by
  obtain ⟨j, hread, hj⟩ := h
  unfold toFloat? at hj
  split at hj
  · exact absurd hread (readNumber?_floatText_ne_integer x _)
  · unfold ReadsBack
    rw [hread, Option.some.inj hj]
  · cases hj

end Json

end SheetGrammar
