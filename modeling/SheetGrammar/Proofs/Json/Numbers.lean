import SheetGrammar.Json.Printer
import SheetGrammar.Json.Number
import Mathlib.Data.List.TakeWhile

/-!
# Numbers of JSON texts come back

An integer of 64 bits is read back from its digits.  A float need not be, since its digits
may not fit into the one multiplication or division with which it is read; whether it is can
be computed.  What follows a number in a text does not change how it is read.

## Main definitions

* `Json.EndsNumber` — what can stand behind a number.
* `Json.ReadsBack` — a float that is read back from its text.

## Main results

* `Json.readNumber?_append` — reading a number does not depend on what follows it.
* `Json.readNumber?_toString` — an integer of 64 bits is read back from its text.
-/

namespace SheetGrammar.Json

/-- What goes on after a number: no digit, no point and no exponent. -/
def EndsNumber (rest : List Char) : Prop :=
  ∀ c ∈ rest.head?, c.isDigit = false ∧ c ≠ '.' ∧ c ≠ 'e' ∧ c ≠ 'E'

theorem endsNumber_nil : EndsNumber [] := by
  simp [EndsNumber]

theorem endsNumber_cons {c : Char} {cs : List Char} :
    EndsNumber (c :: cs) ↔ c.isDigit = false ∧ c ≠ '.' ∧ c ≠ 'e' ∧ c ≠ 'E' := by
  simp [EndsNumber]

/-! ### Floats -/

/-- A float is read back from its text as itself. -/
def ReadsBack (x : Float) : Prop := readNumber? (floatText x) = some (.float x, [])

/-- The float that a value is, if it is one. -/
def float? : Json → Option Float
  | float x => some x
  | _ => none

theorem eq_float_of_float? {j : Json} {x : Float} (h : j.float? = some x) : j = float x := by
  unfold float? at h
  split at h
  · rw [Option.some.inj h]
  · cases h

theorem readsBack_iff (x : Float) :
    ((readNumber? (floatText x)).map fun r => (r.1.float?, r.2)) = some (some x, []) ↔
      ReadsBack x := by
  unfold ReadsBack
  constructor
  · intro h
    obtain ⟨r, hread, hr⟩ := Option.map_eq_some_iff.mp h
    obtain ⟨hfloat, hrest⟩ := Prod.mk.inj hr
    rw [hread, ← eq_float_of_float? hfloat, ← hrest]
  · intro h
    rw [h]
    rfl

instance : DecidablePred ReadsBack := fun x => decidable_of_iff _ (readsBack_iff x)

example : ReadsBack 0.19 := by decide +kernel

example : ¬ ReadsBack 123456789.12345679 := by decide +kernel

/-! ### What follows a number -/

section Rest

variable {rest : List Char}

theorem takeWhile_isDigit_append (h : EndsNumber rest) (cs : List Char) :
    (cs ++ rest).takeWhile Char.isDigit = cs.takeWhile Char.isDigit := by
  induction cs with
  | nil =>
    cases rest with
    | nil => rfl
    | cons c rest => simp [(endsNumber_cons.mp h).1]
  | cons c cs ih => simp only [List.cons_append, List.takeWhile_cons, ih]

theorem dropWhile_isDigit_append (h : EndsNumber rest) (cs : List Char) :
    (cs ++ rest).dropWhile Char.isDigit = cs.dropWhile Char.isDigit ++ rest := by
  induction cs with
  | nil =>
    cases rest with
    | nil => rfl
    | cons c rest => simp [(endsNumber_cons.mp h).1]
  | cons c cs ih =>
    simp only [List.cons_append, List.dropWhile_cons, ih]
    split <;> rfl

theorem takeSign_append {cs : List Char} (h : cs ≠ []) (rest : List Char) :
    Decimal.takeSign (cs ++ rest)
      = ((Decimal.takeSign cs).1, (Decimal.takeSign cs).2 ++ rest) := by
  obtain ⟨c, cs, rfl⟩ := List.exists_cons_of_ne_nil h
  unfold Decimal.takeSign
  split <;> split <;> simp_all

variable {negative : Bool} {significand dropped : Nat} {start : Int} {cs : List Char} {j : Json}

theorem readPower?_append (h : readPower? negative significand start cs = some (j, []))
    (hrest : EndsNumber rest) :
    readPower? negative significand start (cs ++ rest) = some (j, rest) := by
  -- without this the sign might be taken from what follows
  have hne : cs ≠ [] := by
    rintro rfl
    simp [readPower?, Decimal.takeSign] at h
  unfold readPower? at h ⊢
  rw [takeSign_append hne]
  simp only [takeWhile_isDigit_append hrest, dropWhile_isDigit_append hrest] at h ⊢
  split at h
  · cases h
  · next hdigits =>
    rw [if_neg hdigits]
    split at h
    · next hlarge =>
      rw [if_pos hlarge]
      split at h
      · next hzero =>
        rw [if_pos hzero]
        obtain ⟨hj, hnil⟩ := Prod.mk.inj (Option.some.inj h)
        rw [hj, hnil, List.nil_append]
      · next hzero =>
        rw [if_neg hzero]
        obtain ⟨hj, hnil⟩ := Prod.mk.inj (Option.some.inj h)
        rw [hj, hnil, List.nil_append]
    · next hlarge =>
      rw [if_neg hlarge]
      obtain ⟨hj, hnil⟩ := Prod.mk.inj (Option.some.inj h)
      rw [hj, hnil, List.nil_append]

theorem readTail?_cons {c : Char} (hpoint : c ≠ '.') :
    readTail? negative significand dropped (c :: cs)
      = if c = 'e' ∨ c = 'E' then readPower? negative significand dropped cs
        else some (if dropped = 0 then wholeNumber negative significand
          else scaled negative significand dropped, c :: cs) := by
  unfold readTail?
  split
  · next heq => exact absurd (List.cons.inj heq).1 hpoint
  · simp only
    split
    · rfl
    · split <;> rfl

/-- Where a number can end, the number is that of its leading digits. -/
theorem readTail?_end (hrest : EndsNumber rest) :
    readTail? negative significand dropped rest
      = some (if dropped = 0 then wholeNumber negative significand
          else scaled negative significand dropped, rest) := by
  cases rest with
  | nil =>
    unfold readTail?
    simp only
    split <;> rfl
  | cons c rest =>
    obtain ⟨-, hpoint, he, hE⟩ := endsNumber_cons.mp hrest
    rw [readTail?_cons hpoint, if_neg (by simp [he, hE])]

theorem readTail?_point_append
    (h : readTail? negative significand dropped ('.' :: cs) = some (j, []))
    (hrest : EndsNumber rest) :
    readTail? negative significand dropped ('.' :: (cs ++ rest)) = some (j, rest) := by
  simp only [readTail?, takeWhile_isDigit_append hrest, dropWhile_isDigit_append hrest] at h ⊢
  split at h
  · cases h
  next hdigits =>
  rw [if_neg hdigits]
  cases hdrop : cs.dropWhile Char.isDigit with
  | nil =>
    simp only [hdrop, Option.some.injEq, Prod.mk.injEq, and_true] at h
    cases rest with
    | nil => simp only [List.append_nil, h]
    | cons c rest =>
      obtain ⟨-, -, he, hE⟩ := endsNumber_cons.mp hrest
      simp only [List.nil_append, he, hE, or_self, if_false, h]
  | cons c behind =>
    simp only [hdrop] at h
    simp only [List.cons_append]
    split at h
    · next hletter =>
      rw [if_pos hletter]
      exact readPower?_append h hrest
    · cases h

theorem readTail?_append (h : readTail? negative significand dropped cs = some (j, []))
    (hrest : EndsNumber rest) :
    readTail? negative significand dropped (cs ++ rest) = some (j, rest) := by
  cases cs with
  | nil =>
    rw [readTail?_end endsNumber_nil] at h
    rw [List.nil_append, readTail?_end hrest, (Prod.mk.inj (Option.some.inj h)).1]
  | cons c cs =>
    rw [List.cons_append]
    by_cases hpoint : c = '.'
    · subst hpoint
      exact readTail?_point_append h hrest
    · rw [readTail?_cons hpoint] at h ⊢
      split at h
      · next hletter =>
        rw [if_pos hletter]
        exact readPower?_append h hrest
      · cases h

theorem readUnsigned?_append (h : readUnsigned? negative cs = some (j, []))
    (hrest : EndsNumber rest) : readUnsigned? negative (cs ++ rest) = some (j, rest) := by
  unfold readUnsigned? at h ⊢
  simp only [takeWhile_isDigit_append hrest, dropWhile_isDigit_append hrest] at h ⊢
  split at h
  · cases h
  next hdigits =>
  rw [if_neg hdigits]
  split at h
  · cases h
  next hzero =>
  rw [if_neg hzero]
  exact readTail?_append h hrest

theorem readNumber?_of_ne_minus {c : Char} (h : c ≠ '-') (cs : List Char) :
    readNumber? (c :: cs) = readUnsigned? false (c :: cs) := by
  rw [readNumber?]
  rintro cs' ⟨⟩
  exact h rfl

/-- Reading a number that fills a text does not depend on what follows the text, if a
number can end there. -/
theorem readNumber?_append (h : readNumber? cs = some (j, [])) (hrest : EndsNumber rest) :
    readNumber? (cs ++ rest) = some (j, rest) := by
  cases cs with
  | nil => cases h
  | cons c cs =>
    by_cases hminus : c = '-'
    · subst hminus
      exact readUnsigned?_append h hrest
    · rw [readNumber?_of_ne_minus hminus] at h
      rw [List.cons_append, readNumber?_of_ne_minus hminus]
      exact readUnsigned?_append h hrest

/-- A number starts with a digit or a minus sign. -/
theorem head_of_readNumber? {r : Json × List Char} (h : readNumber? cs = some r) :
    ∃ c ds, cs = c :: ds ∧ (c = '-' ∨ c.isDigit = true) := by
  cases cs with
  | nil => cases h
  | cons c cs =>
    refine ⟨c, cs, rfl, ?_⟩
    by_cases hminus : c = '-'
    · exact .inl hminus
    right
    rw [readNumber?_of_ne_minus hminus] at h
    by_contra hdigit
    simp [readUnsigned?, hdigit] at h

end Rest

/-! ### Integers -/

theorem absorb_of_le {cs : List Char} {acc : Nat} (h : Nat.ofDigitChars 10 cs acc ≤ maxWord) :
    absorb acc cs = (Nat.ofDigitChars 10 cs acc, []) := by
  induction cs generalizing acc with
  | nil => rw [absorb, Nat.ofDigitChars_nil]
  | cons c cs ih =>
    rw [Nat.ofDigitChars_cons] at h ⊢
    -- the digits behind this one can only make the number larger
    have hle : 10 * acc + digitValue c ≤ maxWord := by
      refine Nat.le_trans ?_ h
      rw [Nat.ofDigitChars_eq_ofDigitChars_zero]
      exact Nat.le_trans (Nat.le_mul_of_pos_left _ (Nat.pow_pos (by decide)))
        (Nat.le_add_right _ _)
    rw [absorb]
    simp only [if_pos hle]
    exact ih h

theorem head?_toDigits_ne_zero {n : Nat} (h : 0 < n) : (Nat.toDigits 10 n).head? ≠ some '0' := by
  induction n using Nat.strongRecOn with
  | ind n ih =>
    by_cases hlt : n < 10
    · rw [Nat.toDigits_of_lt_base hlt]
      simp [Nat.pos_iff_ne_zero.mp h]
    · obtain ⟨c, cs, hcs⟩ := List.exists_cons_of_ne_nil (Nat.toDigits_ne_nil (b := 10) (n := n / 10))
      have hc := ih (n / 10) (by omega) (by omega)
      rw [hcs] at hc
      rw [Nat.toDigits_of_base_le (by decide) (by omega), hcs]
      exact hc

theorem readUnsigned?_toDigits (negative : Bool) {n : Nat} (h : n ≤ maxWord) :
    readUnsigned? negative (Nat.toDigits 10 n) = some (wholeNumber negative n, []) := by
  have hdigits : ∀ c ∈ Nat.toDigits 10 n, c.isDigit = true := fun c hc =>
    Nat.isDigit_of_mem_toDigits (by decide) (by decide) hc
  have hvalue : absorb 0 (Nat.toDigits 10 n) = (n, []) := by
    rw [absorb_of_le] <;> rw [Nat.ofDigitChars_ten_toDigits]
    exact h
  have hzero : ¬ ((Nat.toDigits 10 n).head? = some '0' ∧ 1 < (Nat.toDigits 10 n).length) := by
    rintro ⟨hhead, hlength⟩
    cases n with
    | zero => simp [Nat.toDigits_zero] at hlength
    | succ n => exact head?_toDigits_ne_zero (Nat.succ_pos n) hhead
  unfold readUnsigned?
  simp only [List.takeWhile_eq_self_iff.mpr hdigits, List.dropWhile_eq_nil_iff.mpr hdigits, hvalue]
  rw [if_neg Nat.toDigits_ne_nil, if_neg hzero, List.length_nil, readTail?_end endsNumber_nil]
  rfl

theorem readNumber?_toDigits {n : Nat} (h : n ≤ maxWord) :
    readNumber? (Nat.toDigits 10 n) = some (.integer n, []) := by
  obtain ⟨c, cs, hcs⟩ := List.exists_cons_of_ne_nil (Nat.toDigits_ne_nil (b := 10) (n := n))
  have hminus : c ≠ '-' := by
    rintro rfl
    have hdigit : ('-').isDigit = true :=
      Nat.isDigit_of_mem_toDigits (b := 10) (n := n) (by decide) (by decide) (by simp [hcs])
    exact absurd hdigit (by decide)
  rw [hcs, readNumber?_of_ne_minus hminus, ← hcs, readUnsigned?_toDigits false h]
  rfl

/-- An integer of 64 bits is read back from its text. -/
theorem readNumber?_toString {n : Int} (hlow : -(wordSize 63 : Int) ≤ n)
    (hhigh : n < wordSize 64) : readNumber? (toString n).toList = some (.integer n, []) := by
  have hhalf : wordSize 63 = 2 ^ 63 := rfl
  have hfull : wordSize 64 = 2 ^ 64 := rfl
  rw [Int.toString_eq_repr, Int.repr_eq_if]
  split
  · next hn =>
    rw [Nat.toList_repr, readNumber?_toDigits (by unfold maxWord; omega), Int.toNat_of_nonneg hn]
  · next hn =>
    have hminus : ("-" ++ (-n).toNat.repr).toList = '-' :: Nat.toDigits 10 (-n).toNat := by
      rw [String.toList_append, Nat.toList_repr]
      rfl
    rw [hminus, readNumber?, readUnsigned?_toDigits true (by unfold maxWord; omega), wholeNumber,
      if_pos rfl, if_pos (by omega), Int.toNat_of_nonneg (by omega), Int.neg_neg]

end SheetGrammar.Json
