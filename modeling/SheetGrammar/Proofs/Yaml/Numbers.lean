import SheetGrammar.Proofs.Json.Floats
import SheetGrammar.Proofs.Yaml.Plain

/-!
# Numbers of YAML texts

Numbers are written plain, in digits and a few other characters.  The digits of an integer are
read as that integer.  The text of a float has a point or an exponent, also where the float is
whole, so that it is read as a float if the number in it comes to one.

## Main definitions

* `isNumberChar` — the characters of numbers.
* `IsPlain` — a text can be written plain.

## Main results

* `isPlain_toString`, `isPlain_floatText` — numbers can be written plain.
* `integerOfText?_toString` — an integer is read back from its digits.
* `meaningOfText_floatText` — a float is read back if its text comes to it.
-/

namespace SheetGrammar

variable {c d : Char} {cs : List Char}

namespace Yaml

/-! ### Characters of numbers -/

/-- The characters of numbers. -/
def isNumberChar (c : Char) : Bool := c.isDigit || "+-.aefin".toList.contains c

theorem isNumberChar_of_isDigit (h : c.isDigit = true) : isNumberChar c = true := by
  simp [isNumberChar, h]

theorem ne_of_isNumberChar (hc : isNumberChar c = true) (hd : isNumberChar d = false) : c ≠ d := by
  rintro rfl
  simp [hc] at hd

theorem isVisible_of_isNumberChar (h : isNumberChar c = true) : isVisible c = true := by
  rw [isNumberChar, Bool.or_eq_true, List.contains_iff_mem] at h
  rcases h with h | h
  · have hrange : 0x20 ≤ c.toNat ∧ c.toNat ≤ 0x7E := by
      simp only [Char.isDigit, Bool.and_eq_true, decide_eq_true_eq, UInt32.le_iff_toNat_le] at h
      have hc : c.toNat = c.val.toNat := rfl
      have hlow : ('0').val.toNat = 48 := rfl
      have hhigh : ('9').val.toNat = 57 := rfl
      omega
    simp [isVisible, hrange]
  · have hall : ∀ c ∈ "+-.aefin".toList, isVisible c = true := List.all_eq_true.mp (by decide)
    exact hall c h

theorem isBreak_of_isNumberChar (h : isNumberChar c = true) : isBreak c = false := by
  have hne : ∀ d, isNumberChar d = false → c ≠ d := fun d hd => ne_of_isNumberChar h hd
  simp [isBreak, hne '\n' (by decide), hne '\r' (by decide), hne '\x85' (by decide),
    hne '\u2028' (by decide), hne '\u2029' (by decide)]

theorem isGap_of_isNumberChar (h : isNumberChar c = true) : isGap c = false := by
  have hne : ∀ d, isNumberChar d = false → c ≠ d := fun d hd => ne_of_isNumberChar h hd
  simp [isGap, hne ' ' (by decide), hne '\t' (by decide)]

/-! ### Plain texts -/

/-- A text that can be written plain. -/
structure IsPlain (cs : List Char) : Prop where
  ne_nil : cs ≠ []
  words : FitsWords cs
  start : ∀ x next, cs = x :: next → startsSpecial x next = false

/-- A text that has no marks can be written plain. -/
theorem isPlain_of_fitsPlain (hne : cs ≠ []) (h : fitsPlain cs = true) : IsPlain cs := by
  refine ⟨hne, fitsWords_of_fitsPlain h, ?_⟩
  rintro x next rfl
  simp only [fitsPlain, hasMarks, Bool.and_eq_true, Bool.not_eq_true', Bool.or_eq_false_iff] at h
  exact h.2.1.2

theorem colonFree_of_not_mem (h : ':' ∉ cs) : colonFree cs = true := by
  induction cs with
  | nil => rfl
  | cons c cs ih =>
    obtain ⟨hc, hcs⟩ := not_or.mp (mt List.mem_cons.mpr h)
    rw [colonFree, ih hcs]
    simp [Ne.symm hc]

theorem hasAdjacent_of_forall {p q : Char → Bool} (h : ∀ x ∈ cs, p x = false) :
    hasAdjacent p q cs = false := by
  induction cs with
  | nil => rfl
  | cons c cs ih =>
    obtain ⟨hc, hcs⟩ := List.forall_mem_cons.mp h
    rw [hasAdjacent, ih hcs, hc]
    rfl

/-- A text of such characters can be written plain, other than a dash alone. -/
theorem isPlain_of_isNumberChar (hne : cs ≠ []) (hdash : cs ≠ ['-'])
    (h : ∀ x ∈ cs, isNumberChar x = true) : IsPlain cs := by
  have hspace : ∀ x ∈ cs, isSpace x = false := fun x hx => by
    simp [isSpace, ne_of_isNumberChar (h x hx) (d := ' ') (by decide)]
  refine ⟨hne, ⟨fun x hx => isVisible_of_isNumberChar (h x hx),
    fun x hx => isBreak_of_isNumberChar (h x hx), colonFree_of_not_mem ?_,
    hasAdjacent_of_forall fun x hx => isGap_of_isNumberChar (h x hx),
    fun x hx => hspace x (List.mem_of_getLast? hx),
    fun x hx => ⟨hspace x (List.mem_of_head? hx), ?_⟩⟩, ?_⟩
  · exact fun hcolon => absurd (h ':' hcolon) (by decide)
  · exact ne_of_isNumberChar (h x (List.mem_of_head? hx)) (by decide)
  · rintro x next rfl
    obtain ⟨hx, hnext⟩ := List.forall_mem_cons.mp h
    -- none of the characters that start something else is in a number
    have hlist : "#,[]\x7b\x7d&*!|>\x27\"%@\x60".toList.contains x = false := by
      rw [List.contains_eq_mem, decide_eq_false_iff_not]
      have hall : ∀ y ∈ "#,[]\x7b\x7d&*!|>\x27\"%@\x60".toList, (!isNumberChar y) = true :=
        List.all_eq_true.mp (by decide)
      exact fun hmem => absurd (hall x hmem) (by simp [hx])
    rw [startsSpecial, hlist, Bool.false_or, Bool.and_eq_false_iff]
    cases next with
    | nil =>
      -- a dash alone would start an item
      left
      have hminus : x ≠ '-' := by
        rintro rfl
        exact hdash rfl
      simp [hminus, ne_of_isNumberChar hx (d := '?') (by decide),
        ne_of_isNumberChar hx (d := ':') (by decide)]
    | cons y next =>
      -- with a character of a number behind it, it does not
      right
      have hy := hnext y List.mem_cons_self
      rw [isBlankOrEnd, isGap_of_isNumberChar hy, isBreak_of_isNumberChar hy]
      rfl

/-! ### Integers -/

theorem isNumberChar_of_mem_toDigits {n : Nat} (h : c ∈ Nat.toDigits 10 n) :
    isNumberChar c = true :=
  isNumberChar_of_isDigit (Nat.isDigit_of_mem_toDigits (by decide) (by decide) h)

/-- An integer is written as its digits, behind a minus sign if it is negative. -/
theorem toList_toString (n : Int) : (toString n).toList
    = if 0 ≤ n then Nat.toDigits 10 n.toNat else '-' :: Nat.toDigits 10 (-n).toNat := by
  rw [Int.toString_eq_repr, Int.repr_eq_if]
  split
  · rw [Nat.toList_repr]
  · rw [String.toList_append, Nat.toList_repr]
    rfl

theorem isNumberChar_toString (n : Int) : ∀ c ∈ (toString n).toList, isNumberChar c = true := by
  intro c hc
  rw [toList_toString] at hc
  split at hc
  · exact isNumberChar_of_mem_toDigits hc
  · rcases List.mem_cons.mp hc with rfl | hc
    · rfl
    · exact isNumberChar_of_mem_toDigits hc

theorem isPlain_toString (n : Int) : IsPlain (toString n).toList := by
  have hdigits : ∀ m, Nat.toDigits 10 m ≠ [] ∧ Nat.toDigits 10 m ≠ ['-'] := by
    refine fun m => ⟨Nat.toDigits_ne_nil, fun h => ?_⟩
    have hminus : ('-').isDigit = true :=
      Nat.isDigit_of_mem_toDigits (b := 10) (n := m) (by decide) (by decide) (by simp [h])
    exact absurd hminus (by decide)
  refine isPlain_of_isNumberChar ?_ ?_ (isNumberChar_toString n)
  · rw [toList_toString]
    split
    · exact (hdigits _).1
    · simp
  · rw [toList_toString]
    split
    · exact (hdigits _).2
    · simp [(hdigits _).1]

theorem basedNumber?_eq_none (h : ∀ x ∈ cs, isNumberChar x = true) : basedNumber? cs = none := by
  unfold basedNumber?
  split
  · exact absurd (h 'x' (by simp)) (by decide)
  · exact absurd (h 'o' (by simp)) (by decide)
  · exact absurd (h 'b' (by simp)) (by decide)
  · rfl

theorem hexValue?_of_isDigit (h : c.isDigit = true) :
    hexValue? c = some (c.toNat - '0'.toNat) ∧ c.toNat - '0'.toNat < 10 := by
  refine ⟨by rw [hexValue?, if_pos h], ?_⟩
  simp only [Char.isDigit, Bool.and_eq_true, decide_eq_true_eq, UInt32.le_iff_toNat_le] at h
  have hc : c.toNat = c.val.toNat := rfl
  have hlow : ('0').toNat = 48 := rfl
  have hhigh : ('9').val.toNat = 57 := rfl
  omega

/-- Digits are read as the number that they stand for. -/
theorem foldlM_digits (h : ∀ x ∈ cs, x.isDigit = true) (acc : Nat) :
    cs.foldlM (fun n d =>
      (hexValue? d).bind fun v => if v < 10 then some (10 * n + v) else none) acc
      = some (Nat.ofDigitChars 10 cs acc) := by
  induction cs generalizing acc with
  | nil => rfl
  | cons c cs ih =>
    obtain ⟨hc, hcs⟩ := List.forall_mem_cons.mp h
    obtain ⟨hvalue, hlt⟩ := hexValue?_of_isDigit hc
    rw [List.foldlM_cons, hvalue, Option.bind_some, if_pos hlt]
    exact (ih hcs _).trans (by rw [Nat.ofDigitChars_cons])

theorem digitsInBase?_toDigits (n : Nat) : digitsInBase? 10 (Nat.toDigits 10 n) = some n := by
  rw [digitsInBase?, if_neg Nat.toDigits_ne_nil, foldlM_digits, Nat.ofDigitChars_ten_toDigits]
  exact fun x hx => Nat.isDigit_of_mem_toDigits (by decide) (by decide) hx

/-- No zeros lead the digits of a number. -/
theorem toDigits_leading (n : Nat) :
    1 < (Nat.toDigits 10 n).length → (Nat.toDigits 10 n).head? ≠ some '0' := by
  cases n with
  | zero => decide
  | succ n => exact fun _ => Json.head?_toDigits_ne_zero (Nat.succ_pos n)

theorem hasLeadingZeros_of_dropSign {n : Nat} (h : dropSign cs = Nat.toDigits 10 n) :
    hasLeadingZeros cs = false := by
  have hlead := toDigits_leading n
  rw [hasLeadingZeros, h]
  by_cases hlength : 1 < (Nat.toDigits 10 n).length
  · simp [hlead hlength]
  · simp [hlength]

/-- An integer is read back from its digits. -/
theorem integerOfText?_toString (n : Int) : integerOfText? (toString n).toList = some n := by
  have hbased : ∀ m, basedNumber? (Nat.toDigits 10 m) = none := fun m =>
    basedNumber?_eq_none fun x hx => isNumberChar_of_mem_toDigits hx
  rw [toList_toString]
  split
  · next hn =>
    -- the first character is a digit, so no sign is taken for one
    obtain ⟨c, ds, hcs⟩ := List.exists_cons_of_ne_nil (Nat.toDigits_ne_nil (b := 10) (n := n.toNat))
    have hdigit : c.isDigit = true :=
      Nat.isDigit_of_mem_toDigits (b := 10) (n := n.toNat) (by decide) (by decide) (by simp [hcs])
    have hminus : c ≠ '-' := by
      rintro rfl
      exact absurd hdigit (by decide)
    have hplus : c ≠ '+' := by
      rintro rfl
      exact absurd hdigit (by decide)
    have hsign : dropSign (Nat.toDigits 10 n.toNat) = Nat.toDigits 10 n.toNat := by
      rw [hcs, dropSign]
      · rintro ds' ⟨⟩
        exact hplus rfl
      · rintro ds' ⟨⟩
        exact hminus rfl
    have hhead : ¬ (Nat.toDigits 10 n.toNat).head? = some '+' := by simp [hcs, hplus]
    unfold integerOfText?
    split
    · next heq => exact absurd (List.cons.inj (hcs.symm.trans heq)).1 hminus
    · simp only [hhead, if_false, hbased, hasLeadingZeros_of_dropSign hsign, Bool.false_eq_true,
        digitsInBase?_toDigits, Option.map_some]
      exact congrArg some (Int.toNat_of_nonneg hn)
  · next hn =>
    have hsign : dropSign ('-' :: Nat.toDigits 10 (-n).toNat) = Nat.toDigits 10 (-n).toNat := rfl
    have hvalue : -((-n).toNat : Int) = n := by omega
    simp only [integerOfText?, hbased, hasLeadingZeros_of_dropSign hsign, Bool.false_eq_true,
      if_false, digitsInBase?_toDigits]
    exact congrArg some hvalue

/-! ### Floats -/

section Decimal

variable {d : Decimal}

theorem isNumberChar_of_mem_digitText (h : c ∈ d.digitText) : isNumberChar c = true :=
  isNumberChar_of_mem_toDigits h

theorem isNumberChar_of_mem_zeros {n : Nat} (h : c ∈ List.replicate n '0') :
    isNumberChar c = true := by
  rw [(List.mem_replicate.mp h).2]
  rfl

theorem isNumberChar_of_mem_positional (h : c ∈ d.positional) : isNumberChar c = true := by
  unfold Decimal.positional at h
  simp only at h
  split at h
  · exact (List.mem_append.mp h).elim isNumberChar_of_mem_digitText isNumberChar_of_mem_zeros
  split at h
  · rcases List.mem_append.mp h with h | h
    · exact isNumberChar_of_mem_digitText (List.mem_of_mem_take h)
    rcases List.mem_cons.mp h with rfl | h
    · rfl
    · exact isNumberChar_of_mem_digitText (List.mem_of_mem_drop h)
  · rcases List.mem_cons.mp h with rfl | h
    · rfl
    rcases List.mem_cons.mp h with rfl | h
    · rfl
    · exact (List.mem_append.mp h).elim isNumberChar_of_mem_zeros isNumberChar_of_mem_digitText

theorem isNumberChar_of_mem_scientific (h : c ∈ d.scientific .bare) : isNumberChar c = true := by
  unfold Decimal.scientific at h
  rcases List.mem_append.mp h with h | h
  · rcases List.mem_append.mp h with h | h
    · exact isNumberChar_of_mem_digitText (List.mem_of_mem_take h)
    split at h
    · cases h
    rcases List.mem_cons.mp h with rfl | h
    · rfl
    · exact isNumberChar_of_mem_digitText (List.mem_of_mem_drop h)
  · rcases List.mem_cons.mp h with rfl | h
    · rfl
    · exact isNumberChar_toString _ c (by simpa using h)

theorem isNumberChar_of_mem_compact (h : c ∈ d.compact .bare) : isNumberChar c = true := by
  unfold Decimal.compact at h
  rcases List.mem_append.mp h with h | h
  · unfold Decimal.signText at h
    split at h
    · rw [List.mem_singleton.mp h]
      rfl
    · cases h
  split at h
  · exact List.all_eq_true.mp (by decide : ['0', '.', '0'].all isNumberChar = true) c h
  split at h
  · rcases List.mem_append.mp h with h | h
    · exact isNumberChar_of_mem_positional h
    split at h
    · exact List.all_eq_true.mp (by decide : ['.', '0'].all isNumberChar = true) c h
    · cases h
  · exact isNumberChar_of_mem_scientific h

end Decimal

/-- The text of a float consists of such characters, and has a point or an exponent. -/
theorem floatText_spec (x : Float) :
    (∀ c ∈ floatText x, isNumberChar c = true) ∧ ('.' ∈ floatText x ∨ 'e' ∈ floatText x) := by
  unfold floatText
  split
  · exact ⟨fun c hc => isNumberChar_of_mem_compact hc, Decimal.mem_compact .bare _⟩
  split
  · exact ⟨List.all_eq_true.mp (by decide), by decide⟩
  split
  · exact ⟨List.all_eq_true.mp (by decide), by decide⟩
  · exact ⟨List.all_eq_true.mp (by decide), by decide⟩

theorem isPlain_floatText (x : Float) : IsPlain (floatText x) := by
  obtain ⟨hchars, hmark⟩ := floatText_spec x
  refine isPlain_of_isNumberChar ?_ ?_ hchars
  · rcases hmark with hmark | hmark
    · exact List.ne_nil_of_mem hmark
    · exact List.ne_nil_of_mem hmark
  · intro hdash
    rw [hdash] at hmark
    exact absurd hmark (by decide)

/-- Digits of a base are no number if one of them is none. -/
theorem digitsInBase?_eq_none {base : Nat} (hd : d ∈ cs) (h : ∀ v ∈ hexValue? d, base ≤ v) :
    digitsInBase? base cs = none := by
  -- the fold fails at `d`, if not before
  have hfold : ∀ {cs : List Char} (_ : d ∈ cs) (acc : Nat),
      cs.foldlM (fun n d =>
        (hexValue? d).bind fun v => if v < base then some (base * n + v) else none) acc = none := by
    intro cs hd
    induction cs with
    | nil => cases hd
    | cons c cs ih =>
      intro acc
      rw [List.foldlM_cons]
      cases hc : hexValue? c with
      | none => rfl
      | some v =>
        rcases List.mem_cons.mp hd with rfl | hd
        · simp [Nat.not_lt.mpr (h v hc)]
        · by_cases hv : v < base
          · simpa [hv] using ih hd _
          · simp [hv]
  rw [digitsInBase?, if_neg (List.ne_nil_of_mem hd)]
  exact hfold hd 0

theorem mem_dropSign (h : c ∈ cs) (hplus : c ≠ '+') (hminus : c ≠ '-') : c ∈ dropSign cs := by
  unfold dropSign
  split
  · exact (List.mem_cons.mp h).resolve_left hplus
  · exact (List.mem_cons.mp h).resolve_left hminus
  · exact h

/-- A text with a point or an exponent is not that of an integer. -/
theorem integerOfText?_eq_none (h : ∀ x ∈ cs, isNumberChar x = true)
    (hmark : '.' ∈ cs ∨ 'e' ∈ cs) : integerOfText? cs = none := by
  -- the point is no digit, and the letter is one of base sixteen only
  obtain ⟨x, hx, hplus, hminus, hvalue⟩ :
      ∃ x ∈ cs, x ≠ '+' ∧ x ≠ '-' ∧ ∀ v ∈ hexValue? x, 10 ≤ v := by
    rcases hmark with hmark | hmark
    · exact ⟨_, hmark, by decide⟩
    · exact ⟨_, hmark, by decide⟩
  unfold integerOfText?
  split
  · next ds =>
    -- behind a minus sign
    have hds : ∀ y ∈ ds, isNumberChar y = true := fun y hy => h y (List.mem_cons_of_mem _ hy)
    have hx := (List.mem_cons.mp hx).resolve_left hminus
    rw [basedNumber?_eq_none hds, digitsInBase?_eq_none hx hvalue]
    simp
  · -- behind a plus sign, or none
    have hds : ∀ y ∈ (if cs.head? = some '+' then cs.drop 1 else cs), isNumberChar y = true := by
      split
      · exact fun y hy => h y (List.mem_of_mem_drop hy)
      · exact h
    have hx : x ∈ (if cs.head? = some '+' then cs.drop 1 else cs) := by
      split
      · next hhead =>
        obtain ⟨ds, rfl⟩ := List.head?_eq_some_iff.mp hhead
        exact (List.mem_cons.mp hx).resolve_left hplus
      · exact hx
    simp only [basedNumber?_eq_none hds, digitsInBase?_eq_none hx hvalue]
    simp

/-- A word with a character that numbers do not have is not their text. -/
theorem not_contains_of_isNumberChar {words : List String}
    (hwords : words.all (fun w => !w.toList.all isNumberChar) = true)
    (h : ∀ x ∈ cs, isNumberChar x = true) : words.contains (String.ofList cs) = false := by
  rw [List.contains_eq_mem, decide_eq_false_iff_not]
  intro hmem
  have hword := List.all_eq_true.mp hwords _ hmem
  rw [String.toList_ofList, List.all_eq_true.mpr h] at hword
  cases hword

theorem isNullText_of_isNumberChar (h : ∀ x ∈ cs, isNumberChar x = true) :
    isNullText cs = false :=
  not_contains_of_isNumberChar (by decide) h

theorem boolOfText?_of_isNumberChar (h : ∀ x ∈ cs, isNumberChar x = true) :
    boolOfText? cs = none := by
  have htrue : ["true", "True", "TRUE"].contains (String.ofList cs) = false :=
    not_contains_of_isNumberChar (by decide) h
  have hfalse : ["false", "False", "FALSE"].contains (String.ofList cs) = false :=
    not_contains_of_isNumberChar (by decide) h
  rw [boolOfText?, htrue, hfalse]
  rfl

/-- An integer that fits into a word is read back. -/
theorem meaningOfText_toString {m : Int} (h : integerSize m = .word) :
    meaningOfText (toString m).toList = some (.integer m) := by
  have hchars := isNumberChar_toString m
  have hne : (toString m).toList ≠ [] := (isPlain_toString m).ne_nil
  rw [meaningOfText, boolOfText?_of_isNumberChar hchars, integerOfText?_toString]
  simp only [hne, isNullText_of_isNumberChar hchars, h, Bool.false_eq_true, or_self, if_false]

/-- A float is read back if its text comes to it. -/
theorem meaningOfText_floatText {x : Float} (h : floatOfText? (floatText x) = some x) :
    meaningOfText (floatText x) = some (.float x) := by
  obtain ⟨hchars, hmark⟩ := floatText_spec x
  have hne : floatText x ≠ [] := (isPlain_floatText x).ne_nil
  have hzeros : hasLeadingZeros (floatText x) = false := by
    -- the mark is left when the sign is gone, and it is no digit
    have hdigits : (dropSign (floatText x)).all Char.isDigit = false := by
      rw [List.all_eq_false]
      rcases hmark with hmark | hmark
      · exact ⟨_, mem_dropSign hmark (by decide) (by decide), by decide⟩
      · exact ⟨_, mem_dropSign hmark (by decide) (by decide), by decide⟩
    rw [hasLeadingZeros, hdigits, Bool.and_false]
  rw [meaningOfText, boolOfText?_of_isNumberChar hchars, integerOfText?_eq_none hchars hmark,
    meaningOfFloat]
  simp only [hne, isNullText_of_isNumberChar hchars, hzeros, h, Bool.false_eq_true, or_self,
    if_false]

end Yaml

end SheetGrammar
