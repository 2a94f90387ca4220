import Mathlib.Data.List.Induction
import SheetGrammar.Proofs.Address
import SheetGrammar.Proofs.Text.Blank

/-!
# Letters as numerals

Letters are the digits of a numeration without zero, so that each number has exactly one numeral, as
far as case does not matter: the last letter stands for the remainder, counted from 1.  So each
column has exactly one address in capital letters.

## Main definitions

* `capitals` — the numeral of a number in capital letters.
* `lettersPositionWithin` — reading letters with an accumulator of limited room.

## Main results

* `lettersValue_capitals`, `capitals_lettersValue` — numbers and their numerals.
* `lettersPositionWithin_eq` — the accumulator needs little room, however many letters there are.
* `columnIndex_exact` — exactly the addresses of columns are read, and what they are.
-/

namespace SheetGrammar

/-! ### One letter -/

theorem toNat_lt_of_isLetter {c : Char} (h : isLetter c = true) : c.toNat < 123 := by
  rcases Bool.or_eq_true_iff.mp h with hupper | hlower
  · have hrange : 'A'.val ≤ c.val ∧ c.val ≤ 'Z'.val := of_decide_eq_true hupper
    exact Nat.lt_of_le_of_lt (UInt32.le_iff_toNat_le.mp hrange.2) (by decide)
  · have hrange := Bool.and_eq_true_iff.mp hlower
    have hle : c.val ≤ 'z'.val := of_decide_eq_true hrange.2
    exact Nat.lt_of_le_of_lt (UInt32.le_iff_toNat_le.mp hle) (by decide)

/-- What holds of the few letters that there are holds of each of them. -/
theorem forall_isLetter {P : Char → Prop}
    (h : ∀ n < 123, isLetter (Char.ofNat n) = true → P (Char.ofNat n)) {c : Char}
    (hc : isLetter c = true) : P c := by
  have hletter := h c.toNat (toNat_lt_of_isLetter hc)
  rw [Char.ofNat_toNat] at hletter
  exact hletter hc

/-- The capital letter behind some others in the alphabet. -/
def capital (before : Nat) : Char := Char.ofNat ('A'.toNat + before)

theorem letterValue_pos {c : Char} (h : isLetter c = true) : 1 ≤ letterValue c :=
  forall_isLetter (P := fun c => 1 ≤ letterValue c) (by decide +kernel) h

theorem letterValue_le {c : Char} (h : isLetter c = true) : letterValue c ≤ 26 :=
  forall_isLetter (P := fun c => letterValue c ≤ 26) (by decide +kernel) h

/-- The value of a letter tells the letter, but for its case. -/
theorem capital_letterValue {c : Char} (h : isLetter c = true) :
    capital (letterValue c - 1) = c.toUpper :=
  forall_isLetter (P := fun c => capital (letterValue c - 1) = c.toUpper) (by decide +kernel) h

theorem isBlank_of_isLetter {c : Char} (h : isLetter c = true) : isBlank c = false :=
  forall_isLetter (P := fun c => isBlank c = false) (by decide +kernel) h

theorem toUpper_of_isUpper {c : Char} (h : c.isUpper = true) : c.toUpper = c :=
  forall_isLetter (P := fun c => c.isUpper = true → c.toUpper = c) (by decide +kernel)
    (Bool.or_eq_true_iff.mpr (.inl h)) h

theorem isUpper_capital : ∀ d < 26, (capital d).isUpper = true := by decide

theorem letterValue_capital : ∀ d < 26, letterValue (capital d) = d + 1 := by decide

/-! ### Numerals -/

@[simp] theorem lettersValue_nil : lettersValue [] = 0 := rfl

@[simp] theorem lettersValue_concat (cs : List Char) (c : Char) :
    lettersValue (cs ++ [c]) = lettersValue cs * 26 + letterValue c := by
  rw [lettersValue, lettersValueFrom, List.foldl_append]
  rfl

/-- The numeral of a number in capital letters. -/
def capitals : Nat → List Char
  | 0 => []
  | n + 1 => capitals (n / 26) ++ [capital (n % 26)]
termination_by n => n
decreasing_by omega

@[simp] theorem capitals_zero : capitals 0 = [] := by rw [capitals]

theorem capitals_succ (n : Nat) : capitals (n + 1) = capitals (n / 26) ++ [capital (n % 26)] := by
  rw [capitals]

theorem isUpper_of_mem_capitals (n : Nat) : ∀ c ∈ capitals n, c.isUpper = true := by
  induction n using capitals.induct with
  | case1 => simp
  | case2 n ih =>
    rw [capitals_succ, List.forall_mem_append]
    exact ⟨ih, List.forall_mem_singleton.mpr (isUpper_capital _ (Nat.mod_lt n (by decide)))⟩

/-- Each number has a numeral. -/
theorem lettersValue_capitals (n : Nat) : lettersValue (capitals n) = n := by
  induction n using capitals.induct with
  | case1 => rw [capitals_zero, lettersValue_nil]
  | case2 n ih =>
    rw [capitals_succ, lettersValue_concat, ih, letterValue_capital _ (Nat.mod_lt n (by decide))]
    omega

/-- Each number has only one numeral, as far as case does not matter. -/
theorem capitals_lettersValue {cs : List Char} (h : ∀ c ∈ cs, isLetter c = true) :
    capitals (lettersValue cs) = cs.map Char.toUpper := by
  -- the last letter first, since it is what is left by the others
  induction cs using List.reverseRecOn with
  | nil => rw [lettersValue_nil, capitals_zero, List.map_nil]
  | append_singleton cs c ih =>
    obtain ⟨hcs, hlast⟩ := List.forall_mem_append.mp h
    have hc : isLetter c = true := hlast c List.mem_cons_self
    have hpos := letterValue_pos hc
    have hle := letterValue_le hc
    obtain ⟨d, hd⟩ : ∃ d, letterValue c = d + 1 := ⟨letterValue c - 1, by omega⟩
    have hvalue : lettersValue (cs ++ [c]) = (lettersValue cs * 26 + d) + 1 := by
      rw [lettersValue_concat, hd, Nat.add_assoc]
    have hquotient : (lettersValue cs * 26 + d) / 26 = lettersValue cs := by omega
    have hremainder : (lettersValue cs * 26 + d) % 26 = letterValue c - 1 := by omega
    rw [hvalue, capitals_succ, hquotient, hremainder, ih hcs, capital_letterValue hc,
      List.map_append, List.map_singleton]

/-! ### The accumulator -/

/-- Reads letters like `lettersPosition?`, with an accumulator that holds no number beyond a limit;
`none` if there is such a number on the way. -/
def lettersPositionWithin (limit : Nat) : Nat → List Char → Option (Option Nat)
  | acc, [] => some (some acc)
  | acc, c :: cs =>
    let next := acc * 26 + letterValue c
    if limit < next then none
    else if maxColumns < next then some none
    else lettersPositionWithin limit next cs

/-- There is no number beyond one letter behind the last column, however many letters there are. -/
theorem lettersPositionWithin_eq {limit acc : Nat} (hlimit : maxColumns * 26 + 26 ≤ limit)
    (hacc : acc ≤ maxColumns) {cs : List Char} (h : ∀ c ∈ cs, isLetter c = true) :
    lettersPositionWithin limit acc cs = some (lettersPosition? acc cs) := by
  induction cs generalizing acc with
  | nil => rfl
  | cons c cs ih =>
    obtain ⟨hc, hcs⟩ := List.forall_mem_cons.mp h
    have hle := letterValue_le hc
    -- the letters before it have not been given up, so there is room for one more
    have hroom : ¬ limit < acc * 26 + letterValue c := by omega
    rw [lettersPositionWithin, lettersPosition?, if_neg hroom]
    by_cases hnext : maxColumns < acc * 26 + letterValue c
    · rw [if_pos hnext, if_pos hnext]
    · rw [if_neg hnext, if_neg hnext]
      exact ih (by omega) hcs

/-! ### Addresses -/

theorem trimBlanks_eq_self {cs : List Char} (h : ∀ c ∈ cs, isBlank c = false) :
    trimBlanks cs = cs :=
  Trimmed.trimBlanks_eq
    ⟨fun c hc => h c (List.mem_of_mem_head? hc), fun c hc => h c (List.mem_of_mem_getLast? hc)⟩

/-- Letters name their value; they are not read as digits. -/
theorem NamesPosition.lettersValue_eq {cs : List Char} {n : Nat} (h : NamesPosition cs n)
    (hcs : ∀ c ∈ cs, isLetter c = true) : lettersValue cs = n := by
  cases h with
  | digits hne hdigits =>
    obtain ⟨c, hc⟩ := List.exists_mem_of_ne_nil cs hne
    have hnot := not_isDigit_of_isLetter (hcs c hc)
    rw [hdigits c hc] at hnot
    cases hnot
  | letters hne hletters => rfl

/-- The text without the blanks around it is letters alone. -/
def IsLetters (address : String) : Prop := ∀ c ∈ trimBlanks address.toList, isLetter c = true

/-- Letters that are the address of a column are its numeral, but for case. -/
theorem IsAddressOf.capitals_eq {address : String} {i : Nat} (h : IsAddressOf address i)
    (hletters : IsLetters address) :
    (trimBlanks address.toList).map Char.toUpper = capitals (i + 1) := by
  rw [← capitals_lettersValue hletters, h.names.lettersValue_eq hletters]

/-- All characters are capital letters. -/
def IsCapitals (address : String) : Prop := ∀ c ∈ address.toList, c.isUpper = true

theorem IsCapitals.trimBlanks_eq {address : String} (h : IsCapitals address) :
    trimBlanks address.toList = address.toList :=
  trimBlanks_eq_self fun c hc => isBlank_of_isLetter (Bool.or_eq_true_iff.mpr (.inl (h c hc)))

theorem IsCapitals.isLetters {address : String} (h : IsCapitals address) : IsLetters address := by
  rw [IsLetters, h.trimBlanks_eq]
  exact fun c hc => Bool.or_eq_true_iff.mpr (.inl (h c hc))

/-- Capital letters that are the address of a column are its numeral. -/
theorem IsAddressOf.eq_capitals {address : String} {i : Nat} (h : IsAddressOf address i)
    (hcapitals : IsCapitals address) : address = String.ofList (capitals (i + 1)) := by
  have hupper : address.toList.map Char.toUpper = address.toList :=
    (List.map_congr_left fun c hc => toUpper_of_isUpper (hcapitals c hc)).trans (List.map_id _)
  rw [← h.capitals_eq hcapitals.isLetters, hcapitals.trimBlanks_eq, hupper, String.ofList_toList]

theorem isCapitals_capitals (n : Nat) : IsCapitals (String.ofList (capitals n)) := by
  rw [IsCapitals, String.toList_ofList]
  exact isUpper_of_mem_capitals n

/-- The numeral of a column is an address of it. -/
theorem isAddressOf_capitals {i : Nat} (h : i < maxColumns) :
    IsAddressOf (String.ofList (capitals (i + 1))) i := by
  have hcapitals := isCapitals_capitals (i + 1)
  have hletters := hcapitals.isLetters
  refine ⟨?_, h⟩
  rw [IsLetters] at hletters
  rw [hcapitals.trimBlanks_eq, String.toList_ofList] at hletters ⊢
  have hne : capitals (i + 1) ≠ [] := by simp [capitals_succ]
  have hnames := NamesPosition.letters hne hletters
  rwa [lettersValue_capitals] at hnames

/-- A failure shows the address as it was given. -/
theorem eq_invalidAddress_of_columnIndex {address : String} {e : Error}
    (h : columnIndex address = .error e) : e = .invalidAddress address := by
  unfold columnIndex at h
  split at h
  · split_ifs at h
    exact (Except.error.inj h).symm
  · exact (Except.error.inj h).symm

/-- **Exactly the addresses of columns are read, and what they are.** A text is read as the column
with an index if and only if, without the blanks around it, it is digits whose decimal value, or
letters whose value in bijective base 26, is the index plus one, which is not beyond the last
column; any other text is refused and shown as it was given.  Two texts of letters that are read as
one column are the same but for case and blanks around them, and each column has exactly one address
in capital letters.  Reading letters, however many, needs no number beyond one letter behind the last
column. -/
theorem columnIndex_exact :
    (∀ address i, columnIndex address = .ok i ↔ IsAddressOf address i) ∧
    (∀ address, (∀ i, ¬ IsAddressOf address i) →
      columnIndex address = .error (.invalidAddress address)) ∧
    (∀ s t i, IsLetters s → IsLetters t → columnIndex s = .ok i → columnIndex t = .ok i →
      (trimBlanks s.toList).map Char.toUpper = (trimBlanks t.toList).map Char.toUpper) ∧
    (∀ i < maxColumns, ∃! address, IsCapitals address ∧ columnIndex address = .ok i) ∧
    (∀ limit cs, maxColumns * 26 + 26 ≤ limit → (∀ c ∈ cs, isLetter c = true) →
      lettersPositionWithin limit 0 cs = some (lettersPosition? 0 cs)) := by
  refine ⟨fun address i => columnIndex_eq_ok_iff, ?_, ?_, ?_, ?_⟩
  · intro address hnone
    cases hindex : columnIndex address with
    | ok i => exact absurd (columnIndex_eq_ok_iff.mp hindex) (hnone i)
    | error e => rw [eq_invalidAddress_of_columnIndex hindex]
  · intro s t i hs ht hsi hti
    rw [(columnIndex_eq_ok_iff.mp hsi).capitals_eq hs, (columnIndex_eq_ok_iff.mp hti).capitals_eq ht]
  · intro i hi
    refine ⟨String.ofList (capitals (i + 1)), ⟨isCapitals_capitals (i + 1), ?_⟩, ?_⟩
    · exact columnIndex_eq_ok_iff.mpr (isAddressOf_capitals hi)
    · rintro address ⟨hcapitals, hindex⟩
      exact (columnIndex_eq_ok_iff.mp hindex).eq_capitals hcapitals
  · exact fun limit cs hlimit hcs => lettersPositionWithin_eq hlimit (Nat.zero_le _) hcs

/-- The last column in both cases, and letters behind it, which are given up early. -/
theorem columnIndex_exact_last :
    columnIndex " xfd " = .ok 16383 ∧ columnIndex "XFD" = .ok 16383 ∧
      (trimBlanks " xfd ".toList).map Char.toUpper = (trimBlanks "XFD".toList).map Char.toUpper ∧
      (∃! address, IsCapitals address ∧ columnIndex address = .ok 16383) ∧
      lettersPositionWithin (16384 * 26 + 26) 0 "XFDZZZZZZZZZZZZZ".toList = some none := by
  have hlower : columnIndex " xfd " = .ok 16383 := by decide +kernel
  have hupper : columnIndex "XFD" = .ok 16383 := by decide +kernel
  obtain ⟨-, -, hcase, hunique, hroom⟩ := columnIndex_exact
  refine ⟨hlower, hupper, ?_, hunique 16383 (by decide), ?_⟩
  · exact hcase " xfd " "XFD" 16383 (List.all_eq_true.mp (by decide +kernel))
      (List.all_eq_true.mp (by decide +kernel)) hlower hupper
  · rw [hroom _ _ (by decide) (List.all_eq_true.mp (by decide +kernel))]
    decide +kernel

end SheetGrammar
