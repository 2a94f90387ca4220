import Mathlib.Tactic.SplitIfs
import SheetGrammar.Address

/-!
# Addresses and the columns that they name

An address names a column in one of two ways, and each column up to the last one has addresses
of both kinds.  Letters are digits of bijective base 26; that their value is given up as soon as
it lies beyond the last column makes no difference, since it never falls again.

## Main definitions

* `lettersValue` — the position that letters name, however many there are.
* `NamesPosition`, `IsAddressOf` — the addresses of a column.

## Main results

* `lettersPosition?_eq` — the position of letters is found unless it is too large.
* `columnIndex_eq_ok_iff` — an address is read if and only if it is the address of a column.
-/

namespace SheetGrammar

/-! ### Letters -/

/-- The position that letters name, given that of the letters before them. -/
def lettersValueFrom (acc : Nat) (cs : List Char) : Nat :=
  cs.foldl (fun acc c => acc * 26 + letterValue c) acc

/-- The position that letters name, in bijective base 26. -/
def lettersValue (cs : List Char) : Nat := lettersValueFrom 0 cs

@[simp] theorem lettersValueFrom_nil (acc : Nat) : lettersValueFrom acc [] = acc := rfl

@[simp] theorem lettersValueFrom_cons (acc : Nat) (c : Char) (cs : List Char) :
    lettersValueFrom acc (c :: cs) = lettersValueFrom (acc * 26 + letterValue c) cs := rfl

theorem le_lettersValueFrom (acc : Nat) (cs : List Char) : acc ≤ lettersValueFrom acc cs := by
  induction cs generalizing acc with
  | nil => exact Nat.le_refl acc
  | cons c cs ih =>
    have hstep : acc ≤ acc * 26 + letterValue c := by omega
    exact Nat.le_trans hstep (ih _)

/-- The position of letters is found unless it lies beyond the last column. -/
theorem lettersPosition?_eq {acc : Nat} (h : acc ≤ maxColumns) (cs : List Char) :
    lettersPosition? acc cs =
      if lettersValueFrom acc cs ≤ maxColumns then some (lettersValueFrom acc cs) else none := by
  induction cs generalizing acc with
  | nil => rw [lettersPosition?, lettersValueFrom_nil, if_pos h]
  | cons c cs ih =>
    rw [lettersPosition?, lettersValueFrom_cons]
    by_cases hnext : maxColumns < acc * 26 + letterValue c
    · -- the value is given up here, and further letters only make it larger
      have hle := le_lettersValueFrom (acc * 26 + letterValue c) cs
      rw [if_pos hnext, if_neg (by omega)]
    · rw [if_neg hnext, ih (by omega)]

theorem toNat_le_of_isDigit {c : Char} (h : c.isDigit = true) : c.toNat ≤ 57 := by
  simp only [Char.isDigit, Bool.and_eq_true, decide_eq_true_eq, UInt32.le_iff_toNat_le] at h
  exact h.2

theorem le_toNat_of_isLetter {c : Char} (h : isLetter c = true) : 65 ≤ c.toNat := by
  rcases Bool.or_eq_true_iff.mp h with hupper | hlower
  · have hrange : 'A'.val ≤ c.val ∧ c.val ≤ 'Z'.val := of_decide_eq_true hupper
    exact UInt32.le_iff_toNat_le.mp hrange.1
  · have hrange := Bool.and_eq_true_iff.mp hlower
    have hle : 'a'.val ≤ c.val := of_decide_eq_true hrange.1
    exact Nat.le_trans (by decide) (UInt32.le_iff_toNat_le.mp hle)

/-- The digits stand before the letters, whatever their case. -/
theorem not_isDigit_of_isLetter {c : Char} (h : isLetter c = true) : c.isDigit = false := by
  cases hdigit : c.isDigit with
  | false => rfl
  | true =>
    have hle := toNat_le_of_isDigit hdigit
    have hge := le_toNat_of_isLetter h
    omega

/-! ### Addresses -/

/-- A text without blanks around it names a position, counted from 1, in decimal digits or in
letters. -/
inductive NamesPosition : List Char → Nat → Prop
  /-- Zeros in front of the other digits do not count. -/
  | digits {cs : List Char} (hne : cs ≠ []) (h : ∀ c ∈ cs, c.isDigit = true) :
      NamesPosition cs (digitsValue cs)
  /-- The case of the letters does not count. -/
  | letters {cs : List Char} (hne : cs ≠ []) (h : ∀ c ∈ cs, isLetter c = true) :
      NamesPosition cs (lettersValue cs)

/-- The text, without the blanks around it, names the column at an index counted from 0. -/
structure IsAddressOf (address : String) (index : Nat) : Prop where
  names : NamesPosition (trimBlanks address.toList) (index + 1)
  index_lt : index < maxColumns

theorem addressPosition?_eq_some_iff {cs : List Char} {n : Nat} (hn : n ≤ maxColumns) :
    addressPosition? cs = some n ↔ NamesPosition cs n := by
  unfold addressPosition?
  constructor
  · intro h
    split_ifs at h with hnil hdigits hletters
    · obtain rfl := Option.some.inj h
      exact .digits hnil (List.all_eq_true.mp hdigits)
    · rw [lettersPosition?_eq (Nat.zero_le _)] at h
      split_ifs at h with hle
      obtain rfl := Option.some.inj h
      exact .letters hnil (List.all_eq_true.mp hletters)
  · intro h
    cases h with
    | digits hne hdigits => rw [if_neg hne, if_pos (List.all_eq_true.mpr hdigits)]
    | letters hne hletters =>
      have hdigits : ¬ cs.all Char.isDigit = true := by
        obtain ⟨c, hc⟩ := List.exists_mem_of_ne_nil cs hne
        intro hall
        have hdigit := List.all_eq_true.mp hall c hc
        rw [not_isDigit_of_isLetter (hletters c hc)] at hdigit
        cases hdigit
      rw [if_neg hne, if_neg hdigits, if_pos (List.all_eq_true.mpr hletters),
        lettersPosition?_eq (Nat.zero_le _)]
      exact if_pos hn

/-- **An address is read if and only if it is the address of a column**, and the index of that
column is what is read. -/
theorem columnIndex_eq_ok_iff {address : String} {i : Nat} :
    columnIndex address = .ok i ↔ IsAddressOf address i := by
  unfold columnIndex
  constructor
  · intro h
    split at h
    · next position hposition =>
      split_ifs at h with hrange
      obtain rfl := Except.ok.inj h
      have hnames := (addressPosition?_eq_some_iff hrange.2).mp hposition
      have heq : position - 1 + 1 = position := by omega
      exact ⟨heq ▸ hnames, by omega⟩
    · cases h
  · rintro ⟨hnames, hlt⟩
    have hposition := (addressPosition?_eq_some_iff (by omega)).mpr hnames
    rw [hposition]
    exact if_pos ⟨by omega, by omega⟩

/-- An address is read if and only if it is the address of some column. -/
theorem CellRef.exists_parse_eq_ok_iff {address : String} :
    (∃ cell, CellRef.parse address = .ok cell) ↔ ∃ i, IsAddressOf address i := by
  simp only [← columnIndex_eq_ok_iff, CellRef.parse]
  cases columnIndex address with
  | error e => simp [Except.map]
  | ok i => simp [Except.map]

end SheetGrammar
