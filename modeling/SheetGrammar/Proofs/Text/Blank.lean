import Mathlib.Data.List.TakeWhile
import SheetGrammar.Text.Blank

/-!
# Texts without blanks at their ends

Cutting off the blanks at the ends of a text leaves a text without any there, and takes nothing
else away.

## Main definitions

* `Trimmed` — a text neither begins nor ends with a blank.

## Main results

* `trimmed_trimBlanks`, `Trimmed.trimBlanks_eq` — what is left has no blanks at its ends, and such
  a text is left as it is.
* `trimBlanks_append` — blanks that are put around a text make no difference.
* `dropBlanksEnd_append_of_ne_nil` — cutting stops at the last character that is not blank.
-/

namespace SheetGrammar

variable {cs ds : List Char}

/-- The characters behind the space in the first half of the table are not blank. -/
theorem isBlank_eq_false {c : Char} (hlow : 0x20 < c.toNat) (hhigh : c.toNat < 0x80) :
    isBlank c = false := by
  simp only [isBlank, Bool.or_eq_false_iff, Bool.and_eq_false_iff, decide_eq_false_iff_not,
    beq_eq_false_iff_ne]
  omega

/-! ### One end -/

theorem dropBlanks_eq_nil {cs : List Char} (h : ∀ c ∈ cs, isBlank c) : dropBlanks cs = [] :=
  List.dropWhile_eq_nil_iff.mpr h

theorem dropBlanksEnd_append {r : List Char} (h : ∀ c ∈ r, isBlank c) (cs : List Char) :
    dropBlanksEnd (cs ++ r) = dropBlanksEnd cs := by
  have hreverse : ∀ c ∈ r.reverse, isBlank c := fun c hc => h c (List.mem_reverse.mp hc)
  rw [dropBlanksEnd, List.reverse_append, List.dropWhile_append_of_pos hreverse, dropBlanksEnd]

theorem dropBlanksEnd_eq (cs : List Char) : dropBlanksEnd cs = (dropBlanks cs.reverse).reverse :=
  rfl

theorem dropBlanksEnd_eq_nil_iff {cs : List Char} :
    dropBlanksEnd cs = [] ↔ ∀ c ∈ cs, isBlank c := by
  rw [dropBlanksEnd, List.reverse_eq_nil_iff, List.dropWhile_eq_nil_iff]
  simp only [List.mem_reverse]

/-- Behind the blanks at the start stands no blank. -/
theorem head_dropBlanks (cs : List Char) : ∀ c ∈ (dropBlanks cs).head?, isBlank c = false := by
  intro c hc
  have hnot := List.head?_dropWhile_not isBlank cs
  rw [← dropBlanks, Option.mem_def.mp hc] at hnot
  exact hnot

theorem dropBlanks_of_head (h : ∀ c ∈ cs.head?, isBlank c = false) : dropBlanks cs = cs := by
  cases cs with
  | nil => rfl
  | cons c cs =>
    have hc : ¬ isBlank c = true := by simp [h c rfl]
    exact List.dropWhile_cons_of_neg hc

/-- Before the blanks at the end stands no blank. -/
theorem getLast_dropBlanksEnd (cs : List Char) :
    ∀ c ∈ (dropBlanksEnd cs).getLast?, isBlank c = false := by
  rw [dropBlanksEnd_eq, List.getLast?_reverse]
  exact head_dropBlanks cs.reverse

theorem dropBlanksEnd_of_getLast (h : ∀ c ∈ cs.getLast?, isBlank c = false) :
    dropBlanksEnd cs = cs := by
  rw [← List.head?_reverse] at h
  rw [dropBlanksEnd_eq, dropBlanks_of_head h, List.reverse_reverse]

theorem isPrefix_dropBlanksEnd (cs : List Char) : dropBlanksEnd cs <+: cs := by
  rw [← List.reverse_suffix, dropBlanksEnd, List.reverse_reverse]
  exact List.dropWhile_suffix isBlank

/-- Of two texts, the second is cut unless nothing of it is left. -/
theorem dropBlanksEnd_append_of_ne_nil (h : dropBlanksEnd ds ≠ []) (cs : List Char) :
    dropBlanksEnd (cs ++ ds) = cs ++ dropBlanksEnd ds := by
  have hne : ¬ (ds.reverse.dropWhile isBlank).isEmpty = true := by
    rw [List.isEmpty_iff]
    exact fun hnil => h (List.reverse_eq_nil_iff.mpr hnil)
  rw [dropBlanksEnd, List.reverse_append, List.dropWhile_append, if_neg hne, List.reverse_append,
    List.reverse_reverse, dropBlanksEnd]

/-! ### Both ends -/

/-- Blanks at the ends are cut off, also if there is nothing between them. -/
theorem trimBlanks_append {l r : List Char} (hl : ∀ c ∈ l, isBlank c) (hr : ∀ c ∈ r, isBlank c)
    (cs : List Char) : trimBlanks (l ++ (cs ++ r)) = trimBlanks cs := by
  have hfront : dropBlanks (l ++ (cs ++ r)) = dropBlanks (cs ++ r) :=
    List.dropWhile_append_of_pos hl
  rw [trimBlanks, hfront, trimBlanks]
  by_cases h : dropBlanks cs = []
  · have hblank : ∀ c ∈ cs ++ r, isBlank c := by
      intro c hc
      rcases List.mem_append.mp hc with hc | hc
      · exact List.dropWhile_eq_nil_iff.mp h c hc
      · exact hr c hc
    rw [dropBlanks_eq_nil hblank, h]
  · have hkept : dropBlanks (cs ++ r) = dropBlanks cs ++ r := by
      rw [dropBlanks, List.dropWhile_append, if_neg]
      · rfl
      · exact fun hempty => h (List.isEmpty_iff.mp hempty)
    rw [hkept, dropBlanksEnd_append hr]

/-- A text that neither begins nor ends with a blank. -/
structure Trimmed (cs : List Char) : Prop where
  head : ∀ c ∈ cs.head?, isBlank c = false
  last : ∀ c ∈ cs.getLast?, isBlank c = false

theorem Trimmed.trimBlanks_eq (h : Trimmed cs) : trimBlanks cs = cs := by
  rw [trimBlanks, dropBlanks_of_head h.head, dropBlanksEnd_of_getLast h.last]

theorem trimmed_trimBlanks (cs : List Char) : Trimmed (trimBlanks cs) := by
  refine ⟨?_, getLast_dropBlanksEnd _⟩
  intro c hc
  -- what is cut off at the end leaves the first character, unless it leaves nothing
  obtain ⟨rest, hrest⟩ := isPrefix_dropBlanksEnd (dropBlanks cs)
  have hfirst : (dropBlanksEnd (dropBlanks cs) ++ rest).head? = some c := by
    rw [List.head?_append, ← trimBlanks, Option.mem_def.mp hc, Option.some_or]
  rw [hrest] at hfirst
  exact head_dropBlanks cs c hfirst

theorem mem_of_mem_trimBlanks {c : Char} (h : c ∈ trimBlanks cs) : c ∈ cs :=
  (List.dropWhile_suffix isBlank).subset ((isPrefix_dropBlanksEnd _).subset h)

end SheetGrammar
