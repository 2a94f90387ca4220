import SheetGrammar.NameList
import SheetGrammar.Proofs.Text.Blank

/-!
# Names between blanks

Blanks around a name do not count, and a text with commas has the names between them.

## Main definitions

* `Spaced` — a name with blanks around it.

## Main results

* `Spaced.trim_eq` — blanks around a name are cut off.
* `NameList.parse_join` — the names in a text that joins some names.
-/

namespace SheetGrammar

/-- A text is a name with blanks around it. -/
def Spaced (name text : String) : Prop :=
  ∃ l r, (∀ c ∈ l, isBlank c) ∧ (∀ c ∈ r, isBlank c) ∧ text.toList = l ++ (name.toList ++ r)

/-- Blanks around a name are cut off with those that it has itself. -/
theorem Spaced.trim_eq {name text : String} (h : Spaced name text) : trim text = trim name := by
  obtain ⟨l, r, hl, hr, htext⟩ := h
  rw [trim, htext, trimBlanks_append hl hr, trim]

theorem spaced_refl (name : String) : Spaced name name := ⟨[], [], by simp, by simp, by simp⟩

theorem Spaced.comma_not_mem {name text : String} (h : Spaced name text) (hname : ',' ∉ name.toList) :
    ',' ∉ text.toList := by
  obtain ⟨l, r, hl, hr, htext⟩ := h
  have hcomma : isBlank ',' = false := by decide
  have hnotl : ',' ∉ l := by
    intro hmem
    exact Bool.false_ne_true (hcomma.symm.trans (hl ',' hmem))
  have hnotr : ',' ∉ r := by
    intro hmem
    exact Bool.false_ne_true (hcomma.symm.trans (hr ',' hmem))
  rw [htext]
  simp [hnotl, hname, hnotr]

namespace NameList

/-- The names in a text that joins some names: each of them without the blanks around it,
unless nothing is left of it. -/
theorem parse_join {names : List String} (h : ∀ n ∈ names, ',' ∉ n.toList) :
    parse (join names) = (names.map trim).filter (· ≠ "") := by
  have htext : (join names).toList = List.intercalate [','] (names.map String.toList) := by
    rw [join, String.toList_intercalate]
    rfl
  cases names with
  | nil => decide
  | cons name names =>
    have hcommas : ∀ cs ∈ (name :: names).map String.toList, ',' ∉ cs := by
      intro cs hcs
      obtain ⟨n, hn, rfl⟩ := List.mem_map.mp hcs
      exact h n hn
    rw [parse, htext, List.splitOn_intercalate ',' hcommas (by simp), List.map_map]
    rfl

end NameList

end SheetGrammar
