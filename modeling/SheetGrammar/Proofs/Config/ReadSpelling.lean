import SheetGrammar.Config.Read
import SheetGrammar.Proofs.Config.Spelling

/-!
# Spellings of read configurations

The forms of read configurations, with all names of their fields.  Whichever way a read
configuration is written, it means the same plan, or fails to mean one for the same reason.

## Main definitions

* `ConditionEntry.form`, `RowTypeEntry.form`, `ReadConfig.form` and others — the forms.
* `RowTypeEntry.Same`, `ReadSheetEntry.Same`, `ReadConfig.Same` — entries that only differ in the
  blanks around names.

## Main results

* `ReadConfig.governs_form` — the form of read configurations governs their reader.
* `ReadConfig.Same.build_eq` — the same configuration means the same plan.
-/

namespace SheetGrammar

open Structured (readText readList)

/-! ### Parts without names -/

namespace ConditionEntry

/-- The form of a condition on a sheet. -/
def form : Form :=
  .entry [⟨"name", ["pattern"], .fixed⟩, ⟨"low", [], .fixed⟩, ⟨"high", [], .fixed⟩]

theorem governs_form : form.Governs read Eq := by
  refine Form.governs_entry ⟨?_, by decide, by simp [Entry.commutes_slot]⟩ (fun _ => rfl) _ _
  refine .cons ?_ (.cons ?_ (.cons ?_ .nil))
  all_goals exact Form.governsField_slot_eq (Form.governs_fixed _)

end ConditionEntry

namespace CellConditionEntry

/-- The form of a condition on a cell. -/
def form : Form := .entry [⟨"col", [], .fixed⟩, ⟨"pattern", [], .fixed⟩]

theorem governs_form : form.Governs read Eq := by
  refine Form.governs_entry ⟨?_, by decide, by simp [Entry.commutes_slot]⟩ (fun _ => rfl) _ _
  refine .cons ?_ (.cons ?_ .nil)
  all_goals exact Form.governsField_slot_eq (Form.governs_fixed _)

end CellConditionEntry

namespace CellEntry

/-- The form of a cell to keep. -/
def form : Form :=
  .entry [⟨"col", [], .fixed⟩, ⟨"tag", [], .fixed⟩, ⟨"datatype", [], .fixed⟩]

theorem governs_form : form.Governs read Eq := by
  refine Form.governs_entry ⟨?_, by decide, by simp [Entry.commutes_slot]⟩ (fun _ => rfl) _ _
  refine .cons ?_ (.cons ?_ (.cons ?_ .nil))
  all_goals exact Form.governsField_slot_eq (Form.governs_fixed _)

end CellEntry

/-! ### Types of rows -/

namespace RowTypeEntry

/-- The form of a type of rows. -/
def form : Form :=
  .entry
    [⟨"name", [], .name⟩, ⟨"when", [], CellConditionEntry.form.list⟩,
     ⟨"cells", ["cell"], CellEntry.form.list⟩, ⟨"children", [], .names⟩]

/-- Types of rows that only differ in the blanks around the name. -/
structure Same (t t' : RowTypeEntry) : Prop where
  name : trim t.name = trim t'.name
  conditions : t.conditions = t'.conditions
  cells : t.cells = t'.cells
  children : t.children = t'.children

theorem same_refl (t : RowTypeEntry) : t.Same t := ⟨rfl, rfl, rfl, rfl⟩

theorem governs_form : form.Governs read Same := by
  refine Form.governs_entry ⟨?_, by decide, by simp [Entry.commutes_slot]⟩ same_refl _ _
  refine .cons ?name (.cons ?conditions (.cons ?cells (.cons ?children .nil)))
  case name =>
    exact Form.governsField_slot Form.governs_name fun t t' b b' h hb => { h with name := hb }
  case conditions =>
    exact Form.governsField_slot (Form.governs_list_eq CellConditionEntry.governs_form)
      fun t t' b b' h hb => { h with conditions := hb }
  case cells =>
    exact Form.governsField_slot (Form.governs_list_eq CellEntry.governs_form)
      fun t t' b b' h hb => { h with cells := hb }
  case children =>
    exact Form.governsField_slot Form.governs_names fun t t' b b' h hb => { h with children := hb }

/-- The same type of rows is meant. -/
theorem Same.compile_eq {t t' : RowTypeEntry} (h : t.Same t') : t'.compile = t.compile := by
  unfold compile
  rw [h.name, h.conditions, h.cells, h.children]

end RowTypeEntry

/-! ### Sheets -/

namespace ReadSheetEntry

/-- The form of a sheet entry. -/
def form : Form :=
  .entry [⟨"when", [], ConditionEntry.form.list⟩, ⟨"row", ["entry"], .name⟩]

/-- Sheet entries that only differ in the blanks around the name of the entry type. -/
structure Same (s s' : ReadSheetEntry) : Prop where
  conditions : s.conditions = s'.conditions
  row : trim s.row = trim s'.row

theorem same_refl (s : ReadSheetEntry) : s.Same s := ⟨rfl, rfl⟩

theorem governs_form : form.Governs read Same := by
  refine Form.governs_entry ⟨?_, by decide, by simp [Entry.commutes_slot]⟩ same_refl _ _
  refine .cons ?conditions (.cons ?row .nil)
  case conditions =>
    exact Form.governsField_slot (Form.governs_list_eq ConditionEntry.governs_form)
      fun s s' b b' h hb => { h with conditions := hb }
  case row =>
    exact Form.governsField_slot Form.governs_name fun s s' b b' h hb => { h with row := hb }

/-- The same selector is meant. -/
theorem Same.compile_eq {s s' : ReadSheetEntry} (h : s.Same s') (g : Grammar) :
    s'.compile g = s.compile g := by
  unfold compile
  rw [h.row, h.conditions]

end ReadSheetEntry

/-! ### Configurations -/

namespace ReadConfig

/-- The form of a read configuration. -/
def form : Form :=
  .entry
    [⟨"unmatched_sheets", [], .fixed⟩, ⟨"sheets", ["sheet"], ReadSheetEntry.form.list⟩,
     ⟨"rows", ["row"], RowTypeEntry.form.list⟩]

/-- Configurations that only differ in the blanks around names. -/
structure Same (c c' : ReadConfig) : Prop where
  unmatchedSheets : c.unmatchedSheets = c'.unmatchedSheets
  sheets : List.Forall₂ ReadSheetEntry.Same c.sheets c'.sheets
  rows : List.Forall₂ RowTypeEntry.Same c.rows c'.rows

theorem same_refl (c : ReadConfig) : c.Same c :=
  ⟨rfl, List.forall₂_same.mpr fun s _ => s.same_refl, List.forall₂_same.mpr fun t _ => t.same_refl⟩

theorem governs_form : form.Governs read Same := by
  refine Form.governs_entry ⟨?_, by decide, by simp [Entry.commutes_slot]⟩ same_refl _ _
  refine .cons ?unmatched (.cons ?sheets (.cons ?rows .nil))
  case unmatched =>
    exact Form.governsField_slot (Form.governs_fixed _)
      fun c c' b b' h hb => { h with unmatchedSheets := hb }
  case sheets =>
    exact Form.governsField_slot (Form.governs_list ReadSheetEntry.governs_form)
      fun c c' b b' h hb => { h with sheets := hb }
  case rows =>
    exact Form.governsField_slot (Form.governs_list RowTypeEntry.governs_form)
      fun c c' b b' h hb => { h with rows := hb }

/-- **The same plan is meant**, or none for the same reason. -/
theorem Same.build_eq {c c' : ReadConfig} (h : c.Same c') : c'.build = c.build := by
  have hgrammar : c'.grammar = c.grammar := by
    unfold grammar
    rw [h.rows.mapM_congr RowTypeEntry.Same.compile_eq]
  have hselectors : ∀ g, c'.sheets.mapM (ReadSheetEntry.compile g)
      = c.sheets.mapM (ReadSheetEntry.compile g) :=
    fun g => h.sheets.mapM_congr fun hs => hs.compile_eq g
  have hempty : c'.sheets = [] ↔ c.sheets = [] := by
    rw [← List.length_eq_zero_iff, ← List.length_eq_zero_iff, h.sheets.length_eq]
  unfold build
  rw [hgrammar]
  simp only [hselectors, hempty, h.unmatchedSheets]

end ReadConfig

end SheetGrammar
