import SheetGrammar.Proofs.Config.Expression
import SheetGrammar.Proofs.Config.ReadSpelling
import SheetGrammar.Proofs.Evaluator

/-!
# Spellings of derive configurations

The forms of derive configurations, with all names of their fields.  Whichever way a derive
configuration is written, it means the same rules with the same parameters, so that it builds
the same plan or fails for the same reason, unless a kind of evaluators looks at the order of
keys inside its parameters.

## Main definitions

* `RuleEntry.form`, `DeriveConfig.form` and others — the forms.
* `RuleEntry.Same`, `DeriveConfig.Same` — entries that only differ in the blanks around names and
  in the order of keys inside parameters.
* `Registry.Uniform` — evaluators that do not depend on the order of keys inside parameters.

## Main results

* `DeriveConfig.governs_form` — the form of derive configurations governs their reader.
* `DeriveConfig.Same.build_eq` — the same configuration means the same plan.
-/

namespace SheetGrammar

open Structured (readText readList)
open Yaml (Node NamedAlike)

/-! ### Evaluators -/

namespace PatternExtract

variable {ps ps' : Parameters}

theorem patternText_congr (h : NamedAlike ps ps') (rule : String) :
    patternText rule ps' = patternText rule ps := by
  unfold patternText
  rcases h.lookup "pattern" with ⟨hps, hps'⟩ | ⟨y, z, hps, hps', halike⟩
  · rw [hps, hps']
  · rw [hps, hps']
    simp only [halike.text?_eq]

theorem groupNumber_congr (h : NamedAlike ps ps') (rule : String) :
    groupNumber rule ps' = groupNumber rule ps := by
  unfold groupNumber
  rcases h.lookup "group" with ⟨hps, hps'⟩ | ⟨y, z, hps, hps', halike⟩
  · rw [hps, hps']
  · rw [hps, hps']
    simp only [halike.natural?_eq]

/-- The order of keys inside parameters does not matter for cutting out a piece. -/
theorem ofParameters_congr (h : NamedAlike ps ps') (rule : String) :
    ofParameters rule ps' = ofParameters rule ps := by
  have hunknown : (ps'.find? fun p => !parameterNames.contains p.1).map Prod.fst
      = (ps.find? fun p => !parameterNames.contains p.1).map Prod.fst := by
    have hfind : ∀ qs : Parameters, (qs.find? fun p => !parameterNames.contains p.1).map Prod.fst
        = (qs.map Prod.fst).find? fun name => !parameterNames.contains name := by
      intro qs
      rw [List.find?_map]
      rfl
    rw [hfind, hfind, h.map_fst]
  unfold ofParameters
  rw [patternText_congr h, groupNumber_congr h]
  cases hps : ps.find? fun p => !parameterNames.contains p.1 with
  | none =>
    rw [hps, Option.map_none, Option.map_eq_none_iff] at hunknown
    rw [hunknown]
  | some p =>
    rw [hps, Option.map_some] at hunknown
    obtain ⟨p', hps', hname⟩ := Option.map_eq_some_iff.mp hunknown
    rw [hps']
    simp only [hname]

end PatternExtract

namespace Registry

/-- The evaluators do not depend on the order of keys inside their parameters. -/
def Uniform (r : Registry) : Prop :=
  ∀ {ps ps' : Parameters}, NamedAlike ps ps' → ∀ rule kind, r.bind rule kind ps' = r.bind rule kind ps

theorem uniform_builtins : builtins.Uniform := by
  intro ps ps' h rule kind
  rw [bind_builtins, bind_builtins, PatternExtract.ofParameters_congr h]

end Registry

/-! ### Parts without names -/

namespace ColumnEntry

/-- The form of an address and a tag. -/
def form : Form := .entry [⟨"col", [], .fixed⟩, ⟨"tag", [], .fixed⟩]

theorem governs_form : form.Governs read Eq := by
  refine Form.governs_entry ⟨?_, by decide, by simp [Entry.commutes_slot]⟩ (fun _ => rfl) _ _
  refine .cons ?_ (.cons ?_ .nil)
  all_goals exact Form.governsField_slot_eq (Form.governs_fixed _)

end ColumnEntry

namespace GuardEntry

/-- The form of a guard. -/
def form : Form := .entry [⟨"col", [], .fixed⟩, ⟨"tag", [], .fixed⟩, ⟨"pattern", [], .fixed⟩]

theorem governs_form : form.Governs read Eq := by
  refine Form.governs_entry ⟨?_, by decide, by simp [Entry.commutes_slot]⟩ (fun _ => rfl) _ _
  refine .cons ?_ (.cons ?_ (.cons ?_ .nil))
  all_goals exact Form.governsField_slot_eq (Form.governs_fixed _)

end GuardEntry

namespace DeriveSheetEntry

/-- The form of a sheet entry. -/
def form : Form :=
  .entry [⟨"when", [], ConditionEntry.form.list⟩, ⟨"apply_rules", ["apply-rules"], .names⟩]

theorem governs_form : form.Governs read Eq := by
  refine Form.governs_entry ⟨?_, by decide, by simp [Entry.commutes_slot]⟩ (fun _ => rfl) _ _
  refine .cons ?conditions (.cons ?rules .nil)
  case conditions =>
    exact Form.governsField_slot_eq (Form.governs_list_eq ConditionEntry.governs_form)
  case rules => exact Form.governsField_slot_eq Form.governs_names

end DeriveSheetEntry

/-! ### Rules -/

section Rules

variable (keyed : List (Node × Node) → Prop) (fits : Node → Prop)

/-- The form of a rule. -/
def RuleEntry.form : Form :=
  .entry
    [⟨"name", ["rule-name", "rule_name"], .name⟩, ⟨"row_type", ["row-type"], .fixed⟩,
     ⟨"when", [], GuardEntry.form.list⟩, ⟨"from", ["from-cell", "from_cell"], ColumnEntry.form.list⟩,
     ⟨"output", ["new-cell", "new_cell"], ColumnEntry.form⟩,
     ⟨"expression", ["expr"], ExpressionEntry.form keyed fits⟩]

/-- The form of a derive configuration. -/
def DeriveConfig.form : Form :=
  .entry
    [⟨"sheets", ["sheet"], DeriveSheetEntry.form.list⟩,
     ⟨"rules", ["add-cell", "add_cell"], (RuleEntry.form keyed fits).list⟩]

end Rules

namespace RuleEntry

/-- Rules that only differ in the blanks around the name and in the order of keys inside
parameters. -/
structure Same (r r' : RuleEntry) : Prop where
  name : trim r.name = trim r'.name
  rowType : r.rowType = r'.rowType
  guards : r.guards = r'.guards
  sources : r.sources = r'.sources
  output : r.output = r'.output
  expression : Option.Rel ExpressionEntry.Same r.expression r'.expression

theorem same_refl (r : RuleEntry) : r.Same r where
  name := rfl
  rowType := rfl
  guards := rfl
  sources := rfl
  output := rfl
  expression := (ExpressionEntry.governs_form (d := 0)).refl r.expression

theorem governs_form (d : Nat) :
    (form ExpressionEntry.DistinctNames fun n => n.depth ≤ d).Governs (read (d + 3)) Same := by
  refine Form.governs_entry ⟨?_, by simp [Spelling.keys], by simp [Entry.commutes_slot]⟩ same_refl _ _
  refine .cons ?name (.cons ?rowType (.cons ?guards (.cons ?sources
    (.cons ?output (.cons ?expression .nil)))))
  case name =>
    exact Form.governsField_slot Form.governs_name fun r r' b b' h hb => { h with name := hb }
  case rowType =>
    exact Form.governsField_slot (Form.governs_fixed _)
      fun r r' b b' h hb => { h with rowType := hb }
  case guards =>
    exact Form.governsField_slot (Form.governs_list_eq GuardEntry.governs_form)
      fun r r' b b' h hb => { h with guards := hb }
  case sources =>
    exact Form.governsField_slot (Form.governs_list_eq ColumnEntry.governs_form)
      fun r r' b b' h hb => { h with sources := hb }
  case output =>
    exact Form.governsField_slot ColumnEntry.governs_form
      fun r r' b b' h hb => { h with output := hb }
  case expression =>
    exact Form.governsField_slot ExpressionEntry.governs_form
      fun r r' b b' h hb => { h with expression := hb }

/-- The same expression gives a rule the same evaluator. -/
theorem setEvaluator_congr {registry : Registry} (hregistry : registry.Uniform)
    {e e' : Option ExpressionEntry} (h : Option.Rel ExpressionEntry.Same e e') :
    setEvaluator registry e' = setEvaluator registry e := by
  funext r
  cases h with
  | none => rfl
  | some h => simp only [setEvaluator, h.kind, hregistry h.params]

/-- The same rule is meant. -/
theorem Same.compile_eq {registry : Registry} (hregistry : registry.Uniform) {r r' : RuleEntry}
    (h : r.Same r') : r'.compile registry = r.compile registry := by
  unfold compile
  rw [h.name, h.rowType, h.guards, h.sources, h.output,
    setEvaluator_congr hregistry h.expression]

end RuleEntry

/-! ### Configurations -/

namespace DeriveConfig

/-- Configurations that only differ in the blanks around names and in the order of keys inside
parameters. -/
structure Same (c c' : DeriveConfig) : Prop where
  sheets : c.sheets = c'.sheets
  rules : List.Forall₂ RuleEntry.Same c.rules c'.rules

theorem same_refl (c : DeriveConfig) : c.Same c :=
  ⟨rfl, List.forall₂_same.mpr fun r _ => r.same_refl⟩

theorem governs_form (d : Nat) :
    (form ExpressionEntry.DistinctNames fun n => n.depth ≤ d).Governs (read (d + 5)) Same := by
  refine Form.governs_entry ⟨?_, by simp [Spelling.keys], by simp [Entry.commutes_slot]⟩ same_refl _ _
  refine .cons ?sheets (.cons ?rules .nil)
  case sheets =>
    exact Form.governsField_slot (Form.governs_list_eq DeriveSheetEntry.governs_form)
      fun c c' b b' h hb => { h with sheets := hb }
  case rules =>
    exact Form.governsField_slot (Form.governs_list (RuleEntry.governs_form d))
      fun c c' b b' h hb => { h with rules := hb }

/-- **The same plan is meant**, or none for the same reason. -/
theorem Same.build_eq {registry : Registry} (hregistry : registry.Uniform) {c c' : DeriveConfig}
    (h : c.Same c') : c'.build registry = c.build registry := by
  have hrules : c'.rulePlan registry = c.rulePlan registry := by
    unfold rulePlan
    refine h.rules.foldlM_congr ?_ _
    intro p r r' hr
    rw [hr.compile_eq hregistry]
  unfold build
  rw [hrules, h.sheets]

end DeriveConfig

end SheetGrammar
