import SheetGrammar.Proofs.Config.Derive
import SheetGrammar.Proofs.Config.Entry

/-!
# Derive configurations that make sense

A configuration makes sense if its rules have distinct names, all their patterns can be read, all
their columns are meant by an address or a tag, their expressions are of a kind that the library
knows, with parameters of that kind, and sheet entries apply only rules that are there.  Rules are
compiled part by part, and the plan refuses names that occur twice; sheets are looked at when all
rules are known.  Together these checks accept exactly the configurations that make sense.

## Main definitions

* `ColumnEntry.Given`, `RuleEntry.Valid`, `DeriveConfig.Valid` — columns, rules and
  configurations that make sense.

## Main results

* `RuleEntry.exists_compile_eq_ok_iff` — exactly the rules that make sense are accepted.
* `DeriveConfig.exists_derivePlan_iff_valid` — exactly the configurations that make sense are.
-/

namespace SheetGrammar

/-! ### The parts of rules -/

/-- Columns are given by an address or by a tag. -/
def ColumnEntry.Given (c : ColumnEntry) : Prop := c.col ≠ "" ∨ c.tag ≠ ""

theorem ColumnEntry.isEmpty_eq_false_iff {c : ColumnEntry} : c.isEmpty = false ↔ c.Given := by
  simp [isEmpty, Given, imp_iff_not_or]

theorem Rule.compiles_anyRowType : Pattern.Compiles anyRowType :=
  Pattern.compiles_iff.mpr (by decide +kernel)

/-- A rule starts with a pattern for the types of records; an empty one is always read. -/
theorem Rule.exists_ofName_eq_ok_iff {name rowType : String} :
    (∃ rule, ofName name rowType = .ok rule) ↔ (rowType ≠ "" → Pattern.Compiles rowType) := by
  by_cases hempty : rowType = ""
  · obtain ⟨p, hp⟩ := compiles_anyRowType
    simp [ofName, hempty, hp]
  · rw [Pattern.Compiles]
    cases hpattern : Pattern.parse? rowType with
    | none => simp [ofName, hempty, hpattern]
    | some p => simp [ofName, hempty, hpattern]

namespace RuleEntry

variable {r : RuleEntry} {rule : Rule}

theorem exists_addGuard_eq_ok_iff (rule : Rule) (g : GuardEntry) :
    (∃ rule', addGuard rule g = .ok rule') ↔ g.source.Given ∧ Pattern.Compiles g.pattern := by
  rw [addGuard, ← ColumnEntry.isEmpty_eq_false_iff]
  cases g.source.isEmpty with
  | true => simp
  | false =>
    rw [Pattern.Compiles]
    cases hpattern : Pattern.parse? g.pattern with
    | none => simp [Rule.withGuard, hpattern]
    | some p => simp [Rule.withGuard, hpattern]

theorem exists_addSource_eq_ok_iff (rule : Rule) (c : ColumnEntry) :
    (∃ rule', addSource rule c = .ok rule') ↔ c.Given := by
  rw [addSource, ← ColumnEntry.isEmpty_eq_false_iff]
  cases c.isEmpty with
  | true => simp
  | false => simp

theorem exists_setOutput_eq_ok_iff (rule : Rule) (c : ColumnEntry) :
    (∃ rule', setOutput c rule = .ok rule') ↔ c.Given := by
  rw [setOutput, ← ColumnEntry.isEmpty_eq_false_iff]
  cases c.isEmpty with
  | true => simp
  | false => simp

theorem exists_setEvaluator_eq_ok_iff (rule : Rule) :
    (∃ rule', setEvaluator .builtins r.expression rule = .ok rule') ↔
      ∃ expression, r.expression = some expression ∧ expression.kind = PatternExtract.kind ∧
        PatternExtract.ValidParameters expression.params := by
  simp only [setEvaluator_builtins_eq_ok_iff, ← PatternExtract.exists_given_iff, Extracts]
  constructor
  · rintro ⟨_, x, ⟨expression, hexpression, hkind, hgiven⟩, rfl⟩
    exact ⟨expression, hexpression, hkind, x, hgiven⟩
  · rintro ⟨expression, hexpression, hkind, x, hgiven⟩
    exact ⟨_, x, ⟨expression, hexpression, hkind, hgiven⟩, rfl⟩

/-! ### Rules -/

/-- A rule makes sense if it has a name, its patterns can be read, its guards, its sources and its
output are given by an address or a tag, and it has an expression that cuts out a group, with
parameters that make sense. -/
structure Valid (r : RuleEntry) : Prop where
  name : trim r.name ≠ ""
  rowType : ∀ text, r.rowType = some text → text ≠ "" → Pattern.Compiles text
  guards : ∀ g ∈ r.guards, g.source.Given ∧ Pattern.Compiles g.pattern
  sources : ∀ c ∈ r.sources, c.Given
  output : r.output.Given
  expression : ∃ expression, r.expression = some expression ∧
    expression.kind = PatternExtract.kind ∧ PatternExtract.ValidParameters expression.params

/-- A row type that is left out is an empty pattern. -/
theorem rowType_getD_iff : (r.rowType.getD "" ≠ "" → Pattern.Compiles (r.rowType.getD "")) ↔
    ∀ text, r.rowType = some text → text ≠ "" → Pattern.Compiles text := by
  cases r.rowType with
  | none => simp
  | some text => simp

/-- Exactly the rules that make sense are accepted. -/
theorem exists_compile_eq_ok_iff : (∃ rule, r.compile .builtins = .ok rule) ↔ r.Valid := by
  simp only [compile_eq_ok_iff]
  constructor
  · rintro ⟨rule, hname, start, guarded, sourced, whole, hstart, hguarded, hsourced, hwhole, hrule⟩
    exact {
      name := hname
      rowType := rowType_getD_iff.mp (Rule.exists_ofName_eq_ok_iff.mp ⟨start, hstart⟩)
      guards := (List.exists_foldlM_eq_ok_iff exists_addGuard_eq_ok_iff).mp ⟨guarded, hguarded⟩
      sources := (List.exists_foldlM_eq_ok_iff exists_addSource_eq_ok_iff).mp ⟨sourced, hsourced⟩
      output := (exists_setOutput_eq_ok_iff sourced r.output).mp ⟨whole, hwhole⟩
      expression := (exists_setEvaluator_eq_ok_iff whole).mp ⟨rule, hrule⟩ }
  · intro h
    obtain ⟨start, hstart⟩ := Rule.exists_ofName_eq_ok_iff.mpr (rowType_getD_iff.mpr h.rowType)
    obtain ⟨guarded, hguarded⟩ :=
      (List.exists_foldlM_eq_ok_iff (b := start) exists_addGuard_eq_ok_iff).mpr h.guards
    obtain ⟨sourced, hsourced⟩ :=
      (List.exists_foldlM_eq_ok_iff (b := guarded) exists_addSource_eq_ok_iff).mpr h.sources
    obtain ⟨whole, hwhole⟩ := (exists_setOutput_eq_ok_iff sourced r.output).mpr h.output
    obtain ⟨rule, hrule⟩ := (exists_setEvaluator_eq_ok_iff whole).mpr h.expression
    exact ⟨rule, h.name, start, guarded, sourced, whole, hstart, hguarded, hsourced, hwhole, hrule⟩

end RuleEntry

/-! ### Sheets -/

/-- A sheet entry is accepted if all rules that it applies are there and its conditions make
sense. -/
theorem DeriveSheetEntry.exists_compile_eq_ok_iff {s : DeriveSheetEntry} {p : DerivePlan} :
    (∃ selector, s.compile p = .ok selector) ↔
      (∀ name ∈ s.applyRules, name ∈ p.rules.map Rule.name) ∧ ∀ c ∈ s.conditions, c.Valid := by
  simp only [compile_eq_ok_iff, ← ConditionEntry.exists_compile_eq_ok_iff,
    ← List.exists_mapM_eq_ok_iff]
  constructor
  · rintro ⟨selector, hnames, hconditions, -⟩
    exact ⟨hnames, selector.conditions, hconditions⟩
  · rintro ⟨hnames, conditions, hconditions⟩
    exact ⟨⟨conditions, s.applyRules⟩, hnames, hconditions, rfl⟩

/-! ### Configurations -/

namespace DeriveConfig

variable {c : DeriveConfig}

/-- A configuration makes sense: its rules do, and the names of these are distinct when the blanks
around them are left out; every name that a sheet entry applies is one of these names; and the
conditions on sheets make sense. -/
structure Valid (c : DeriveConfig) : Prop where
  rules : ∀ r ∈ c.rules, r.Valid
  distinct : (c.rules.map fun r => trim r.name).Nodup
  applied : ∀ s ∈ c.sheets, ∀ name ∈ s.applyRules, ∃ r ∈ c.rules, trim r.name = name
  conditions : ∀ s ∈ c.sheets, ∀ x ∈ s.conditions, x.Valid

theorem Builds.valid {p : DerivePlan} (h : c.Builds .builtins p) : c.Valid := by
  have hentry : ∀ s ∈ c.sheets,
      (∀ name ∈ s.applyRules, name ∈ p.rules.map Rule.name) ∧ ∀ x ∈ s.conditions, x.Valid := by
    intro s hs
    obtain ⟨selector, -, hcompile⟩ := h.sheets.exists_of_mem_left hs
    exact DeriveSheetEntry.exists_compile_eq_ok_iff.mp ⟨selector, hcompile⟩
  refine ⟨?_, ?_, ?_, fun s hs => (hentry s hs).2⟩
  · intro r hr
    obtain ⟨rule, -, hcompile⟩ := h.rules.exists_of_mem_left hr
    exact RuleEntry.exists_compile_eq_ok_iff.mp ⟨rule, hcompile⟩
  · rw [← h.names]
    exact h.distinct
  · intro s hs name hname
    have hmem := (hentry s hs).1 name hname
    rw [h.names] at hmem
    exact List.mem_map.mp hmem

theorem Valid.exists_builds (h : c.Valid) : ∃ p, c.Builds .builtins p := by
  -- the rules first, since sheet entries name them
  obtain ⟨rules, hrules⟩ := List.exists_mapM_eq_ok_iff.mpr fun r hr =>
    RuleEntry.exists_compile_eq_ok_iff.mpr (h.rules r hr)
  have hcompile := List.mapM_eq_ok_iff.mp hrules
  have hnames := RuleEntry.names_of_compile hcompile
  obtain ⟨selectors, hselectors⟩ := List.exists_mapM_eq_ok_iff.mpr fun s hs =>
    DeriveSheetEntry.exists_compile_eq_ok_iff (p := ⟨[], rules⟩).mpr ⟨by
      intro name hname
      rw [hnames]
      exact List.mem_map.mpr (h.applied s hs name hname), h.conditions s hs⟩
  refine ⟨⟨selectors, rules⟩, hcompile, ?_, ?_⟩
  · rw [hnames]
    exact h.distinct
  · exact (DeriveSheetEntry.forall₂_compile_congr rfl).mp (List.mapM_eq_ok_iff.mp hselectors)

/-- **Exactly the derive configurations that make sense are accepted.** -/
theorem exists_derivePlan_iff_valid (c : DeriveConfig) :
    (∃ p, c.build .builtins = .ok p) ↔ c.Valid := by
  simp only [build_eq_ok_iff]
  constructor
  · rintro ⟨p, hp⟩
    exact hp.valid
  · exact Valid.exists_builds

end DeriveConfig

end SheetGrammar
