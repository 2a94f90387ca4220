import SheetGrammar.Config.Derive
import SheetGrammar.Proofs.DerivePlan
import SheetGrammar.Proofs.Evaluator

/-!
# What a derive configuration builds

Building a plan checks all that does not depend on the sheets: the rules have distinct names and
each of them has its expression, and the names of rules that a sheet entry applies are those of
rules.

## Main definitions

* `RuleEntry.Extracts` — the expression of a rule entry.
* `DeriveConfig.Builds` — the plan that a configuration means.

## Main results

* `RuleEntry.extracts_of_compile` — a rule that is compiled has the expression of its entry.
* `DeriveConfig.build_eq_ok_iff` — a configuration builds exactly the plan that it means.
* `DeriveConfig.Builds.forall₂_rulesOf` — no rule that is applied to a sheet is missing.
-/

namespace SheetGrammar

/-! ### Rules -/

namespace Rule

/-- A rule with a name; its pattern does not matter. -/
theorem name_of_ofName {name rowType : String} {rule : Rule} (h : ofName name rowType = .ok rule) :
    rule.name = name := by
  simp only [ofName] at h
  generalize Pattern.parse? (if rowType = "" then anyRowType else rowType) = pattern at h
  cases pattern with
  | none => cases h
  | some p =>
    cases h
    rfl

theorem name_of_withGuard {rule rule' : Rule} {col tag pattern : String}
    (h : rule.withGuard col tag pattern = .ok rule') : rule'.name = rule.name := by
  unfold withGuard at h
  split at h
  · cases h
    rfl
  · cases h

end Rule

namespace RuleEntry

variable {r : RuleEntry} {registry : Registry} {rule rule' : Rule} {name : String}

theorem name_of_addGuard {g : GuardEntry} (h : addGuard rule g = .ok rule')
    (hrule : rule.name = name) : rule'.name = name := by
  unfold addGuard at h
  split at h
  · cases h
  · exact (Rule.name_of_withGuard h).trans hrule

theorem name_of_addSource {c : ColumnEntry} (h : addSource rule c = .ok rule')
    (hrule : rule.name = name) : rule'.name = name := by
  unfold addSource at h
  split at h
  · cases h
  · cases h
    exact hrule

theorem name_of_setOutput {c : ColumnEntry} (h : setOutput c rule = .ok rule')
    (hrule : rule.name = name) : rule'.name = name := by
  unfold setOutput at h
  split at h
  · cases h
  · cases h
    exact hrule

theorem name_of_setEvaluator {expression : Option ExpressionEntry}
    (h : setEvaluator registry expression rule = .ok rule') (hrule : rule.name = name) :
    rule'.name = name := by
  unfold setEvaluator at h
  split at h
  · cases h
  · obtain ⟨evaluator, -, rfl⟩ := Except.map_eq_ok_iff.mp h
    exact hrule

/-- A rule is compiled by parts, each of which sees the rule that the parts before it made. -/
theorem compile_eq_ok_iff : r.compile registry = .ok rule ↔
    trim r.name ≠ "" ∧ ∃ start guarded sourced whole,
      Rule.ofName (trim r.name) (r.rowType.getD "") = .ok start ∧
      r.guards.foldlM addGuard start = .ok guarded ∧
      r.sources.foldlM addSource guarded = .ok sourced ∧
      setOutput r.output sourced = .ok whole ∧
      setEvaluator registry r.expression whole = .ok rule := by
  rw [compile]
  split
  · next hblank => simp [hblank]
  · next hname =>
    simp only [Except.bind_eq_ok_iff, ne_eq, hname, not_false_eq_true, true_and]
    constructor
    · rintro ⟨start, hstart, guarded, hguarded, sourced, hsourced, whole, hwhole, hrule⟩
      exact ⟨start, guarded, sourced, whole, hstart, hguarded, hsourced, hwhole, hrule⟩
    · rintro ⟨start, guarded, sourced, whole, hstart, hguarded, hsourced, hwhole, hrule⟩
      exact ⟨start, hstart, guarded, hguarded, sourced, hsourced, whole, hwhole, hrule⟩

/-- A rule that is meant bears the name of its entry without blanks around it. -/
theorem name_of_compile (h : r.compile registry = .ok rule) : rule.name = trim r.name := by
  obtain ⟨-, start, guarded, sourced, whole, hstart, hguarded, hsourced, hwhole, hrule⟩ :=
    compile_eq_ok_iff.mp h
  have hguarded := List.foldlM_induction name_of_addGuard hguarded (Rule.name_of_ofName hstart)
  have hsourced := List.foldlM_induction name_of_addSource hsourced hguarded
  exact name_of_setEvaluator hrule (name_of_setOutput hwhole hsourced)

/-- Rules that are meant bear the names of their entries without blanks around them. -/
theorem names_of_compile {entries : List RuleEntry} {rules : List Rule}
    (h : List.Forall₂ (fun e rule => compile registry e = .ok rule) entries rules) :
    rules.map Rule.name = entries.map fun e => trim e.name :=
  h.map_eq_map name_of_compile

/-! ### Expressions -/

/-- The expression of a rule entry cuts out what `x` does. -/
def Extracts (r : RuleEntry) (x : PatternExtract) : Prop :=
  ∃ expression, r.expression = some expression ∧ expression.kind = PatternExtract.kind ∧
    PatternExtract.Given expression.params x

/-- Setting the evaluator succeeds exactly with an expression whose parameters make sense. -/
theorem setEvaluator_builtins_eq_ok_iff :
    setEvaluator .builtins r.expression rule = .ok rule' ↔
      ∃ x, r.Extracts x ∧ rule' = rule.withEvaluator x.eval := by
  unfold setEvaluator Extracts
  cases r.expression with
  | none => simp
  | some expression =>
    simp only [Registry.bind_builtins]
    by_cases hkind : expression.kind = PatternExtract.kind
    · simp only [hkind, if_true, Except.map_eq_ok_iff, PatternExtract.ofParameters_eq_ok_iff,
        Option.some.injEq, exists_eq_left', true_and]
      constructor
      · rintro ⟨_, ⟨x, hx, rfl⟩, rfl⟩
        exact ⟨x, hx, rfl⟩
      · rintro ⟨x, hx, rfl⟩
        exact ⟨_, ⟨x, hx, rfl⟩, rfl⟩
    · simp [hkind, Except.map]

/-- A rule that is meant evaluates the expression of its entry. -/
theorem extracts_of_compile (h : r.compile .builtins = .ok rule) :
    ∃ x, r.Extracts x ∧ rule.evaluator = some x.eval := by
  obtain ⟨-, start, guarded, sourced, whole, -, -, -, -, hrule⟩ := compile_eq_ok_iff.mp h
  obtain ⟨x, hx, rfl⟩ := setEvaluator_builtins_eq_ok_iff.mp hrule
  exact ⟨x, hx, rfl⟩

end RuleEntry

/-! ### Sheets -/

namespace DeriveSheetEntry

variable {s : DeriveSheetEntry} {p p' : DerivePlan} {selector : SheetSelector (List String)}

/-- Nothing of a plan but its rules matters to a sheet entry. -/
theorem compile_congr (h : p.rules = p'.rules) : s.compile p = s.compile p' := by
  unfold compile DerivePlan.rule?
  rw [h]

theorem forall₂_compile_congr (h : p.rules = p'.rules) {entries : List DeriveSheetEntry}
    {selectors : List (SheetSelector (List String))} :
    List.Forall₂ (fun s selector => s.compile p = .ok selector) entries selectors ↔
      List.Forall₂ (fun s selector => s.compile p' = .ok selector) entries selectors := by
  simp only [compile_congr h]

theorem compile_eq_ok_iff : s.compile p = .ok selector ↔
    (∀ name ∈ s.applyRules, name ∈ p.rules.map Rule.name) ∧
      s.conditions.mapM ConditionEntry.compile = .ok selector.conditions ∧
      selector.target = s.applyRules := by
  have hnone : (s.applyRules.find? fun name => (p.rule? name).isNone) = none ↔
      ∀ name ∈ s.applyRules, name ∈ p.rules.map Rule.name := by
    simp only [List.find?_eq_none, ← DerivePlan.rule?_isSome_iff, Bool.not_eq_true,
      Option.isNone_eq_false_iff]
  rw [← hnone, compile]
  split
  · next name hname => simp [hname]
  · next hfound =>
    rw [Except.map_eq_ok_iff, and_iff_right hfound]
    constructor
    · rintro ⟨conditions, hconditions, rfl⟩
      exact ⟨hconditions, rfl⟩
    · rintro ⟨hconditions, htarget⟩
      exact ⟨selector.conditions, hconditions, by rw [← htarget]⟩

end DeriveSheetEntry

/-! ### Plans -/

namespace DerivePlan

variable {p p' : DerivePlan}

/-- The selectors of sheet entries stand behind those of the plan, whose rules are all that the
entries depend on. -/
theorem foldlM_addSelector_eq_ok_iff {entries : List DeriveSheetEntry} :
    entries.foldlM (fun p s => (s.compile p).map p.addSelector) p = .ok p' ↔
      p'.rules = p.rules ∧ ∃ selectors, p'.selectors = p.selectors ++ selectors ∧
        List.Forall₂ (fun s selector => s.compile p = .ok selector) entries selectors := by
  induction entries generalizing p with
  | nil =>
    simp only [List.forall₂_nil_left_iff, exists_eq_right, List.append_nil]
    obtain ⟨selectors, rules⟩ := p
    obtain ⟨selectors', rules'⟩ := p'
    constructor
    · intro h
      cases h
      exact ⟨rfl, rfl⟩
    · rintro ⟨rfl, rfl⟩
      rfl
  | cons s entries ih =>
    simp only [List.foldlM_cons_eq_ok_iff, Except.map_eq_ok_iff, List.forall₂_cons_left_iff]
    constructor
    · rintro ⟨_, ⟨selector, hselector, rfl⟩, hrest⟩
      obtain ⟨hrules, selectors, hselectors, hforall⟩ := ih.mp hrest
      refine ⟨hrules, selector :: selectors, ?_, selector, selectors, hselector, ?_, rfl⟩
      · rw [hselectors, addSelector, List.append_assoc, List.singleton_append]
      · exact (DeriveSheetEntry.forall₂_compile_congr rfl).mp hforall
    · rintro ⟨hrules, _, hselectors, selector, selectors, hselector, hforall, rfl⟩
      refine ⟨_, ⟨selector, hselector, rfl⟩, ih.mpr ⟨hrules, selectors, ?_, ?_⟩⟩
      · rw [hselectors, addSelector, List.append_assoc, List.singleton_append]
      · exact (DeriveSheetEntry.forall₂_compile_congr rfl).mp hforall

end DerivePlan

namespace DeriveConfig

variable {c : DeriveConfig} {registry : Registry} {p : DerivePlan}

/-- The plan that a configuration means. -/
structure Builds (c : DeriveConfig) (registry : Registry) (p : DerivePlan) : Prop where
  rules : List.Forall₂ (fun e rule => e.compile registry = .ok rule) c.rules p.rules
  distinct : (p.rules.map Rule.name).Nodup
  sheets : List.Forall₂ (fun s selector => s.compile p = .ok selector) c.sheets p.selectors

theorem rulePlan_eq_ok_iff : c.rulePlan registry = .ok p ↔
    List.Forall₂ (fun e rule => e.compile registry = .ok rule) c.rules p.rules ∧
      (p.rules.map Rule.name).Nodup ∧ p.selectors = [] := by
  have hadd : ∀ rules, rules.foldlM DerivePlan.addRule .empty = .ok p ↔
      (rules.map Rule.name).Nodup ∧ p = ⟨[], rules⟩ := fun rules =>
    List.foldlM_insert_eq_ok_iff (DerivePlan.mk []) DerivePlan.addRule_eq_ok_iff List.nodup_nil
  simp only [rulePlan, List.foldlM_bind_eq_ok_iff, hadd]
  constructor
  · rintro ⟨rules, hrules, hdistinct, rfl⟩
    exact ⟨hrules, hdistinct, rfl⟩
  · rintro ⟨hrules, hdistinct, hselectors⟩
    exact ⟨p.rules, hrules, hdistinct, by rw [← hselectors]⟩

/-- A configuration builds exactly the plan that it means. -/
theorem build_eq_ok_iff : c.build registry = .ok p ↔ c.Builds registry p := by
  rw [build]
  constructor
  · intro h
    split at h
    · cases h
    · next start hstart =>
      obtain ⟨hrules, hdistinct, hnone⟩ := rulePlan_eq_ok_iff.mp hstart
      obtain ⟨hsame, selectors, hselectors, hsheets⟩ :=
        DerivePlan.foldlM_addSelector_eq_ok_iff.mp h
      rw [← hsame] at hrules hdistinct
      refine ⟨hrules, hdistinct, ?_⟩
      rw [hselectors, hnone, List.nil_append]
      exact (DeriveSheetEntry.forall₂_compile_congr hsame).mpr hsheets
  · intro h
    have hstart : c.rulePlan registry = .ok ⟨[], p.rules⟩ :=
      rulePlan_eq_ok_iff.mpr ⟨h.rules, h.distinct, rfl⟩
    simp only [hstart]
    refine DerivePlan.foldlM_addSelector_eq_ok_iff.mpr ⟨rfl, p.selectors, rfl, ?_⟩
    exact (DeriveSheetEntry.forall₂_compile_congr rfl).mp h.sheets

/-- The rules of a plan bear the names of their entries. -/
theorem Builds.names (h : c.Builds registry p) :
    p.rules.map Rule.name = c.rules.map fun e => trim e.name := RuleEntry.names_of_compile h.rules

/-- No rule that is applied to a sheet is missing. -/
theorem Builds.forall₂_rulesOf (h : c.Builds registry p) {s : SheetTree} {names : List String}
    (hnames : p.names? s = some names) :
    List.Forall₂ (fun name rule => p.rule? name = some rule) names (p.rulesOf names) := by
  obtain ⟨selector, hselector, rfl⟩ := Option.map_eq_some_iff.mp hnames
  obtain ⟨entry, -, hentry⟩ := h.sheets.exists_of_mem (List.mem_of_find?_eq_some hselector)
  obtain ⟨hdefined, -, htarget⟩ := DeriveSheetEntry.compile_eq_ok_iff.mp hentry
  refine DerivePlan.forall₂_rulesOf fun name hname => ?_
  rw [htarget] at hname
  exact Option.isSome_iff_exists.mp (DerivePlan.rule?_isSome_iff.mpr (hdefined name hname))

end DeriveConfig

end SheetGrammar
