import SheetGrammar.Proofs.Config.Derive

/-!
# Where a plan that was built fails

Building a plan leaves one reason for a failure: the expression of a rule rejects the values that
the rule finds in a record.  A rule finds them among the columns of the record and those that the
rules before it appended, so that it may stumble over what an earlier rule of the same list made.

## Main definitions

* `DeriveConfig.Rejects` — the expression of a rule rejects values.
* `DeriveConfig.StumblesAt` — a rule stumbles over a record of a sheet.

## Main results

* `DeriveConfig.Builds.failure?_eq_some_iff` — a plan fails on a record where a rule stumbles.
* `DeriveConfig.derive_of_build` — a plan that was built fails exactly if some rule stumbles, and
  with the first one that does.
-/

namespace SheetGrammar

namespace RuleEntry

variable {r : RuleEntry}

/-- An entry has one expression. -/
theorem Extracts.unique {x y : PatternExtract} (hx : r.Extracts x) (hy : r.Extracts y) : x = y := by
  obtain ⟨expression, hexpression, -, hx⟩ := hx
  obtain ⟨expression', hexpression', -, hy⟩ := hy
  obtain rfl := Option.some.inj (hexpression.symm.trans hexpression')
  -- both are what the parameters are made into
  have hmade : PatternExtract.ofParameters r.name expression.params = .ok x :=
    PatternExtract.ofParameters_eq_ok_iff.mpr hx
  rw [PatternExtract.ofParameters_eq_ok_iff.mpr hy] at hmade
  exact (Except.ok.inj hmade).symm

end RuleEntry

namespace DeriveConfig

variable {c : DeriveConfig} {p : DerivePlan} {s : SheetTree} {r : Record} {rule : Rule}
  {e : EvalError} {err : Error}

/-- The expression that the configuration gives to a rule rejects values. -/
def Rejects (c : DeriveConfig) (rule : Rule) (values : List Value) (e : EvalError) : Prop :=
  ∃ entry ∈ c.rules, entry.compile .builtins = .ok rule ∧
    ∃ x, entry.Extracts x ∧ x.Rejects values e

/-- A rule stumbles over a record: the first selector that matches the sheet names the rule, the
rules before it succeed, and it applies to the record with the columns that these appended; but its
expression rejects the values that it finds there. -/
def StumblesAt (c : DeriveConfig) (p : DerivePlan) (s : SheetTree) (r : Record) (rule : Rule)
    (e : EvalError) : Prop :=
  ∃ names before after, p.names? s = some names ∧ p.rulesOf names = before ++ rule :: after ∧
    (Record.deriveColumns s.name r before).2 = none ∧
    rule.applies (Record.deriveColumns s.name r before).1 = true ∧
    c.Rejects rule (rule.sourceValues (Record.deriveColumns s.name r before).1.columns) e

/-- Some rule stumbles over a record. -/
def Stumbles (c : DeriveConfig) (p : DerivePlan) (s : SheetTree) (r : Record) : Prop :=
  ∃ rule e, c.StumblesAt p s r rule e

/-! ### Rules -/

/-- The evaluator of a rule of the plan fails exactly if its expression rejects the values. -/
theorem Builds.exists_evaluator (h : c.Builds .builtins p) (hrule : rule ∈ p.rules) :
    ∃ eval, rule.evaluator = some eval ∧
      ∀ values e, eval values = .error e ↔ c.Rejects rule values e := by
  obtain ⟨entry, hentry, hcompile⟩ := h.rules.exists_of_mem hrule
  obtain ⟨x, hx, heval⟩ := RuleEntry.extracts_of_compile hcompile
  refine ⟨x.eval, heval, fun values e => ?_⟩
  rw [PatternExtract.eval_eq_error_iff]
  constructor
  · intro hrejects
    exact ⟨entry, hentry, hcompile, x, hx, hrejects⟩
  · rintro ⟨entry', -, hcompile', y, hy, hrejects⟩
    obtain ⟨y', hy', heval'⟩ := RuleEntry.extracts_of_compile hcompile'
    obtain rfl := hy.unique hy'
    -- the rule has one evaluator, whichever entry it comes from
    have hsame : y.eval = x.eval := Option.some.inj (heval'.symm.trans heval)
    rw [← PatternExtract.eval_eq_error_iff] at hrejects ⊢
    rwa [← hsame]

theorem Builds.rule_derive_eq_error_iff (h : c.Builds .builtins p) (hrule : rule ∈ p.rules)
    {sheet : String} :
    rule.derive sheet r = .error err ↔ rule.applies r = true ∧
      ∃ e, c.Rejects rule (rule.sourceValues r.columns) e ∧
        err = .ruleFailed rule.name r.name r.index sheet e := by
  obtain ⟨eval, heval, hrejects⟩ := h.exists_evaluator hrule
  simp only [Rule.derive_eq_error_iff heval, hrejects]

/-! ### Records -/

/-- A plan fails on a record exactly where a rule stumbles over it. -/
theorem Builds.failure?_eq_some_iff (h : c.Builds .builtins p) :
    p.failure? s r = some err ↔ ∃ rule e, c.StumblesAt p s r rule e ∧
      err = .ruleFailed rule.name r.name r.index s.name e := by
  rw [DerivePlan.failure?, Option.bind_eq_some_iff]
  simp only [Record.deriveColumns_eq_some_iff]
  constructor
  · rintro ⟨names, hnames, before, rule, after, hrules, hbefore, hfails⟩
    have hmem : rule ∈ p.rulesOf names := by simp [hrules]
    have hrule : rule ∈ p.rules := DerivePlan.mem_of_mem_rulesOf hmem
    obtain ⟨happlies, e, hrejects, rfl⟩ := (h.rule_derive_eq_error_iff hrule).mp hfails
    refine ⟨rule, e, ⟨names, before, after, hnames, hrules, hbefore, happlies, hrejects⟩, ?_⟩
    -- the rules before it left the name and the index of the record
    rw [Record.deriveColumns_eq]
  · rintro ⟨rule, e, ⟨names, before, after, hnames, hrules, hbefore, happlies, hrejects⟩, rfl⟩
    have hmem : rule ∈ p.rulesOf names := by simp [hrules]
    have hrule : rule ∈ p.rules := DerivePlan.mem_of_mem_rulesOf hmem
    refine ⟨names, hnames, before, rule, after, hrules, hbefore, ?_⟩
    refine (h.rule_derive_eq_error_iff hrule).mpr ⟨happlies, e, hrejects, ?_⟩
    rw [Record.deriveColumns_eq]

theorem Builds.failure?_eq_none_iff (h : c.Builds .builtins p) :
    p.failure? s r = none ↔ ¬ c.Stumbles p s r := by
  rw [Option.eq_none_iff_forall_ne_some]
  constructor
  · rintro hnone ⟨rule, e, hstumbles⟩
    exact hnone _ (h.failure?_eq_some_iff.mpr ⟨rule, e, hstumbles, rfl⟩)
  · intro hfree err herr
    obtain ⟨rule, e, hstumbles, -⟩ := h.failure?_eq_some_iff.mp herr
    exact hfree ⟨rule, e, hstumbles⟩

/-! ### Sheets -/

theorem Builds.deriveSheet_eq_error_iff (h : c.Builds .builtins p) :
    p.deriveSheet s = .error err ↔ ∃ first r rest rule e,
      Record.postorderRows s.rows = first ++ r :: rest ∧ (∀ b ∈ first, ¬ c.Stumbles p s b) ∧
        c.StumblesAt p s r rule e ∧ err = .ruleFailed rule.name r.name r.index s.name e := by
  rw [DerivePlan.deriveSheet_eq_error_iff, List.findSome?_eq_some_iff]
  simp only [h.failure?_eq_some_iff, h.failure?_eq_none_iff]
  constructor
  · rintro ⟨first, r, rest, hrows, ⟨rule, e, hstumbles, rfl⟩, hfirst⟩
    exact ⟨first, r, rest, rule, e, hrows, hfirst, hstumbles, rfl⟩
  · rintro ⟨first, r, rest, rule, e, hrows, hfirst, hstumbles, rfl⟩
    exact ⟨first, r, rest, hrows, ⟨rule, e, hstumbles, rfl⟩, hfirst⟩

theorem Builds.exists_deriveSheet_iff (h : c.Builds .builtins p) :
    (∃ t, p.deriveSheet s = .ok t) ↔ ∀ r ∈ Record.walkRows s.rows, ¬ c.Stumbles p s r := by
  have hnone : (∀ r ∈ Record.walkRows s.rows, ¬ c.Stumbles p s r) ↔
      (Record.postorderRows s.rows).findSome? (p.failure? s) = none := by
    simp only [List.findSome?_eq_none_iff, Record.mem_postorderRows, h.failure?_eq_none_iff]
  rw [hnone, Option.eq_none_iff_forall_ne_some]
  simp only [ne_eq, ← DerivePlan.deriveSheet_eq_error_iff]
  cases p.deriveSheet s with
  | ok t => simp
  | error e => simp

/-! ### Documents -/

/-- The first sheet over which a rule stumbles decides. -/
theorem Builds.derive_eq_error_iff (h : c.Builds .builtins p) {d : Document} :
    p.derive d = .error err ↔ ∃ before s after first r rest rule e,
      d.sheets = before ++ s :: after ∧
        (∀ b ∈ before, ∀ r ∈ Record.walkRows b.rows, ¬ c.Stumbles p b r) ∧
        Record.postorderRows s.rows = first ++ r :: rest ∧
        (∀ b ∈ first, ¬ c.Stumbles p s b) ∧
        c.StumblesAt p s r rule e ∧ err = .ruleFailed rule.name r.name r.index s.name e := by
  rw [DerivePlan.derive_eq_error_iff]
  simp only [h.exists_deriveSheet_iff, h.deriveSheet_eq_error_iff]
  constructor
  · rintro ⟨before, s, after, hsheets, hbefore, first, r, rest, rule, e, hs⟩
    exact ⟨before, s, after, first, r, rest, rule, e, hsheets, hbefore, hs⟩
  · rintro ⟨before, s, after, first, r, rest, rule, e, hsheets, hbefore, hs⟩
    exact ⟨before, s, after, hsheets, hbefore, first, r, rest, rule, e, hs⟩

theorem Builds.exists_derive_eq_error_iff (h : c.Builds .builtins p) {d : Document} :
    (∃ err, p.derive d = .error err) ↔
      ∃ s ∈ d.sheets, ∃ r ∈ Record.walkRows s.rows, c.Stumbles p s r := by
  constructor
  · rintro ⟨err, herr⟩
    obtain ⟨before, s, after, first, r, rest, rule, e, hsheets, -, hrows, -, hstumbles, -⟩ :=
      h.derive_eq_error_iff.mp herr
    refine ⟨s, by simp [hsheets], r, ?_, rule, e, hstumbles⟩
    rw [← Record.mem_postorderRows, hrows]
    simp
  · rintro ⟨s, hs, r, hr, hstumbles⟩
    cases hderive : p.derive d with
    | error err => exact ⟨err, rfl⟩
    | ok made =>
      -- no rule stumbles over a sheet that was derived
      obtain ⟨t, -, ht⟩ := (DerivePlan.derive_eq_ok_iff.mp hderive).exists_of_mem_left hs
      exact absurd hstumbles (h.exists_deriveSheet_iff.mp ⟨t, ht⟩ r hr)

/-- **A plan that was built fails in expressions alone.** No rule that a selector names is missing.
The plan fails on a document exactly if on some sheet some rule stumbles over some record.  The
failure is that of a rule, and it names the first sheet of the document over which a rule stumbles,
the first such record of that sheet in post-order, and the first rule that stumbles over it. -/
theorem derive_of_build (h : c.build .builtins = .ok p) (d : Document) :
    (∀ s ∈ d.sheets, ∀ names, p.names? s = some names →
      List.Forall₂ (fun name rule => p.rule? name = some rule) names (p.rulesOf names)) ∧
    ((∃ err, p.derive d = .error err) ↔
      ∃ s ∈ d.sheets, ∃ r ∈ Record.walkRows s.rows, c.Stumbles p s r) ∧
    ∀ err, p.derive d = .error err ↔ ∃ before s after first r rest rule e,
      d.sheets = before ++ s :: after ∧
        (∀ b ∈ before, ∀ r ∈ Record.walkRows b.rows, ¬ c.Stumbles p b r) ∧
        Record.postorderRows s.rows = first ++ r :: rest ∧
        (∀ b ∈ first, ¬ c.Stumbles p s b) ∧
        c.StumblesAt p s r rule e ∧ err = .ruleFailed rule.name r.name r.index s.name e := by
  have hbuilds := build_eq_ok_iff.mp h
  exact ⟨fun s _ names hnames => hbuilds.forall₂_rulesOf hnames,
    hbuilds.exists_derive_eq_error_iff, fun err => hbuilds.derive_eq_error_iff⟩

/-- A configuration for the first sheet alone. Its second rule cuts a group that is missing out of
what the first one copied. -/
def missingGroup : DeriveConfig :=
  ⟨[⟨[⟨none, some 1, none⟩], ["copy", "cut"]⟩],
    [⟨" copy ", none, [], [⟨"A", ""⟩], ⟨"", "copied"⟩, some ⟨"pattern-extract", []⟩⟩,
      ⟨"cut", some "item", [], [⟨"", "copied"⟩], ⟨"Z", ""⟩,
        some ⟨"pattern-extract", [("group", .integer 2)]⟩⟩]⟩

/-- An order and its item on the first sheet; the item comes first. -/
theorem derive_of_build_missingGroup :
    ∃ p, missingGroup.build .builtins = .ok p ∧
      p.derive DerivePlan.twoOrders
        = .error (.ruleFailed "cut" "item" 1 "a" (.invalidGroup "pattern-extract" 2 1)) ∧
      ∃ s ∈ DerivePlan.twoOrders.sheets, ∃ r ∈ Record.walkRows s.rows,
        missingGroup.Stumbles p s r := by
  have hbuild : ∃ p, missingGroup.build .builtins = .ok p ∧ p.derive DerivePlan.twoOrders
      = .error (.ruleFailed "cut" "item" 1 "a" (.invalidGroup "pattern-extract" 2 1)) :=
    ⟨_, by with_unfolding_all rfl, by with_unfolding_all rfl⟩
  obtain ⟨p, hp, hfails⟩ := hbuild
  exact ⟨p, hp, hfails, (derive_of_build hp DerivePlan.twoOrders).2.1.mp ⟨_, hfails⟩⟩

end DeriveConfig

end SheetGrammar
