import SheetGrammar.Evaluator
import SheetGrammar.Proofs.Except
import SheetGrammar.Proofs.Pattern

/-!
# Expressions that cut out a group

An expression of this kind is made of a pattern and the number of a group, either of which has a
default.  It rejects values for three reasons only, and whether the group exists counts only
where the pattern matches.

## Main definitions

* `PatternExtract.Given` — the expression that parameters give.
* `PatternExtract.ValidParameters` — parameters that give some expression.
* `PatternExtract.Rejects` — why an expression rejects values.

## Main results

* `PatternExtract.ofParameters_eq_ok_iff` — what is made is what the parameters give.
* `PatternExtract.exists_given_iff` — which parameters give an expression.
* `PatternExtract.eval_eq_error_iff` — an expression fails exactly if it rejects its values.
* `Registry.bind_builtins` — the library knows this kind alone.
-/

namespace SheetGrammar

/-! ### Values of parameters -/

namespace Yaml

variable {y : Yaml}

theorem text?_eq_some_iff {text : String} : y.text? = some text ↔ y.untagged = .string text := by
  unfold text?
  split
  · next s hs => simp [hs]
  · next hother =>
    constructor
    · intro h
      cases h
    · exact fun h => absurd h (hother text)

theorem natural?_eq_some_iff {n : Nat} :
    y.natural? = some n ↔ y.untagged = .integer n ∧ n < wordSize 64 := by
  unfold natural?
  split
  · next k hk =>
    rw [hk, integer.injEq]
    split
    · next hrange =>
      rw [Option.some.injEq]
      omega
    · next hrange =>
      constructor
      · intro h
        cases h
      · omega
  · next hother =>
    constructor
    · intro h
      cases h
    · exact fun h => absurd h.1 (hother n)

end Yaml

namespace PatternExtract

variable {ps : Parameters} {rule : String} {e : PatternExtract}

/-! ### Parameters -/

/-- The text of the pattern that parameters give: a string, tags around which do not count. Its
default captures a whole line. -/
def GivenText (ps : Parameters) (text : String) : Prop :=
  ps.lookup "pattern" = none ∧ text = "(.*)" ∨
    ∃ y, ps.lookup "pattern" = some y ∧ y.untagged = .string text

/-- The group that parameters give: a natural number of 64 bits. Its default is the first. -/
def GivenGroup (ps : Parameters) (group : Nat) : Prop :=
  ps.lookup "group" = none ∧ group = 1 ∨
    ∃ y, ps.lookup "group" = some y ∧ y.untagged = .integer group ∧ group < wordSize 64

/-- The expression that parameters give; there may be no others. -/
structure Given (ps : Parameters) (e : PatternExtract) : Prop where
  known : ∀ p ∈ ps, p.1 = "pattern" ∨ p.1 = "group"
  pattern : ∃ text, GivenText ps text ∧ Pattern.parse? text = some e.pattern
  group : GivenGroup ps e.group

/-- Parameters that make sense: the pattern, where it is given, is a string that is a pattern,
the group, where it is given, is a natural number of 64 bits, and there are no others. -/
structure ValidParameters (ps : Parameters) : Prop where
  known : ∀ p ∈ ps, p.1 = "pattern" ∨ p.1 = "group"
  pattern : ∀ y, ps.lookup "pattern" = some y →
    ∃ text, y.untagged = .string text ∧ Pattern.Compiles text
  group : ∀ y, ps.lookup "group" = some y →
    ∃ n : Nat, y.untagged = .integer n ∧ n < wordSize 64

theorem patternText_eq_ok_iff {text : String} :
    patternText rule ps = .ok text ↔ GivenText ps text := by
  unfold patternText GivenText
  cases ps.lookup "pattern" with
  | none => simp [eq_comm]
  | some y =>
    simp only [← Yaml.text?_eq_some_iff]
    cases htext : y.text? with
    | none => simp [htext]
    | some text => simp [htext]

theorem groupNumber_eq_ok_iff {group : Nat} :
    groupNumber rule ps = .ok group ↔ GivenGroup ps group := by
  unfold groupNumber GivenGroup
  cases ps.lookup "group" with
  | none => simp [eq_comm]
  | some y =>
    simp only [← Yaml.natural?_eq_some_iff]
    cases hgroup : y.natural? with
    | none => simp [hgroup]
    | some group => simp [hgroup]

theorem find?_parameterNames_eq_none_iff :
    (ps.find? fun p => !parameterNames.contains p.1) = none ↔
      ∀ p ∈ ps, p.1 = "pattern" ∨ p.1 = "group" := by
  simp [parameterNames, or_iff_not_imp_left]

theorem ofText_eq_ok_iff {text : String} {group : Nat} {site : PatternSite} :
    ofText text group site = .ok e ↔ Pattern.parse? text = some e.pattern ∧ group = e.group := by
  unfold ofText
  cases Pattern.parse? text with
  | none => simp
  | some p =>
    cases e
    simp

/-- What is made is what the parameters give. -/
theorem ofParameters_eq_ok_iff : ofParameters rule ps = .ok e ↔ Given ps e := by
  unfold ofParameters
  constructor
  · intro h
    split at h
    · cases h
    · next hknown =>
      split at h
      · cases h
      · next text htext =>
        split at h
        · cases h
        · next group hgroup =>
          obtain ⟨hpattern, rfl⟩ := ofText_eq_ok_iff.mp h
          exact ⟨find?_parameterNames_eq_none_iff.mp hknown,
            ⟨text, patternText_eq_ok_iff.mp htext, hpattern⟩, groupNumber_eq_ok_iff.mp hgroup⟩
  · rintro ⟨hknown, ⟨text, htext, hpattern⟩, hgroup⟩
    simp only [find?_parameterNames_eq_none_iff.mpr hknown, patternText_eq_ok_iff.mpr htext,
      groupNumber_eq_ok_iff.mpr hgroup]
    exact ofText_eq_ok_iff.mpr ⟨hpattern, rfl⟩

theorem compiles_defaultPattern : Pattern.Compiles "(.*)" :=
  Pattern.compiles_iff.mpr (by decide +kernel)

/-- Parameters give an expression exactly if they make sense; the defaults do. -/
theorem exists_given_iff : (∃ e, Given ps e) ↔ ValidParameters ps := by
  constructor
  · rintro ⟨e, hknown, ⟨text, htext, hpattern⟩, hgroup⟩
    refine ⟨hknown, ?_, ?_⟩
    · intro y hy
      rcases htext with ⟨hnone, -⟩ | ⟨y', hy', hstring⟩
      · rw [hnone] at hy
        cases hy
      · obtain rfl := Option.some.inj (hy.symm.trans hy')
        exact ⟨text, hstring, e.pattern, hpattern⟩
    · intro y hy
      rcases hgroup with ⟨hnone, -⟩ | ⟨y', hy', hinteger⟩
      · rw [hnone] at hy
        cases hy
      · obtain rfl := Option.some.inj (hy.symm.trans hy')
        exact ⟨e.group, hinteger⟩
  · intro h
    have htext : ∃ text, GivenText ps text ∧ Pattern.Compiles text := by
      cases hlookup : ps.lookup "pattern" with
      | none => exact ⟨"(.*)", .inl ⟨hlookup, rfl⟩, compiles_defaultPattern⟩
      | some y =>
        obtain ⟨text, hstring, hcompiles⟩ := h.pattern y hlookup
        exact ⟨text, .inr ⟨y, hlookup, hstring⟩, hcompiles⟩
    have hgroup : ∃ group, GivenGroup ps group := by
      cases hlookup : ps.lookup "group" with
      | none => exact ⟨1, .inl ⟨hlookup, rfl⟩⟩
      | some y =>
        obtain ⟨n, hn⟩ := h.group y hlookup
        exact ⟨n, .inr ⟨y, hlookup, hn⟩⟩
    obtain ⟨text, htext, p, hp⟩ := htext
    obtain ⟨group, hgroup⟩ := hgroup
    exact ⟨⟨p, group⟩, h.known, ⟨text, htext, hp⟩, hgroup⟩

/-! ### Values that are rejected -/

/-- Why an expression rejects values: there is none, the first one is not a string, or the
pattern matches it but has no such group. Groups are counted from 1. -/
inductive Rejects (e : PatternExtract) : List Value → EvalError → Prop
  | missing : e.Rejects [] (.missingArgument kind)
  | notString {v : Value} {vs : List Value} (h : ∀ text, v ≠ .string text) :
      e.Rejects (v :: vs) (.notAString kind v.typeName)
  | noGroup {text : String} {vs : List Value} (hmatch : e.pattern.isMatch text = true)
      (hgroup : e.group = 0 ∨ e.pattern.groups < e.group) :
      e.Rejects (.string text :: vs) (.invalidGroup kind e.group e.pattern.groups)

theorem extract_eq_error_iff {text : String} {err : EvalError} :
    e.extract text = .error err ↔ e.pattern.isMatch text = true ∧
      (e.group = 0 ∨ e.pattern.groups < e.group) ∧
      err = .invalidGroup kind e.group e.pattern.groups := by
  unfold extract
  split
  · next hnone => simp [Pattern.captures?_eq_none_iff.mp hnone]
  · next captures hcaptures =>
    have hmatch : e.pattern.isMatch text = true := by
      by_contra hfalse
      rw [Pattern.captures?_eq_none_iff.mpr (Bool.not_eq_true _ ▸ hfalse)] at hcaptures
      cases hcaptures
    split
    · next hgroup => simp [hmatch, hgroup, eq_comm]
    · next hgroup => simp [hgroup]

/-- An expression fails exactly if it rejects its values. -/
theorem eval_eq_error_iff {vs : List Value} {err : EvalError} :
    e.eval vs = .error err ↔ e.Rejects vs err := by
  constructor
  · intro h
    cases vs with
    | nil =>
      cases h
      exact .missing
    | cons v vs =>
      cases v with
      | string text =>
        obtain ⟨hmatch, hgroup, rfl⟩ := extract_eq_error_iff.mp h
        exact .noGroup hmatch hgroup
      | integer n =>
        cases h
        exact .notString nofun
      | float x =>
        cases h
        exact .notString nofun
  · intro h
    cases h with
    | missing => rfl
    | @notString v vs hv =>
      cases v with
      | string text => exact absurd rfl (hv text)
      | integer n => rfl
      | float x => rfl
    | noGroup hmatch hgroup => exact extract_eq_error_iff.mpr ⟨hmatch, hgroup, rfl⟩

end PatternExtract

/-! ### The kinds of the library -/

/-- The library knows expressions that cut out a group, and no other kind. -/
theorem Registry.bind_builtins (rule kind : String) (ps : Parameters) :
    builtins.bind rule kind ps =
      if kind = PatternExtract.kind then
        (PatternExtract.ofParameters rule ps).map PatternExtract.eval
      else .error (.unknownExpression kind rule) := by
  by_cases h : kind = PatternExtract.kind
  · subst h
    rfl
  · have hlookup : builtins.factories.lookup kind = none := by
      simp [builtins, empty, register, List.lookup_cons, beq_false_of_ne h]
    rw [bind, hlookup, if_neg h]

end SheetGrammar
