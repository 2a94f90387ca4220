import SheetGrammar.Proofs.Config.Derive
import SheetGrammar.Proofs.Config.Read

/-!
# Sheets go where the configuration says

The entries of a configuration say, each for the sheets on which all its conditions hold, what is
to be done with them; the first entry that holds of a sheet decides.  A plan has selectors in the
place of entries: conditions are compiled, and names lose the blanks around them.  The target that
selectors pick is that of the entry that decides.

## Main definitions

* `ConditionEntry.holds` — whether a condition holds, as it is written.
* `Route` — an entry for sheets: its conditions and what it says.
* `Route.Decides` — the first of some entries that holds of a sheet.
* `Routed` — the entries of a configuration beside the selectors that are built from it.

## Main results

* `ConditionEntry.holds_of_compile` — compiling a condition keeps the sheets of which it holds.
* `select?_eq_find?` — selectors pick what the first entry that holds says.
* `Routed.select?_follows_entries` — so they do in each plan that is built, whatever stands behind
  that entry.
-/

namespace SheetGrammar

/-! ### Conditions -/

/-- Whether a condition holds of a sheet, as it is written: the pattern matches somewhere in the
name, or the position is one of those from the lower bound to the upper one, or it is the lower
bound that stands alone. -/
def ConditionEntry.holds (sheet : String) (position : Nat) : ConditionEntry → Bool
  | ⟨some pattern, none, none⟩ => (Pattern.parse? pattern).any fun p => p.isMatch sheet
  | ⟨none, some low, some high⟩ => low ≤ position && position ≤ high
  | ⟨none, some low, none⟩ => position = low
  | _ => false

/-- Compiling a condition keeps the sheets of which it holds. -/
theorem ConditionEntry.holds_of_compile {c : ConditionEntry} {x : SheetCondition}
    (h : c.compile = .ok x) (sheet : String) (position : Nat) :
    x.holds sheet position = c.holds sheet position := by
  unfold compile at h
  split at h
  · next pattern =>
    unfold SheetCondition.ofName at h
    split at h
    · next p hp =>
      obtain rfl := Except.ok.inj h
      rw [SheetCondition.holds, holds, hp, Option.any_some]
    · cases h
  · next low high =>
    split at h
    · cases h
    · obtain rfl := Except.ok.inj h
      cases high with
      | some high => rfl
      | none =>
        -- a lower bound that stands alone is compiled as the upper one too
        rw [SheetCondition.holds, holds, Option.getD_none, Bool.eq_iff_iff]
        simp only [Bool.and_eq_true, decide_eq_true_eq]
        omega
  · cases h

/-! ### Entries -/

/-- An entry for sheets: the conditions on them, and what it says about them. -/
structure Route (α : Type) where
  conditions : List ConditionEntry
  target : α

/-- Sheets are read from a type of rows, whose name loses the blanks around it. -/
def ReadSheetEntry.route (s : ReadSheetEntry) : Route String := ⟨s.conditions, trim s.row⟩

/-- Rules run on sheets. -/
def DeriveSheetEntry.route (s : DeriveSheetEntry) : Route (List String) :=
  ⟨s.conditions, s.applyRules⟩

namespace Route

variable {α : Type}

/-- Whether all conditions hold of a sheet; without conditions they do. -/
def holds (r : Route α) (sheet : String) (position : Nat) : Bool :=
  r.conditions.all fun c => c.holds sheet position

/-- A selector with the conditions of the entry, compiled, and its target. -/
structure Compiles (r : Route α) (s : SheetSelector α) : Prop where
  conditions : r.conditions.mapM ConditionEntry.compile = .ok s.conditions
  target : s.target = r.target

/-- The entry is the first one that holds of a sheet: it stands behind entries that do not. -/
structure Decides (sheet : String) (position : Nat) (before : List (Route α)) (r : Route α) :
    Prop where
  before : ∀ b ∈ before, b.holds sheet position = false
  holds : r.holds sheet position = true

theorem Compiles.matches_eq {r : Route α} {s : SheetSelector α} (h : r.Compiles s)
    (sheet : String) (position : Nat) : s.matches sheet position = r.holds sheet position := by
  have hconditions := (List.mapM_eq_ok_iff.mp h.conditions).map_eq_map
    fun hc => ConditionEntry.holds_of_compile hc sheet position
  have hall := congrArg (List.all · id) hconditions
  rw [List.all_map, List.all_map] at hall
  exact hall

theorem find?_eq_some_iff {routes : List (Route α)} {r : Route α} {sheet : String}
    {position : Nat} :
    (routes.find? fun r => r.holds sheet position) = some r ↔
      ∃ before after, routes = before ++ r :: after ∧ r.Decides sheet position before := by
  simp only [List.find?_eq_some_iff_append, Bool.not_eq_true']
  constructor
  · rintro ⟨hholds, before, after, heq, hbefore⟩
    exact ⟨before, after, heq, hbefore, hholds⟩
  · rintro ⟨before, after, heq, hbefore, hholds⟩
    exact ⟨hholds, before, after, heq, hbefore⟩

end Route

/-- Selectors pick what the first entry that holds of a sheet says. -/
theorem select?_eq_find? {α : Type} {routes : List (Route α)} {selectors : List (SheetSelector α)}
    (h : List.Forall₂ Route.Compiles routes selectors) (sheet : String) (position : Nat) :
    SheetSelector.select? selectors sheet position
      = (routes.find? fun r => r.holds sheet position).map Route.target := by
  unfold SheetSelector.select?
  induction h with
  | nil => rfl
  | cons hrs _ ih =>
    rw [List.find?_cons, List.find?_cons, hrs.matches_eq]
    split
    · exact congrArg some hrs.target
    · exact ih

theorem ReadSheetEntry.compiles_of_compile {g : Grammar} {s : ReadSheetEntry}
    {selector : SheetSelector String} (h : s.compile g = .ok selector) :
    s.route.Compiles selector := by
  unfold compile at h
  split at h
  · obtain ⟨conditions, hconditions, rfl⟩ := Except.map_eq_ok_iff.mp h
    exact ⟨hconditions, rfl⟩
  · cases h

theorem DeriveSheetEntry.compiles_of_compile {p : DerivePlan} {s : DeriveSheetEntry}
    {selector : SheetSelector (List String)} (h : s.compile p = .ok selector) :
    s.route.Compiles selector := by
  obtain ⟨-, hconditions, htarget⟩ := compile_eq_ok_iff.mp h
  exact ⟨hconditions, htarget⟩

/-! ### Plans -/

/-- The entries for sheets of a configuration, and the selectors of the plan that it builds. -/
inductive Routed : {α : Type} → List (Route α) → List (SheetSelector α) → Prop
  /-- Entries say from which type of rows sheets are read. -/
  | read {c : ReadConfig} {p : ReadPlan} (h : c.build = .ok p) :
      Routed (c.sheets.map ReadSheetEntry.route) p.selectors
  /-- Entries say which rules run on sheets. -/
  | derive {c : DeriveConfig} {registry : Registry} {p : DerivePlan}
      (h : c.build registry = .ok p) :
      Routed (c.sheets.map DeriveSheetEntry.route) p.selectors

namespace Routed

variable {α : Type} {routes : List (Route α)} {selectors : List (SheetSelector α)}

theorem forall₂_compiles (h : Routed routes selectors) :
    List.Forall₂ Route.Compiles routes selectors := by
  cases h with
  | read h =>
    rw [List.forall₂_map_left_iff]
    exact (ReadConfig.build_eq_ok_iff.mp h).sheets.imp
      fun _ _ => ReadSheetEntry.compiles_of_compile
  | derive h =>
    rw [List.forall₂_map_left_iff]
    exact (DeriveConfig.build_eq_ok_iff.mp h).sheets.imp
      fun _ _ => DeriveSheetEntry.compiles_of_compile

theorem select?_eq_some_iff (h : Routed routes selectors) {sheet : String} {position : Nat}
    {target : α} :
    SheetSelector.select? selectors sheet position = some target ↔
      ∃ before route after, routes = before ++ route :: after ∧
        route.Decides sheet position before ∧ route.target = target := by
  rw [select?_eq_find? h.forall₂_compiles, Option.map_eq_some_iff]
  simp only [Route.find?_eq_some_iff]
  constructor
  · rintro ⟨route, ⟨before, after, heq, hdecides⟩, htarget⟩
    exact ⟨before, route, after, heq, hdecides, htarget⟩
  · rintro ⟨before, route, after, heq, hdecides, htarget⟩
    exact ⟨route, ⟨before, after, heq, hdecides⟩, htarget⟩

/-- **Sheets go where the configuration says.** In a plan that is built, selectors pick for a sheet
what the first entry says all of whose conditions hold as they are written; they pick nothing if
there is no such entry.  Whatever stands behind the entry that decides makes no difference: with
other entries there the plan picks the same. -/
theorem select?_follows_entries (h : Routed routes selectors) (sheet : String) (position : Nat) :
    (∀ target, SheetSelector.select? selectors sheet position = some target ↔
      ∃ before route after, routes = before ++ route :: after ∧
        route.Decides sheet position before ∧ route.target = target) ∧
    (SheetSelector.select? selectors sheet position = none ↔
      ∀ route ∈ routes, route.holds sheet position = false) ∧
    (∀ before route after, routes = before ++ route :: after →
      route.Decides sheet position before →
      ∀ more selectors', Routed (before ++ route :: more) selectors' →
        SheetSelector.select? selectors' sheet position
          = SheetSelector.select? selectors sheet position) := by
  refine ⟨fun target => h.select?_eq_some_iff, ?_, ?_⟩
  · rw [select?_eq_find? h.forall₂_compiles, Option.map_eq_none_iff, List.find?_eq_none]
    simp only [Bool.not_eq_true]
  · intro before route after heq hdecides more selectors' hmore
    -- both plans have the entry that decides behind the same ones
    have hchosen : SheetSelector.select? selectors sheet position = some route.target :=
      h.select?_eq_some_iff.mpr ⟨before, route, after, heq, hdecides, rfl⟩
    rw [hchosen]
    exact hmore.select?_eq_some_iff.mpr ⟨before, route, more, rfl, hdecides, rfl⟩

/-- Some texts are copied on the second and the third sheet, and nothing is done with any other sheet
in the third place. -/
def twoEntries : DeriveConfig :=
  ⟨[⟨[⟨some "^inv", none, none⟩, ⟨none, some 2, some 3⟩], ["copy"]⟩,
      ⟨[⟨none, some 3, none⟩], []⟩],
    [⟨"copy", none, [], [⟨"A", ""⟩], ⟨"", "copied"⟩, some ⟨PatternExtract.kind, []⟩⟩]⟩

/-- Both entries hold of a third sheet with such a name, and the first one decides. -/
theorem select?_follows_entries_thirds :
    ∃ p, twoEntries.build .builtins = .ok p ∧
      SheetSelector.select? p.selectors "invoices" 3 = some ["copy"] ∧
      SheetSelector.select? p.selectors "sums" 3 = some [] ∧
      SheetSelector.select? p.selectors "invoices" 4 = none := by
  obtain ⟨p, hp⟩ : ∃ p, twoEntries.build .builtins = .ok p := ⟨_, by with_unfolding_all rfl⟩
  have hfollows := select?_follows_entries (.derive hp)
  refine ⟨p, hp, ?_, ?_, ?_⟩
  · exact ((hfollows "invoices" 3).1 ["copy"]).mpr
      ⟨[], _, _, rfl, ⟨by simp, by decide +kernel⟩, rfl⟩
  · exact ((hfollows "sums" 3).1 []).mpr
      ⟨[_], _, [], rfl, ⟨by decide +kernel, by decide +kernel⟩, rfl⟩
  · exact (hfollows "invoices" 4).2.1.mpr (by decide +kernel)

end Routed

end SheetGrammar
