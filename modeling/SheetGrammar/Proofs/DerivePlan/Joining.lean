import SheetGrammar.Proofs.DerivePlan
import SheetGrammar.Proofs.Rule.Failures

/-!
# Rules in one visit or in two

Two lists of rules may run in one visit, joined, or in two visits, one list after the other.  In
the first case a record has its columns of the second list before the records above it have any,
in the second case behind all those of the first list.  As rules see one record only, this makes
no difference: both ways succeed on the same trees and make the same of them.  They may fail at
different records, though.

## Main definitions

* `DerivePlan.naming` — plans that differ in the names of rules in their selectors.

## Main results

* `Visit.Settles.twice` — two visits that come to one.
* `Record.forall_derives_append` — joined lists succeed where both do, one after the other.
* `Record.deriveTree_append_iff`, `Record.deriveRows_append_iff` — records are derived alike in
  both ways.
* `DerivePlan.derive_joined_iff` — and so are documents.
-/

namespace SheetGrammar

/-- Two visits come to one if they settle alike and the second one makes the same of what the
first one made. -/
theorem Visit.Settles.twice {α : Type} {P Q R : Prop} {a b c : α} {x z : Visit α}
    {next : α → Visit α} (hx : Settles P a x) (hnext : Settles Q b (next a)) (hz : Settles R c z)
    (hR : R ↔ P ∧ Q) (hc : R → b = c) (t : α) :
    z = (t, none) ↔ ∃ m, x = (m, none) ∧ next m = (t, none) := by
  constructor
  · intro ht
    have hholds : R := hz.holds (by rw [ht])
    obtain ⟨hP, hQ⟩ := hR.mp hholds
    refine ⟨a, hx.eq hP, ?_⟩
    rw [hnext.eq hQ, hc hholds, ← hz.eq hholds, ht]
  · rintro ⟨m, hm, ht⟩
    have hP : P := hx.holds (by rw [hm])
    obtain rfl : a = m := congrArg Prod.fst ((hx.eq hP).symm.trans hm)
    have hQ : Q := hnext.holds (by rw [ht])
    have hholds : R := hR.mpr ⟨hP, hQ⟩
    rw [hz.eq hholds, ← hc hholds, ← hnext.eq hQ, ht]

namespace Record

variable (rules₁ rules₂ : List Rule) (sheet : String)

/-! ### One record -/

/-- On a record alone joined lists run one after the other. -/
theorem deriveColumns_alone_append {r : Record} (h : r.Derives rules₁ sheet) :
    deriveColumns sheet r.alone (rules₁ ++ rules₂)
      = deriveColumns sheet { r.alone with columns := derivedColumns rules₁ sheet r } rules₂ := by
  rw [deriveColumns_append, (settles_deriveColumns rules₁ sheet r.alone).eq h]
  rfl

theorem derives_append (r : Record) :
    r.Derives (rules₁ ++ rules₂) sheet ↔ r.Derives rules₁ sheet ∧
      (r.mapColumns (derivedColumns rules₁ sheet)).Derives rules₂ sheet := by
  constructor
  · intro h
    have h₁ : r.Derives rules₁ sheet := by
      unfold Derives at h
      rw [deriveColumns_append, Visit.failure_andThen, Option.or_eq_none_iff] at h
      exact h.1
    refine ⟨h₁, ?_⟩
    rw [Derives, alone_mapColumns]
    rw [Derives, deriveColumns_alone_append rules₁ rules₂ sheet h₁] at h
    exact h
  · rintro ⟨h₁, h₂⟩
    rw [Derives, alone_mapColumns] at h₂
    rw [Derives, deriveColumns_alone_append rules₁ rules₂ sheet h₁]
    exact h₂

/-- Joined lists succeed on some records if the first list does, and the second one does with the
columns that the first one gives. -/
theorem forall_derives_append (rs : List Record) :
    (∀ s ∈ rs, s.Derives (rules₁ ++ rules₂) sheet) ↔ (∀ s ∈ rs, s.Derives rules₁ sheet) ∧
      ∀ s ∈ rs.map (mapColumns (derivedColumns rules₁ sheet)), s.Derives rules₂ sheet := by
  simp only [derives_append, List.forall_mem_map, forall_and]

/-- The columns of joined lists are those of the second list behind those of the first. -/
theorem derivedColumns_append {r : Record} (h : r.Derives rules₁ sheet) :
    derivedColumns rules₂ sheet { r.alone with columns := derivedColumns rules₁ sheet r.alone }
      = derivedColumns (rules₁ ++ rules₂) sheet r.alone :=
  (congrArg (fun visit => visit.1.columns)
    (deriveColumns_alone_append rules₁ rules₂ sheet h)).symm

/-! ### Trees -/

theorem deriveTree_append_iff (r t : Record) :
    deriveTree (rules₁ ++ rules₂) sheet r = (t, none) ↔
      ∃ m, deriveTree rules₁ sheet r = (m, none) ∧ deriveTree rules₂ sheet m = (t, none) := by
  refine (settles_deriveTree rules₁ sheet r).twice (settles_deriveTree rules₂ sheet _)
    (settles_deriveTree (rules₁ ++ rules₂) sheet r) ?_ (fun h => ?_) t
  · rw [walk_mapColumns]
    exact forall_derives_append rules₁ rules₂ sheet r.walk
  · have hfirst := ((forall_derives_append rules₁ rules₂ sheet r.walk).mp h).1
    exact mapColumns_mapColumns r fun s hs =>
      derivedColumns_append rules₁ rules₂ sheet (hfirst s hs)

theorem deriveRows_append_iff (rs ts : List Record) :
    deriveRows (rules₁ ++ rules₂) sheet rs = (ts, none) ↔
      ∃ ms, deriveRows rules₁ sheet rs = (ms, none) ∧ deriveRows rules₂ sheet ms = (ts, none) := by
  refine (settles_deriveRows rules₁ sheet rs).twice (settles_deriveRows rules₂ sheet _)
    (settles_deriveRows (rules₁ ++ rules₂) sheet rs) ?_ (fun h => ?_) ts
  · rw [walkRows_mapColumnsRows]
    exact forall_derives_append rules₁ rules₂ sheet (walkRows rs)
  · have hfirst := ((forall_derives_append rules₁ rules₂ sheet (walkRows rs)).mp h).1
    exact mapColumnsRows_mapColumnsRows rs fun s hs =>
      derivedColumns_append rules₁ rules₂ sheet (hfirst s hs)

end Record

namespace DerivePlan

/-! ### Documents -/

/-- A plan with some rules, in which each selector names what `names` makes of its target. -/
def naming {α : Type} (selectors : List (SheetSelector α)) (rules : List Rule)
    (names : α → List String) : DerivePlan :=
  ⟨selectors.map fun s => ⟨s.conditions, names s.target⟩, rules⟩

theorem names?_naming {α : Type} (selectors : List (SheetSelector α)) (rules : List Rule)
    (names : α → List String) (s : SheetTree) :
    (naming selectors rules names).names? s
      = (SheetSelector.select? selectors s.name s.index).map names := by
  rw [names?, naming, SheetSelector.select?, SheetSelector.select?, List.find?_map,
    Option.map_map, Option.map_map]
  rfl

variable (selectors : List (SheetSelector (List String × List String))) (rules : List Rule)

/-- A sheet is derived alike with joined lists of names and with one list after the other. -/
theorem deriveSheet_joined_iff (s t : SheetTree) :
    (naming selectors rules fun names => names.1 ++ names.2).deriveSheet s = .ok t ↔
      ∃ m, (naming selectors rules Prod.fst).deriveSheet s = .ok m ∧
        (naming selectors rules Prod.snd).deriveSheet m = .ok t := by
  cases hselect : SheetSelector.select? selectors s.name s.index with
  | none =>
    have hnone : ∀ f, (naming selectors rules f).names? s = none := by
      intro f
      rw [names?_naming, hselect, Option.map_none]
    simp [deriveSheet_of_names?_eq_none (hnone _)]
  | some names =>
    -- the first pass keeps the name and the index of the sheet, so the same selector picks it
    have hsome : ∀ f rows,
        (naming selectors rules f).names? { s with rows := rows } = some (f names) := by
      intro f rows
      rw [names?_naming]
      exact congrArg (Option.map f) hselect
    rw [deriveSheet_eq_ok_iff (hsome _ s.rows), rulesOf, List.filterMap_append]
    constructor
    · rintro ⟨rows, hrows, rfl⟩
      obtain ⟨ms, hfirst, hsecond⟩ := (Record.deriveRows_append_iff _ _ _ _ _).mp hrows
      exact ⟨{ s with rows := ms }, (deriveSheet_eq_ok_iff (hsome _ s.rows)).mpr ⟨ms, hfirst, rfl⟩,
        (deriveSheet_eq_ok_iff (hsome _ ms)).mpr ⟨rows, hsecond, rfl⟩⟩
    · rintro ⟨m, hfirst, hsecond⟩
      obtain ⟨ms, hms, rfl⟩ := (deriveSheet_eq_ok_iff (hsome _ s.rows)).mp hfirst
      obtain ⟨rows, hrows, rfl⟩ := (deriveSheet_eq_ok_iff (hsome _ ms)).mp hsecond
      exact ⟨rows, (Record.deriveRows_append_iff _ _ _ _ _).mpr ⟨ms, hms, hrows⟩, rfl⟩

/-- **Joined rules in one visit come to the same as one list after the other.** A visit of a tree
with two lists of rules joined succeeds if and only if a visit with the first list does and then,
of what this one made, a visit with the second list; and it makes the same tree.  So a plan whose
selectors name two lists joined succeeds on the same documents as a plan with the first lists and
then one with the second lists, and makes the same of them. -/
theorem derive_joined_iff (rules₁ rules₂ : List Rule) (sheet : String) (r : Record)
    (d : Document) :
    (∀ t, Record.deriveTree (rules₁ ++ rules₂) sheet r = (t, none) ↔
      ∃ m, Record.deriveTree rules₁ sheet r = (m, none) ∧
        Record.deriveTree rules₂ sheet m = (t, none)) ∧
    ∀ e, (naming selectors rules fun names => names.1 ++ names.2).derive d = .ok e ↔
      ∃ m, (naming selectors rules Prod.fst).derive d = .ok m ∧
        (naming selectors rules Prod.snd).derive m = .ok e := by
  refine ⟨Record.deriveTree_append_iff rules₁ rules₂ sheet r, fun e => ?_⟩
  simp only [derive_eq_ok_iff, deriveSheet_joined_iff]
  rw [List.forall₂_comp_iff]
  constructor
  · rintro ⟨ms, hfirst, hsecond⟩
    exact ⟨⟨ms⟩, hfirst, hsecond⟩
  · rintro ⟨m, hfirst, hsecond⟩
    exact ⟨m.sheets, hfirst, hsecond⟩

/-- A rule that refuses orders. -/
def refuseOrders : List Rule :=
  (Rule.ofName "refuse" "order").toOption.toList.map fun r =>
    r.withEvaluator fun _ => .error (.missingArgument "refuse")

/-- An order with an item that has no text: joined with the rule that copies texts, the rule is
not reached. -/
example :
    (Record.deriveTree (refuseOrders ++ Record.copyText) "s" (Record.orderOf [])).2
        = some (.ruleFailed "copy" "item" 1 "s" (.missingArgument "copy")) ∧
      (Record.deriveTree refuseOrders "s" (Record.orderOf [])).2
        = some (.ruleFailed "refuse" "order" 1 "s" (.missingArgument "refuse")) := by
  decide +kernel

end DerivePlan

end SheetGrammar
