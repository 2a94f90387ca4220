import Mathlib.Data.List.Basic
import SheetGrammar.Proofs.Rule.Appending
import SheetGrammar.Proofs.Rule.Failures

/-!
# What rules see of a record

A rule looks at the type and the index of a record, and at those of its columns that its guards and
its sources select.  Records that agree on these are the same to the rule, whatever else they have.
So columns that no rule selects have no influence on what rules derive, and two rules that do not
select each other's outputs may run in either order.

## Main definitions

* `Record.addColumns` — a record with more columns.
* `Record.AgreeOn` — records that are the same but for columns out of sight.
* `Rule.sees` — whether a rule looks at a column.
* `Rule.Ignores` — a rule does not look at what another one derives.

## Main results

* `Rule.derive_congr` — a rule makes the same of records that agree on what it sees.
* `Rule.derive_commute` — rules that ignore each other commute.
* `Record.AgreeOn.deriveColumns` — rules append the same to records that agree on what they see.
* `Record.deriveTree_unseen` — columns that no rule sees have no influence.
-/

/-- Of two filters the one that keeps less decides. -/
theorem List.filter_filter_of_imp {α : Type} {p q : α → Bool} (h : ∀ a, p a = true → q a = true)
    (l : List α) : (l.filter q).filter p = l.filter p := by
  rw [List.filter_filter]
  refine List.filter_congr fun a _ => ?_
  cases ha : p a with
  | false => rfl
  | true => rw [h a ha, Bool.and_self]

namespace SheetGrammar

namespace Record

/-! ### More columns -/

/-- Appends columns. -/
def addColumns (r : Record) (cs : List Column) : Record := { r with columns := r.columns ++ cs }

@[simp] theorem addColumns_nil (r : Record) : r.addColumns [] = r := by
  cases r
  rw [addColumns, List.append_nil]

@[simp] theorem addColumns_addColumns (r : Record) (cs ds : List Column) :
    (r.addColumns cs).addColumns ds = r.addColumns (cs ++ ds) := by
  rw [addColumns, addColumns, addColumns, List.append_assoc]

theorem addColumns_singleton (r : Record) (c : Column) : r.addColumns [c] = r.addColumn c := rfl

variable {rule : Rule} {sheet : String} {r : Record}

/-- A rule that succeeds appends what it derives. -/
theorem deriveColumns_singleton {column? : Option Column} (h : rule.derive sheet r = .ok column?) :
    deriveColumns sheet r [rule] = (r.addColumns column?.toList, none) := by
  rw [deriveColumns, h]
  cases column? with
  | none => rw [Option.toList_none, addColumns_nil]; rfl
  | some c => rfl

theorem failure_singleton_eq_none_iff :
    (deriveColumns sheet r [rule]).2 = none ↔ ∃ column?, rule.derive sheet r = .ok column? := by
  constructor
  · intro h
    rw [deriveColumns] at h
    cases hderive : rule.derive sheet r with
    | error e =>
      rw [hderive] at h
      cases h
    | ok column? => exact ⟨column?, rfl⟩
  · rintro ⟨column?, h⟩
    rw [deriveColumns_singleton h]

/-! ### Columns in sight -/

/-- Records are the same but for the columns out of sight and the records under them. -/
structure AgreeOn (see : Column → Bool) (r s : Record) : Prop where
  name : r.name = s.name
  index : r.index = s.index
  columns : r.columns.filter see = s.columns.filter see

end Record

/-- All columns that are meant by the address or the tag are in sight. -/
def ColumnRef.InSight (see : Column → Bool) (ref : ColumnRef) : Prop :=
  ∀ c : Column, c.matches ref.col ref.tag = true → see c = true

namespace Record.AgreeOn

variable {see see' : Column → Bool} {r s : Record}

theorem refl (see : Column → Bool) (r : Record) : AgreeOn see r r := ⟨rfl, rfl, rfl⟩

/-- Records that agree on some columns agree on fewer ones. -/
theorem mono (h : AgreeOn see r s) (hsee : ∀ c, see' c = true → see c = true) :
    AgreeOn see' r s := by
  refine ⟨h.name, h.index, ?_⟩
  rw [← List.filter_filter_of_imp hsee, h.columns, List.filter_filter_of_imp hsee]

theorem addColumn (h : AgreeOn see r s) (c : Column) :
    AgreeOn see (r.addColumn c) (s.addColumn c) := by
  refine ⟨h.name, h.index, ?_⟩
  rw [Record.addColumn, Record.addColumn, List.filter_append, List.filter_append, h.columns]

/-- A column out of sight makes no difference. -/
theorem addColumn_left {c : Column} (hc : see c = false) (r : Record) :
    AgreeOn see (r.addColumn c) r := by
  refine ⟨rfl, rfl, ?_⟩
  rw [Record.addColumn, List.filter_append, List.filter_cons_of_neg (by rw [hc]; decide)]
  exact List.append_nil _

theorem select_eq (h : AgreeOn see r s) {ref : ColumnRef} (href : ref.InSight see) :
    ref.select r.columns = ref.select s.columns := by
  have hselect : ∀ columns, ref.select (columns.filter see) = ref.select columns :=
    List.filter_filter_of_imp href
  rw [← hselect, h.columns, hselect]

end Record.AgreeOn

/-! ### One rule -/

namespace Rule

variable {a b rule : Rule} {sheet : String} {r s : Record}

/-- Whether a guard or a source of the rule selects a column. -/
def sees (rule : Rule) (c : Column) : Bool :=
  (rule.guards.any fun g => c.matches g.source.col g.source.tag)
    || rule.sources.any fun s => c.matches s.col s.tag

theorem inSight_of_guard {g : Guard} (hg : g ∈ rule.guards) : g.source.InSight rule.sees :=
  fun _ h => Bool.or_eq_true_iff.mpr (.inl (List.any_eq_true.mpr ⟨g, hg, h⟩))

theorem inSight_of_source {ref : ColumnRef} (href : ref ∈ rule.sources) :
    ref.InSight rule.sees :=
  fun _ h => Bool.or_eq_true_iff.mpr (.inr (List.any_eq_true.mpr ⟨ref, href, h⟩))

theorem applies_congr (h : Record.AgreeOn rule.sees r s) : rule.applies r = rule.applies s := by
  have hguards : ∀ g ∈ rule.guards, g.holds r.columns = g.holds s.columns := by
    intro g hg
    rw [Guard.holds, Guard.holds, h.select_eq (inSight_of_guard hg)]
  have hall : (rule.guards.all fun g => g.holds r.columns)
      = rule.guards.all fun g => g.holds s.columns := by
    rw [Bool.eq_iff_iff, List.all_eq_true, List.all_eq_true]
    exact forall₂_congr fun g hg => by rw [hguards g hg]
  rw [applies, applies, h.name, hall]

theorem sourceValues_congr (h : Record.AgreeOn rule.sees r s) :
    rule.sourceValues r.columns = rule.sourceValues s.columns :=
  List.flatMap_congr fun ref href => by rw [h.select_eq (inSight_of_source href)]

/-- A rule makes the same of records that agree on what it sees, and fails on them alike. -/
theorem derive_congr (h : Record.AgreeOn rule.sees r s) :
    rule.derive sheet r = rule.derive sheet s := by
  rw [derive, derive, applies_congr h, sourceValues_congr h, h.name, h.index]

/-! ### Two rules -/

/-- No guard and no source of the rule `b` selects a column that bears the output of `a`. -/
def Ignores (b a : Rule) : Prop := ∀ c : Column, c.ref = a.output → b.sees c = false

/-- A column is seen by its address and its tag, so that it is enough to look at one value. -/
theorem ignores_of_sees (value : Value) (h : b.sees ⟨a.output.col, a.output.tag, value⟩ = false) :
    b.Ignores a := by
  rintro ⟨col, tag, value'⟩ hc
  obtain ⟨rfl, rfl⟩ : col = a.output.col ∧ tag = a.output.tag := ColumnRef.mk.inj hc
  exact h

/-- What a rule has made of a record is out of sight of a rule that ignores it. -/
theorem Ignores.agreeOn (h : b.Ignores a) (sheet : String) (r : Record) :
    Record.AgreeOn b.sees (r.deriveColumns sheet [a]).1 r := by
  rw [Record.deriveColumns]
  cases hderive : a.derive sheet r with
  | error e => exact .refl _ r
  | ok column? =>
    cases column? with
    | none => exact .refl _ r
    | some c => exact .addColumn_left (h c (ref_of_derive hderive)) r

theorem Ignores.derive_eq (h : b.Ignores a) (sheet : String) (r : Record) :
    b.derive sheet (r.deriveColumns sheet [a]).1 = b.derive sheet r :=
  derive_congr (h.agreeOn sheet r)

theorem deriveColumns_pair (a b : Rule) (sheet : String) (r : Record) :
    r.deriveColumns sheet [a, b]
      = Visit.andThen (r.deriveColumns sheet [a]) id fun r => r.deriveColumns sheet [b] :=
  Record.deriveColumns_append [a] [b] r

/-- Two rules of which the second ignores the first succeed if both do by themselves. -/
theorem Ignores.failure_eq_none_iff (h : b.Ignores a) :
    (r.deriveColumns sheet [a, b]).2 = none ↔
      (∃ x, a.derive sheet r = .ok x) ∧ ∃ y, b.derive sheet r = .ok y := by
  rw [deriveColumns_pair, Visit.failure_andThen, Option.or_eq_none_iff,
    Record.failure_singleton_eq_none_iff, Record.failure_singleton_eq_none_iff, h.derive_eq]

/-- Then they append what they derive by themselves. -/
theorem Ignores.deriveColumns_eq (h : b.Ignores a) {x y : Option Column}
    (hx : a.derive sheet r = .ok x) (hy : b.derive sheet r = .ok y) :
    r.deriveColumns sheet [a, b] = (r.addColumns (x.toList ++ y.toList), none) := by
  -- the second rule does not see the column that the first one may have appended
  have hfirst := Record.deriveColumns_singleton hx
  have hsecond := h.derive_eq sheet r
  rw [hfirst, hy] at hsecond
  rw [deriveColumns_pair, hfirst, Visit.andThen, Record.deriveColumns_singleton hsecond,
    Record.addColumns_addColumns]

/-- **Rules that ignore each other commute.** If no guard and no source of either of two rules
selects a column with the output of the other one, then running both on a record succeeds in the one
order if and only if it does in the other.  Behind the other one each rule applies exactly if it does
in front of it, and derives the same.  The records that the two orders make differ in nothing but the
order of the new columns. -/
theorem derive_commute (hab : a.Ignores b) (hba : b.Ignores a) (sheet : String) (r : Record) :
    ((r.deriveColumns sheet [a, b]).2 = none ↔ (r.deriveColumns sheet [b, a]).2 = none) ∧
    (a.applies (r.deriveColumns sheet [b]).1 = a.applies r ∧
      b.applies (r.deriveColumns sheet [a]).1 = b.applies r) ∧
    (a.derive sheet (r.deriveColumns sheet [b]).1 = a.derive sheet r ∧
      b.derive sheet (r.deriveColumns sheet [a]).1 = b.derive sheet r) ∧
    ((r.deriveColumns sheet [a, b]).2 = none → ∃ x y,
      a.derive sheet r = .ok x ∧ b.derive sheet r = .ok y ∧
      (r.deriveColumns sheet [a, b]).1 = r.addColumns (x.toList ++ y.toList) ∧
      (r.deriveColumns sheet [b, a]).1 = r.addColumns (y.toList ++ x.toList)) := by
  refine ⟨?_, ⟨applies_congr (hab.agreeOn sheet r), applies_congr (hba.agreeOn sheet r)⟩,
    ⟨hab.derive_eq sheet r, hba.derive_eq sheet r⟩, ?_⟩
  · rw [hba.failure_eq_none_iff, hab.failure_eq_none_iff, and_comm]
  · intro hnone
    obtain ⟨⟨x, hx⟩, y, hy⟩ := hba.failure_eq_none_iff.mp hnone
    exact ⟨x, y, hx, hy, congrArg Prod.fst (hba.deriveColumns_eq hx hy),
      congrArg Prod.fst (hab.deriveColumns_eq hy hx)⟩

/-- A rule that gives each record a column with the tag `tag` and the value of its first column with
the tag `source`. -/
def copying (source tag : String) : Rule :=
  ⟨tag, (Pattern.parse? anyRowType).getD default, [], [⟨"", source⟩], ⟨"", tag⟩,
    some fun values =>
      match values with
      | [] => .error (.missingArgument tag)
      | v :: _ => .ok v⟩

/-- An item with a text. -/
def textItem : Record := ⟨"item", 1, [⟨"A", "text", .string "i"⟩], []⟩

/-- The sources and the outputs of both rules have an empty address, which selects nothing. -/
theorem derive_commute_copies :
    (copying "text" "x").Ignores (copying "text" "y") ∧
      (copying "text" "y").Ignores (copying "text" "x") ∧
      ∃ x y,
        (copying "text" "x").derive "s" textItem = .ok x ∧
        (copying "text" "y").derive "s" textItem = .ok y ∧
        (textItem.deriveColumns "s" [copying "text" "x", copying "text" "y"]).1
          = textItem.addColumns (x.toList ++ y.toList) ∧
        (textItem.deriveColumns "s" [copying "text" "y", copying "text" "x"]).1
          = textItem.addColumns (y.toList ++ x.toList) := by
  have hxy : (copying "text" "x").Ignores (copying "text" "y") :=
    ignores_of_sees default (by decide)
  have hyx : (copying "text" "y").Ignores (copying "text" "x") :=
    ignores_of_sees default (by decide)
  have hnone : (textItem.deriveColumns "s" [copying "text" "x", copying "text" "y"]).2 = none := by
    decide +kernel
  exact ⟨hxy, hyx, (derive_commute hxy hyx "s" textItem).2.2.2 hnone⟩

end Rule

namespace Record

/-! ### Columns out of sight -/

/-- Rules append the same columns to records that agree on what they see, until they fail alike. -/
theorem AgreeOn.deriveColumns {see : Column → Bool} {r s : Record} (h : AgreeOn see r s)
    (sheet : String) {rules : List Rule}
    (hsee : ∀ rule ∈ rules, ∀ c, rule.sees c = true → see c = true) :
    ∃ added failure, r.deriveColumns sheet rules = (r.addColumns added, failure) ∧
      s.deriveColumns sheet rules = (s.addColumns added, failure) := by
  induction rules generalizing r s with
  | nil => exact ⟨[], none, by rw [addColumns_nil]; rfl, by rw [addColumns_nil]; rfl⟩
  | cons rule rules ih =>
    obtain ⟨hrule, hrules⟩ := List.forall_mem_cons.mp hsee
    have hderive : rule.derive sheet r = rule.derive sheet s := Rule.derive_congr (h.mono hrule)
    rw [Record.deriveColumns, Record.deriveColumns, hderive]
    cases rule.derive sheet s with
    | error e => exact ⟨[], some e, by rw [addColumns_nil], by rw [addColumns_nil]⟩
    | ok column? =>
      cases column? with
      | none => exact ih h hrules
      | some c =>
        -- both records have the new column, whether later rules see it or not
        obtain ⟨added, failure, hr, hs⟩ := ih (h.addColumn c) hrules
        rw [← addColumns_singleton, addColumns_addColumns] at hr hs
        exact ⟨c :: added, failure, hr, hs⟩

/-- A record with none under it is visited by running the rules on it. -/
theorem deriveTree_of_children_eq_nil (rules : List Rule) (sheet : String) {r : Record}
    (h : r.children = []) : deriveTree rules sheet r = deriveColumns sheet r rules := by
  have halone : r.alone = r := by
    cases r
    cases h
    rfl
  rw [← halone, deriveTree_alone]

/-- **Columns that no rule sees have no influence.** Two records without others under them, which
have the same name and index and whose columns are the same once those are removed that no guard and
no source of any rule selects, get the same columns in the same order; and if the rules fail on the
one record, they fail on the other one with the same error. -/
theorem deriveTree_unseen (rules : List Rule) (sheet : String) {r s : Record}
    (hr : r.children = []) (hs : s.children = []) (hname : r.name = s.name)
    (hindex : r.index = s.index)
    (hcolumns : r.columns.filter (fun c => rules.any fun rule => rule.sees c)
      = s.columns.filter fun c => rules.any fun rule => rule.sees c) :
    ∃ added failure, deriveTree rules sheet r = (r.addColumns added, failure) ∧
      deriveTree rules sheet s = (s.addColumns added, failure) := by
  have hagree : AgreeOn (fun c => rules.any fun rule => rule.sees c) r s :=
    ⟨hname, hindex, hcolumns⟩
  rw [deriveTree_of_children_eq_nil rules sheet hr, deriveTree_of_children_eq_nil rules sheet hs]
  exact hagree.deriveColumns sheet fun rule hrule c hc => List.any_eq_true.mpr ⟨rule, hrule, hc⟩

/-- The second rule sees what the first one appends, and neither sees the notes. -/
def copyTwice : List Rule := [Rule.copying "text" "x", Rule.copying "x" "y"]

/-- An item with the same text, between notes. -/
def notedItem : Record :=
  ⟨"item", 1, [⟨"B", "note", .integer 5⟩, ⟨"A", "text", .string "i"⟩, ⟨"", "", .string "x"⟩], []⟩

/-- The notes stay where they are, before the columns that both items get. -/
theorem deriveTree_unseen_notes :
    (Rule.textItem.columns.filter fun c => copyTwice.any fun rule => rule.sees c)
        = (notedItem.columns.filter fun c => copyTwice.any fun rule => rule.sees c) ∧
      (∃ added failure,
        deriveTree copyTwice "s" Rule.textItem = (Rule.textItem.addColumns added, failure) ∧
        deriveTree copyTwice "s" notedItem = (notedItem.addColumns added, failure)) ∧
      (deriveTree copyTwice "s" notedItem).1.columns.map Column.tag
        = ["note", "text", "", "x", "y"] := by
  have hcolumns : (Rule.textItem.columns.filter fun c => copyTwice.any fun rule => rule.sees c)
      = notedItem.columns.filter fun c => copyTwice.any fun rule => rule.sees c := by
    decide
  exact ⟨hcolumns, deriveTree_unseen copyTwice "s" rfl rfl rfl rfl hcolumns, by decide +kernel⟩

end Record

end SheetGrammar
