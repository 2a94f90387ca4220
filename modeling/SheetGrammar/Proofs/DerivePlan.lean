import SheetGrammar.DerivePlan
import SheetGrammar.Proofs.Except
import SheetGrammar.Proofs.Rule.Appending
import SheetGrammar.Proofs.Rule.Failures

/-!
# What a derive plan leaves alone

A plan derives the sheets of a document one by one.  Where it succeeds, the sheets and their
records are those of the document; only columns have come behind the columns of each record,
and they are outputs of rules that the plan has for the sheet.

## Main definitions

* `DerivePlan.failure?` — the failure of a plan on a record.
* `DerivePlan.Extends` — a sheet with what the plan appends to it.

## Main results

* `DerivePlan.derive_eq_ok_iff`, `DerivePlan.derive_eq_error_iff` — sheets are derived one by
  one, and the first that fails decides.
* `DerivePlan.deriveSheet_eq_error_iff` — so does the first record of a sheet in post-order.
* `DerivePlan.forall₂_rulesOf` — no name of a rule is skipped if all of them are defined.
* `DerivePlan.extends_of_deriveSheet` — what becomes of a sheet.
* `DerivePlan.forall₂_extends_of_derive` — deriving columns only appends columns.
-/

namespace SheetGrammar

namespace DerivePlan

variable {p : DerivePlan} {s t : SheetTree}

/-! ### Sheets one by one -/

theorem deriveSheets_eq_mapM (p : DerivePlan) (ss : List SheetTree) :
    p.deriveSheets ss = ss.mapM p.deriveSheet := by
  induction ss with
  | nil => rfl
  | cons s ss ih =>
    rw [deriveSheets, List.mapM_cons_eq_bind, ih]
    cases p.deriveSheet s with
    | error e => rfl
    | ok t => rfl

/-- The sheets of a document are derived one by one. -/
theorem derive_eq_ok_iff {d e : Document} :
    p.derive d = .ok e ↔ List.Forall₂ (fun s t => p.deriveSheet s = .ok t) d.sheets e.sheets := by
  rw [derive, deriveSheets_eq_mapM, Except.map_eq_ok_iff]
  constructor
  · rintro ⟨ts, hts, rfl⟩
    exact List.mapM_eq_ok_iff.mp hts
  · intro h
    exact ⟨e.sheets, List.mapM_eq_ok_iff.mpr h, rfl⟩

/-- The first sheet that fails decides. -/
theorem derive_eq_error_iff {d : Document} {e : Error} :
    p.derive d = .error e ↔ ∃ before s after, d.sheets = before ++ s :: after ∧
      (∀ b ∈ before, ∃ t, p.deriveSheet b = .ok t) ∧ p.deriveSheet s = .error e := by
  rw [derive, deriveSheets_eq_mapM, Except.map_eq_error_iff, List.mapM_eq_error_iff]

/-- A sheet that no selector picks stays as it is. -/
theorem deriveSheet_of_names?_eq_none (h : p.names? s = none) :
    p.deriveSheet s = .ok s := by
  rw [deriveSheet, h]

/-- Any other sheet gets the records that its rules make, if they succeed. -/
theorem deriveSheet_eq_ok_iff {names : List String} (h : p.names? s = some names) :
    p.deriveSheet s = .ok t ↔ ∃ rows,
      Record.deriveRows (p.rulesOf names) s.name s.rows = (rows, none) ∧
        { s with rows := rows } = t := by
  simp only [deriveSheet, h]
  generalize Record.deriveRows (p.rulesOf names) s.name s.rows = visit
  obtain ⟨rows, failure⟩ := visit
  cases failure with
  | none => simp
  | some e => simp

/-- The failure of the rules for a sheet on one of its records. -/
def failure? (p : DerivePlan) (s : SheetTree) (r : Record) : Option Error :=
  (p.names? s).bind fun names => (Record.deriveColumns s.name r (p.rulesOf names)).2

/-- The first record in post-order on which the rules fail decides about a sheet. -/
theorem deriveSheet_eq_error_iff {e : Error} :
    p.deriveSheet s = .error e ↔
      (Record.postorderRows s.rows).findSome? (p.failure? s) = some e := by
  unfold deriveSheet failure?
  cases p.names? s with
  | none =>
    have hnone : (Record.postorderRows s.rows).findSome? (fun _ => (none : Option Error)) = none :=
      List.findSome?_eq_none_iff.mpr fun _ _ => rfl
    simp [hnone]
  | some names =>
    simp only [Option.bind_some, ← Record.failure_deriveRows]
    generalize Record.deriveRows (p.rulesOf names) s.name s.rows = visit
    obtain ⟨rows, failure⟩ := visit
    cases failure with
    | none => simp
    | some e' => simp

/-! ### Rules by name -/

theorem rule?_isSome_iff {name : String} :
    (p.rule? name).isSome = true ↔ name ∈ p.rules.map Rule.name := by
  simp [rule?]

/-- A look-up finds a rule of the plan that bears the name. -/
theorem mem_of_rule? {name : String} {rule : Rule} (h : p.rule? name = some rule) :
    rule ∈ p.rules ∧ rule.name = name :=
  ⟨List.mem_of_find?_eq_some h, by simpa using List.find?_some h⟩

theorem mem_of_mem_rulesOf {names : List String} {rule : Rule} (h : rule ∈ p.rulesOf names) :
    rule ∈ p.rules := by
  obtain ⟨name, -, hname⟩ := List.mem_filterMap.mp h
  exact (mem_of_rule? hname).1

/-- One more rule fits if its name is new. -/
theorem addRule_eq_ok_iff {rule : Rule} {p' : DerivePlan} :
    p.addRule rule = .ok p' ↔
      rule.name ∉ p.rules.map Rule.name ∧ p' = { p with rules := p.rules ++ [rule] } := by
  rw [addRule, ← rule?_isSome_iff]
  split
  · next h => simp [h]
  · next h => simp [h, eq_comm]

/-- If all names have rules, none of them is skipped. -/
theorem forall₂_rulesOf {names : List String} (h : ∀ name ∈ names, ∃ rule, p.rule? name = some rule) :
    List.Forall₂ (fun name rule => p.rule? name = some rule) names (p.rulesOf names) := by
  induction names with
  | nil => exact .nil
  | cons name names ih =>
    obtain ⟨⟨rule, hrule⟩, hnames⟩ := List.forall_mem_cons.mp h
    rw [rulesOf, List.filterMap_cons_some hrule]
    exact .cons hrule (ih hnames)

/-! ### What becomes of a sheet -/

/-- The sheet `t` is the sheet `s` with what the plan appends to it. -/
structure Extends (p : DerivePlan) (s t : SheetTree) : Prop where
  name : t.name = s.name
  index : t.index = s.index
  /-- With rules for the sheet, its records are the same but for outputs of these rules behind
  their columns. -/
  rows : ∀ names, p.names? s = some names →
    Record.RowsAlike (Record.Appends ((p.rulesOf names).map Rule.output)) s.rows t.rows
  /-- Without a selector for the sheet, it is the same. -/
  eq_of_none : p.names? s = none → t = s

theorem extends_of_deriveSheet (h : p.deriveSheet s = .ok t) : p.Extends s t := by
  cases hnames : p.names? s with
  | none =>
    rw [deriveSheet_of_names?_eq_none hnames] at h
    obtain rfl : s = t := Except.ok.inj h
    refine ⟨rfl, rfl, ?_, fun _ => rfl⟩
    intro names hsome
    rw [hnames] at hsome
    cases hsome
  | some names =>
    obtain ⟨rows, hrows, rfl⟩ := (deriveSheet_eq_ok_iff hnames).mp h
    refine ⟨rfl, rfl, ?_, ?_⟩
    · intro names' hnames'
      obtain rfl : names = names' := Option.some.inj (hnames.symm.trans hnames')
      have halike := Record.rowsAlike_deriveRows (p.rulesOf names) s.name s.rows
      rw [hrows] at halike
      exact halike
    · intro hnone
      rw [hnames] at hnone
      cases hnone

/-- **Deriving columns only appends columns.** Where it succeeds, the sheets of the document are
the same, in their order and with their names and indexes.  A sheet that no selector picks is
unchanged.  In any other sheet the records are the same, with their names, indexes and groups;
the columns of each record stand before the new ones, and these bear outputs of the rules that
the first matching selector names, in their order. -/
theorem forall₂_extends_of_derive {d e : Document} (h : p.derive d = .ok e) :
    List.Forall₂ p.Extends d.sheets e.sheets :=
  (derive_eq_ok_iff.mp h).imp fun _ _ => extends_of_deriveSheet

/-- A plan that copies the texts of the first sheet. It also names a rule that is missing. -/
def copies : DerivePlan := ⟨[⟨[.range 1 1], ["copy", "missing"]⟩], Record.copyText⟩

/-- Two sheets with an order each. -/
def twoOrders : Document :=
  ⟨[⟨"a", 1, [Record.orderOf [⟨"A", "text", .string "i"⟩]]⟩, ⟨"b", 2, [Record.orderOf []]⟩]⟩

/-- The first sheet gets a column in each record; the second comes back as it was. -/
theorem forall₂_extends_of_derive_copies :
    ∃ e, copies.derive twoOrders = .ok e ∧ List.Forall₂ copies.Extends twoOrders.sheets e.sheets ∧
      e.sheets.map (fun t => (Record.walkRows t.rows).map fun r => r.columns.length)
        = [[2, 2], [1, 0]] := by
  refine ⟨?_, ?_, ?_, ?_⟩
  · exact ⟨[⟨"a", 1, (Record.deriveRows Record.copyText "a"
      [Record.orderOf [⟨"A", "text", .string "i"⟩]]).1⟩, ⟨"b", 2, [Record.orderOf []]⟩]⟩
  · with_unfolding_all rfl
  · exact forall₂_extends_of_derive (by with_unfolding_all rfl)
  · with_unfolding_all rfl

end DerivePlan

end SheetGrammar
