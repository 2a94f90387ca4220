import SheetGrammar.Proofs.Record.Columns
import SheetGrammar.Rule

/-!
# Deriving columns is local to each record

The rules of a sheet run on every record of a tree, those under a record before the record
itself.  A rule looks at one record at a time, so that each record ends up with the columns
that the rules give it when it stands alone, and the visit fails if and only if it fails on
some record alone.  Any other order of the visit comes to the same.

## Main definitions

* `Visit` — what a visit made, and the failure that ended it.
* `Visit.Settles` — a visit that fails unless a condition holds, and what it makes then.
* `Record.Derives`, `Record.derivedColumns` — the rules at work on a record alone.
* `Record.deriveParentFirst` — a visit in which a record comes before those under it.

## Main results

* `Visit.Settles.andThen` — one visit after another settles if both do.
* `Record.deriveColumns_eq` — rules see nothing of a record but the record alone.
* `Record.settles_deriveTree`, `Record.settles_deriveParentFirst` — both orders succeed under
  the same condition and make the same tree.
* `Record.deriveTree_local` — deriving columns is local to each record.
-/

namespace SheetGrammar

/-! ### Visits -/

/-- What a visit of records made of them, and the failure that ended it, if there was one. -/
abbrev Visit (α : Type) := α × Option Error

namespace Visit

variable {α β : Type}

/-- One visit after another. If the first one fails, `stop` tells what was made until then. -/
def andThen (x : Visit α) (stop : α → β) (next : α → Visit β) : Visit β :=
  match x with
  | (a, some e) => (stop a, some e)
  | (a, none) => next a

/-- What a visit made, put into something larger. -/
def map (f : α → β) (x : Visit α) : Visit β := (f x.1, x.2)

/-- A visit makes `a` if `P` holds, and fails otherwise. -/
structure Settles (P : Prop) (a : α) (x : Visit α) : Prop where
  eq : P → x = (a, none)
  holds : x.2 = none → P

namespace Settles

variable {P Q : Prop} {a : α} {b : β} {x y : Visit α}

theorem congr (h : Settles P a x) (hPQ : P ↔ Q) : Settles Q a x :=
  ⟨fun hQ => h.eq (hPQ.mpr hQ), fun hx => hPQ.mp (h.holds hx)⟩

theorem map (h : Settles P a x) (f : α → β) : Settles P (f a) (x.map f) where
  eq hP := by
    rw [h.eq hP]
    rfl
  holds hx := h.holds hx

/-- One visit after another settles if both do; the second one starts from what the first one
made. -/
theorem andThen {stop : α → β} {next : α → Visit β} (h : Settles P a x)
    (hnext : Settles Q b (next a)) : Settles (P ∧ Q) b (x.andThen stop next) where
  eq hPQ := by
    rw [h.eq hPQ.1]
    exact hnext.eq hPQ.2
  holds hnone := by
    obtain ⟨a', failure⟩ := x
    cases failure with
    | some e => cases hnone
    | none =>
      have hP : P := h.holds rfl
      obtain rfl : a' = a := congrArg Prod.fst (h.eq hP)
      exact ⟨hP, hnext.holds hnone⟩

theorem iff (h : Settles P a x) : x.2 = none ↔ P := by
  refine ⟨h.holds, fun hP => ?_⟩
  rw [h.eq hP]

/-- Visits that settle alike are the same if one of them succeeds. -/
theorem eq_of_none (h : Settles P a x) (h' : Settles P a y) (hx : x.2 = none) : y = x := by
  rw [h.eq (h.holds hx), h'.eq (h.holds hx)]

end Settles

end Visit

namespace Record

/-! ### One record -/

/-- The rules succeed on the record alone. -/
def Derives (rules : List Rule) (sheet : String) (r : Record) : Prop :=
  (deriveColumns sheet r.alone rules).2 = none

/-- The columns that the rules give to the record alone. -/
def derivedColumns (rules : List Rule) (sheet : String) (r : Record) : List Column :=
  (deriveColumns sheet r.alone rules).1.columns

variable (rules : List Rule) (sheet : String)

/-- Rules see nothing of a record but the record alone, and change nothing but its columns. -/
theorem deriveColumns_eq (r : Record) :
    deriveColumns sheet r rules
      = ({ r with columns := (deriveColumns sheet r.alone rules).1.columns },
          (deriveColumns sheet r.alone rules).2) := by
  induction rules generalizing r with
  | nil =>
    cases r
    rfl
  | cons rule rules ih =>
    -- a rule looks at the name, the index and the columns, which a record alone still has
    have hderive : rule.derive sheet r.alone = rule.derive sheet r := rfl
    rw [deriveColumns, deriveColumns, hderive]
    cases rule.derive sheet r with
    | error e =>
      cases r
      rfl
    | ok column? =>
      cases column? with
      | none => exact ih r
      | some c => exact ih (r.addColumn c)

theorem deriveColumns_alone (r : Record) :
    (deriveColumns sheet r.alone rules).1
      = { r.alone with columns := derivedColumns rules sheet r } :=
  congrArg Prod.fst (deriveColumns_eq rules sheet r.alone)

theorem settles_deriveColumns (r : Record) :
    Visit.Settles (r.Derives rules sheet)
      { r with columns := derivedColumns rules sheet r } (deriveColumns sheet r rules) := by
  rw [deriveColumns_eq]
  exact ⟨fun h => congrArg (Prod.mk _) h, id⟩

/-! ### Trees -/

theorem deriveTree_eq (name : String) (index : Nat) (columns : List Column)
    (children : List (Group Record)) :
    deriveTree rules sheet ⟨name, index, columns, children⟩
      = Visit.andThen (deriveGroups rules sheet children)
          (fun children => ⟨name, index, columns, children⟩)
          fun children => deriveColumns sheet ⟨name, index, columns, children⟩ rules := by
  rw [deriveTree]
  obtain ⟨children, failure⟩ := deriveGroups rules sheet children
  cases failure with
  | none => rfl
  | some e => rfl

theorem deriveGroups_cons (name : String) (rows : List Record) (gs : List (Group Record)) :
    deriveGroups rules sheet (⟨name, rows⟩ :: gs)
      = Visit.andThen (deriveRows rules sheet rows) (fun rows => ⟨name, rows⟩ :: gs)
          fun rows => Visit.map (⟨name, rows⟩ :: ·) (deriveGroups rules sheet gs) := by
  rw [deriveGroups]
  obtain ⟨rows, failure⟩ := deriveRows rules sheet rows
  cases failure with
  | none => rfl
  | some e => rfl

theorem deriveRows_cons (r : Record) (rs : List Record) :
    deriveRows rules sheet (r :: rs)
      = Visit.andThen (deriveTree rules sheet r) (· :: rs)
          fun r => Visit.map (r :: ·) (deriveRows rules sheet rs) := by
  rw [deriveRows]
  obtain ⟨r, failure⟩ := deriveTree rules sheet r
  cases failure with
  | none => rfl
  | some e => rfl

mutual

/-- A visit of a tree succeeds if the rules succeed on each record alone, and gives each record
the columns that it gets alone. -/
theorem settles_deriveTree :
    ∀ r : Record, Visit.Settles (∀ s ∈ r.walk, s.Derives rules sheet)
      (r.mapColumns (derivedColumns rules sheet)) (deriveTree rules sheet r)
  | ⟨name, index, columns, children⟩ => by
    rw [deriveTree_eq, mapColumns]
    have hself := settles_deriveColumns rules sheet
      ⟨name, index, columns, mapColumnsGroups (derivedColumns rules sheet) children⟩
    refine Visit.Settles.congr ((settles_deriveGroups children).andThen hself) ?_
    -- the walk lists the record first, but the visit comes to it last
    rw [walk, List.forall_mem_cons, and_comm]
    exact Iff.rfl

theorem settles_deriveGroups :
    ∀ gs : List (Group Record), Visit.Settles (∀ s ∈ walkGroups gs, s.Derives rules sheet)
      (mapColumnsGroups (derivedColumns rules sheet) gs) (deriveGroups rules sheet gs)
  | [] => ⟨fun _ => rfl, fun _ => by simp [walkGroups]⟩
  | ⟨name, rows⟩ :: gs => by
    rw [deriveGroups_cons, mapColumnsGroups]
    refine ((settles_deriveRows rows).andThen ((settles_deriveGroups gs).map _)).congr ?_
    rw [walkGroups, List.forall_mem_append]

theorem settles_deriveRows :
    ∀ rs : List Record, Visit.Settles (∀ s ∈ walkRows rs, s.Derives rules sheet)
      (mapColumnsRows (derivedColumns rules sheet) rs) (deriveRows rules sheet rs)
  | [] => ⟨fun _ => rfl, fun _ => by simp [walkRows]⟩
  | r :: rs => by
    rw [deriveRows_cons, mapColumnsRows]
    refine ((settles_deriveTree r).andThen ((settles_deriveRows rs).map _)).congr ?_
    rw [walkRows, List.forall_mem_append]

end

/-! ### Another order -/

mutual

/-- Runs rules on a record and then on the records under it, up to the first failure. -/
def deriveParentFirst (rules : List Rule) (sheet : String) : Record → Visit Record
  | ⟨name, index, columns, children⟩ =>
    Visit.andThen (deriveColumns sheet ⟨name, index, columns, children⟩ rules) id fun r =>
      Visit.map (fun children => { r with children := children })
        (deriveGroupsParentFirst rules sheet children)

/-- Runs rules in this order on the records of some groups. -/
def deriveGroupsParentFirst (rules : List Rule) (sheet : String) :
    List (Group Record) → Visit (List (Group Record))
  | [] => ([], none)
  | ⟨name, rows⟩ :: groups =>
    Visit.andThen (deriveRowsParentFirst rules sheet rows) (fun rows => ⟨name, rows⟩ :: groups)
      fun rows => Visit.map (⟨name, rows⟩ :: ·) (deriveGroupsParentFirst rules sheet groups)

/-- Runs rules in this order on some trees. -/
def deriveRowsParentFirst (rules : List Rule) (sheet : String) :
    List Record → Visit (List Record)
  | [] => ([], none)
  | r :: rs =>
    Visit.andThen (deriveParentFirst rules sheet r) (· :: rs) fun r =>
      Visit.map (r :: ·) (deriveRowsParentFirst rules sheet rs)

end

mutual

theorem settles_deriveParentFirst :
    ∀ r : Record, Visit.Settles (∀ s ∈ r.walk, s.Derives rules sheet)
      (r.mapColumns (derivedColumns rules sheet)) (deriveParentFirst rules sheet r)
  | ⟨name, index, columns, children⟩ => by
    rw [deriveParentFirst, mapColumns]
    have hself := settles_deriveColumns rules sheet ⟨name, index, columns, children⟩
    refine (hself.andThen ((settles_deriveGroupsParentFirst children).map _)).congr ?_
    rw [walk, List.forall_mem_cons]

theorem settles_deriveGroupsParentFirst :
    ∀ gs : List (Group Record), Visit.Settles (∀ s ∈ walkGroups gs, s.Derives rules sheet)
      (mapColumnsGroups (derivedColumns rules sheet) gs) (deriveGroupsParentFirst rules sheet gs)
  | [] => ⟨fun _ => rfl, fun _ => by simp [walkGroups]⟩
  | ⟨name, rows⟩ :: gs => by
    rw [deriveGroupsParentFirst, mapColumnsGroups]
    refine ((settles_deriveRowsParentFirst rows).andThen
      ((settles_deriveGroupsParentFirst gs).map _)).congr ?_
    rw [walkGroups, List.forall_mem_append]

theorem settles_deriveRowsParentFirst :
    ∀ rs : List Record, Visit.Settles (∀ s ∈ walkRows rs, s.Derives rules sheet)
      (mapColumnsRows (derivedColumns rules sheet) rs) (deriveRowsParentFirst rules sheet rs)
  | [] => ⟨fun _ => rfl, fun _ => by simp [walkRows]⟩
  | r :: rs => by
    rw [deriveRowsParentFirst, mapColumnsRows]
    refine ((settles_deriveParentFirst r).andThen
      ((settles_deriveRowsParentFirst rs).map _)).congr ?_
    rw [walkRows, List.forall_mem_append]

end

/-! ### The theorem -/

theorem heads_mapColumns_derivedColumns (r : Record) :
    heads [r.mapColumns (derivedColumns rules sheet)]
      = r.walk.map fun s => (deriveColumns sheet s.alone rules).1 := by
  have hwalk : heads [r] = r.walk.map alone := by rw [heads, walkRows_singleton]
  calc
    heads [r.mapColumns (derivedColumns rules sheet)]
      = (heads [r]).map fun s => { s with columns := derivedColumns rules sheet s } :=
        heads_mapColumnsRows [r]
    _ = r.walk.map fun s => (deriveColumns sheet s.alone rules).1 := by
      rw [hwalk, List.map_map]
      exact List.map_congr_left fun s _ => (deriveColumns_alone rules sheet s).symm

/-- **Deriving columns is local to each record.** A visit of a tree succeeds if and only if the
rules succeed on each of its records alone; then every record has exactly the columns that the
rules give it alone, and nothing else has changed.  A visit in which each record comes before
those under it succeeds on the same trees and makes the same of them. -/
theorem deriveTree_local (r : Record) :
    ((deriveTree rules sheet r).2 = none ↔
      ∀ s ∈ r.walk, (deriveColumns sheet s.alone rules).2 = none) ∧
    ((deriveTree rules sheet r).2 = none →
      (deriveTree rules sheet r).1
          = r.mapColumns (fun s => (deriveColumns sheet s.alone rules).1.columns) ∧
        heads [(deriveTree rules sheet r).1]
          = r.walk.map fun s => (deriveColumns sheet s.alone rules).1) ∧
    ((deriveParentFirst rules sheet r).2 = none ↔ (deriveTree rules sheet r).2 = none) ∧
    ((deriveTree rules sheet r).2 = none →
      (deriveParentFirst rules sheet r).1 = (deriveTree rules sheet r).1) := by
  have htree := settles_deriveTree rules sheet r
  have hparent := settles_deriveParentFirst rules sheet r
  refine ⟨htree.iff, ?_, hparent.iff.trans htree.iff.symm, ?_⟩
  · intro h
    have hmade := congrArg Prod.fst (htree.eq (htree.holds h))
    refine ⟨hmade, ?_⟩
    rw [hmade]
    exact heads_mapColumns_derivedColumns rules sheet r
  · intro h
    rw [htree.eq_of_none hparent h]

/-! ### An example -/

/-- A rule that copies the text of each record into one more column. -/
def copyText : List Rule :=
  (Rule.ofName "copy" "").toOption.toList.map fun r =>
    ((r.withSource "" "text").withOutput "Z" "copy").withEvaluator fun values =>
      match values with
      | [] => .error (.missingArgument "copy")
      | v :: _ => .ok v

/-- An order with one item. -/
def orderOf (columns : List Column) : Record :=
  ⟨"order", 1, [⟨"A", "text", .string "o"⟩], [⟨"item", [⟨"item", 1, columns, []⟩]⟩]⟩

/-- An item with a text and one without. -/
theorem deriveTree_local_orders :
    heads [(deriveTree copyText "s" (orderOf [⟨"A", "text", .string "i"⟩])).1]
      = [⟨"order", 1, [⟨"A", "text", .string "o"⟩, ⟨"Z", "copy", .string "o"⟩], []⟩,
          ⟨"item", 1, [⟨"A", "text", .string "i"⟩, ⟨"Z", "copy", .string "i"⟩], []⟩] ∧
      (deriveTree copyText "s" (orderOf [])).2 ≠ none := by
  have hright := deriveTree_local copyText "s" (orderOf [⟨"A", "text", .string "i"⟩])
  have hwrong := deriveTree_local copyText "s" (orderOf [])
  constructor
  · have hnone : (deriveTree copyText "s" (orderOf [⟨"A", "text", .string "i"⟩])).2 = none := by
      with_unfolding_all rfl
    rw [(hright.2.1 hnone).2]
    with_unfolding_all rfl
  · intro h
    have hitem := hwrong.1.mp h ⟨"item", 1, [], []⟩ (by simp [orderOf, walk, walkGroups, walkRows])
    exact absurd hitem (by decide +kernel)

end Record

end SheetGrammar
