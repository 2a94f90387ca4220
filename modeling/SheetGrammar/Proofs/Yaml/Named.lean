import Mathlib.Data.List.Nodup
import SheetGrammar.Proofs.Yaml.Reorder

/-!
# Named values

The entries of a mapping whose keys are names come out in the order of these names, so that
the order in which they are written has no say.

## Main definitions

* `Yaml.ReadsNamed` — the names and values of a mapping one by one.
* `Yaml.NamedAlike` — the same names with values that are alike.

## Main results

* `Yaml.readEntries_mapping_eq_ok_iff` — named values are read one by one and sorted.
* `Yaml.sortNamed_congr` — named values that are alike in some order are alike once sorted.
* `Yaml.lookup_sortNamed`, `Yaml.filter_sortNamed` — one of the named values told from the others.
-/

namespace SheetGrammar.Yaml

variable {d : Nat} {es : List (Node × Node)} {xs ys : List (String × Yaml)}

/-! ### Reading -/

/-- The names and values of entries are read one by one. -/
def ReadsNamed (d : Nat) : List (Node × Node) → List (String × Yaml) → Prop :=
  List.Forall₂ fun e x => e.1.text? = some x.1 ∧ read d e.2 = .ok x.2

theorem readNamed_eq_ok_iff :
    readNamed d (es.map fun e => (e.1.text?, e.2)) = .ok xs ↔ ReadsNamed d es xs := by
  induction es generalizing xs with
  | nil =>
    rw [ReadsNamed, List.forall₂_nil_left_iff]
    exact ⟨fun h => (Except.ok.inj h).symm, fun h => congrArg Except.ok h.symm⟩
  | cons e es ih =>
    obtain ⟨k, v⟩ := e
    rw [List.map_cons, ReadsNamed, List.forall₂_cons_left_iff]
    constructor
    · intro h
      cases hk : k.text? with
      | none =>
        rw [hk, readNamed] at h
        cases h
      | some key =>
        rw [hk, readNamed] at h
        cases hv : read d v with
        | error e =>
          rw [hv] at h
          cases h
        | ok y =>
          rw [hv] at h
          obtain ⟨zs, hzs, rfl⟩ := Except.map_eq_ok_iff.mp h
          exact ⟨(key, y), zs, ⟨rfl, rfl⟩, ih.mp hzs, rfl⟩
    · rintro ⟨⟨key, y⟩, zs, ⟨hk, hv⟩, hzs, rfl⟩
      simp only at hk hv
      rw [hk, readNamed, hv]
      exact Except.map_eq_ok_iff.mpr ⟨zs, ih.mpr hzs, rfl⟩

/-- Named values are read one by one and sorted. -/
theorem readEntries_mapping_eq_ok_iff {tag : Option String} {closed : Bool} :
    readEntries (d + 1) (.mapping tag es closed) = .ok xs ↔
      closed = true ∧ ∃ ys, ReadsNamed d es ys ∧ sortNamed ys = xs := by
  have hentries : Structured.entries? (Node.mapping tag es closed)
      = some ⟨es.map fun e => (e.1.text?, e.2), closed⟩ := rfl
  rw [readEntries, hentries]
  simp only [← readNamed_eq_ok_iff]
  cases readNamed d (es.map fun e => (e.1.text?, e.2)) with
  | error e => simp
  | ok ys => cases closed <;> simp

theorem ReadsNamed.names (h : ReadsNamed d es xs) :
    es.map (fun e => e.1.text?) = xs.map fun x => some x.1 :=
  (h.map_eq_map fun hx => hx.1.symm).symm

/-- Entries whose keys are distinct are read as values whose names are. -/
theorem ReadsNamed.nodup_iff (h : ReadsNamed d es xs) :
    (es.map fun e => e.1.text?).Nodup ↔ (xs.map Prod.fst).Nodup := by
  have hsome : xs.map (fun x => some x.1) = (xs.map Prod.fst).map some := by
    rw [List.map_map]
    rfl
  rw [h.names, hsome, List.nodup_map_iff fun _ _ h => Option.some.inj h]

/-! ### Sorting -/

/-- Where no name occurs twice, sorting drops nothing. -/
theorem sortNamed_perm (h : (xs.map Prod.fst).Nodup) : (sortNamed xs).Perm xs := by
  -- an entry is dropped only if a later one has its name
  have hlast : xs.foldr
      (fun e acc => if acc.any fun f => f.1 = e.1 then acc else e :: acc) [] = xs := by
    induction xs with
    | nil => rfl
    | cons x xs ih =>
      obtain ⟨hnew, hrest⟩ := List.nodup_cons.mp h
      rw [List.foldr_cons, ih hrest, if_neg]
      intro hany
      obtain ⟨y, hy, hname⟩ := List.any_eq_true.mp hany
      exact hnew (List.mem_map.mpr ⟨y, hy, by simpa using hname⟩)
  rw [sortNamed, hlast]
  exact List.mergeSort_perm xs _

theorem sortNamed_pairwise (xs : List (String × Yaml)) :
    (sortNamed xs).Pairwise fun x y => x.1 ≤ y.1 := by
  have htrans : ∀ x y z : String × Yaml,
      decide (x.1 ≤ y.1) = true → decide (y.1 ≤ z.1) = true → decide (x.1 ≤ z.1) = true := by
    intro x y z hxy hyz
    rw [decide_eq_true_eq] at hxy hyz ⊢
    exact String.le_trans hxy hyz
  have htotal : ∀ x y : String × Yaml, (decide (x.1 ≤ y.1) || decide (y.1 ≤ x.1)) = true := by
    intro x y
    simpa using String.le_total x.1 y.1
  have h := List.pairwise_mergeSort htrans htotal
    (xs.foldr (fun e acc => if acc.any fun f => f.1 = e.1 then acc else e :: acc) [])
  simpa [sortNamed] using h

/-- The order of names decides about the order of named values. -/
theorem eq_of_perm_of_sorted (h : xs.Perm ys) (hnodup : (xs.map Prod.fst).Nodup)
    (hxs : xs.Pairwise fun x y => x.1 ≤ y.1) (hys : ys.Pairwise fun x y => x.1 ≤ y.1) :
    xs = ys := by
  -- the order is antisymmetric on names, and a name tells its entry
  refine List.Perm.eq_of_pairwise (fun x y hx hy hxy hyx => ?_) hxs hys h
  exact List.inj_on_of_nodup_map hnodup hx (h.mem_iff.mpr hy) (String.le_antisymm hxy hyx)

theorem lookup_of_mem {name : String} {y : Yaml} (h : (name, y) ∈ xs)
    (hnodup : (xs.map Prod.fst).Nodup) : xs.lookup name = some y := by
  induction xs with
  | nil => cases h
  | cons x xs ih =>
    obtain ⟨key, z⟩ := x
    obtain ⟨hnew, hrest⟩ := List.nodup_cons.mp hnodup
    rcases List.mem_cons.mp h with heq | hmem
    · obtain ⟨rfl, rfl⟩ := Prod.mk.inj heq
      rw [List.lookup_cons, beq_self_eq_true]
    · have hne : (name == key) = false := by
        refine beq_false_of_ne fun hname => hnew (List.mem_map.mpr ⟨(name, y), hmem, hname⟩)
      rw [List.lookup_cons, hne]
      exact ih hmem hrest

/-- Sorting leaves the value of a name. -/
theorem lookup_sortNamed {name : String} {y : Yaml} (h : (((name, y) :: xs).map Prod.fst).Nodup) :
    (sortNamed ((name, y) :: xs)).lookup name = some y := by
  have hperm := sortNamed_perm h
  exact lookup_of_mem (hperm.mem_iff.mpr List.mem_cons_self)
    ((hperm.map Prod.fst).nodup_iff.mpr h)

/-- Without one of them the named values are sorted like the others. -/
theorem filter_sortNamed {name : String} {y : Yaml} (h : (((name, y) :: xs).map Prod.fst).Nodup) :
    ((sortNamed ((name, y) :: xs)).filter fun x => x.1 ≠ name) = sortNamed xs := by
  obtain ⟨hnew, hrest⟩ := List.nodup_cons.mp h
  have hothers : (((name, y) :: xs).filter fun x => x.1 ≠ name) = xs := by
    rw [List.filter_cons_of_neg (by simp), List.filter_eq_self]
    intro x hx
    have hne : x.1 ≠ name := fun hname => hnew (List.mem_map.mpr ⟨x, hx, hname⟩)
    simpa using hne
  have hperm := (sortNamed_perm h).filter fun x => decide (x.1 ≠ name)
  rw [hothers] at hperm
  -- both sides are sorted and hold the same entries
  refine eq_of_perm_of_sorted (hperm.trans (sortNamed_perm hrest).symm) ?_
    ((sortNamed_pairwise _).filter _) (sortNamed_pairwise xs)
  exact (hperm.map Prod.fst).nodup_iff.mpr hrest

/-! ### Values that are alike -/

/-- The same names, with values that are alike. -/
def NamedAlike : List (String × Yaml) → List (String × Yaml) → Prop :=
  List.Forall₂ fun x y => x.1 = y.1 ∧ x.2.Alike y.2

theorem namedAlike_refl (xs : List (String × Yaml)) : NamedAlike xs xs :=
  List.forall₂_same.mpr fun x _ => ⟨rfl, .refl x.2⟩

theorem NamedAlike.map_fst (h : NamedAlike xs ys) : ys.map Prod.fst = xs.map Prod.fst :=
  h.map_eq_map fun hxy => hxy.1.symm

/-- Named values that are alike in some order are alike once they are sorted. -/
theorem sortNamed_congr {zs : List (String × Yaml)} (hperm : xs.Perm zs) (h : NamedAlike zs ys)
    (hnodup : (xs.map Prod.fst).Nodup) : NamedAlike (sortNamed xs) (sortNamed ys) := by
  have hys : (ys.map Prod.fst).Nodup := by
    rw [h.map_fst]
    exact (hperm.map Prod.fst).nodup_iff.mp hnodup
  -- the sorted values on the left are alike to those on the right in an order that is sorted, too
  obtain ⟨ws, hws, hsame⟩ := List.perm_comp_forall₂ ((sortNamed_perm hnodup).trans hperm) h
  have hnames : ws.map Prod.fst = (sortNamed xs).map Prod.fst := NamedAlike.map_fst hws
  have hsorted : ws.Pairwise fun x y => x.1 ≤ y.1 := by
    have hpairwise := sortNamed_pairwise xs
    rw [← List.pairwise_map (f := Prod.fst), ← hnames, List.pairwise_map] at hpairwise
    exact hpairwise
  have heq : ws = sortNamed ys := by
    refine eq_of_perm_of_sorted (hsame.trans (sortNamed_perm hys).symm) ?_ hsorted
      (sortNamed_pairwise ys)
    exact (hsame.map Prod.fst).nodup_iff.mpr hys
  rwa [← heq]

/-- The values of a name are alike. -/
theorem NamedAlike.lookup (h : NamedAlike xs ys) (name : String) :
    (xs.lookup name = none ∧ ys.lookup name = none) ∨
      ∃ y z, xs.lookup name = some y ∧ ys.lookup name = some z ∧ y.Alike z := by
  induction h with
  | nil => exact .inl ⟨rfl, rfl⟩
  | @cons x y xs ys hxy _ ih =>
    obtain ⟨k, v⟩ := x
    obtain ⟨k', w⟩ := y
    obtain ⟨rfl, halike⟩ := hxy
    rw [List.lookup_cons, List.lookup_cons]
    cases name == k with
    | true => exact .inr ⟨v, w, rfl, rfl, halike⟩
    | false => exact ih

/-- Reordered entries are read as values that are alike. -/
theorem Node.ReorderedEntries.readsNamed : ∀ {es fs : List (Node × Node)},
    ReorderedEntries es fs → ∀ {xs : List (String × Yaml)}, ReadsNamed d es xs →
    ∃ ys, ReadsNamed d fs ys ∧ NamedAlike xs ys
  | _, _, .nil, _, .nil => ⟨[], .nil, .nil⟩
  | _, _, .cons hk hv hs, (key, _) :: _, .cons ⟨hkey, hvalue⟩ hxs => by
    obtain ⟨y, hy, halike⟩ := hv.read hvalue
    obtain ⟨ys, hys, halikes⟩ := hs.readsNamed hxs
    exact ⟨(key, y) :: ys, .cons ⟨hk.text?_eq.trans hkey, hy⟩ hys, .cons ⟨rfl, halike⟩ halikes⟩

end SheetGrammar.Yaml
