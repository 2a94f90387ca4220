import SheetGrammar.Proofs.Except
import SheetGrammar.Proofs.Structured
import SheetGrammar.Yaml.Structured

/-!
# Reading YAML values

A collection is read if what it holds is read and no key occurs twice.  How deep collections
may be nested only matters up to the depth of a node: any bound that is not below the depth
gives the same value, and a node that is read is within the bound.

## Main definitions

* `Yaml.Node.depth` — how deep collections are nested in a node.
* `Yaml.ReadsEntries` — the keys and values of a mapping one by one.

## Main results

* `Yaml.readDistinct_eq_ok_iff` — entries are read one by one and have distinct keys.
* `Yaml.pairwise_of_read` — a mapping that is read has distinct keys.
* `Yaml.depth_le_of_read` — a node that is read is nested within the bound.
* `Yaml.read_eq_of_depth_le` — a bound that is kept has no say in the value.
-/

namespace SheetGrammar.Yaml

open Structured (Reading readAll)

/-! ### Nesting -/

namespace Node

mutual

/-- How deep sequences and mappings are nested in a node. -/
def depth : Node → Nat
  | sequence _ items _ => depthItems items + 1
  | mapping _ entries _ => depthEntries entries + 1
  | _ => 0

/-- How deep they are nested in some nodes. -/
def depthItems : List Node → Nat
  | [] => 0
  | n :: ns => max (depth n) (depthItems ns)

/-- How deep they are nested in the keys and values of some entries. -/
def depthEntries : List (Node × Node) → Nat
  | [] => 0
  | (k, v) :: es => max (max (depth k) (depth v)) (depthEntries es)

end

theorem depthItems_le_iff {ns : List Node} {d : Nat} :
    depthItems ns ≤ d ↔ ∀ n ∈ ns, n.depth ≤ d := by
  induction ns with
  | nil => simp [depthItems]
  | cons n ns ih => rw [depthItems, Nat.max_le, ih, List.forall_mem_cons]

theorem depthEntries_le_iff {es : List (Node × Node)} {d : Nat} :
    depthEntries es ≤ d ↔ ∀ e ∈ es, e.1.depth ≤ d ∧ e.2.depth ≤ d := by
  induction es with
  | nil => simp [depthEntries]
  | cons e es ih => rw [depthEntries, Nat.max_le, Nat.max_le, ih, List.forall_mem_cons]

end Node

/-! ### Entries -/

variable {d : Nat} {es : List (Node × Node)}

/-- Keys and values of entries are read one by one. -/
def ReadsEntries (d : Nat) : List (Node × Node) → List (Yaml × Yaml) → Prop :=
  List.Forall₂ fun e x => read d e.1 = .ok x.1 ∧ read d e.2 = .ok x.2

/-- Entries are read one by one, and their keys are distinct. -/
theorem readDistinct_eq_ok_iff {acc xs : List (Yaml × Yaml)} :
    readDistinct (read d) acc es = .ok xs ↔ ∃ ys, ReadsEntries d es ys ∧
      (∀ x ∈ acc, ∀ y ∈ ys, sameKey x.1 y.1 = false) ∧
      ys.Pairwise (fun x y => sameKey x.1 y.1 = false) ∧ xs = acc.reverse ++ ys := by
  induction es generalizing acc with
  | nil =>
    constructor
    · intro h
      obtain rfl := Except.ok.inj h
      exact ⟨[], .nil, by simp, .nil, by simp⟩
    · rintro ⟨ys, hys, -, -, rfl⟩
      obtain rfl := List.forall₂_nil_left_iff.mp hys
      rw [List.append_nil]
      rfl
  | cons e es ih =>
    obtain ⟨k, v⟩ := e
    constructor
    · intro h
      rw [readDistinct] at h
      cases hk : read d k with
      | error e =>
        rw [hk] at h
        cases h
      | ok key =>
        rw [hk] at h
        dsimp only at h
        split at h
        · cases h
        · next hnew =>
          cases hv : read d v with
          | error e =>
            rw [hv] at h
            cases h
          | ok value =>
            rw [hv] at h
            obtain ⟨ys, hys, hacc, hdistinct, rfl⟩ := ih.mp h
            obtain ⟨hhead, hrest⟩ := List.forall_mem_cons.mp hacc
            refine ⟨(key, value) :: ys, .cons ⟨hk, hv⟩ hys, ?_, .cons hhead hdistinct, by simp⟩
            intro x hx
            refine List.forall_mem_cons.mpr ⟨?_, hrest x hx⟩
            simpa using fun hsame => hnew (List.any_eq_true.mpr ⟨x, hx, hsame⟩)
    · rintro ⟨_, hentries, hacc, hdistinct, rfl⟩
      obtain ⟨⟨key, value⟩, ys, ⟨hk, hv⟩, hys, rfl⟩ := List.forall₂_cons_left_iff.mp hentries
      obtain ⟨hhead, hdistinct⟩ := List.pairwise_cons.mp hdistinct
      -- the key is new, since no key in front of it is the same
      have hnew : acc.any (fun x => sameKey x.1 key) = false := by
        rw [List.any_eq_false]
        intro x hx
        simpa using (List.forall_mem_cons.mp (hacc x hx)).1
      have hrest : ∀ x ∈ (key, value) :: acc, ∀ y ∈ ys, sameKey x.1 y.1 = false :=
        List.forall_mem_cons.mpr ⟨hhead, fun x hx => (List.forall_mem_cons.mp (hacc x hx)).2⟩
      rw [readDistinct, hk]
      simp only [hnew, hv, Bool.false_eq_true, if_false]
      exact ih.mpr ⟨ys, hys, hrest, hdistinct, by simp⟩

theorem readDistinct_congr {read read' : Node → Reading Yaml} {acc : List (Yaml × Yaml)}
    (h : ∀ e ∈ es, read e.1 = read' e.1 ∧ read e.2 = read' e.2) :
    readDistinct read acc es = readDistinct read' acc es := by
  induction es generalizing acc with
  | nil => rfl
  | cons e es ih =>
    obtain ⟨k, v⟩ := e
    obtain ⟨⟨hk, hv⟩, hrest⟩ := List.forall_mem_cons.mp h
    rw [readDistinct, readDistinct, hk, hv]
    simp only [ih hrest]

/-! ### Collections -/

theorem underTag_eq_ok_iff {tag : Option String} {r : Reading Yaml} {y : Yaml} :
    underTag tag r = .ok y ↔ ∃ z, r = .ok z ∧ underTag tag (.ok z) = .ok y := by
  unfold underTag
  cases localTag? tag with
  | none => simp
  | some name =>
    by_cases hname : name = ""
    · simp [hname]
    · cases r with
      | error e => simp [hname, Except.map]
      | ok z => simp [hname, Except.map]

/-- A sequence is read if it is closed and its items are read. -/
theorem read_sequence_eq_ok_iff {tag : Option String} {items : List Node} {closed : Bool}
    {y : Yaml} :
    read (d + 1) (.sequence tag items closed) = .ok y ↔ closed = true ∧
      ∃ ys, List.Forall₂ (fun n z => read d n = .ok z) items ys ∧
        underTag tag (.ok (.sequence ys)) = .ok y := by
  rw [read, underTag_eq_ok_iff]
  simp only [← Structured.readAll_eq_ok_iff]
  cases readAll (read d) items with
  | error e => simp
  | ok ys => cases closed <;> simp

/-- A mapping is read if it is closed and its entries are read, with distinct keys. -/
theorem read_mapping_eq_ok_iff {tag : Option String} {closed : Bool} {y : Yaml} :
    read (d + 1) (.mapping tag es closed) = .ok y ↔ closed = true ∧
      ∃ ys, ReadsEntries d es ys ∧ ys.Pairwise (fun x y => sameKey x.1 y.1 = false) ∧
        underTag tag (.ok (.mapping ys)) = .ok y := by
  have hentries : ∀ ys, readDistinct (read d) [] es = .ok ys ↔
      ReadsEntries d es ys ∧ ys.Pairwise (fun x y => sameKey x.1 y.1 = false) := by
    intro ys
    simp [readDistinct_eq_ok_iff]
  rw [read, underTag_eq_ok_iff]
  simp only [← and_assoc, ← hentries]
  cases readDistinct (read d) [] es with
  | error e => simp
  | ok ys => cases closed <;> simp

/-- A value under a tag is not a mapping. -/
theorem eq_mapping_of_underTag {tag : Option String} {z : Yaml} {ys : List (Yaml × Yaml)}
    (h : underTag tag (.ok z) = .ok (.mapping ys)) : z = .mapping ys := by
  unfold underTag at h
  split at h
  · exact Except.ok.inj h
  · split at h
    · cases h
    · cases Except.ok.inj h

/-- The keys of a mapping that is read are distinct. -/
theorem pairwise_of_read {n : Node} {ys : List (Yaml × Yaml)} (h : read d n = .ok (.mapping ys)) :
    ys.Pairwise fun x y => sameKey x.1 y.1 = false := by
  cases n with
  | scalar tag style text =>
    rw [read, readScalar] at h
    obtain ⟨z, hz, htag⟩ := underTag_eq_ok_iff.mp h
    obtain rfl := eq_mapping_of_underTag htag
    -- no scalar means a mapping
    cases hmeaning : meaningOfScalar? (if (localTag? tag).isSome then none else tag) style text with
    | none =>
      rw [hmeaning] at hz
      cases hz
    | some meaning =>
      rw [hmeaning] at hz
      cases meaning <;> cases hz
  | sequence tag items closed =>
    cases d with
    | zero => cases h
    | succ d =>
      obtain ⟨-, zs, -, htag⟩ := read_sequence_eq_ok_iff.mp h
      cases eq_mapping_of_underTag htag
  | mapping tag entries closed =>
    cases d with
    | zero => cases h
    | succ d =>
      obtain ⟨-, zs, -, hdistinct, htag⟩ := read_mapping_eq_ok_iff.mp h
      obtain rfl := Yaml.mapping.inj (eq_mapping_of_underTag htag)
      exact hdistinct
  | _ => cases d <;> cases h

/-! ### The bound -/

/-- A node that is read is nested within the bound. -/
theorem depth_le_of_read {n : Node} {y : Yaml} (h : read d n = .ok y) : n.depth ≤ d := by
  induction d generalizing n y with
  | zero =>
    cases n with
    -- no collection is read at the bound zero
    | sequence tag items closed => cases h
    | mapping tag entries closed => cases h
    | _ => exact Nat.le_refl 0
  | succ d ih =>
    cases n with
    | sequence tag items closed =>
      obtain ⟨-, ys, hitems, -⟩ := read_sequence_eq_ok_iff.mp h
      refine Nat.succ_le_succ (Node.depthItems_le_iff.mpr fun n hn => ?_)
      obtain ⟨y, -, hy⟩ := hitems.exists_of_mem_left hn
      exact ih hy
    | mapping tag entries closed =>
      obtain ⟨-, ys, hentries, -, -⟩ := read_mapping_eq_ok_iff.mp h
      refine Nat.succ_le_succ (Node.depthEntries_le_iff.mpr fun e he => ?_)
      obtain ⟨y, -, hkey, hvalue⟩ := hentries.exists_of_mem_left he
      exact ⟨ih hkey, ih hvalue⟩
    | _ => exact Nat.zero_le _

/-- A bound that is kept has no say in the value. -/
theorem read_eq_of_depth_le {n : Node} {d' : Nat} (h : n.depth ≤ d) (h' : n.depth ≤ d') :
    read d n = read d' n := by
  induction d generalizing n d' with
  | zero =>
    cases n with
    | sequence tag items closed => cases h
    | mapping tag entries closed => cases h
    | _ => cases d' <;> rfl
  | succ d ih =>
    cases n with
    | sequence tag items closed =>
      -- the other bound is not zero either, so both readers go one level down
      obtain ⟨d', rfl⟩ := Nat.exists_eq_add_one_of_ne_zero (Nat.ne_zero_of_lt h')
      have hitems := Node.depthItems_le_iff.mp (Nat.le_of_succ_le_succ h)
      have hitems' := Node.depthItems_le_iff.mp (Nat.le_of_succ_le_succ h')
      rw [read, read, Structured.readAll_congr fun n hn => ih (hitems n hn) (hitems' n hn)]
    | mapping tag entries closed =>
      obtain ⟨d', rfl⟩ := Nat.exists_eq_add_one_of_ne_zero (Nat.ne_zero_of_lt h')
      have hentries := Node.depthEntries_le_iff.mp (Nat.le_of_succ_le_succ h)
      have hentries' := Node.depthEntries_le_iff.mp (Nat.le_of_succ_le_succ h')
      rw [read, read, readDistinct_congr fun e he =>
        ⟨ih (hentries e he).1 (hentries' e he).1, ih (hentries e he).2 (hentries' e he).2⟩]
    | _ => cases d' <;> rfl

end SheetGrammar.Yaml
