import Mathlib.Data.List.Perm.Basic
import SheetGrammar.Proofs.Yaml.Reading

/-!
# The order of keys in YAML

The entries of a mapping may be written in any order, at any depth of a node.  The node is
read as before, up to the order of entries in mappings.

## Main definitions

* `Yaml.Alike` — values that only differ in the order of entries.
* `Yaml.Node.Reordered` — nodes that only differ in the order of entries.

## Main results

* `Yaml.Node.Reordered.read` — a reordered node is read as a value that is alike.
* `Yaml.Alike.text?_eq`, `Yaml.Alike.natural?_eq` — values that are alike are the same string
  or number.
-/

namespace SheetGrammar.Yaml

/-! ### Values -/

mutual

/-- Values that are the same up to the order of the entries of mappings. -/
inductive Alike : Yaml → Yaml → Prop
  | refl (y : Yaml) : Alike y y
  | sequence {ys zs : List Yaml} (h : AlikeItems ys zs) : Alike (.sequence ys) (.sequence zs)
  | mapping {es es' fs : List (Yaml × Yaml)} (hperm : es.Perm es') (h : AlikeEntries es' fs) :
      Alike (.mapping es) (.mapping fs)
  | tagged {tag : String} {y z : Yaml} (h : Alike y z) : Alike (.tagged tag y) (.tagged tag z)

/-- The items of two sequences are alike one by one. -/
inductive AlikeItems : List Yaml → List Yaml → Prop
  | nil : AlikeItems [] []
  | cons {y z : Yaml} {ys zs : List Yaml} (h : Alike y z) (hs : AlikeItems ys zs) :
      AlikeItems (y :: ys) (z :: zs)

/-- The entries of two mappings are alike one by one. -/
inductive AlikeEntries : List (Yaml × Yaml) → List (Yaml × Yaml) → Prop
  | nil : AlikeEntries [] []
  | cons {k k' v v' : Yaml} {es fs : List (Yaml × Yaml)} (hk : Alike k k') (hv : Alike v v')
      (hs : AlikeEntries es fs) : AlikeEntries ((k, v) :: es) ((k', v') :: fs)

end

/-- Values that are alike are the same string. -/
theorem Alike.text?_eq : ∀ {y z : Yaml}, y.Alike z → z.text? = y.text?
  | _, _, .refl _ => rfl
  | _, _, .sequence _ => rfl
  | _, _, .mapping _ _ => rfl
  | _, _, .tagged h => h.text?_eq

/-- Values that are alike are the same natural number. -/
theorem Alike.natural?_eq : ∀ {y z : Yaml}, y.Alike z → z.natural? = y.natural?
  | _, _, .refl _ => rfl
  | _, _, .sequence _ => rfl
  | _, _, .mapping _ _ => rfl
  | _, _, .tagged h => h.natural?_eq

theorem Alike.underTag {tag : Option String} {y z z' : Yaml} (h : z.Alike z')
    (hy : Yaml.underTag tag (.ok z) = .ok y) :
    ∃ y', Yaml.underTag tag (.ok z') = .ok y' ∧ y.Alike y' := by
  unfold Yaml.underTag at hy ⊢
  cases hname : localTag? tag with
  | none =>
    rw [hname] at hy
    obtain rfl := Except.ok.inj hy
    exact ⟨z', rfl, h⟩
  | some name =>
    rw [hname] at hy
    dsimp only at hy ⊢
    split at hy
    · cases hy
    · next hne =>
      obtain rfl := Except.ok.inj hy
      exact ⟨.tagged name z', if_neg hne, .tagged h⟩

/-! ### Nodes -/

namespace Node

/-- No two keys of a mapping are the same. -/
def DistinctKeys (es : List (Node × Node)) : Prop :=
  es.Pairwise fun e f => ∀ d x y, read d e.1 = .ok x → read d f.1 = .ok y → sameKey x y = false

theorem DistinctKeys.pairwise {d : Nat} {es : List (Node × Node)} {ys : List (Yaml × Yaml)}
    (h : DistinctKeys es) (hys : ReadsEntries d es ys) :
    ys.Pairwise fun x y => sameKey x.1 y.1 = false := by
  induction hys with
  | nil => exact .nil
  | cons hy hys ih =>
    obtain ⟨hhead, hrest⟩ := List.pairwise_cons.mp h
    refine .cons (fun y hmem => ?_) (ih hrest)
    -- a value behind the first one comes from an entry behind the first one
    obtain ⟨f, hf, hkey, -⟩ := hys.exists_of_mem hmem
    exact hhead f hf d _ _ hy.1 hkey

mutual

/-- Nodes that are the same up to the order of the entries of mappings. -/
inductive Reordered : Node → Node → Prop
  | refl (n : Node) : Reordered n n
  | sequence {tag : Option String} {ns ns' : List Node} {closed : Bool}
      (h : ReorderedItems ns ns') : Reordered (.sequence tag ns closed) (.sequence tag ns' closed)
  | mapping {tag : Option String} {es es' fs : List (Node × Node)} {closed : Bool}
      (hperm : es.Perm es') (h : ReorderedEntries es' fs) (hkeys : DistinctKeys fs) :
      Reordered (.mapping tag es closed) (.mapping tag fs closed)

/-- The items of two sequences are reordered one by one. -/
inductive ReorderedItems : List Node → List Node → Prop
  | nil : ReorderedItems [] []
  | cons {n n' : Node} {ns ns' : List Node} (h : Reordered n n') (hs : ReorderedItems ns ns') :
      ReorderedItems (n :: ns) (n' :: ns')

/-- The entries of two mappings are reordered one by one. -/
inductive ReorderedEntries : List (Node × Node) → List (Node × Node) → Prop
  | nil : ReorderedEntries [] []
  | cons {k k' v v' : Node} {es fs : List (Node × Node)} (hk : Reordered k k')
      (hv : Reordered v v') (hs : ReorderedEntries es fs) :
      ReorderedEntries ((k, v) :: es) ((k', v') :: fs)

end

/-- Scalars stay as they are. -/
theorem Reordered.text?_eq {n n' : Node} (h : Reordered n n') : n'.text? = n.text? := by
  cases h with
  | refl => rfl
  | sequence => rfl
  | mapping => rfl

mutual

/-- **A reordered node is read as a value that is alike.** -/
theorem Reordered.read : ∀ {n n' : Node}, Reordered n n' → ∀ {d : Nat} {y : Yaml},
    Yaml.read d n = .ok y → ∃ y', Yaml.read d n' = .ok y' ∧ y.Alike y'
  | _, _, .refl n, d, y, hy => ⟨y, hy, .refl y⟩
  | _, _, .sequence _, 0, _, hy => by cases hy
  | _, _, .sequence h, d + 1, _, hy => by
    obtain ⟨hclosed, ys, hitems, htag⟩ := read_sequence_eq_ok_iff.mp hy
    obtain ⟨ys', hitems', halike⟩ := h.read hitems
    obtain ⟨y', htag', hy'⟩ := (Alike.sequence halike).underTag htag
    exact ⟨y', read_sequence_eq_ok_iff.mpr ⟨hclosed, ys', hitems', htag'⟩, hy'⟩
  | _, _, .mapping _ _ _, 0, _, hy => by cases hy
  | _, _, .mapping hperm h hkeys, d + 1, _, hy => by
    obtain ⟨hclosed, ys, hentries, -, htag⟩ := read_mapping_eq_ok_iff.mp hy
    -- the values are put in the order of the new entries, and then each is read anew
    obtain ⟨zs, hzs, hsame⟩ := List.perm_comp_forall₂ hperm.symm hentries
    obtain ⟨ys', hentries', halike⟩ := h.read hzs
    obtain ⟨y', htag', hy'⟩ := (Alike.mapping hsame.symm halike).underTag htag
    -- the reader asks for distinct keys, which `hkeys` says of the new entries
    have hdistinct := hkeys.pairwise hentries'
    exact ⟨y', read_mapping_eq_ok_iff.mpr ⟨hclosed, ys', hentries', hdistinct, htag'⟩, hy'⟩

theorem ReorderedItems.read : ∀ {ns ns' : List Node}, ReorderedItems ns ns' →
    ∀ {d : Nat} {ys : List Yaml}, List.Forall₂ (fun n y => Yaml.read d n = .ok y) ns ys →
    ∃ ys', List.Forall₂ (fun n y => Yaml.read d n = .ok y) ns' ys' ∧ AlikeItems ys ys'
  | _, _, .nil, _, _, .nil => ⟨[], .nil, .nil⟩
  | _, _, .cons h hs, _, _, .cons hy hys => by
    obtain ⟨y', hy', halike⟩ := h.read hy
    obtain ⟨ys', hys', halikes⟩ := hs.read hys
    exact ⟨y' :: ys', .cons hy' hys', .cons halike halikes⟩

theorem ReorderedEntries.read : ∀ {es es' : List (Node × Node)}, ReorderedEntries es es' →
    ∀ {d : Nat} {ys : List (Yaml × Yaml)}, ReadsEntries d es ys →
    ∃ ys', ReadsEntries d es' ys' ∧ AlikeEntries ys ys'
  | _, _, .nil, _, _, .nil => ⟨[], .nil, .nil⟩
  | _, _, .cons hk hv hs, _, (_, _) :: _, .cons ⟨hkey, hvalue⟩ hys => by
    obtain ⟨k', hkey', hkalike⟩ := hk.read hkey
    obtain ⟨v', hvalue', hvalike⟩ := hv.read hvalue
    obtain ⟨ys', hys', halikes⟩ := hs.read hys
    exact ⟨(k', v') :: ys', .cons ⟨hkey', hvalue'⟩ hys', .cons hkalike hvalike halikes⟩

end

end Node

end SheetGrammar.Yaml
