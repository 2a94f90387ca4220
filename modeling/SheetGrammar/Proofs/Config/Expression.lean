import SheetGrammar.Config.Derive
import SheetGrammar.Proofs.Config.Spelling
import SheetGrammar.Proofs.Yaml.Named

/-!
# Spellings of expressions

The kind of an expression stands beside its parameters, or it is the key of a mapping of the
parameters.  Both mean the same where the parameters have distinct names, except that they are
nested one level deeper in the second.

## Main definitions

* `ExpressionEntry.Nests` — the two ways to write an expression.
* `ExpressionEntry.form` — the form of an expression.
* `ExpressionEntry.Same` — the same kind with parameters that are alike.

## Main results

* `ExpressionEntry.read_beside_eq_ok_iff`, `ExpressionEntry.read_under_eq_ok_iff` — what is read
  from the two ways.
* `ExpressionEntry.read_nests` — when both are read alike.
* `ExpressionEntry.read_reordered` — the order of keys does not matter.
* `ExpressionEntry.governs_form` — the form of an expression governs its reader.
-/

namespace SheetGrammar.ExpressionEntry

open Yaml (Node ReadsNamed NamedAlike sortNamed)

/-! ### The form -/

/-- The keys are strings, and none of them is the key for the kind. -/
def ParamKeys (ps : List (Node × Node)) : Prop :=
  ∀ p ∈ ps, ∃ name, Form.IsString name p.1 ∧ name ≠ "kind"

/-- An expression with the kind beside the parameters, and the same one with the parameters
under the kind. -/
inductive Nests (ps : List (Node × Node)) (kind : String) : Node → Node → Prop
  | nests {k value key : Node} {tag tag' tag'' : Option String} (hk : k.text? = some "kind")
      (hvalue : Form.IsString kind value) (hkey : key.text? = some kind) (hkind : kind ≠ "kind")
      (hps : ParamKeys ps) (htag : Yaml.localTag? tag'' = none) :
      Nests ps kind (.mapping tag ((k, value) :: ps) true)
        (.mapping tag' [(key, .mapping tag'' ps true)] true)

/-- Ways to write the same expression. The order of its keys is free where `keyed` holds of the
entries, and parameters may go under the kind where `keyed` holds of them and `fits` of their
values. -/
inductive Respelled (keyed : List (Node × Node) → Prop) (fits : Node → Prop) : Node → Node → Prop
  | refl (n : Node) : Respelled keyed fits n n
  | reorder {tag : Option String} {es es' fs : List (Node × Node)} {closed : Bool}
      (hperm : es.Perm es') (h : Node.ReorderedEntries es' fs) (hkeyed : keyed es) :
      Respelled keyed fits (.mapping tag es closed) (.mapping tag fs closed)
  | nest {ps : List (Node × Node)} {kind : String} {n n' : Node} (h : Nests ps kind n n')
      (hkeyed : keyed ps) (hfits : ∀ p ∈ ps, fits p.2) : Respelled keyed fits n n'
  | unnest {ps : List (Node × Node)} {kind : String} {n n' : Node} (h : Nests ps kind n n') :
      Respelled keyed fits n' n

/-- The form of an expression. -/
def form (keyed : List (Node × Node) → Prop) (fits : Node → Prop) : Form :=
  ⟨Respelled keyed fits, fun _ => False, .refl⟩

/-- The keys of some entries are distinct as texts. -/
def DistinctNames (es : List (Node × Node)) : Prop := (es.map fun e => e.1.text?).Nodup

/-- The same kind, with parameters that are alike. -/
structure Same (e e' : ExpressionEntry) : Prop where
  kind : e.kind = e'.kind
  params : NamedAlike e.params e'.params

theorem same_refl (e : ExpressionEntry) : e.Same e := ⟨rfl, Yaml.namedAlike_refl e.params⟩

/-! ### Named values -/

variable {d : Nat} {es ps : List (Node × Node)} {xs ys : List (String × Yaml)}
  {e : ExpressionEntry}

theorem ofEntries_of_kind {kind : String} {y : Yaml} (h : xs.lookup "kind" = some y)
    (hkind : y.text? = some kind) :
    ofEntries xs = .ok ⟨kind, xs.filter fun x => x.1 ≠ "kind"⟩ := by
  unfold ofEntries
  rw [h]
  simp only [hkind]

theorem ofEntries_nested {kind : String} (hkind : kind ≠ "kind") {nested : List (Yaml × Yaml)}
    {params : Parameters} (hparams : paramsOf? nested = some params) :
    ofEntries [(kind, .mapping nested)] = .ok ⟨kind, sortNamed params⟩ := by
  have hlookup : List.lookup "kind" [(kind, Yaml.mapping nested)] = none := by
    rw [List.lookup_cons, beq_false_of_ne hkind.symm]
    rfl
  unfold ofEntries
  rw [hlookup]
  simp only [hparams]

/-- Named values are an expression in one of two ways. -/
theorem ofEntries_eq_ok (h : ofEntries xs = .ok e) :
    (∃ y, xs.lookup "kind" = some y ∧ y.text? = some e.kind ∧
      e.params = xs.filter fun x => x.1 ≠ "kind") ∨
    (e.kind ≠ "kind" ∧ ∃ nested params, xs = [(e.kind, .mapping nested)] ∧
      paramsOf? nested = some params ∧ e.params = sortNamed params) := by
  unfold ofEntries at h
  split at h
  · next y hlookup =>
    split at h
    · next kind hkind =>
      obtain rfl := Except.ok.inj h
      exact .inl ⟨y, hlookup, hkind, rfl⟩
    · cases h
  · next kind nested hlookup =>
    -- a single entry named for the kind would have been found by the look-up
    have hne : kind ≠ "kind" := by
      rintro rfl
      rw [List.lookup_cons, beq_self_eq_true] at hlookup
      cases hlookup
    split at h
    · next params hparams =>
      obtain rfl := Except.ok.inj h
      exact .inr ⟨hne, nested, params, rfl, hparams, rfl⟩
    · cases h
  · cases h

theorem paramsOf?_eq_some_iff {nested : List (Yaml × Yaml)} :
    paramsOf? nested = some xs ↔
      List.Forall₂ (fun e x => e = (Yaml.string x.1, x.2)) nested xs := by
  induction nested generalizing xs with
  | nil => simp [paramsOf?, eq_comm]
  | cons e nested ih =>
    rw [List.forall₂_cons_left_iff]
    constructor
    · intro h
      unfold paramsOf? at h
      split at h
      · next heq => cases heq
      · next name value entries heq =>
        obtain ⟨rfl, rfl⟩ := List.cons.inj heq
        obtain ⟨params, hparams, rfl⟩ := Option.map_eq_some_iff.mp h
        exact ⟨(name, value), params, rfl, ih.mp hparams, rfl⟩
      · cases h
    · rintro ⟨x, params, rfl, hparams, rfl⟩
      rw [paramsOf?, ih.mpr hparams]
      rfl

/-- Keys are distinct as values if and only if they are distinct as names. -/
theorem pairwise_sameKey_iff {nested : List (Yaml × Yaml)}
    (h : List.Forall₂ (fun e x => e = (Yaml.string x.1, x.2)) nested xs) :
    nested.Pairwise (fun x y => Yaml.sameKey x.1 y.1 = false) ↔ (xs.map Prod.fst).Nodup := by
  have hmap := h.map_eq_map (f := id) fun hx => hx.symm
  rw [List.map_id] at hmap
  rw [← hmap, List.pairwise_map, List.Nodup, List.pairwise_map]
  -- all keys are strings, and two strings are the same key only if they are equal
  simp [Yaml.sameKey]

/-- Entries that are alike are parameters that are alike. -/
theorem paramsOf?_congr : ∀ {nested nested' : List (Yaml × Yaml)},
    Yaml.AlikeEntries nested nested' → ∀ {xs}, paramsOf? nested = some xs →
    ∃ ys, paramsOf? nested' = some ys ∧ NamedAlike xs ys
  | _, _, .nil, _, h => by
    obtain rfl := Option.some.inj h
    exact ⟨[], rfl, .nil⟩
  -- a string is alike to itself only, so the keys stay and the values change
  | _, _, .cons (k := .string name) (.refl _) hv hs, _, h => by
    obtain ⟨xs, hxs, rfl⟩ := Option.map_eq_some_iff.mp h
    obtain ⟨ys, hys, halike⟩ := paramsOf?_congr hs hxs
    exact ⟨_, Option.map_eq_some_iff.mpr ⟨ys, hys, rfl⟩, .cons ⟨rfl, hv⟩ halike⟩

/-- Named values that are alike are the same expression. -/
theorem ofEntries_congr (h : NamedAlike xs ys)
    (hdistinct : ∀ x ∈ xs, ∀ nested, x.2 = .mapping nested →
      nested.Pairwise fun x y => Yaml.sameKey x.1 y.1 = false) (he : ofEntries xs = .ok e) :
    ∃ e', ofEntries ys = .ok e' ∧ e.Same e' := by
  rcases ofEntries_eq_ok he with
    ⟨y, hy, hkind, hparams⟩ | ⟨hkind, nested, params, rfl, hps, hparams⟩
  · -- the kind is beside the parameters, and what is alike to a string has its text
    obtain ⟨hnone, -⟩ | ⟨y', z, hy', hz, halike⟩ := h.lookup "kind"
    · rw [hy] at hnone
      cases hnone
    · obtain rfl : y = y' := Option.some.inj (hy.symm.trans hy')
      refine ⟨_, ofEntries_of_kind hz (halike.text?_eq.trans hkind), rfl, ?_⟩
      rw [hparams]
      refine List.rel_filter (fun {x x'} hx => ?_) h
      simp only [hx.1]
  · -- the parameters are under the kind, possibly in another order
    obtain ⟨⟨name, z⟩, _, ⟨rfl, hz⟩, hnil, rfl⟩ := List.forall₂_cons_left_iff.mp h
    obtain rfl := List.forall₂_nil_left_iff.mp hnil
    have hnested := paramsOf?_eq_some_iff.mp hps
    have hnames := (pairwise_sameKey_iff hnested).mp (hdistinct _ List.mem_cons_self nested rfl)
    cases hz with
    | refl =>
      refine ⟨_, ofEntries_nested hkind hps, rfl, ?_⟩
      rw [hparams]
      exact Yaml.namedAlike_refl _
    | @mapping _ es' fs hperm hentries =>
      obtain ⟨zs, hzs, hsame⟩ := List.perm_comp_forall₂ hperm.symm hnested
      obtain ⟨ws, hws, halike⟩ := paramsOf?_congr hentries (paramsOf?_eq_some_iff.mpr hzs)
      refine ⟨_, ofEntries_nested hkind hws, rfl, ?_⟩
      rw [hparams]
      exact Yaml.sortNamed_congr hsame.symm halike hnames

/-! ### Reading -/

/-- An expression is made of the named values of its mapping. -/
theorem read_mapping_eq_ok_iff {tag : Option String} {closed : Bool} :
    read (d + 1) (.mapping tag es closed) = .ok e ↔ closed = true ∧
      ∃ xs, ReadsNamed d es xs ∧ ofEntries (sortNamed xs) = .ok e := by
  unfold read
  constructor
  · intro h
    cases hentries : Yaml.readEntries (d + 1) (.mapping tag es closed) with
    | error e' =>
      rw [hentries] at h
      cases h
    | ok zs =>
      rw [hentries] at h
      obtain ⟨hclosed, xs, hxs, rfl⟩ := Yaml.readEntries_mapping_eq_ok_iff.mp hentries
      exact ⟨hclosed, xs, hxs, h⟩
  · rintro ⟨hclosed, xs, hxs, h⟩
    have hentries : Yaml.readEntries (d + 1) (.mapping tag es closed) = .ok (sortNamed xs) :=
      Yaml.readEntries_mapping_eq_ok_iff.mpr ⟨hclosed, xs, hxs, rfl⟩
    rw [hentries]
    exact h

/-- Keys that are strings are read as names. -/
theorem exists_paramsOf? (hps : ParamKeys ps) {nested : List (Yaml × Yaml)}
    (h : Yaml.ReadsEntries d ps nested) :
    ∃ xs, paramsOf? nested = some xs ∧ ReadsNamed d ps xs := by
  induction h with
  | nil => exact ⟨[], rfl, .nil⟩
  | @cons p x ps nested hx _ ih =>
    obtain ⟨⟨name, hname, -⟩, hrest⟩ := List.forall_mem_cons.mp hps
    obtain ⟨xs, hparams, hxs⟩ := ih hrest
    obtain ⟨key, value⟩ := x
    obtain rfl : key = .string name := Except.ok.inj (hx.1.symm.trans (hname.read d))
    refine ⟨(name, value) :: xs, ?_, .cons ⟨hname.text?, hx.2⟩ hxs⟩
    rw [paramsOf?, hparams]
    rfl

/-- Names whose keys are strings are read as these strings. -/
theorem exists_readsEntries (hps : ParamKeys ps) (h : ReadsNamed d ps xs) :
    ∃ nested, paramsOf? nested = some xs ∧ Yaml.ReadsEntries d ps nested := by
  induction h with
  | nil => exact ⟨[], rfl, .nil⟩
  | @cons p x ps xs hx _ ih =>
    obtain ⟨⟨name, hname, -⟩, hrest⟩ := List.forall_mem_cons.mp hps
    obtain ⟨nested, hparams, hentries⟩ := ih hrest
    obtain ⟨key, value⟩ := x
    obtain rfl : name = key := Option.some.inj (hname.text?.symm.trans hx.1)
    refine ⟨(.string name, value) :: nested, ?_, .cons ⟨hname.read d, hx.2⟩ hentries⟩
    rw [paramsOf?, hparams]
    rfl

/-- An expression with the kind beside the parameters. -/
theorem read_beside_eq_ok_iff {k value : Node} {kind : String} {tag : Option String}
    (hk : k.text? = some "kind") (hvalue : Form.IsString kind value) (hps : ParamKeys ps)
    (hdistinct : DistinctNames ps) :
    read (d + 1) (.mapping tag ((k, value) :: ps) true) = .ok e ↔
      ∃ xs, ReadsNamed d ps xs ∧ e = ⟨kind, sortNamed xs⟩ := by
  have hentries : ∀ xs, ReadsNamed d ps xs →
      ofEntries (sortNamed (("kind", .string kind) :: xs)) = .ok ⟨kind, sortNamed xs⟩ := by
    intro xs hxs
    -- no parameter has the name of the key for the kind
    have hnodup : ((("kind", Yaml.string kind) :: xs).map Prod.fst).Nodup := by
      refine List.nodup_cons.mpr ⟨fun hmem => ?_, hxs.nodup_iff.mp hdistinct⟩
      obtain ⟨x, hx, hname⟩ := List.mem_map.mp hmem
      obtain ⟨p, hp, hkey, -⟩ := hxs.exists_of_mem hx
      obtain ⟨name, hstring, hne⟩ := hps p hp
      exact hne ((Option.some.inj (hstring.text?.symm.trans hkey)).trans hname)
    rw [ofEntries_of_kind (Yaml.lookup_sortNamed hnodup) rfl, Yaml.filter_sortNamed hnodup]
  rw [read_mapping_eq_ok_iff]
  constructor
  · rintro ⟨-, ys, hys, he⟩
    -- the first entry is the kind, the rest are the parameters
    obtain ⟨⟨name, y⟩, xs, ⟨hname, hy⟩, hxs, rfl⟩ := List.forall₂_cons_left_iff.mp hys
    obtain rfl : "kind" = name := Option.some.inj (hk.symm.trans hname)
    obtain rfl : .string kind = y := Except.ok.inj ((hvalue.read d).symm.trans hy)
    rw [hentries xs hxs] at he
    exact ⟨xs, hxs, (Except.ok.inj he).symm⟩
  · rintro ⟨xs, hxs, rfl⟩
    exact ⟨rfl, ("kind", .string kind) :: xs, .cons ⟨hk, hvalue.read d⟩ hxs, hentries xs hxs⟩

/-- An expression with the parameters under the kind. -/
theorem read_under_eq_ok_iff {key : Node} {kind : String} {tag tag' : Option String}
    (hkey : key.text? = some kind) (hkind : kind ≠ "kind") (hps : ParamKeys ps)
    (htag : Yaml.localTag? tag' = none) :
    read (d + 2) (.mapping tag [(key, .mapping tag' ps true)] true) = .ok e ↔
      DistinctNames ps ∧ ∃ xs, ReadsNamed d ps xs ∧ e = ⟨kind, sortNamed xs⟩ := by
  have hsort : ∀ y : Yaml, sortNamed [(kind, y)] = [(kind, y)] := by
    intro y
    simp [sortNamed]
  have hunder : ∀ z, Yaml.underTag tag' (.ok z) = .ok z := by
    intro z
    simp [Yaml.underTag, htag]
  rw [read_mapping_eq_ok_iff]
  constructor
  · rintro ⟨-, ys, hys, he⟩
    obtain ⟨⟨name, y⟩, _, ⟨hname, hy⟩, hnil, rfl⟩ := List.forall₂_cons_left_iff.mp hys
    obtain rfl := List.forall₂_nil_left_iff.mp hnil
    obtain rfl : kind = name := Option.some.inj (hkey.symm.trans hname)
    -- the parameters are a mapping of their own, which is refused if two keys are the same
    obtain ⟨-, nested, hnested, hdistinct, hz⟩ := Yaml.read_mapping_eq_ok_iff.mp hy
    obtain rfl := Except.ok.inj ((hunder _).symm.trans hz)
    obtain ⟨xs, hparams, hxs⟩ := exists_paramsOf? hps hnested
    have hnames := (pairwise_sameKey_iff (paramsOf?_eq_some_iff.mp hparams)).mp hdistinct
    rw [hsort, ofEntries_nested hkind hparams] at he
    exact ⟨hxs.nodup_iff.mpr hnames, xs, hxs, (Except.ok.inj he).symm⟩
  · rintro ⟨hnames, xs, hxs, rfl⟩
    obtain ⟨nested, hparams, hnested⟩ := exists_readsEntries hps hxs
    have hdistinct :=
      (pairwise_sameKey_iff (paramsOf?_eq_some_iff.mp hparams)).mpr (hxs.nodup_iff.mp hnames)
    have hvalue := Yaml.read_mapping_eq_ok_iff.mpr ⟨rfl, nested, hnested, hdistinct, hunder _⟩
    refine ⟨rfl, [(kind, .mapping nested)], .cons ⟨hkey, hvalue⟩ .nil, ?_⟩
    rw [hsort, ofEntries_nested hkind hparams]

/-! ### Respelling -/

/-- How deep the parameters stand has no say as long as their values are nested within the
bound. -/
theorem readsNamed_congr {d' : Nat} (h : ∀ p ∈ ps, p.2.depth ≤ d) (h' : ∀ p ∈ ps, p.2.depth ≤ d')
    (hxs : ReadsNamed d ps xs) : ReadsNamed d' ps xs := by
  induction hxs with
  | nil => exact .nil
  | @cons p x ps xs hx _ ih =>
    obtain ⟨hp, hps⟩ := List.forall_mem_cons.mp h
    obtain ⟨hp', hps'⟩ := List.forall_mem_cons.mp h'
    refine .cons ⟨hx.1, ?_⟩ (ih hps hps')
    rw [← Yaml.read_eq_of_depth_le hp hp']
    exact hx.2

/-- **Reordered keys** make the same expression if the keys are distinct. -/
theorem read_reordered {es' fs : List (Node × Node)} {tag : Option String} {closed : Bool}
    (hperm : es.Perm es') (h : Node.ReorderedEntries es' fs) (hkeys : DistinctNames es)
    (he : read (d + 1) (.mapping tag es closed) = .ok e) :
    ∃ e', read (d + 1) (.mapping tag fs closed) = .ok e' ∧ e.Same e' := by
  obtain ⟨hclosed, xs, hxs, hentries⟩ := read_mapping_eq_ok_iff.mp he
  -- first the order of the keys, then what is inside the values
  obtain ⟨zs, hzs, hsame⟩ := List.perm_comp_forall₂ hperm.symm hxs
  obtain ⟨ys, hys, halike⟩ := h.readsNamed hzs
  have hnodup := hxs.nodup_iff.mp hkeys
  have hsorted := Yaml.sortNamed_congr hsame.symm halike hnodup
  have hdistinct : ∀ x ∈ sortNamed xs, ∀ nested, x.2 = .mapping nested →
      nested.Pairwise fun x y => Yaml.sameKey x.1 y.1 = false := by
    intro x hx nested hnested
    obtain ⟨p, -, -, hp⟩ := hxs.exists_of_mem ((Yaml.sortNamed_perm hnodup).mem_iff.mp hx)
    rw [hnested] at hp
    exact Yaml.pairwise_of_read hp
  obtain ⟨e', he', hsame'⟩ := ofEntries_congr hsorted hdistinct hentries
  exact ⟨e', read_mapping_eq_ok_iff.mpr ⟨hclosed, ys, hys, he'⟩, hsame'⟩

/-- **Both ways to write an expression** are the same if the keys are distinct and the values
nested within the bound. -/
theorem read_nests {kind : String} {n n' : Node} (h : Nests ps kind n n') :
    read (d + 2) n' = .ok e ↔
      DistinctNames ps ∧ (∀ p ∈ ps, p.2.depth ≤ d) ∧ read (d + 2) n = .ok e := by
  -- what was read was nested within the bound
  have hdepth : ∀ {xs}, ReadsNamed d ps xs → ∀ p ∈ ps, p.2.depth ≤ d := by
    intro xs hxs p hp
    obtain ⟨x, -, -, hx⟩ := hxs.exists_of_mem_left hp
    exact Yaml.depth_le_of_read hx
  cases h with
  | nests hk hvalue hkey hkind hps htag =>
    rw [read_under_eq_ok_iff hkey hkind hps htag]
    constructor
    · -- beside the kind the same values have one level more to spare
      rintro ⟨hnames, xs, hxs, rfl⟩
      have hxs' : ReadsNamed (d + 1) ps xs :=
        readsNamed_congr (hdepth hxs) (fun p hp => Nat.le_succ_of_le (hdepth hxs p hp)) hxs
      exact ⟨hnames, hdepth hxs, (read_beside_eq_ok_iff hk hvalue hps hnames).mpr ⟨xs, hxs', rfl⟩⟩
    · -- under the kind they have one level less, which is what `hfits` is for
      rintro ⟨hnames, hfits, he⟩
      obtain ⟨xs, hxs, rfl⟩ := (read_beside_eq_ok_iff hk hvalue hps hnames).mp he
      exact ⟨hnames, xs,
        readsNamed_congr (fun p hp => Nat.le_succ_of_le (hfits p hp)) hfits hxs, rfl⟩

/-- Neither way to write an expression stands for no expression. -/
theorem Nests.readOptional {kind : String} {n n' : Node} (h : Nests ps kind n n') (d : Nat) :
    n.readOptional (read d) = (read d n).map some ∧
      n'.readOptional (read d) = (read d n').map some := by
  cases h
  exact ⟨rfl, rfl⟩

/-- The form of an expression governs its reader. -/
theorem governs_form : (form DistinctNames fun n => n.depth ≤ d).Governs
    (Node.readOptional (read (d + 2))) (Option.Rel Same) where
  refl
    | none => .none
    | some e => .some e.same_refl
  respelled := by
    intro n n' b hn hb
    cases hn with
    | refl =>
      cases b with
      | none => exact ⟨none, hb, .none⟩
      | some e => exact ⟨some e, hb, .some e.same_refl⟩
    | reorder hperm h hkeys =>
      obtain ⟨e, he, rfl⟩ := Except.map_eq_ok_iff.mp hb
      obtain ⟨e', he', hsame⟩ := read_reordered hperm h hkeys he
      exact ⟨some e', Except.map_eq_ok_iff.mpr ⟨e', he', rfl⟩, .some hsame⟩
    | nest h hkeys hfits =>
      obtain ⟨hflat, hnested⟩ := h.readOptional (d + 2)
      rw [hflat] at hb
      obtain ⟨e, he, rfl⟩ := Except.map_eq_ok_iff.mp hb
      refine ⟨some e, ?_, .some e.same_refl⟩
      rw [hnested]
      exact Except.map_eq_ok_iff.mpr ⟨e, (read_nests h).mpr ⟨hkeys, hfits, he⟩, rfl⟩
    | unnest h =>
      obtain ⟨hflat, hnested⟩ := h.readOptional (d + 2)
      rw [hnested] at hb
      obtain ⟨e, he, rfl⟩ := Except.map_eq_ok_iff.mp hb
      refine ⟨some e, ?_, .some e.same_refl⟩
      rw [hflat]
      -- reading from under the kind needs no condition: it has checked the names and the depth
      exact Except.map_eq_ok_iff.mpr ⟨e, ((read_nests h).mp he).2.2, rfl⟩
  miskeyed h := h.elim

end SheetGrammar.ExpressionEntry
