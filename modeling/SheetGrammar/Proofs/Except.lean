import Mathlib.Data.List.Forall2
import Mathlib.Data.List.Nodup

/-!
# Computations that may fail

A computation made of several parts returns a value exactly if each part does.

## Main results

* `Except.bind_eq_ok_iff`, `Except.map_eq_ok_iff` — one part after the other.
* `List.mapM_eq_ok_iff`, `List.mapM_eq_error_iff` — one part for each element of a list; the
  first one that fails decides.
* `List.exists_foldlM_eq_ok_iff` — an accumulator that does not decide whether a part succeeds.
* `List.foldlM_induction` — what each part keeps of an accumulator holds at the end.
* `List.foldlM_eq_error_iff` — the first part of an accumulation that fails decides.
* `List.foldlM_insert_eq_ok_iff` — adding parts whose keys have to be distinct.
-/

namespace Except

variable {ε α β γ : Type}

theorem bind_eq_ok_iff {x : Except ε α} {f : α → Except ε β} {b : β} :
    x.bind f = .ok b ↔ ∃ a, x = .ok a ∧ f a = .ok b := by
  cases x with
  | error e => simp [Except.bind]
  | ok a => simp [Except.bind]

theorem map_eq_ok_iff {x : Except ε α} {f : α → β} {b : β} :
    x.map f = .ok b ↔ ∃ a, x = .ok a ∧ f a = b := by
  cases x with
  | error e => simp [Except.map]
  | ok a => simp [Except.map]

theorem map_eq_error_iff {x : Except ε α} {f : α → β} {e : ε} :
    x.map f = .error e ↔ x = .error e := by
  cases x with
  | error e => simp [Except.map]
  | ok a => simp [Except.map]

/-! ### One part after the other -/

theorem bind_eq (x : Except ε α) (f : α → Except ε β) : x >>= f = x.bind f := rfl

theorem bind_map (x : Except ε α) (f : α → β) (g : β → Except ε γ) :
    (x.map f).bind g = x.bind fun a => g (f a) := by
  cases x with
  | error e => rfl
  | ok a => rfl

theorem map_bind (x : Except ε α) (f : α → Except ε β) (g : β → γ) :
    (x.bind f).map g = x.bind fun a => (f a).map g := by
  cases x with
  | error e => rfl
  | ok a => rfl

theorem bind_bind (x : Except ε α) (f : α → Except ε β) (g : β → Except ε γ) :
    (x.bind f).bind g = x.bind fun a => (f a).bind g := by
  cases x with
  | error e => rfl
  | ok a => rfl

end Except

namespace List

variable {ε α β γ : Type}

theorem Forall₂.exists_of_mem {R : α → β → Prop} {as : List α} {bs : List β} {b : β}
    (h : List.Forall₂ R as bs) (hb : b ∈ bs) : ∃ a ∈ as, R a b := by
  induction h with
  | nil => cases hb
  | cons hab _ ih =>
    rcases List.mem_cons.mp hb with rfl | hb
    · exact ⟨_, List.mem_cons_self, hab⟩
    · obtain ⟨a, ha, hr⟩ := ih hb
      exact ⟨a, List.mem_cons_of_mem _ ha, hr⟩

theorem Forall₂.exists_of_mem_left {R : α → β → Prop} {as : List α} {bs : List β} {a : α}
    (h : List.Forall₂ R as bs) (ha : a ∈ as) : ∃ b ∈ bs, R a b :=
  h.flip.exists_of_mem ha

/-- Lists agree under two maps if related elements do. -/
theorem Forall₂.map_eq_map {R : α → β → Prop} {f : α → γ} {g : β → γ} {as : List α} {bs : List β}
    (h : List.Forall₂ R as bs) (hR : ∀ {a b}, R a b → g b = f a) : bs.map g = as.map f := by
  induction h with
  | nil => rfl
  | cons hab _ ih => rw [List.map_cons, List.map_cons, ih, hR hab]

/-- What is known of the elements of one list is carried over to those of a related list. -/
theorem Forall₂.exists_forall₂ {δ : Type} {R : α → β → Prop} {P : α → γ → Prop} {Q : β → δ → Prop}
    {S : γ → δ → Prop} {as : List α} {bs : List β} {cs : List γ} (h : List.Forall₂ R as bs)
    (hP : List.Forall₂ P as cs) (step : ∀ {a b c}, R a b → P a c → ∃ d, Q b d ∧ S c d) :
    ∃ ds, List.Forall₂ Q bs ds ∧ List.Forall₂ S cs ds := by
  induction h generalizing cs with
  | nil =>
    obtain rfl := List.forall₂_nil_left_iff.mp hP
    exact ⟨[], .nil, .nil⟩
  | cons hab _ ih =>
    obtain ⟨c, cs, hac, hrest, rfl⟩ := List.forall₂_cons_left_iff.mp hP
    obtain ⟨d, hQ, hS⟩ := step hab hac
    obtain ⟨ds, hQs, hSs⟩ := ih hrest
    exact ⟨d :: ds, .cons hQ hQs, .cons hS hSs⟩

/-- Lists that go together by way of other elements go together by way of a list of them. -/
theorem forall₂_comp_iff {R : α → β → Prop} {S : β → γ → Prop} {as : List α} {cs : List γ} :
    List.Forall₂ (fun a c => ∃ b, R a b ∧ S b c) as cs ↔
      ∃ bs, List.Forall₂ R as bs ∧ List.Forall₂ S bs cs := by
  constructor
  · intro h
    induction h with
    | nil => exact ⟨[], .nil, .nil⟩
    | cons hac _ ih =>
      obtain ⟨b, hR, hS⟩ := hac
      obtain ⟨bs, hRs, hSs⟩ := ih
      exact ⟨b :: bs, .cons hR hRs, .cons hS hSs⟩
  · rintro ⟨bs, hRs, hSs⟩
    induction hRs generalizing cs with
    | nil =>
      cases hSs
      exact .nil
    | cons hR _ ih =>
      cases hSs with
      | cons hS hSs => exact .cons ⟨_, hR, hS⟩ (ih hSs)

theorem mapM_cons_eq_bind (f : α → Except ε β) (a : α) (as : List α) :
    (a :: as).mapM f = (f a).bind fun b => (as.mapM f).map fun bs => b :: bs := by
  rw [List.mapM_cons]
  rfl

/-- Related elements are computed alike. -/
theorem Forall₂.mapM_congr {δ : Type} {R : α → δ → Prop} {f : α → Except ε β} {g : δ → Except ε β}
    {as : List α} {bs : List δ} (h : List.Forall₂ R as bs) (hR : ∀ {a b}, R a b → g b = f a) :
    bs.mapM g = as.mapM f := by
  induction h with
  | nil => rfl
  | cons hab _ ih => rw [mapM_cons_eq_bind, mapM_cons_eq_bind, hR hab, ih]

/-- A list is computed element by element. -/
theorem mapM_eq_ok_iff {f : α → Except ε β} {as : List α} {bs : List β} :
    as.mapM f = .ok bs ↔ List.Forall₂ (fun a b => f a = .ok b) as bs := by
  induction as generalizing bs with
  | nil =>
    rw [List.mapM_nil, List.forall₂_nil_left_iff]
    exact ⟨fun h => (Except.ok.inj h).symm, fun h => congrArg Except.ok h.symm⟩
  | cons a as ih =>
    rw [mapM_cons_eq_bind, Except.bind_eq_ok_iff, List.forall₂_cons_left_iff]
    simp only [Except.map_eq_ok_iff, ih]
    constructor
    · rintro ⟨b, hb, bs', hbs', rfl⟩
      exact ⟨b, bs', hb, hbs', rfl⟩
    · rintro ⟨b, bs', hb, hbs', rfl⟩
      exact ⟨b, hb, bs', hbs', rfl⟩

/-- The same where a computation does not tell why it fails. -/
theorem mapM_eq_some_iff {f : α → Option β} {as : List α} {bs : List β} :
    as.mapM f = some bs ↔ List.Forall₂ (fun a b => f a = some b) as bs := by
  induction as generalizing bs with
  | nil =>
    rw [List.mapM_nil, List.forall₂_nil_left_iff]
    exact ⟨fun h => (Option.some.inj h).symm, fun h => congrArg some h.symm⟩
  | cons a as ih =>
    simp only [List.mapM_cons, Option.bind_eq_bind, Option.bind_eq_some_iff, ih, Option.pure_def,
      Option.some.injEq, List.forall₂_cons_left_iff]
    constructor
    · rintro ⟨b, hb, bs', hbs', rfl⟩
      exact ⟨b, bs', hb, hbs', rfl⟩
    · rintro ⟨b, bs', hb, hbs', rfl⟩
      exact ⟨b, hb, bs', hbs', rfl⟩

/-- A list is computed if and only if each element is. -/
theorem exists_mapM_eq_ok_iff {f : α → Except ε β} {as : List α} :
    (∃ bs, as.mapM f = .ok bs) ↔ ∀ a ∈ as, ∃ b, f a = .ok b := by
  induction as with
  | nil => exact ⟨fun _ _ ha => absurd ha List.not_mem_nil, fun _ => ⟨[], List.mapM_nil⟩⟩
  | cons a as ih =>
    rw [List.forall_mem_cons, ← ih]
    simp only [mapM_cons_eq_bind, Except.bind_eq_ok_iff, Except.map_eq_ok_iff]
    constructor
    · rintro ⟨_, b, hb, bs, hbs, rfl⟩
      exact ⟨⟨b, hb⟩, bs, hbs⟩
    · rintro ⟨⟨b, hb⟩, bs, hbs⟩
      exact ⟨b :: bs, b, hb, bs, hbs, rfl⟩

/-- The first element that fails decides. -/
theorem mapM_eq_error_iff {f : α → Except ε β} {as : List α} {e : ε} :
    as.mapM f = .error e ↔ ∃ before a after, as = before ++ a :: after ∧
      (∀ b ∈ before, ∃ c, f b = .ok c) ∧ f a = .error e := by
  constructor
  · intro h
    induction as with
    | nil => cases h
    | cons a as ih =>
      rw [mapM_cons_eq_bind] at h
      cases ha : f a with
      | error e' =>
        -- nothing has to be computed before the first element
        rw [ha] at h
        obtain rfl := Except.error.inj h
        exact ⟨[], a, as, rfl, by simp, ha⟩
      | ok b =>
        rw [ha] at h
        obtain ⟨before, a', after, rfl, hbefore, ha'⟩ := ih (Except.map_eq_error_iff.mp h)
        exact ⟨a :: before, a', after, rfl, List.forall_mem_cons.mpr ⟨⟨b, ha⟩, hbefore⟩, ha'⟩
  · rintro ⟨before, a, after, rfl, hbefore, ha⟩
    induction before with
    | nil =>
      rw [List.nil_append, mapM_cons_eq_bind, ha]
      rfl
    | cons b before ih =>
      obtain ⟨⟨c, hc⟩, hbefore⟩ := List.forall_mem_cons.mp hbefore
      rw [List.cons_append, mapM_cons_eq_bind, hc]
      exact Except.map_eq_error_iff.mpr (ih hbefore)

theorem foldlM_cons_eq_ok_iff {f : β → α → Except ε β} {a : α} {as : List α} {b b' : β} :
    (a :: as).foldlM f b = .ok b' ↔ ∃ c, f b a = .ok c ∧ as.foldlM f c = .ok b' := by
  rw [List.foldlM_cons]
  exact Except.bind_eq_ok_iff

/-- Related parts go into an accumulator alike. -/
theorem Forall₂.foldlM_congr {R : α → γ → Prop} {f : β → α → Except ε β} {g : β → γ → Except ε β}
    {as : List α} {bs : List γ} (h : List.Forall₂ R as bs)
    (hR : ∀ {x a b}, R a b → g x b = f x a) (x : β) : bs.foldlM g x = as.foldlM f x := by
  induction h generalizing x with
  | nil => rfl
  | cons hab _ ih =>
    rw [List.foldlM_cons, List.foldlM_cons, hR hab]
    exact congrArg _ (funext ih)

/-- The first part that fails decides. -/
theorem foldlM_eq_error_iff {f : β → α → Except ε β} {as : List α} {b : β} {e : ε} :
    as.foldlM f b = .error e ↔ ∃ before a after c, as = before ++ a :: after ∧
      before.foldlM f b = .ok c ∧ f c a = .error e := by
  constructor
  · intro h
    induction as generalizing b with
    | nil => cases h
    | cons a as ih =>
      rw [List.foldlM_cons] at h
      cases ha : f b a with
      | error e' =>
        rw [ha] at h
        obtain rfl := Except.error.inj h
        exact ⟨[], a, as, b, rfl, rfl, ha⟩
      | ok b' =>
        rw [ha] at h
        obtain ⟨before, a', after, c, rfl, hbefore, ha'⟩ := ih h
        exact ⟨a :: before, a', after, c, rfl, foldlM_cons_eq_ok_iff.mpr ⟨b', ha, hbefore⟩, ha'⟩
  · rintro ⟨before, a, after, c, rfl, hbefore, ha⟩
    rw [List.foldlM_append, hbefore]
    change (a :: after).foldlM f c = .error e
    rw [List.foldlM_cons, ha]
    rfl

/-- Parts succeed one after the other if and only if each does, where the accumulator does not
decide about that. -/
theorem exists_foldlM_eq_ok_iff {P : α → Prop} {f : β → α → Except ε β}
    (step : ∀ b a, (∃ c, f b a = .ok c) ↔ P a) {as : List α} {b : β} :
    (∃ c, as.foldlM f b = .ok c) ↔ ∀ a ∈ as, P a := by
  induction as generalizing b with
  | nil => exact ⟨fun _ _ ha => absurd ha List.not_mem_nil, fun _ => ⟨b, rfl⟩⟩
  | cons a as ih =>
    simp only [List.forall_mem_cons, foldlM_cons_eq_ok_iff]
    constructor
    · rintro ⟨b', c, hc, hrest⟩
      exact ⟨(step b a).mp ⟨c, hc⟩, ih.mp ⟨b', hrest⟩⟩
    · rintro ⟨ha, hrest⟩
      obtain ⟨c, hc⟩ := (step b a).mpr ha
      obtain ⟨b', hb'⟩ := (ih (b := c)).mpr hrest
      exact ⟨b', c, hc, hb'⟩

/-- Parts may all be computed before any of them goes into the accumulator. -/
theorem foldlM_bind_eq_ok_iff {f : α → Except ε γ} {g : β → γ → Except ε β} {as : List α}
    {b b' : β} :
    as.foldlM (fun b a => (f a).bind (g b)) b = .ok b' ↔
      ∃ cs, List.Forall₂ (fun a c => f a = .ok c) as cs ∧ cs.foldlM g b = .ok b' := by
  induction as generalizing b with
  | nil =>
    simp only [List.forall₂_nil_left_iff, exists_eq_left]
    exact Iff.rfl
  | cons a as ih =>
    simp only [foldlM_cons_eq_ok_iff, Except.bind_eq_ok_iff, ih, List.forall₂_cons_left_iff]
    constructor
    · rintro ⟨b₁, ⟨c, hc, hb₁⟩, cs, hcs, hrest⟩
      exact ⟨c :: cs, ⟨c, cs, hc, hcs, rfl⟩, foldlM_cons_eq_ok_iff.mpr ⟨b₁, hb₁, hrest⟩⟩
    · rintro ⟨_, ⟨c, cs, hc, hcs, rfl⟩, hfold⟩
      obtain ⟨b₁, hb₁, hrest⟩ := foldlM_cons_eq_ok_iff.mp hfold
      exact ⟨b₁, ⟨c, hc, hb₁⟩, cs, hcs, hrest⟩

/-- Parts that go behind others one by one, each with a key that is new, all go in exactly if
their keys are distinct. -/
theorem foldlM_insert_eq_ok_iff {key : α → γ} (make : List α → β) {insert : β → α → Except ε β}
    (step : ∀ {as a b}, insert (make as) a = .ok b ↔ key a ∉ as.map key ∧ b = make (as ++ [a]))
    {as bs : List α} {b : β} (h : (as.map key).Nodup) :
    bs.foldlM insert (make as) = .ok b ↔ ((as ++ bs).map key).Nodup ∧ b = make (as ++ bs) := by
  induction bs generalizing as with
  | nil =>
    rw [List.append_nil, and_iff_right h, eq_comm]
    exact ⟨fun h => (Except.ok.inj h), fun h => congrArg Except.ok h⟩
  | cons a bs ih =>
    have hsplit : as ++ a :: bs = (as ++ [a]) ++ bs := by simp
    have hconcat : ((as ++ [a]).map key).Nodup ↔ key a ∉ as.map key := by
      rw [List.map_append, List.map_singleton, ← List.concat_eq_append, List.nodup_concat,
        and_iff_left h]
    rw [foldlM_cons_eq_ok_iff, hsplit]
    constructor
    · rintro ⟨b₁, hb₁, hrest⟩
      obtain ⟨hnew, rfl⟩ := step.mp hb₁
      exact (ih (hconcat.mpr hnew)).mp hrest
    · rintro ⟨hnodup, rfl⟩
      -- the keys in front of the others are distinct, too
      have hfront : ((as ++ [a]).map key).Nodup := by
        rw [List.map_append] at hnodup
        exact hnodup.of_append_left
      exact ⟨_, step.mpr ⟨hconcat.mp hfront, rfl⟩, (ih hfront).mpr ⟨hnodup, rfl⟩⟩

/-- What every part keeps of the accumulator holds of the last one. -/
theorem foldlM_induction {P : β → Prop} {f : β → α → Except ε β}
    (step : ∀ {b a c}, f b a = .ok c → P b → P c) {as : List α} {b b' : β}
    (h : as.foldlM f b = .ok b') (hb : P b) : P b' := by
  induction as generalizing b with
  | nil =>
    obtain rfl := Except.ok.inj h
    exact hb
  | cons a as ih =>
    obtain ⟨c, hc, hrest⟩ := foldlM_cons_eq_ok_iff.mp h
    exact ih hrest (step hc hb)

end List
