import SheetGrammar.Config.Entry
import SheetGrammar.Proofs.Except

/-!
# Entries as the sum of their fields

A field of an entry does two things when it is read: it notes its name and it updates the
entry.  An entry is read if each of its keys names a field, no field is read twice, each value
is read, and no field is missing; it is then what the updates make of the defaults.

## Main definitions

* `Entry.Updates`, `Entry.IsSlot` — what reading a field does to an entry.
* `Entry.ReadsAs` — a key with its value as a field with an update.

## Main results

* `Entry.readEntries_eq_ok_iff`, `Entry.read_mapping_eq_ok_iff` — an entry is read field by field.
-/

namespace SheetGrammar.Entry

open Structured (Reading Field)
open Yaml (Node)

variable {σ β : Type}

/-! ### Fields -/

/-- Reading a value as a field updates the entry, whatever it is. -/
def Updates (f : Field Node (Filling σ)) (v : Node) (u : σ → σ) : Prop :=
  ∀ s, f.read v s = .ok ⟨u s.entry, f.name :: s.filled⟩

/-- A field that notes its name and updates the entry. -/
structure IsSlot (f : Field Node (Filling σ)) : Prop where
  isRead : ∀ s, f.isRead s = s.filled.contains f.name
  updates : ∀ {v s t}, f.read v s = .ok t → ∃ u, Updates f v u

theorem Updates.unique {f : Field Node (Filling σ)} {v : Node} {u u' : σ → σ} (h : Updates f v u)
    (h' : Updates f v u') : u = u' := by
  funext x
  exact congrArg Filling.entry (Except.ok.inj ((h ⟨x, []⟩).symm.trans (h' ⟨x, []⟩)))

/-- Two fields update an entry in either order. -/
def Commutes (f g : Field Node (Filling σ)) : Prop :=
  ∀ ⦃v w a b⦄, Updates f v a → Updates g w b → ∀ x, b (a x) = a (b x)

instance : Std.Symm (@Commutes σ) where
  symm _ _ h _ _ _ _ ha hb x := (h hb ha x).symm

section Slot

variable {name : String} {aliases : List String} {read : Node → Reading β} {set : σ → β → σ}
  {v : Node}

theorem updates_slot {b : β} (h : read v = .ok b) :
    Updates (slot name aliases read set) v fun x => set x b := by
  intro s
  simp only [slot, h, Except.map]

theorem isSlot_slot (name : String) (aliases : List String) (read : Node → Reading β)
    (set : σ → β → σ) : IsSlot (slot name aliases read set) where
  isRead _ := rfl
  updates h := by
    obtain ⟨b, hb, -⟩ := Except.map_eq_ok_iff.mp h
    exact ⟨_, updates_slot hb⟩

/-- A value that updates an entry has been read. -/
theorem Updates.eq_of_slot {u : σ → σ} (h : Updates (slot name aliases read set) v u) (x : σ) :
    ∃ b, read v = .ok b ∧ ∀ x, u x = set x b := by
  obtain ⟨b, hb, -⟩ := Except.map_eq_ok_iff.mp (h ⟨x, []⟩)
  exact ⟨b, hb, congrFun (h.unique (updates_slot hb))⟩

theorem commutes_slot {γ : Type} {name' : String} {aliases' : List String}
    {read' : Node → Reading γ} {set' : σ → γ → σ}
    (h : ∀ x b c, set' (set x b) c = set (set' x c) b) :
    Commutes (slot name aliases read set) (slot name' aliases' read' set') := by
  intro v w a b ha hb x
  obtain ⟨y, -, hay⟩ := ha.eq_of_slot x
  obtain ⟨z, -, hbz⟩ := hb.eq_of_slot x
  rw [hbz, hay, hay, hbz, h]

end Slot

/-! ### Entries -/

variable {fields : List (Field Node (Filling σ))} {s t : Filling σ} {es : List (Node × Node)}

/-- A key names a field, and its value is an update of the entry. -/
def ReadsAs (fields : List (Field Node (Filling σ))) (e : Node × Node)
    (u : String × (σ → σ)) : Prop :=
  ∃ key f, e.1.text? = some key ∧ (fields.find? fun f => f.hasName key) = some f ∧
    u.1 = f.name ∧ Updates f e.2 u.2

/-- What some updates make of an entry. -/
def updateAll (us : List (String × (σ → σ))) (x : σ) : σ := us.foldl (fun x u => u.2 x) x

theorem readEntry_eq_ok_iff (hslots : ∀ f ∈ fields, IsSlot f) {e : Node × Node} :
    Structured.readEntry true fields s (e.1.text?, e.2) = .ok t ↔
      ∃ u, ReadsAs fields e u ∧ u.1 ∉ s.filled ∧ t = ⟨u.2 s.entry, u.1 :: s.filled⟩ := by
  constructor
  · intro h
    cases hkey : e.1.text? with
    | none =>
      rw [hkey] at h
      cases h
    | some key =>
      rw [hkey, Structured.readEntry] at h
      cases hfind : fields.find? fun f => f.hasName key with
      | none =>
        rw [hfind] at h
        cases h
      | some f =>
        rw [hfind] at h
        have hslot := hslots f (List.mem_of_find?_eq_some hfind)
        dsimp only at h
        rw [hslot.isRead] at h
        split at h
        · cases h
        · next hnew =>
          obtain ⟨u, hu⟩ := hslot.updates h
          have ht := Except.ok.inj (h.symm.trans (hu s))
          exact ⟨(f.name, u), ⟨key, f, hkey, hfind, rfl, hu⟩, by simpa using hnew, ht⟩
  · rintro ⟨u, ⟨key, f, hkey, hfind, hname, hu⟩, hnew, rfl⟩
    have hslot := hslots f (List.mem_of_find?_eq_some hfind)
    have hunread : f.isRead s = false := by
      rw [hslot.isRead, ← hname]
      simpa using hnew
    rw [hkey, Structured.readEntry, hfind]
    simp only [hunread, Bool.false_eq_true, if_false, hname]
    exact hu s

/-- Entries are read one by one, each as another field. -/
theorem readEntries_eq_ok_iff (hslots : ∀ f ∈ fields, IsSlot f) :
    Structured.readEntries true fields s (es.map fun e => (e.1.text?, e.2)) = .ok t ↔
      ∃ us, List.Forall₂ (ReadsAs fields) es us ∧ (us.map Prod.fst).Nodup ∧
        (∀ u ∈ us, u.1 ∉ s.filled) ∧
        t = ⟨updateAll us s.entry, (us.map Prod.fst).reverse ++ s.filled⟩ := by
  induction es generalizing s with
  | nil =>
    constructor
    · intro h
      obtain rfl := Except.ok.inj h
      exact ⟨[], .nil, .nil, by simp, rfl⟩
    · rintro ⟨us, hus, -, -, rfl⟩
      obtain rfl := List.forall₂_nil_left_iff.mp hus
      rfl
  | cons e es ih =>
    rw [List.map_cons, Structured.readEntries]
    constructor
    · intro h
      cases hentry : Structured.readEntry true fields s (e.1.text?, e.2) with
      | error e =>
        rw [hentry] at h
        cases h
      | ok s' =>
        rw [hentry] at h
        obtain ⟨u, hu, hnew, rfl⟩ := (readEntry_eq_ok_iff hslots).mp hentry
        obtain ⟨us, hus, hnodup, hfilled, rfl⟩ := ih.mp h
        have hnames : u.1 ∉ us.map Prod.fst := by
          intro hmem
          obtain ⟨w, hw, hname⟩ := List.mem_map.mp hmem
          exact hfilled w hw (hname ▸ List.mem_cons_self)
        refine ⟨u :: us, .cons hu hus, List.nodup_cons.mpr ⟨hnames, hnodup⟩, ?_, by simp [updateAll]⟩
        exact List.forall_mem_cons.mpr
          ⟨hnew, fun w hw hmem => hfilled w hw (List.mem_cons_of_mem _ hmem)⟩
    · rintro ⟨_, hall, hnodup, hfilled, rfl⟩
      obtain ⟨u, us, hu, hus, rfl⟩ := List.forall₂_cons_left_iff.mp hall
      obtain ⟨hnames, hnodup⟩ := List.nodup_cons.mp hnodup
      obtain ⟨hnew, hfilled⟩ := List.forall_mem_cons.mp hfilled
      rw [(readEntry_eq_ok_iff hslots).mpr ⟨u, hu, hnew, rfl⟩]
      refine ih.mpr ⟨us, hus, hnodup, fun w hw hmem => ?_, by simp [updateAll]⟩
      rcases List.mem_cons.mp hmem with hname | hmem
      · exact hnames (List.mem_map.mpr ⟨w, hw, hname⟩)
      · exact hfilled w hw hmem

theorem finish_eq_ok_iff {needed : List String} {x : σ} :
    finish needed s = .ok x ↔ (∀ name ∈ needed, name ∈ s.filled) ∧ x = s.entry := by
  unfold finish
  cases hmissing : needed.find? fun name => !s.filled.contains name with
  | none =>
    have hall : ∀ name ∈ needed, name ∈ s.filled := by
      intro name hname
      simpa using List.find?_eq_none.mp hmissing name hname
    rw [and_iff_right hall]
    exact ⟨fun h => (Except.ok.inj h).symm, fun h => congrArg Except.ok h.symm⟩
  | some name =>
    have hname := List.mem_of_find?_eq_some hmissing
    have hnot : name ∉ s.filled := by simpa using List.find?_some hmissing
    constructor
    · intro h
      cases h
    · rintro ⟨hall, -⟩
      exact absurd (hall name hname) hnot

/-- **An entry is read field by field.** Each key names another field, all needed fields are
among them, and the entry is what their updates make of the defaults. -/
theorem read_mapping_eq_ok_iff (hslots : ∀ f ∈ fields, IsSlot f) {needed : List String}
    {start x : σ} {tag : Option String} {closed : Bool} :
    read fields needed start (.mapping tag es closed) = .ok x ↔
      closed = true ∧ ∃ us, List.Forall₂ (ReadsAs fields) es us ∧ (us.map Prod.fst).Nodup ∧
        (∀ name ∈ needed, name ∈ us.map Prod.fst) ∧ x = updateAll us start := by
  have hparts : Structured.entries? (Node.mapping tag es closed)
      = some ⟨es.map fun e => (e.1.text?, e.2), closed⟩ := rfl
  rw [read, Structured.readStruct, hparts]
  dsimp only
  constructor
  · intro h
    cases hs : Structured.readEntries true fields ⟨start, []⟩
        (es.map fun e => (e.1.text?, e.2)) with
    | error e =>
      rw [hs] at h
      cases h
    | ok s =>
      rw [hs] at h
      obtain ⟨us, hus, hnodup, -, rfl⟩ := (readEntries_eq_ok_iff hslots).mp hs
      cases closed with
      | false => cases h
      | true =>
        obtain ⟨hneeded, rfl⟩ := finish_eq_ok_iff.mp h
        exact ⟨rfl, us, hus, hnodup, by simpa using hneeded, rfl⟩
  · rintro ⟨rfl, us, hus, hnodup, hneeded, rfl⟩
    rw [(readEntries_eq_ok_iff hslots).mpr ⟨us, hus, hnodup, by simp, rfl⟩]
    exact finish_eq_ok_iff.mpr ⟨by simpa using hneeded, rfl⟩

end SheetGrammar.Entry
