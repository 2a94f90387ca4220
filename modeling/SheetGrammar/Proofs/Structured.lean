import Mathlib.Data.List.Forall2
import SheetGrammar.Structured

/-!
# Reading what was written

A list is read if its parts are, and a structure that is written with its fields in their
order is read field by field, whatever the format.

## Main results

* `Structured.readAll_eq_ok_iff` — a list is read part by part.
* `Structured.readAll_map` — parts are read back one by one.
* `Structured.readEntries_field` — an entry is read as the field whose name it bears.
* `Structured.readStruct_entries` — a structure is what its entries make of it.
-/

namespace SheetGrammar.Structured

variable {α β σ : Type}

theorem readAll_cons {read : α → Reading β} {part : α} {parts : List α} {b : β} {bs : List β}
    (h : read part = .ok b) (hs : readAll read parts = .ok bs) :
    readAll read (part :: parts) = .ok (b :: bs) := by
  rw [readAll, h]
  simp only [hs, Except.map]

/-- A list is read part by part. -/
theorem readAll_eq_ok_iff {read : α → Reading β} {parts : List α} {bs : List β} :
    readAll read parts = .ok bs ↔ List.Forall₂ (fun part b => read part = .ok b) parts bs := by
  induction parts generalizing bs with
  | nil =>
    rw [List.forall₂_nil_left_iff]
    exact ⟨fun h => (Except.ok.inj h).symm, fun h => congrArg Except.ok h.symm⟩
  | cons part parts ih =>
    rw [List.forall₂_cons_left_iff]
    constructor
    · intro h
      rw [readAll] at h
      cases hpart : read part with
      | error e =>
        rw [hpart] at h
        cases h
      | ok b =>
        rw [hpart] at h
        cases hparts : readAll read parts with
        | error e =>
          rw [hparts] at h
          cases h
        | ok bs' =>
          rw [hparts] at h
          obtain rfl := Except.ok.inj h
          exact ⟨b, bs', rfl, ih.mp hparts, rfl⟩
    · rintro ⟨b, bs', hpart, hparts, rfl⟩
      exact readAll_cons hpart (ih.mpr hparts)

theorem readAll_congr {read read' : α → Reading β} {parts : List α}
    (h : ∀ part ∈ parts, read part = read' part) : readAll read parts = readAll read' parts := by
  induction parts with
  | nil => rfl
  | cons part parts ih =>
    obtain ⟨hpart, hparts⟩ := List.forall_mem_cons.mp h
    rw [readAll, readAll, hpart, ih hparts]

theorem readAll_map {read : α → Reading β} {f : β → α} {bs : List β}
    (h : ∀ b ∈ bs, read (f b) = .ok b) : readAll read (bs.map f) = .ok bs := by
  induction bs with
  | nil => rfl
  | cons b bs ih =>
    exact readAll_cons (h b List.mem_cons_self) (ih fun c hc => h c (List.mem_cons_of_mem b hc))

@[simp] theorem hasName_field (name : String) (aliases : List String) (read : α → Reading β)
    (get? : σ → Option β) (set : σ → β → σ) (key : String) :
    (field name aliases read get? set).hasName key = (name = key || aliases.contains key) := by
  rw [Field.hasName]
  rfl

variable [Structured α] {fields : List (Field α σ)} {strict : Bool} {s : σ}

/-- An entry that bears the name of the field at a place, and of none before it, is read as
that field. -/
theorem readEntries_field (i : Nat) {key : String} {aliases : List String}
    {read : α → Reading β} {get? : σ → Option β} {set : σ → β → σ} {part : α} {b : β}
    {entries : List (Option String × α)}
    (hfield : fields[i]? = some (field key aliases read get? set))
    (hfirst : ∀ f ∈ fields.take i, f.hasName key = false) (hnew : get? s = none)
    (hread : read part = .ok b) :
    readEntries strict fields s ((some key, part) :: entries)
      = readEntries strict fields (set s b) entries := by
  obtain ⟨hi, hget⟩ := List.getElem?_eq_some_iff.mp hfield
  have hname : (field key aliases read get? set).hasName key = true := by simp [hasName_field]
  have hfind : (fields.find? fun f => f.hasName key)
      = some (field key aliases read get? set) := by
    rw [← List.take_append_drop i fields, List.find?_append,
      List.find?_eq_none.mpr (by simpa using hfirst), List.drop_eq_getElem_cons hi, hget,
      Option.none_or]
    exact List.find?_cons_of_pos hname
  have hentry : readEntry strict fields s (some key, part) = .ok (set s b) := by
    simp [readEntry, hfind, field, hnew, hread, Except.map]
  rw [readEntries, hentry]

theorem readStruct_entries {finish : σ → Reading β} {start : σ} {part : α} {b : β}
    {entries : List (Option String × α)} (hentries : entries? part = some ⟨entries, true⟩)
    (hread : readEntries strict fields start entries = .ok s) (hfinish : finish s = .ok b) :
    readStruct strict fields start finish part = .ok b := by
  rw [readStruct, hentries]
  simp only [hread, hfinish, if_true]

theorem readList_eq_ok_iff {read : α → Reading β} {part : α} {bs : List β} :
    readList read part = .ok bs ↔ ∃ parts, items? part = some ⟨parts, true⟩ ∧
      List.Forall₂ (fun part b => read part = .ok b) parts bs := by
  simp only [← readAll_eq_ok_iff, readList]
  cases items? part with
  | none => simp
  | some list =>
    obtain ⟨parts, closed⟩ := list
    cases hparts : readAll read parts with
    | error e => cases closed <;> simp [hparts]
    | ok bs' => cases closed <;> simp [hparts]

theorem readList_items {read : α → Reading β} {part : α} {items : List α} {bs : List β}
    (hitems : items? part = some ⟨items, true⟩) (hread : readAll read items = .ok bs) :
    readList read part = .ok bs := by
  simp only [readList, hitems, hread, if_true]

end SheetGrammar.Structured
