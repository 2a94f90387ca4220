import SheetGrammar.Record.Json
import SheetGrammar.Proofs.Json.RoundTrip
import SheetGrammar.Proofs.Structured

/-!
# Documents come back from JSON

A document that is written as JSON and read again is the same.  The conditions are those of
the format alone: indexes of 64 bits, floats that are read back from their texts, and no
deeper nesting than the reader allows.

## Main definitions

* `Document.Portable` — a document within these conditions.

## Main results

* `Document.printable_toJson` — the JSON value of such a document can be written and read.
* `Document.read_toJson` — a document is read back from its JSON value.
* `Document.ofJsonText_jsonText` — a document is read back from its JSON text.
-/

namespace SheetGrammar

open Structured

/-! ### The conditions -/

/-- A value that JSON keeps: if it is a float, it is read back from its text. -/
def Value.Portable : Value → Prop
  | .float x => Json.ReadsBack x
  | _ => True

/-- A record that JSON keeps, those under it aside. -/
structure Record.Portable (r : Record) : Prop where
  index_lt : r.index < wordSize 64
  columns : ∀ c ∈ r.columns, c.value.Portable

/-- A sheet that JSON keeps. -/
structure SheetTree.Portable (s : SheetTree) : Prop where
  index_lt : s.index < wordSize 64
  rows : ∀ r ∈ Record.walkRows s.rows, r.Portable

/-- A document that JSON keeps: its sheets are kept, and its nesting can be read. -/
structure Document.Portable (d : Document) : Prop where
  sheets : ∀ s ∈ d.sheets, s.Portable
  nesting : d.toJson.depth ≤ Json.maxDepth

/-! ### Printing -/

theorem Json.allPrintable_map {α : Type} {f : α → Json} {xs : List α}
    (h : ∀ x ∈ xs, (f x).Printable) : AllPrintable (xs.map f) := by
  induction xs with
  | nil => trivial
  | cons x xs ih =>
    exact ⟨h x List.mem_cons_self, ih fun y hy => h y (List.mem_cons_of_mem x hy)⟩

theorem Value.printable_toJson {v : Value} (h : v.Portable) : v.toJson.Printable := by
  cases v with
  | string s => trivial
  | integer n =>
    have hlow := n.le_toInt
    have hhigh := n.toInt_lt
    have hhalf : wordSize 63 = 2 ^ 63 := rfl
    have hfull : wordSize 64 = 2 ^ 64 := rfl
    exact ⟨by omega, by omega⟩
  | float x => exact h

theorem Column.printable_toJson {c : Column} (h : c.value.Portable) : c.toJson.Printable :=
  ⟨rfl, trivial, trivial, Value.printable_toJson h, trivial⟩

theorem Json.printable_index {n : Nat} (h : n < wordSize 64) : (integer n).Printable :=
  ⟨by omega, by omega⟩

namespace Record

mutual

theorem printable_toJson : ∀ r : Record, (∀ s ∈ r.walk, s.Portable) → r.toJson.Printable
  | ⟨name, index, columns, children⟩, h => by
    have hr := h _ List.mem_cons_self
    have hunder := printable_groupsToJson children fun s hs => h s (List.mem_cons_of_mem _ hs)
    have hcolumns := Json.allPrintable_map fun c hc => Column.printable_toJson (hr.columns c hc)
    exact ⟨rfl, trivial, Json.printable_index hr.index_lt, ⟨rfl, hcolumns⟩, ⟨rfl, hunder⟩, trivial⟩

theorem printable_groupsToJson :
    ∀ gs : List (Group Record), (∀ s ∈ walkGroups gs, s.Portable) →
      Json.AllPrintable (groupsToJson gs)
  | [], _ => trivial
  | ⟨name, rows⟩ :: gs, h => by
    have hrows := printable_rowsToJson rows fun s hs => h s (List.mem_append_left _ hs)
    have hgs := printable_groupsToJson gs fun s hs => h s (List.mem_append_right _ hs)
    exact ⟨⟨rfl, trivial, ⟨rfl, hrows⟩, trivial⟩, hgs⟩

theorem printable_rowsToJson :
    ∀ rs : List Record, (∀ s ∈ walkRows rs, s.Portable) → Json.AllPrintable (rowsToJson rs)
  | [], _ => trivial
  | r :: rs, h => by
    have hr := printable_toJson r fun s hs => h s (List.mem_append_left _ hs)
    have hrs := printable_rowsToJson rs fun s hs => h s (List.mem_append_right _ hs)
    exact ⟨hr, hrs⟩

end

end Record

theorem SheetTree.printable_toJson {s : SheetTree} (h : s.Portable) : s.toJson.Printable :=
  ⟨rfl, trivial, Json.printable_index h.index_lt,
    ⟨rfl, Record.printable_rowsToJson s.rows h.rows⟩, trivial⟩

/-- The JSON value of a document can be written and read. -/
theorem Document.printable_toJson {d : Document} (h : ∀ s ∈ d.sheets, s.Portable) :
    d.toJson.Printable :=
  ⟨rfl, ⟨rfl, Json.allPrintable_map fun s hs => SheetTree.printable_toJson (h s hs)⟩, trivial⟩

/-! ### Reading -/

theorem Value.readValue_toJson (v : Value) : Structured.readValue v.toJson = .ok v := by
  cases v with
  | string s => rfl
  | integer n =>
    have hlow := n.le_toInt
    have hhigh := n.toInt_lt
    have hhalf : wordSize 63 = 2 ^ 63 := rfl
    have hread : Int64.ofInt? n.toInt = some n := by
      rw [Int64.ofInt?, if_pos ⟨by omega, by omega⟩, n.ofInt_toInt]
    simp only [Structured.readValue, toJson, value?, Json.value?, hread, orFail]
  | float x => rfl

theorem Json.readNatural_index {n : Nat} (h : n < wordSize 64) :
    readNatural (integer n) = .ok n := by
  have hread : natural? (integer n) = some n := by
    simp only [natural?]
    rw [if_pos ⟨by omega, by omega⟩, Int.toNat_natCast]
  rw [readNatural, hread]
  rfl

theorem Column.read_toJson (c : Column) (n : Nat) : Column.read (n + 1) c.toJson = .ok c := by
  rw [Column.read]
  refine readStruct_entries (s := PartialColumn.mk (some c.col) (some c.tag) (some c.value))
    rfl ?_ rfl
  refine Eq.trans (readEntries_field 0 rfl (by simp) rfl rfl) ?_
  refine Eq.trans (readEntries_field 1 rfl (by simp [PartialColumn.fields]) rfl rfl) ?_
  exact Eq.trans
    (readEntries_field 2 rfl (by simp [PartialColumn.fields]) rfl c.value.readValue_toJson) rfl

theorem Column.readMany_toJson {columns : List Column} {n : Nat}
    (hn : (Json.array (columns.map toJson) true).depth ≤ n) :
    Column.readMany n (Json.array (columns.map toJson) true) = .ok columns := by
  obtain ⟨n, rfl, hcolumns⟩ := Json.depth_items hn
  rw [readMany]
  refine readList_items rfl (readAll_map fun c hc => ?_)
  obtain ⟨n, rfl, -⟩ := Json.depth_members (hcolumns c.toJson (List.mem_map_of_mem hc))
  exact c.read_toJson n

namespace Record

/-- A record is put together from its fields. -/
theorem readStruct_toJson {readColumns : Json → Reading (List Column)}
    {readChildren : Json → Reading (List (Group Record))} {name : String} {index : Nat}
    {columns : List Column} {children : List (Group Record)} (hindex : index < wordSize 64)
    (hcolumns : readColumns (.array (columns.map Column.toJson) true) = .ok columns)
    (hchildren : readChildren (.array (groupsToJson children) true) = .ok children) :
    readStruct false (PartialRecord.fields readColumns readChildren) ⟨none, none, none, none⟩
      PartialRecord.finish (toJson ⟨name, index, columns, children⟩)
      = .ok ⟨name, index, columns, children⟩ := by
  refine readStruct_entries (s := ⟨some name, some index, some columns, some children⟩) rfl ?_ rfl
  refine Eq.trans (readEntries_field 0 rfl (by simp) rfl rfl) ?_
  refine Eq.trans (readEntries_field 1 rfl (by simp [PartialRecord.fields]) rfl
    (Json.readNatural_index hindex)) ?_
  refine Eq.trans (readEntries_field 2 rfl (by simp [PartialRecord.fields]) rfl hcolumns) ?_
  exact Eq.trans (readEntries_field 3 rfl (by simp [PartialRecord.fields]) rfl hchildren) rfl

theorem readRows_array {items : List Json} {rows : List Record} {n : Nat}
    (h : readAll (Record.read n) items = .ok rows) :
    readRows (n + 1) (Json.array items true) = .ok rows := by
  rw [readRows]
  exact readList_items rfl h

theorem readGroups_array {items : List Json} {groups : List (Group Record)} {n : Nat}
    (h : readAll (readGroup n) items = .ok groups) :
    readGroups (n + 1) (Json.array items true) = .ok groups := by
  rw [readGroups]
  exact readList_items rfl h

mutual

/-- A record is read back from its JSON value. -/
theorem read_toJson :
    ∀ (r : Record) {n : Nat}, (∀ s ∈ r.walk, s.index < wordSize 64) → r.toJson.depth ≤ n →
      Record.read n r.toJson = .ok r
  | ⟨name, index, columns, children⟩, _, h, hn => by
    obtain ⟨n, rfl, hfields⟩ := Json.depth_members hn
    have hcolumns := hfields ("columns", .array (columns.map Column.toJson) true) (by simp)
    have hchildren := hfields ("children", .array (groupsToJson children) true) (by simp)
    obtain ⟨n, rfl, hgroups⟩ := Json.depth_items hchildren
    have hread := readAll_groupsToJson children (fun s hs => h s (List.mem_cons_of_mem _ hs))
      hgroups
    rw [Record.read]
    exact readStruct_toJson (h _ List.mem_cons_self) (Column.readMany_toJson hcolumns)
      (readGroups_array hread)

theorem readAll_groupsToJson :
    ∀ (gs : List (Group Record)) {n : Nat}, (∀ s ∈ walkGroups gs, s.index < wordSize 64) →
      (∀ j ∈ groupsToJson gs, j.depth ≤ n) → readAll (readGroup n) (groupsToJson gs) = .ok gs
  | [], _, _, _ => rfl
  | ⟨name, rows⟩ :: gs, _, h, hn => by
    obtain ⟨hgroup, hgs⟩ := List.forall_mem_cons.mp hn
    refine readAll_cons ?_
      (readAll_groupsToJson gs (fun s hs => h s (List.mem_append_right _ hs)) hgs)
    obtain ⟨n, rfl, hfields⟩ := Json.depth_members hgroup
    obtain ⟨n, rfl, hrows⟩ := Json.depth_items
      (hfields ("rows", .array (rowsToJson rows) true) (by simp))
    have hread := readAll_rowsToJson rows (fun s hs => h s (List.mem_append_left _ hs)) hrows
    rw [readGroup]
    refine readStruct_entries (s := PartialRows.mk (some name) none (some rows)) rfl ?_ rfl
    refine Eq.trans (readEntries_field 0 rfl (by simp) rfl rfl) ?_
    exact Eq.trans (readEntries_field 1 rfl (by simp [PartialRows.groupFields]) rfl
      (readRows_array hread)) rfl

theorem readAll_rowsToJson :
    ∀ (rs : List Record) {n : Nat}, (∀ s ∈ walkRows rs, s.index < wordSize 64) →
      (∀ j ∈ rowsToJson rs, j.depth ≤ n) → readAll (Record.read n) (rowsToJson rs) = .ok rs
  | [], _, _, _ => rfl
  | r :: rs, _, h, hn => by
    obtain ⟨hr, hrs⟩ := List.forall_mem_cons.mp hn
    exact readAll_cons (read_toJson r (fun s hs => h s (List.mem_append_left _ hs)) hr)
      (readAll_rowsToJson rs (fun s hs => h s (List.mem_append_right _ hs)) hrs)

end

end Record

/-- A sheet is read back from its JSON value. -/
theorem SheetTree.Portable.read_toJson {s : SheetTree} {n : Nat} (h : s.Portable)
    (hn : s.toJson.depth ≤ n) : SheetTree.read n s.toJson = .ok s := by
  obtain ⟨n, rfl, hfields⟩ := Json.depth_members hn
  obtain ⟨n, rfl, hrows⟩ := Json.depth_items
    (hfields ("rows", .array (Record.rowsToJson s.rows) true) (by simp))
  have hread := Record.readAll_rowsToJson s.rows (fun r hr => (h.rows r hr).index_lt) hrows
  rw [SheetTree.read]
  refine readStruct_entries (s := PartialRows.mk (some s.name) (some s.index) (some s.rows))
    rfl ?_ rfl
  refine Eq.trans (readEntries_field 0 rfl (by simp) rfl rfl) ?_
  refine Eq.trans (readEntries_field 1 rfl (by simp [PartialRows.sheetFields]) rfl
    (Json.readNatural_index h.index_lt)) ?_
  exact Eq.trans (readEntries_field 2 rfl (by simp [PartialRows.sheetFields]) rfl
    (Record.readRows_array hread)) rfl

namespace Document

/-- A document is read back from its JSON value. -/
theorem read_toJson {d : Document} {n : Nat} (h : ∀ s ∈ d.sheets, s.Portable)
    (hn : d.toJson.depth ≤ n) : Document.read n d.toJson = .ok d := by
  obtain ⟨n, rfl, hfields⟩ := Json.depth_members hn
  obtain ⟨n, rfl, hsheets⟩ := Json.depth_items
    (hfields ("sheets", .array (d.sheets.map SheetTree.toJson) true) (by simp))
  have hread : SheetTree.readMany (n + 1) (Json.array (d.sheets.map SheetTree.toJson) true)
      = .ok d.sheets := by
    rw [SheetTree.readMany]
    refine readList_items rfl (readAll_map fun s hs => ?_)
    exact (h s hs).read_toJson (hsheets _ (List.mem_map_of_mem hs))
  rw [Document.read]
  refine readStruct_entries (s := some d.sheets) rfl ?_ rfl
  exact Eq.trans (readEntries_field 0 rfl (by simp) rfl hread) rfl

/-- A document is read back from its JSON text. -/
theorem ofJsonText_jsonText {d : Document} (h : d.Portable) : ofJsonText d.jsonText = .ok d := by
  have hdepth : d.toJson.depth ≤ Json.readerDepth := Nat.le_succ_of_le h.nesting
  rw [ofJsonText, Json.readText, jsonText,
    Json.ofText_pretty (printable_toJson h.sheets) h.nesting]
  simp only [read_toJson h.sheets hdepth, if_true]

end Document

end SheetGrammar
