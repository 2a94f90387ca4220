import SheetGrammar.Proofs.Record.File
import SheetGrammar.Proofs.Structured
import SheetGrammar.Proofs.Yaml.Building
import SheetGrammar.Proofs.Yaml.Reading
import SheetGrammar.Record.Yaml

/-!
# Documents come back from YAML

A document that is written as YAML and read again is the same.  A string is written so that it is
read as that string, whatever it looks like; an integer is read as an integer, and a float as a
float.  The conditions are indexes of 64 bits, floats that their texts come to, and no deeper
nesting than the reader allows.

## Main definitions

* `Yaml.Recovers` — a float whose text comes to it.
* `Yaml.IsRecord` — a mapping of named fields.

## Main results

* `Value.readValue_toYaml` — a value is read back from its scalar.
* `Document.read_toYaml` — a document is read back from the nodes of its text.
* `Inputs.readDocument_yaml` — a file with the YAML text of a document is read as the document.
-/

namespace SheetGrammar

open Structured Yaml

/-! ### Nested records -/

namespace Yaml

/-- The names of the fields of documents. -/
def fieldNames : List String :=
  ["sheets", "name", "index", "rows", "columns", "children", "col", "tag", "value"]

theorem isName_of_mem {key : String} (h : key ∈ fieldNames) : IsName key := by
  have hplain : ∀ key ∈ fieldNames, styleOf key.toList = .plain := by decide
  have hlower : ∀ key ∈ fieldNames, key.toList.all Char.isLower = true := by decide
  have hlength : ∀ key ∈ fieldNames, key.length ≤ Scanner.maxKeyLength := by decide
  exact ⟨hplain key h, List.all_eq_true.mp (hlower key h), hlength key h⟩

/-- A mapping of such fields. -/
def IsRecord (y : Yaml) : Prop :=
  ∃ fields, y = ofFields fields ∧ fields ≠ [] ∧ ∀ f ∈ fields, f.1 ∈ fieldNames ∧ IsFieldValue f.2

variable {fields : List (String × Yaml)} {ys : List Yaml} {n : Nat}

theorem areFields_ofFields (h : ∀ f ∈ fields, f.1 ∈ fieldNames ∧ IsFieldValue f.2) :
    AreFields (fields.map fun f => (string f.1, f.2)) := by
  induction fields with
  | nil => trivial
  | cons f fields ih =>
    obtain ⟨hf, hfields⟩ := List.forall_mem_cons.mp h
    exact ⟨isName_of_mem hf.1, hf.2, ih hfields⟩

theorem areRecords_of_forall (h : ∀ y ∈ ys, IsRecord y) : AreRecords ys := by
  induction ys with
  | nil => trivial
  | cons y ys ih =>
    obtain ⟨⟨fields, rfl, hne, hfields⟩, hys⟩ := List.forall_mem_cons.mp h
    exact ⟨by simpa using hne, areFields_ofFields hfields, ih hys⟩

/-- The node of a written record, behind which nothing follows. -/
theorem IsRecord.ofText_render {y : Yaml} (h : IsRecord y) :
    Node.ofText y.render = (nodeOf y, true) := by
  obtain ⟨fields, rfl, hne, hfields⟩ := h
  exact Yaml.ofText_render (by simpa using hne) (areFields_ofFields hfields)

/-! ### Nodes of records -/

theorem nodesOf_eq_map : nodesOf ys = ys.map nodeOf := by
  induction ys with
  | nil => rfl
  | cons y ys ih => rw [nodesOf, ih, List.map_cons]

theorem entryNodes_fields :
    entryNodes (fields.map fun f => (string f.1, f.2))
      = fields.map fun f => (nodeOf (string f.1), nodeOf f.2) := by
  induction fields with
  | nil => rfl
  | cons f fields ih => rw [List.map_cons, entryNodes, ih, List.map_cons]

theorem items?_sequence :
    items? (nodeOf (sequence ys)) = some ⟨ys.map nodeOf, true⟩ := by
  rw [← nodesOf_eq_map]
  rfl

theorem entries?_ofFields :
    entries? (nodeOf (ofFields fields))
      = some ⟨fields.map fun f => (some f.1, nodeOf f.2), true⟩ := by
  have hentries : entries? (nodeOf (ofFields fields)) = some
      ⟨(entryNodes (fields.map fun f => (string f.1, f.2))).map fun e => (e.1.text?, e.2), true⟩ :=
    rfl
  rw [hentries, entryNodes_fields, List.map_map]
  rfl

/-- Inside a sequence there is one level less. -/
theorem depth_sequence (h : (nodeOf (sequence ys)).depth ≤ n) :
    ∃ k, n = k + 1 ∧ ∀ y ∈ ys, (nodeOf y).depth ≤ k := by
  obtain ⟨k, rfl⟩ := Nat.exists_eq_add_one_of_ne_zero (Nat.ne_zero_of_lt h)
  have hitems := Node.depthItems_le_iff.mp (Nat.le_of_succ_le_succ h)
  rw [nodesOf_eq_map] at hitems
  exact ⟨k, rfl, fun y hy => hitems _ (List.mem_map_of_mem hy)⟩

/-- Inside a record there is one level less. -/
theorem depth_ofFields (h : (nodeOf (ofFields fields)).depth ≤ n) :
    ∃ k, n = k + 1 ∧ ∀ f ∈ fields, (nodeOf f.2).depth ≤ k := by
  obtain ⟨k, rfl⟩ := Nat.exists_eq_add_one_of_ne_zero (Nat.ne_zero_of_lt h)
  have hentries := Node.depthEntries_le_iff.mp (Nat.le_of_succ_le_succ h)
  rw [entryNodes_fields] at hentries
  exact ⟨k, rfl, fun f hf => (hentries _ (List.mem_map_of_mem hf)).2⟩

/-! ### Scalars -/

/-- The text of a float comes to that float. -/
def Recovers (x : Float) : Prop := floatOfText? (floatText x) = some x

instance (x : Float) : Decidable (Recovers x) :=
  inferInstanceAs (Decidable (floatOfText? (floatText x) = some x))

/-- A string is written plain only where its text reads as a string. -/
theorem meaningOfScalar?_string (s : String) :
    meaningOfScalar? none (styleOf s.toList) s = some .string := by
  rw [meaningOfScalar?]
  split
  · next hplain =>
    obtain ⟨hstyle, -⟩ | hstyle | ⟨-, hstring, -⟩ | ⟨hstyle, -⟩ := styleOf_spec s.toList
    · cases hplain.symm.trans hstyle
    · cases hplain.symm.trans hstyle
    · unfold readsAsString at hstring
      split at hstring
      · next hmeaning => exact hmeaning
      · cases hstring
    · cases hplain.symm.trans hstyle
  · rfl

theorem natural?_index (h : n < wordSize 64) :
    Node.natural? (.scalar none .plain (toString (n : Int))) = some n := by
  have hhead : (toString (n : Int)).toList.head? ≠ some '-' := by
    intro hhead
    rw [toList_toString, if_pos (by omega)] at hhead
    have hminus : ('-').isDigit = true :=
      Nat.isDigit_of_mem_toDigits (b := 10) (by decide) (by decide) (List.mem_of_head? hhead)
    exact absurd hminus (by decide)
  have hplain : Node.mayBeNatural none .plain = true := rfl
  have hrange : 0 ≤ (n : Int) ∧ (n : Int) < wordSize 64 := ⟨by omega, by omega⟩
  rw [Node.natural?, if_pos ⟨hplain, hhead⟩, integerOfText?_toString, Option.bind_some,
    if_pos hrange, Int.toNat_natCast]

theorem readNatural_index (h : n < wordSize 64) : readNatural (nodeOf (integer n)) = .ok n := by
  have hread : readNatural (nodeOf (integer n))
      = orFail (Node.natural? (.scalar none .plain (toString (n : Int)))) := rfl
  rw [hread, natural?_index h]
  rfl

end Yaml

/-- A value is read back from its scalar. -/
theorem Value.readValue_toYaml {v : Value} (h : ∀ x, v = .float x → Recovers x) :
    Structured.readValue (nodeOf v.toYaml) = .ok v := by
  suffices hvalue : Node.value? (nodeOf v.toYaml) = some v by
    have hread : Structured.readValue (nodeOf v.toYaml) = orFail (Node.value? (nodeOf v.toYaml)) :=
      rfl
    rw [hread, hvalue]
    rfl
  cases v with
  | string s =>
    have hmeaning := meaningOfScalar?_string s
    simp only [toYaml, nodeOf, Node.value?, hmeaning]
    rfl
  | integer n =>
    have hlow := n.le_toInt
    have hhigh := n.toInt_lt
    have hhalf : wordSize 63 = 2 ^ 63 := rfl
    have hfull : wordSize 64 = 2 ^ 64 := rfl
    have hword : integerSize n.toInt = .word := if_pos ⟨by omega, by omega⟩
    have hread : Int64.ofInt? n.toInt = some n := by
      rw [Int64.ofInt?, if_pos ⟨by omega, by omega⟩, n.ofInt_toInt]
    have hmeaning : meaningOfScalar? none .plain (toString n.toInt) = some (.integer n.toInt) :=
      meaningOfText_toString hword
    simp only [toYaml, nodeOf, Node.value?, hmeaning, hread]
    rfl
  | float x =>
    have hmeaning : meaningOfScalar? none .plain (String.ofList (floatText x))
        = some (.float x) := by
      rw [meaningOfScalar?]
      simp only [if_true, String.toList_ofList]
      exact meaningOfText_floatText (h x rfl)
    simp only [toYaml, nodeOf, Node.value?, hmeaning]
    rfl

/-! ### Reading -/

theorem Column.read_toYaml {c : Column} (h : ∀ x, c.value = .float x → Recovers x) (n : Nat) :
    Column.read (n + 1) (nodeOf c.toYaml) = .ok c := by
  rw [Column.read]
  refine readStruct_entries (s := PartialColumn.mk (some c.col) (some c.tag) (some c.value))
    entries?_ofFields ?_ rfl
  refine Eq.trans (readEntries_field 0 rfl (by simp) rfl rfl) ?_
  refine Eq.trans (readEntries_field 1 rfl (by simp [PartialColumn.fields]) rfl rfl) ?_
  exact Eq.trans
    (readEntries_field 2 rfl (by simp [PartialColumn.fields]) rfl (Value.readValue_toYaml h)) rfl

theorem Column.readMany_toYaml {columns : List Column} {n : Nat}
    (h : ∀ c ∈ columns, ∀ x, c.value = .float x → Recovers x)
    (hn : (nodeOf (.sequence (columns.map toYaml))).depth ≤ n) :
    Column.readMany n (nodeOf (.sequence (columns.map toYaml))) = .ok columns := by
  obtain ⟨n, rfl, hcolumns⟩ := depth_sequence hn
  rw [readMany]
  refine readList_items items?_sequence ?_
  rw [List.map_map]
  refine readAll_map fun c hc => ?_
  obtain ⟨n, rfl, -⟩ := depth_ofFields (hcolumns c.toYaml (List.mem_map_of_mem hc))
  exact c.read_toYaml (h c hc) n

namespace Record

/-- A record that YAML keeps, those under it aside. -/
structure Kept (r : Record) : Prop where
  index_lt : r.index < wordSize 64
  floats : ∀ c ∈ r.columns, ∀ x, c.value = .float x → Recovers x

/-- A record is put together from its fields. -/
theorem readStruct_toYaml {readColumns : Node → Reading (List Column)}
    {readChildren : Node → Reading (List (Group Record))} {name : String} {index : Nat}
    {columns : List Column} {children : List (Group Record)} (hindex : index < wordSize 64)
    (hcolumns : readColumns (nodeOf (.sequence (columns.map Column.toYaml))) = .ok columns)
    (hchildren : readChildren (nodeOf (.sequence (groupsToYaml children))) = .ok children) :
    readStruct false (PartialRecord.fields readColumns readChildren) ⟨none, none, none, none⟩
      PartialRecord.finish (nodeOf (toYaml ⟨name, index, columns, children⟩))
      = .ok ⟨name, index, columns, children⟩ := by
  refine readStruct_entries (s := ⟨some name, some index, some columns, some children⟩)
    entries?_ofFields ?_ rfl
  refine Eq.trans (readEntries_field 0 rfl (by simp) rfl rfl) ?_
  refine Eq.trans (readEntries_field 1 rfl (by simp [PartialRecord.fields]) rfl
    (readNatural_index hindex)) ?_
  refine Eq.trans (readEntries_field 2 rfl (by simp [PartialRecord.fields]) rfl hcolumns) ?_
  exact Eq.trans (readEntries_field 3 rfl (by simp [PartialRecord.fields]) rfl hchildren) rfl

theorem readRows_sequence {ys : List Yaml} {rows : List Record} {n : Nat}
    (h : readAll (Record.read n) (ys.map nodeOf) = .ok rows) :
    readRows (n + 1) (nodeOf (.sequence ys)) = .ok rows := by
  rw [readRows]
  exact readList_items items?_sequence h

theorem readGroups_sequence {ys : List Yaml} {groups : List (Group Record)} {n : Nat}
    (h : readAll (readGroup n) (ys.map nodeOf) = .ok groups) :
    readGroups (n + 1) (nodeOf (.sequence ys)) = .ok groups := by
  rw [readGroups]
  exact readList_items items?_sequence h

mutual

/-- A record is read back from its node. -/
theorem read_toYaml : ∀ (r : Record) {n : Nat}, (∀ s ∈ r.walk, s.Kept) →
    (nodeOf r.toYaml).depth ≤ n → Record.read n (nodeOf r.toYaml) = .ok r
  | ⟨name, index, columns, children⟩, _, h, hn => by
    obtain ⟨n, rfl, hfields⟩ := depth_ofFields hn
    have hr := h _ List.mem_cons_self
    have hcolumns := hfields ("columns", .sequence (columns.map Column.toYaml)) (by simp)
    have hchildren := hfields ("children", .sequence (groupsToYaml children)) (by simp)
    have hread := Column.readMany_toYaml hr.floats hcolumns
    obtain ⟨n, rfl, hgroups⟩ := depth_sequence hchildren
    rw [Record.read]
    exact readStruct_toYaml hr.index_lt hread (readGroups_sequence
      (readAll_groupsToYaml children (fun s hs => h s (List.mem_cons_of_mem _ hs)) hgroups))

theorem readAll_groupsToYaml : ∀ (gs : List (Group Record)) {n : Nat},
    (∀ s ∈ walkGroups gs, s.Kept) → (∀ y ∈ groupsToYaml gs, (nodeOf y).depth ≤ n) →
    readAll (readGroup n) ((groupsToYaml gs).map nodeOf) = .ok gs
  | [], _, _, _ => rfl
  | ⟨name, rows⟩ :: gs, _, h, hn => by
    obtain ⟨hgroup, hgs⟩ := List.forall_mem_cons.mp hn
    refine readAll_cons ?_
      (readAll_groupsToYaml gs (fun s hs => h s (List.mem_append_right _ hs)) hgs)
    obtain ⟨n, rfl, hfields⟩ := depth_ofFields hgroup
    obtain ⟨n, rfl, hrows⟩ := depth_sequence
      (hfields ("rows", .sequence (rowsToYaml rows)) (by simp))
    have hread := readAll_rowsToYaml rows (fun s hs => h s (List.mem_append_left _ hs)) hrows
    rw [readGroup]
    refine readStruct_entries (s := PartialRows.mk (some name) none (some rows))
      entries?_ofFields ?_ rfl
    refine Eq.trans (readEntries_field 0 rfl (by simp) rfl rfl) ?_
    exact Eq.trans (readEntries_field 1 rfl (by simp [PartialRows.groupFields]) rfl
      (readRows_sequence hread)) rfl

theorem readAll_rowsToYaml : ∀ (rs : List Record) {n : Nat},
    (∀ s ∈ walkRows rs, s.Kept) → (∀ y ∈ rowsToYaml rs, (nodeOf y).depth ≤ n) →
    readAll (Record.read n) ((rowsToYaml rs).map nodeOf) = .ok rs
  | [], _, _, _ => rfl
  | r :: rs, _, h, hn => by
    obtain ⟨hr, hrs⟩ := List.forall_mem_cons.mp hn
    exact readAll_cons (read_toYaml r (fun s hs => h s (List.mem_append_left _ hs)) hr)
      (readAll_rowsToYaml rs (fun s hs => h s (List.mem_append_right _ hs)) hrs)

end

end Record

/-- A sheet that YAML keeps. -/
structure SheetTree.Kept (s : SheetTree) : Prop where
  index_lt : s.index < wordSize 64
  rows : ∀ r ∈ Record.walkRows s.rows, r.Kept

/-- A sheet is read back from its node. -/
theorem SheetTree.Kept.read_toYaml {s : SheetTree} {n : Nat} (h : s.Kept)
    (hn : (nodeOf s.toYaml).depth ≤ n) : SheetTree.read n (nodeOf s.toYaml) = .ok s := by
  obtain ⟨n, rfl, hfields⟩ := depth_ofFields hn
  obtain ⟨n, rfl, hrows⟩ := depth_sequence
    (hfields ("rows", .sequence (Record.rowsToYaml s.rows)) (by simp))
  have hread := Record.readAll_rowsToYaml s.rows h.rows hrows
  rw [SheetTree.read]
  refine readStruct_entries (s := PartialRows.mk (some s.name) (some s.index) (some s.rows))
    entries?_ofFields ?_ rfl
  refine Eq.trans (readEntries_field 0 rfl (by simp) rfl rfl) ?_
  refine Eq.trans (readEntries_field 1 rfl (by simp [PartialRows.sheetFields]) rfl
    (readNatural_index h.index_lt)) ?_
  exact Eq.trans (readEntries_field 2 rfl (by simp [PartialRows.sheetFields]) rfl
    (Record.readRows_sequence hread)) rfl

/-! ### Writing -/

theorem Column.isRecord_toYaml (c : Column) : IsRecord c.toYaml := by
  refine ⟨_, rfl, by simp, ?_⟩
  have hvalue : IsFieldValue c.value.toYaml := by
    cases c.value with
    | string s => trivial
    | integer n => trivial
    | float x => trivial
  simp [fieldNames, IsFieldValue, hvalue]

namespace Record

mutual

theorem isRecord_toYaml : ∀ r : Record, IsRecord r.toYaml
  | ⟨name, index, columns, children⟩ => by
    have hcolumns : AreRecords (columns.map Column.toYaml) :=
      areRecords_of_forall fun y hy => by
        obtain ⟨c, -, rfl⟩ := List.mem_map.mp hy
        exact c.isRecord_toYaml
    have hchildren := areRecords_of_forall (isRecord_groupsToYaml children)
    exact ⟨_, rfl, by simp, by simp [fieldNames, IsFieldValue, hcolumns, hchildren]⟩

theorem isRecord_groupsToYaml : ∀ gs : List (Group Record), ∀ y ∈ groupsToYaml gs, IsRecord y
  | [] => List.forall_mem_nil _
  | ⟨name, rows⟩ :: gs => by
    have hrows := areRecords_of_forall (isRecord_rowsToYaml rows)
    refine List.forall_mem_cons.mpr ⟨⟨_, rfl, by simp, ?_⟩, isRecord_groupsToYaml gs⟩
    simp [fieldNames, IsFieldValue, hrows]

theorem isRecord_rowsToYaml : ∀ rs : List Record, ∀ y ∈ rowsToYaml rs, IsRecord y
  | [] => List.forall_mem_nil _
  | r :: rs => List.forall_mem_cons.mpr ⟨isRecord_toYaml r, isRecord_rowsToYaml rs⟩

end

end Record

theorem SheetTree.isRecord_toYaml (s : SheetTree) : IsRecord s.toYaml := by
  have hrows := areRecords_of_forall (Record.isRecord_rowsToYaml s.rows)
  exact ⟨_, rfl, by simp, by simp [fieldNames, IsFieldValue, hrows]⟩

namespace Document

theorem isRecord_toYaml (d : Document) : IsRecord d.toYaml := by
  have hsheets : AreRecords (d.sheets.map SheetTree.toYaml) :=
    areRecords_of_forall fun y hy => by
      obtain ⟨s, -, rfl⟩ := List.mem_map.mp hy
      exact s.isRecord_toYaml
  exact ⟨_, rfl, by simp, by simp [fieldNames, IsFieldValue, hsheets]⟩

/-- A document is read back from its node. -/
theorem read_toYaml {d : Document} {n : Nat} (h : ∀ s ∈ d.sheets, s.Kept)
    (hn : (nodeOf d.toYaml).depth ≤ n) : Document.read n (nodeOf d.toYaml) = .ok d := by
  obtain ⟨n, rfl, hfields⟩ := depth_ofFields hn
  obtain ⟨n, rfl, hsheets⟩ := depth_sequence
    (hfields ("sheets", .sequence (d.sheets.map SheetTree.toYaml)) (by simp))
  have hread : SheetTree.readMany (n + 1) (nodeOf (.sequence (d.sheets.map SheetTree.toYaml)))
      = .ok d.sheets := by
    rw [SheetTree.readMany]
    refine readList_items items?_sequence ?_
    rw [List.map_map]
    exact readAll_map fun s hs => (h s hs).read_toYaml (hsheets _ (List.mem_map_of_mem hs))
  rw [Document.read]
  refine readStruct_entries (s := some d.sheets) entries?_ofFields ?_ rfl
  exact Eq.trans (readEntries_field 0 rfl (by simp) rfl hread) rfl

/-- What is read of the YAML text of a document is read of its node. -/
theorem ofYamlText_yamlText (d : Document) :
    ofYamlText d.yamlText = Document.read readerDepth (nodeOf d.toYaml) := by
  rw [ofYamlText, Yaml.readText, yamlText, d.isRecord_toYaml.ofText_render]
  simp only []
  cases Document.read readerDepth (nodeOf d.toYaml) with
  | error e => rfl
  | ok d => rfl

end Document

namespace Inputs

variable {i : Inputs} {path : String}

/-- A file with the YAML text of a document is read as what the node of the document is read as. -/
theorem readDocument_eq_read {d : Document} (hfile : i.Holds path (d.text .yaml)) :
    i.readDocument path .yaml = (Document.read readerDepth (nodeOf d.toYaml)).mapError
      fun e => ⟨[DocumentFormat.readContext .yaml], .parse e⟩ := by
  unfold Inputs.readDocument
  rw [hfile.readText]
  exact congrArg (Except.mapError _) d.ofYamlText_yamlText

/-- **A document that is written as YAML is read back as the same document.** Indexes have to be
of 64 bits, the texts of floats have to come to these floats, and the text has to stay within the
nesting that the reader allows. -/
theorem readDocument_yaml {d : Document}
    (hindex : ∀ s ∈ d.sheets,
      s.index < wordSize 64 ∧ ∀ r ∈ Record.walkRows s.rows, r.index < wordSize 64)
    (hfloats : ∀ s ∈ d.sheets, ∀ r ∈ Record.walkRows s.rows, ∀ c ∈ r.columns, ∀ x,
      c.value = .float x → Yaml.Recovers x)
    (hnesting : (nodeOf d.toYaml).depth ≤ readerDepth) (hfile : i.Holds path (d.text .yaml)) :
    i.readDocument path .yaml = .ok d := by
  have hsheets : ∀ s ∈ d.sheets, s.Kept := fun s hs =>
    ⟨(hindex s hs).1, fun r hr => ⟨(hindex s hs).2 r hr, hfloats s hs r hr⟩⟩
  rw [readDocument_eq_read hfile, Document.read_toYaml hsheets hnesting]
  rfl

/-! ### Examples -/

/-- Every path leads to a file with the text, other than a dash. -/
theorem holds_file {text : String} (hdash : Path.isDash path = false) :
    Holds ⟨fun _ => .file text.toUTF8.data.toList, []⟩ path text :=
  holds_of_content hdash rfl

/-- A document with strings that look like something else, with line ends and with blanks around
them, beside an integer and a float. -/
def lookalikes : Document :=
  ⟨[⟨"~", 1, [⟨"null", 1,
    [⟨"A", "", .string "12"⟩, ⟨"B", "true", .string ".inf"⟩, ⟨"C", "- ", .string " a\n\n"⟩,
      ⟨"D", "", .string "it's # \x00"⟩, ⟨"E", "", .integer 12⟩, ⟨"F", "", .float 12⟩],
    [⟨"k: v", [⟨"", 2, [⟨"A", "", .string "two\nlines"⟩], []⟩]⟩]⟩]⟩]⟩

theorem readDocument_yaml_lookalikes :
    readDocument ⟨fun _ => .file (lookalikes.text .yaml).toUTF8.data.toList, []⟩ "tree.yml" .yaml
      = .ok lookalikes := by
  refine readDocument_yaml (by decide) ?_ (by decide) (holds_file rfl)
  have hreal : Yaml.Recovers 12 := by decide +kernel
  simpa [lookalikes, Record.walkRows, Record.walk, Record.walkGroups] using hreal

/-- Records without columns, each under the one before. -/
def chain : Nat → Record
  | 0 => ⟨"r", 1, [], []⟩
  | n + 1 => ⟨"r", 1, [], [⟨"r", [chain n]⟩]⟩

/-- A document with as many records within each other. -/
def tower (n : Nat) : Document := ⟨[⟨"s", 1, [chain n]⟩]⟩

/-- Without the condition on nesting this fails: of thirty-two records within each other the
innermost is the mapping that is one too many. -/
theorem not_readDocument_yaml :
    ¬ ∀ (i : Inputs) (path : String) (d : Document),
      (∀ s ∈ d.sheets,
        s.index < wordSize 64 ∧ ∀ r ∈ Record.walkRows s.rows, r.index < wordSize 64) →
      (∀ s ∈ d.sheets, ∀ r ∈ Record.walkRows s.rows, ∀ c ∈ r.columns, ∀ x,
        c.value = .float x → Yaml.Recovers x) →
      i.Holds path (d.text .yaml) → i.readDocument path .yaml = .ok d := by
  intro h
  have hindex : ∀ s ∈ (tower 31).sheets,
      s.index < wordSize 64 ∧ ∀ r ∈ Record.walkRows s.rows, r.index < wordSize 64 := by
    decide +kernel
  have hcolumns : ∀ s ∈ (tower 31).sheets, ∀ r ∈ Record.walkRows s.rows, r.columns = [] := by
    decide +kernel
  have hread := h _ "tree.yml" _ hindex (fun s hs r hr c hc => by simp [hcolumns s hs r hr] at hc)
    (holds_file rfl)
  -- whether the text is read is a matter of its node alone
  have hfails : (Document.read readerDepth (nodeOf (tower 31).toYaml)).isOk = false := by
    decide +kernel
  rw [readDocument_eq_read (holds_file rfl)] at hread
  cases hdocument : Document.read readerDepth (nodeOf (tower 31).toYaml) with
  | error e =>
    rw [hdocument] at hread
    cases hread
  | ok d =>
    rw [hdocument] at hfails
    cases hfails

end Inputs

end SheetGrammar
