import SheetGrammar.Proofs.Address
import SheetGrammar.Proofs.Config.Entry
import SheetGrammar.Proofs.Config.Read

/-!
# Read configurations that make sense

A configuration makes sense if all that it names is there and all its patterns, addresses and
ranges can be read.  The checks for this are spread over its parts: each row type is compiled by
itself, the grammar refuses names that occur twice and children that are not defined, and sheets
are looked at last.  Together they accept exactly the configurations that make sense.

## Main definitions

* `RowTypeEntry.Valid`, `ReadConfig.Valid` — types of rows and configurations that make sense.

## Main results

* `RowTypeEntry.exists_compile_eq_ok_iff` — exactly the types that make sense are accepted.
* `ReadConfig.exists_readPlan_iff_valid` — exactly the configurations that make sense are.
-/

namespace SheetGrammar

/-! ### Types of rows -/

namespace RowType

variable {t t' : RowType} {address pattern tag : String} {datatype : Datatype}

theorem exists_withCondition_eq_ok_iff (t : RowType) :
    (∃ t', t.withCondition address pattern = .ok t') ↔
      Pattern.Compiles pattern ∧ ∃ i, IsAddressOf address i := by
  rw [← CellRef.exists_parse_eq_ok_iff, withCondition, Pattern.Compiles]
  cases Pattern.parse? pattern with
  | none => simp
  | some p => simp [Except.map_eq_ok_iff]

theorem exists_withCell_eq_ok_iff (t : RowType) :
    (∃ t', t.withCell address tag datatype = .ok t') ↔ ∃ i, IsAddressOf address i := by
  rw [← CellRef.exists_parse_eq_ok_iff, withCell]
  simp [Except.map_eq_ok_iff]

/-- A type with a name and children; its conditions and cells do not matter. -/
def HasHead (name : String) (children : List String) (t : RowType) : Prop :=
  t.name = name ∧ t.children = children

variable {name : String} {children : List String}

theorem hasHead_of_withCondition (h : t.withCondition address pattern = .ok t')
    (ht : t.HasHead name children) : t'.HasHead name children := by
  unfold withCondition at h
  split at h
  · cases h
  · obtain ⟨cell, -, rfl⟩ := Except.map_eq_ok_iff.mp h
    exact ht

theorem hasHead_of_withCell (h : t.withCell address tag datatype = .ok t')
    (ht : t.HasHead name children) : t'.HasHead name children := by
  obtain ⟨cell, -, rfl⟩ := Except.map_eq_ok_iff.mp h
  exact ht

end RowType

namespace RowTypeEntry

variable {t : RowTypeEntry} {type : RowType}

/-- A type of rows makes sense if it has a name and if its patterns and addresses can be read. -/
structure Valid (t : RowTypeEntry) : Prop where
  name : trim t.name ≠ ""
  conditions : ∀ c ∈ t.conditions, Pattern.Compiles c.pattern ∧ ∃ i, IsAddressOf c.col i
  cells : ∀ c ∈ t.cells, ∃ i, IsAddressOf c.col i

theorem exists_conditions_eq_ok_iff {cs : List CellConditionEntry} {start : RowType} :
    (∃ type, cs.foldlM (fun (t : RowType) c => t.withCondition c.col c.pattern) start
        = .ok type) ↔
      ∀ c ∈ cs, Pattern.Compiles c.pattern ∧ ∃ i, IsAddressOf c.col i :=
  List.exists_foldlM_eq_ok_iff fun t _ => t.exists_withCondition_eq_ok_iff

theorem exists_cells_eq_ok_iff {cs : List CellEntry} {start : RowType} :
    (∃ type, cs.foldlM (fun (t : RowType) c => t.withCell c.col c.tag c.datatype) start
        = .ok type) ↔
      ∀ c ∈ cs, ∃ i, IsAddressOf c.col i :=
  List.exists_foldlM_eq_ok_iff fun t _ => t.exists_withCell_eq_ok_iff

/-- Exactly the types of rows that make sense are accepted. -/
theorem exists_compile_eq_ok_iff : (∃ type, t.compile = .ok type) ↔ t.Valid := by
  rw [compile]
  split
  · next hblank =>
    constructor
    · rintro ⟨type, h⟩
      cases h
    · exact fun h => absurd hblank h.name
  · next hname =>
    simp only [Except.bind_eq_ok_iff]
    constructor
    · rintro ⟨type, start, hstart, htype⟩
      exact ⟨hname, exists_conditions_eq_ok_iff.mp ⟨start, hstart⟩,
        exists_cells_eq_ok_iff.mp ⟨type, htype⟩⟩
    · intro h
      obtain ⟨start, hstart⟩ := exists_conditions_eq_ok_iff.mpr h.conditions
      obtain ⟨type, htype⟩ := exists_cells_eq_ok_iff.mpr h.cells
      exact ⟨type, start, hstart, htype⟩

/-- A type that is meant bears the name of its entry without blanks around it, and has the
children of its entry. -/
theorem hasHead_of_compile (h : t.compile = .ok type) :
    type.HasHead (trim t.name) t.children := by
  unfold compile at h
  split at h
  · cases h
  · obtain ⟨start, hconditions, hcells⟩ := Except.bind_eq_ok_iff.mp h
    have hstart : start.HasHead (trim t.name) t.children :=
      List.foldlM_induction RowType.hasHead_of_withCondition hconditions ⟨rfl, rfl⟩
    exact List.foldlM_induction RowType.hasHead_of_withCell hcells hstart

/-- The types that are meant bear the names of their entries without blanks around them. -/
theorem names_of_compile {rows : List RowTypeEntry} {types : List RowType}
    (h : List.Forall₂ (fun row type => compile row = .ok type) rows types) :
    types.map RowType.name = rows.map fun row => trim row.name :=
  h.map_eq_map fun hrow => (hasHead_of_compile hrow).1

end RowTypeEntry

/-! ### Sheets -/

/-- A sheet entry is accepted if its row type is defined and its conditions make sense. -/
theorem ReadSheetEntry.exists_compile_eq_ok_iff {s : ReadSheetEntry} {g : Grammar} :
    (∃ selector, s.compile g = .ok selector) ↔
      trim s.row ∈ g.types.map RowType.name ∧ ∀ c ∈ s.conditions, c.Valid := by
  rw [compile, ← Grammar.defines_iff_mem]
  split
  · next hdefines =>
    simp only [hdefines, true_and, Except.map_eq_ok_iff,
      ← ConditionEntry.exists_compile_eq_ok_iff, ← List.exists_mapM_eq_ok_iff]
    constructor
    · rintro ⟨_, conditions, h, -⟩
      exact ⟨conditions, h⟩
    · rintro ⟨conditions, h⟩
      exact ⟨_, conditions, h, rfl⟩
  · next hdefines => simp [hdefines]

/-! ### Configurations -/

namespace ReadConfig

variable {c : ReadConfig}

/-- A configuration makes sense: its types of rows do, and the names of these are distinct when
the blanks around them are left out; every child bears one of these names; there are sheet
entries, each of which names a type of rows; and their conditions make sense. -/
structure Valid (c : ReadConfig) : Prop where
  rows : ∀ row ∈ c.rows, row.Valid
  distinct : (c.rows.map fun row => trim row.name).Nodup
  children : ∀ row ∈ c.rows, ∀ child ∈ row.children, ∃ other ∈ c.rows, trim other.name = child
  nonempty : c.sheets ≠ []
  entries : ∀ s ∈ c.sheets, ∃ row ∈ c.rows, trim row.name = trim s.row
  conditions : ∀ s ∈ c.sheets, ∀ x ∈ s.conditions, x.Valid

theorem Builds.valid {p : ReadPlan} (h : c.Builds p) : c.Valid := by
  have hnames := RowTypeEntry.names_of_compile h.rows
  refine ⟨?_, ?_, ?_, h.nonempty, ?_, ?_⟩
  · intro row hrow
    obtain ⟨type, -, htype⟩ := h.rows.exists_of_mem_left hrow
    exact RowTypeEntry.exists_compile_eq_ok_iff.mp ⟨type, htype⟩
  · rw [← hnames]
    exact h.distinct
  · intro row hrow child hchild
    obtain ⟨type, htype, hcompile⟩ := h.rows.exists_of_mem_left hrow
    have hdefined := h.closed type htype child
      (by rwa [(RowTypeEntry.hasHead_of_compile hcompile).2])
    rw [Grammar.defines_iff_mem, hnames] at hdefined
    exact List.mem_map.mp hdefined
  · intro s hs
    obtain ⟨selector, -, hcompile⟩ := h.sheets.exists_of_mem_left hs
    have hentry := (ReadSheetEntry.exists_compile_eq_ok_iff.mp ⟨selector, hcompile⟩).1
    rw [hnames] at hentry
    exact List.mem_map.mp hentry
  · intro s hs
    obtain ⟨selector, -, hcompile⟩ := h.sheets.exists_of_mem_left hs
    exact (ReadSheetEntry.exists_compile_eq_ok_iff.mp ⟨selector, hcompile⟩).2

theorem Valid.exists_builds (h : c.Valid) : ∃ p, c.Builds p := by
  -- the types of rows first, since sheets are looked up among them
  obtain ⟨types, htypes⟩ := List.exists_mapM_eq_ok_iff.mpr fun row hrow =>
    RowTypeEntry.exists_compile_eq_ok_iff.mpr (h.rows row hrow)
  have hrows := List.mapM_eq_ok_iff.mp htypes
  have hnames := RowTypeEntry.names_of_compile hrows
  obtain ⟨selectors, hselectors⟩ := List.exists_mapM_eq_ok_iff.mpr fun s hs =>
    ReadSheetEntry.exists_compile_eq_ok_iff (g := ⟨types⟩).mpr
      ⟨by rw [hnames]; exact List.mem_map.mpr (h.entries s hs), h.conditions s hs⟩
  refine ⟨⟨selectors, ⟨types⟩, c.unmatchedSheets⟩, hrows, ?_, ?_, h.nonempty,
    List.mapM_eq_ok_iff.mp hselectors, rfl⟩
  · rw [hnames]
    exact h.distinct
  · intro type htype child hchild
    obtain ⟨row, hrow, hcompile⟩ := hrows.exists_of_mem htype
    rw [(RowTypeEntry.hasHead_of_compile hcompile).2] at hchild
    rw [Grammar.defines_iff_mem, hnames]
    exact List.mem_map.mpr (h.children row hrow child hchild)

/-- **Exactly the read configurations that make sense are accepted.** -/
theorem exists_readPlan_iff_valid (c : ReadConfig) : (∃ p, c.build = .ok p) ↔ c.Valid := by
  simp only [build_eq_ok_iff]
  constructor
  · rintro ⟨p, hp⟩
    exact hp.valid
  · exact Valid.exists_builds

end ReadConfig

end SheetGrammar
