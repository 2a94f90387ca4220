import SheetGrammar.Config.Read
import SheetGrammar.Proofs.ReadPlan

/-!
# What a read configuration builds

Building a plan checks all that does not depend on the sheets: the names of children and of
entry types are those of row types, and addresses, patterns and ranges can be read.  So what a
plan can still report is about the sheets alone.

## Main definitions

* `CellEntry.Means` — what a type keeps for a cell entry.
* `ReadConfig.Builds` — the plan that a configuration means.

## Main results

* `ReadConfig.build_eq_ok_iff` — a configuration builds exactly the plan that it means.
* `ReadConfig.Builds.sound` — the parts of that plan fit together.
* `ReadConfig.classifyWorkbook_of_build` — a plan that was built fails at sheets alone.
-/

namespace SheetGrammar

/-! ### Types of rows -/

namespace RowType

variable {t t' : RowType}

theorem extractions_of_withCondition {address pattern : String}
    (h : t.withCondition address pattern = .ok t') : t'.extractions = t.extractions := by
  unfold withCondition at h
  split at h
  · cases h
  · obtain ⟨cell, -, rfl⟩ := Except.map_eq_ok_iff.mp h
    rfl

theorem extractions_of_withCell {address tag : String} {datatype : Datatype}
    (h : t.withCell address tag datatype = .ok t') :
    ∃ cell, CellRef.parse address = .ok cell ∧
      t'.extractions = t.extractions ++ [⟨cell, tag, datatype⟩] := by
  obtain ⟨cell, hcell, rfl⟩ := Except.map_eq_ok_iff.mp h
  exact ⟨cell, hcell, rfl⟩

end RowType

/-- A type keeps `x` for the cell entry: at its address, under its tag and of its datatype. -/
structure CellEntry.Means (c : CellEntry) (x : Extraction) : Prop where
  cell : CellRef.parse c.col = .ok x.cell
  tag : x.tag = c.tag
  datatype : x.datatype = c.datatype

theorem CellEntry.means_of_foldlM {cells : List CellEntry} {type type' : RowType}
    (h : cells.foldlM (fun (t : RowType) c => t.withCell c.col c.tag c.datatype) type
      = .ok type') :
    ∃ xs, type'.extractions = type.extractions ++ xs ∧ List.Forall₂ Means cells xs := by
  induction cells generalizing type with
  | nil =>
    obtain rfl := Except.ok.inj h
    exact ⟨[], (List.append_nil _).symm, .nil⟩
  | cons c cells ih =>
    obtain ⟨next, hnext, hrest⟩ := List.foldlM_cons_eq_ok_iff.mp h
    obtain ⟨cell, hcell, hx⟩ := RowType.extractions_of_withCell hnext
    obtain ⟨xs, heq, hxs⟩ := ih hrest
    refine ⟨⟨cell, c.tag, c.datatype⟩ :: xs, ?_, .cons ⟨hcell, rfl, rfl⟩ hxs⟩
    rw [heq, hx, List.append_assoc, List.singleton_append]

/-- A type that is meant keeps exactly what its cell entries mean, in their order. -/
theorem RowTypeEntry.means_of_compile {t : RowTypeEntry} {type : RowType}
    (h : t.compile = .ok type) : List.Forall₂ CellEntry.Means t.cells type.extractions := by
  unfold compile at h
  split at h
  · cases h
  · obtain ⟨start, hconditions, hcells⟩ := Except.bind_eq_ok_iff.mp h
    -- conditions are added before any cell
    have hstart : start.extractions = [] :=
      List.foldlM_induction (P := fun t => t.extractions = [])
        (fun hc ht => (RowType.extractions_of_withCondition hc).trans ht) hconditions rfl
    obtain ⟨xs, heq, hxs⟩ := CellEntry.means_of_foldlM hcells
    rwa [heq, hstart, List.nil_append]

theorem ReadSheetEntry.defines_of_compile {g : Grammar} {s : ReadSheetEntry}
    {selector : SheetSelector String} (h : s.compile g = .ok selector) :
    g.defines selector.target = true := by
  unfold compile at h
  split at h
  · next hdefines =>
    obtain ⟨conditions, -, rfl⟩ := Except.map_eq_ok_iff.mp h
    exact hdefines
  · cases h

/-! ### Plans -/

namespace ReadConfig

variable {c : ReadConfig} {p : ReadPlan} {g : Grammar}

/-- The plan that a configuration means. -/
structure Builds (c : ReadConfig) (p : ReadPlan) : Prop where
  rows : List.Forall₂ (fun row type => row.compile = .ok type) c.rows p.grammar.types
  distinct : (p.grammar.types.map RowType.name).Nodup
  closed : p.grammar.Closed
  nonempty : c.sheets ≠ []
  sheets : List.Forall₂ (fun sheet selector => sheet.compile p.grammar = .ok selector)
    c.sheets p.selectors
  unmatched : p.unmatched = c.unmatchedSheets

theorem grammar_eq_ok_iff :
    c.grammar = .ok g ↔
      List.Forall₂ (fun row type => row.compile = .ok type) c.rows g.types ∧
        (g.types.map RowType.name).Nodup ∧ g.Closed := by
  rw [← List.mapM_eq_ok_iff, grammar]
  cases c.rows.mapM RowTypeEntry.compile with
  | error e => simp
  | ok types =>
    simp only [Except.ok.injEq]
    constructor
    · intro h
      split at h
      · cases h
      · next g' hg' =>
        obtain ⟨hdistinct, rfl⟩ := Grammar.ofTypes_eq_ok_iff.mp hg'
        obtain ⟨_, hvalid, rfl⟩ := Except.map_eq_ok_iff.mp h
        exact ⟨rfl, hdistinct, Grammar.validate_eq_ok_iff.mp hvalid⟩
    · rintro ⟨rfl, hdistinct, hclosed⟩
      simp only [Grammar.ofTypes_eq_ok_iff.mpr ⟨hdistinct, rfl⟩]
      exact Except.map_eq_ok_iff.mpr ⟨(), Grammar.validate_eq_ok_iff.mpr hclosed, rfl⟩

/-- A configuration builds exactly the plan that it means. -/
theorem build_eq_ok_iff : c.build = .ok p ↔ c.Builds p := by
  rw [build]
  constructor
  · intro h
    split at h
    · cases h
    · next g hg =>
      split at h
      · cases h
      · next hnonempty =>
        obtain ⟨selectors, hselectors, rfl⟩ := Except.map_eq_ok_iff.mp h
        obtain ⟨hrows, hdistinct, hclosed⟩ := grammar_eq_ok_iff.mp hg
        exact ⟨hrows, hdistinct, hclosed, hnonempty, List.mapM_eq_ok_iff.mp hselectors, rfl⟩
  · intro h
    simp only [grammar_eq_ok_iff.mpr ⟨h.rows, h.distinct, h.closed⟩, if_neg h.nonempty]
    refine Except.map_eq_ok_iff.mpr ⟨p.selectors, List.mapM_eq_ok_iff.mpr h.sheets, ?_⟩
    rw [← h.unmatched]

theorem builds_of_build (h : c.build = .ok p) : c.Builds p := build_eq_ok_iff.mp h

/-- The parts of a plan that is built fit together. -/
theorem Builds.sound (h : c.Builds p) : p.Sound where
  closed := h.closed
  entries selector hselector := by
    obtain ⟨entry, -, hentry⟩ := h.sheets.exists_of_mem hselector
    exact ReadSheetEntry.defines_of_compile hentry

/-- Each datatype of a plan that is built is that of a cell entry. -/
theorem Builds.datatype (h : c.Builds p) {t : RowType} (ht : t ∈ p.grammar.types)
    {x : Extraction} (hx : x ∈ t.extractions) :
    ∃ row ∈ c.rows, ∃ cell ∈ row.cells, x.datatype = cell.datatype := by
  obtain ⟨row, hrow, hcompile⟩ := h.rows.exists_of_mem ht
  obtain ⟨cell, hcell, hmeans⟩ := (RowTypeEntry.means_of_compile hcompile).exists_of_mem hx
  exact ⟨row, hrow, cell, hcell, hmeans.datatype⟩

/-- **A plan that was built fails at sheets alone.** Its failures are cells that are not of
their datatype and sheets that no selector matches.  It reports the latter exactly if such
sheets are to fail and there is one before which all sheets could be read.  If all cells are
kept as strings, there are no other failures. -/
theorem classifyWorkbook_of_build (h : c.build = .ok p) (sheets : List Sheet) :
    (∀ e, p.classifyWorkbook sheets = .error e →
      (∃ s ∈ sheets, ∃ cells ∈ s.rows, p.grammar.Misreads s.name cells e) ∨
        ∃ s ∈ sheets, e = .unmatchedSheet s.name s.position) ∧
    (∀ name position, p.classifyWorkbook sheets = .error (.unmatchedSheet name position) ↔
      c.unmatchedSheets = .fail ∧ ∃ before s after d, sheets = before ++ s :: after ∧
        p.classifyWorkbook before = .ok d ∧
        (∀ selector ∈ p.selectors, selector.matches s.name s.position = false) ∧
        s.name = name ∧ s.position = position) ∧
    ((∀ row ∈ c.rows, ∀ cell ∈ row.cells, cell.datatype = .string) →
      ∀ e, p.classifyWorkbook sheets = .error e →
        ∃ s ∈ sheets, e = .unmatchedSheet s.name s.position) := by
  have hbuilds := builds_of_build h
  refine ⟨fun e => hbuilds.sound.misreads_or_unmatched, fun name position => ?_, ?_⟩
  · rw [← hbuilds.unmatched]
    exact hbuilds.sound.eq_unmatchedSheet_iff
  · intro hstring e he
    rcases hbuilds.sound.misreads_or_unmatched he with ⟨s, -, cells, -, t, ht, -, hmis⟩ | hsheet
    · refine absurd hmis (RowType.not_misreads_of_string fun x hx => ?_)
      obtain ⟨row, hrow, cell, hcell, hdatatype⟩ := hbuilds.datatype ht hx
      rw [hdatatype]
      exact hstring row hrow cell hcell
    · exact hsheet

/-- A configuration for the first sheet alone. Orders may stand under orders, and their names
have blanks around them. -/
def nested : ReadConfig :=
  ⟨.fail, [⟨[⟨none, some 1, none⟩], "order "⟩],
    [⟨" order", [⟨"A", "O"⟩], [⟨"B", "amount", .string⟩], ["order"]⟩]⟩

/-- What is in the second sheet does not matter, but that it is there is a failure. -/
theorem classifyWorkbook_of_build_nested :
    ∃ p, nested.build = .ok p ∧
      p.classifyWorkbook [⟨"a", 0, [["O", "1"], ["x"]]⟩, ⟨"b", 1, []⟩]
        = .error (.unmatchedSheet "b" 2) ∧
      ∀ sheets e, p.classifyWorkbook sheets = .error e →
        ∃ s ∈ sheets, e = .unmatchedSheet s.name s.position := by
  have hbuild : ∃ p, nested.build = .ok p ∧ p.selectors.map SheetSelector.conditions
      = [[.range 1 1]] ∧ ∃ d, p.classifyWorkbook [⟨"a", 0, [["O", "1"], ["x"]]⟩] = .ok d :=
    ⟨_, by with_unfolding_all rfl, by with_unfolding_all rfl, _, by with_unfolding_all rfl⟩
  obtain ⟨p, hp, hselectors, d, hd⟩ := hbuild
  refine ⟨p, hp, ?_, fun sheets => ?_⟩
  · obtain ⟨-, hunmatched, -⟩ :=
      classifyWorkbook_of_build hp [⟨"a", 0, [["O", "1"], ["x"]]⟩, ⟨"b", 1, []⟩]
    refine (hunmatched "b" 2).mpr ⟨rfl, [_], ⟨"b", 1, []⟩, [], d, rfl, hd, ?_, rfl, rfl⟩
    intro selector hselector
    have hconditions := List.mem_map_of_mem (f := SheetSelector.conditions) hselector
    rw [hselectors, List.mem_singleton] at hconditions
    rw [SheetSelector.matches, hconditions]
    rfl
  · exact (classifyWorkbook_of_build hp sheets).2.2 (by decide)

end ReadConfig

end SheetGrammar
