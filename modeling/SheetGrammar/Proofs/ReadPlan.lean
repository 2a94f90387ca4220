import SheetGrammar.Proofs.Classifier.Failures
import SheetGrammar.ReadPlan

/-!
# Results and failures of a read plan

Sheets are read one after the other, and the first that fails decides.  A plan whose parts fit
together can fail at a sheet only if a cell is not of its datatype, or if no selector matches
the sheet and such sheets are to fail.

## Main definitions

* `ReadPlan.Sound` — the parts of a plan fit together.

## Main results

* `ReadPlan.mem_of_classifySheets` — every tree is that of one of the sheets.
* `ReadPlan.classifyWorkbook_eq_error_iff` — the first sheet that fails decides.
* `ReadPlan.Sound.misreads_or_unmatched` — how a sound plan can fail.
* `ReadPlan.Sound.eq_unmatchedSheet_iff` — when a sound plan reports an unmatched sheet.
-/

namespace SheetGrammar

namespace ReadPlan

variable {p : ReadPlan} {s : Sheet} {sheets : List Sheet} {e : Error}

/-! ### Sheets one by one -/

theorem classifySheets_cons (p : ReadPlan) (s : Sheet) (sheets : List Sheet) :
    p.classifySheets (s :: sheets) = (p.classifySheet s).bind fun tree =>
      (p.classifySheets sheets).map fun trees => tree.toList ++ trees := by
  rw [classifySheets]
  cases p.classifySheet s with
  | error e => rfl
  | ok tree =>
    cases p.classifySheets sheets with
    | error e => rfl
    | ok trees => rfl

theorem eq_of_classifySheet {t : SheetTree} (h : p.classifySheet s = .ok (some t)) :
    ∃ entry rows, classify p.grammar entry s = .ok rows ∧ t = ⟨s.name, s.position, rows⟩ := by
  unfold classifySheet at h
  split at h
  · split at h <;> cases h
  · next entry _ =>
    obtain ⟨rows, hrows, ht⟩ := Except.map_eq_ok_iff.mp h
    exact ⟨entry, rows, hrows, (Option.some.inj ht).symm⟩

/-- Every tree is that of one of the sheets. -/
theorem mem_of_classifySheets {trees : List SheetTree} (h : p.classifySheets sheets = .ok trees) :
    ∀ t ∈ trees, ∃ s ∈ sheets, p.classifySheet s = .ok (some t) := by
  induction sheets generalizing trees with
  | nil =>
    cases h
    simp
  | cons s sheets ih =>
    rw [classifySheets_cons, Except.bind_eq_ok_iff] at h
    obtain ⟨tree, htree, h⟩ := h
    obtain ⟨others, htrees, rfl⟩ := Except.map_eq_ok_iff.mp h
    intro t ht
    rcases List.mem_append.mp ht with ht | ht
    · obtain rfl := Option.mem_toList.mp ht
      exact ⟨s, List.mem_cons_self, htree⟩
    · obtain ⟨s', hs', ht'⟩ := ih htrees t ht
      exact ⟨s', List.mem_cons_of_mem s hs', ht'⟩

theorem classifySheets_eq_mapM (p : ReadPlan) (sheets : List Sheet) :
    p.classifySheets sheets
      = (sheets.mapM p.classifySheet).map fun trees => trees.flatMap Option.toList := by
  induction sheets with
  | nil => rfl
  | cons s sheets ih =>
    rw [classifySheets_cons, List.mapM_cons_eq_bind, ih]
    cases p.classifySheet s with
    | error e => rfl
    | ok tree =>
      cases sheets.mapM p.classifySheet with
      | error e => rfl
      | ok trees => rfl

/-- Sheets can be read if and only if each of them can. -/
theorem exists_classifySheets_eq_ok_iff :
    (∃ trees, p.classifySheets sheets = .ok trees) ↔
      ∀ s ∈ sheets, ∃ tree, p.classifySheet s = .ok tree := by
  simp only [classifySheets_eq_mapM, Except.map_eq_ok_iff, ← List.exists_mapM_eq_ok_iff]
  constructor
  · rintro ⟨_, trees, htrees, -⟩
    exact ⟨trees, htrees⟩
  · rintro ⟨trees, htrees⟩
    exact ⟨_, trees, htrees, rfl⟩

/-- Sheets make a document if and only if each of them can be read. -/
theorem exists_classifyWorkbook_eq_ok_iff :
    (∃ d, p.classifyWorkbook sheets = .ok d) ↔
      ∀ s ∈ sheets, ∃ tree, p.classifySheet s = .ok tree := by
  rw [← exists_classifySheets_eq_ok_iff]
  constructor
  · rintro ⟨d, hd⟩
    obtain ⟨trees, htrees, -⟩ := Except.map_eq_ok_iff.mp hd
    exact ⟨trees, htrees⟩
  · rintro ⟨trees, htrees⟩
    exact ⟨⟨trees⟩, Except.map_eq_ok_iff.mpr ⟨trees, htrees, rfl⟩⟩

/-- The first sheet that fails decides. -/
theorem classifySheets_eq_error_iff :
    p.classifySheets sheets = .error e ↔
      ∃ before s after trees, sheets = before ++ s :: after ∧
        p.classifySheets before = .ok trees ∧ p.classifySheet s = .error e := by
  rw [classifySheets_eq_mapM, Except.map_eq_error_iff, List.mapM_eq_error_iff]
  simp only [← exists_classifySheets_eq_ok_iff]
  constructor
  · rintro ⟨before, s, after, heq, ⟨trees, htrees⟩, hs⟩
    exact ⟨before, s, after, trees, heq, htrees, hs⟩
  · rintro ⟨before, s, after, trees, heq, htrees, hs⟩
    exact ⟨before, s, after, heq, ⟨trees, htrees⟩, hs⟩

/-- The first sheet that fails decides. -/
theorem classifyWorkbook_eq_error_iff :
    p.classifyWorkbook sheets = .error e ↔
      ∃ before s after d, sheets = before ++ s :: after ∧
        p.classifyWorkbook before = .ok d ∧ p.classifySheet s = .error e := by
  rw [classifyWorkbook, Except.map_eq_error_iff, classifySheets_eq_error_iff]
  constructor
  · rintro ⟨before, s, after, trees, heq, hbefore, hs⟩
    exact ⟨before, s, after, ⟨trees⟩, heq, Except.map_eq_ok_iff.mpr ⟨trees, hbefore, rfl⟩, hs⟩
  · rintro ⟨before, s, after, d, heq, hbefore, hs⟩
    obtain ⟨trees, hbefore, -⟩ := Except.map_eq_ok_iff.mp hbefore
    exact ⟨before, s, after, trees, heq, hbefore, hs⟩

/-- A sheet has no entry type exactly if no selector matches it. -/
theorem entry?_eq_none_iff :
    p.entry? s = none ↔ ∀ selector ∈ p.selectors, selector.matches s.name s.position = false := by
  unfold entry? SheetSelector.select?
  simp

/-- A sheet gives no tree where it may be passed over, and else the tree of its records, under
its name and at its position. -/
theorem classifySheet_eq_ok_iff {tree : Option SheetTree} :
    p.classifySheet s = .ok tree ↔
      p.entry? s = none ∧ p.unmatched = .skip ∧ tree = none ∨
        ∃ entry rows, p.entry? s = some entry ∧ classify p.grammar entry s = .ok rows ∧
          tree = some ⟨s.name, s.position, rows⟩ := by
  unfold classifySheet
  cases p.entry? s with
  | none => cases p.unmatched <;> simp [eq_comm]
  | some entry => simp [Except.map_eq_ok_iff, eq_comm (a := tree)]

/-- A sheet fails where no selector is allowed to pass it over, or as it is classified. -/
theorem classifySheet_eq_error_iff :
    p.classifySheet s = .error e ↔
      p.entry? s = none ∧ p.unmatched = .fail ∧ e = .unmatchedSheet s.name s.position ∨
        ∃ entry, p.entry? s = some entry ∧ classify p.grammar entry s = .error e := by
  unfold classifySheet
  cases p.entry? s with
  | none => cases p.unmatched <;> simp [eq_comm]
  | some entry => simp [Except.map_eq_error_iff]

/-! ### Sound plans -/

/-- The parts of a plan fit together: its grammar is closed and defines the entry types. -/
structure Sound (p : ReadPlan) : Prop where
  closed : p.grammar.Closed
  entries : ∀ selector ∈ p.selectors, p.grammar.defines selector.target = true

namespace Sound

theorem defines_of_entry? {entry : String} (hp : p.Sound) (h : p.entry? s = some entry) :
    p.grammar.defines entry = true := by
  obtain ⟨selector, hfind, rfl⟩ := Option.map_eq_some_iff.mp h
  exact hp.entries selector (List.mem_of_find?_eq_some hfind)

/-- A sound plan fails at a sheet only if a row is misread, or if no selector matches it. -/
theorem misreads_of_classifySheet (hp : p.Sound) (h : p.classifySheet s = .error e) :
    (∃ cells ∈ s.rows, p.grammar.Misreads s.name cells e) ∨
      p.entry? s = none ∧ p.unmatched = .fail ∧ e = .unmatchedSheet s.name s.position := by
  rcases classifySheet_eq_error_iff.mp h with hnone | ⟨entry, hentry, hclassify⟩
  · exact .inr hnone
  · exact .inl (misreads_of_classify hp.closed (hp.defines_of_entry? hentry) hclassify)

/-- A sound plan fails only if a row is misread, or if no selector matches a sheet. -/
theorem misreads_or_unmatched (hp : p.Sound) (h : p.classifyWorkbook sheets = .error e) :
    (∃ s ∈ sheets, ∃ cells ∈ s.rows, p.grammar.Misreads s.name cells e) ∨
      ∃ s ∈ sheets, e = .unmatchedSheet s.name s.position := by
  obtain ⟨before, s, after, d, rfl, -, hs⟩ := classifyWorkbook_eq_error_iff.mp h
  have hmem : s ∈ before ++ s :: after := by simp
  rcases hp.misreads_of_classifySheet hs with hrow | ⟨-, -, heq⟩
  · exact .inl ⟨s, hmem, hrow⟩
  · exact .inr ⟨s, hmem, heq⟩

/-- A sound plan reports an unmatched sheet exactly if such sheets are to fail, and no selector
matches a sheet before which all could be read. -/
theorem eq_unmatchedSheet_iff (hp : p.Sound) {name : String} {position : Nat} :
    p.classifyWorkbook sheets = .error (.unmatchedSheet name position) ↔
      p.unmatched = .fail ∧ ∃ before s after d, sheets = before ++ s :: after ∧
        p.classifyWorkbook before = .ok d ∧
        (∀ selector ∈ p.selectors, selector.matches s.name s.position = false) ∧
        s.name = name ∧ s.position = position := by
  rw [classifyWorkbook_eq_error_iff]
  constructor
  · rintro ⟨before, s, after, d, heq, hbefore, hs⟩
    rcases hp.misreads_of_classifySheet hs with ⟨_, -, _, -, -, _, -, _, -, -, herror⟩ |
      ⟨hnone, hfail, herror⟩
    · cases herror
    · cases herror
      exact ⟨hfail, before, s, after, d, heq, hbefore, entry?_eq_none_iff.mp hnone, rfl, rfl⟩
  · rintro ⟨hfail, before, s, after, d, heq, hbefore, hnone, rfl, rfl⟩
    refine ⟨before, s, after, d, heq, hbefore, ?_⟩
    exact classifySheet_eq_error_iff.mpr (.inl ⟨entry?_eq_none_iff.mpr hnone, hfail, rfl⟩)

end Sound

end ReadPlan

end SheetGrammar
