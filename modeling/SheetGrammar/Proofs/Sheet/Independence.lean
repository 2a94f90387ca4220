import SheetGrammar.Proofs.DerivePlan
import SheetGrammar.Proofs.ReadPlan

/-!
# Sheets do not influence one another

Sheets are classified, and then columns are derived in the document that they make.  Where all
sheets can be classified, the document is put together of what each sheet gives alone.  So a
sheet ends up with the same tree and at the same position whichever sheets stand beside it; the
failure of one sheet hides those of others only by its place.

## Main definitions

* `Workbook.process` — sheets are classified, and then columns are derived.
* `Workbook.GivesAlone` — the tree that a sheet gives alone.

## Main results

* `Workbook.process_eq_mapM` — sheets that can be classified are processed one by one.
* `Workbook.process_independent` — sheets do not influence one another.
-/

namespace SheetGrammar

/-- Whether some selector of the plan matches the sheet. -/
def ReadPlan.picks (p : ReadPlan) (s : Sheet) : Bool := (p.entry? s).isSome

/-! ### Documents put together -/

theorem DerivePlan.derive_singleton (q : DerivePlan) (t : SheetTree) :
    q.derive ⟨[t]⟩ = (q.deriveSheet t).map fun t' => ⟨[t']⟩ := by
  rw [derive, deriveSheets]
  cases q.deriveSheet t with
  | error e => rfl
  | ok t' => rfl

/-- The columns of a document can be derived part by part. -/
theorem DerivePlan.derive_append (q : DerivePlan) (ss ts : List SheetTree) :
    q.derive ⟨ss ++ ts⟩ = (q.derive ⟨ss⟩).bind fun d =>
      (q.derive ⟨ts⟩).map fun e => ⟨d.sheets ++ e.sheets⟩ := by
  simp only [derive, deriveSheets_eq_mapM, List.mapM_append]
  cases ss.mapM q.deriveSheet with
  | error e => rfl
  | ok ss' =>
    cases ts.mapM q.deriveSheet with
    | error e => rfl
    | ok ts' => rfl

theorem ReadPlan.classifyWorkbook_singleton (p : ReadPlan) (s : Sheet) :
    p.classifyWorkbook [s] = (p.classifySheet s).map fun tree => ⟨tree.toList⟩ := by
  rw [classifyWorkbook, classifySheets_cons]
  cases p.classifySheet s with
  | error e => rfl
  | ok tree => simp [Except.bind, Except.map, classifySheets]

namespace Workbook

variable {p : ReadPlan} {q : DerivePlan} {s : Sheet} {sheets : List Sheet} {d : Document}
  {e : Error}

/-- What two plans make of some sheets: they are classified, and then columns are derived in
their document. -/
def process (p : ReadPlan) (q : DerivePlan) (sheets : List Sheet) : Except Error Document :=
  (p.classifyWorkbook sheets).bind q.derive

theorem process_singleton (p : ReadPlan) (q : DerivePlan) (s : Sheet) :
    process p q [s] = (p.classifySheet s).bind fun tree => q.derive ⟨tree.toList⟩ := by
  rw [process, p.classifyWorkbook_singleton]
  cases p.classifySheet s with
  | error e => rfl
  | ok tree => rfl

theorem classified_of_process (h : process p q [s] = .ok d) :
    ∃ tree, p.classifySheet s = .ok tree := by
  rw [process_singleton, Except.bind_eq_ok_iff] at h
  exact h.imp fun tree htree => htree.1

/-! ### Sheets one by one -/

/-- One more sheet in front of sheets that can be classified gives its own trees in front of
theirs. -/
theorem process_cons (h : p.classifyWorkbook sheets = .ok d) (q : DerivePlan) (s : Sheet) :
    process p q (s :: sheets) = (process p q [s]).bind fun d =>
      (process p q sheets).map fun e => ⟨d.sheets ++ e.sheets⟩ := by
  obtain ⟨trees, htrees, rfl⟩ := Except.map_eq_ok_iff.mp h
  simp only [process, p.classifyWorkbook_singleton, h, Except.bind]
  rw [ReadPlan.classifyWorkbook, ReadPlan.classifySheets_cons]
  cases p.classifySheet s with
  | error e => rfl
  | ok tree =>
    rw [htrees]
    exact q.derive_append tree.toList trees

/-- Sheets that can be classified are processed one by one. -/
theorem process_eq_mapM (h : ∀ s ∈ sheets, ∃ tree, p.classifySheet s = .ok tree)
    (q : DerivePlan) :
    process p q sheets = (sheets.mapM fun s => process p q [s]).map fun ds =>
      ⟨ds.flatMap Document.sheets⟩ := by
  induction sheets with
  | nil => rfl
  | cons s sheets ih =>
    obtain ⟨-, hsheets⟩ := List.forall_mem_cons.mp h
    obtain ⟨d, hrest⟩ := ReadPlan.exists_classifyWorkbook_eq_ok_iff.mpr hsheets
    rw [process_cons hrest, ih hsheets, List.mapM_cons_eq_bind]
    cases process p q [s] with
    | error e => rfl
    | ok d =>
      cases sheets.mapM fun s => process p q [s] with
      | error e => rfl
      | ok ds => rfl

/-- Sheets are processed if and only if each of them is; their trees stand one behind the
other. -/
theorem process_eq_ok_iff :
    process p q sheets = .ok d ↔
      ∃ ds, List.Forall₂ (fun s d => process p q [s] = .ok d) sheets ds ∧
        ds.flatMap Document.sheets = d.sheets := by
  have hone : (∀ s ∈ sheets, ∃ tree, p.classifySheet s = .ok tree) →
      (process p q sheets = .ok d ↔
        ∃ ds, List.Forall₂ (fun s d => process p q [s] = .ok d) sheets ds ∧
          ds.flatMap Document.sheets = d.sheets) := by
    intro hclassified
    cases d
    simp only [process_eq_mapM hclassified, Except.map_eq_ok_iff, List.mapM_eq_ok_iff,
      Document.mk.injEq]
  constructor
  · intro h
    obtain ⟨d', hd', -⟩ := Except.bind_eq_ok_iff.mp h
    exact (hone (ReadPlan.exists_classifyWorkbook_eq_ok_iff.mp ⟨d', hd'⟩)).mp h
  · rintro ⟨ds, hds, hd⟩
    refine (hone fun s hs => ?_).mpr ⟨ds, hds, hd⟩
    obtain ⟨d', -, hd'⟩ := hds.exists_of_mem_left hs
    exact classified_of_process hd'

/-- Processing fails where some sheet cannot be classified, and else at the first sheet that
fails alone. -/
theorem process_eq_error_iff :
    process p q sheets = .error e ↔
      p.classifyWorkbook sheets = .error e ∨
        (∀ s ∈ sheets, ∃ tree, p.classifySheet s = .ok tree) ∧
          sheets.mapM (fun s => process p q [s]) = .error e := by
  cases hclassify : p.classifyWorkbook sheets with
  | error e' =>
    have hfails : ¬ ∀ s ∈ sheets, ∃ tree, p.classifySheet s = .ok tree := by
      rw [← ReadPlan.exists_classifyWorkbook_eq_ok_iff, hclassify]
      rintro ⟨d, hd⟩
      cases hd
    simp [process, hclassify, Except.bind, hfails]
  | ok d =>
    have hclassified := ReadPlan.exists_classifyWorkbook_eq_ok_iff.mp ⟨d, hclassify⟩
    rw [process_eq_mapM hclassified, Except.map_eq_error_iff]
    constructor
    · exact fun h => .inr ⟨hclassified, h⟩
    · rintro (h | h)
      · cases h
      · exact h.2

/-! ### A sheet alone -/

/-- The sheet alone gives the tree `t`, which bears the name and the position of the sheet. -/
structure GivesAlone (p : ReadPlan) (q : DerivePlan) (s : Sheet) (t : SheetTree) : Prop where
  alone : process p q [s] = .ok ⟨[t]⟩
  name : t.name = s.name
  index : t.index = s.position
  /-- Both plans select by that name and position: the one the type of the rows, the other the
  rules. -/
  selected : ∃ entry rows, SheetSelector.select? p.selectors s.name s.position = some entry ∧
    classify p.grammar entry s = .ok rows ∧
    q.names? ⟨s.name, s.position, rows⟩ = SheetSelector.select? q.selectors s.name s.position ∧
    q.deriveSheet ⟨s.name, s.position, rows⟩ = .ok t

/-- A sheet that no selector picks gives nothing alone, unless it fails as it is classified. -/
theorem process_of_not_picks {tree : Option SheetTree} (h : p.picks s = false)
    (htree : p.classifySheet s = .ok tree) : process p q [s] = .ok ⟨[]⟩ := by
  rcases ReadPlan.classifySheet_eq_ok_iff.mp htree with ⟨-, -, rfl⟩ | ⟨entry, rows, hentry, -⟩
  · rw [process_singleton, htree]
    rfl
  · rw [ReadPlan.picks, hentry] at h
    cases h

/-- A sheet that some selector picks gives one tree alone, unless it fails. -/
theorem givesAlone_of_picks (h : p.picks s = true) (hd : process p q [s] = .ok d) :
    ∃ t, d = ⟨[t]⟩ ∧ GivesAlone p q s t := by
  have halone := hd
  rw [process_singleton, Except.bind_eq_ok_iff] at hd
  obtain ⟨tree, htree, hderive⟩ := hd
  rcases ReadPlan.classifySheet_eq_ok_iff.mp htree with
    ⟨hnone, -⟩ | ⟨entry, rows, hentry, hrows, rfl⟩
  · rw [ReadPlan.picks, hnone] at h
    cases h
  · rw [Option.toList_some, DerivePlan.derive_singleton, Except.map_eq_ok_iff] at hderive
    obtain ⟨t, ht, rfl⟩ := hderive
    have hextends := DerivePlan.extends_of_deriveSheet ht
    exact ⟨t, rfl, halone, hextends.name, hextends.index, entry, rows, hentry, hrows, rfl, ht⟩

/-- What sheets give one by one: nothing where no selector picks a sheet, and else one tree. -/
theorem forall₂_givesAlone_iff {ts : List SheetTree} :
    (∃ ds, List.Forall₂ (fun s d => process p q [s] = .ok d) sheets ds ∧
        ds.flatMap Document.sheets = ts) ↔
      (∀ s ∈ sheets, p.picks s = false → process p q [s] = .ok ⟨[]⟩) ∧
        List.Forall₂ (GivesAlone p q) (sheets.filter p.picks) ts := by
  induction sheets generalizing ts with
  | nil =>
    constructor
    · rintro ⟨ds, hds, rfl⟩
      cases hds
      exact ⟨by simp, .nil⟩
    · rintro ⟨-, hts⟩
      cases hts
      exact ⟨[], .nil, rfl⟩
  | cons s sheets ih =>
    rw [List.forall_mem_cons]
    constructor
    · rintro ⟨_, hds, rfl⟩
      cases hds with
      | @cons _ d _ ds hd hds =>
        obtain ⟨hskipped, hpicked⟩ := ih.mp ⟨ds, hds, rfl⟩
        cases h : p.picks s with
        | false =>
          obtain ⟨tree, htree⟩ := classified_of_process hd
          have hnil := process_of_not_picks (q := q) h htree
          obtain rfl := Except.ok.inj (hd.symm.trans hnil)
          rw [List.filter_cons_of_neg (by simp [h])]
          exact ⟨⟨fun _ => hnil, hskipped⟩, hpicked⟩
        | true =>
          obtain ⟨t, rfl, ht⟩ := givesAlone_of_picks h hd
          rw [List.filter_cons_of_pos h]
          exact ⟨⟨nofun, hskipped⟩, .cons ht hpicked⟩
    · rintro ⟨⟨hs, hskipped⟩, hpicked⟩
      cases h : p.picks s with
      | false =>
        rw [List.filter_cons_of_neg (by simp [h])] at hpicked
        obtain ⟨ds, hds, rfl⟩ := ih.mpr ⟨hskipped, hpicked⟩
        exact ⟨⟨[]⟩ :: ds, .cons (hs h) hds, rfl⟩
      | true =>
        rw [List.filter_cons_of_pos h] at hpicked
        cases hpicked with
        | @cons _ t _ ts ht hpicked =>
          obtain ⟨ds, hds, rfl⟩ := ih.mpr ⟨hskipped, hpicked⟩
          exact ⟨⟨[t]⟩ :: ds, .cons ht.alone hds, rfl⟩

/-! ### The theorem -/

theorem exists_classifyWorkbook_singleton_iff :
    (∃ d, p.classifyWorkbook [s] = .ok d) ↔ ∃ tree, p.classifySheet s = .ok tree := by
  rw [ReadPlan.exists_classifyWorkbook_eq_ok_iff, List.forall_mem_singleton]

theorem classifyWorkbook_singleton_eq_error_iff :
    p.classifyWorkbook [s] = .error e ↔ p.classifySheet s = .error e := by
  rw [p.classifyWorkbook_singleton, Except.map_eq_error_iff]

/-- **Sheets do not influence one another.** If sheets are classified and columns are derived,
the document has, in the order of the sheets, one tree for each sheet that some selector picks,
and it is the tree that the sheet gives alone; its index is the position of the sheet, whichever
sheets before it were left out, and the rules for it were chosen by that position.  If this fails,
it reports the error of the first sheet that cannot be classified alone; without such a sheet,
that of the first one whose columns cannot be derived alone, which some selector picks. -/
theorem process_independent (p : ReadPlan) (q : DerivePlan) (sheets : List Sheet) :
    (∀ d, process p q sheets = .ok d ↔
      (∀ s ∈ sheets, p.picks s = false → process p q [s] = .ok ⟨[]⟩) ∧
        List.Forall₂ (GivesAlone p q) (sheets.filter p.picks) d.sheets) ∧
    ∀ e, process p q sheets = .error e ↔
      (∃ before s after, sheets = before ++ s :: after ∧
        (∀ b ∈ before, ∃ d, p.classifyWorkbook [b] = .ok d) ∧
        p.classifyWorkbook [s] = .error e) ∨
      (∀ s ∈ sheets, ∃ d, p.classifyWorkbook [s] = .ok d) ∧
        ∃ before s after, sheets = before ++ s :: after ∧
          (∀ b ∈ before, ∃ d, process p q [b] = .ok d) ∧
          p.picks s = true ∧ process p q [s] = .error e := by
  constructor
  · intro d
    rw [process_eq_ok_iff, forall₂_givesAlone_iff]
  · intro e
    rw [process_eq_error_iff, ReadPlan.classifyWorkbook, ReadPlan.classifySheets_eq_mapM,
      Except.map_eq_error_iff, Except.map_eq_error_iff, List.mapM_eq_error_iff,
      List.mapM_eq_error_iff]
    simp only [exists_classifyWorkbook_singleton_iff, classifyWorkbook_singleton_eq_error_iff]
    refine or_congr_right (and_congr_right fun hclassified => ?_)
    constructor
    · rintro ⟨before, s, after, rfl, hbefore, hs⟩
      refine ⟨before, s, after, rfl, hbefore, ?_, hs⟩
      -- a sheet that is left out cannot fail once it is classified
      by_contra hpicks
      obtain ⟨tree, htree⟩ := hclassified s (by simp)
      rw [process_of_not_picks (Bool.not_eq_true _ ▸ hpicks) htree] at hs
      cases hs
    · rintro ⟨before, s, after, rfl, hbefore, -, hs⟩
      exact ⟨before, s, after, rfl, hbefore, hs⟩

end Workbook

end SheetGrammar
