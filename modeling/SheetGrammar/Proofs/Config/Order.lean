import Mathlib.Data.List.Perm.Basic
import SheetGrammar.Proofs.Classifier.Reachability
import SheetGrammar.Proofs.Config.Derive
import SheetGrammar.Proofs.Config.ReadValidity

/-!
# The order of declarations

Types of rows and rules are looked up by their names.  If the names are distinct, a look-up finds
the same whatever the order in which they were declared, and so do all that rest on look-ups: the
check of children, which goes through the types by name, the classifier, and the choice of the
rules of a sheet.

## Main definitions

* `Grammar.Shuffled` — the same types with distinct names, in another order.
* `DerivePlan.Shuffled` — the same selectors and the same rules with distinct names, in another
  order.

## Main results

* `List.find?_of_perm` — a look-up by distinct keys does not depend on the order.
* `Grammar.Shuffled.validate_eq` — the same undefined child is reported.
* `Grammar.Shuffled.classify_eq` — a sheet gives the same records.
* `DerivePlan.Shuffled.derive_eq` — a document gets the same columns.
* `build_of_perm` — configurations build plans that do the same, or fail for the same reason.
-/

namespace List

variable {ε α β : Type}

/-- A key leads to the one element that has it. -/
theorem find?_key_eq_some_iff [DecidableEq β] {key : α → β} {as : List α}
    (hdistinct : (as.map key).Nodup) {k : β} {a : α} :
    (as.find? fun a => key a = k) = some a ↔ a ∈ as ∧ key a = k := by
  constructor
  · intro h
    exact ⟨List.mem_of_find?_eq_some h, by simpa using List.find?_some h⟩
  · rintro ⟨ha, hkey⟩
    cases hfound : as.find? fun a => key a = k with
    | none =>
      have hnot := List.find?_eq_none.mp hfound a ha
      simp [hkey] at hnot
    | some b =>
      have hb : key b = k := by simpa using List.find?_some hfound
      have hmem : b ∈ as := List.mem_of_find?_eq_some hfound
      rw [List.inj_on_of_nodup_map hdistinct hmem ha (hb.trans hkey.symm)]

/-- A look-up by distinct keys does not depend on the order. -/
theorem find?_of_perm [DecidableEq β] {key : α → β} {as bs : List α} (h : as.Perm bs)
    (hdistinct : (as.map key).Nodup) (k : β) :
    (bs.find? fun a => key a = k) = as.find? fun a => key a = k := by
  have hbs : (bs.map key).Nodup := (h.map key).nodup_iff.mp hdistinct
  ext a
  rw [find?_key_eq_some_iff hdistinct, find?_key_eq_some_iff hbs, h.mem_iff]

/-- What is computed element by element is computed in any order. -/
theorem exists_mapM_of_perm {f : α → Except ε β} {as as' : List α} {bs : List β}
    (h : as.Perm as') (hbs : as.mapM f = .ok bs) :
    ∃ bs', as'.mapM f = .ok bs' ∧ bs.Perm bs' := by
  obtain ⟨bs', hbs', hperm⟩ := List.perm_comp_forall₂ h.symm (List.mapM_eq_ok_iff.mp hbs)
  exact ⟨bs', List.mapM_eq_ok_iff.mpr hbs', hperm.symm⟩

end List

namespace SheetGrammar

/-! ### Grammars -/

namespace Grammar

variable {g g' : Grammar}

/-- The types of `g` have distinct names, and `g'` has the same types in some order. -/
structure Shuffled (g g' : Grammar) : Prop where
  types : g.types.Perm g'.types
  distinct : (g.types.map RowType.name).Nodup

namespace Shuffled

theorem get?_eq (h : g.Shuffled g') (name : String) : g'.get? name = g.get? name :=
  List.find?_of_perm h.types h.distinct name

theorem defines_eq (h : g.Shuffled g') (name : String) : g'.defines name = g.defines name :=
  congrArg Option.isSome (h.get?_eq name)

/-- Distinct names decide about the order in which types are checked. -/
theorem sorted_eq (h : g.Shuffled g') : g'.sorted = g.sorted := by
  have htrans : ∀ s t u : RowType, decide (s.name ≤ t.name) = true →
      decide (t.name ≤ u.name) = true → decide (s.name ≤ u.name) = true := by
    intro s t u hst htu
    rw [decide_eq_true_eq] at hst htu ⊢
    exact String.le_trans hst htu
  have htotal : ∀ s t : RowType,
      (decide (s.name ≤ t.name) || decide (t.name ≤ s.name)) = true := by
    intro s t
    simpa using String.le_total s.name t.name
  have hsorted := fun g : Grammar => List.pairwise_mergeSort htrans htotal g.types
  have hperm : g'.sorted.Perm g.sorted :=
    (List.mergeSort_perm g'.types _).trans (h.types.symm.trans (List.mergeSort_perm g.types _).symm)
  refine List.Perm.eq_of_pairwise (fun s t hs ht hst hts => ?_) (hsorted g') (hsorted g) hperm
  rw [decide_eq_true_eq] at hst hts
  exact List.inj_on_of_nodup_map h.distinct (mem_sorted.mp (hperm.mem_iff.mp hs))
    (mem_sorted.mp ht) (String.le_antisymm hst hts)

/-- The same undefined child of the same type is reported. -/
theorem validate_eq (h : g.Shuffled g') : g'.validate = g.validate := by
  have hundefined : ∀ t, g'.undefinedChild? t = g.undefinedChild? t := by
    intro t
    simp only [undefinedChild?, h.defines_eq]
  unfold validate
  simp only [h.sorted_eq, hundefined]

/-- The classifier only looks names up, so a sheet gives the same records. -/
theorem classify_eq (h : g.Shuffled g') (entry : String) (s : Sheet) :
    classify g' entry s = classify g entry s := by
  have hagree : g.AgreeFrom g' entry := fun name _ => (h.get?_eq name).symm
  have hlockstep := Classifier.lockstep_withGrammar hagree
  cases ht : g.get? entry with
  | none =>
    have ht' : g'.get? entry = none := (h.get?_eq entry).trans ht
    simp only [classify, Classifier.ofEntry_of_get?_eq_none ht,
      Classifier.ofEntry_of_get?_eq_none ht']
  | some t =>
    have ht' : g'.get? entry = some t := (h.get?_eq entry).trans ht
    have hc : Classifier.ofEntry g entry s.name = .ok ⟨g, s.name, .ofRowType t, [], 0, 0⟩ :=
      Classifier.ofEntry_of_get?_eq_some ht
    simp only [classify, hc, Classifier.ofEntry_of_get?_eq_some ht']
    rcases hlockstep.feedAll ⟨rfl, Classifier.stacked_of_ofEntry hc, rfl⟩ s.rows with
      ⟨e, he, he'⟩ | ⟨d, d', hd, hd', -, -, rfl⟩
    · exact (congrArg (Except.map Classifier.finish) he').trans
        (congrArg (Except.map Classifier.finish) he).symm
    · exact (congrArg (Except.map Classifier.finish) hd').trans
        (congrArg (Except.map Classifier.finish) hd).symm

end Shuffled

end Grammar

/-! ### Read configurations -/

theorem ReadPlan.classifyWorkbook_of_shuffled {p p' : ReadPlan}
    (hselectors : p'.selectors = p.selectors) (hunmatched : p'.unmatched = p.unmatched)
    (hgrammar : p.grammar.Shuffled p'.grammar) (sheets : List Sheet) :
    p'.classifyWorkbook sheets = p.classifyWorkbook sheets := by
  have hsheet : ∀ s, p'.classifySheet s = p.classifySheet s := by
    intro s
    simp only [classifySheet, entry?, hselectors, hunmatched, hgrammar.classify_eq]
  rw [classifyWorkbook, classifyWorkbook, classifySheets_eq_mapM, classifySheets_eq_mapM,
    funext hsheet]

theorem ReadSheetEntry.compile_of_shuffled {g g' : Grammar} (h : g.Shuffled g')
    (s : ReadSheetEntry) : s.compile g' = s.compile g := by
  simp only [compile, h.defines_eq]

namespace ReadConfig

/-- The grammar that is meant, once all types of rows are. -/
theorem grammar_of_mapM {c : ReadConfig} {types : List RowType}
    (h : c.rows.mapM RowTypeEntry.compile = .ok types)
    (hdistinct : (types.map RowType.name).Nodup) :
    c.grammar = (Grammar.mk types).validate.map fun _ => ⟨types⟩ := by
  simp only [grammar, h, Grammar.ofTypes_eq_ok_iff.mpr ⟨hdistinct, rfl⟩]

/-- A read configuration with its types of rows in another order builds a plan that does the
same, or fails for the same reason. -/
theorem build_of_perm {c c' : ReadConfig} (hsheets : c'.sheets = c.sheets)
    (hunmatched : c'.unmatchedSheets = c.unmatchedSheets) (hrows : c.rows.Perm c'.rows)
    (hcompile : ∀ t ∈ c.rows, ∃ type, t.compile = .ok type)
    (hdistinct : (c.rows.map fun t => trim t.name).Nodup) :
    (∃ e, c.build = .error e ∧ c'.build = .error e) ∨
      ∃ p p', c.build = .ok p ∧ c'.build = .ok p' ∧
        ∀ sheets, p'.classifyWorkbook sheets = p.classifyWorkbook sheets := by
  obtain ⟨types, htypes⟩ := List.exists_mapM_eq_ok_iff.mpr hcompile
  obtain ⟨types', htypes', hperm⟩ := List.exists_mapM_of_perm hrows htypes
  have hnames : (types.map RowType.name).Nodup := by
    rwa [RowTypeEntry.names_of_compile (List.mapM_eq_ok_iff.mp htypes)]
  have hnames' : (types'.map RowType.name).Nodup := (hperm.map RowType.name).nodup_iff.mp hnames
  have hshuffled : (Grammar.mk types).Shuffled ⟨types'⟩ := ⟨hperm, hnames⟩
  -- sheet entries only ask whether a type is defined
  have hselectors : c'.sheets.mapM (ReadSheetEntry.compile ⟨types'⟩)
      = c.sheets.mapM (ReadSheetEntry.compile ⟨types⟩) := by
    rw [hsheets, funext (ReadSheetEntry.compile_of_shuffled hshuffled)]
  unfold build
  rw [grammar_of_mapM htypes hnames, grammar_of_mapM htypes' hnames', hshuffled.validate_eq]
  cases (Grammar.mk types).validate with
  | error e => exact .inl ⟨e, rfl, rfl⟩
  | ok _ =>
    simp only [Except.map]
    rw [hselectors, hsheets, hunmatched]
    by_cases hempty : c.sheets = []
    · exact .inl ⟨_, if_pos hempty, if_pos hempty⟩
    · simp only [if_neg hempty]
      cases c.sheets.mapM (ReadSheetEntry.compile ⟨types⟩) with
      | error e => exact .inl ⟨e, rfl, rfl⟩
      | ok selectors =>
        exact .inr ⟨_, _, rfl, rfl, ReadPlan.classifyWorkbook_of_shuffled rfl rfl hshuffled⟩

end ReadConfig

/-! ### Derive configurations -/

namespace DerivePlan

/-- The rules of `p` have distinct names, and `p'` has the same selectors and the same rules in
some order. -/
structure Shuffled (p p' : DerivePlan) : Prop where
  selectors : p'.selectors = p.selectors
  rules : p.rules.Perm p'.rules
  distinct : (p.rules.map Rule.name).Nodup

namespace Shuffled

variable {p p' : DerivePlan}

theorem rule?_eq (h : p.Shuffled p') (name : String) : p'.rule? name = p.rule? name :=
  List.find?_of_perm h.rules h.distinct name

/-- A document gets the same columns. -/
theorem derive_eq (h : p.Shuffled p') (d : Document) : p'.derive d = p.derive d := by
  have hrules : ∀ names, p'.rulesOf names = p.rulesOf names := by
    intro names
    rw [rulesOf, rulesOf, funext h.rule?_eq]
  have hsheet : ∀ s, p'.deriveSheet s = p.deriveSheet s := by
    intro s
    simp only [deriveSheet, names?, h.selectors, hrules]
  rw [derive, derive, deriveSheets_eq_mapM, deriveSheets_eq_mapM, funext hsheet]

theorem addSelector (h : p.Shuffled p') (s : SheetSelector (List String)) :
    (p.addSelector s).Shuffled (p'.addSelector s) :=
  ⟨congrArg (· ++ [s]) h.selectors, h.rules, h.distinct⟩

/-- A sheet entry means the same selector. -/
theorem compile_eq (h : p.Shuffled p') (s : DeriveSheetEntry) : s.compile p' = s.compile p := by
  unfold DeriveSheetEntry.compile
  simp only [h.rule?_eq]

/-- The selectors of sheet entries keep plans alike, or they fail alike. -/
theorem foldlM_addSelector (h : p.Shuffled p') (entries : List DeriveSheetEntry) :
    (∃ e, entries.foldlM (fun p s => (s.compile p).map p.addSelector) p = .error e ∧
        entries.foldlM (fun p s => (s.compile p).map p.addSelector) p' = .error e) ∨
      ∃ q q', entries.foldlM (fun p s => (s.compile p).map p.addSelector) p = .ok q ∧
        entries.foldlM (fun p s => (s.compile p).map p.addSelector) p' = .ok q' ∧
        q.Shuffled q' := by
  induction entries generalizing p p' with
  | nil => exact .inr ⟨p, p', rfl, rfl, h⟩
  | cons s entries ih =>
    rw [List.foldlM_cons, List.foldlM_cons, h.compile_eq s]
    cases s.compile p with
    | error e => exact .inl ⟨e, rfl, rfl⟩
    | ok selector => exact ih (h.addSelector selector)

end Shuffled

end DerivePlan

namespace DeriveConfig

/-- A derive configuration with its rules in another order builds a plan that does the same, or
fails for the same reason. -/
theorem build_of_perm {registry : Registry} {c c' : DeriveConfig} (hsheets : c'.sheets = c.sheets)
    (hrules : c.rules.Perm c'.rules)
    (hcompile : ∀ r ∈ c.rules, ∃ rule, r.compile registry = .ok rule)
    (hdistinct : (c.rules.map fun r => trim r.name).Nodup) :
    (∃ e, c.build registry = .error e ∧ c'.build registry = .error e) ∨
      ∃ p p', c.build registry = .ok p ∧ c'.build registry = .ok p' ∧
        ∀ d, p'.derive d = p.derive d := by
  obtain ⟨rules, hmeant⟩ := List.exists_mapM_eq_ok_iff.mpr hcompile
  obtain ⟨rules', hmeant', hperm⟩ := List.exists_mapM_of_perm hrules hmeant
  rw [List.mapM_eq_ok_iff] at hmeant hmeant'
  have hnames : (rules.map Rule.name).Nodup := by rwa [RuleEntry.names_of_compile hmeant]
  have hnames' : (rules'.map Rule.name).Nodup := (hperm.map Rule.name).nodup_iff.mp hnames
  have hplan : c.rulePlan registry = .ok ⟨[], rules⟩ :=
    rulePlan_eq_ok_iff.mpr ⟨hmeant, hnames, rfl⟩
  have hplan' : c'.rulePlan registry = .ok ⟨[], rules'⟩ :=
    rulePlan_eq_ok_iff.mpr ⟨hmeant', hnames', rfl⟩
  -- the plans before the first sheet entry differ in nothing but the order of their rules
  have hshuffled : (DerivePlan.mk [] rules).Shuffled ⟨[], rules'⟩ := ⟨rfl, hperm, hnames⟩
  unfold build
  rw [hplan, hplan', hsheets]
  rcases hshuffled.foldlM_addSelector c.sheets with h | ⟨p, p', hp, hp', hpp'⟩
  · exact .inl h
  · exact .inr ⟨p, p', hp, hp', hpp'.derive_eq⟩

end DeriveConfig

/-! ### Configurations of either kind -/

/-- **The order of declarations does not matter.** If all types of rows of a read configuration
can be compiled and their names are distinct, then in any other order they make a configuration
that fails for the same reason, or builds a plan that makes the same of every workbook.  If all
rules of a derive configuration can be compiled and their names are distinct, then in any other
order they make a configuration that fails for the same reason, or builds a plan that makes the
same of every document. -/
theorem builds_alike_of_perm :
    (∀ {c : ReadConfig} {rows : List RowTypeEntry}, c.rows.Perm rows →
      (∀ t ∈ c.rows, ∃ type, t.compile = .ok type) → (c.rows.map fun t => trim t.name).Nodup →
      (∃ e, c.build = .error e ∧ { c with rows := rows }.build = .error e) ∨
        ∃ p p', c.build = .ok p ∧ { c with rows := rows }.build = .ok p' ∧
          ∀ sheets, p'.classifyWorkbook sheets = p.classifyWorkbook sheets) ∧
    ∀ {registry : Registry} {c : DeriveConfig} {rules : List RuleEntry}, c.rules.Perm rules →
      (∀ r ∈ c.rules, ∃ rule, r.compile registry = .ok rule) →
      (c.rules.map fun r => trim r.name).Nodup →
      (∃ e, c.build registry = .error e ∧ { c with rules := rules }.build registry = .error e) ∨
        ∃ p p', c.build registry = .ok p ∧ { c with rules := rules }.build registry = .ok p' ∧
          ∀ d, p'.derive d = p.derive d :=
  ⟨fun hrows => ReadConfig.build_of_perm rfl rfl hrows,
    fun hrules => DeriveConfig.build_of_perm rfl hrules⟩

/-- Two types of rows that list a child which is not defined. -/
def ReadConfig.lostChildren : ReadConfig :=
  ⟨.skip, [⟨[], "b"⟩], [⟨"b ", [], [], ["x"]⟩, ⟨" a", [⟨"A", "^O"⟩], [], ["b", "y"]⟩]⟩

/-- Of two undefined children the one of the type `a` is reported, which is listed last. -/
theorem ReadConfig.build_lostChildren :
    lostChildren.build = .error (.configuration (.undefinedChild "a" "y")) := by
  obtain ⟨b, a, htypes, hbname, hbchildren, haname, hachildren⟩ : ∃ b a : RowType,
      lostChildren.rows.mapM RowTypeEntry.compile = .ok [b, a] ∧
        b.name = "b" ∧ b.children = ["x"] ∧ a.name = "a" ∧ a.children = ["b", "y"] :=
    ⟨_, _, by with_unfolding_all rfl, by with_unfolding_all rfl, by with_unfolding_all rfl,
      by with_unfolding_all rfl, by with_unfolding_all rfl⟩
  have hswap : (Grammar.mk [a, b]).Shuffled ⟨[b, a]⟩ :=
    ⟨.swap b a [], by simp [haname, hbname]⟩
  have hle : decide (a.name ≤ b.name) = true := by
    rw [haname, hbname]
    decide
  -- the types are checked by name, and not as they are listed
  have hsorted : (Grammar.mk [b, a]).sorted = [a, b] :=
    hswap.sorted_eq.trans (List.mergeSort_of_pairwise (by simpa using hle))
  have hdistinct : ([b, a].map RowType.name).Nodup := by simp [haname, hbname]
  rw [build, grammar_of_mapM htypes hdistinct, Grammar.validate, hsorted]
  simp [Grammar.undefinedChild?, Grammar.defines, Grammar.get?, haname, hbname, hachildren,
    Except.map]

/-- Two rules, the second of which uses what the first derives. -/
def DeriveConfig.chained : DeriveConfig :=
  ⟨[⟨[], ["first", "second"]⟩],
    [⟨"first", none, [], [⟨"A", ""⟩], ⟨"", "t"⟩, some ⟨PatternExtract.kind, []⟩⟩,
     ⟨"second", none, [], [⟨"", "t"⟩], ⟨"", "u"⟩, some ⟨PatternExtract.kind, []⟩⟩]⟩

/-- In either order the type that comes first by name is reported, and the rules run in the order
that the sheet entry names. -/
theorem builds_alike_of_perm_reverse :
    { ReadConfig.lostChildren with rows := ReadConfig.lostChildren.rows.reverse }.build
        = .error (.configuration (.undefinedChild "a" "y")) ∧
      ∃ p p', DeriveConfig.chained.build .builtins = .ok p ∧
        { DeriveConfig.chained with rules := DeriveConfig.chained.rules.reverse }.build .builtins
          = .ok p' ∧ ∀ d, p'.derive d = p.derive d := by
  have htypes : ∀ t ∈ ReadConfig.lostChildren.rows, ∃ type, t.compile = .ok type := by
    simp only [ReadConfig.lostChildren, List.forall_mem_cons]
    exact ⟨⟨_, by with_unfolding_all rfl⟩, ⟨_, by with_unfolding_all rfl⟩, by simp⟩
  have hrules : ∀ r ∈ DeriveConfig.chained.rules, ∃ rule, r.compile .builtins = .ok rule := by
    simp only [DeriveConfig.chained, List.forall_mem_cons]
    exact ⟨⟨_, by with_unfolding_all rfl⟩, ⟨_, by with_unfolding_all rfl⟩, by simp⟩
  have hchained : ∃ p, DeriveConfig.chained.build .builtins = .ok p :=
    ⟨_, by with_unfolding_all rfl⟩
  obtain ⟨p, hp⟩ := hchained
  constructor
  · have hrows := (List.reverse_perm ReadConfig.lostChildren.rows).symm
    rcases builds_alike_of_perm.1 hrows htypes (by decide) with ⟨e, he, he'⟩ | ⟨q, q', hq, -, -⟩
    · rw [ReadConfig.build_lostChildren] at he
      rw [he', Except.error.inj he]
    · rw [ReadConfig.build_lostChildren] at hq
      cases hq
  · have hperm := (List.reverse_perm DeriveConfig.chained.rules).symm
    rcases builds_alike_of_perm.2 hperm hrules (by decide) with ⟨e, he, -⟩ | h
    · rw [hp] at he
      cases he
    · exact h

end SheetGrammar
