import SheetGrammar.Proofs.Classifier.Lockstep
import SheetGrammar.Proofs.Classifier.Stack

/-!
# Types that a classifier can come to

A classifier starts with a frame of the entry type and opens frames for child types alone.  So
it only ever looks up names that can be reached from the entry through declared children, and
two grammars that agree about these names cannot be told apart.

## Main definitions

* `Grammar.Reachable` — the names that can be reached from an entry type.
* `Grammar.AgreeFrom` — two grammars agree about these names.

## Main results

* `Classifier.Stacked.reachable` — every frame is of a type that can be reached.
* `Classifier.lockstep_withGrammar` — every transition is the same with either grammar.
* `Classifier.reports_eq_of_agreeFrom` — and so is everything that can be seen of a run.
-/

namespace SheetGrammar

/-! ### Names that can be reached -/

namespace Grammar

variable {g g' : Grammar} {entry name : String}

/-- The names that can be reached from an entry type through declared children, the entry type
included. A name may be reached without being defined. -/
inductive Reachable (g : Grammar) (entry : String) : String → Prop
  /-- The entry type itself. -/
  | entry : Reachable g entry entry
  /-- A child of a type that can be reached. -/
  | child {name child : String} {t : RowType} (h : Reachable g entry name)
      (ht : g.get? name = some t) (hc : child ∈ t.children) : Reachable g entry child

/-- What can be reached lies in every list that has the entry type and, with a name, all
children of its type. -/
theorem Reachable.mem (h : g.Reachable entry name) {names : List String} (hentry : entry ∈ names)
    (hchildren : ∀ n ∈ names, ∀ t ∈ g.get? n, ∀ c ∈ t.children, c ∈ names) : name ∈ names := by
  induction h with
  | entry => exact hentry
  | child _ ht hc ih => exact hchildren _ ih _ ht _ hc

/-- Each name that can be reached is undefined in both grammars, or defined by the same type
in both. -/
def AgreeFrom (g g' : Grammar) (entry : String) : Prop :=
  ∀ name, g.Reachable entry name → g.get? name = g'.get? name

end Grammar

namespace Classifier

variable {g g' : Grammar} {entry : String} {top : Frame} {below : List Frame}

/-- The top frame is of a type that can be reached. -/
theorem Stacked.reachable (h : Stacked g entry top below) : g.Reachable entry top.rowType.name := by
  -- the root is of the entry type, and each frame is of a child type of the one below it
  induction h with
  | root _ he =>
    rw [he]
    exact .entry
  | push _ hs h ih => exact .child ih h.sound.defined (List.mem_of_getElem? hs.child)

/-! ### One classifier with either grammar -/

/-- A classifier with another grammar. -/
def withGrammar (c : Classifier) (g : Grammar) : Classifier :=
  c.withContext g c.rowsRead c.rowsDropped

theorem reachable_of_untried {c : Classifier} {child : String} {rest : List String}
    (h : HasStack entry c) (hu : c.top.untried = child :: rest) :
    c.grammar.Reachable entry child :=
  .child (Stacked.reachable h) h.sound.defined (Frame.mem_children_of_untried hu)

/-- A transition looks up only a name that can be reached. -/
theorem step_withGrammar {c : Classifier} (h : HasStack entry c)
    (hagree : c.grammar.AgreeFrom g' entry) (cells : List String) :
    (c.withGrammar g').step cells = ((c.step cells).1.withGrammar g', (c.step cells).2) := by
  have hcounts := (stepped_step c cells).counts
  have hstep := step_withContext (c := c) (g := g')
    (fun child rest hu => hagree child (reachable_of_untried h hu)) c.rowsRead c.rowsDropped cells
  rw [withGrammar, withGrammar, hcounts.1, hcounts.2]
  exact hstep

/-- A classifier is in lockstep with itself under a grammar that agrees with its own. -/
theorem lockstep_withGrammar (hagree : g.AgreeFrom g' entry) :
    Lockstep fun c d => c.grammar = g ∧ HasStack entry c ∧ d = c.withGrammar g' where
  result := by
    rintro c _ ⟨rfl, hstack, rfl⟩ cells
    rw [step_withGrammar hstack hagree]
  step := by
    rintro c _ ⟨rfl, hstack, rfl⟩ cells
    have hs := stepped_step c cells
    rw [step_withGrammar hstack hagree]
    exact ⟨hs.context.1, hs.stacked hstack, rfl⟩
  read := by
    rintro c _ ⟨rfl, hstack, rfl⟩
    exact ⟨rfl, hstack, rfl⟩
  drop := by
    rintro c _ ⟨rfl, hstack, rfl⟩
    exact ⟨rfl, hstack, rfl⟩

theorem ofEntry_of_get?_eq_none {sheet : String} (h : g.get? entry = none) :
    ofEntry g entry sheet = .error (.undefinedRowType entry sheet) := by
  rw [ofEntry, ofName_eq, h]
  rfl

theorem ofEntry_of_get?_eq_some {sheet : String} {t : RowType} (h : g.get? entry = some t) :
    ofEntry g entry sheet = .ok ⟨g, sheet, .ofRowType t, [], 0, 0⟩ := by
  rw [ofEntry, ofName_eq, h]
  rfl

/-- **Classifying depends only on the types that can be reached.** If two grammars agree about
the names that can be reached from the entry type, then either both lack the entry type, or
the classifiers with one and the other grammar show the same result, depth and number of
dropped rows after each call of any run, and have the same records at its end. Sheets are
classified alike. -/
theorem reports_eq_of_agreeFrom (h : g.AgreeFrom g' entry) (sheet : String) :
    ((∃ e, ofEntry g entry sheet = .error e ∧ ofEntry g' entry sheet = .error e) ∨
      ∃ c c', ofEntry g entry sheet = .ok c ∧ ofEntry g' entry sheet = .ok c' ∧
        ∀ ks : List Call,
          c.reports ks = c'.reports ks ∧ (c.after ks).finish = (c'.after ks).finish) ∧
    ∀ s : Sheet, classify g entry s = classify g' entry s := by
  have hentry := h entry .entry
  have hlockstep := lockstep_withGrammar h
  cases ht : g.get? entry with
  | none =>
    have ht' := hentry.symm.trans ht
    refine ⟨.inl ⟨_, ofEntry_of_get?_eq_none ht, ofEntry_of_get?_eq_none ht'⟩, fun s => ?_⟩
    simp only [classify, ofEntry_of_get?_eq_none ht, ofEntry_of_get?_eq_none ht']
  | some t =>
    have ht' := hentry.symm.trans ht
    constructor
    · have hc : ofEntry g entry sheet = .ok ⟨g, sheet, .ofRowType t, [], 0, 0⟩ :=
        ofEntry_of_get?_eq_some ht
      refine .inr ⟨_, _, hc, ofEntry_of_get?_eq_some ht', fun ks => ⟨?_, ?_⟩⟩
      · refine hlockstep.reports_eq ?_ ?_ ⟨rfl, stacked_of_ofEntry hc, rfl⟩ ks
        · rintro c _ ⟨-, -, rfl⟩
          rfl
        · rintro c _ ⟨-, -, rfl⟩
          rfl
      · obtain ⟨-, -, hafter⟩ := hlockstep.after ⟨rfl, stacked_of_ofEntry hc, rfl⟩ ks
        exact (congrArg finish hafter).symm
    · intro s
      have hc : ofEntry g entry s.name = .ok ⟨g, s.name, .ofRowType t, [], 0, 0⟩ :=
        ofEntry_of_get?_eq_some ht
      simp only [classify, hc, ofEntry_of_get?_eq_some ht']
      rcases hlockstep.feedAll ⟨rfl, stacked_of_ofEntry hc, rfl⟩ s.rows with
        ⟨e, he, he'⟩ | ⟨d, d', hd, hd', -, -, rfl⟩
      · exact (congrArg (Except.map finish) he).trans (congrArg (Except.map finish) he').symm
      · exact (congrArg (Except.map finish) hd).trans (congrArg (Except.map finish) hd').symm

end Classifier

/-! ### An example -/

/-- The grammar of orders with its types in another order, and with a type that no order has
among its children. -/
def Grammar.ordersAndTotals : Grammar :=
  ⟨.ofLetter "total" "T" ["order"] :: Grammar.orders.types.reverse⟩

theorem Grammar.orders_agreeFrom : Grammar.orders.AgreeFrom .ordersAndTotals "order" := by
  intro name h
  have hmem : name ∈ ["order", "item", "note", "lost"] := h.mem (by decide) (by decide +kernel)
  have hall : ∀ n ∈ ["order", "item", "note", "lost"],
      orders.get? n = ordersAndTotals.get? n := by
    simp only [List.forall_mem_cons]
    exact ⟨rfl, rfl, rfl, rfl, by simp⟩
  exact hall name hmem

/-- A run that comes to the missing type. -/
theorem Classifier.reports_eq_of_agreeFrom_orders :
    Grammar.orders.AgreeFrom .ordersAndTotals "order" ∧
      classify .orders "order" ⟨"s", 0, [["O", "1"], ["I", "2"], ["T", "3"]]⟩
        = .error (.undefinedRowType "lost" "s") ∧
      classify .ordersAndTotals "order" ⟨"s", 0, [["O", "1"], ["I", "2"], ["T", "3"]]⟩
        = .error (.undefinedRowType "lost" "s") := by
  have horders : classify .orders "order" ⟨"s", 0, [["O", "1"], ["I", "2"], ["T", "3"]]⟩
      = .error (.undefinedRowType "lost" "s") := by with_unfolding_all rfl
  refine ⟨Grammar.orders_agreeFrom, horders, ?_⟩
  rw [← (reports_eq_of_agreeFrom Grammar.orders_agreeFrom "s").2]
  exact horders

end SheetGrammar
