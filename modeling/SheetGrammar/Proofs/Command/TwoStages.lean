import SheetGrammar.Command.Execution
import SheetGrammar.Proofs.Classifier.Conformance
import SheetGrammar.Proofs.ReadPlan
import SheetGrammar.Proofs.Record.File

/-!
# Reading and deriving at once or one after the other

One command classifies sheets and derives the columns of their document.  Two commands do
the same with a file between them.  What the second of them reads from the JSON file is the
document that was classified, so that both ways deliver the same or fail alike.

## Main definitions

* `Sheet.Sized` — a sheet whose position and rows are counted in 64 bits.
* `Command.delivered` — what is delivered of a document whose columns are derived.

## Main results

* `ReadPlan.portable_of_classifyWorkbook` — JSON keeps what is classified.
* `loadDocument_jsonText` — a document is loaded from the JSON file that it was written to.
* `Command.runSheets_eq_deriveSource` — both ways deliver the same or fail alike.
-/

namespace SheetGrammar

/-! ### Stages -/

namespace Stage

variable {α β : Type}

@[simp] theorem result_bind (s : Stage α) (next : α → Stage β) :
    (s >>= next).result = s.result.bind fun a => (next a).result := by
  change (s.andThen next).result = _
  unfold andThen
  cases s.result with
  | error f => rfl
  | ok a => rfl

@[simp] theorem result_pure (a : α) : (pure a : Stage α).result = .ok a := rfl

end Stage

/-! ### What is classified -/

/-- A sheet whose position and rows are counted in words of 64 bits. -/
structure Sheet.Sized (s : Sheet) : Prop where
  position_lt : s.position < wordSize 64
  rows_lt : s.rows.length < wordSize 64

namespace ReadPlan

variable {p : ReadPlan}

/-- JSON keeps a classified document if it keeps its values and its nesting. -/
theorem portable_of_classifyWorkbook {sheets : List Sheet} {d : Document}
    (h : p.classifyWorkbook sheets = .ok d) (hsized : ∀ s ∈ sheets, s.Sized)
    (hvalues : ∀ t ∈ d.sheets, ∀ r ∈ Record.walkRows t.rows, ∀ c ∈ r.columns, c.value.Portable)
    (hnesting : d.toJson.depth ≤ Json.maxDepth) : d.Portable := by
  refine ⟨?_, hnesting⟩
  intro t ht
  obtain ⟨trees, htrees, rfl⟩ := Except.map_eq_ok_iff.mp h
  obtain ⟨s, hs, htree⟩ := mem_of_classifySheets htrees t ht
  obtain ⟨entry, rows, hrows, rfl⟩ := eq_of_classifySheet htree
  refine ⟨(hsized s hs).position_lt, fun r hr => ⟨?_, hvalues _ ht r hr⟩⟩
  exact Nat.lt_of_le_of_lt (Classifier.index_le_of_classify hrows r hr) (hsized s hs).rows_lt

end ReadPlan

/-! ### Both ways -/

/-- A document is loaded from the JSON file that it was written to. -/
theorem loadDocument_jsonText {i : Inputs} {input : DocumentSource} {d : Document}
    (hd : d.Portable) (hformat : DocumentFormat.resolve (some input.path) input.format = .json)
    (hfile : i.Holds input.path d.jsonText) : (loadDocument i input).result = .ok d := by
  simp only [loadDocument, Stage.ofResult, hformat, hfile.readDocument hd, Except.mapError]

theorem Destination.text_deliver (output : Destination) (d : Document) :
    (output.deliver d).text = d.text (.resolve output.path output.format) := by
  unfold deliver
  split <;> rfl

namespace Command

variable {p : ReadPlan} {q : DerivePlan} {sheets : List Sheet} {d : Document}

/-- What is delivered of a document whose columns are derived. -/
def delivered (q : DerivePlan) (d : Document) (output : Destination) : Except Failure Delivery :=
  ((q.derive d).mapError fun e => ⟨["Applying derivation rules"], .plan e⟩).map output.deliver

theorem result_deriveDocument (q : DerivePlan) (d : Document) (output : Destination) :
    (do let d ← deriveDocument q d; return output.deliver d : Stage Delivery).result
      = delivered q d output := by
  simp only [Stage.result_bind, Stage.result_pure, deriveDocument, delivered]
  cases q.derive d with
  | error e => rfl
  | ok d => rfl

theorem result_runSheets (h : p.classifyWorkbook sheets = .ok d) (output : Destination) :
    (runSheets p q sheets output).result = delivered q d output := by
  rw [runSheets, Stage.result_bind]
  simp only [classifySheets, h, Except.mapError, Except.bind]
  exact result_deriveDocument q d output

theorem result_deriveSource {i : Inputs} {input : DocumentSource}
    (h : (loadDocument i input).result = .ok d) (output : Destination) :
    (deriveSource q i input output).result = delivered q d output := by
  rw [deriveSource, Stage.result_bind, h]
  exact result_deriveDocument q d output

/-- **Reading and deriving at once is the same as one after the other.** If the sheets cannot
be classified, both ways fail with the same error.  Otherwise `d` is their document; if JSON
keeps its values and its nesting, it is what the second command loads from the JSON file that
the first one wrote, and both ways deliver the same for every destination or fail with the
same error. -/
theorem runSheets_eq_deriveSource (p : ReadPlan) (q : DerivePlan) (sheets : List Sheet)
    (hsized : ∀ s ∈ sheets, s.Sized) :
    (∀ e, p.classifyWorkbook sheets = .error e → ∀ output,
      (readSheets p sheets output).result = .error ⟨["Classifying sheet rows"], .plan e⟩ ∧
      (runSheets p q sheets output).result = .error ⟨["Classifying sheet rows"], .plan e⟩) ∧
    ∀ d, p.classifyWorkbook sheets = .ok d →
      (∀ t ∈ d.sheets, ∀ r ∈ Record.walkRows t.rows, ∀ c ∈ r.columns, c.value.Portable) →
      d.toJson.depth ≤ Json.maxDepth →
      ∀ between, DocumentFormat.resolve between.path between.format = .json →
      ∃ w, (readSheets p sheets between).result = .ok w ∧
        ∀ (i : Inputs) (input : DocumentSource),
          DocumentFormat.resolve (some input.path) input.format = .json →
          i.Holds input.path w.text →
          (loadDocument i input).result = .ok d ∧
          ∀ output,
            (deriveSource q i input output).result = delivered q d output ∧
            (runSheets p q sheets output).result = delivered q d output := by
  constructor
  · intro e he output
    have hclassify : (classifySheets p sheets).result
        = .error ⟨["Classifying sheet rows"], .plan e⟩ := by
      simp only [classifySheets, he, Except.mapError]
    constructor
    · rw [readSheets, Stage.result_bind, hclassify]
      rfl
    · rw [runSheets, Stage.result_bind, hclassify]
      rfl
  · intro d hd hvalues hnesting between hbetween
    refine ⟨between.deliver d, ?_, ?_⟩
    · rw [readSheets, Stage.result_bind]
      simp only [classifySheets, hd, Except.mapError, Except.bind, Stage.result_pure]
    · intro i input hformat hfile
      rw [between.text_deliver, hbetween] at hfile
      have hportable := p.portable_of_classifyWorkbook hd hsized hvalues hnesting
      have hload := loadDocument_jsonText hportable hformat hfile
      exact ⟨hload, fun output => ⟨result_deriveSource hload output, result_runSheets hd output⟩⟩

/-! ### An example -/

/-- A plan for sheets whose rows have a name and a price. -/
def prices : ReadPlan where
  selectors := [⟨[], "price"⟩]
  grammar := ⟨[⟨"price", [], [⟨⟨"A", 0⟩, "item", .string⟩, ⟨⟨"B", 1⟩, "price", .float⟩], []⟩]⟩
  unmatched := .skip

/-- A plan that writes the price into one more column. -/
def copyPrices : DerivePlan where
  selectors := [⟨[], ["copy"]⟩]
  rules := (Rule.ofName "copy" "").toOption.toList.map fun r =>
    ((r.withSource "" "price").withOutput "C" "").withEvaluator fun values =>
      .ok (values.headD (.string ""))

/-- A sheet with one row, which has a price. -/
def priced (price : String) : Sheet := ⟨"s", 0, [["tea", price]]⟩

theorem sized_priced (price : String) : ∀ s ∈ [priced price], s.Sized := by
  intro s hs
  obtain rfl := List.mem_singleton.mp hs
  have hone : 1 < wordSize 64 := by decide
  exact ⟨hone, hone⟩

/-- A price that cannot be read, and one whose document goes through a standard stream. -/
theorem runSheets_eq_deriveSource_prices :
    (∀ output, (readSheets prices [priced "?"] output).result
        = .error ⟨["Classifying sheet rows"], .plan (.extraction "price" "B" "?" "float" "s")⟩ ∧
      (runSheets prices copyPrices [priced "?"] output).result
        = .error ⟨["Classifying sheet rows"], .plan (.extraction "price" "B" "?" "float" "s")⟩) ∧
    ∃ w, (readSheets prices [priced "0.19"] ⟨none, none⟩).result = .ok w ∧
      ∀ output,
        (deriveSource copyPrices ⟨fun _ => .missing, w.text.toUTF8.data.toList⟩ ⟨"-", none⟩
            output).result
          = (runSheets prices copyPrices [priced "0.19"] output).result := by
  have hvalues : ∀ c ∈ ([⟨"A", "item", .string "tea"⟩, ⟨"B", "price", .float 0.19⟩] :
      List Column), c.value.Portable := by
    intro c hc
    rcases List.mem_pair.mp hc with rfl | rfl
    · trivial
    · show Json.ReadsBack 0.19
      decide +kernel
  constructor
  · refine (runSheets_eq_deriveSource prices copyPrices _ (sized_priced "?")).1 _ ?_
    with_unfolding_all rfl
  · obtain ⟨w, hw, h⟩ := (runSheets_eq_deriveSource prices copyPrices _ (sized_priced "0.19")).2
      ⟨[⟨"s", 1, [⟨"price", 1, [⟨"A", "item", .string "tea"⟩, ⟨"B", "price", .float 0.19⟩],
        []⟩]⟩]⟩ (by with_unfolding_all rfl)
      (by simpa [Record.walkRows, Record.walk, Record.walkGroups] using hvalues)
      (by decide) ⟨none, none⟩ rfl
    refine ⟨w, hw, fun output => ?_⟩
    obtain ⟨-, hboth⟩ := h ⟨fun _ => .missing, w.text.toUTF8.data.toList⟩ ⟨"-", none⟩ (by decide)
      rfl
    exact (hboth output).1.trans (hboth output).2.symm

end Command

end SheetGrammar
