import SheetGrammar.Proofs.Command.TwoStages
import Mathlib.Logic.Function.Basic

/-!
# The steps of a command

A command is a list of steps that are taken one after the other: its configurations, the
encoding, its inputs in the order they are given, classification, derivation.  Each step
looks at one file at most.  The output is written when all of them have succeeded, so that a
command that fails leaves every file alone, and a file may be read and written by the same
command.  What the encodings are is left to a table: all of this holds for any decoders.

## Main definitions

* `Step`, `Progress`, `Progress.next` — what is to be done, what has been done, one more step.
* `Command.steps`, `Command.work` — the steps of a command and the document they come to.
* `Inputs.AgreeOn` — inputs in which some paths lead to the same.
* `Outcome.filesAfter` — the files when a command has run.

## Main results

* `Command.result_eq_map_work` — what a command makes of its inputs is the work of its steps.
* `Progress.Alike.next`, `Progress.Alike.foldlM` — a step, and a list of steps, only depend on
  the files that they look at.
* `Command.execute_steps` — what a command does to the files, and what its failure depends on.
-/

namespace SheetGrammar

/-! ### Steps -/

/-- A step of a command. -/
inductive Step
  | grammar (path : String)
  | rules (path : String)
  | encoding (label : Option String)
  /-- Standard input is among the sheets once at most. -/
  | stdinOnce (paths : List String)
  | sheet (delimiter : Option UInt8) (path : String)
  | document (input : DocumentSource)
  | classification
  | derivation

/-- The file that a step looks at. -/
def Step.path? : Step → Option String
  | grammar path | rules path | sheet _ path => some path
  | document input => some input.path
  | encoding _ | stdinOnce _ | classification | derivation => none

/-- Standard input is read as one sheet at most. -/
def Workbook.checkStdin (paths : List String) : Except Failure Unit :=
  if 1 < dashCount paths then .error (.ofCause (.repeatedStdin (dashCount paths))) else .ok ()

/-- What the steps of a command have come to. -/
structure Progress where
  inputs : Inputs
  readPlan : ReadPlan
  derivePlan : DerivePlan
  encoding : Encoding
  sheets : List Sheet
  document : Document

namespace Progress

/-- Nothing has been done yet. -/
def start (i : Inputs) : Progress := ⟨i, ⟨[], ⟨[]⟩, .skip⟩, .empty, .utf8, [], ⟨[]⟩⟩

/-- One more step, with a table of encodings. A sheet is numbered by the sheets before it. -/
def next (table : List Encoding) (x : Progress) : Step → Except Failure Progress
  | .grammar path =>
    (loadReadPlan x.inputs path).result.map fun p =>
      { x with inputs := x.inputs.after path, readPlan := p }
  | .rules path =>
    (loadDerivePlan x.inputs path).result.map fun q =>
      { x with inputs := x.inputs.after path, derivePlan := q }
  | .encoding label => (Workbook.encodingOf table label).map fun e => { x with encoding := e }
  | .stdinOnce paths => (Workbook.checkStdin paths).map fun () => x
  | .sheet delimiter path =>
    (Workbook.readSheet x.inputs delimiter x.encoding x.sheets.length path).map fun s =>
      { x with sheets := x.sheets ++ [s] }
  | .document input => (loadDocument x.inputs input).result.map fun d => { x with document := d }
  | .classification =>
    (classifySheets x.readPlan x.sheets).result.map fun d => { x with document := d }
  | .derivation =>
    (deriveDocument x.derivePlan x.document).result.map fun d => { x with document := d }

end Progress

/-- The steps that read sheets. -/
def SheetSource.steps (s : SheetSource) : List Step :=
  .encoding s.encoding :: .stdinOnce s.paths :: s.paths.map (.sheet s.delimiter)

namespace Command

/-- The steps of a command. -/
def steps : Command → List Step
  | read sheets grammar _ => .grammar grammar :: (sheets.steps ++ [.classification])
  | derive input rules _ => [.rules rules, .document input, .derivation]
  | run sheets grammar rules _ =>
    .grammar grammar :: .rules rules :: (sheets.steps ++ [.classification, .derivation])
  | preview input _ => [.document input]

/-- The document that the steps of a command come to, with a table of encodings. -/
def work (table : List Encoding) (c : Command) (i : Inputs) : Except Failure Document :=
  (c.steps.foldlM (Progress.next table) (.start i)).map Progress.document

/-- Where a command writes its document; a preview writes none. -/
def destination? : Command → Option Destination
  | read _ _ output | derive _ _ output | run _ _ _ output => some output
  | preview _ _ => none

/-- What a command delivers of its document. -/
def deliver : Command → Document → Delivery
  | read _ _ output, d | derive _ _ output, d | run _ _ _ output, d => output.deliver d
  | preview input maxDepth, d =>
    let shown := quotedPath input.path
    ⟨none, d.preview maxDepth, s!"Displayed {d.sheets.length} sheet(s) from {shown}"⟩

end Command

/-! ### The work of the steps -/

variable {table : List Encoding}

theorem result_loadSheets (i : Inputs) (s : SheetSource) :
    (loadSheets table i s).result = (Workbook.encodingOf table s.encoding).bind fun e =>
      Workbook.read i s.paths s.delimiter e := by
  unfold loadSheets
  rw [Stage.result_bind]
  congr 1
  funext e
  cases s.delimiter with
  | none => rfl
  | some d => rfl

namespace Progress

/-- Sheets that are read one after the other are the sheets of their paths. -/
theorem foldlM_sheet (delimiter : Option UInt8) (paths : List String) (x : Progress) :
    (paths.map (Step.sheet delimiter)).foldlM (next table) x
      = (Workbook.readSheets x.inputs delimiter x.encoding x.sheets.length paths).map fun ss =>
          { x with sheets := x.sheets ++ ss } := by
  induction paths generalizing x with
  | nil =>
    rw [Workbook.readSheets, Except.map, List.append_nil]
    rfl
  | cons path paths ih =>
    rw [List.map_cons, List.foldlM_cons, Workbook.readSheets, next]
    cases Workbook.readSheet x.inputs delimiter x.encoding x.sheets.length path with
    | error f => rfl
    | ok s =>
      change (paths.map (Step.sheet delimiter)).foldlM (next table)
        { x with sheets := x.sheets ++ [s] } = _
      rw [ih]
      simp only [List.length_append, List.length_singleton]
      cases Workbook.readSheets x.inputs delimiter x.encoding (x.sheets.length + 1) paths with
      | error f => rfl
      | ok ss => simp only [Except.map, List.append_assoc, List.singleton_append]

theorem foldlM_steps (s : SheetSource) {x : Progress} (h : x.sheets = []) :
    s.steps.foldlM (next table) x = (Workbook.encodingOf table s.encoding).bind fun e =>
      (Workbook.read x.inputs s.paths s.delimiter e).map fun ss =>
        { x with encoding := e, sheets := ss } := by
  unfold SheetSource.steps
  rw [List.foldlM_cons, next]
  cases Workbook.encodingOf table s.encoding with
  | error f => rfl
  | ok e =>
    change List.foldlM (next table) { x with encoding := e } (_ :: _) = Except.map _ _
    rw [List.foldlM_cons, next, Workbook.checkStdin, Workbook.read]
    split
    · rfl
    · change List.foldlM (next table) { x with encoding := e } _ = _
      rw [foldlM_sheet]
      simp only [h, List.length_nil, List.nil_append]

end Progress

namespace Command

/-- **What a command makes of its inputs is the work of its steps**, which is then delivered. -/
theorem result_eq_map_work (c : Command) (i : Inputs) :
    (c.result table i).result = (c.work table i).map c.deliver := by
  -- both sides become one `bind` inside the other, which fail in the same places
  unfold work
  cases c with
  | read sheets grammar output =>
    simp only [result, readSheets, steps, Stage.result_bind, result_loadSheets, List.foldlM_cons,
      List.foldlM_append, Except.bind_eq, Progress.next, Progress.start, Progress.foldlM_steps,
      Except.map_bind, Except.bind_map, Except.bind_bind]
    rfl
  | derive input rules output =>
    simp only [result, deriveSource, steps, Stage.result_bind, List.foldlM_cons, Except.bind_eq,
      Progress.next, Progress.start, Except.map_bind, Except.bind_map]
    rfl
  | run sheets grammar rules output =>
    simp only [result, runSheets, steps, Stage.result_bind, result_loadSheets, List.foldlM_cons,
      List.foldlM_append, Except.bind_eq, Progress.next, Progress.start, Progress.foldlM_steps,
      Except.map_bind, Except.bind_map, Except.bind_bind]
    rfl
  | preview input maxDepth =>
    simp only [result, steps, Stage.result_bind, List.foldlM_cons, Except.bind_eq, Progress.next,
      Progress.start, Except.map_bind, Except.bind_map]
    rfl

end Command

/-! ### What the steps depend on -/

namespace Inputs

/-- Inputs in which some paths lead to the same. -/
def AgreeOn (paths : List String) (i i' : Inputs) : Prop := ∀ p ∈ paths, i'.open? p = i.open? p

variable {i i' : Inputs} {path : String}

theorem readText_congr (h : i'.open? path = i.open? path) : i'.readText path = i.readText path := by
  unfold readText
  rw [h]

theorem open?_after (i : Inputs) (path p : String) :
    (i.after path).open? p
      = if Path.isDash path && Path.isDash p then .ok (.file []) else i.open? p := by
  unfold after open?
  cases Path.isDash path <;> cases Path.isDash p <;> rfl

/-- What is left of inputs that agree agrees. -/
theorem AgreeOn.after {paths : List String} (h : AgreeOn paths i i') (path : String) :
    AgreeOn paths (i.after path) (i'.after path) := by
  intro p hp
  rw [open?_after, open?_after, h p hp]

end Inputs

variable {i i' : Inputs} {path : String}

theorem result_loadReadPlan_congr (h : i'.open? path = i.open? path) :
    (loadReadPlan i' path).result = (loadReadPlan i path).result := by
  simp only [loadReadPlan, Stage.result_bind, Stage.ofResult, buildFrom, Inputs.readText_congr h]

theorem result_loadDerivePlan_congr (h : i'.open? path = i.open? path) :
    (loadDerivePlan i' path).result = (loadDerivePlan i path).result := by
  simp only [loadDerivePlan, Stage.result_bind, Stage.ofResult, buildFrom, Inputs.readText_congr h]

theorem Workbook.readSheet_congr (h : i'.open? path = i.open? path) (delimiter : Option UInt8)
    (e : Encoding) (index : Nat) :
    readSheet i' delimiter e index path = readSheet i delimiter e index path := by
  simp only [readSheet, Inputs.readRows, h]

theorem result_loadDocument_congr {input : DocumentSource}
    (h : i'.open? input.path = i.open? input.path) :
    (loadDocument i' input).result = (loadDocument i input).result := by
  simp only [loadDocument, Stage.ofResult, Inputs.readDocument, Inputs.readText_congr h]

namespace Progress

/-- Progress that only differs in the inputs, which agree on some paths. -/
structure Alike (paths : List String) (x x' : Progress) : Prop where
  inputs : Inputs.AgreeOn paths x.inputs x'.inputs
  rest : x' = { x with inputs := x'.inputs }

variable {paths : List String} {x x' : Progress}

/-- Two steps that go on with the same result fail alike. -/
theorem Alike.of_map {α : Type} {u u' : α → Progress} (h : ∀ a, Alike paths (u a) (u' a))
    (r : Except Failure α) :
    (∀ f, r.map u = .error f → r.map u' = .error f) ∧
      ∀ y, r.map u = .ok y → ∃ y', r.map u' = .ok y' ∧ Alike paths y y' := by
  cases r with
  | error f =>
    constructor
    · intro f' hf
      exact hf
    · intro y hy
      cases hy
  | ok a =>
    constructor
    · intro f hf
      cases hf
    · intro y hy
      obtain rfl := Except.ok.inj hy
      exact ⟨u' a, rfl, h a⟩

/-- **A step only depends on the file that it looks at.** -/
theorem Alike.next {s : Step} (h : Alike paths x x') (hs : ∀ p ∈ s.path?, p ∈ paths) :
    (∀ f, x.next table s = .error f → x'.next table s = .error f) ∧
      ∀ y, x.next table s = .ok y → ∃ y', x'.next table s = .ok y' ∧ Alike paths y y' := by
  obtain ⟨hinputs, hrest⟩ := h
  obtain ⟨i', rfl⟩ : ∃ i', x' = { x with inputs := i' } := ⟨_, hrest⟩
  have hopen : ∀ p ∈ s.path?, i'.open? p = x.inputs.open? p := fun p hp => hinputs p (hs p hp)
  cases s with
  | grammar path =>
    simp only [Progress.next, result_loadReadPlan_congr (hopen path rfl)]
    refine Alike.of_map (fun p => ?_) _
    exact ⟨hinputs.after path, rfl⟩
  | rules path =>
    simp only [Progress.next, result_loadDerivePlan_congr (hopen path rfl)]
    refine Alike.of_map (fun q => ?_) _
    exact ⟨hinputs.after path, rfl⟩
  | encoding label =>
    simp only [Progress.next]
    refine Alike.of_map (fun e => ?_) _
    exact ⟨hinputs, rfl⟩
  | stdinOnce _ =>
    simp only [Progress.next]
    refine Alike.of_map (fun _ => ?_) _
    exact ⟨hinputs, rfl⟩
  | sheet delimiter path =>
    simp only [Progress.next, Workbook.readSheet_congr (hopen path rfl)]
    refine Alike.of_map (fun s => ?_) _
    exact ⟨hinputs, rfl⟩
  | document input =>
    simp only [Progress.next, result_loadDocument_congr (hopen input.path rfl)]
    refine Alike.of_map (fun d => ?_) _
    exact ⟨hinputs, rfl⟩
  | classification =>
    simp only [Progress.next]
    refine Alike.of_map (fun d => ?_) _
    exact ⟨hinputs, rfl⟩
  | derivation =>
    simp only [Progress.next]
    refine Alike.of_map (fun d => ?_) _
    exact ⟨hinputs, rfl⟩

/-- Steps that succeed do so whatever the files that they do not look at are. -/
theorem Alike.foldlM {ss : List Step} {y : Progress} (h : Alike paths x x')
    (hs : ∀ s ∈ ss, ∀ p ∈ s.path?, p ∈ paths)
    (hy : ss.foldlM (Progress.next table) x = .ok y) :
    ∃ y', ss.foldlM (Progress.next table) x' = .ok y' ∧ Alike paths y y' := by
  induction ss generalizing x x' with
  | nil =>
    obtain rfl := Except.ok.inj hy
    exact ⟨x', rfl, h⟩
  | cons s ss ih =>
    obtain ⟨hfirst, hothers⟩ := List.forall_mem_cons.mp hs
    obtain ⟨z, hz, hrest⟩ := List.foldlM_cons_eq_ok_iff.mp hy
    obtain ⟨z', hz', halike⟩ := (h.next hfirst).2 z hz
    obtain ⟨y', hy', hlast⟩ := ih halike hothers hrest
    exact ⟨y', List.foldlM_cons_eq_ok_iff.mpr ⟨z', hz', hy'⟩, hlast⟩

theorem alike_start {i i' : Inputs} (h : Inputs.AgreeOn paths i i') :
    Alike paths (start i) (start i') := ⟨h, rfl⟩

end Progress

namespace Command

variable {c : Command} {i i' : Inputs}

/-- The files that some steps look at. -/
def pathsOf (ss : List Step) : List String := ss.filterMap Step.path?

/-- The steps up to the one that fails decide about the failure. -/
theorem work_eq_error_of_agreeOn {before after : List Step} {s : Step} {x : Progress} {f : Failure}
    (hsteps : c.steps = before ++ s :: after)
    (hbefore : before.foldlM (Progress.next table) (.start i) = .ok x)
    (hs : x.next table s = .error f) (h : Inputs.AgreeOn (pathsOf (before ++ [s])) i i') :
    c.work table i' = .error f := by
  have hpaths : ∀ t ∈ before ++ [s], ∀ p ∈ t.path?, p ∈ pathsOf (before ++ [s]) :=
    fun t ht p hp => List.mem_filterMap.mpr ⟨t, ht, hp⟩
  obtain ⟨x', hx', halike⟩ := (Progress.alike_start h).foldlM
    (fun t ht => hpaths t (List.mem_append_left _ ht)) hbefore
  have hfails : x'.next table s = .error f := (halike.next (hpaths s (by simp))).1 f hs
  rw [work, List.foldlM_eq_error_iff.mpr ⟨before, s, after, x', hsteps, hx', hfails⟩]
  rfl

end Command

/-! ### What becomes of the files -/

/-- The files when a command has run. -/
def Outcome.filesAfter (o : Outcome) (files : String → Content) : String → Content :=
  match o.written with
  | none => files
  | some (path, text) => Function.update files path (.file text.toUTF8.data.toList)

/-- A command has failed: nothing is on standard output, and all files are as they were. -/
structure Outcome.Failed (o : Outcome) (f : Failure) (files : String → Content) : Prop where
  failure : o.failure = some f
  exitCode : o.exitCode = 1
  stdout : o.stdout = ""
  files : o.filesAfter files = files

/-- The file that a destination means; standard output if there is none. -/
def Destination.file? (o : Destination) : Option String := o.path.filter fun p => !Path.isDash p

theorem Destination.path_deliver (o : Destination) (d : Document) :
    (o.deliver d).path = o.file? := by
  unfold deliver file?
  cases o.path.filter fun p => !Path.isDash p with
  | none => rfl
  | some p => rfl

namespace Command

variable {c : Command} {i : Inputs} {canCreate : String → Bool}

theorem execute_of_error {f : Failure} (h : c.work table i = .error f) :
    (c.execute table i canCreate).Failed f i.content := by
  have hresult : (c.result table i).result = .error f := by
    rw [result_eq_map_work, h]
    rfl
  have hexecute : c.execute table i canCreate = ⟨"", none, some f, (c.result table i).log⟩ := by
    simp only [execute, hresult]
  rw [hexecute]
  exact ⟨rfl, rfl, rfl, rfl⟩

theorem execute_of_ok {d : Document} (h : c.work table i = .ok d) :
    c.execute table i canCreate = (c.deliver d).write canCreate (c.result table i).log := by
  have hresult : (c.result table i).result = .ok (c.deliver d) := by
    rw [result_eq_map_work, h]
    rfl
  simp only [execute, hresult]

theorem deliver_eq {o : Destination} (h : c.destination? = some o) (d : Document) :
    c.deliver d = o.deliver d := by
  cases c with
  | read sheets grammar output =>
    obtain rfl := Option.some.inj h
    rfl
  | derive input rules output =>
    obtain rfl := Option.some.inj h
    rfl
  | run sheets grammar rules output =>
    obtain rfl := Option.some.inj h
    rfl
  | preview input maxDepth => cases h

/-- **A command that fails leaves every file as it was, and the first step that fails decides
about the failure.** Neither the files that later steps would look at nor the output have a
say in it.  If all steps of a command succeed, the output holds the text of their document,
whatever was there before: also if the command has read it.  A file that cannot be created is
a failure like any other.  This holds for every table of encodings, whatever its decoders make
of the bytes of a sheet. -/
theorem execute_steps (table : List Encoding) (c : Command) (i : Inputs)
    (canCreate : String → Bool) :
    (∀ f, c.work table i = .error f →
      (c.execute table i canCreate).Failed f i.content ∧
      ∃ before s after x, c.steps = before ++ s :: after ∧
        before.foldlM (Progress.next table) (.start i) = .ok x ∧ x.next table s = .error f ∧
        ∀ i' canCreate', Inputs.AgreeOn (pathsOf (before ++ [s])) i i' →
          (c.execute table i' canCreate').Failed f i'.content) ∧
    ∀ d o, c.work table i = .ok d → c.destination? = some o →
      (o.file? = none →
        (c.execute table i canCreate).exitCode = 0 ∧
        (c.execute table i canCreate).stdout = d.text (.resolve o.path o.format) ∧
        (c.execute table i canCreate).filesAfter i.content = i.content) ∧
      ∀ p, o.file? = some p →
        (canCreate p = true →
          (c.execute table i canCreate).exitCode = 0 ∧
          (c.execute table i canCreate).stdout = "" ∧
          (c.execute table i canCreate).filesAfter i.content
            = Function.update i.content p
                (.file (d.text (.resolve o.path o.format)).toUTF8.data.toList)) ∧
        (canCreate p = false →
          (c.execute table i canCreate).Failed
            ⟨[s!"Creating output file {quotedPath p}"], .system⟩ i.content) := by
  constructor
  · intro f hf
    refine ⟨execute_of_error hf, ?_⟩
    obtain ⟨before, s, after, x, hsteps, hbefore, hs⟩ :=
      List.foldlM_eq_error_iff.mp (Except.map_eq_error_iff.mp hf)
    refine ⟨before, s, after, x, hsteps, hbefore, hs, fun i' canCreate' hagree => ?_⟩
    exact execute_of_error (work_eq_error_of_agreeOn hsteps hbefore hs hagree)
  · intro d o hd ho
    have hpath := o.path_deliver d
    have htext := o.text_deliver d
    rw [execute_of_ok hd, deliver_eq ho, Delivery.write, hpath, htext]
    constructor
    · intro hfile
      rw [hfile]
      exact ⟨rfl, rfl, rfl⟩
    · intro p hfile
      rw [hfile]
      constructor
      · intro hcan
        simp only [hcan, if_true]
        exact ⟨rfl, trivial, rfl⟩
      · intro hcan
        simp only [hcan, Bool.false_eq_true, if_false]
        exact ⟨rfl, rfl, rfl, rfl⟩

/-! ### An example -/

/-- A document with one record. -/
def tea : Document := ⟨[⟨"s", 1, [⟨"item", 1, [⟨"A", "name", .string "tea"⟩], []⟩]⟩]⟩

/-- A file with the JSON text of `tea`, and rules that leave documents as they are. -/
def teaInputs : Inputs where
  content
    | "tree" => .file tea.jsonText.toUTF8.data.toList
    | "rules.yml" => .file "{}".toUTF8.data.toList
    | _ => .missing
  stdin := []

theorem portable_tea : tea.Portable := by
  refine ⟨?_, by decide⟩
  have hone : 1 < wordSize 64 := by decide
  intro s hs
  obtain rfl := List.mem_singleton.mp hs
  refine ⟨hone, ?_⟩
  intro r hr
  obtain rfl := List.mem_singleton.mp hr
  refine ⟨hone, fun c hc => ?_⟩
  obtain rfl := List.mem_singleton.mp hc
  trivial

theorem work_derive {i : Inputs} {rules : String} {input : DocumentSource} {q : DerivePlan}
    {d : Document} (hplan : (loadDerivePlan i rules).result = .ok q)
    (hload : (loadDocument (i.after rules) input).result = .ok d) (output : Destination) :
    (derive input rules output).work table i = (deriveDocument q d).result := by
  simp only [work, steps, List.foldlM_cons, Except.bind_eq, Progress.next, Progress.start, hplan,
    hload, Except.map, Except.bind]
  cases (deriveDocument q d).result with
  | error f => rfl
  | ok d => rfl

theorem result_loadDerivePlan_teaInputs :
    (loadDerivePlan teaInputs "rules.yml").result = .ok .empty := by
  have hread : teaInputs.readText "rules.yml" = .ok "{}" :=
    (Inputs.holds_of_content (by decide) rfl).readText
  simp only [loadDerivePlan, Stage.result_bind, Stage.ofResult, buildFrom, hread]
  with_unfolding_all rfl

/-- A command whose rules are missing leaves a file alone; one that reads and writes this file
puts the document into it in the other format. -/
theorem execute_steps_tea :
    ((derive ⟨"tree", none⟩ "rules" ⟨some "tree", none⟩).execute Encoding.all teaInputs
        fun _ => true).Failed ⟨["Opening input file \"rules\""], .system⟩ teaInputs.content ∧
    ((derive ⟨"tree", none⟩ "rules.yml" ⟨some "tree", some .yaml⟩).execute Encoding.all teaInputs
        fun _ => true).filesAfter teaInputs.content
      = Function.update teaInputs.content "tree" (.file (tea.text .yaml).toUTF8.data.toList) := by
  constructor
  · have hquoted : quotedPath "rules" = "\"rules\"" := by decide +kernel
    obtain ⟨hfailed, -⟩ := (execute_steps Encoding.all
      (derive ⟨"tree", none⟩ "rules" ⟨some "tree", none⟩) teaInputs fun _ => true).1
        ⟨["Opening input file " ++ quotedPath "rules"], .system⟩ rfl
    rwa [hquoted] at hfailed
  · have hload : (loadDocument teaInputs ⟨"tree", none⟩).result = .ok tea :=
      loadDocument_jsonText portable_tea (by decide) (Inputs.holds_of_content (by decide) rfl)
    have hwork : (derive ⟨"tree", none⟩ "rules.yml" ⟨some "tree", some .yaml⟩).work Encoding.all
        teaInputs = .ok tea := work_derive result_loadDerivePlan_teaInputs hload _
    obtain ⟨-, hfile⟩ := (execute_steps Encoding.all _ teaInputs fun _ => true).2 tea _ hwork rfl
    obtain ⟨-, -, h⟩ := (hfile "tree" (by decide)).1 rfl
    have hformat : DocumentFormat.resolve (some "tree") (some .yaml) = .yaml := rfl
    exact h.trans (congrArg (fun format => Function.update teaInputs.content "tree"
      (.file (tea.text format).toUTF8.data.toList)) hformat)

end Command

end SheetGrammar
