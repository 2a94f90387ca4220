import SheetGrammar.Config.Entry
import SheetGrammar.DerivePlan

/-!
# Derive configurations

A derive configuration lists rules and says which of them run on each sheet.
Building it checks everything that does not depend on the sheets.

## Main definitions

* `ExpressionEntry` — the kind and the parameters of an evaluator, in either of two
  spellings.
* `RuleEntry`, `DeriveSheetEntry`, `DeriveConfig` — configurations as they are written.
* `DeriveConfig.ofText` — reading one.
* `DeriveConfig.build` — the plan that it means.
-/

namespace SheetGrammar

open Structured (Reading readText readList)

/-! ### Expressions -/

/-- The evaluator of a rule: its kind and its parameters. -/
structure ExpressionEntry where
  kind : String
  params : Parameters
  deriving Repr

namespace ExpressionEntry

/-- Parameters out of the entries of a mapping. -/
def paramsOf? : List (Yaml × Yaml) → Option Parameters
  | [] => some []
  | (.string name, value) :: entries => (paramsOf? entries).map ((name, value) :: ·)
  | _ :: _ => none

/-- An expression out of named values: either one of them is the kind and the others
are parameters, or there is one name, the kind, with a mapping of parameters. -/
def ofEntries (entries : List (String × Yaml)) : Reading ExpressionEntry :=
  match entries.lookup "kind", entries with
  | some kind, _ =>
    match kind.text? with
    | some kind => .ok ⟨kind, entries.filter fun e => e.1 ≠ "kind"⟩
    | none => .error .kindNotString
  | none, [(kind, .mapping nested)] =>
    match paramsOf? nested with
    | some params => .ok ⟨kind, Yaml.sortNamed params⟩
    | none => .error .parameterNotString
  | none, _ => .error .unclearExpression

/-- Reads an expression. -/
def read (depth : Nat) (n : Yaml.Node) : Reading ExpressionEntry :=
  match Yaml.readEntries depth n with
  | .error e => .error e
  | .ok entries => ofEntries entries

end ExpressionEntry

/-! ### Entries -/

/-- Columns meant by an address or a tag. -/
structure ColumnEntry where
  col : String
  tag : String
  deriving DecidableEq, Repr

namespace ColumnEntry

/-- Reads an address and a tag. -/
def read : Yaml.Node → Reading ColumnEntry :=
  Entry.read
    [Entry.slot "col" [] readText fun c col => { c with col := col },
     Entry.slot "tag" [] readText fun c tag => { c with tag := tag }]
    [] ⟨"", ""⟩

/-- Whether neither address nor tag is given. -/
def isEmpty (c : ColumnEntry) : Bool := c.col = "" && c.tag = ""

end ColumnEntry

/-- A guard of a rule. -/
structure GuardEntry where
  source : ColumnEntry
  pattern : String
  deriving DecidableEq, Repr

/-- Reads a guard. -/
def GuardEntry.read : Yaml.Node → Reading GuardEntry :=
  Entry.read
    [Entry.slot "col" [] readText fun g col => { g with source := { g.source with col := col } },
     Entry.slot "tag" [] readText fun g tag => { g with source := { g.source with tag := tag } },
     Entry.slot "pattern" [] readText fun g pattern => { g with pattern := pattern }]
    [] ⟨⟨"", ""⟩, ""⟩

/-- A rule. -/
structure RuleEntry where
  name : String
  rowType : Option String
  guards : List GuardEntry
  sources : List ColumnEntry
  output : ColumnEntry
  expression : Option ExpressionEntry
  deriving Repr

/-- Reads a rule. -/
def RuleEntry.read (depth : Nat) : Yaml.Node → Reading RuleEntry :=
  Entry.read
    [Entry.slot "name" ["rule-name", "rule_name"] readText fun r name => { r with name := name },
     Entry.slot "row_type" ["row-type"] (Yaml.Node.readOptional readText)
       fun r rowType => { r with rowType := rowType },
     Entry.slot "when" [] (readList GuardEntry.read) fun r guards => { r with guards := guards },
     Entry.slot "from" ["from-cell", "from_cell"] (readList ColumnEntry.read)
       fun r sources => { r with sources := sources },
     Entry.slot "output" ["new-cell", "new_cell"] ColumnEntry.read
       fun r output => { r with output := output },
     Entry.slot "expression" ["expr"] (Yaml.Node.readOptional (ExpressionEntry.read (depth - 1)))
       fun r expression => { r with expression := expression }]
    ["name", "output"] ⟨"", none, [], [], ⟨"", ""⟩, none⟩

/-- Which rules run on which sheets. -/
structure DeriveSheetEntry where
  conditions : List ConditionEntry
  applyRules : List String
  deriving DecidableEq, Repr

/-- Reads a sheet entry. -/
def DeriveSheetEntry.read : Yaml.Node → Reading DeriveSheetEntry :=
  Entry.read
    [Entry.slot "when" [] (readList ConditionEntry.read)
       fun s conditions => { s with conditions := conditions },
     Entry.slot "apply_rules" ["apply-rules"] Entry.readNames
       fun s names => { s with applyRules := names }]
    ["apply_rules"] ⟨[], []⟩

/-- A derive configuration. -/
structure DeriveConfig where
  sheets : List DeriveSheetEntry
  rules : List RuleEntry
  deriving Repr

namespace DeriveConfig

/-- Reads a configuration. -/
def read (depth : Nat) : Yaml.Node → Reading DeriveConfig :=
  Entry.read
    [Entry.slot "sheets" ["sheet"] (readList DeriveSheetEntry.read)
       fun c sheets => { c with sheets := sheets },
     Entry.slot "rules" ["add-cell", "add_cell"] (readList (RuleEntry.read (depth - 2)))
       fun c rules => { c with rules := rules }]
    [] ⟨[], []⟩

/-- Reads the text of a configuration. -/
def ofText (text : String) : Reading DeriveConfig := Yaml.readText read text

end DeriveConfig

/-! ### Plans -/

namespace RuleEntry

/-- Adds a guard to a rule; it has to mean a column. -/
def addGuard (r : Rule) (g : GuardEntry) : Except Error Rule :=
  if g.source.isEmpty then .error (.configuration (.emptyGuard r.name))
  else r.withGuard g.source.col g.source.tag g.pattern

/-- Adds a source to a rule; it has to mean a column. -/
def addSource (r : Rule) (c : ColumnEntry) : Except Error Rule :=
  if c.isEmpty then .error (.configuration (.emptySource r.name))
  else .ok (r.withSource c.col c.tag)

/-- Sets the output of a rule; it has to have an address or a tag. -/
def setOutput (c : ColumnEntry) (r : Rule) : Except Error Rule :=
  if c.isEmpty then .error (.configuration (.emptyOutput r.name))
  else .ok (r.withOutput c.col c.tag)

/-- Gives a rule its evaluator. -/
def setEvaluator (registry : Registry) (expression : Option ExpressionEntry) (r : Rule) :
    Except Error Rule :=
  match expression with
  | none => .error (.unboundExpression r.name)
  | some e => (registry.bind r.name e.kind e.params).map r.withEvaluator

/-- The rule that is meant. -/
def compile (registry : Registry) (e : RuleEntry) : Except Error Rule :=
  if trim e.name = "" then .error (.configuration .unnamedRule)
  else
    (Rule.ofName (trim e.name) (e.rowType.getD "")).bind fun r =>
    (e.guards.foldlM addGuard r).bind fun r =>
    (e.sources.foldlM addSource r).bind fun r =>
    (setOutput e.output r).bind (setEvaluator registry e.expression)

end RuleEntry

/-- The selector that is meant; the plan has all its rules. -/
def DeriveSheetEntry.compile (p : DerivePlan) (s : DeriveSheetEntry) :
    Except Error (SheetSelector (List String)) :=
  match s.applyRules.find? fun name => (p.rule? name).isNone with
  | some name => .error (.configuration (.undefinedRule name))
  | none =>
    (s.conditions.mapM ConditionEntry.compile).map fun conditions => ⟨conditions, s.applyRules⟩

namespace DeriveConfig

/-- The plan of the rules, which have distinct names. -/
def rulePlan (c : DeriveConfig) (registry : Registry) : Except Error DerivePlan :=
  c.rules.foldlM (fun p e => (e.compile registry).bind p.addRule) .empty

/-- The plan that a configuration means. -/
def build (c : DeriveConfig) (registry : Registry) : Except Error DerivePlan :=
  match c.rulePlan registry with
  | .error e => .error e
  | .ok p => c.sheets.foldlM (fun p s => (s.compile p).map p.addSelector) p

end DeriveConfig

end SheetGrammar
