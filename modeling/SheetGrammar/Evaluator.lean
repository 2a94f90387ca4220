import SheetGrammar.Error
import SheetGrammar.Pattern
import SheetGrammar.Record.Value
import SheetGrammar.Text.Quoted
import SheetGrammar.Yaml.Basic

/-!
# Evaluators

An evaluator makes one value out of the values that a rule found.  Evaluators come
in kinds; a registry knows how the evaluators of each kind are made from their
parameters.

## Main definitions

* `Evaluator`, `Parameters`, `EvaluatorFactory` — evaluators and how they are made.
* `PatternExtract` — the kind that cuts a piece out of a text.
* `Registry`, `Registry.bind` — the kinds that rules may use.
* `SharedRegistry` — the registry that all plans of a process share.
-/

namespace SheetGrammar

/-- Makes one value out of some values. -/
abbrev Evaluator := List Value → Except EvalError Value

/-- The parameters of an expression by name, in the order of their names. -/
abbrev Parameters := List (String × Yaml)

/-- Makes the evaluator of a rule from its parameters. -/
abbrev EvaluatorFactory := (rule : String) → Parameters → Except Error Evaluator

/-! ### Cutting a piece out of a text -/

/-- What a group of a pattern captures is the new value. -/
structure PatternExtract where
  pattern : Pattern
  group : Nat
  deriving Repr

namespace PatternExtract

/-- The name of this kind. -/
def kind : String := "pattern-extract"

/-- Reads the pattern of an evaluator; `site` says where it stands. -/
def ofText (text : String) (group : Nat) (site : PatternSite) : Except Error PatternExtract :=
  match Pattern.parse? text with
  | some p => .ok ⟨p, group⟩
  | none => .error (.invalidPattern text site)

/-- Cuts a piece out of a text. Only the first match counts; without a match, or
when the group took no part in it, the piece is empty. -/
def extract (e : PatternExtract) (text : String) : Except EvalError Value :=
  match e.pattern.captures? text with
  | none => .ok (.string "")
  | some captures =>
    if e.group = 0 ∨ e.pattern.groups < e.group then
      .error (.invalidGroup kind e.group e.pattern.groups)
    else .ok (.string ((captures.getD e.group none).getD ""))

/-- The evaluator: the first value has to be a string, further ones do not count. -/
def eval (e : PatternExtract) : Evaluator
  | [] => .error (.missingArgument kind)
  | v :: _ =>
    match v.text? with
    | none => .error (.notAString kind v.typeName)
    | some text => e.extract text

/-- The names of the parameters. -/
def parameterNames : List String := ["pattern", "group"]

/-- The text of the pattern that the parameters give: by default, the one whose
first group captures the whole line. -/
def patternText (rule : String) (ps : Parameters) : Except Error String :=
  match ps.lookup "pattern" with
  | none => .ok "(.*)"
  | some value =>
    match value.text? with
    | some text => .ok text
    | none => .error (.configuration (.patternNotString rule kind))

/-- The group that the parameters give: by default, the first. -/
def groupNumber (rule : String) (ps : Parameters) : Except Error Nat :=
  match ps.lookup "group" with
  | none => .ok 1
  | some value =>
    match value.natural? with
    | some group => .ok group
    | none => .error (.configuration (.groupNotNatural rule kind))

/-- Makes an evaluator of this kind. -/
def ofParameters (rule : String) (ps : Parameters) : Except Error PatternExtract :=
  match ps.find? fun p => !parameterNames.contains p.1 with
  | some (name, _) => .error (.configuration (.unknownParameter rule kind name))
  | none =>
    match patternText rule ps with
    | .error e => .error e
    | .ok text =>
      match groupNumber rule ps with
      | .error e => .error e
      | .ok group => ofText text group (.expressionOf rule)

end PatternExtract

/-! ### The registry -/

/-- The kinds of evaluators by name; no name occurs twice. -/
structure Registry where
  factories : List (String × EvaluatorFactory)

namespace Registry

/-- A registry without kinds. -/
def empty : Registry := ⟨[]⟩

/-- Adds a kind, in the place of an earlier one of that name. -/
def register (r : Registry) (kind : String) (factory : EvaluatorFactory) : Registry :=
  ⟨(kind, factory) :: r.factories.filter fun f => f.1 ≠ kind⟩

/-- The registry with the kinds of this library. -/
def builtins : Registry :=
  empty.register PatternExtract.kind fun rule ps =>
    (PatternExtract.ofParameters rule ps).map PatternExtract.eval

/-- The names of the kinds in order. -/
def kinds (r : Registry) : List String :=
  (r.factories.map Prod.fst).mergeSort fun a b => a ≤ b

/-- How a registry is shown. -/
def display (r : Registry) : String :=
  "EvaluatorRegistry \x7b kinds: [" ++ ", ".intercalate (r.kinds.map quoted) ++ "] \x7d"

/-- Makes the evaluator of a rule. -/
def bind (r : Registry) (rule kind : String) (ps : Parameters) : Except Error Evaluator :=
  match r.factories.lookup kind with
  | some factory => factory rule ps
  | none => .error (.unknownExpression kind rule)

end Registry

/-! ### The shared registry -/

/-- The registry that all plans of a process share; it is fixed by its first use or
by being installed, whichever comes first. -/
structure SharedRegistry where
  fixed : Option Registry

namespace SharedRegistry

/-- The shared registry at the start of a process. -/
def fresh : SharedRegistry := ⟨none⟩

/-- The registry in use: by default, the kinds of this library. -/
def current (s : SharedRegistry) : Registry := s.fixed.getD Registry.builtins

/-- The shared registry after a use. -/
def used (s : SharedRegistry) : SharedRegistry := ⟨some s.current⟩

/-- Installs another registry, unless one is fixed already. -/
def install (s : SharedRegistry) (r : Registry) : Except Error SharedRegistry :=
  match s.fixed with
  | none => .ok ⟨some r⟩
  | some _ => .error (.configuration .registryInUse)

end SharedRegistry

end SheetGrammar
