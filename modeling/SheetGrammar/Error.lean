/-!
# Errors

Every failure of the library is one of these causes.  The wording stands in
`EvalError.message` and `Error.message` alone.

## Main definitions

* `EvalError` — an evaluator rejects the values of a record.
* `ConfigError` — a configuration that reads well but makes no sense.
* `PatternSite` — where a pattern stands.
* `Error` — everything that building a plan or running it can report.
-/

namespace SheetGrammar

/-- An evaluator rejects its values. -/
inductive EvalError
  /-- No source value was found. -/
  | missingArgument (kind : String)
  /-- The first source value is not a string. -/
  | notAString (kind found : String)
  /-- The pattern has no such capture group. -/
  | invalidGroup (kind : String) (group available : Nat)
  deriving DecidableEq, Repr

/-- The text shown for an evaluator's rejection. -/
def EvalError.message : EvalError → String
  | missingArgument kind => s!"{kind}: missing required parameter"
  | notAString kind found => s!"{kind}: expected a string value but found {found}"
  | invalidGroup kind group available =>
    s!"{kind}: invalid group {group} (pattern has {available} capture group(s))"

/-- A configuration that is well formed but makes no sense. -/
inductive ConfigError
  /-- Two row types bear one name. -/
  | duplicateRowType (name : String)
  /-- A row type lists a child that no row type defines. -/
  | undefinedChild (rowType child : String)
  /-- The name of a row type is blank. -/
  | unnamedRowType
  /-- A read configuration without sheet entries. -/
  | noSheetSelectors
  /-- A sheet entry names a row type that is not defined. -/
  | undefinedEntry (rowType : String)
  /-- A range of sheet positions that is empty or starts below one. -/
  | emptyRange (low high : Nat)
  /-- A sheet condition that is neither a name pattern nor a range. -/
  | unclearCondition
  /-- Two rules bear one name. -/
  | duplicateRule (name : String)
  /-- The name of a rule is blank. -/
  | unnamedRule
  /-- A guard that selects no column. -/
  | emptyGuard (rule : String)
  /-- A source that selects no column. -/
  | emptySource (rule : String)
  /-- An output without address and tag. -/
  | emptyOutput (rule : String)
  /-- A sheet entry applies a rule that is not defined. -/
  | undefinedRule (name : String)
  /-- An evaluator has no such parameter. -/
  | unknownParameter (rule kind parameter : String)
  /-- The pattern of an evaluator is not a string. -/
  | patternNotString (rule kind : String)
  /-- The group of an evaluator is not a natural number. -/
  | groupNotNatural (rule kind : String)
  /-- The registry shared by the process is already in use. -/
  | registryInUse
  deriving DecidableEq, Repr

/-- The text shown for a configuration that makes no sense. -/
def ConfigError.message : ConfigError → String
  | duplicateRowType name => s!"row type '{name}' is defined more than once"
  | undefinedChild rowType child => s!"row type '{rowType}' lists undefined child type '{child}'"
  | unnamedRowType => "row type without a name"
  | noSheetSelectors => "read configuration declares no sheet selectors"
  | undefinedEntry rowType => s!"sheet selector names undefined row type '{rowType}'"
  | emptyRange low high => s!"sheet range [{low}, {high}] must satisfy 1 <= low <= high"
  | unclearCondition => "sheet condition needs either a name pattern or a low/high range"
  | duplicateRule name => s!"rule '{name}' is defined more than once"
  | unnamedRule => "rule without a name"
  | emptyGuard rule => s!"rule '{rule}': guard needs a col or a tag"
  | emptySource rule => s!"rule '{rule}': source column needs a col or a tag"
  | emptyOutput rule => s!"rule '{rule}': output column needs a col or a tag"
  | undefinedRule name => s!"sheet selector applies undefined rule '{name}'"
  | unknownParameter rule kind parameter =>
    s!"rule '{rule}': unknown {kind} parameter '{parameter}'"
  | patternNotString rule kind => s!"rule '{rule}': {kind} pattern must be a string"
  | groupNotNatural rule kind => s!"rule '{rule}': {kind} group must be a non-negative integer"
  | registryInUse => "evaluator registry already initialised"

/-- Where a pattern stands. -/
inductive PatternSite
  /-- In a condition of a row type. -/
  | rowType (name : String)
  /-- In a sheet selector. -/
  | selector
  /-- It picks the row types that a rule applies to. -/
  | ruleRowType (rule : String)
  /-- In a guard of a rule. -/
  | guardOf (rule : String)
  /-- In an evaluator of this kind that no rule owns. -/
  | evaluator (kind : String)
  /-- In the expression of a rule. -/
  | expressionOf (rule : String)
  deriving DecidableEq, Repr

/-- The text shown for a pattern's place. -/
def PatternSite.message : PatternSite → String
  | rowType name => s!"row type '{name}'"
  | selector => "sheet selector"
  | ruleRowType rule => s!"row type of rule '{rule}'"
  | guardOf rule => s!"guard of rule '{rule}'"
  | evaluator kind => kind
  | expressionOf rule => s!"rule '{rule}'"

/-- A failure of building or running a plan. -/
inductive Error
  /-- The grammar does not define a row type that a sheet needs. -/
  | undefinedRowType (rowType sheet : String)
  /-- A text that is not a pattern. -/
  | invalidPattern (pattern : String) (site : PatternSite)
  /-- A column address that is neither letters nor a position. -/
  | invalidAddress (address : String)
  /-- A configuration that makes no sense. -/
  | configuration (cause : ConfigError)
  /-- No evaluator is known under this kind. -/
  | unknownExpression (kind rule : String)
  /-- The rule has no evaluator. -/
  | unboundExpression (rule : String)
  /-- A cell's text is not of the declared datatype. -/
  | extraction (rowType column value datatype sheet : String)
  /-- No selector picks the sheet, and such sheets are to fail. -/
  | unmatchedSheet (sheet : String) (position : Nat)
  /-- The evaluator of a rule rejects the values of a record. -/
  | ruleFailed (rule rowType : String) (index : Nat) (sheet : String) (cause : EvalError)
  deriving DecidableEq, Repr

/-- The text shown for a failure. -/
def Error.message : Error → String
  | undefinedRowType rowType sheet =>
    s!"no grammar definition for type '{rowType}' used in sheet '{sheet}'"
  | invalidPattern pattern site => s!"invalid pattern '{pattern}' in {site.message}"
  | invalidAddress address => s!"invalid column address '{address}'"
  | configuration cause => s!"configuration error: {cause.message}"
  | unknownExpression kind rule => s!"unknown expression kind '{kind}' in rule '{rule}'"
  | unboundExpression rule => s!"expression missing in rule '{rule}'"
  | extraction rowType column value datatype sheet =>
    s!"cannot read '{value}' as {datatype} for column {column} of row type '{rowType}' " ++
      s!"in sheet '{sheet}'"
  | unmatchedSheet sheet position =>
    s!"no sheet selector matched sheet '{sheet}' (position {position})"
  | ruleFailed rule rowType index sheet cause =>
    s!"rule '{rule}' failed on row '{rowType}' #{index} in sheet '{sheet}': {cause.message}"

end SheetGrammar
