import SheetGrammar.Inputs
import SheetGrammar.Record.Json
import SheetGrammar.Record.Yaml

/-!
# Formats of documents

A document is a text in JSON or in YAML.  The format may be given; otherwise the
extension of the file tells it.

## Main definitions

* `DocumentFormat`, `DocumentFormat.ofName?` — the formats.
* `DocumentFormat.resolve` — the format of a file.
* `Document.text`, `Document.ofText` — writing and reading a document.
* `Inputs.readDocument` — reading a document from a file.
-/

namespace SheetGrammar

/-- A format of documents. -/
inductive DocumentFormat
  | json
  | yaml
  deriving DecidableEq, Repr, Inhabited

namespace DocumentFormat

/-- The format of a name. -/
def ofName? (s : String) : Option DocumentFormat :=
  if s = "json" then some json else if s = "yaml" then some yaml else none

/-- A format as log lines show it. -/
def title : DocumentFormat → String
  | json => "Json"
  | yaml => "Yaml"

/-- What is being done while a document of a format is read. -/
def readContext : DocumentFormat → String
  | json => "Parsing tree document JSON"
  | yaml => "Parsing tree document YAML"

/-- The format of a file: the one that is given, else the one of the extension; files
with another extension and standard streams hold JSON. -/
def resolve (path : Option String) : Option DocumentFormat → DocumentFormat
  | some format => format
  | none =>
    match path with
    | some p => if Path.hasExtension p ["yml", "yaml"] then yaml else json
    | none => json

end DocumentFormat

/-! ### Texts -/

namespace Document

/-- The text of a document. -/
def text (d : Document) : DocumentFormat → String
  | .json => d.jsonText
  | .yaml => d.yamlText

/-- Reads a document from its text. -/
def ofText : DocumentFormat → String → Except ParseError Document
  | .json => ofJsonText
  | .yaml => ofYamlText

/-- Whether a document, written and read again, is the same. -/
def roundTrips (d : Document) (format : DocumentFormat) : Bool :=
  match ofText format (d.text format) with
  | .ok e => d.agrees e
  | .error _ => false

end Document

/-- Reads a document from a file. -/
def Inputs.readDocument (i : Inputs) (path : String) (format : DocumentFormat) :
    Except Failure Document :=
  match i.readText path with
  | .error f => .error f
  | .ok text =>
    (Document.ofText format text).mapError fun e => ⟨[format.readContext], .parse e⟩

end SheetGrammar
