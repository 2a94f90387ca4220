import SheetGrammar.Error
import SheetGrammar.Structured

/-!
# Failures of commands

A command fails for a cause, in the context of what it was doing.

## Main definitions

* `Cause` — why something failed.
* `Failure`, `Failure.within` — a cause with its contexts, the outermost first.
* `Failure.text` — what is shown.
-/

namespace SheetGrammar

/-- Why something failed. -/
inductive Cause
  /-- The system cannot open, read or create a file. -/
  | system
  /-- A text is not in UTF-8. -/
  | notUtf8
  /-- A text is not well formed or does not fit. -/
  | parse (cause : ParseError)
  /-- A plan cannot be built or run. -/
  | plan (cause : Error)
  /-- Bytes do not fit their encoding. -/
  | undecodable (encoding : String)
  /-- No encoding goes by the label. -/
  | unknownEncoding (label : String)
  /-- Standard input is to be read several times. -/
  | repeatedStdin (times : Nat)
  deriving DecidableEq, Repr

/-- The texts shown for a cause, each the reason for the one before. What the system
or the reader of a format says is left to them. -/
def Cause.texts : Cause → List String
  | system => []
  | notUtf8 => ["stream did not contain valid UTF-8"]
  | parse _ => []
  | plan (.ruleFailed rule rowType index sheet cause) =>
    [(Error.ruleFailed rule rowType index sheet cause).message, cause.message]
  | plan cause => [cause.message]
  | undecodable encoding => [s!"Failed to decode text with encoding {encoding}"]
  | unknownEncoding label => [s!"Unknown encoding '{label}'"]
  | repeatedStdin times =>
    [s!"stdin ('-') can be used as a sheet input only once, got {times}"]

/-- A cause with what was being done, the outermost first. -/
structure Failure where
  contexts : List String
  cause : Cause
  deriving DecidableEq, Repr

namespace Failure

/-- A failure without context. -/
def ofCause (c : Cause) : Failure := ⟨[], c⟩

/-- A failure in the course of something. -/
def within (f : Failure) (context : String) : Failure :=
  { f with contexts := context :: f.contexts }

/-- What is shown for a failure. -/
def text (f : Failure) : String := ": ".intercalate (f.contexts ++ f.cause.texts)

end Failure

end SheetGrammar
