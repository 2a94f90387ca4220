import SheetGrammar.Failure
import SheetGrammar.Sheet.Path
import SheetGrammar.Text.Encoding.Basic
import SheetGrammar.Text.Quoted

/-!
# Inputs

What a command can read: files by their paths, and standard input, which a dash
stands for.

## Main definitions

* `Content`, `Inputs` — what paths lead to.
* `Inputs.open?` — the content behind a path that can be opened.
* `Inputs.readText` — a file as text.
-/

namespace SheetGrammar

/-- What a path leads to. -/
inductive Content
  | missing
  | directory
  | file (bytes : List UInt8)
  deriving Inhabited

/-- What can be read: files by their paths, and standard input. -/
structure Inputs where
  content : String → Content
  stdin : List UInt8

namespace Inputs

/-- What a path leads to, where a dash means standard input. -/
def open? (i : Inputs) (path : String) : Except Failure Content :=
  if Path.isDash path then .ok (.file i.stdin)
  else match i.content path with
    | .missing => .error ⟨[s!"Opening input file {quotedPath path}"], .system⟩
    | content => .ok content

/-- A file as text, which has to be in UTF-8. -/
def readText (i : Inputs) (path : String) : Except Failure String :=
  let unreadable := fun cause => Except.error (Failure.mk [s!"Reading {quotedPath path}"] cause)
  match i.open? path with
  | .error f => .error f
  | .ok (.file bytes) => (Encoding.decodeUtf8? bytes).elim (unreadable .notUtf8) .ok
  | .ok _ => unreadable .system

end Inputs

end SheetGrammar
