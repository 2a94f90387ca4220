import SheetGrammar.Failure
import SheetGrammar.Sheet.Basic
import SheetGrammar.Text.Encoding

/-!
# Rows of delimited text

A text of bytes is split into rows of fields.  Fields may stand between double quotes,
where delimiters and line ends belong to them and a quote is written twice.  Empty
lines are no rows.  Each field is decoded by itself.

## Main definitions

* `Csv.State`, `Csv.step` — a machine that takes one byte at a time.
* `Csv.split` — the rows of a text.
* `Csv.readRows` — the rows of a text, decoded, without empty cells at their ends.
-/

namespace SheetGrammar.Csv

/-- A field, as bytes. -/
abbrev Field := List UInt8

/-- Where in a row a byte stands. -/
inductive Place
  /-- In front of a row. -/
  | rowStart
  /-- In front of a field. -/
  | fieldStart
  /-- In a field without quotes, or behind the closing one. -/
  | field
  /-- Between quotes. -/
  | quoted
  /-- Behind a quote that may be the closing one. -/
  | quote
  deriving DecidableEq, Repr

/-- The rows of a text of which some bytes were read; the last of everything comes
first. -/
structure State where
  place : Place
  current : List UInt8
  fields : List Field
  rows : List (List Field)

namespace State

/-- The start of a text. -/
def start : State := ⟨.rowStart, [], [], []⟩

/-- Adds a byte to the field. -/
def add (s : State) (place : Place) (b : UInt8) : State :=
  { s with place := place, current := b :: s.current }

/-- Ends the field. -/
def endField (s : State) : State :=
  { s with place := .fieldStart, current := [], fields := s.current.reverse :: s.fields }

/-- Ends the field and the row. -/
def endRow (s : State) : State :=
  { place := .rowStart, current := [], fields := [],
    rows := (s.current.reverse :: s.fields).reverse :: s.rows }

end State

/-- The byte of a double quote. -/
def quoteByte : UInt8 := 34

/-- Whether a byte ends a line. -/
def endsLine (b : UInt8) : Bool := b = 13 || b = 10

/-- Takes a byte of a field that is not quoted, or not any more. -/
def stepField (delimiter : UInt8) (s : State) (b : UInt8) : State :=
  if b = delimiter then s.endField
  else if endsLine b then s.endRow
  else s.add .field b

/-- Takes the first byte of a field. -/
def stepStart (delimiter : UInt8) (s : State) (b : UInt8) : State :=
  if b = quoteByte then { s with place := .quoted } else stepField delimiter s b

/-- Takes a byte. -/
def step (delimiter : UInt8) (s : State) (b : UInt8) : State :=
  match s.place with
  | .rowStart => if endsLine b then s else stepStart delimiter s b
  | .fieldStart => stepStart delimiter s b
  | .field => stepField delimiter s b
  | .quoted => if b = quoteByte then { s with place := .quote } else s.add .quoted b
  | .quote => if b = quoteByte then s.add .quoted b else stepField delimiter s b

/-- Ends the text, and the row that was begun. -/
def finish (s : State) : List (List Field) :=
  (if s.place = .rowStart then s else s.endRow).rows.reverse

/-- A text without the byte order mark at its start. -/
def dropMark : List UInt8 → List UInt8
  | 0xEF :: 0xBB :: 0xBF :: rest => rest
  | bytes => bytes

/-- The rows of a text. -/
def split (delimiter : UInt8) (bytes : List UInt8) : List (List Field) :=
  finish ((dropMark bytes).foldl (step delimiter) .start)

/-- Decodes the fields of a row. -/
def decodeRow (e : Encoding) : List Field → Except Failure (List String)
  | [] => .ok []
  | field :: fields =>
    match e.decode? field with
    | none => .error (.ofCause (.undecodable e.name))
    | some cell => (decodeRow e fields).map (cell :: ·)

/-- Decodes rows, which are counted from `n`. -/
def decodeRows (e : Encoding) : (n : Nat) → List (List Field) → Except Failure (List (List String))
  | _, [] => .ok []
  | n, row :: rows =>
    match decodeRow e row with
    | .error f => .error (f.within s!"Decoding row {n}")
    | .ok cells => (decodeRows e (n + 1) rows).map (Sheet.dropEmptyEnd cells :: ·)

/-- The rows of a text, decoded, without the empty cells at their ends. -/
def readRows (delimiter : UInt8) (e : Encoding) (bytes : List UInt8) :
    Except Failure (List (List String)) :=
  decodeRows e 1 (split delimiter bytes)

end SheetGrammar.Csv
