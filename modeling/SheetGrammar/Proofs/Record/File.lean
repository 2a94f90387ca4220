import SheetGrammar.Proofs.Encoding
import SheetGrammar.Proofs.Json.Floats
import SheetGrammar.Proofs.Record.Json
import SheetGrammar.Record.Format

/-!
# Documents come back from files

A file that holds the JSON text of a document is read as that document.  Of its floats it is
only asked that the numbers in their texts come to them: every value is read as one of its own
kind, also a string that looks like a number and a float that is whole.

## Main definitions

* `Inputs.Holds` — a path leads to a file with a text in it.

## Main results

* `Inputs.Holds.readText` — a file is read as the text that it holds.
* `Inputs.Holds.readDocument` — a file with the JSON text of a document is read as the document.
* `Inputs.readDocument_text` — the same under conditions on its indexes, floats and nesting.
-/

namespace SheetGrammar

theorem Value.portable_of_recovers {v : Value} (h : ∀ x, v = .float x → Json.Recovers x) :
    v.Portable := by
  cases v with
  | string s => trivial
  | integer n => trivial
  | float x => exact (h x rfl).readsBack

namespace Inputs

/-- A path leads to a file that holds a text in UTF-8. -/
def Holds (i : Inputs) (path text : String) : Prop :=
  i.open? path = .ok (.file text.toUTF8.data.toList)

variable {i : Inputs} {path text : String}

theorem holds_of_content (hdash : Path.isDash path = false)
    (h : i.content path = .file text.toUTF8.data.toList) : i.Holds path text := by
  unfold Holds open?
  rw [hdash, h]
  rfl

theorem Holds.readText (h : i.Holds path text) : i.readText path = .ok text := by
  unfold Inputs.readText
  rw [h]
  simp only [Encoding.decodeUtf8?_toUTF8, Option.elim]

theorem Holds.readDocument {d : Document} (h : i.Holds path d.jsonText) (hd : d.Portable) :
    i.readDocument path .json = .ok d := by
  unfold Inputs.readDocument
  rw [h.readText]
  simp only [Document.ofText, Document.ofJsonText_jsonText hd, Except.mapError]

/-- **A document that is written as JSON is read back as the same document.** Indexes have to
be of 64 bits, the numbers in the texts of floats have to come to these floats, and the text
has to stay within the nesting that the reader allows. -/
theorem readDocument_text {d : Document}
    (hindex : ∀ s ∈ d.sheets,
      s.index < wordSize 64 ∧ ∀ r ∈ Record.walkRows s.rows, r.index < wordSize 64)
    (hfloats : ∀ s ∈ d.sheets, ∀ r ∈ Record.walkRows s.rows, ∀ c ∈ r.columns, ∀ x,
      c.value = .float x → Json.Recovers x)
    (hnesting : d.toJson.depth ≤ Json.maxDepth) (hfile : i.Holds path (d.text .json)) :
    i.readDocument path .json = .ok d := by
  have hsheets : ∀ s ∈ d.sheets, s.Portable := by
    intro s hs
    obtain ⟨hposition, hrows⟩ := hindex s hs
    refine ⟨hposition, fun r hr => ⟨hrows r hr, fun c hc => ?_⟩⟩
    exact Value.portable_of_recovers (hfloats s hs r hr c hc)
  exact Holds.readDocument hfile ⟨hsheets, hnesting⟩

/-! ### An example -/

/-- A document that has the number twelve as a string, as an integer and as a float, and under
it a string that has to be escaped. -/
def twelves : Document :=
  ⟨[⟨"s", 1, [⟨"number", 1,
    [⟨"A", "text", .string "12"⟩, ⟨"B", "whole", .integer 12⟩, ⟨"C", "real", .float 12⟩],
    [⟨"note", [⟨"note", 1, [⟨"A", "", .string "a \"quoted\"\n\\ line\x00"⟩], []⟩]⟩]⟩]⟩]⟩

theorem readDocument_twelves :
    readDocument ⟨fun _ => .file (twelves.text .json).toUTF8.data.toList, []⟩ "twelves.json" .json
      = .ok twelves := by
  refine readDocument_text (by decide) ?_ (by decide) (holds_of_content (by decide) rfl)
  have hreal : Json.ReadsBack 12 := by decide +kernel
  simpa [twelves, Record.walkRows, Record.walk, Record.walkGroups] using hreal.recovers

end Inputs

end SheetGrammar
