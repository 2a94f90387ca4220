import SheetGrammar.Proofs.Sheet.Transcoding

/-!
# Sheets in Unicode

A text in UTF-8 can always be read: only characters of ASCII split it, so that each of its fields
is a text again.  In UTF-16 a delimiter is two bytes, and splitting takes one of them away; the
other is left in a field, whose bytes are then not in pairs.  Such a text is read like the text in
UTF-8 as long as it is one cell, and cannot be read when it has a second one.

## Main definitions

* `Csv.State.Textual` — the splitting has come upon texts only.
* `Csv.State.Begins` — the first row begins with some fields, whatever is still to come.

## Main results

* `Csv.step_cases` — what a byte can do.
* `Csv.exists_readRows_utf8` — a text in UTF-8 is read without failure.
* `Csv.readRows_wide` — how texts in UTF-16 are read.
* `Csv.not_readRows_wide` — they are not read like the texts in UTF-8.
-/

namespace SheetGrammar.Csv

open Encoding

variable {delimiter : UInt8}

/-! ### What a byte can do -/

/-- A byte moves on, is added to the field, or ends the field or the row.  Only the end of a row
leads in front of a row. -/
theorem step_cases (delimiter : UInt8) (s : State) (b : UInt8) :
    (∃ p, (p = .rowStart → s.place = .rowStart) ∧ step delimiter s b = { s with place := p }) ∨
      (∃ p ≠ .rowStart, step delimiter s b = s.add p b) ∨
      step delimiter s b = s.endField ∨ step delimiter s b = s.endRow := by
  have hfield : (∃ p ≠ .rowStart, stepField delimiter s b = s.add p b) ∨
      stepField delimiter s b = s.endField ∨ stepField delimiter s b = s.endRow := by
    unfold stepField
    split
    · exact .inr (.inl rfl)
    split
    · exact .inr (.inr rfl)
    · exact .inl ⟨_, by simp, rfl⟩
  have hstart : (∃ p, (p = .rowStart → s.place = .rowStart) ∧
        stepStart delimiter s b = { s with place := p }) ∨
      (∃ p ≠ .rowStart, stepStart delimiter s b = s.add p b) ∨
      stepStart delimiter s b = s.endField ∨ stepStart delimiter s b = s.endRow := by
    unfold stepStart
    split
    · exact .inl ⟨.quoted, by simp, rfl⟩
    · exact .inr hfield
  unfold step
  split
  · next hplace =>
    split
    · exact .inl ⟨.rowStart, fun _ => hplace, by rw [← hplace]⟩
    · exact hstart
  · exact hstart
  · exact .inr hfield
  · split
    · exact .inl ⟨.quote, by simp, rfl⟩
    · exact .inr (.inl ⟨.quoted, by simp, rfl⟩)
  · split
    · exact .inr (.inl ⟨.quoted, by simp, rfl⟩)
    · exact .inr hfield

/-! ### Texts in UTF-8 -/

/-- Bytes that are a text in UTF-8. -/
def IsText (bytes : List UInt8) : Prop := ∃ cs, bytes = utf8Bytes cs

theorem IsText.append {xs ys : List UInt8} (hx : IsText xs) (hy : IsText ys) :
    IsText (xs ++ ys) := by
  obtain ⟨cs, rfl⟩ := hx
  obtain ⟨ds, rfl⟩ := hy
  exact ⟨cs ++ ds, List.flatMap_append.symm⟩

theorem isText_nil : IsText [] := ⟨[], rfl⟩

theorem isText_utf8EncodeChar (c : Char) : IsText (String.utf8EncodeChar c) :=
  ⟨[c], (List.flatMap_singleton _ _).symm⟩

/-- A text without the byte order mark is a text. -/
theorem IsText.dropMark {bytes : List UInt8} (h : IsText bytes) : IsText (dropMark bytes) := by
  obtain ⟨cs, rfl⟩ := h
  cases cs with
  | nil => exact isText_nil
  | cons c cs =>
    unfold Csv.dropMark
    split
    · next rest hbytes =>
      -- the mark is a whole character
      rw [utf8Bytes, List.flatMap_cons] at hbytes
      obtain ⟨first, others, hc⟩ :=
        List.exists_cons_of_ne_nil (String.utf8EncodeChar_ne_nil (c := c))
      have hfirst : first = 0xEF := by
        rw [hc] at hbytes
        exact (List.cons.inj hbytes).1
      have hlength := length_utf8EncodeChar_of_head (c := c) (by rw [hc, hfirst]; rfl)
      have hrest := congrArg (List.drop 3) hbytes
      rw [List.drop_left' hlength] at hrest
      exact ⟨cs, hrest.symm⟩
    · exact ⟨c :: cs, rfl⟩

/-- The only byte order mark of a text is that of UTF-8. -/
theorem IsText.decode?_utf8 {bytes : List UInt8} (h : IsText bytes) :
    Encoding.utf8.decode? bytes = decodeUtf8? (Csv.dropMark bytes) := by
  have hhead : ∀ b, bytes.head? = some b → b < 0xF8 := by
    obtain ⟨cs, rfl⟩ := h
    intro b hb
    cases cs with
    | nil => simp [utf8Bytes] at hb
    | cons c cs =>
      obtain ⟨first, others, hc⟩ :=
        List.exists_cons_of_ne_nil (String.utf8EncodeChar_ne_nil (c := c))
      rw [utf8Bytes, List.flatMap_cons, hc] at hb
      exact lt_of_head_utf8EncodeChar (c := c) (by rw [hc]; exact hb)
  rcases hmark : byteOrderMark? bytes with _ | ⟨scheme, rest⟩
  · simp only [Encoding.decode?, hmark, dropMark_of_none hmark]
    rfl
  · simp only [Encoding.decode?, hmark]
    unfold byteOrderMark? at hmark
    split at hmark
    · obtain ⟨rfl, rfl⟩ := Prod.mk.inj (Option.some.inj hmark)
      rfl
    · exact absurd (hhead _ rfl) (by decide)
    · exact absurd (hhead _ rfl) (by decide)
    · exact absurd hmark (by simp)

/-- A text in UTF-8 is decoded. -/
theorem IsText.exists_decode? {bytes : List UInt8} (h : IsText bytes) :
    ∃ text, Encoding.utf8.decode? bytes = some text := by
  obtain ⟨cs, hcs⟩ := h.dropMark
  exact ⟨String.ofList cs, by rw [h.decode?_utf8, hcs, decodeUtf8?_utf8Bytes]⟩

/-- The splitting has come upon texts only. -/
structure State.Textual (s : State) : Prop where
  current : IsText s.current.reverse
  fields : ∀ field ∈ s.fields, IsText field
  rows : ∀ row ∈ s.rows, ∀ field ∈ row, IsText field

theorem State.textual_start : State.start.Textual :=
  ⟨isText_nil, by simp [start], by simp [start]⟩

variable {s : State}

theorem State.Textual.endField (h : s.Textual) : s.endField.Textual :=
  ⟨isText_nil, List.forall_mem_cons.mpr ⟨h.current, h.fields⟩, h.rows⟩

theorem State.Textual.endRow (h : s.Textual) : s.endRow.Textual := by
  refine ⟨isText_nil, by simp [State.endRow], List.forall_mem_cons.mpr ⟨?_, h.rows⟩⟩
  intro field hfield
  exact h.endField.fields field (List.mem_reverse.mp hfield)

/-- The bytes of a character keep the texts. -/
theorem State.Textual.foldl_step (hd : delimiter < 0x80) (h : s.Textual) (c : Char) :
    ((String.utf8EncodeChar c).foldl (step delimiter) s).Textual := by
  by_cases hascii : c.toNat < 0x80
  · have hc := isText_utf8EncodeChar c
    rw [utf8EncodeChar_of_lt hascii] at hc ⊢
    rw [List.foldl_cons, List.foldl_nil]
    rcases step_cases delimiter s (UInt8.ofNat c.toNat) with
      ⟨p, -, hstep⟩ | ⟨p, -, hstep⟩ | hstep | hstep
    · exact hstep ▸ ⟨h.current, h.fields, h.rows⟩
    · rw [hstep]
      refine ⟨?_, h.fields, h.rows⟩
      rw [State.add, List.reverse_cons]
      exact h.current.append hc
    · exact hstep ▸ h.endField
    · exact hstep ▸ h.endRow
  · have hplain : ∀ b ∈ String.utf8EncodeChar c, Plain delimiter b := fun b hb =>
      plain_of_le hd (le_of_mem_utf8EncodeChar (Nat.le_of_not_lt hascii) hb)
    rw [foldl_step_of_plain String.utf8EncodeChar_ne_nil hplain]
    refine ⟨?_, h.fields, h.rows⟩
    rw [List.reverse_append, List.reverse_reverse]
    exact h.current.append (isText_utf8EncodeChar c)

theorem State.Textual.foldl (hd : delimiter < 0x80) (h : s.Textual) (cs : List Char) :
    ((utf8Bytes cs).foldl (step delimiter) s).Textual := by
  induction cs generalizing s with
  | nil => exact h
  | cons c cs ih =>
    rw [utf8Bytes, List.flatMap_cons, List.foldl_append]
    exact ih (h.foldl_step hd c)

theorem State.Textual.finish (h : s.Textual) : ∀ row ∈ finish s, ∀ field ∈ row, IsText field := by
  unfold Csv.finish
  intro row hrow
  rw [List.mem_reverse] at hrow
  split at hrow
  · exact h.rows row hrow
  · exact h.endRow.rows row hrow

/-- **A text in UTF-8 is read without failure.** -/
theorem exists_readRows_utf8 (hd : delimiter < 0x80) (cs : List Char) :
    ∃ rows, readRows delimiter .utf8 (utf8Bytes cs) = .ok rows := by
  have htexts : ∀ row ∈ split delimiter (utf8Bytes cs), ∀ field ∈ row, IsText field := by
    obtain ⟨ds, hds⟩ : IsText (dropMark (utf8Bytes cs)) := IsText.dropMark ⟨cs, rfl⟩
    unfold split
    rw [hds]
    exact (State.textual_start.foldl hd ds).finish
  have hdecode : ∀ row ∈ split delimiter (utf8Bytes cs), ∀ field ∈ row,
      Encoding.utf8.decode? field = some ((Encoding.utf8.decode? field).getD "") := by
    intro row hrow field hfield
    obtain ⟨text, htext⟩ := (htexts row hrow field hfield).exists_decode?
    rw [htext, Option.getD_some]
  exact ⟨_, readRows_eq_ok hdecode⟩

/-! ### Rows that have begun -/

/-- The first row begins with the fields, whatever is still to come. -/
def State.Begins (fields : List Field) (s : State) : Prop :=
  (s.place ≠ .rowStart ∧ s.rows = [] ∧ fields <+: s.fields.reverse) ∨
    ∃ row ∈ s.rows.getLast?, fields <+: row

variable {fields : List Field}

theorem State.Begins.endRow (h : s.Begins fields) : s.endRow.Begins fields := by
  right
  rcases h with ⟨-, hrows, hfields⟩ | ⟨row, hrow, hfields⟩
  · refine ⟨(s.current.reverse :: s.fields).reverse, by simp [State.endRow, hrows], ?_⟩
    rw [List.reverse_cons]
    exact hfields.trans (List.prefix_append _ _)
  · refine ⟨row, ?_, hfields⟩
    rw [Option.mem_def] at hrow ⊢
    rw [State.endRow, List.getLast?_cons, hrow, Option.getD_some]

/-- A byte keeps the beginning of the first row. -/
theorem State.Begins.step (h : s.Begins fields) (b : UInt8) :
    (step delimiter s b).Begins fields := by
  rcases step_cases delimiter s b with ⟨p, hp, hstep⟩ | ⟨p, hp, hstep⟩ | hstep | hstep
  · rw [hstep]
    exact h.imp (fun ⟨hplace, hrows⟩ => ⟨fun hstart => hplace (hp hstart), hrows⟩) id
  · rw [hstep]
    exact h.imp (fun ⟨_, hrows⟩ => ⟨hp, hrows⟩) id
  · rw [hstep]
    refine h.imp (fun ⟨_, hrows, hfields⟩ => ⟨by simp [State.endField], hrows, ?_⟩) id
    rw [State.endField, List.reverse_cons]
    exact hfields.trans (List.prefix_append _ _)
  · exact hstep ▸ h.endRow

theorem State.Begins.foldl (h : s.Begins fields) (bytes : List UInt8) :
    (bytes.foldl (Csv.step delimiter) s).Begins fields := by
  induction bytes generalizing s with
  | nil => exact h
  | cons b bytes ih => exact ih (h.step b)

/-- The rows of a state that has begun one. -/
theorem State.Begins.finish (h : s.Begins fields) :
    ∃ row rows, finish s = row :: rows ∧ fields <+: row := by
  have hlast : ∃ row ∈ (if s.place = .rowStart then s else s.endRow).rows.getLast?,
      fields <+: row := by
    split
    · next hstart => exact h.resolve_left fun ⟨hplace, _⟩ => hplace hstart
    · next hplace => exact h.endRow.resolve_left fun ⟨hend, _⟩ => hend rfl
  obtain ⟨row, hrow, hfields⟩ := hlast
  rw [← List.head?_reverse] at hrow
  obtain ⟨rows, hrows⟩ := List.head?_eq_some_iff.mp hrow
  exact ⟨row, rows, hrows, hfields⟩

/-! ### Fields that cannot be decoded -/

variable {e : Encoding} {field : Field}

theorem decodeRow_eq_error (h : ∀ field ∈ fields, ∃ text, e.decode? field = some text)
    (hfield : e.decode? field = none) (others : List Field) :
    decodeRow e (fields ++ field :: others) = .error (.ofCause (.undecodable e.name)) := by
  induction fields with
  | nil => simp [decodeRow, hfield]
  | cons first fields ih =>
    obtain ⟨⟨text, htext⟩, hfields⟩ := List.forall_mem_cons.mp h
    simp [decodeRow, htext, ih hfields, Except.map]

/-- A text whose first row has a field that cannot be decoded. -/
theorem readRows_eq_error {bytes : List UInt8} (fields : List Field)
    (hsplit : ∃ row rows, split delimiter bytes = row :: rows ∧ fields ++ [field] <+: row)
    (h : ∀ field ∈ fields, ∃ text, e.decode? field = some text)
    (hfield : e.decode? field = none) :
    readRows delimiter e bytes = .error ⟨["Decoding row 1"], .undecodable e.name⟩ := by
  obtain ⟨row, rows, hrows, others, rfl⟩ := hsplit
  unfold readRows
  rw [hrows, decodeRows, List.append_assoc, List.singleton_append, decodeRow_eq_error h hfield]
  rfl

/-! ### Cells of plain bytes -/

variable {cell : List UInt8}

/-- A cell behind which a delimiter stands is the next field. -/
theorem foldl_cell (hquote : delimiter ≠ quoteByte) (hend : endsLine delimiter = false)
    (hcell : ∀ b ∈ cell, Plain delimiter b) (hplace : s.place ≠ .quoted) (hs : s.current = []) :
    (cell ++ [delimiter]).foldl (step delimiter) s
      = { place := .fieldStart, current := [], fields := cell :: s.fields, rows := s.rows } := by
  have hstep : ∀ t : State, t.place ≠ .quoted → step delimiter t delimiter = t.endField := by
    intro t ht
    unfold step stepStart stepField
    cases hplace : t.place <;> simp_all
  rw [List.foldl_append, List.foldl_cons, List.foldl_nil]
  by_cases hne : cell = []
  · rw [hne, List.foldl_nil, hstep s hplace]
    simp [State.endField, hs]
  · have hinside : s.place.inside ≠ .quoted := by cases hp : s.place <;> simp_all [Place.inside]
    rw [foldl_step_of_plain hne hcell, hstep _ hinside]
    simp [State.endField, hs]

/-- A text without bytes that split is one cell, if it is not empty. -/
theorem split_plain (hmark : dropMark cell = cell) (hcell : ∀ b ∈ cell, Plain delimiter b) :
    split delimiter cell = if cell = [] then [] else [[cell]] := by
  unfold split
  rw [hmark]
  split
  · next hnil =>
    rw [hnil]
    rfl
  · next hne =>
    rw [foldl_step_of_plain hne hcell]
    simp [finish, State.start, State.endRow, Place.inside]

/-- A cell and a delimiter at the start of a text begin its first row. -/
theorem split_cell (hd : delimiter < 0x80) (hquote : delimiter ≠ quoteByte)
    (hend : endsLine delimiter = false) (hmark : byteOrderMark? cell = none)
    (hcell : ∀ b ∈ cell, Plain delimiter b) (rest : List UInt8) :
    ∃ row rows, split delimiter (cell ++ delimiter :: rest) = row :: rows ∧ [cell] <+: row := by
  have hfirst := foldl_cell hquote hend hcell (s := .start) (by simp [State.start]) rfl
  unfold split
  rw [dropMark_of_none (byteOrderMark?_append hmark hd), List.append_cons, List.foldl_append,
    hfirst]
  exact (State.Begins.foldl (.inl ⟨by simp, rfl, List.prefix_refl _⟩) rest).finish

/-- Two cells begin the first row where the second ends. -/
theorem split_cells (hd : delimiter < 0x80) (hquote : delimiter ≠ quoteByte)
    (hend : endsLine delimiter = false) (hmark : byteOrderMark? cell = none)
    {last rest : List UInt8} (hcell : ∀ b ∈ cell, Plain delimiter b)
    (hlast : ∀ b ∈ last, Plain delimiter b) (hne : last ≠ [])
    (hrest : ∀ b ∈ rest.head?, b = delimiter ∨ endsLine b = true) :
    ∃ row rows, split delimiter (cell ++ delimiter :: (last ++ rest)) = row :: rows
      ∧ [cell, last] <+: row := by
  have hfirst := foldl_cell hquote hend hcell (s := .start) (by simp [State.start]) rfl
  unfold split
  rw [dropMark_of_none (byteOrderMark?_append hmark hd), List.append_cons, List.foldl_append,
    hfirst, List.foldl_append, foldl_step_of_plain hne hlast]
  cases rest with
  | nil => exact ⟨_, _, rfl, by simp [State.start]⟩
  | cons b rest =>
    have hb := hrest b rfl
    rw [List.foldl_cons]
    refine State.Begins.finish (State.Begins.foldl ?_ rest)
    by_cases hdelimiter : b = delimiter
    · simp [step, stepField, hdelimiter, State.Begins, State.endField, State.start, Place.inside]
    · have hline := hb.resolve_left hdelimiter
      simp [step, stepField, hdelimiter, hline, State.Begins, State.endRow, State.start,
        Place.inside]

/-! ### Texts in UTF-16 -/

theorem units?_eq_none {bigEndian : Bool} :
    ∀ {bytes : List UInt8}, bytes.length % 2 = 1 → units? bigEndian bytes = none
  | [], h => absurd h (by simp)
  | [_], _ => rfl
  | _ :: _ :: rest, h => by
    have hrest : rest.length % 2 = 1 := by
      rw [List.length_cons, List.length_cons] at h
      omega
    simp [units?, units?_eq_none hrest]

variable {bigEndian : Bool}

/-- A field with a byte left over cannot be decoded. -/
theorem decode?_eq_none (he : e.scheme = .utf16 bigEndian) (hmark : byteOrderMark? field = none)
    (hodd : field.length % 2 = 1) : e.decode? field = none := by
  simp only [Encoding.decode?, hmark, he, Scheme.decode?, decodeUtf16?, units?_eq_none hodd]
  rfl

theorem decode?_utf16Bytes (he : e.scheme = .utf16 bigEndian) {cs : List Char}
    (hmark : byteOrderMark? (utf16Bytes bigEndian cs) = none) :
    e.decode? (utf16Bytes bigEndian cs) = some (String.ofList cs) := by
  simp only [Encoding.decode?, hmark, he]
  exact decodeUtf16?_utf16Bytes bigEndian cs

theorem length_utf16Bytes (cs : List Char) : (utf16Bytes bigEndian cs).length % 2 = 0 := by
  have hunit : ∀ n, (bytesOfUnit bigEndian n).length = 2 := by
    intro n
    cases bigEndian <;> rfl
  have hlength : ∀ ns : List Nat, (ns.flatMap (bytesOfUnit bigEndian)).length = ns.length * 2 := by
    intro ns
    simp [List.length_flatMap, hunit, List.map_const']
  rw [utf16Bytes, ← List.flatMap_assoc, hlength, Nat.mul_mod_left]

/-- The bytes of a character of ASCII. -/
theorem utf16Bytes_cons_ofUInt8 {b : UInt8} (hb : b < 0x80) (cs : List Char) :
    utf16Bytes bigEndian (Char.ofUInt8 b :: cs)
      = (if bigEndian then [0, b] else [b, 0]) ++ utf16Bytes bigEndian cs := by
  have hval : b.toNat < 128 := UInt8.lt_iff_toNat_lt.mp hb
  have hchar : (Char.ofUInt8 b).toNat = b.toNat := UInt8.toNat_toUInt32 b
  have hunits : unitsOfChar (Char.ofUInt8 b) = [b.toNat] := by
    rw [unitsOfChar, hchar, if_pos (by omega)]
  have hhigh : b.toNat / 256 = 0 := by omega
  have hlow : b.toNat % 256 = b.toNat := by omega
  rw [utf16Bytes, List.flatMap_cons, hunits, List.flatMap_singleton, bytesOfUnit, hhigh, hlow,
    UInt8.ofNat_toNat]
  rfl

/-- Characters whose bytes do not split in UTF-16 do not split in UTF-8 either. -/
theorem plain_utf8Bytes (hd : delimiter < 0x80) {cs : List Char}
    (h : ∀ b ∈ utf16Bytes bigEndian cs, Plain delimiter b) :
    ∀ b ∈ utf8Bytes cs, Plain delimiter b := by
  intro b hb
  obtain ⟨c, hc, hb⟩ := List.mem_flatMap.mp hb
  by_cases hascii : c.toNat < 0x80
  · rw [utf8EncodeChar_of_lt hascii, List.mem_singleton] at hb
    refine h b (List.mem_flatMap.mpr ⟨c, hc, ?_⟩)
    have hlow : c.toNat % 256 = c.toNat := by omega
    rw [unitsOfChar, if_pos (by omega), List.flatMap_singleton, bytesOfUnit, hb, hlow]
    split <;> simp
  · exact plain_of_le hd (le_of_mem_utf8EncodeChar (Nat.le_of_not_lt hascii) hb)

theorem dropMark_cases (bytes : List UInt8) :
    dropMark bytes = bytes ∨ bytes = 0xEF :: 0xBB :: 0xBF :: dropMark bytes := by
  unfold dropMark
  split
  · exact .inr rfl
  · exact .inl rfl

/-- A text without a byte order mark in UTF-16 has none in UTF-8. -/
theorem dropMark_utf8Bytes {cs : List Char}
    (h : byteOrderMark? (utf16Bytes bigEndian cs) = none) :
    dropMark (utf8Bytes cs) = utf8Bytes cs := by
  rcases dropMark_cases (utf8Bytes cs) with hdrop | hdrop
  · exact hdrop
  · obtain ⟨ds, hds⟩ := IsText.dropMark ⟨cs, rfl⟩
    have hbytes : utf8Bytes cs = utf8Bytes ('\uFEFF' :: ds) := by
      rw [hdrop, hds]
      rfl
    have htext : some (String.ofList cs) = some (String.ofList ('\uFEFF' :: ds)) := by
      rw [← decodeUtf8?_utf8Bytes, ← decodeUtf8?_utf8Bytes, hbytes]
    obtain rfl : cs = '\uFEFF' :: ds := String.ofList_injective (Option.some.inj htext)
    cases bigEndian <;> simp [utf16Bytes, unitsOfChar, bytesOfUnit, byteOrderMark?] at h

/-- A cell is read alike in UTF-16 and in UTF-8. -/
theorem readRows_wide_cell (he : e.scheme = .utf16 bigEndian) (hd : delimiter < 0x80)
    {cs : List Char} (hmark : byteOrderMark? (utf16Bytes bigEndian cs) = none)
    (hcs : ∀ b ∈ utf16Bytes bigEndian cs, Plain delimiter b) :
    readRows delimiter e (utf16Bytes bigEndian cs) = readRows delimiter .utf8 (utf8Bytes cs) := by
  cases cs with
  | nil => rfl
  | cons c cs =>
    have hwide : utf16Bytes bigEndian (c :: cs) ≠ [] := by
      intro hnil
      have hdecode := decodeUtf16?_utf16Bytes bigEndian (c :: cs)
      simp [hnil, decodeUtf16?, units?, charsOfUnits?] at hdecode
    have hnarrow : utf8Bytes (c :: cs) ≠ [] := by
      simp [utf8Bytes, String.utf8EncodeChar_ne_nil]
    have hdecode : Encoding.utf8.decode? (utf8Bytes (c :: cs))
        = some (String.ofList (c :: cs)) := by
      rw [IsText.decode?_utf8 ⟨c :: cs, rfl⟩, dropMark_utf8Bytes hmark, decodeUtf8?_utf8Bytes]
    unfold readRows
    rw [split_plain (dropMark_of_none hmark) hcs, if_neg hwide,
      split_plain (dropMark_utf8Bytes hmark) (plain_utf8Bytes hd hcs), if_neg hnarrow]
    simp only [decodeRows, decodeRow, decode?_utf16Bytes he hmark, hdecode]

/-- A text that has two cells in its first row cannot be read in UTF-16. -/
theorem readRows_wide_cells (he : e.scheme = .utf16 bigEndian) (hd : delimiter < 0x80)
    (hzero : delimiter ≠ 0) (hquote : delimiter ≠ quoteByte)
    (hend : endsLine delimiter = false) {first second rest : List Char}
    (hmark : byteOrderMark? (utf16Bytes bigEndian first) = none)
    (hfirst : ∀ b ∈ utf16Bytes bigEndian first, Plain delimiter b)
    (hsecond : ∀ b ∈ utf16Bytes bigEndian second, Plain delimiter b)
    (hrest : ∀ c ∈ rest.head?, c = Char.ofUInt8 delimiter ∨ c = '\n' ∨ c = '\r') :
    readRows delimiter e
        (utf16Bytes bigEndian (first ++ Char.ofUInt8 delimiter :: (second ++ rest)))
      = .error ⟨["Decoding row 1"], .undecodable e.name⟩ := by
  have hzero : Plain delimiter 0 := ⟨hzero.symm, by decide, by decide⟩
  have hlength : (utf16Bytes bigEndian first).length % 2 = 0 := length_utf16Bytes first
  rw [utf16Bytes_append, utf16Bytes_cons_ofUInt8 hd, utf16Bytes_append]
  cases bigEndian with
  | true =>
    -- the first cell has the byte zero of the delimiter at its end
    have hcell : ∀ b ∈ utf16Bytes true first ++ [0], Plain delimiter b := by
      intro b hb
      rcases List.mem_append.mp hb with hb | hb
      · exact hfirst b hb
      · exact List.mem_singleton.mp hb ▸ hzero
    have hunmarked : byteOrderMark? (utf16Bytes true first ++ [0]) = none :=
      byteOrderMark?_append hmark (by decide)
    have hnone : e.decode? (utf16Bytes true first ++ [0]) = none := by
      refine decode?_eq_none he hunmarked ?_
      rw [List.length_append, List.length_singleton]
      omega
    have hsplit := split_cell hd hquote hend hunmarked hcell
      (utf16Bytes true second ++ utf16Bytes true rest)
    rw [List.append_assoc] at hsplit
    rw [if_pos rfl]
    exact readRows_eq_error [] hsplit (List.forall_mem_nil _) hnone
  | false =>
    -- the second cell has the byte zero of the delimiter in front of it
    have hcell : ∀ b ∈ 0 :: utf16Bytes false second, Plain delimiter b :=
      List.forall_mem_cons.mpr ⟨hzero, hsecond⟩
    have hnone : e.decode? (0 :: utf16Bytes false second) = none := by
      refine decode?_eq_none he rfl ?_
      rw [List.length_cons]
      have hlength : (utf16Bytes false second).length % 2 = 0 := length_utf16Bytes second
      omega
    have hends : ∀ b ∈ (utf16Bytes false rest).head?, b = delimiter ∨ endsLine b = true := by
      cases rest with
      | nil => simp [utf16Bytes]
      | cons c rest =>
        intro b hb
        have hc : ∃ d < 0x80, c = Char.ofUInt8 d ∧ (d = delimiter ∨ endsLine d = true) := by
          rcases hrest c rfl with rfl | rfl | rfl
          · exact ⟨delimiter, hd, rfl, .inl rfl⟩
          · exact ⟨10, by decide, rfl, .inr rfl⟩
          · exact ⟨13, by decide, rfl, .inr rfl⟩
        obtain ⟨d, hascii, rfl, hends⟩ := hc
        rw [utf16Bytes_cons_ofUInt8 hascii, if_neg Bool.false_ne_true] at hb
        exact Option.some.inj hb ▸ hends
    have hsplit := split_cells hd hquote hend hmark hfirst hcell (by simp) hends
    have hdecode := decode?_utf16Bytes he hmark
    rw [if_neg Bool.false_ne_true]
    exact readRows_eq_error [_] hsplit (List.forall_mem_singleton.mpr ⟨_, hdecode⟩) hnone

/-- **Of the cells of a text in UTF-16 only the first can be read.** A text of one cell is read as
the same rows as in UTF-8.  With a second cell in the first row the text cannot be read, while in
UTF-8 it still is.  No byte of these cells may split, as one of a higher character could. -/
theorem readRows_wide (he : e.scheme = .utf16 bigEndian) (hd : delimiter < 0x80)
    (hzero : delimiter ≠ 0) (hquote : delimiter ≠ quoteByte)
    (hend : endsLine delimiter = false) (first second rest : List Char)
    (hmark : byteOrderMark? (utf16Bytes bigEndian first) = none)
    (hfirst : ∀ b ∈ utf16Bytes bigEndian first, Plain delimiter b)
    (hsecond : ∀ b ∈ utf16Bytes bigEndian second, Plain delimiter b)
    (hrest : ∀ c ∈ rest.head?, c = Char.ofUInt8 delimiter ∨ c = '\n' ∨ c = '\r') :
    (∃ rows, readRows delimiter e (utf16Bytes bigEndian first) = .ok rows ∧
        readRows delimiter .utf8 (utf8Bytes first) = .ok rows) ∧
      readRows delimiter e
          (utf16Bytes bigEndian (first ++ Char.ofUInt8 delimiter :: (second ++ rest)))
        = .error ⟨["Decoding row 1"], .undecodable e.name⟩ ∧
      ∃ rows, readRows delimiter .utf8
          (utf8Bytes (first ++ Char.ofUInt8 delimiter :: (second ++ rest))) = .ok rows := by
  obtain ⟨rows, hrows⟩ := exists_readRows_utf8 hd first
  refine ⟨⟨rows, ?_, hrows⟩, ?_, exists_readRows_utf8 hd _⟩
  · rw [readRows_wide_cell he hd hmark hfirst, hrows]
  · exact readRows_wide_cells he hd hzero hquote hend hmark hfirst hsecond hrest

/-- The encodings of UTF-16 with the low byte first. -/
def utf16le : Encoding :=
  ⟨"UTF-16LE", .utf16 false,
    ["csunicode", "iso-10646-ucs-2", "ucs-2", "unicode", "unicodefeff", "utf-16", "utf-16le"]⟩

theorem readRows_wide_lines :
    (∃ rows, readRows 44 utf16le (utf16Bytes false "né".toList) = .ok rows ∧
        readRows 44 .utf8 (utf8Bytes "né".toList) = .ok rows) ∧
      readRows 44 utf16le (utf16Bytes false "né,1\nb,2".toList)
        = .error ⟨["Decoding row 1"], .undecodable "UTF-16LE"⟩ ∧
      ∃ rows, readRows 44 .utf8 (utf8Bytes "né,1\nb,2".toList) = .ok rows :=
  readRows_wide rfl (by decide) (by decide) (by decide) (by decide) ['n', 'é'] ['1']
    ['\n', 'b', ',', '2'] (by decide) (by decide +kernel) (by decide +kernel) (by simp)

/-- Texts are not read alike in UTF-16 and in UTF-8: two cells are not. -/
theorem not_readRows_wide :
    ¬ ∀ e ∈ Encoding.all, ∀ bigEndian, e.scheme = .utf16 bigEndian →
      ∀ delimiter < 0x80, ∀ cs : List Char, byteOrderMark? (utf16Bytes bigEndian cs) = none →
        readRows delimiter e (utf16Bytes bigEndian cs)
          = readRows delimiter .utf8 (utf8Bytes cs) := by
  intro h
  have hall : utf16le ∈ Encoding.all := by simp [Encoding.all, utf16le]
  have hcells := h utf16le hall false rfl 44 (by decide) ['a', ',', 'b'] (by decide)
  have hwide : readRows 44 utf16le (utf16Bytes false ['a', ',', 'b'])
      = .error ⟨["Decoding row 1"], .undecodable "UTF-16LE"⟩ := by rfl
  obtain ⟨rows, hnarrow⟩ : ∃ rows, readRows 44 .utf8 (utf8Bytes ['a', ',', 'b']) = .ok rows :=
    exists_readRows_utf8 (by decide) _
  rw [hwide, hnarrow] at hcells
  cases hcells

end SheetGrammar.Csv
