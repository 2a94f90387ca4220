import SheetGrammar.Proofs.Encoding
import SheetGrammar.Sheet.Csv

/-!
# Sheets in code pages

A text of bytes is split before its fields are decoded.  In an encoding that has a byte for each
character this comes to the same as splitting the text: the bytes that mean something to the
splitting are of ASCII, and all others are added to the field in which they stand, whether they
are one byte or the several bytes that the character has in UTF-8.  Byte order marks have to be
absent, as they change the encoding of the field that they stand in front of.

## Main definitions

* `Csv.Plain` — a byte that does not split.
* `Csv.Spreads` — a replacement for the bytes beyond ASCII.
* `Csv.State.spread` — a state of the splitting whose bytes are replaced.

## Main results

* `Csv.foldl_spread` — splitting goes along with the replacement of bytes.
* `Csv.readRows_eq_ok` — the rows of a text whose fields can be decoded.
* `Csv.readRows_transcoded` — the rows of a text in a code page are those of the same text in
  UTF-8.
-/

namespace SheetGrammar.Csv

open Encoding

/-! ### Plain bytes -/

/-- Where a byte of a field leads. -/
def Place.inside : Place → Place
  | quoted => quoted
  | _ => field

theorem Place.inside_inside (p : Place) : p.inside.inside = p.inside := by
  cases p <;> rfl

/-- A byte that is part of any field: no delimiter, quote or line end. -/
def Plain (delimiter b : UInt8) : Prop := b ≠ delimiter ∧ b ≠ quoteByte ∧ endsLine b = false

instance (delimiter b : UInt8) : Decidable (Plain delimiter b) :=
  inferInstanceAs (Decidable (_ ∧ _ ∧ _))

variable {delimiter b : UInt8}

theorem plain_of_le (hd : delimiter < 0x80) (hb : 0x80 ≤ b) : Plain delimiter b := by
  have hne : ∀ n, n < 0x80 → b ≠ n := by
    rintro n hn rfl
    exact absurd hn (UInt8.not_lt.mpr hb)
  have hcr : b ≠ 13 := hne 13 (by decide)
  have hlf : b ≠ 10 := hne 10 (by decide)
  exact ⟨hne delimiter hd, hne quoteByte (by decide), by simp [endsLine, hcr, hlf]⟩

/-- A plain byte is added to the field. -/
theorem step_of_plain (hb : Plain delimiter b) (s : State) :
    step delimiter s b = s.add s.place.inside b := by
  obtain ⟨hdelimiter, hquote, hend⟩ := hb
  have hfield : stepField delimiter s b = s.add .field b := by simp [stepField, hdelimiter, hend]
  have hstart : stepStart delimiter s b = s.add .field b := by simp [stepStart, hquote, hfield]
  unfold step
  cases s.place with
  | rowStart => simp [hend, hstart, Place.inside]
  | fieldStart => simp [hstart, Place.inside]
  | field => simp [hfield, Place.inside]
  | quoted => simp [hquote, Place.inside]
  | quote => simp [hquote, hfield, Place.inside]

/-- Plain bytes are added to the field one after the other. -/
theorem foldl_step_of_plain {bytes : List UInt8} (hne : bytes ≠ [])
    (hbytes : ∀ b ∈ bytes, Plain delimiter b) (s : State) :
    bytes.foldl (step delimiter) s
      = { s with place := s.place.inside, current := bytes.reverse ++ s.current } := by
  induction bytes generalizing s with
  | nil => exact absurd rfl hne
  | cons b bytes ih =>
    obtain ⟨hb, hbytes⟩ := List.forall_mem_cons.mp hbytes
    rw [List.foldl_cons, step_of_plain hb]
    rcases List.eq_nil_or_concat bytes with rfl | ⟨_, _, hconcat⟩
    · rfl
    · rw [ih (by simp [hconcat]) hbytes]
      simp [State.add, Place.inside_inside]

/-! ### Splitting along with a replacement -/

/-- Bytes of ASCII stay, and bytes beyond ASCII are replaced by such bytes, which do not begin a
byte order mark. -/
structure Spreads (enc : UInt8 → List UInt8) : Prop where
  ascii : ∀ {b}, b < 0x80 → enc b = [b]
  ne_nil : ∀ b, enc b ≠ []
  high : ∀ {b}, 0x80 ≤ b → ∀ c ∈ enc b, 0x80 ≤ c
  unmarked : ∀ {b c}, (enc b).head? = some c → c < 0xEF

/-- A state whose bytes are replaced. -/
def State.spread (enc : UInt8 → List UInt8) (s : State) : State where
  place := s.place
  current := (s.current.reverse.flatMap enc).reverse
  fields := s.fields.map (·.flatMap enc)
  rows := s.rows.map (·.map (·.flatMap enc))

variable {enc : UInt8 → List UInt8} {s : State}

@[simp] theorem State.spread_place : (s.spread enc).place = s.place := rfl

@[simp] theorem State.spread_start : State.start.spread enc = .start := rfl

theorem State.spread_move (p : Place) :
    { s.spread enc with place := p } = ({ s with place := p } : State).spread enc := rfl

theorem State.spread_endField : (s.spread enc).endField = s.endField.spread enc := by
  simp [State.spread, State.endField]

theorem State.spread_endRow : (s.spread enc).endRow = s.endRow.spread enc := by
  simp [State.spread, State.endRow]

theorem State.spread_add (h : enc b = [b]) (p : Place) :
    (s.spread enc).add p b = (s.add p b).spread enc := by
  simp [State.spread, State.add, h]

theorem stepField_spread (h : enc b = [b]) :
    stepField delimiter (s.spread enc) b = (stepField delimiter s b).spread enc := by
  unfold stepField
  rw [State.spread_endField, State.spread_endRow, State.spread_add h]
  split
  · rfl
  · split <;> rfl

theorem stepStart_spread (h : enc b = [b]) :
    stepStart delimiter (s.spread enc) b = (stepStart delimiter s b).spread enc := by
  unfold stepStart
  rw [stepField_spread h, State.spread_move]
  split <;> rfl

/-- A byte that stays is taken alike. -/
theorem step_spread (h : enc b = [b]) :
    step delimiter (s.spread enc) b = (step delimiter s b).spread enc := by
  unfold step
  rw [State.spread_place, stepStart_spread h, stepField_spread h, State.spread_add h,
    State.spread_move]
  cases s.place with
  | rowStart => exact (apply_ite (State.spread enc) _ s _).symm
  | fieldStart => rfl
  | field => rfl
  | quoted => exact (apply_ite (State.spread enc) _ _ _).symm
  | quote => exact (apply_ite (State.spread enc) _ _ _).symm

/-- What a byte is replaced by is taken like the byte. -/
theorem foldl_step_spread (hd : delimiter < 0x80) (henc : Spreads enc) (b : UInt8) (s : State) :
    (enc b).foldl (step delimiter) (s.spread enc) = (step delimiter s b).spread enc := by
  by_cases hb : b < 0x80
  · rw [henc.ascii hb]
    exact step_spread (henc.ascii hb)
  · -- the byte is plain in every place, and so are those that replace it
    have hb : 0x80 ≤ b := UInt8.not_lt.mp hb
    have hplain : ∀ c ∈ enc b, Plain delimiter c := fun c hc => plain_of_le hd (henc.high hb c hc)
    rw [foldl_step_of_plain (henc.ne_nil b) hplain, step_of_plain (plain_of_le hd hb)]
    simp [State.spread, State.add]

/-- Splitting goes along with the replacement of bytes. -/
theorem foldl_spread (hd : delimiter < 0x80) (henc : Spreads enc) (bytes : List UInt8)
    (s : State) :
    (bytes.flatMap enc).foldl (step delimiter) (s.spread enc)
      = (bytes.foldl (step delimiter) s).spread enc := by
  induction bytes generalizing s with
  | nil => rfl
  | cons b bytes ih =>
    rw [List.flatMap_cons, List.foldl_append, foldl_step_spread hd henc, ih, List.foldl_cons]

theorem finish_spread (s : State) :
    finish (s.spread enc) = (finish s).map (·.map (·.flatMap enc)) := by
  unfold finish
  rw [State.spread_place, State.spread_endRow]
  split
  · simp [State.spread]
  · simp [State.spread]

theorem dropMark_of_none {bytes : List UInt8} (h : byteOrderMark? bytes = none) :
    dropMark bytes = bytes := by
  unfold dropMark
  split
  · simp [byteOrderMark?] at h
  · rfl

/-- Bytes without a mark have none after the replacement. -/
theorem byteOrderMark?_flatMap (henc : Spreads enc) (bytes : List UInt8) :
    byteOrderMark? (bytes.flatMap enc) = none := by
  have hhead : ∀ c, (bytes.flatMap enc).head? = some c → c < 0xEF := by
    intro c hc
    cases bytes with
    | nil => simp at hc
    | cons b bytes =>
      obtain ⟨first, others, hbytes⟩ := List.exists_cons_of_ne_nil (henc.ne_nil b)
      have hb : (enc b).head? = some c := by
        rw [List.flatMap_cons, hbytes] at hc
        rw [hbytes]
        exact hc
      exact henc.unmarked hb
  unfold byteOrderMark?
  split
  · next hbytes => exact absurd (hhead _ (by rw [hbytes]; rfl)) (by decide)
  · next hbytes => exact absurd (hhead _ (by rw [hbytes]; rfl)) (by decide)
  · next hbytes => exact absurd (hhead _ (by rw [hbytes]; rfl)) (by decide)
  · rfl

/-- The fields of a text are replaced along with it. -/
theorem split_flatMap (hd : delimiter < 0x80) (henc : Spreads enc) {bytes : List UInt8}
    (h : byteOrderMark? bytes = none) :
    split delimiter (bytes.flatMap enc)
      = (split delimiter bytes).map (·.map (·.flatMap enc)) := by
  unfold split
  rw [dropMark_of_none h, dropMark_of_none (byteOrderMark?_flatMap henc bytes), ← finish_spread,
    ← foldl_spread hd henc, State.spread_start]

/-! ### Decoding fields -/

variable {e : Encoding} {text : Field → String} {enc : Field → Field}

theorem decodeRow_map {row : List Field}
    (h : ∀ field ∈ row, e.decode? (enc field) = some (text field)) :
    decodeRow e (row.map enc) = .ok (row.map text) := by
  induction row with
  | nil => rfl
  | cons field row ih =>
    obtain ⟨hfield, hrow⟩ := List.forall_mem_cons.mp h
    simp [decodeRow, hfield, ih hrow, Except.map]

theorem decodeRows_map {rows : List (List Field)}
    (h : ∀ row ∈ rows, ∀ field ∈ row, e.decode? (enc field) = some (text field)) (n : Nat) :
    decodeRows e n (rows.map (·.map enc))
      = .ok (rows.map fun row => Sheet.dropEmptyEnd (row.map text)) := by
  induction rows generalizing n with
  | nil => rfl
  | cons row rows ih =>
    obtain ⟨hrow, hrows⟩ := List.forall_mem_cons.mp h
    simp [decodeRows, decodeRow_map hrow, ih hrows, Except.map]

/-- The rows of a text whose fields can be decoded. -/
theorem readRows_eq_ok {bytes : List UInt8}
    (h : ∀ row ∈ split delimiter bytes, ∀ field ∈ row, e.decode? field = some (text field)) :
    readRows delimiter e bytes
      = .ok ((split delimiter bytes).map fun row => Sheet.dropEmptyEnd (row.map text)) := by
  have hrows : decodeRows e 1 ((split delimiter bytes).map (·.map id)) = .ok _ :=
    decodeRows_map h 1
  simpa [readRows] using hrows

/-! ### Code pages -/

variable {page : CodePage}

/-- The character of a byte, on pages on which each byte has one. -/
def charOf (page : CodePage) (b : UInt8) : Char := (page.char? b).getD '?'

/-- The text of bytes. -/
def textOf (page : CodePage) (bytes : List UInt8) : String :=
  String.ofList (bytes.map (charOf page))

/-- The bytes of the character of a byte in UTF-8. -/
def recode (page : CodePage) (b : UInt8) : List UInt8 := String.utf8EncodeChar (charOf page b)

theorem toNat_charOf_of_lt (hb : b < 0x80) : (charOf page b).toNat = b.toNat := by
  have hval : b.toNat < 128 := UInt8.lt_iff_toNat_lt.mp hb
  have hvalid : b.toNat.isValidChar := Or.inl (by omega)
  rw [charOf, CodePage.char?, if_pos hb, Option.getD_some, Char.ofNat, dif_pos hvalid]
  rfl

/-- A byte beyond ASCII stands for a character that the page lists. -/
theorem char?_of_le (hpage : HighBelowMark page) (hb : 0x80 ≤ b) :
    ∃ c, page.char? b = some c ∧ 0x80 ≤ c.toNat ∧ c.toNat < 0xF000 := by
  have hval : 128 ≤ b.toNat := UInt8.le_iff_toNat_le.mp hb
  have hindex : b.toNat - 0x80 < page.high.length := by
    have := b.toNat_lt
    rw [hpage.1]
    omega
  rw [CodePage.char?, if_neg (UInt8.not_lt.mpr hb), List.getD_eq_getElem?_getD,
    List.getElem?_eq_getElem hindex, Option.getD_some]
  have hchar := hpage.2 _ (List.getElem_mem hindex)
  cases hc : page.high[b.toNat - 0x80] with
  | none => simp [hc] at hchar
  | some c => exact ⟨c, rfl, by simpa [hc] using hchar⟩

theorem char?_eq_some_charOf (hpage : HighBelowMark page) (b : UInt8) :
    page.char? b = some (charOf page b) := by
  by_cases hb : b < 0x80
  · rw [charOf, CodePage.char?, if_pos hb, Option.getD_some]
  · obtain ⟨c, hc, -⟩ := char?_of_le hpage (UInt8.not_lt.mp hb)
    rw [charOf, hc, Option.getD_some]

theorem charOf_of_le (hpage : HighBelowMark page) (hb : 0x80 ≤ b) :
    0x80 ≤ (charOf page b).toNat ∧ (charOf page b).toNat < 0xF000 := by
  obtain ⟨c, hc, hchar⟩ := char?_of_le hpage hb
  rwa [charOf, hc, Option.getD_some]

theorem spreads_recode (hpage : HighBelowMark page) : Spreads (recode page) where
  ascii {b} hb := by
    have hval : b.toNat < 128 := UInt8.lt_iff_toNat_lt.mp hb
    have hchar : (charOf page b).toNat = b.toNat := toNat_charOf_of_lt hb
    rw [recode, utf8EncodeChar_of_lt (by omega), hchar, UInt8.ofNat_toNat]
  ne_nil b := String.utf8EncodeChar_ne_nil
  high {b} hb c hc := le_of_mem_utf8EncodeChar (charOf_of_le hpage hb).1 hc
  unmarked {b c} hc := by
    refine lt_mark_of_head_utf8EncodeChar ?_ hc
    by_cases hb : b < 0x80
    · have hval : b.toNat < 128 := UInt8.lt_iff_toNat_lt.mp hb
      rw [toNat_charOf_of_lt hb]
      omega
    · exact (charOf_of_le hpage (UInt8.not_lt.mp hb)).2

theorem decode?_page (hpage : HighBelowMark page) (bytes : List UInt8) :
    page.decode? bytes = some (textOf page bytes) := by
  have hchars : bytes.mapM page.char? = some (bytes.map (charOf page)) := by
    rw [funext (char?_eq_some_charOf hpage)]
    exact List.mapM_pure
  rw [CodePage.decode?, hchars]
  rfl

theorem decode?_of_singleByte (he : e.scheme = .singleByte page) (hpage : HighBelowMark page)
    {bytes : List UInt8} (h : byteOrderMark? bytes = none) :
    e.decode? bytes = some (textOf page bytes) := by
  simp only [Encoding.decode?, h, he]
  exact decode?_page hpage bytes

theorem toUTF8_textOf (bytes : List UInt8) :
    (textOf page bytes).toUTF8.data.toList = bytes.flatMap (recode page) := by
  rw [textOf, toUTF8_ofList, utf8Bytes, List.flatMap_map]
  rfl

theorem decode?_flatMap_recode (hpage : HighBelowMark page) (bytes : List UInt8) :
    Encoding.utf8.decode? (bytes.flatMap (recode page)) = some (textOf page bytes) := by
  simp only [Encoding.decode?, byteOrderMark?_flatMap (spreads_recode hpage)]
  rw [← toUTF8_textOf]
  exact decodeUtf8?_toUTF8 _

/-- **A text in a code page is read as the same rows as the text in UTF-8.** Neither the text nor
one of its fields may begin with a byte order mark. -/
theorem readRows_transcoded (he : e ∈ Encoding.all) (hname : e.name ∈ codePages)
    (hd : delimiter < 0x80) {bytes : List UInt8} (hmark : byteOrderMark? bytes = none)
    (hfields : ∀ row ∈ split delimiter bytes, ∀ field ∈ row, byteOrderMark? field = none) :
    ∃ text rows, e.decode? bytes = some text ∧ readRows delimiter e bytes = .ok rows
      ∧ readRows delimiter .utf8 text.toUTF8.data.toList = .ok rows := by
  obtain ⟨page, hscheme, hpage⟩ := scheme_of_mem_codePages he hname
  have hdecode : ∀ row ∈ split delimiter bytes, ∀ field ∈ row,
      e.decode? field = some (textOf page field) := fun row hrow field hfield =>
    decode?_of_singleByte hscheme hpage (hfields row hrow field hfield)
  refine ⟨textOf page bytes, _, decode?_of_singleByte hscheme hpage hmark,
    readRows_eq_ok hdecode, ?_⟩
  unfold readRows
  rw [toUTF8_textOf, split_flatMap hd (spreads_recode hpage) hmark]
  exact decodeRows_map (fun _ _ field _ => decode?_flatMap_recode hpage field) 1

/-- A euro sign, a quoted cell with a semicolon, a line end and a quote in it, and empty cells;
behind them a cell whose quote is never closed. -/
def semicolons : List UInt8 :=
  [0x80, 59, 34, 0xE9, 59, 10, 34, 34, 34, 59, 59, 13, 10, 34, 0xFC, 59]

theorem readRows_transcoded_semicolons :
    ∃ e ∈ Encoding.all, e.name = "windows-1252" ∧
      ∃ text rows, e.decode? semicolons = some text ∧ readRows 59 e semicolons = .ok rows
        ∧ readRows 59 .utf8 text.toUTF8.data.toList = .ok rows := by
  obtain ⟨e, he, hname⟩ : ∃ e ∈ Encoding.all, e.name = "windows-1252" := by simp [Encoding.all]
  have hpage : e.name ∈ codePages := by
    rw [hname]
    decide
  exact ⟨e, he, hname, readRows_transcoded he hpage (by decide) (by decide) (by decide)⟩

end SheetGrammar.Csv
