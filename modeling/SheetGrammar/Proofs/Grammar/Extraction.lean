import Mathlib.Algebra.Group.Int.Defs
import SheetGrammar.Proofs.Classifier.Failures
import SheetGrammar.Proofs.Config.Read

/-!
# Cells that are kept

A type of rows declares the cells that it keeps.  Where a row reaches as far as such a cell, its
text has to be one that the declared datatype accepts, and what it says is then kept; a text that
is not accepted refuses the row.  So no text is taken for a value that it does not say.

## Main definitions

* `IntegerText`, `Datatype.Accepts` — the texts of integers, and the texts of a datatype.
* `RowType.Declares` — the cells that were declared while a type was built.
* `CellEntry.text?`, `CellEntry.Fits`, `CellEntry.Gives` — a declared cell in a row.

## Main results

* `readInteger?_eq_some_iff`, `Datatype.read?_eq_some_iff` — exactly such texts are read.
* `RowType.Declares.extract_eq_ok_iff`, `RowType.Declares.extract_eq_error_iff` — what a type keeps
  of a row, and which cell refuses it.
* `RowType.extract_declared` — both together, with the range of integers and floats.
-/

namespace SheetGrammar

/-! ### Texts of integers -/

/-- Decimal digits, of which there is at least one. -/
def IsNumeral (ds : List Char) : Prop := ds ≠ [] ∧ ∀ d ∈ ds, d.isDigit = true

/-- A numeral, with or without a sign, is the text of an integer. -/
inductive IntegerText : List Char → Int → Prop
  | unsigned {ds : List Char} (h : IsNumeral ds) : IntegerText ds (digitsValue ds)
  | plus {ds : List Char} (h : IsNumeral ds) : IntegerText ('+' :: ds) (digitsValue ds)
  | minus {ds : List Char} (h : IsNumeral ds) : IntegerText ('-' :: ds) (-(digitsValue ds : Int))

theorem isNumeral_iff {ds : List Char} : IsNumeral ds ↔ ds ≠ [] ∧ ds.all Char.isDigit = true := by
  rw [IsNumeral, List.all_eq_true]

/-- A sign is taken off, and a text without one is left as it is. -/
theorem takeSign_cases (cs : List Char) :
    (∃ ds, cs = '-' :: ds ∧ Decimal.takeSign cs = (true, ds)) ∨
      (∃ ds, cs = '+' :: ds ∧ Decimal.takeSign cs = (false, ds)) ∨
      Decimal.takeSign cs = (false, cs) := by
  unfold Decimal.takeSign
  split
  · exact .inl ⟨_, rfl, rfl⟩
  · exact .inr (.inl ⟨_, rfl, rfl⟩)
  · exact .inr (.inr rfl)

/-- A numeral has no sign. -/
theorem IsNumeral.takeSign_eq {ds : List Char} (h : IsNumeral ds) :
    Decimal.takeSign ds = (false, ds) := by
  rcases takeSign_cases ds with ⟨rest, rfl, -⟩ | ⟨rest, rfl, -⟩ | heq
  · exact absurd (h.2 '-' List.mem_cons_self) (by decide)
  · exact absurd (h.2 '+' List.mem_cons_self) (by decide)
  · exact heq

/-- Exactly the texts of integers are read, as the integers that they are texts of. -/
theorem readInteger?_eq_some_iff {cs : List Char} {n : Int} :
    readInteger? cs = some n ↔ IntegerText cs n := by
  constructor
  · intro h
    unfold readInteger? at h
    rcases takeSign_cases cs with ⟨ds, rfl, hsign⟩ | ⟨ds, rfl, hsign⟩ | hsign
    all_goals
      rw [hsign] at h
      obtain ⟨hdigits, hn⟩ := Option.ite_none_right_eq_some.mp h
      obtain rfl := Option.some.inj hn
    · exact .minus (isNumeral_iff.mpr hdigits)
    · exact .plus (isNumeral_iff.mpr hdigits)
    · exact .unsigned (isNumeral_iff.mpr hdigits)
  · intro h
    cases h with
    | unsigned h => simp [readInteger?, h.takeSign_eq, isNumeral_iff.mp h]
    | plus h => simp [readInteger?, Decimal.takeSign, isNumeral_iff.mp h]
    | minus h => simp [readInteger?, Decimal.takeSign, isNumeral_iff.mp h]

/-- Exactly the integers of 64 bits are held by a cell. -/
theorem Int64.ofInt?_eq_some_iff {n : Int} {k : Int64} : Int64.ofInt? n = some k ↔ k.toInt = n := by
  have hword : (wordSize 63 : Int) = 2 ^ 63 := by decide
  rw [Int64.ofInt?, hword, Option.ite_none_right_eq_some, Option.some.injEq]
  constructor
  · rintro ⟨⟨hlow, hhigh⟩, rfl⟩
    exact Int64.toInt_ofInt_of_le hlow hhigh
  · rintro rfl
    exact ⟨⟨k.le_toInt, k.toInt_lt⟩, k.ofInt_toInt⟩

/-! ### Texts of a datatype -/

/-- A datatype accepts the text of a cell as a value. -/
inductive Datatype.Accepts (raw : String) : Datatype → Value → Prop
  /-- A string is the text as it stands. -/
  | string : Accepts raw .string (.string raw)
  /-- Without the blanks around it the text is that of an integer of 64 bits. -/
  | integer {n : Int64} (h : IntegerText (trimBlanks raw.toList) n.toInt) :
      Accepts raw .integer (.integer n)
  /-- Without the blanks around it the text is that of a float, which is a number and not
  infinite. -/
  | float {x : Float} (h : readFloat? (trimBlanks raw.toList) = some x) (hnan : x.isNaN = false)
      (hinf : x.isInf = false) : Accepts raw .float (.float x)

theorem isFinite_eq (x : Float) : x.isFinite = (!x.isNaN && !x.isInf) := by
  unfold Float.isFinite Float.isNaN Float.isInf Float.Model.isFinite Float.Model.isNaN
    Float.Model.isInf
  cases x.toModel.unpack <;> rfl

/-- Exactly the texts that a datatype accepts are read. -/
theorem Datatype.read?_eq_some_iff {d : Datatype} {raw : String} {value : Value} :
    d.read? raw = some value ↔ d.Accepts raw value := by
  cases d with
  | string =>
    constructor
    · intro h
      obtain rfl := Option.some.inj h
      exact .string
    · rintro ⟨⟩
      rfl
  | integer =>
    simp only [read?, Option.map_eq_some_iff, Option.bind_eq_some_iff, readInteger?_eq_some_iff,
      Int64.ofInt?_eq_some_iff]
    constructor
    · rintro ⟨k, ⟨_, htext, rfl⟩, rfl⟩
      exact .integer htext
    · rintro ⟨⟩
      next n htext => exact ⟨n, ⟨_, htext, rfl⟩, rfl⟩
  | float =>
    simp only [read?, Option.map_eq_some_iff, Option.filter_eq_some_iff, isFinite_eq,
      Bool.and_eq_true, Bool.not_eq_true']
    constructor
    · rintro ⟨x, ⟨htext, hnan, hinf⟩, rfl⟩
      exact .float htext hnan hinf
    · rintro ⟨⟩
      next x htext hnan hinf => exact ⟨x, ⟨htext, hnan, hinf⟩, rfl⟩

/-- The integers that are accepted are those of 64 bits. -/
theorem Datatype.exists_accepts_integer_iff {raw : String} :
    (∃ value, integer.Accepts raw value) ↔
      ∃ n, IntegerText (trimBlanks raw.toList) n ∧ -2 ^ 63 ≤ n ∧ n ≤ 2 ^ 63 - 1 := by
  constructor
  · rintro ⟨_, ⟨⟩⟩
    next n htext =>
    have hhigh := n.toInt_lt
    exact ⟨n.toInt, htext, n.le_toInt, by omega⟩
  · rintro ⟨n, htext, hlow, hhigh⟩
    have hn : (Int64.ofInt n).toInt = n := Int64.toInt_ofInt_of_le hlow (by omega)
    exact ⟨_, .integer (hn.symm ▸ htext)⟩

/-! ### Declared cells -/

namespace CellEntry

variable {c : CellEntry} {x : Extraction} {t : RowType} {cells : List String} {sheet : String}

/-- The text of a declared cell in a row, if the row reaches as far. -/
def text? (cells : List String) (c : CellEntry) : Option String :=
  match columnIndex c.col with
  | .ok i => cells[i]?
  | .error _ => none

/-- Whether a row reaches as far as a declared cell. -/
def inside (cells : List String) (c : CellEntry) : Bool := (c.text? cells).isSome

/-- A declared cell gives a column of a row: at its address without blanks around it, under its tag,
and with a value as which its text is accepted. -/
structure Gives (cells : List String) (c : CellEntry) (column : Column) : Prop where
  col : column.col = trim c.col
  tag : column.tag = c.tag
  value : ∃ raw, c.text? cells = some raw ∧ c.datatype.Accepts raw column.value

/-- A row has nothing in a declared cell that is not accepted. -/
def Fits (cells : List String) (c : CellEntry) : Prop :=
  ∀ raw, c.text? cells = some raw → ∃ value, c.datatype.Accepts raw value

/-- A declared cell refuses a row of a type, since its text is not accepted; the error shows that
text as it stands. -/
def Refuses (name sheet : String) (cells : List String) (c : CellEntry) (e : Error) : Prop :=
  ∃ raw, c.text? cells = some raw ∧ (∀ value, ¬ c.datatype.Accepts raw value) ∧
    e = .extraction name (trim c.col) raw c.datatype.name sheet

theorem Means.get?_eq (h : c.Means x) : x.cell.get? cells = c.text? cells := by
  obtain ⟨i, hi, hx⟩ := Except.map_eq_ok_iff.mp h.cell
  rw [text?, hi, ← hx]
  rfl

theorem Means.address_eq (h : c.Means x) : x.cell.address = trim c.col := by
  obtain ⟨i, -, hx⟩ := Except.map_eq_ok_iff.mp h.cell
  rw [← hx]

/-- A column is what is read of a cell that lies inside the row. -/
theorem gives_iff {column : Column} :
    c.Gives cells column ↔ ∃ raw value, c.text? cells = some raw ∧
      c.datatype.read? raw = some value ∧ column = ⟨trim c.col, c.tag, value⟩ := by
  constructor
  · rintro ⟨hcol, htag, raw, htext, hvalue⟩
    exact ⟨raw, column.value, htext, Datatype.read?_eq_some_iff.mpr hvalue, by rw [← hcol, ← htag]⟩
  · rintro ⟨raw, value, htext, hread, rfl⟩
    exact ⟨rfl, rfl, raw, htext, Datatype.read?_eq_some_iff.mp hread⟩

theorem Gives.inside_eq {column : Column} (h : c.Gives cells column) : c.inside cells = true := by
  obtain ⟨raw, htext, -⟩ := h.value
  rw [inside, htext, Option.isSome_some]

/-- A text fits unless it is not read. -/
theorem forall_not_accepts_iff {d : Datatype} {raw : String} :
    (∀ value, ¬ d.Accepts raw value) ↔ d.read? raw = none := by
  simp only [← Datatype.read?_eq_some_iff, Option.eq_none_iff_forall_ne_some, ne_eq]

theorem Means.extractCell_eq (h : c.Means x) :
    t.extractCell cells sheet x =
      match c.text? cells with
      | none => .ok none
      | some raw =>
        match c.datatype.read? raw with
        | some value => .ok (some ⟨trim c.col, c.tag, value⟩)
        | none => .error (.extraction t.name (trim c.col) raw c.datatype.name sheet) := by
  rw [RowType.extractCell, h.get?_eq, h.datatype, h.address_eq]
  cases c.text? cells with
  | none => rfl
  | some raw =>
    cases hread : c.datatype.read? raw with
    | none => simp only [hread]
    | some value => simp only [hread, h.tag]

/-- A cell beyond the end of a row gives nothing. -/
theorem Means.extractCell_eq_none_iff (h : c.Means x) :
    t.extractCell cells sheet x = .ok none ↔ c.inside cells = false := by
  rw [h.extractCell_eq, inside, Option.isSome_eq_false_iff, Option.isNone_iff_eq_none]
  cases c.text? cells with
  | none => simp
  | some raw => cases hread : c.datatype.read? raw <;> simp [hread]

/-- A cell inside a row gives a column. -/
theorem Means.extractCell_eq_some_iff (h : c.Means x) {column : Column} :
    t.extractCell cells sheet x = .ok (some column) ↔ c.Gives cells column := by
  rw [h.extractCell_eq, gives_iff]
  cases c.text? cells with
  | none => simp
  | some raw => cases hread : c.datatype.read? raw <;> simp [hread, eq_comm]

theorem Means.extractCell_eq_error_iff (h : c.Means x) {e : Error} :
    t.extractCell cells sheet x = .error e ↔ c.Refuses t.name sheet cells e := by
  simp only [h.extractCell_eq, Refuses, forall_not_accepts_iff]
  cases c.text? cells with
  | none => simp
  | some raw => cases hread : c.datatype.read? raw <;> simp [hread, eq_comm]

/-- A declared cell refuses a row, or there is nothing in it that is not accepted. -/
theorem Means.exists_extractCell_eq_ok_iff (h : c.Means x) :
    (∃ o, t.extractCell cells sheet x = .ok o) ↔ c.Fits cells := by
  simp only [h.extractCell_eq, Fits, ← Datatype.read?_eq_some_iff]
  cases c.text? cells with
  | none => simp
  | some raw => cases hread : c.datatype.read? raw <;> simp [hread]

end CellEntry

/-! ### Declared types -/

namespace RowType

variable {t t' : RowType} {cs : List CellEntry} {xs : List Extraction} {cells : List String}
  {sheet : String} {columns : List Column} {e : Error}

/-- The cells that were declared while a type was built, in order; conditions and children may be
added in between. -/
inductive Declares : RowType → List CellEntry → Prop
  | ofName (name : String) : Declares (ofName name) []
  | condition {t t' : RowType} {cs : List CellEntry} {address pattern : String} (h : Declares t cs)
      (ht : t.withCondition address pattern = .ok t') : Declares t' cs
  | children {t : RowType} {cs : List CellEntry} (h : Declares t cs) (names : List String) :
      Declares (t.withChildren names) cs
  | cell {t t' : RowType} {cs : List CellEntry} (h : Declares t cs) (c : CellEntry)
      (ht : t.withCell c.col c.tag c.datatype = .ok t') : Declares t' (cs ++ [c])

/-- A type keeps exactly the cells that were declared. -/
theorem Declares.means (h : t.Declares cs) : List.Forall₂ CellEntry.Means cs t.extractions := by
  induction h with
  | ofName name => exact .nil
  | condition _ ht ih => rwa [extractions_of_withCondition ht]
  | children _ names ih => exact ih
  | cell _ c ht ih =>
    obtain ⟨cell, hcell, hextractions⟩ := extractions_of_withCell ht
    rw [hextractions]
    exact List.rel_append ih (.cons ⟨hcell, rfl, rfl⟩ .nil)

theorem extractAll_eq_ok_iff (h : List.Forall₂ CellEntry.Means cs xs) :
    t.extractAll cells sheet xs = .ok columns ↔
      List.Forall₂ (CellEntry.Gives cells) (cs.filter (CellEntry.inside cells)) columns := by
  induction h generalizing columns with
  | nil => simp [extractAll, eq_comm]
  | @cons c x cs xs hcx _ ih =>
    rw [extractAll_cons_eq_ok_iff]
    constructor
    · rintro ⟨o, ho, rest, hrest, rfl⟩
      cases o with
      | none =>
        have hbeyond := hcx.extractCell_eq_none_iff.mp ho
        rw [List.filter_cons_of_neg (Bool.eq_false_iff.mp hbeyond)]
        exact ih.mp hrest
      | some column =>
        have hgives := hcx.extractCell_eq_some_iff.mp ho
        rw [List.filter_cons_of_pos hgives.inside_eq]
        exact .cons hgives (ih.mp hrest)
    · intro hcolumns
      cases hinside : c.inside cells with
      | true =>
        rw [List.filter_cons_of_pos hinside] at hcolumns
        obtain ⟨column, rest, hgives, hrest, rfl⟩ := List.forall₂_cons_left_iff.mp hcolumns
        exact ⟨some column, hcx.extractCell_eq_some_iff.mpr hgives, rest, ih.mpr hrest, rfl⟩
      | false =>
        rw [List.filter_cons_of_neg (Bool.eq_false_iff.mp hinside)] at hcolumns
        exact ⟨none, hcx.extractCell_eq_none_iff.mpr hinside, columns, ih.mpr hcolumns, rfl⟩

theorem extractAll_eq_error_iff (h : List.Forall₂ CellEntry.Means cs xs) :
    t.extractAll cells sheet xs = .error e ↔
      ∃ before c after, cs = before ++ c :: after ∧ (∀ b ∈ before, b.Fits cells) ∧
        c.Refuses t.name sheet cells e := by
  induction h with
  | nil => simp [extractAll]
  | @cons c x cs xs hcx _ ih =>
    rw [extractAll_cons_eq_error_iff, hcx.extractCell_eq_error_iff,
      hcx.exists_extractCell_eq_ok_iff, ih]
    constructor
    · rintro (hrefuses | ⟨hfits, before, c', after, rfl, hbefore, hrefuses⟩)
      · exact ⟨[], c, cs, rfl, by simp, hrefuses⟩
      · exact ⟨c :: before, c', after, rfl, List.forall_mem_cons.mpr ⟨hfits, hbefore⟩, hrefuses⟩
    · rintro ⟨before, c', after, heq, hbefore, hrefuses⟩
      cases before with
      | nil =>
        obtain ⟨rfl, rfl⟩ := List.cons.inj heq
        exact .inl hrefuses
      | cons b before =>
        obtain ⟨rfl, rfl⟩ := List.cons.inj heq
        obtain ⟨hfits, hbefore⟩ := List.forall_mem_cons.mp hbefore
        exact .inr ⟨hfits, before, c', after, rfl, hbefore, hrefuses⟩

/-- A type keeps one column for each declared cell that lies inside the row. -/
theorem Declares.extract_eq_ok_iff (h : t.Declares cs) :
    t.extract cells sheet = .ok columns ↔
      List.Forall₂ (CellEntry.Gives cells) (cs.filter (CellEntry.inside cells)) columns :=
  extractAll_eq_ok_iff h.means

/-- A row is refused by the first declared cell whose text is not accepted. -/
theorem Declares.extract_eq_error_iff (h : t.Declares cs) :
    t.extract cells sheet = .error e ↔
      ∃ before c after, cs = before ++ c :: after ∧ (∀ b ∈ before, b.Fits cells) ∧
        c.Refuses t.name sheet cells e :=
  extractAll_eq_error_iff h.means

/-- A row is read if and only if all texts in declared cells are accepted. -/
theorem Declares.exists_extract_eq_ok_iff (h : t.Declares cs) :
    (∃ columns, t.extract cells sheet = .ok columns) ↔ ∀ c ∈ cs, c.Fits cells := by
  constructor
  · rintro ⟨columns, hcolumns⟩ c hc raw htext
    have hinside : c ∈ cs.filter (CellEntry.inside cells) :=
      List.mem_filter.mpr ⟨hc, by rw [CellEntry.inside, htext, Option.isSome_some]⟩
    obtain ⟨column, -, hgives⟩ := (h.extract_eq_ok_iff.mp hcolumns).exists_of_mem_left hinside
    obtain ⟨raw', htext', hvalue⟩ := hgives.value
    obtain rfl := Option.some.inj (htext.symm.trans htext')
    exact ⟨column.value, hvalue⟩
  · intro hfits
    cases hextract : t.extract cells sheet with
    | ok columns => exact ⟨columns, rfl⟩
    | error e =>
      obtain ⟨before, c, after, rfl, -, raw, htext, hnot, -⟩ := h.extract_eq_error_iff.mp hextract
      obtain ⟨value, hvalue⟩ := hfits c (by simp) raw htext
      exact absurd hvalue (hnot value)

/-- **What is kept of a row is what its texts say.** A row is read if and only if each declared cell
inside it has a text that the declared datatype accepts.  What is kept then is one column for each
declared cell inside the row, in the order of the declarations, with the declared address without
blanks around it, the declared tag, and the value that the text is accepted as.  Otherwise the first
cell whose text is not accepted is shown, with that text as it stands.  As integers exactly those of
64 bits are accepted, and no float that is kept is infinite or not a number. -/
theorem extract_declared (h : t.Declares cs) (cells : List String) (sheet : String) :
    ((∃ columns, t.extract cells sheet = .ok columns) ↔ ∀ c ∈ cs, c.Fits cells) ∧
    (∀ columns, t.extract cells sheet = .ok columns ↔
      List.Forall₂ (CellEntry.Gives cells) (cs.filter (CellEntry.inside cells)) columns) ∧
    (∀ e, t.extract cells sheet = .error e ↔
      ∃ before c after, cs = before ++ c :: after ∧ (∀ b ∈ before, b.Fits cells) ∧
        c.Refuses t.name sheet cells e) ∧
    (∀ raw, (∃ value, Datatype.integer.Accepts raw value) ↔
      ∃ n, IntegerText (trimBlanks raw.toList) n ∧ -2 ^ 63 ≤ n ∧ n ≤ 2 ^ 63 - 1) ∧
    (∀ columns, t.extract cells sheet = .ok columns →
      ∀ column ∈ columns, ∀ x, column.value = .float x → x.isNaN = false ∧ x.isInf = false) := by
  refine ⟨h.exists_extract_eq_ok_iff, fun _ => h.extract_eq_ok_iff,
    fun _ => h.extract_eq_error_iff, fun _ => Datatype.exists_accepts_integer_iff, ?_⟩
  intro columns hcolumns column hcolumn x hx
  obtain ⟨c, -, hgives⟩ := (h.extract_eq_ok_iff.mp hcolumns).exists_of_mem hcolumn
  obtain ⟨raw, -, hvalue⟩ := hgives.value
  generalize c.datatype = d at hvalue
  rw [hx] at hvalue
  cases hvalue with
  | float _ hnan hinf => exact ⟨hnan, hinf⟩

/-- A quantity, a price and a remark are kept of an item. -/
def itemCells : List CellEntry :=
  [⟨" a ", "qty", .integer⟩, ⟨"2", "price", .float⟩, ⟨"D", "note", .string⟩]

/-- The type of items that keeps them. -/
def itemType : RowType :=
  ⟨"item", [],
    [⟨⟨"a", 0⟩, "qty", .integer⟩, ⟨⟨"2", 1⟩, "price", .float⟩, ⟨⟨"D", 3⟩, "note", .string⟩],
    ["item"]⟩

theorem declares_itemCells : itemType.Declares itemCells := by
  have hqty : (ofName "item").withCell " a " "qty" .integer
      = .ok ⟨"item", [], [⟨⟨"a", 0⟩, "qty", .integer⟩], []⟩ := by with_unfolding_all rfl
  have hprice : RowType.withCell ⟨"item", [], [⟨⟨"a", 0⟩, "qty", .integer⟩], ["item"]⟩ "2" "price"
      .float = .ok ⟨"item", [], [⟨⟨"a", 0⟩, "qty", .integer⟩, ⟨⟨"2", 1⟩, "price", .float⟩],
        ["item"]⟩ := by with_unfolding_all rfl
  have hnote : RowType.withCell ⟨"item", [], [⟨⟨"a", 0⟩, "qty", .integer⟩,
      ⟨⟨"2", 1⟩, "price", .float⟩], ["item"]⟩ "D" "note" .string = .ok itemType := by
    with_unfolding_all rfl
  have hfirst : Declares _ [⟨" a ", "qty", .integer⟩] := .cell (.ofName "item") _ hqty
  have htwo := (hfirst.children ["item"]).cell ⟨"2", "price", .float⟩ hprice
  exact htwo.cell ⟨"D", "note", .string⟩ hnote

/-- The lower limit of integers, in a row that ends before the remark, and infinity, which is no
price. -/
theorem extract_declared_limits :
    itemType.Declares itemCells ∧
      itemType.extract [" -9223372036854775808", "9.5\n"] "s"
        = .ok [⟨"a", "qty", .integer Int64.minValue⟩, ⟨"2", "price", .float 9.5⟩] ∧
      itemType.extract ["+7", " inf", "", ""] "s"
        = .error (.extraction "item" "2" " inf" "float" "s") ∧
      (∀ value, ¬ Datatype.integer.Accepts "9223372036854775808" value) := by
  refine ⟨declares_itemCells, ?_, ?_, ?_⟩
  · obtain ⟨-, hok, -⟩ :=
      extract_declared declares_itemCells [" -9223372036854775808", "9.5\n"] "s"
    refine (hok _).mpr (.cons ?_ (.cons ?_ .nil))
    · exact ⟨by decide +kernel, rfl, _, rfl, Datatype.read?_eq_some_iff.mp (by decide +kernel)⟩
    · exact ⟨by decide +kernel, rfl, _, rfl, Datatype.read?_eq_some_iff.mp (by decide +kernel)⟩
  · obtain ⟨-, -, herror, -⟩ := extract_declared declares_itemCells ["+7", " inf", "", ""] "s"
    refine (herror _).mpr ⟨[_], _, [_], rfl, List.forall_mem_singleton.mpr ?_, " inf", rfl, ?_, ?_⟩
    · intro raw htext
      obtain rfl : "+7" = raw := Option.some.inj htext
      exact ⟨.integer 7, Datatype.read?_eq_some_iff.mp (by decide +kernel)⟩
    · exact CellEntry.forall_not_accepts_iff.mpr (by decide +kernel)
    · decide +kernel
  · exact CellEntry.forall_not_accepts_iff.mpr (by decide +kernel)

end RowType

end SheetGrammar
