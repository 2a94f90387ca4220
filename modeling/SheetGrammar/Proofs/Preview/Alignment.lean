import Mathlib.Data.List.Forall2
import SheetGrammar.Proofs.Preview.Lines

/-!
# Where the cells of a table start

The lines of a table have three cells, each filled up to the width of its column.  So the second
cell starts at one place in all lines, and so does the third one in the heads and in the lines of
records.  The line of dashes has widths of its own, which are at least three: its third cell starts
further right as long as no index that is shown has three digits.

## Main definitions

* `Preview.blanks`, `Preview.Shows` — a line with three cells, and where the last two start.
* `Preview.widest` — the width of a column.
* `SheetTree.tableCells`, `SheetTree.Aligned` — the cells of all lines, and lines that start them at
  common places.

## Main results

* `Preview.columnWidths_three`, `Preview.le_widest_iff` — the widths are those of the widest cells.
* `Preview.shows_tableLine` — where the cells of a line start.
* `Preview.Shows.unique` — a line tells where its cells start.
* `SheetTree.preview_offsets` — where the cells of a preview start, and when they are aligned.
-/

namespace SheetGrammar

namespace Preview

/-! ### Widths -/

/-- The width of the widest cell, but no less than a given width. -/
def widest (width : Nat) (cells : List Cell) : Nat := cells.foldl (fun w c => max w c.length) width

@[simp] theorem widest_nil (width : Nat) : widest width [] = width := rfl

@[simp] theorem widest_cons (width : Nat) (c : Cell) (cells : List Cell) :
    widest width (c :: cells) = widest (max width c.length) cells := rfl

/-- As wide as the widest cell is some cell, unless the given width is wider. -/
theorem le_widest_iff {n width : Nat} {cells : List Cell} :
    n ≤ widest width cells ↔ n ≤ width ∨ ∃ c ∈ cells, n ≤ c.length := by
  induction cells generalizing width with
  | nil => simp
  | cons c cells ih =>
    have hmax : n ≤ max width c.length ↔ n ≤ width ∨ n ≤ c.length := by omega
    rw [widest_cons, ih, hmax, or_assoc]
    simp

theorem le_widest (width : Nat) (cells : List Cell) : width ≤ widest width cells :=
  le_widest_iff.mpr (.inl (Nat.le_refl width))

theorem length_le_widest {width : Nat} {cells : List Cell} {c : Cell} (h : c ∈ cells) :
    c.length ≤ widest width cells :=
  le_widest_iff.mpr (.inr ⟨c, h, Nat.le_refl _⟩)

/-- Each column is as wide as its widest cell. -/
theorem columnWidths_three {α : Type} (x y z : α → Cell) (a b c : Cell) (rows : List α) :
    columnWidths [a, b, c] (rows.map fun r => [x r, y r, z r])
      = [widest a.length (rows.map x), widest b.length (rows.map y),
        widest c.length (rows.map z)] := by
  suffices h : ∀ i j k, (rows.map fun r => [x r, y r, z r]).foldl
      (fun widths row => List.zipWith (fun w c => max w c.length) widths row) [i, j, k]
      = [widest i (rows.map x), widest j (rows.map y), widest k (rows.map z)] from h _ _ _
  induction rows with
  | nil => exact fun i j k => rfl
  | cons r rows ih => exact fun i j k => ih _ _ _

/-! ### Lines -/

/-- Some blanks. -/
def blanks (n : Nat) : List Char := List.replicate n ' '

theorem isBlank_of_mem_blanks {n : Nat} {c : Char} (h : c ∈ blanks n) : isBlank c = true := by
  rw [List.eq_of_mem_replicate h]
  decide

@[simp] theorem length_flatten (c : Cell) : (flatten c).length = c.length := List.length_map _

@[simp] theorem length_blanks (n : Nat) : (blanks n).length = n := List.length_replicate

/-- A line shows three cells, of which the second and the third start behind so many characters;
of the third one, the blanks at its end are not shown. -/
inductive Shows (second third : Nat) : List Cell → List Char → Prop
  | three {a b c : Cell} {gap gap' : Nat} (hc : dropBlanksEnd (flatten c) ≠ [])
      (hsecond : (flatten a ++ blanks gap).length = second)
      (hthird : (flatten a ++ blanks gap ++ flatten b ++ blanks gap').length = third) :
      Shows second third [a, b, c]
        (flatten a ++ blanks gap ++ flatten b ++ blanks gap' ++ dropBlanksEnd (flatten c))
  /-- The third cell is blank, so that it starts nowhere. -/
  | two {a b c : Cell} {gap : Nat} (hc : dropBlanksEnd (flatten c) = [])
      (hsecond : (flatten a ++ blanks gap).length = second) :
      Shows second third [a, b, c] (flatten a ++ blanks gap ++ flatten b)

/-- A cell of which all is shown: it is not empty and has no blanks. -/
structure Solid (c : Cell) : Prop where
  ne_nil : c ≠ []
  not_blank : ∀ ch ∈ c, isBlank ch = false

theorem Solid.flatten_eq {c : Cell} (h : Solid c) : flatten c = c := by
  refine (List.map_congr_left fun ch hch => ?_).trans c.map_id
  have hnot : ¬ (ch = '\n' ∨ ch = '\r' ∨ ch = '\t') := by
    -- each of these is a blank itself
    rintro (rfl | rfl | rfl) <;> exact absurd (h.not_blank _ hch) (by decide)
  exact if_neg hnot

theorem Solid.dropBlanksEnd_eq {c : Cell} (h : Solid c) :
    dropBlanksEnd (flatten c) = flatten c := by
  rw [h.flatten_eq]
  exact dropBlanksEnd_of_getLast fun ch hch => h.not_blank ch (List.mem_of_mem_getLast? hch)

theorem Solid.dropBlanksEnd_ne_nil {c : Cell} (h : Solid c) : dropBlanksEnd (flatten c) ≠ [] := by
  rw [h.dropBlanksEnd_eq, h.flatten_eq]
  exact h.ne_nil

theorem solid_index (n : Nat) : Solid (toString n).toList := by
  have heq : (toString n).toList = Nat.toDigits 10 n := by simp
  rw [heq]
  refine ⟨Nat.toDigits_ne_nil, fun ch hch => ?_⟩
  have hdigit : ch.isDigit = true := Nat.isDigit_of_mem_toDigits (by decide) (by decide) hch
  simp only [Char.isDigit, Bool.and_eq_true, decide_eq_true_eq, UInt32.le_iff_toNat_le] at hdigit
  exact isBlank_eq_false (Nat.lt_of_lt_of_le (by decide) hdigit.1)
    (Nat.lt_of_le_of_lt hdigit.2 (by decide))

theorem solid_of_mem_heads {cell : Cell} (h : cell ∈ heads) : Solid cell := by
  simp only [heads, List.mem_cons, List.not_mem_nil, or_false] at h
  rcases h with rfl | rfl | rfl <;> exact ⟨by simp, by simp [isBlank]⟩

theorem solid_dashes {n : Nat} (h : n ≠ 0) : Solid (List.replicate n '-') := by
  refine ⟨by simpa using h, fun ch hch => ?_⟩
  rw [List.eq_of_mem_replicate hch]
  decide

theorem tableLine_three (i j k : Nat) (a b c : Cell) :
    tableLine [i, j, k] [a, b, c]
      = dropBlanksEnd (flatten a ++ blanks (i - a.length + 2) ++ flatten b
        ++ blanks (j - b.length + 2) ++ flatten c ++ blanks (k - c.length)) := by
  have hgap : ∀ n, blanks (n + 2) = blanks n ++ [' ', ' '] :=
    fun n => List.replicate_append_replicate.symm
  have hfill : ∀ n (c : Cell), fill n (flatten c) = flatten c ++ blanks (n - c.length) := by
    intro n c
    rw [fill, length_flatten, blanks]
  simp only [tableLine, List.zipWith, List.intercalate_cons_cons, List.intercalate_singleton, hfill,
    hgap, List.append_assoc]

/-- The cells of a line start behind the widths of the columns before them. -/
theorem shows_tableLine {i j : Nat} (k : Nat) {a b : Cell} (c : Cell) (ha : a.length ≤ i)
    (hb : b.length ≤ j) (hsolid : Solid b) :
    Shows (i + 2) (i + 2 + j + 2) [a, b, c] (tableLine [i, j, k] [a, b, c]) := by
  have hsecond : (flatten a ++ blanks (i - a.length + 2)).length = i + 2 := by
    simp only [List.length_append, length_flatten, length_blanks]
    omega
  rw [tableLine_three, dropBlanksEnd_append fun _ => isBlank_of_mem_blanks]
  by_cases hc : dropBlanksEnd (flatten c) = []
  · -- nothing behind the second cell is left
    rw [dropBlanksEnd_append (dropBlanksEnd_eq_nil_iff.mp hc),
      dropBlanksEnd_append fun _ => isBlank_of_mem_blanks,
      dropBlanksEnd_append_of_ne_nil hsolid.dropBlanksEnd_ne_nil, hsolid.dropBlanksEnd_eq]
    exact .two hc hsecond
  · rw [dropBlanksEnd_append_of_ne_nil hc]
    refine .three hc hsecond ?_
    simp only [List.length_append, length_flatten, length_blanks] at hsecond ⊢
    omega

/-- A line whose third cell is not blank shows it. -/
theorem Shows.exists_gaps {second third : Nat} {a b c : Cell} {line : List Char}
    (h : Shows second third [a, b, c] line) (hc : dropBlanksEnd (flatten c) ≠ []) :
    ∃ gap gap', (flatten a ++ blanks gap).length = second ∧
      (flatten a ++ blanks gap ++ flatten b ++ blanks gap').length = third ∧
      line = flatten a ++ blanks gap ++ flatten b ++ blanks gap' ++ dropBlanksEnd (flatten c) := by
  cases h with
  | three _ hsecond hthird => exact ⟨_, _, hsecond, hthird, rfl⟩
  | two hnil _ => exact absurd hnil hc

/-- The blanks in front of what is not blank are counted. -/
theorem blanks_append_inj {m n : Nat} {ch : Char} {cs ds : List Char} (hch : isBlank ch = false)
    (h : blanks m ++ ch :: cs = blanks n ++ ch :: ds) : m = n := by
  have hlength : ∀ (n : Nat) (ds : List Char),
      ((blanks n ++ ch :: ds).takeWhile isBlank).length = n := by
    intro n ds
    rw [List.takeWhile_append_of_pos fun _ => isBlank_of_mem_blanks,
      List.takeWhile_cons_of_neg (by simp [hch]), List.append_nil, length_blanks]
  rw [← hlength m cs, h, hlength]

/-- A line tells where its cells start. -/
theorem Shows.unique {second third second' third' : Nat} {a b c : Cell} {line : List Char}
    (h : Shows second third [a, b, c] line) (h' : Shows second' third' [a, b, c] line)
    (hb : Solid b) (hc : dropBlanksEnd (flatten c) ≠ []) : second = second' ∧ third = third' := by
  obtain ⟨gap, gap', rfl, rfl, hline⟩ := h.exists_gaps hc
  obtain ⟨gap₂, gap₂', rfl, rfl, hline'⟩ := h'.exists_gaps hc
  have heq := hline.symm.trans hline'
  have hgap : gap = gap₂ := by
    obtain ⟨ch, cs, hcons⟩ := List.exists_cons_of_ne_nil hb.ne_nil
    have hch : isBlank ch = false := hb.not_blank ch (hcons ▸ List.mem_cons_self)
    have hflatten : flatten b = ch :: cs := hb.flatten_eq.trans hcons
    simp only [hflatten, List.append_assoc, List.cons_append] at heq
    exact blanks_append_inj hch (List.append_cancel_left heq)
  have hlength := congrArg List.length heq
  simp only [List.length_append, length_flatten, length_blanks] at hlength ⊢
  omega

end Preview

/-! ### Sheets -/

namespace SheetTree

open Preview

variable (s : SheetTree) (limit : Option Nat)

/-- The width of the column of indexes. -/
def indexWidth : Nat := widest 1 ((s.shown limit).map fun p => (toString p.2.index).toList)

/-- The cells of the lines of the table: the heads, the dashes and the records. -/
def tableCells : List (List Cell) :=
  heads :: s.dashCells limit :: (s.shown limit).map cellsAt

/-- In all lines of the table the second cell starts at one place, and so does the third one. -/
def Aligned : Prop :=
  ∃ second third, List.Forall₂ (Shows second third) (s.tableCells limit) (s.previewLines limit).tail

/-- The column of indexes is as wide as dashes are at least if some index has three digits. -/
theorem three_le_indexWidth_iff :
    3 ≤ s.indexWidth limit ↔ ∃ p ∈ s.shown limit, 100 ≤ p.2.index := by
  have hdigits : ∀ index : Nat, 3 ≤ (toString index).toList.length ↔ 100 ≤ index := by
    intro index
    have hlength : (toString index).toList.length ≤ 2 ↔ index < 10 ^ 2 :=
      Nat.length_repr_le_iff (by decide)
    omega
  have hone : ¬ 3 ≤ 1 := by decide
  rw [indexWidth, le_widest_iff, or_iff_right hone]
  simp only [List.mem_map, exists_exists_and_eq_and, hdigits]

/-- The widths of the columns.  The first and the third one are as wide as dashes are at least. -/
theorem exists_previewWidths_eq :
    ∃ i k, s.previewWidths limit = [i, s.indexWidth limit, k] ∧ 6 ≤ i ∧ 7 ≤ k ∧
      ∀ p ∈ s.shown limit, (List.replicate (2 * p.1) ' ' ++ p.2.name.toList).length ≤ i := by
  refine ⟨_, _, columnWidths_three _ _ _ _ _ _ (s.shown limit), le_widest _ _, le_widest _ _, ?_⟩
  exact fun p hp => length_le_widest (List.mem_map_of_mem hp)

/-- The dashes below the indexes are wider than the indexes as long as these have less than three
digits, and what stands behind them starts further right by the difference. -/
theorem exists_shows :
    ∃ second third header dashes records,
      s.previewLines limit = title s :: header :: dashes :: records ∧
      Shows second third heads header ∧
      List.Forall₂ (Shows second third) ((s.shown limit).map cellsAt) records ∧
      Shows second (third + (3 - s.indexWidth limit)) (s.dashCells limit) dashes := by
  obtain ⟨i, k, hwidths, hi, hk, hnames⟩ := s.exists_previewWidths_eq limit
  have hj : 1 ≤ s.indexWidth limit := le_widest _ _
  refine ⟨i + 2, i + 2 + s.indexWidth limit + 2, _, _, _, s.previewLines_eq limit, ?_, ?_, ?_⟩
  · rw [hwidths]
    exact shows_tableLine k _ hi hj (solid_of_mem_heads (by simp [heads]))
  · rw [hwidths, List.forall₂_map_left_iff, List.forall₂_map_right_iff, List.forall₂_same]
    intro p hp
    exact shows_tableLine k _ (hnames p hp) (length_le_widest (List.mem_map_of_mem hp))
      (solid_index p.2.index)
  · have hfirst : dashWidth i = i := by unfold dashWidth; omega
    have hthird : i + 2 + s.indexWidth limit + 2 + (3 - s.indexWidth limit)
        = i + 2 + dashWidth (s.indexWidth limit) + 2 := by unfold dashWidth; omega
    have hsolid : Solid (List.replicate (dashWidth (s.indexWidth limit)) '-') :=
      solid_dashes (by unfold dashWidth; omega)
    rw [dashCells, hwidths, hthird]
    simp only [List.map_cons, List.map_nil, hfirst]
    exact shows_tableLine _ _ (by simp) (by simp) hsolid

theorem exists_dashCells_eq :
    ∃ a b c, s.dashCells limit = [a, b, c] ∧ Solid b ∧ Solid c := by
  obtain ⟨i, k, hwidths, -⟩ := s.exists_previewWidths_eq limit
  have hne : ∀ width, dashWidth width ≠ 0 := fun width => by unfold dashWidth; omega
  have hcells : s.dashCells limit = [List.replicate (dashWidth i) '-',
      List.replicate (dashWidth (s.indexWidth limit)) '-', List.replicate (dashWidth k) '-'] := by
    rw [dashCells, hwidths]
    rfl
  exact ⟨_, _, _, hcells, solid_dashes (hne _), solid_dashes (hne k)⟩

/-- The lines are aligned if and only if the dashes below the indexes are not wider. -/
theorem aligned_iff : s.Aligned limit ↔ 3 ≤ s.indexWidth limit := by
  obtain ⟨second, third, header, dashes, records, hlines, hheader, hrecords, hdashes⟩ :=
    s.exists_shows limit
  rw [Aligned, hlines, List.tail_cons, tableCells]
  constructor
  · rintro ⟨second', third', h⟩
    obtain ⟨hheader', hrest⟩ := List.forall₂_cons.mp h
    obtain ⟨hdashes', -⟩ := List.forall₂_cons.mp hrest
    -- the heads tell the common places, which those of the dashes have to be, too
    have hindex : Solid "#".toList := solid_of_mem_heads (by simp [heads])
    have hcolumns : Solid "columns".toList := solid_of_mem_heads (by simp [heads])
    obtain ⟨rfl, rfl⟩ := hheader.unique hheader' hindex hcolumns.dropBlanksEnd_ne_nil
    obtain ⟨a, b, c, hcells, hb, hc⟩ := s.exists_dashCells_eq limit
    rw [hcells] at hdashes hdashes'
    have hthird := (hdashes.unique hdashes' hb hc.dropBlanksEnd_ne_nil).2
    omega
  · intro hwide
    refine ⟨second, third, .cons hheader (.cons ?_ hrecords)⟩
    rwa [Nat.sub_eq_zero_of_le hwide, Nat.add_zero] at hdashes

/-- **Where the cells of a preview start.** The second cell starts at one place in all lines of the
table.  The third one starts at one place in the heads and in the lines of records in which it is
not blank.  In the line of dashes it starts further right by what the column of indexes lacks to a
width of three.  So the cells of all lines start at common places if and only if some index that is
shown has at least three digits. -/
theorem preview_offsets :
    (∃ second third header dashes records,
      s.previewLines limit = title s :: header :: dashes :: records ∧
      Shows second third heads header ∧
      List.Forall₂ (Shows second third) ((s.shown limit).map cellsAt) records ∧
      Shows second (third + (3 - s.indexWidth limit)) (s.dashCells limit) dashes) ∧
    (s.Aligned limit ↔ ∃ p ∈ s.shown limit, 100 ≤ p.2.index) :=
  ⟨s.exists_shows limit, (s.aligned_iff limit).trans (s.three_le_indexWidth_iff limit)⟩

/-- One record with one column. -/
def oneRecord : SheetTree := ⟨"orders", 1, [⟨"order", 1, [⟨"A", "", .string "x"⟩], []⟩]⟩

/-- The third cell of the dashes starts two characters further right than the column above and below
them. -/
theorem not_aligned_oneRecord :
    oneRecord.previewLines none = ["# orders (sheet 1)", "record  #  columns",
      "------  ---  -------", "order   1  A=x"].map String.toList ∧
      ¬ ∀ (s : SheetTree) (limit : Option Nat), s.Aligned limit := by
  refine ⟨by decide +kernel, fun h => ?_⟩
  have hwide := (oneRecord.aligned_iff none).mp (h oneRecord none)
  exact absurd hwide (by decide +kernel)

end SheetTree

end SheetGrammar
