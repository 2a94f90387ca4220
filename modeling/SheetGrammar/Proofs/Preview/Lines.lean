import SheetGrammar.Preview
import SheetGrammar.Proofs.Record.Outline
import SheetGrammar.Proofs.Text.Blank

/-!
# One line for each record

Whatever texts a record holds, a preview shows it on one line.  Which records are shown is a matter
of their depths alone, so that a preview down to a depth is that of the tree which is cut there.

## Main definitions

* `Preview.isShown`, `SheetTree.shown` — the records down to a depth, in the order of a walk.
* `Preview.cellsAt` — the cells of a record at its depth.

## Main results

* `Preview.ne_of_mem_tableLine` — no line of a table is broken.
* `Preview.rowLines_eq` — the rows of the table are those of the records that are shown.
* `Preview.rowLines_cut` — a tree that is cut is shown like the tree down to that depth.
* `SheetTree.preview_lines` — the lines of a preview, and what a depth does to them.
-/

namespace SheetGrammar

namespace Preview

/-! ### Lines of a table -/

/-- What would break a line is not shown in a cell. -/
theorem ne_of_mem_flatten {cell : Cell} {c : Char} (h : c ∈ flatten cell) :
    c ≠ '\n' ∧ c ≠ '\r' ∧ c ≠ '\t' := by
  obtain ⟨d, -, rfl⟩ := List.mem_map.mp h
  split
  · decide
  · next hd => simpa only [not_or] using hd

theorem mem_fill {width : Nat} {cell : Cell} {c : Char} (h : c ∈ fill width cell) :
    c ∈ cell ∨ c = ' ' := by
  rcases List.mem_append.mp h with hcell | hblank
  · exact .inl hcell
  · exact .inr (List.eq_of_mem_replicate hblank)

/-- What stands in a text of joined parts stands between them or in one of them. -/
theorem mem_intercalate {α : Type} {sep : List α} {parts : List (List α)} {a : α}
    (h : a ∈ sep.intercalate parts) : a ∈ sep ∨ ∃ part ∈ parts, a ∈ part := by
  induction parts with
  | nil => simp at h
  | cons part parts ih =>
    cases parts with
    | nil =>
      rw [List.intercalate_singleton] at h
      exact .inr ⟨part, List.mem_cons_self, h⟩
    | cons next rest =>
      rw [List.intercalate_cons_cons, List.mem_append, List.mem_append] at h
      rcases h with (hpart | hsep) | hrest
      · exact .inr ⟨part, List.mem_cons_self, hpart⟩
      · exact .inl hsep
      · rcases ih hrest with hsep | ⟨p, hp, ha⟩
        · exact .inl hsep
        · exact .inr ⟨p, List.mem_cons_of_mem part hp, ha⟩

/-- No line of a table is broken, and none has tabs. -/
theorem ne_of_mem_tableLine {widths : List Nat} {cells : List Cell} {c : Char}
    (h : c ∈ tableLine widths cells) : c ≠ '\n' ∧ c ≠ '\r' ∧ c ≠ '\t' := by
  have hblank : ' ' ≠ '\n' ∧ ' ' ≠ '\r' ∧ ' ' ≠ '\t' := by decide
  rcases mem_intercalate ((isPrefix_dropBlanksEnd _).subset h) with hsep | ⟨part, hpart, hc⟩
  · obtain rfl : c = ' ' := by simpa using hsep
    exact hblank
  · rw [← List.map_uncurry_zip_eq_zipWith] at hpart
    obtain ⟨⟨cell, width⟩, -, rfl⟩ := List.mem_map.mp hpart
    rcases mem_fill hc with hcell | rfl
    · exact ne_of_mem_flatten hcell
    · exact hblank

theorem lineFeed_not_mem_tableLine (widths : List Nat) (cells : List Cell) :
    '\n' ∉ tableLine widths cells :=
  fun h => (ne_of_mem_tableLine h).1 rfl

theorem lineFeed_not_mem_title {s : SheetTree} (h : '\n' ∉ s.name.toList) : '\n' ∉ title s := by
  have hindex : '\n' ∉ Nat.toDigits 10 s.index := fun hmem =>
    absurd (Nat.isDigit_of_mem_toDigits (by decide) (by decide) hmem) (by decide)
  simp [title, h, hindex]

/-- Lines that end with a line feed each are told apart by it. -/
theorem splitOn_lines {lines : List (List Char)} (h : ∀ line ∈ lines, '\n' ∉ line) :
    (lines.flatMap fun line => line ++ ['\n']).splitOn '\n' = lines ++ [[]] := by
  induction lines with
  | nil => rfl
  | cons line lines ih =>
    obtain ⟨hline, hlines⟩ := List.forall_mem_cons.mp h
    rw [List.flatMap_cons, List.append_assoc, List.singleton_append,
      List.splitOn_append_cons_self_of_not_mem hline, ih hlines, List.cons_append]

/-! ### Records that are shown -/

/-- Whether records at a depth are shown. -/
def isShown (limit : Option Nat) (depth : Nat) : Bool := limit.all fun deepest => depth ≤ deepest

/-- The cells of a record at its depth. -/
def cellsAt (p : Nat × Record) : List Cell := cellsOf p.1 p.2.name p.2.index p.2.columns

@[simp] theorem isShown_none (depth : Nat) : isShown none depth = true := rfl

theorem isShown_zero (limit : Option Nat) : isShown limit 0 = true := by
  cases limit <;> simp [isShown]

/-- The records under those that are the deepest are not shown. -/
theorem isShown_succ (limit : Option Nat) (depth : Nat) :
    isShown limit (depth + 1) = !isLast limit depth := by
  cases limit with
  | none => rfl
  | some deepest =>
    rw [isShown, isLast, Option.all_some, Option.any_some, ← decide_not, decide_eq_decide]
    omega

theorem isShown_of_le {limit : Option Nat} {depth deeper : Nat} (hle : depth ≤ deeper)
    (h : isShown limit deeper = true) : isShown limit depth = true := by
  cases limit with
  | none => rfl
  | some deepest =>
    have hdeeper : deeper ≤ deepest := of_decide_eq_true h
    exact decide_eq_true (Nat.le_trans hle hdeeper)

variable {limit : Option Nat}

mutual

theorem recordLines_eq :
    ∀ (depth : Nat) (r : Record), isShown limit depth = true →
      recordLines limit depth r
        = ((r.outline depth).filter fun p => isShown limit p.1).map cellsAt
  | depth, ⟨name, index, columns, children⟩, h => by
    rw [recordLines, Record.outline,
      List.filter_cons_of_pos (p := fun p : Nat × Record => isShown limit p.1) h, List.map_cons]
    cases hlast : isLast limit depth with
    | true =>
      -- nothing under a record that is one of the deepest is shown
      have hhidden : ∀ p ∈ Record.outlineGroups (depth + 1) children,
          ¬ isShown limit p.1 = true := by
        intro p hp hshown
        have hle := Record.le_of_mem_outlineGroups (depth + 1) children p hp
        have hnext := isShown_of_le hle hshown
        rw [isShown_succ, hlast] at hnext
        cases hnext
      rw [List.filter_eq_nil_iff.mpr hhidden]
      rfl
    | false =>
      have hnext : isShown limit (depth + 1) = true := by rw [isShown_succ, hlast, Bool.not_false]
      rw [← groupLines_eq (depth + 1) children hnext]
      rfl

theorem groupLines_eq :
    ∀ (depth : Nat) (gs : List (Group Record)), isShown limit depth = true →
      groupLines limit depth gs
        = ((Record.outlineGroups depth gs).filter fun p => isShown limit p.1).map cellsAt
  | _, [], _ => rfl
  | depth, ⟨_, rows⟩ :: gs, h => by
    rw [groupLines, Record.outlineGroups, List.filter_append, List.map_append,
      rowLines_eq depth rows h, groupLines_eq depth gs h]

/-- The rows of the table are those of the records that are shown. -/
theorem rowLines_eq :
    ∀ (depth : Nat) (rs : List Record), isShown limit depth = true →
      rowLines limit depth rs
        = ((Record.outlineRows depth rs).filter fun p => isShown limit p.1).map cellsAt
  | _, [], _ => rfl
  | depth, r :: rs, h => by
    rw [rowLines, Record.outlineRows, List.filter_append, List.map_append,
      recordLines_eq depth r h, rowLines_eq depth rs h]

end

mutual

theorem recordLines_cut :
    ∀ (more depth : Nat) (r : Record),
      recordLines (some (depth + more)) depth r = recordLines none depth (r.cut more)
  | 0, depth, ⟨name, index, columns, children⟩ => by
    have hlast : isLast (some (depth + 0)) depth = true := decide_eq_true (Nat.le_refl depth)
    rw [recordLines, Record.cut, recordLines, hlast]
    rfl
  | more + 1, depth, ⟨name, index, columns, children⟩ => by
    have hlast : isLast (some (depth + (more + 1))) depth = false := decide_eq_false (by omega)
    have hnext := groupLines_cut more (depth + 1) children
    rw [Nat.add_right_comm] at hnext
    rw [recordLines, Record.cut, recordLines, hlast]
    exact congrArg _ hnext

theorem groupLines_cut :
    ∀ (more depth : Nat) (gs : List (Group Record)),
      groupLines (some (depth + more)) depth gs = groupLines none depth (Record.cutGroups more gs)
  | _, _, [] => by rw [Record.cutGroups, groupLines, groupLines]
  | more, depth, ⟨name, rows⟩ :: gs => by
    rw [groupLines, Record.cutGroups, groupLines, rowLines_cut more depth rows,
      groupLines_cut more depth gs]

/-- A tree that is cut is shown like the tree down to that depth. -/
theorem rowLines_cut :
    ∀ (more depth : Nat) (rs : List Record),
      rowLines (some (depth + more)) depth rs = rowLines none depth (Record.cutRows more rs)
  | _, _, [] => by rw [Record.cutRows, rowLines, rowLines]
  | more, depth, r :: rs => by
    rw [rowLines, Record.cutRows, rowLines, recordLines_cut more depth r,
      rowLines_cut more depth rs]

end

end Preview

/-! ### Sheets -/

namespace SheetTree

open Preview

/-- The records that are shown, with their depths, in the order of a walk. -/
def shown (s : SheetTree) (limit : Option Nat) : List (Nat × Record) :=
  (Record.outlineRows 0 s.rows).filter fun p => isShown limit p.1

/-- The widths of the columns of the table. -/
def previewWidths (s : SheetTree) (limit : Option Nat) : List Nat :=
  columnWidths heads ((s.shown limit).map cellsAt)

/-- The cells of the line of dashes, which has widths of its own. -/
def dashCells (s : SheetTree) (limit : Option Nat) : List Cell :=
  ((s.previewWidths limit).map dashWidth).map fun width => List.replicate width '-'

theorem rowLines_eq_shown (s : SheetTree) (limit : Option Nat) :
    rowLines limit 0 s.rows = (s.shown limit).map cellsAt :=
  rowLines_eq 0 s.rows (isShown_zero limit)

theorem previewLines_eq (s : SheetTree) (limit : Option Nat) :
    s.previewLines limit
      = title s :: tableLine (s.previewWidths limit) heads
        :: tableLine ((s.previewWidths limit).map dashWidth) (s.dashCells limit)
        :: (s.shown limit).map fun p => tableLine (s.previewWidths limit) (cellsAt p) := by
  have hrows : ((s.shown limit).map fun p => tableLine (s.previewWidths limit) (cellsAt p))
      = ((s.shown limit).map cellsAt).map (tableLine (s.previewWidths limit)) := by
    rw [List.map_map]
    rfl
  rw [hrows, previewLines, table, rowLines_eq_shown]
  rfl

theorem lineFeed_not_mem_previewLines {s : SheetTree} (h : '\n' ∉ s.name.toList)
    (limit : Option Nat) : ∀ line ∈ s.previewLines limit, '\n' ∉ line := by
  simp only [previewLines_eq, List.forall_mem_cons, List.forall_mem_map]
  exact ⟨lineFeed_not_mem_title h, lineFeed_not_mem_tableLine _ _, lineFeed_not_mem_tableLine _ _,
    fun p _ => lineFeed_not_mem_tableLine _ _⟩

theorem map_snd_shown_none (s : SheetTree) :
    (s.shown none).map Prod.snd = Record.walkRows s.rows := by
  have hall : s.shown none = Record.outlineRows 0 s.rows :=
    List.filter_eq_self.mpr fun p _ => isShown_none p.1
  rw [hall, Record.map_snd_outlineRows]

theorem preview_cut (s : SheetTree) (depth : Nat) :
    s.preview (some depth) = (s.cut depth).preview none := by
  have hrows : rowLines (some depth) 0 s.rows = rowLines none 0 (s.cut depth).rows := by
    rw [← Nat.zero_add depth, rowLines_cut, Nat.zero_add]
    rfl
  rw [preview, previewLines, hrows]
  rfl

/-- **A preview shows each record on one line, down to a depth.** Behind the title, the heads and
the dashes stands one line for each record that is shown, in the order of a walk.  Without a limit
all records are shown, and with one those whose depth is not beyond it; the text is then that of the
tree of which the records at this depth have lost those under them, shown without a limit. -/
theorem preview_lines (s : SheetTree) (h : '\n' ∉ s.name.toList) (limit : Option Nat) :
    (s.preview limit).toList.splitOn '\n'
      = (title s :: tableLine (s.previewWidths limit) heads
        :: tableLine ((s.previewWidths limit).map dashWidth) (s.dashCells limit)
        :: (s.shown limit).map fun p => tableLine (s.previewWidths limit) (cellsAt p)) ++ [[]] ∧
    (s.shown none).map Prod.snd = Record.walkRows s.rows ∧
    (s.shown none).length = s.recordCount ∧
    (∀ depth, s.shown (some depth) = (s.shown none).filter fun p => p.1 ≤ depth) ∧
    (∀ depth, s.preview (some depth) = (s.cut depth).preview none) := by
  refine ⟨?_, s.map_snd_shown_none, ?_, ?_, s.preview_cut⟩
  · rw [preview, String.toList_ofList, splitOn_lines (lineFeed_not_mem_previewLines h limit),
      previewLines_eq]
  · rw [← List.length_map Prod.snd, s.map_snd_shown_none, Record.length_walkRows, recordCount]
  · intro depth
    rw [shown, shown, List.filter_filter]
    exact List.filter_congr fun p _ => (Bool.and_true _).symm

/-- An order with a line feed in its name, tabs and line feeds in the columns under it, and a record
that is too deep. -/
def brokenTexts : SheetTree :=
  ⟨"orders", 1,
    [⟨"order\n", 1, [⟨"A", "", .string "x\ty"⟩],
      [⟨"item", [⟨"item", 12, [⟨"", "a\nb", .integer 5⟩, ⟨"C", "", .string ""⟩],
        [⟨"note", [⟨"note", 1, [], []⟩]⟩]⟩]⟩]⟩]⟩

theorem preview_lines_brokenTexts :
    '\n' ∉ brokenTexts.name.toList ∧
      (brokenTexts.preview (some 1)).toList.splitOn '\n'
        = ["# orders (sheet 1)", "record  #   columns", "------  ---  -----------",
            "order   1   A=x y", "  item  12  [a b]=5  C=", ""].map String.toList ∧
      brokenTexts.preview (some 1) = (brokenTexts.cut 1).preview none := by
  have hname : '\n' ∉ brokenTexts.name.toList := by decide +kernel
  obtain ⟨hlines, -, -, -, hcut⟩ := preview_lines brokenTexts hname (some 1)
  exact ⟨hname, hlines.trans (by decide +kernel), hcut 1⟩

end SheetTree

end SheetGrammar
