import SheetGrammar.Yaml.Cursor
import SheetGrammar.Yaml.Printer

/-!
# Places and gaps in written texts

Between the words of a scalar stand blanks, or line ends and then blanks for indentation.  Behind
the last word the line ends, and the next token stands in some column of the line that follows.

## Main definitions

* `StartsToken` — a text starts with a token, or is at its end.
* `Cursor.At` — a cursor stands in a column in front of some text.

## Main results

* `Gap.read_blanks`, `Gap.read_breaks` — gaps between words.
* `Gap.read_lineEnd` — the gap at the end of a line.
-/

namespace SheetGrammar.Yaml

/-! ### Characters -/

/-- A text starts with a token, or is at its end. -/
def StartsToken (cs : List Char) : Prop :=
  ∀ c ∈ cs.head?, isGap c = false ∧ isBreak c = false ∧ c ≠ '#' ∧ c ≠ '\ufeff'

theorem startsToken_nil : StartsToken [] := by simp [StartsToken]

theorem startsToken_cons {c : Char} {cs : List Char} :
    StartsToken (c :: cs)
      ↔ isGap c = false ∧ isBreak c = false ∧ c ≠ '#' ∧ c ≠ '\ufeff' := by
  simp [StartsToken]

/-- The only visible blank is the space. -/
theorem isGap_eq_isSpace {x : Char} (hvisible : isVisible x = true) : isGap x = isSpace x := by
  have htab : x ≠ '\t' := by
    rintro rfl
    exact absurd hvisible (by decide)
  simp [isGap, isSpace, htab]

@[simp] theorem isBlankOrEnd_append_lineFeed (cs rest : List Char) :
    isBlankOrEnd (cs ++ '\n' :: rest) = isBlankOrEnd cs := by
  cases cs with
  | nil => rfl
  | cons c cs => rfl

/-! ### Words and blanks -/

/-- A text is some characters of a kind and what follows them. -/
theorem exists_span (p : Char → Bool) (cs : List Char) :
    ∃ xs ys, cs = xs ++ ys ∧ (∀ x ∈ xs, p x = true) ∧ ∀ y ∈ ys.head?, p y = false := by
  induction cs with
  | nil => exact ⟨[], [], rfl, by simp, by simp⟩
  | cons x cs ih =>
    cases hx : p x with
    | true =>
      obtain ⟨xs, ys, hcs, hxs, hys⟩ := ih
      exact ⟨x :: xs, ys, by rw [hcs, List.cons_append], List.forall_mem_cons.mpr ⟨hx, hxs⟩, hys⟩
    | false => exact ⟨[], x :: cs, rfl, by simp, by simp [hx]⟩

/-- A text is some spaces and what follows them. -/
theorem exists_spaces (cs : List Char) :
    ∃ n more, cs = List.replicate n ' ' ++ more ∧ ∀ x ∈ more.head?, isSpace x = false := by
  obtain ⟨spaces, more, hcs, hspaces, hmore⟩ := exists_span isSpace cs
  have heq : spaces = List.replicate spaces.length ' ' :=
    List.eq_replicate_of_mem fun x hx => by simpa [isSpace] using hspaces x hx
  exact ⟨spaces.length, more, heq ▸ hcs, hmore⟩

/-- A text is a word, the spaces behind it, and what follows them. -/
theorem exists_word (cs : List Char) :
    ∃ word n more, cs = word ++ (List.replicate n ' ' ++ more) ∧
      (cs.takeWhile fun x => !isSpace x) = word ∧ (∀ x ∈ word, isSpace x = false) ∧
      (∀ x ∈ more.head?, isSpace x = false) ∧ (n = 0 → more = []) := by
  induction cs with
  | nil => exact ⟨[], 0, [], rfl, rfl, by simp, by simp, fun _ => rfl⟩
  | cons x cs ih =>
    by_cases hspace : x = ' '
    · -- the word is empty, and all spaces come now
      obtain ⟨n, more, rfl, hmore⟩ := exists_spaces cs
      exact ⟨[], n + 1, more, by rw [hspace]; rfl, by simp [isSpace, hspace], by simp, hmore,
        by simp⟩
    · obtain ⟨word, n, more, hcs, htake, hword, hmore, hn⟩ := ih
      have hx : isSpace x = false := by simp [isSpace, hspace]
      exact ⟨x :: word, n, more, by rw [hcs, List.cons_append], by simp [hx, htake],
        List.forall_mem_cons.mpr ⟨hx, hword⟩, hmore, hn⟩

theorem hasAdjacent_of_append {p q : Char → Bool} (xs : List Char) {ys : List Char}
    (h : hasAdjacent p q (xs ++ ys) = false) : hasAdjacent p q ys = false := by
  induction xs with
  | nil => exact h
  | cons x xs ih =>
    rw [List.cons_append, hasAdjacent, Bool.or_eq_false_iff] at h
    exact ih h.2

/-- What follows characters of one kind is not of the other, if the two are not adjacent. -/
theorem head_of_hasAdjacent {p q : Char → Bool} {xs ys : List Char}
    (h : hasAdjacent p q (xs ++ ys) = false) (hxs : ∀ x ∈ xs, p x = true) (hne : xs ≠ []) :
    ∀ y ∈ ys.head?, q y = false := by
  induction xs with
  | nil => exact absurd rfl hne
  | cons x xs ih =>
    obtain ⟨hx, hxs⟩ := List.forall_mem_cons.mp hxs
    rw [List.cons_append, hasAdjacent, Bool.or_eq_false_iff] at h
    by_cases hnil : xs = []
    · intro y hy
      rw [hnil, List.nil_append, hx, Option.mem_def.mp hy] at h
      simpa using h.1
    · exact ih h.2 hxs hnil

/-! ### Places -/

namespace Cursor

variable {c : Cursor} {column : Nat} {rest : List Char}

/-- The cursor stands in a column in front of some text. -/
structure At (c : Cursor) (column : Nat) (rest : List Char) : Prop where
  column_eq : c.column = column
  rest_eq : c.rest = rest

@[simp] theorem skip_skip (c : Cursor) (m n : Nat) : (c.skip m).skip n = c.skip (m + n) := by
  simp [skip, Nat.add_assoc]

@[simp] theorem skip_zero (c : Cursor) : c.skip 0 = c := rfl

theorem At.skip {word : List Char} (h : c.At column (word ++ rest)) :
    (c.skip word.length).At (column + word.length) rest := by
  refine ⟨by simp [Cursor.skip, h.column_eq], ?_⟩
  rw [Cursor.skip, h.rest_eq]
  exact List.drop_left

theorem At.skip_one {x : Char} (h : c.At column (x :: rest)) :
    (c.skip 1).At (column + 1) rest := by
  have hskip : (c.skip [x].length).At (column + [x].length) rest := At.skip h
  exact hskip

theorem At.nextLine {x : Char} (h : c.At column (x :: rest)) : (c.nextLine 1).At 0 rest :=
  ⟨rfl, by rw [Cursor.nextLine, h.rest_eq]; rfl⟩

/-- No marker of documents stands inside of a line. -/
theorem At.atAnyMarker (h : c.At column rest) (hcolumn : 0 < column) :
    c.atAnyMarker = false := by
  have hne : ¬ c.column = 0 := by
    rw [h.column_eq]
    omega
  simp [Cursor.atAnyMarker, Cursor.atMarker, hne]

/-- The line ends that are visible stand for themselves. -/
theorem At.readBreak {x : Char} (h : c.At column (x :: rest)) (hx : isBreak x = true)
    (hvisible : isVisible x = true) : c.readBreak = ([x], c.nextLine 1) := by
  -- the line ends that are read as a line feed are not visible
  have hreturn : x ≠ '\r' := by
    rintro rfl
    exact absurd hvisible (by decide)
  have hnext : x ≠ '\x85' := by
    rintro rfl
    exact absurd hvisible (by decide)
  unfold Cursor.readBreak
  rw [h.rest_eq]
  split
  · next heq => exact absurd (List.cons.inj heq).1 hreturn
  · next heq =>
    obtain ⟨rfl, rfl⟩ := List.cons.inj heq
    by_cases hfeed : x = '\n'
    · simp [hfeed]
    · simp [hfeed, hreturn, hnext, hx]
  · next heq => cases heq

end Cursor

/-! ### Gaps -/

namespace Gap

variable {tabs : Nat → Bool} {c : Cursor} {column : Nat} {rest : List Char} {fuel : Nat}

/-- A gap ends where a word starts, and at the end of the text. -/
theorem read_end (tabs : Nat → Bool) (fuel : Nat) (h : c.At column rest)
    (hrest : ∀ x ∈ rest.head?, isGap x = false ∧ isBreak x = false) (g : Gap) :
    read tabs fuel g c = some (g, c) := by
  cases fuel with
  | zero => rfl
  | succ fuel =>
    rw [read, h.rest_eq]
    cases rest with
    | nil => rfl
    | cons x rest =>
      obtain ⟨hgap, hbreak⟩ := hrest x rfl
      simp [hgap, hbreak]

/-- Blanks within a line. -/
theorem read_blanks (tabs : Nat → Bool) {n : Nat} (hfuel : n ≤ fuel) (blanks breaks : List Char)
    (escaped : Bool) (h : c.At column (List.replicate n ' ' ++ rest)) :
    read tabs fuel ⟨blanks, false, breaks, escaped⟩ c
      = read tabs (fuel - n) ⟨blanks ++ List.replicate n ' ', false, breaks, escaped⟩
          (c.skip n) := by
  induction n generalizing fuel blanks c column with
  | zero => simp
  | succ n ih =>
    obtain ⟨fuel, rfl⟩ : ∃ m, fuel = m + 1 := ⟨fuel - 1, by omega⟩
    rw [List.replicate_succ, List.cons_append] at h
    have hspace : isGap ' ' = true := rfl
    rw [read, h.rest_eq]
    simp only [hspace, if_true, Bool.false_eq_true, if_false, and_false, false_and]
    rw [ih (by omega) _ h.skip_one, Cursor.skip_skip, Nat.add_comm 1 n, Nat.add_sub_add_right,
      List.append_assoc, List.replicate_succ, List.singleton_append]

/-- Spaces between two words of a line. -/
theorem read_spaces (tabs : Nat → Bool) {n : Nat} (hfuel : n ≤ fuel)
    (hrest : ∀ x ∈ rest.head?, isGap x = false ∧ isBreak x = false)
    (h : c.At column (List.replicate n ' ' ++ rest)) :
    (c.skip n).At (column + n) rest ∧
      read tabs fuel start c = some (⟨List.replicate n ' ', false, [], false⟩, c.skip n) := by
  have hskip := h.skip
  rw [List.length_replicate] at hskip
  refine ⟨hskip, ?_⟩
  rw [start, read_blanks tabs hfuel [] [] false h, read_end _ _ hskip hrest, List.nil_append]

/-- Blanks that stand for indentation. -/
theorem read_indent (tabs : Nat → Bool) {n : Nat} (hfuel : n ≤ fuel) {g : Gap}
    (hg : g.broken = true) (h : c.At column (List.replicate n ' ' ++ rest)) :
    read tabs fuel g c = read tabs (fuel - n) g (c.skip n) := by
  induction n generalizing fuel c column with
  | zero => simp
  | succ n ih =>
    obtain ⟨fuel, rfl⟩ : ∃ m, fuel = m + 1 := ⟨fuel - 1, by omega⟩
    rw [List.replicate_succ, List.cons_append] at h
    have hspace : isGap ' ' = true := rfl
    -- only a tab could be refused in place of indentation
    have htab : ¬ ' ' = '\t' := by decide
    rw [read, h.rest_eq]
    simp only [hspace, if_true, hg, htab, false_and, if_false]
    rw [ih (by omega) h.skip_one, Cursor.skip_skip, Nat.add_comm 1 n]
    congr 1
    omega

/-- A line end that stands for itself. -/
theorem read_break {x : Char} (hx : isBreak x = true) (hvisible : isVisible x = true) {g : Gap}
    (h : c.At column (x :: rest)) :
    read tabs (fuel + 1) g c
      = read tabs fuel { g with broken := true, breaks := g.breaks ++ [x] } (c.nextLine 1) := by
  have hspace : x ≠ ' ' := by
    rintro rfl
    exact absurd hx (by decide)
  have hgap : isGap x = false := by simp [isGap_eq_isSpace hvisible, isSpace, hspace]
  rw [read, h.rest_eq]
  simp [hgap, hx, h.readBreak hx hvisible]

/-- Line ends one after the other. -/
theorem read_breaks (tabs : Nat → Bool) {breaks : List Char}
    (hbreaks : ∀ x ∈ breaks, isBreak x = true) (hvisible : ∀ x ∈ breaks, isVisible x = true)
    (hne : breaks ≠ [])
    (hfuel : breaks.length ≤ fuel) (g : Gap) (h : c.At column (breaks ++ rest)) :
    ∃ d : Cursor, d.At 0 rest ∧ read tabs fuel g c
      = read tabs (fuel - breaks.length) { g with broken := true, breaks := g.breaks ++ breaks } d
    := by
  induction breaks generalizing fuel g c column with
  | nil => exact absurd rfl hne
  | cons x breaks ih =>
    obtain ⟨fuel, rfl⟩ : ∃ m, fuel = m + 1 := ⟨fuel - 1, by rw [List.length_cons] at hfuel; omega⟩
    obtain ⟨hx, hbreaks⟩ := List.forall_mem_cons.mp hbreaks
    obtain ⟨hxvisible, hvisible⟩ := List.forall_mem_cons.mp hvisible
    rw [read_break hx hxvisible h, List.length_cons, Nat.add_sub_add_right]
    -- behind the last line end nothing is left for the induction
    by_cases hnil : breaks = []
    · exact ⟨c.nextLine 1, by simpa [hnil] using h.nextLine, by simp [hnil]⟩
    · obtain ⟨d, hd, hread⟩ := ih hbreaks hvisible hnil (by simpa using hfuel) _ h.nextLine
      exact ⟨d, hd, by rw [hread, List.append_assoc, List.singleton_append]⟩

/-- The gap at the end of a line, behind which a token stands in some column. -/
theorem read_lineEnd (tabs : Nat → Bool) (fuel : Nat) {j : Nat} {content : List Char}
    (hcontent : StartsToken content) (hfuel : j < fuel) (g : Gap)
    (h : c.At column ('\n' :: (List.replicate j ' ' ++ content))) :
    ∃ d : Cursor, d.At j content ∧ read tabs fuel g c
      = some ({ g with broken := true, breaks := g.breaks ++ ['\n'] }, d) := by
  obtain ⟨fuel, rfl⟩ : ∃ m, fuel = m + 1 := ⟨fuel - 1, by omega⟩
  have hcontent : ∀ x ∈ content.head?, isGap x = false ∧ isBreak x = false :=
    fun x hx => ⟨(hcontent x hx).1, (hcontent x hx).2.1⟩
  have hindent := h.nextLine.skip
  rw [List.length_replicate, Nat.zero_add] at hindent
  refine ⟨_, hindent, ?_⟩
  rw [read_break rfl (by decide) h, read_indent _ (by omega) rfl h.nextLine,
    read_end _ _ hindent hcontent]

end Gap

end SheetGrammar.Yaml
