import SheetGrammar.Proofs.Yaml.Gaps
import SheetGrammar.Yaml.Scalar

/-!
# Literal blocks come back

A block is read line by line.  Its lines are indented; empty lines are not, but count as lines.
What the line ends at its end are worth is said by a sign in front of the block, and a digit tells
the indentation where the first line does not.

## Main definitions

* `blockTail` — what is written of a text as a block, and what follows.

## Main results

* `readEmptyLines?_tail` — the empty lines in front of a line.
* `readBlockLines?_tail` — the lines of a block.
* `readBlock?_literal` — a literal block is read.
-/

namespace SheetGrammar.Yaml

variable {c : Cursor} {column indent j : Nat} {fresh : Bool} {x : Char}
  {cs rest content : List Char}

/-! ### Lines that are written -/

/-- What is written of a text as a block, to the end of its last line, and what follows; `fresh`
holds at the start of a line. -/
def blockTail (indent : Nat) (fresh : Bool) (cs rest : List Char) : List Char :=
  writeIndented indent (fun c => [c]) fresh cs
    ++ ((if cs.getLast?.elim fresh isBreak then [] else ['\n']) ++ rest)

theorem blockTail_cons_break (hx : isBreak x = true) :
    blockTail indent fresh (x :: cs) rest = x :: blockTail indent true cs rest := by
  rw [blockTail, writeIndented, if_pos hx]
  cases cs with
  | nil => simp [blockTail, writeIndented, hx]
  | cons y cs => simp [blockTail, List.getLast?_cons]

theorem blockTail_cons (hx : isBreak x = false) :
    blockTail indent false (x :: cs) rest = x :: blockTail indent false cs rest := by
  rw [blockTail, writeIndented]
  cases cs with
  | nil => simp [blockTail, writeIndented, hx]
  | cons y cs => simp [blockTail, hx, List.getLast?_cons]

theorem blockTail_line (hx : isBreak x = false) :
    blockTail indent true (x :: cs) rest
      = List.replicate indent ' ' ++ blockTail indent false (x :: cs) rest := by
  simp [blockTail, writeIndented, hx, List.getLast?_cons]

theorem blockTail_append {line : List Char} (hline : ∀ x ∈ line, isBreak x = false) :
    blockTail indent false (line ++ cs) rest = line ++ blockTail indent false cs rest := by
  induction line with
  | nil => rfl
  | cons x line ih =>
    obtain ⟨hx, hline⟩ := List.forall_mem_cons.mp hline
    rw [List.cons_append, blockTail_cons hx, ih hline, List.cons_append]

theorem blockTail_breaks {breaks : List Char} (hbreaks : ∀ x ∈ breaks, isBreak x = true) :
    blockTail indent true (breaks ++ cs) rest = breaks ++ blockTail indent true cs rest := by
  induction breaks with
  | nil => rfl
  | cons x breaks ih =>
    obtain ⟨hx, hbreaks⟩ := List.forall_mem_cons.mp hbreaks
    rw [List.cons_append, blockTail_cons_break hx, ih hbreaks, List.cons_append]

theorem length_le_length_blockTail (indent : Nat) (fresh : Bool) (cs rest : List Char) :
    cs.length ≤ (blockTail indent fresh cs rest).length := by
  induction cs generalizing fresh with
  | nil => simp
  | cons x cs ih =>
    cases hx : isBreak x with
    | true =>
      rw [blockTail_cons_break hx]
      exact Nat.succ_le_succ (ih true)
    | false =>
      cases fresh with
      | false =>
        rw [blockTail_cons hx]
        exact Nat.succ_le_succ (ih false)
      | true =>
        have hcs := ih false
        rw [blockTail_line hx, blockTail_cons hx, List.length_append, List.length_cons,
          List.length_cons]
        omega

theorem head_blockTail_cons (indent : Nat) (cs rest : List Char) (hx : isBreak x = false) :
    (blockTail indent false (x :: cs) rest).head? = some x := by
  rw [blockTail_cons hx, List.head?_cons]

/-! ### Empty lines -/

theorem takeWhile_blanks (n : Nat) (h : rest.head? ≠ some ' ') :
    ((List.replicate n ' ' ++ rest).takeWhile (· = ' ')).length = n := by
  induction n with
  | zero =>
    cases rest with
    | nil => rfl
    | cons x rest =>
      have hx : x ≠ ' ' := fun hx => h (congrArg some hx)
      simp [hx]
  | succ n ih => simpa [List.replicate_succ] using ih

theorem le_takeWhile_blanks (n : Nat) (rest : List Char) :
    n ≤ ((List.replicate n ' ' ++ rest).takeWhile (· = ' ')).length := by
  induction n with
  | zero => simp
  | succ n ih => simp [List.replicate_succ]

/-- A line that is no empty one ends the empty lines. -/
theorem readEmptyLines?_end {fuel deepest n : Nat} {acc : List Char}
    (hblanks : min ((List.replicate n ' ' ++ rest).takeWhile (· = ' ')).length indent = n)
    (hbreak : ∀ x ∈ rest.head?, isBreak x = false) (htab : n < indent → rest.head? ≠ some '\t')
    (h : c.At 0 (List.replicate n ' ' ++ rest)) :
    ∃ (d : Cursor) (deepest' : Nat), d.At n rest ∧
      readEmptyLines? (some indent) (fuel + 1) acc deepest c = some (acc, deepest', d) := by
  have hskip := h.skip
  rw [List.length_replicate, Nat.zero_add] at hskip
  refine ⟨c.skip n, max deepest n, hskip, ?_⟩
  have hhead : ¬ (rest.head?.any isBreak) = true := by
    cases hrest : rest.head? with
    | none => simp
    | some x => simp [hbreak x hrest]
  rw [readEmptyLines?, h.rest_eq, h.column_eq]
  simp only [Nat.sub_zero, hblanks, hskip.column_eq, hskip.rest_eq]
  rw [if_neg, if_neg hhead]
  simpa using htab

/-- An empty line. -/
theorem readEmptyLines?_break {fuel deepest : Nat} {acc : List Char}
    (hx : isBreak x = true) (hvisible : isVisible x = true) (h : c.At 0 (x :: rest)) :
    readEmptyLines? (some indent) (fuel + 1) acc deepest c
      = readEmptyLines? (some indent) fuel (acc ++ [x]) deepest (c.nextLine 1) := by
  have hspace : x ≠ ' ' := by
    rintro rfl
    exact absurd hx (by decide)
  have htab : x ≠ '\t' := by
    rintro rfl
    exact absurd hx (by decide)
  rw [readEmptyLines?, h.rest_eq, h.column_eq]
  simp [hspace, h.column_eq, h.rest_eq, htab, hx, h.readBreak hx hvisible]

/-- Where the cursor stands behind empty lines: in a line of the block, or behind the block. -/
def AtLine (d : Cursor) (indent j : Nat) (content : List Char) : List Char → Prop
  | [] => d.At j content
  | x :: cs => d.At indent (blockTail indent false (x :: cs) (List.replicate j ' ' ++ content))

/-- The empty lines in front of a line of a block, or behind the block. -/
theorem readEmptyLines?_tail (hcontent : StartsToken content) (hj : j < indent)
    {breaks more : List Char} (hbreaks : ∀ x ∈ breaks, isBreak x = true)
    (hmore : ∀ x ∈ more.head?, isBreak x = false)
    (hvisible : ∀ x ∈ breaks, isVisible x = true) {fuel : Nat}
    (hfuel : breaks.length < fuel) (acc : List Char) (deepest : Nat)
    (h : c.At 0 (blockTail indent true (breaks ++ more) (List.replicate j ' ' ++ content))) :
    ∃ (d : Cursor) (deepest' : Nat), AtLine d indent j content more ∧
      readEmptyLines? (some indent) fuel acc deepest c = some (acc ++ breaks, deepest', d) := by
  induction breaks generalizing fuel acc c with
  | nil =>
    obtain ⟨fuel, rfl⟩ : ∃ m, fuel = m + 1 := ⟨fuel - 1, by omega⟩
    rw [List.nil_append] at h
    cases more with
    | nil =>
      -- the block has ended
      have hspace : content.head? ≠ some ' ' := fun hx => absurd (hcontent ' ' hx).1 (by decide)
      have htab : content.head? ≠ some '\t' := fun hx => absurd (hcontent '\t' hx).1 (by decide)
      rw [List.append_nil]
      refine readEmptyLines?_end ?_ (fun x hx => (hcontent x hx).2.1) (fun _ => htab) h
      rw [takeWhile_blanks _ hspace]
      omega
    | cons x more =>
      -- the blanks in front of a line are as many as its indentation, or more
      have hx := hmore x rfl
      rw [blockTail_line hx] at h
      rw [List.append_nil]
      refine readEmptyLines?_end ?_ ?_ (fun hlt => absurd hlt (Nat.lt_irrefl _)) h
      · have hle := le_takeWhile_blanks indent
          (blockTail indent false (x :: more) (List.replicate j ' ' ++ content))
        omega
      · intro y hy
        rw [head_blockTail_cons _ _ _ hx] at hy
        exact Option.some.inj hy ▸ hx
  | cons x breaks ih =>
    obtain ⟨fuel, rfl⟩ : ∃ m, fuel = m + 1 := ⟨fuel - 1, by omega⟩
    obtain ⟨hx, hbreaks⟩ := List.forall_mem_cons.mp hbreaks
    obtain ⟨hxvisible, hvisible⟩ := List.forall_mem_cons.mp hvisible
    rw [List.cons_append, blockTail_cons_break hx] at h
    have hfuel : breaks.length < fuel := by simpa using hfuel
    obtain ⟨d, deepest', hd, hread⟩ := ih hbreaks hvisible hfuel (acc ++ [x]) h.nextLine
    refine ⟨d, deepest', hd, ?_⟩
    rw [readEmptyLines?_break hx hxvisible h, hread, List.append_assoc, List.singleton_append]

/-- The indentation of the first line of a block, if that line starts with no blank. -/
theorem readEmptyLines?_first (hx : isBreak x = false) (hspace : x ≠ ' ') (htab : x ≠ '\t')
    (fuel : Nat) (h : c.At 0 (blockTail indent true (x :: cs) rest)) :
    ∃ d : Cursor, d.At indent (blockTail indent false (x :: cs) rest) ∧
      readEmptyLines? none (fuel + 1) [] 0 c = some ([], indent, d) := by
  rw [blockTail_line hx] at h
  have hskip := h.skip
  rw [List.length_replicate, Nat.zero_add] at hskip
  refine ⟨c.skip indent, hskip, ?_⟩
  have hhead := head_blockTail_cons indent cs rest hx
  have hstop : (blockTail indent false (x :: cs) rest).head? ≠ some ' ' := by
    rw [hhead]
    simpa using hspace
  have hblanks := takeWhile_blanks indent hstop
  rw [readEmptyLines?, h.rest_eq]
  simp only [hblanks, hskip.column_eq, hskip.rest_eq, hhead]
  simp [htab, hx]

/-! ### The lines of a block -/

/-- What is read of the lines of a block: a text without its last line ends, and these, of which
there is one even if the text has none. -/
def IsBlock (b : BlockText) (before cs : List Char) : Prop :=
  ∃ body ends, cs = body ++ ends ∧ b.text = before ++ body ∧
    (∀ x ∈ ends, isBreak x = true) ∧ (∃ x ∈ body.getLast?, isBreak x = false) ∧
    b.leading ++ b.trailing = (if ends = [] then ['\n'] else ends) ∧ b.leading.length = 1

/-- What was read before is part of the text as well. -/
theorem IsBlock.behind {b : BlockText} {before front : List Char}
    (h : IsBlock b (before ++ front) cs) : IsBlock b before (front ++ cs) := by
  obtain ⟨body, ends, hcs, htext, hends, ⟨x, hx, hxbreak⟩, hparts⟩ := h
  refine ⟨front ++ body, ends, by rw [hcs, List.append_assoc], by rw [htext, List.append_assoc],
    hends, ⟨x, ?_, hxbreak⟩, hparts⟩
  rw [List.getLast?_append, Option.mem_def.mp hx]
  rfl

/-- The last line of a block, which `behind` is written behind. -/
theorem isBlock_lastLine {line behind breaks : List Char} (before : List Char) (indented : Bool)
    (hline : ∃ y ∈ line.getLast?, isBreak y = false) (hx : isBreak x = true)
    (hbreaks : ∀ y ∈ breaks, isBreak y = true)
    (hbehind : behind = [] ∧ x = '\n' ∧ breaks = [] ∨ behind = x :: breaks) :
    IsBlock ⟨before ++ line, [x], breaks, indented⟩ before (line ++ behind) := by
  rcases hbehind with ⟨rfl, rfl, rfl⟩ | rfl
  · exact ⟨line, [], rfl, rfl, List.forall_mem_nil _, hline, rfl, rfl⟩
  · exact ⟨line, x :: breaks, rfl, rfl, List.forall_mem_cons.mpr ⟨hx, hbreaks⟩, hline, rfl, rfl⟩

/-- A line ends before the first line end. -/
theorem takeWhile_line {line : List Char} (hline : ∀ x ∈ line, isBreak x = false)
    (hrest : ∀ x ∈ rest.head?, isBreak x = true) :
    ((line ++ rest).takeWhile fun x => !isBreak x) = line := by
  have hstop : (rest.takeWhile fun x => !isBreak x) = [] := by
    cases rest with
    | nil => rfl
    | cons x rest => simp [hrest x rfl]
  rw [List.takeWhile_append_of_pos (by simpa using hline), hstop, List.append_nil]

/-- Behind the block nothing is a line of it. -/
theorem readBlockLines?_end (hj : j < indent) (fuel : Nat) (b : BlockText)
    (h : c.At j rest) : readBlockLines? false indent fuel b c = some (b, c) := by
  cases fuel with
  | zero => rfl
  | succ fuel =>
    rw [readBlockLines?, if_neg]
    rw [h.column_eq]
    omega

/-- A text that starts with no line end has a first line. -/
theorem exists_firstLine (hne : cs ≠ []) (hhead : ∀ x ∈ cs.head?, isBreak x = false) :
    ∃ line behind, cs = line ++ behind ∧ (∀ x ∈ line, isBreak x = false) ∧
      (∃ x ∈ line.getLast?, isBreak x = false) ∧ ∀ x ∈ behind.head?, isBreak x = true := by
  obtain ⟨line, behind, hcs, hline, hbehind⟩ := exists_span (fun x => !isBreak x) cs
  simp only [Bool.not_eq_true', Bool.not_eq_false'] at hline hbehind
  refine ⟨line, behind, hcs, hline, ?_, hbehind⟩
  cases hlast : line.getLast? with
  | some y => exact ⟨y, rfl, hline y (List.mem_of_getLast? hlast)⟩
  | none =>
    -- an empty first line would end where the text starts, which is no line end
    obtain ⟨y, ys, rfl⟩ := List.exists_cons_of_ne_nil hne
    rw [List.getLast?_eq_none_iff.mp hlast, List.nil_append] at hcs
    have hbreak := hbehind y (by rw [← hcs]; rfl)
    rw [hhead y rfl] at hbreak
    cases hbreak

/-- The end of a line of a block, and where the next line starts. -/
theorem exists_lineEnd (indent : Nat) (rest : List Char) {more : List Char}
    (hmore : ∀ x ∈ more.head?, isBreak x = true)
    (hvisible : ∀ x ∈ more, isVisible x = true) :
    ∃ x more', isBreak x = true ∧ isVisible x = true ∧ (∀ y ∈ more', isVisible y = true) ∧
      blockTail indent false more rest = x :: blockTail indent true more' rest ∧
      (more = [] ∧ x = '\n' ∧ more' = [] ∨ more = x :: more') := by
  cases more with
  -- the writer ends the last line where the text does not
  | nil => exact ⟨'\n', [], rfl, rfl, by simp, rfl, .inl ⟨rfl, rfl, rfl⟩⟩
  | cons x more =>
    obtain ⟨hx, hvisible⟩ := List.forall_mem_cons.mp hvisible
    exact ⟨x, more, hmore x rfl, hx, hvisible, blockTail_cons_break (hmore x rfl), .inr rfl⟩

/-- One line of a block, with its end and the empty lines behind it. -/
theorem readBlockLines?_line (hcontent : StartsToken content) (hj : j < indent)
    {line more breaks : List Char} (fuel : Nat)
    (hline : ∀ y ∈ line, isBreak y = false) (hx : isBreak x = true) (hxvisible : isVisible x = true)
    (hbreaks : ∀ y ∈ breaks, isBreak y = true) (hvisible : ∀ y ∈ breaks, isVisible y = true)
    (hmore : ∀ y ∈ more.head?, isBreak y = false) (b : BlockText)
    (h : c.At indent (line ++ x :: blockTail indent true (breaks ++ more)
      (List.replicate j ' ' ++ content))) :
    ∃ (d : Cursor) (indented : Bool), AtLine d indent j content more ∧
      readBlockLines? false indent (fuel + 1) b c
        = readBlockLines? false indent fuel
            ⟨b.text ++ b.leading ++ b.trailing ++ line, [x], breaks, indented⟩ d := by
  have hskip := h.skip
  have hlength : breaks.length < ((c.skip line.length).nextLine 1).rest.length + 1 := by
    rw [hskip.nextLine.rest_eq, blockTail_breaks hbreaks, List.length_append]
    omega
  obtain ⟨d, deepest', hd, hread⟩ := readEmptyLines?_tail hcontent hj hbreaks hmore hvisible
    hlength [] 0 hskip.nextLine
  have hstart : c.column = indent ∧ c.rest ≠ [] := by
    rw [h.rest_eq]
    exact ⟨h.column_eq, by simp⟩
  refine ⟨d, c.rest.head?.any isGap, hd, ?_⟩
  rw [readBlockLines?, if_pos hstart, h.rest_eq, takeWhile_line hline (by simpa using hx)]
  simp only [hskip.readBreak hx hxvisible, hread]
  simp [BlockText.joint]

/-- The lines of a block. -/
theorem readBlockLines?_tail (hcontent : StartsToken content) (hj : j < indent) :
    ∀ {cs : List Char} {fuel : Nat} {c : Cursor} (_ : ∀ x ∈ cs, isVisible x = true) (_ : cs ≠ [])
      (_ : ∀ x ∈ cs.head?, isBreak x = false) (_ : cs.length ≤ fuel) (b : BlockText)
      (_ : c.At indent (blockTail indent false cs (List.replicate j ' ' ++ content))),
      ∃ (b' : BlockText) (d : Cursor), d.At j content ∧
        readBlockLines? false indent fuel b c = some (b', d) ∧
        IsBlock b' (b.text ++ b.leading ++ b.trailing) cs := by
  intro cs fuel c hvisible hne hhead hfuel b h
  obtain ⟨fuel, rfl⟩ : ∃ m, fuel = m + 1 := by
    have hpos := List.length_pos_iff.mpr hne
    exact ⟨fuel - 1, by omega⟩
  -- one line, its end and the empty lines behind it: the rest is a shorter text
  obtain ⟨line, behind, hcs, hline, hlast, hbehind⟩ := exists_firstLine hne hhead
  obtain ⟨x, lines, hx, hxvisible, hlines, htail, hcase⟩ :=
    exists_lineEnd indent (List.replicate j ' ' ++ content) hbehind
      (fun y hy => hvisible y (hcs ▸ List.mem_append_right _ hy))
  obtain ⟨breaks, more, rfl, hbreaks, hmore⟩ := exists_span isBreak lines
  rw [hcs, blockTail_append hline, htail] at h
  obtain ⟨d, indented, hd, hread⟩ := readBlockLines?_line hcontent hj fuel hline hx hxvisible
    hbreaks (fun y hy => hlines y (List.mem_append_left _ hy)) hmore b h
  cases more with
  | nil =>
    rw [List.append_nil] at hcase
    refine ⟨_, d, hd, hread.trans (readBlockLines?_end hj fuel _ hd), ?_⟩
    rw [hcs]
    exact isBlock_lastLine _ indented hlast hx hbreaks hcase
  | cons y more =>
    -- another line follows, so the end of this one was written in the text
    have hbehind : behind = x :: (breaks ++ y :: more) :=
      hcase.resolve_left fun ⟨_, _, hnil⟩ => by simp at hnil
    have hlength : cs.length = line.length + (breaks.length + (more.length + 1) + 1) := by
      rw [hcs, hbehind]
      simp
    have hmorevisible : ∀ z ∈ y :: more, isVisible z = true :=
      fun z hz => hlines z (List.mem_append_right _ hz)
    have hshorter : (y :: more).length ≤ fuel := by
      rw [List.length_cons]
      omega
    obtain ⟨b', d', hd', hread', hblock⟩ :=
      readBlockLines?_tail hcontent hj hmorevisible (by simp) hmore hshorter _ hd
    refine ⟨b', d', hd', hread.trans hread', ?_⟩
    have htext : line ++ behind = line ++ [x] ++ breaks ++ y :: more := by simp [hbehind]
    rw [hcs, htext]
    exact IsBlock.behind (by simpa using hblock)
termination_by cs => cs.length
decreasing_by
  rw [List.length_cons]
  omega

/-! ### Signs in front of a block -/

/-- What the sign in front of a block says. -/
def chompingOf (cs : List Char) : Chomping :=
  if keepsBreaks cs then .keep else if cs.getLast?.any isBreak then .clip else .strip

/-- What the digit in front of a block says. -/
def incrementOf (cs : List Char) : Option Nat :=
  if cs.head?.any fun c => isSpace c || isBreak c then some 2 else none

/-- The sign in front of a block. -/
def signOf : Chomping → List Char
  | .strip => ['-']
  | .clip => []
  | .keep => ['+']

theorem literalHints_eq (cs : List Char) :
    literalHints cs
      = (if (incrementOf cs).isSome then ['2'] else []) ++ signOf (chompingOf cs) := by
  unfold literalHints chompingOf incrementOf
  repeat' split
  all_goals simp_all [signOf]

/-- The sign in front of a block is read. -/
theorem readChomping?_signOf {chomping : Chomping}
    (h : c.At column (signOf chomping ++ '\n' :: rest)) :
    ∃ (d : Cursor) (column' : Nat), d.At column' ('\n' :: rest) ∧
      (readChomping? c).getD (.clip, c) = (chomping, d) := by
  cases chomping with
  | strip =>
    have h : c.At column ('-' :: '\n' :: rest) := h
    exact ⟨_, _, h.skip_one, by simp [readChomping?, h.rest_eq]⟩
  | clip =>
    have h : c.At column ('\n' :: rest) := h
    exact ⟨_, _, h, by simp [readChomping?, h.rest_eq]⟩
  | keep =>
    have h : c.At column ('+' :: '\n' :: rest) := h
    exact ⟨_, _, h.skip_one, by simp [readChomping?, h.rest_eq]⟩

theorem incrementOf_eq (cs : List Char) : incrementOf cs = none ∨ incrementOf cs = some 2 := by
  unfold incrementOf
  split
  · exact .inr rfl
  · exact .inl rfl

/-- The digit and the sign in front of a block are read. -/
theorem readHeader?_literalHints (h : c.At column (literalHints cs ++ '\n' :: rest)) :
    ∃ (d : Cursor) (column' : Nat), d.At column' ('\n' :: rest) ∧
      readHeader? c = some (chompingOf cs, incrementOf cs, d) := by
  rw [literalHints_eq, List.append_assoc] at h
  rcases incrementOf_eq cs with hincrement | hincrement
  · -- no digit: the sign comes first, or there is none
    rw [hincrement] at h ⊢
    obtain ⟨d, column', hd, hread⟩ := readChomping?_signOf h
    refine ⟨d, column', hd, ?_⟩
    have hnone : readIncrement? d = some (none, d) := by simp [readIncrement?, hd.rest_eq]
    unfold readHeader?
    cases hsign : readChomping? c with
    | none =>
      rw [hsign, Option.getD_none] at hread
      obtain ⟨hclip, rfl⟩ := Prod.mk.inj hread
      rw [← hclip]
      simp [hnone]
    | some sign =>
      rw [hsign, Option.getD_some] at hread
      simp [hread, hnone]
  · -- the digit comes first, so the sign is looked for once more behind it
    rw [hincrement] at h ⊢
    have h : c.At column ('2' :: (signOf (chompingOf cs) ++ '\n' :: rest)) := h
    obtain ⟨d, column', hd, hread⟩ := readChomping?_signOf h.skip_one
    have hsign : readChomping? c = none := by simp [readChomping?, h.rest_eq]
    have hdigit : readIncrement? c = some (some 2, c.skip 1) := by
      simp [readIncrement?, h.rest_eq]
    refine ⟨d, column', hd, ?_⟩
    unfold readHeader?
    simp only [hsign, hdigit]
    cases hbehind : readChomping? (c.skip 1) with
    | none =>
      rw [hbehind, Option.getD_none] at hread
      obtain ⟨hclip, rfl⟩ := Prod.mk.inj hread
      rw [← hclip]
    | some sign =>
      rw [hbehind, Option.getD_some] at hread
      rw [hread]

/-- The sign in front of a block, by the line ends at the end of its text. -/
theorem chompingOf_append {body ends : List Char} (hends : ∀ y ∈ ends, isBreak y = true)
    (hx : isBreak x = false) :
    chompingOf (body ++ [x] ++ ends)
      = if ends = [] then .strip else if ends.length = 1 then .clip else .keep := by
  have hlast : isBreak x = false → keepsBreaks (body ++ [x]) = false := by
    intro hx
    cases hbody : body.reverse with
    | nil => simp [keepsBreaks, hbody, hx]
    | cons y ys => simp [keepsBreaks, hbody, hx]
  rcases List.eq_nil_or_concat ends with rfl | ⟨init, last, rfl⟩
  · -- no line end at the end of the text
    simp [chompingOf, hx, hlast hx]
  · have hlastbreak := hends last (by simp)
    rcases List.eq_nil_or_concat init with rfl | ⟨init, second, rfl⟩
    · -- a single one, which `clip` keeps
      simp [chompingOf, keepsBreaks, hx, hlastbreak]
    · -- more than one
      have hsecond := hends second (by simp)
      simp [chompingOf, keepsBreaks, hlastbreak, hsecond]

/-- The line ends at the end of a text are told by the sign in front of its block. -/
theorem chomp_eq {b : BlockText} (h : IsBlock b [] cs) :
    b.text ++ (if chompingOf cs = .strip then [] else b.leading)
      ++ (if chompingOf cs = .keep then b.trailing else []) = cs := by
  obtain ⟨body, ends, hcs, htext, hends, ⟨x, hx, hxbreak⟩, hparts, hleading⟩ := h
  obtain ⟨first, hfirst⟩ := List.length_eq_one_iff.mp hleading
  obtain ⟨init, rfl⟩ := List.getLast?_eq_some_iff.mp hx
  rw [hfirst] at hparts
  rw [hcs, chompingOf_append hends hxbreak, htext, hfirst]
  by_cases hnil : ends = []
  · -- the line end that the writer adds is stripped again
    simp [hnil]
  · -- one line end is the leading one, all others are trailing
    rw [if_neg hnil] at hparts
    rw [if_neg hnil, ← hparts]
    by_cases hone : b.trailing = []
    · simp [hone]
    · simp [hone]

/-- The text of a block of empty lines alone. -/
theorem chompingOf_breaks (hne : cs ≠ []) (hbreaks : ∀ x ∈ cs, isBreak x = true) :
    chompingOf cs = .keep := by
  rcases List.eq_nil_or_concat cs with rfl | ⟨init, last, rfl⟩
  · exact absurd rfl hne
  · have hlast := hbreaks last (by simp)
    rcases List.eq_nil_or_concat init with rfl | ⟨init, second, rfl⟩
    · simp [chompingOf, keepsBreaks, hlast]
    · have hsecond := hbreaks second (by simp)
      simp [chompingOf, keepsBreaks, hlast, hsecond]

/-- The lines of a block behind empty ones, and what the sign leaves of the line ends. -/
theorem readBlockLines?_literal (hcontent : StartsToken content) (hj : j < indent)
    (breaks : List Char) {more : List Char} (hvisible : ∀ x ∈ more, isVisible x = true)
    (hne : breaks ++ more ≠ []) (hbreaks : ∀ x ∈ breaks, isBreak x = true)
    (hmore : ∀ x ∈ more.head?, isBreak x = false) (h : AtLine c indent j content more) :
    ∃ (b : BlockText) (d : Cursor), d.At j content ∧
      readBlockLines? false indent (c.rest.length + 1) ⟨[], [], breaks, false⟩ c = some (b, d) ∧
      b.text ++ (if chompingOf (breaks ++ more) = .strip then [] else b.leading)
        ++ (if chompingOf (breaks ++ more) = .keep then b.trailing else []) = breaks ++ more := by
  cases more with
  | nil =>
    refine ⟨_, c, h, readBlockLines?_end hj _ _ h, ?_⟩
    rw [List.append_nil] at hne ⊢
    simp [chompingOf_breaks hne hbreaks]
  | cons x more =>
    have hfuel : (x :: more).length ≤ c.rest.length + 1 := by
      have hlength := length_le_length_blockTail indent false (x :: more)
        (List.replicate j ' ' ++ content)
      rw [h.rest_eq]
      omega
    obtain ⟨b, d, hd, hread, hblock⟩ := readBlockLines?_tail hcontent hj hvisible (by simp) hmore
      hfuel ⟨[], [], breaks, false⟩ h
    exact ⟨b, d, hd, hread, chomp_eq (IsBlock.behind hblock)⟩

/-- A literal block is read. -/
theorem readBlock?_literal (hcontent : StartsToken content) {parent : Nat} (hj : j < parent + 2)
    (hvisible : ∀ x ∈ cs, isVisible x = true) (hne : cs ≠ [])
    (h : c.At column (literalHints cs
      ++ '\n' :: blockTail (parent + 2) true cs (List.replicate j ' ' ++ content))) :
    ∃ d : Cursor, d.At j content ∧ readBlock? false parent c = some (cs, d) := by
  obtain ⟨d, column', hd, hheader⟩ := readHeader?_literalHints h
  have hskip : d.skipWhile isGap = d := by
    unfold Cursor.skipWhile
    rw [hd.rest_eq]
    rfl
  have hcomment : ¬ d.rest.head? = some '#' := by
    rw [hd.rest_eq]
    simp
  have hend : ¬ (!isBreakOrEnd d.rest) = true := by
    rw [hd.rest_eq]
    simp [isBreakOrEnd, isBreak]
  have hbreak := hd.readBreak rfl rfl
  unfold readBlock?
  simp only [hheader, hskip, hcomment, hend, if_false, hbreak]
  rcases incrementOf_eq cs with hhint | hhint
  · -- the first line tells the indentation
    obtain ⟨x, xs, rfl⟩ := List.exists_cons_of_ne_nil hne
    have hx : isSpace x = false ∧ isBreak x = false := by
      simpa [incrementOf] using hhint
    have hspace : x ≠ ' ' := by simpa [isSpace] using hx.1
    have htab : x ≠ '\t' := by
      rintro rfl
      exact absurd (hvisible '\t' List.mem_cons_self) (by decide)
    obtain ⟨e, he, hempty⟩ := readEmptyLines?_first hx.2 hspace htab
      (d.nextLine 1).rest.length hd.nextLine
    obtain ⟨b, f, hf, hread, hchomp⟩ := readBlockLines?_literal hcontent hj [] hvisible
      hne (List.forall_mem_nil _) (fun y hy => Option.some.inj hy ▸ hx.2) he
    refine ⟨f, hf, ?_⟩
    have hindent : max (max (parent + 2) ((parent : Int) + 1).toNat) 1 = parent + 2 := by omega
    simp only [hhint, Option.map_none, hempty, Option.getD_none, hindent, hread]
    exact congrArg (fun text => some (text, f)) hchomp
  · -- the digit does
    obtain ⟨breaks, more, rfl, hbreaks, hmore⟩ := exists_span isBreak cs
    have hlength : breaks.length < (d.nextLine 1).rest.length + 1 := by
      rw [hd.nextLine.rest_eq, blockTail_breaks hbreaks, List.length_append]
      omega
    obtain ⟨e, deepest, he, hempty⟩ := readEmptyLines?_tail hcontent hj hbreaks hmore
      (fun x hx => hvisible x (List.mem_append_left _ hx)) hlength [] 0 hd.nextLine
    obtain ⟨b, f, hf, hread, hchomp⟩ := readBlockLines?_literal hcontent hj _
      (fun x hx => hvisible x (List.mem_append_right _ hx)) hne hbreaks hmore he
    refine ⟨f, hf, ?_⟩
    have hparent : (parent : Int).toNat + 2 = parent + 2 := rfl
    simp only [hhint, Option.map_some, hparent, hempty, Option.getD_some, List.nil_append, hread]
    exact congrArg (fun text => some (text, f)) hchomp

end SheetGrammar.Yaml
