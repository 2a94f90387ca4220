import SheetGrammar.Proofs.Yaml.Gaps
import SheetGrammar.Yaml.Scalar

/-!
# Plain scalars come back

A plain scalar is read word by word.  The choice of the style makes sure that no word of it holds
what would end the scalar, so that it goes on to the end of its line.

## Main definitions

* `FitsWords` — a text that can be read word by word.

## Main results

* `fitsWords_of_fitsPlain` — a text that is written plain can be read so.
* `readPlain?_lineEnd` — a plain scalar is read up to the end of its line.
-/

namespace SheetGrammar.Yaml

variable {c : Cursor} {column : Nat} {cs : List Char}

/-- No colon in a text stands before a blank or at the end. -/
def colonFree : List Char → Bool
  | [] => true
  | c :: cs => !(c = ':' && isBlankOrEnd cs) && colonFree cs

theorem hasInnerMark_eq_false {before : Char} (h : hasInnerMark before cs = false) :
    colonFree cs = true ∧ hasAdjacent isGap (· = '#') (before :: cs) = false := by
  induction cs generalizing before with
  | nil => simp [colonFree, hasAdjacent]
  | cons c cs ih =>
    simp only [hasInnerMark, Bool.or_eq_false_iff] at h
    obtain ⟨⟨hcolon, hhash⟩, hrest⟩ := h
    obtain ⟨hfree, hadjacent⟩ := ih hrest
    rw [colonFree, hasAdjacent, hcolon, hfree, hadjacent]
    refine ⟨rfl, ?_⟩
    cases hgap : isGap before with
    | false => simp
    | true => simpa [hgap] using hhash

/-- A word of a plain scalar ends before a blank and at the end of the line. -/
theorem readWord?_lineEnd (hvisible : ∀ x ∈ cs, isVisible x = true)
    (hbreak : ∀ x ∈ cs, isBreak x = false) (hcolon : colonFree cs = true) (rest : List Char) :
    readWord? false (cs ++ '\n' :: rest) = some (cs.takeWhile fun x => !isSpace x) := by
  induction cs with
  | nil => rfl
  | cons x cs ih =>
    obtain ⟨hx, hbreak⟩ := List.forall_mem_cons.mp hbreak
    obtain ⟨hxvisible, hvisible⟩ := List.forall_mem_cons.mp hvisible
    rw [colonFree, Bool.and_eq_true, Bool.not_eq_true'] at hcolon
    obtain ⟨hmark, hcolon⟩ := hcolon
    rw [List.cons_append, readWord?, isBlankOrEnd_append_lineFeed, isGap_eq_isSpace hxvisible, hx,
      hmark]
    cases hspace : isSpace x with
    | true => simp [hspace]
    | false => simp [hspace, ih hvisible hbreak hcolon]

theorem colonFree_of_append {xs ys : List Char} (h : colonFree (xs ++ ys) = true) :
    colonFree ys = true := by
  induction xs with
  | nil => exact h
  | cons x xs ih =>
    rw [List.cons_append, colonFree, Bool.and_eq_true] at h
    exact ih h.2

/-- A text that can be read word by word as a plain scalar. -/
structure FitsWords (cs : List Char) : Prop where
  visible : ∀ x ∈ cs, isVisible x = true
  line : ∀ x ∈ cs, isBreak x = false
  colon : colonFree cs = true
  hash : hasAdjacent isGap (· = '#') cs = false
  last : ∀ x ∈ cs.getLast?, isSpace x = false
  head : ∀ x ∈ cs.head?, isSpace x = false ∧ x ≠ '#'

/-- What follows some blanks can be read as well. -/
theorem FitsWords.behind_blanks {word more : List Char} {n : Nat}
    (h : FitsWords (word ++ (List.replicate (n + 1) ' ' ++ more)))
    (hmore : ∀ x ∈ more.head?, isSpace x = false) : FitsWords more ∧ more ≠ [] := by
  -- the last of the blanks stands right in front of what follows them
  have hcs : word ++ (List.replicate (n + 1) ' ' ++ more)
      = word ++ List.replicate n ' ' ++ (' ' :: more) := by
    simp [List.replicate_succ']
  rw [hcs] at h
  have hne : more ≠ [] := by
    rintro rfl
    exact absurd (h.last ' ' (by simp)) (by decide)
  obtain ⟨x, xs, rfl⟩ := List.exists_cons_of_ne_nil hne
  have hhash := hasAdjacent_of_append _ h.hash
  refine ⟨⟨fun y hy => h.visible y (by simp [hy]), fun y hy => h.line y (by simp [hy]), ?_, ?_,
    ?_, ?_⟩, hne⟩
  · exact colonFree_of_append (List.append_cons _ _ _ ▸ h.colon)
  · exact hasAdjacent_of_append [' '] hhash
  · intro y hy
    refine h.last y ?_
    rw [List.getLast?_append, List.getLast?_cons_cons, Option.mem_def.mp hy]
    rfl
  · intro y hy
    obtain rfl := Option.some.inj hy
    refine ⟨hmore x rfl, ?_⟩
    rintro rfl
    simp [hasAdjacent, isGap] at hhash

/-- The first character of such a text is no blank and no line end. -/
theorem FitsWords.starts (h : FitsWords cs) (hne : cs ≠ []) (rest : List Char) :
    ∀ x ∈ (cs ++ rest).head?, isGap x = false ∧ isBreak x = false := by
  obtain ⟨x, xs, rfl⟩ := List.exists_cons_of_ne_nil hne
  intro y hy
  obtain rfl := Option.some.inj hy
  exact ⟨(isGap_eq_isSpace (h.visible x List.mem_cons_self)).trans (h.head x rfl).1,
    h.line x List.mem_cons_self⟩

/-- The first word of such a text is read, and the gap behind it decides how it goes on. -/
theorem FitsWords.readWords?_word {word rest : List Char} {indent fuel : Nat} {g : Gap}
    {d : Cursor} (h : FitsWords cs) (hne : cs ≠ [])
    (hword : cs.takeWhile (fun x => !isSpace x) = word) (hcolumn : 0 < column)
    (text blanks : List Char) (hc : c.At column (cs ++ '\n' :: rest))
    (hend : isBlankOrEnd (c.skip word.length).rest = true) (hrest : (c.skip word.length).rest ≠ [])
    (hgap : Gap.read (fun column => column < indent) (c.skip word.length).rest.length Gap.start
      (c.skip word.length) = some (g, d)) :
    readWords? false indent (fuel + 1) text ⟨blanks, false, [], false⟩ c
      = if d.column < indent then some ⟨text ++ blanks ++ word, d, g.broken⟩
        else readWords? false indent fuel (text ++ blanks ++ word) g d := by
  obtain ⟨x, xs, rfl⟩ := List.exists_cons_of_ne_nil hne
  obtain ⟨hspace, hhash⟩ := h.head x rfl
  -- neither a marker nor a comment starts here
  have hstart : ¬ (c.atAnyMarker = true ∨ c.rest.head? = some '#') := by
    rw [hc.atAnyMarker hcolumn, hc.rest_eq]
    simp [hhash]
  have hwordne : word ≠ [] := by
    rw [← hword, List.takeWhile_cons_of_pos (by simpa using hspace)]
    simp
  have htext : text ++ Gap.text ⟨blanks, false, [], false⟩ ++ word = text ++ blanks ++ word := rfl
  rw [readWords?, if_neg hstart, hc.rest_eq, readWord?_lineEnd h.visible h.line h.colon, hword]
  simp only [hwordne, if_false, htext, hend, hrest, Bool.not_true, Bool.false_eq_true, or_self,
    hgap, Bool.not_false, true_and]

/-- The words of a plain scalar are read up to the end of the line, behind which a token stands
that is not indented like the scalar. -/
theorem readWords?_lineEnd {indent j : Nat} {content : List Char} (hj : j < indent)
    (hcontent : StartsToken content) :
    ∀ {cs : List Char} {fuel column : Nat} {c : Cursor} (_ : FitsWords cs) (_ : cs ≠ [])
      (_ : cs.length < fuel) (_ : indent ≤ column) (text blanks : List Char)
      (_ : c.At column (cs ++ '\n' :: (List.replicate j ' ' ++ content))),
      ∃ d : Cursor, d.At j content ∧
        readWords? false indent fuel text ⟨blanks, false, [], false⟩ c
          = some ⟨text ++ blanks ++ cs, d, true⟩ := by
  intro cs fuel column c hfits hne hfuel hcolumn text blanks hc
  obtain ⟨fuel, rfl⟩ : ∃ m, fuel = m + 1 := ⟨fuel - 1, by omega⟩
  obtain ⟨word, n, more, hcs, htake, -, hmore, hn⟩ := exists_word cs
  have hskip : (c.skip word.length).At (column + word.length)
      (List.replicate n ' ' ++ (more ++ '\n' :: (List.replicate j ' ' ++ content))) := by
    rw [hcs, List.append_assoc, List.append_assoc] at hc
    exact hc.skip
  cases n with
  | zero =>
    -- the line ends, and the next one is not indented
    obtain rfl := hn rfl
    rw [List.replicate_zero, List.nil_append, List.nil_append] at hskip
    have hlonger : j < (c.skip word.length).rest.length := by
      rw [hskip.rest_eq, List.length_cons, List.length_append, List.length_replicate]
      omega
    obtain ⟨d, hd, hgap⟩ := Gap.read_lineEnd (fun column => column < indent)
      (c.skip word.length).rest.length hcontent hlonger Gap.start hskip
    refine ⟨d, hd, ?_⟩
    rw [hfits.readWords?_word hne htake (by omega) text blanks hc (by rw [hskip.rest_eq]; rfl)
      (by simp [hskip.rest_eq]) hgap, hd.column_eq, if_pos hj]
    simp [hcs]
  | succ n =>
    -- spaces lead to the next word
    obtain ⟨hmorefits, hmorene⟩ := (hcs ▸ hfits).behind_blanks hmore
    have hspacelength : n + 1 ≤ (c.skip word.length).rest.length := by
      rw [hskip.rest_eq, List.length_append, List.length_replicate]
      omega
    obtain ⟨hmoreskip, hgap⟩ := Gap.read_spaces (fun column => column < indent) hspacelength
      (hmorefits.starts hmorene _) hskip
    -- the column only grows within the line, so the scalar goes on
    have hindent : ¬ ((c.skip word.length).skip (n + 1)).column < indent := by
      rw [hmoreskip.column_eq]
      omega
    have hshorter : cs.length = word.length + (n + 1 + more.length) := by simp [hcs]
    have hmorefuel : more.length < fuel := by omega
    obtain ⟨d, hd, hwords⟩ := readWords?_lineEnd hj hcontent hmorefits hmorene hmorefuel
      (by omega) (text ++ blanks ++ word) (List.replicate (n + 1) ' ') hmoreskip
    refine ⟨d, hd, ?_⟩
    rw [hfits.readWords?_word hne htake (by omega) text blanks hc (by rw [hskip.rest_eq]; rfl)
      (by simp [hskip.rest_eq]) hgap, if_neg hindent, hwords]
    simp [hcs]
termination_by cs => cs.length

/-- A text that is written plain can be read word by word. -/
theorem fitsWords_of_fitsPlain (h : fitsPlain cs = true) : FitsWords cs := by
  simp only [fitsPlain, Bool.and_eq_true, Bool.not_eq_true', List.all_eq_true,
    List.any_eq_false, Bool.not_eq_true] at h
  obtain ⟨⟨⟨⟨hvisible, hbreak⟩, hhead⟩, hlast⟩, hmarks⟩ := h
  cases cs with
  | nil => exact ⟨by simp, by simp, rfl, rfl, by simp, by simp⟩
  | cons x cs =>
    simp only [hasMarks, Bool.or_eq_false_iff] at hmarks
    obtain ⟨⟨-, hspecial⟩, hinner⟩ := hmarks
    obtain ⟨hcolon, hhash⟩ := hasInnerMark_eq_false hinner
    -- the mark at the start is looked for by `startsSpecial`, those inside by `hasInnerMark`
    have hx : (decide (x = ':') && isBlankOrEnd cs) = false := by
      by_cases hx : x = ':'
      · rw [startsSpecial, Bool.or_eq_false_iff, hx] at hspecial
        rw [hx]
        simpa using hspecial.2
      · simp [hx]
    refine ⟨hvisible, hbreak, by rw [colonFree, hx, hcolon]; rfl, hhash, ?_, ?_⟩
    · intro y hy
      rw [Option.mem_def.mp hy, Option.all_some, Bool.not_eq_true'] at hlast
      exact hlast
    · intro y hy
      obtain rfl := Option.some.inj hy
      refine ⟨by simpa using hhead, ?_⟩
      rintro rfl
      simp [startsSpecial] at hspecial

/-- A plain scalar is read up to the end of its line. -/
theorem readPlain?_lineEnd {indent j : Nat} {content : List Char} (hj : j < indent)
    (hcontent : StartsToken content) (hfits : FitsWords cs) (hne : cs ≠ [])
    (hcolumn : indent ≤ column)
    (h : c.At column (cs ++ '\n' :: (List.replicate j ' ' ++ content))) :
    ∃ d : Cursor, d.At j content ∧ readPlain? false indent c = some ⟨cs, d, true⟩ := by
  have hfuel : cs.length < c.rest.length + 1 := by
    rw [h.rest_eq, List.length_append]
    omega
  exact readWords?_lineEnd hj hcontent hfits hne hfuel hcolumn [] [] h

end SheetGrammar.Yaml
