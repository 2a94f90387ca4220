import Mathlib.Algebra.Group.Nat.Defs
import SheetGrammar.Proofs.Yaml.Gaps
import SheetGrammar.Yaml.Scalar

/-!
# Quoted scalars come back

Between double quotes stand words of characters that show, of escapes and of single spaces, all on
one line.  Between single quotes a line end of the text is one of the scalar, too, behind which
the line is indented.

## Main results

* `readQuoted?_double` — scalars between double quotes.
* `readQuoted?_single` — scalars between single quotes.
-/

namespace SheetGrammar.Yaml

variable {c : Cursor} {column : Nat} {cs rest : List Char}

/-! ### Words and gaps -/

section Words

variable {quote : Char} {word : List Char} {n fuel : Nat}

/-- A word that the closing quote ends. -/
theorem readQuotedWords?_close (hstart : ¬ (c.atAnyMarker = true ∨ c.rest = []))
    (hread : readQuotedWord? quote c.rest = some (word, n, .plain))
    (hquote : (c.skip n).rest.head? = some quote) (text : List Char) :
    readQuotedWords? quote (fuel + 1) text c = some (text ++ word, (c.skip n).skip 1) := by
  rw [readQuotedWords?, if_neg hstart, hread]
  simp only [reduceCtorEq, if_false, hquote, if_true]

/-- A word that a gap ends. -/
theorem readQuotedWords?_gap {g : Gap} {d : Cursor}
    (hstart : ¬ (c.atAnyMarker = true ∨ c.rest = []))
    (hread : readQuotedWord? quote c.rest = some (word, n, .plain))
    (hquote : (c.skip n).rest.head? ≠ some quote)
    (hgap : Gap.read (fun _ => false) (c.skip n).rest.length Gap.start (c.skip n) = some (g, d))
    (text : List Char) :
    readQuotedWords? quote (fuel + 1) text c
      = readQuotedWords? quote fuel (text ++ word ++ g.text) d := by
  rw [readQuotedWords?, if_neg hstart, hread]
  simp only [reduceCtorEq, if_false, hquote, hgap]

end Words

/-! ### Double quotes -/

theorem hexNumber?_hexDigits (count n : Nat) (h : n < 16 ^ count) :
    hexNumber? (hexDigits count n) = some n := by
  induction count generalizing n with
  | zero =>
    obtain rfl : n = 0 := by simpa using h
    rfl
  | succ count ih =>
    have hdigit : ∀ d < 16, hexValue? (upperHexDigit d) = some d := by decide
    -- the last digit is the remainder, and the others stand for the quotient
    have hhigh : n / 16 < 16 ^ count := by
      rw [Nat.div_lt_iff_lt_mul (by decide), ← Nat.pow_succ]
      exact h
    have hlast := hdigit (n % 16) (Nat.mod_lt n (by decide))
    have hsum : 16 * (n / 16) + n % 16 = n := Nat.div_add_mod n 16
    have hread := ih (n / 16) hhigh
    unfold hexNumber? at hread ⊢
    rw [hexDigits, List.foldlM_append, hread]
    simp [hlast, hsum]

theorem length_hexDigits (count n : Nat) : (hexDigits count n).length = count := by
  induction count generalizing n with
  | zero => rfl
  | succ count ih => simp [hexDigits, ih]

theorem charOfCode?_toNat (c : Char) : charOfCode? c.toNat = some c := by
  have hvalid : c.toNat < 0xD800 ∨ 0xDFFF < c.toNat ∧ c.toNat < 0x110000 := c.valid
  rw [charOfCode?, if_pos hvalid, Char.ofNat_toNat]

/-- A character by its number. -/
theorem readEscape?_hexDigits {letter : Char} {count : Nat}
    (hletter : escapeDigits? letter = some count) (x : Char) (hx : x.toNat < 16 ^ count)
    (rest : List Char) :
    readEscape? (letter :: (hexDigits count x.toNat ++ rest)) = some (x, count + 2) := by
  have htake : (hexDigits count x.toNat ++ rest).take count = hexDigits count x.toNat :=
    List.take_left' (length_hexDigits count x.toNat)
  rw [readEscape?, hletter]
  simp only [htake, length_hexDigits, Nat.lt_irrefl, if_false, hexNumber?_hexDigits _ _ hx,
    Option.bind_some, charOfCode?_toNat, Option.map_some]

/-- The characters that have a letter. -/
def lettered : List Char :=
  ['\x00', '\x07', '\x08', '\t', '\n', '\x0b', '\x0c', '\r', '\x1b', '"', '\\', '\x85', '\u2028',
   '\u2029']

theorem mem_lettered {x letter : Char} (h : escapeLetter? x = some letter) : x ∈ lettered := by
  by_cases hx : x ∈ lettered
  · exact hx
  · simp only [lettered, List.mem_cons, List.not_mem_nil, or_false, not_or] at hx
    unfold escapeLetter? at h
    simp only [hx, if_false] at h
    cases h

/-- A character by its letter. -/
theorem readEscape?_letter {x letter : Char} (h : escapeLetter? x = some letter)
    (rest : List Char) :
    isBreak letter = false ∧ readEscape? (letter :: rest) = some (x, 2) := by
  -- the letters are few, so they are gone through one by one
  have hall : ∀ x ∈ lettered, (escapeLetter? x).all fun letter =>
      !isBreak letter && escapeDigits? letter = none && escape? letter = some x :=
    List.all_eq_true.mp (by decide)
  have hx := hall x (mem_lettered h)
  simp only [h, Option.all_some, Bool.and_eq_true, Bool.not_eq_true', decide_eq_true_eq] at hx
  obtain ⟨⟨hbreak, hdigits⟩, hescape⟩ := hx
  exact ⟨hbreak, by simp [readEscape?, hdigits, hescape]⟩

/-- A character without a letter is nothing that has to be escaped. -/
theorem of_escapeLetter?_eq_none {x : Char} (h : escapeLetter? x = none) :
    isBreak x = false ∧ x ≠ '"' ∧ x ≠ '\\' := by
  have hne : ∀ y, (escapeLetter? y).isSome = true → x ≠ y := by
    rintro y hy rfl
    rw [h] at hy
    cases hy
  refine ⟨?_, hne '"' (by decide), hne '\\' (by decide)⟩
  have hbreaks := And.intro (hne '\n' (by decide)) (And.intro (hne '\r' (by decide))
    (And.intro (hne '\x85' (by decide))
      (And.intro (hne '\u2028' (by decide)) (hne '\u2029' (by decide)))))
  simpa [isBreak, and_assoc] using hbreaks

/-- An escape is read as part of a word. -/
theorem readDoubleWord?_escape {letter x : Char} {fuel : Nat} (digits : List Char)
    (hbreak : isBreak letter = false)
    (h : readEscape? (letter :: (digits ++ rest)) = some (x, digits.length + 2)) :
    readDoubleWord? (fuel + 1) ('\\' :: letter :: (digits ++ rest))
      = (readDoubleWord? fuel rest).map fun (word, m, e) =>
          (x :: word, m + (digits.length + 2), e) := by
  have hslash : (isGap '\\' || isBreak '\\' || decide ('\\' = '"')) = false := by decide
  rw [readDoubleWord?, hslash, h]
  simp [hbreak]

/-- A character that is no space is read as part of a word. -/
theorem readDoubleWord?_escapeChar {x : Char} (hx : isSpace x = false) (fuel : Nat)
    (rest : List Char) :
    readDoubleWord? (fuel + 1) (escapeChar x ++ rest)
      = (readDoubleWord? fuel rest).map fun (word, m, e) =>
          (x :: word, m + (escapeChar x).length, e) := by
  have hnumber : ∀ (letter : Char) (count : Nat), escapeDigits? letter = some count →
      isBreak letter = false → x.toNat < 16 ^ count →
      readDoubleWord? (fuel + 1) ('\\' :: letter :: (hexDigits count x.toNat ++ rest))
        = (readDoubleWord? fuel rest).map fun (word, m, e) =>
            (x :: word, m + ((hexDigits count x.toNat).length + 2), e) := by
    intro letter count hletter hbreak hcount
    refine readDoubleWord?_escape _ hbreak ?_
    rw [length_hexDigits]
    exact readEscape?_hexDigits hletter x hcount rest
  have hvalid : x.toNat < 0xD800 ∨ 0xDFFF < x.toNat ∧ x.toNat < 0x110000 := x.valid
  unfold escapeChar
  split
  · next letter hletter =>
    obtain ⟨hbreak, hread⟩ := readEscape?_letter hletter rest
    exact readDoubleWord?_escape [] hbreak hread
  · next hletter =>
    obtain ⟨hbreak, hquote, hslash⟩ := of_escapeLetter?_eq_none hletter
    split
    · -- a visible character is written as it is
      next hvisible =>
      have hgap := (isGap_eq_isSpace hvisible).trans hx
      rw [List.singleton_append, readDoubleWord?, hgap, hbreak]
      simp [hquote, hslash]
    split
    · exact hnumber 'x' 2 rfl rfl (by omega)
    split
    · exact hnumber 'u' 4 rfl rfl (by omega)
    · -- every character is below the largest code point
      exact hnumber 'U' 8 rfl rfl (by omega)

/-- A word between double quotes is read up to a space or the closing quote. -/
theorem readDoubleWord?_word {word : List Char} (hword : ∀ x ∈ word, isSpace x = false)
    (hrest : ∀ x ∈ rest.head?, x = ' ' ∨ x = '"') {fuel : Nat} (hfuel : word.length ≤ fuel) :
    readDoubleWord? fuel (word.flatMap escapeChar ++ rest)
      = some (word, (word.flatMap escapeChar).length, .plain) := by
  induction word generalizing fuel with
  | nil =>
    cases fuel with
    | zero => rfl
    | succ fuel =>
      cases rest with
      | nil => rfl
      | cons x rest =>
        rcases hrest x rfl with rfl | rfl
        · rfl
        · rfl
  | cons x word ih =>
    obtain ⟨fuel, rfl⟩ : ∃ m, fuel = m + 1 := ⟨fuel - 1, by rw [List.length_cons] at hfuel; omega⟩
    obtain ⟨hx, hword⟩ := List.forall_mem_cons.mp hword
    rw [List.flatMap_cons, List.append_assoc, readDoubleWord?_escapeChar hx,
      ih hword (by simpa using hfuel), Option.map_some, List.length_append, Nat.add_comm]

theorem length_le_length_flatMap_escapeChar (cs : List Char) :
    cs.length ≤ (cs.flatMap escapeChar).length := by
  have hpos : ∀ x, 0 < (escapeChar x).length := by
    intro x
    unfold escapeChar
    split
    · simp
    · repeat' split
      all_goals simp
  induction cs with
  | nil => simp
  | cons x cs ih =>
    have hx := hpos x
    rw [List.flatMap_cons, List.length_append, List.length_cons]
    omega

theorem flatMap_spaces {f : Char → List Char} (hf : f ' ' = [' ']) (n : Nat) :
    (List.replicate n ' ').flatMap f = List.replicate n ' ' := by
  induction n with
  | zero => rfl
  | succ n ih => rw [List.replicate_succ, List.flatMap_cons, ih, hf, List.singleton_append]

/-- The first character of an escaped text is no blank and no line end, if it is not that of a
text which starts with a space. -/
theorem head_flatMap_escapeChar (rest : List Char) (h : ∀ x ∈ cs.head?, isSpace x = false) :
    ∀ x ∈ (cs.flatMap escapeChar ++ '"' :: rest).head?, isGap x = false ∧ isBreak x = false := by
  cases cs with
  | nil =>
    intro x hx
    obtain rfl := Option.some.inj hx
    exact ⟨rfl, rfl⟩
  | cons y cs =>
    have hslash : isGap '\\' = false ∧ isBreak '\\' = false := ⟨rfl, rfl⟩
    intro x hx
    rw [List.flatMap_cons, escapeChar] at hx
    split at hx
    · exact Option.some.inj hx ▸ hslash
    · next hletter =>
      repeat' split at hx
      · next hvisible =>
        obtain rfl := Option.some.inj hx
        exact ⟨(isGap_eq_isSpace hvisible).trans (h y rfl), (of_escapeLetter?_eq_none hletter).1⟩
      -- all escapes start alike
      all_goals exact Option.some.inj hx ▸ hslash

/-- The first word between double quotes is read. -/
theorem readQuotedWord?_double {word more : List Char} {n : Nat}
    (hword : ∀ x ∈ word, isSpace x = false) (hn : n = 0 → more = []) :
    readQuotedWord? '"' (word.flatMap escapeChar
        ++ (List.replicate n ' ' ++ (more.flatMap escapeChar ++ '"' :: rest)))
      = some (word, (word.flatMap escapeChar).length, .plain) := by
  refine readDoubleWord?_word hword ?_ ?_
  · -- behind the word stands a space, or nothing but the closing quote
    cases n with
    | zero =>
      rw [hn rfl]
      intro x hx
      exact .inr (Option.some.inj hx).symm
    | succ n =>
      intro x hx
      exact .inl (Option.some.inj hx).symm
  · have hlength := length_le_length_flatMap_escapeChar word
    rw [List.length_append]
    omega

/-- The words between double quotes are read up to the closing quote. -/
theorem readQuotedWords?_double :
    ∀ {cs : List Char} {fuel column : Nat} {c : Cursor} (_ : cs.length < fuel) (_ : 0 < column)
      (text : List Char) (_ : c.At column (cs.flatMap escapeChar ++ '"' :: rest)),
      ∃ d : Cursor, d.rest = rest ∧
        readQuotedWords? '"' fuel text c = some (text ++ cs, d) := by
  intro cs fuel column c hfuel hcolumn text h
  obtain ⟨fuel, rfl⟩ : ∃ m, fuel = m + 1 := ⟨fuel - 1, by omega⟩
  obtain ⟨word, n, more, hcs, -, hword, hmore, hn⟩ := exists_word cs
  have hstart : ¬ (c.atAnyMarker = true ∨ c.rest = []) := by
    rw [h.atAnyMarker hcolumn, h.rest_eq]
    simp
  have hspaces : (List.replicate n ' ').flatMap escapeChar = List.replicate n ' ' :=
    flatMap_spaces rfl n
  rw [hcs, List.flatMap_append, List.flatMap_append, hspaces, List.append_assoc,
    List.append_assoc] at h
  have hread : readQuotedWord? '"' c.rest
      = some (word, (word.flatMap escapeChar).length, .plain) := by
    rw [h.rest_eq]
    exact readQuotedWord?_double hword hn
  have hskip := h.skip
  cases n with
  | zero =>
    -- the closing quote follows
    obtain rfl := hn rfl
    rw [List.replicate_zero, List.nil_append, List.flatMap_nil, List.nil_append] at hskip
    refine ⟨_, hskip.skip_one.rest_eq, ?_⟩
    rw [readQuotedWords?_close hstart hread (by rw [hskip.rest_eq]; rfl)]
    simp [hcs]
  | succ n =>
    -- spaces lead to the next word
    have hquote : (c.skip (word.flatMap escapeChar).length).rest.head? ≠ some '"' := by
      rw [hskip.rest_eq]
      simp [List.replicate_succ]
    have hspacelength : n + 1 ≤ (c.skip (word.flatMap escapeChar).length).rest.length := by
      rw [hskip.rest_eq, List.length_append, List.length_replicate]
      omega
    obtain ⟨hmoreskip, hgap⟩ := Gap.read_spaces (fun _ => false) hspacelength
      (head_flatMap_escapeChar rest hmore) hskip
    have hshorter : cs.length = word.length + (n + 1 + more.length) := by simp [hcs]
    have hmorefuel : more.length < fuel := by omega
    obtain ⟨d, hd, hwords⟩ := readQuotedWords?_double hmorefuel (by omega)
      (text ++ word ++ List.replicate (n + 1) ' ') hmoreskip
    refine ⟨d, hd, (readQuotedWords?_gap hstart hread hquote hgap text).trans (hwords.trans ?_)⟩
    simp [hcs]
termination_by cs => cs.length

/-- A scalar between double quotes is read. -/
theorem readQuoted?_double (hcolumn : 0 < column)
    (h : c.At column (cs.flatMap escapeChar ++ '"' :: rest)) :
    ∃ d : Cursor, d.rest = rest ∧ readQuoted? '"' c = some (cs, d) := by
  have hfuel : cs.length < c.rest.length + 1 := by
    have hlength := length_le_length_flatMap_escapeChar cs
    rw [h.rest_eq, List.length_append]
    omega
  exact readQuotedWords?_double hfuel hcolumn [] h

/-! ### Single quotes -/

/-- What is written of a text between single quotes, up to the closing quote, and what follows;
`fresh` holds at the start of a line. -/
def singleTail (indent : Nat) (fresh : Bool) (cs rest : List Char) : List Char :=
  writeIndented indent doubleQuote fresh cs
    ++ ((if cs.getLast?.elim fresh isBreak then List.replicate indent ' ' else [])
      ++ '\x27' :: rest)

variable {indent : Nat} {fresh : Bool} {x : Char}

theorem writeSingle_append (indent : Nat) (cs rest : List Char) :
    writeSingle indent cs ++ rest = '\x27' :: singleTail indent false cs rest := by
  have hlast : cs.getLast?.any isBreak = cs.getLast?.elim false isBreak := by
    cases cs.getLast? <;> rfl
  simp [writeSingle, singleTail, hlast]

theorem singleTail_cons_break (hx : isBreak x = true) :
    singleTail indent fresh (x :: cs) rest = x :: singleTail indent true cs rest := by
  rw [singleTail, writeIndented, if_pos hx]
  cases cs with
  | nil => simp [singleTail, writeIndented, hx]
  | cons y cs => simp [singleTail, List.getLast?_cons]

theorem singleTail_cons (hx : isBreak x = false) :
    singleTail indent false (x :: cs) rest = doubleQuote x ++ singleTail indent false cs rest := by
  rw [singleTail, writeIndented]
  cases cs with
  | nil => simp [singleTail, writeIndented, hx]
  | cons y cs => simp [singleTail, hx, List.getLast?_cons_cons]

theorem singleTail_fresh (h : ∀ x ∈ cs.head?, isBreak x = false) :
    singleTail indent true cs rest
      = List.replicate indent ' ' ++ singleTail indent false cs rest := by
  cases cs with
  | nil => simp [singleTail, writeIndented]
  | cons x cs => simp [singleTail, writeIndented, h x rfl, List.getLast?_cons]

theorem singleTail_breaks {breaks : List Char} (hbreaks : ∀ x ∈ breaks, isBreak x = true)
    (hne : breaks ≠ []) :
    singleTail indent fresh (breaks ++ cs) rest = breaks ++ singleTail indent true cs rest := by
  induction breaks generalizing fresh with
  | nil => exact absurd rfl hne
  | cons x breaks ih =>
    obtain ⟨hx, hbreaks⟩ := List.forall_mem_cons.mp hbreaks
    rw [List.cons_append, singleTail_cons_break hx]
    by_cases hnil : breaks = []
    · simp [hnil]
    · rw [ih hbreaks hnil, List.cons_append]

theorem singleTail_word {word : List Char} (hword : ∀ x ∈ word, isBreak x = false) :
    singleTail indent false (word ++ cs) rest
      = word.flatMap doubleQuote ++ singleTail indent false cs rest := by
  induction word with
  | nil => rfl
  | cons x word ih =>
    obtain ⟨hx, hword⟩ := List.forall_mem_cons.mp hword
    rw [List.cons_append, singleTail_cons hx, ih hword, List.flatMap_cons, List.append_assoc]

theorem readSingleWord_doubleQuote (hx : isGap x = false ∧ isBreak x = false) :
    readSingleWord (doubleQuote x ++ rest)
      = (x :: (readSingleWord rest).1, (readSingleWord rest).2 + (doubleQuote x).length) := by
  by_cases hquote : x = '\x27'
  · rw [doubleQuote, if_pos hquote, hquote]
    rfl
  · rw [doubleQuote, if_neg hquote, List.singleton_append, readSingleWord]
    · simp [hx, hquote]
    · exact fun _ h => absurd h hquote

/-- A word between single quotes ends before a blank, a line end or the closing quote. -/
theorem readSingleWord_end (hrest : ∀ x ∈ rest.head?, isGap x = true ∨ isBreak x = true ∨
      x = '\x27' ∧ rest.tail.head? ≠ some '\x27') :
    readSingleWord rest = ([], 0) := by
  cases rest with
  | nil => rfl
  | cons x rest =>
    have hx := hrest x rfl
    rw [readSingleWord]
    · rcases hx with hx | hx | ⟨hx, -⟩
      · simp [hx]
      · simp [hx]
      · simp [hx]
    · rintro more rfl rfl
      rcases hx with hx | hx | ⟨-, hx⟩
      · exact absurd hx (by decide)
      · exact absurd hx (by decide)
      · exact hx rfl

theorem readSingleWord_word {word : List Char}
    (hword : ∀ x ∈ word, isGap x = false ∧ isBreak x = false)
    (hrest : readSingleWord rest = ([], 0)) :
    readSingleWord (word.flatMap doubleQuote ++ rest)
      = (word, (word.flatMap doubleQuote).length) := by
  induction word with
  | nil => exact hrest
  | cons x word ih =>
    obtain ⟨hx, hword⟩ := List.forall_mem_cons.mp hword
    rw [List.flatMap_cons, List.append_assoc, readSingleWord_doubleQuote hx, ih hword,
      List.length_append, Nat.add_comm]

/-- A text without a space beside a line end is a word, some spaces or some line ends, and what
follows them. -/
theorem exists_singleWord (hvisible : ∀ x ∈ cs, isVisible x = true)
    (hafter : hasAdjacent isSpace isBreak cs = false)
    (hbefore : hasAdjacent isBreak isSpace cs = false) :
    ∃ word gap more, cs = word ++ (gap ++ more) ∧
      (∀ x ∈ word, isSpace x = false ∧ isBreak x = false) ∧
      ((∃ n, gap = List.replicate n ' ') ∨ ∀ x ∈ gap, isBreak x = true) ∧
      (∀ x ∈ more.head?, isSpace x = false ∧ isBreak x = false) ∧ (gap = [] → more = []) := by
  induction cs with
  | nil => exact ⟨[], [], [], rfl, by simp, .inl ⟨0, rfl⟩, by simp, fun _ => rfl⟩
  | cons x cs ih =>
    by_cases hspace : x = ' '
    · obtain ⟨n, more, hcs, hmore⟩ := exists_spaces cs
      have hgap : x :: cs = List.replicate (n + 1) ' ' ++ more := by rw [hspace, hcs]; rfl
      rw [hgap] at hafter
      -- no line end stands behind the spaces, so they are the whole gap
      have hbreak := head_of_hasAdjacent hafter (by simp [isSpace]) (by simp)
      exact ⟨[], _, more, hgap, by simp, .inl ⟨n + 1, rfl⟩,
        fun y hy => ⟨hmore y hy, hbreak y hy⟩, by simp⟩
    cases hbreak : isBreak x with
    | true =>
      obtain ⟨breaks, more, rfl, hbreaks, hmore⟩ := exists_span isBreak cs
      have hgap : ∀ y ∈ x :: breaks, isBreak y = true := List.forall_mem_cons.mpr ⟨hbreak, hbreaks⟩
      rw [← List.cons_append] at hbefore
      -- nor do spaces stand behind line ends
      have hspaces := head_of_hasAdjacent hbefore hgap (by simp)
      exact ⟨[], x :: breaks, more, rfl, by simp, .inr hgap,
        fun y hy => ⟨hspaces y hy, hmore y hy⟩, by simp⟩
    | false =>
      obtain ⟨word, gap, more, hcs, hword, hgap, hmore, hne⟩ :=
        ih (List.forall_mem_cons.mp hvisible).2 (hasAdjacent_of_append [x] hafter)
          (hasAdjacent_of_append [x] hbefore)
      have hx : isSpace x = false ∧ isBreak x = false := ⟨by simp [isSpace, hspace], hbreak⟩
      exact ⟨x :: word, gap, more, by rw [hcs, List.cons_append],
        List.forall_mem_cons.mpr ⟨hx, hword⟩, hgap, hmore, hne⟩

/-- A text that is written between single quotes. -/
structure FitsSingle (cs : List Char) : Prop where
  visible : ∀ x ∈ cs, isVisible x = true
  after : hasAdjacent isSpace isBreak cs = false
  before : hasAdjacent isBreak isSpace cs = false
  feed : '\n' ∉ cs

theorem FitsSingle.behind {xs ys : List Char} (h : FitsSingle (xs ++ ys)) : FitsSingle ys :=
  ⟨fun x hx => h.visible x (List.mem_append_right xs hx), hasAdjacent_of_append _ h.after,
    hasAdjacent_of_append _ h.before, fun hfeed => h.feed (List.mem_append_right xs hfeed)⟩

/-- The first character of what is written, if it is not that of a gap. -/
theorem head_singleTail (indent : Nat) (rest : List Char)
    (h : ∀ x ∈ cs.head?, isSpace x = false ∧ isBreak x = false)
    (hvisible : ∀ x ∈ cs, isVisible x = true) :
    ∀ x ∈ (singleTail indent false cs rest).head?, isGap x = false ∧ isBreak x = false := by
  cases cs with
  | nil =>
    intro x hx
    obtain rfl := Option.some.inj hx
    exact ⟨rfl, rfl⟩
  | cons y cs =>
    obtain ⟨hspace, hbreak⟩ := h y rfl
    intro x hx
    rw [singleTail_cons hbreak, doubleQuote] at hx
    split at hx
    · obtain rfl := Option.some.inj hx
      exact ⟨rfl, rfl⟩
    · obtain rfl := Option.some.inj hx
      exact ⟨(isGap_eq_isSpace (hvisible y List.mem_cons_self)).trans hspace, hbreak⟩

/-- The text of a gap that consists of line ends other than line feeds. -/
theorem Gap.text_breaks {breaks : List Char} (hfeed : '\n' ∉ breaks) :
    Gap.text ⟨[], true, breaks, false⟩ = breaks := by
  unfold Gap.text
  simp only [Bool.not_true, Bool.false_eq_true, if_false]
  split
  · exact absurd List.mem_cons_self hfeed
  · exact absurd List.mem_cons_self hfeed
  · rfl

/-- A gap between single quotes is read as the characters that it is written for. -/
theorem read_singleGap {gap more : List Char} {fuel : Nat} (hindent : 0 < indent)
    (hgap : (∃ n, gap = List.replicate n ' ') ∨ ∀ x ∈ gap, isBreak x = true) (hne : gap ≠ [])
    (hfits : FitsSingle (gap ++ more))
    (hmore : ∀ x ∈ more.head?, isSpace x = false ∧ isBreak x = false) (hcolumn : 0 < column)
    (h : c.At column (singleTail indent false (gap ++ more) rest))
    (hfuel : c.rest.length ≤ fuel) :
    ∃ (g : Gap) (d : Cursor) (column' : Nat), 0 < column' ∧
      d.At column' (singleTail indent false more rest) ∧ g.text = gap ∧
      Gap.read (fun _ => false) fuel Gap.start c = some (g, d) := by
  have hend := head_singleTail indent rest hmore hfits.behind.visible
  rcases hgap with ⟨n, rfl⟩ | hbreaks
  · have hspaces : ∀ x ∈ List.replicate n ' ', isBreak x = false := by
      intro x hx
      rw [List.eq_of_mem_replicate hx]
      rfl
    rw [singleTail_word hspaces, flatMap_spaces rfl] at h
    have hn : n ≤ fuel := by
      rw [h.rest_eq, List.length_append, List.length_replicate] at hfuel
      omega
    obtain ⟨hskip, hread⟩ := Gap.read_spaces (fun _ => false) hn hend h
    exact ⟨_, _, _, by omega, hskip, rfl, hread⟩
  · -- the line behind the line ends is indented, which is no part of the text
    rw [singleTail_breaks hbreaks hne] at h
    have hfresh : ∀ x ∈ more.head?, isBreak x = false := fun x hx => (hmore x hx).2
    have hlength : gap.length + indent ≤ fuel := by
      rw [h.rest_eq, singleTail_fresh hfresh] at hfuel
      simp only [List.length_append, List.length_replicate] at hfuel
      omega
    have hvisible : ∀ x ∈ gap, isVisible x = true :=
      fun x hx => hfits.visible x (List.mem_append_left more hx)
    have hfeed : '\n' ∉ gap := fun hx => hfits.feed (List.mem_append_left more hx)
    obtain ⟨d, hd, hread⟩ := Gap.read_breaks (fun _ => false) hbreaks hvisible hne
      (show gap.length ≤ fuel by omega) Gap.start h
    rw [singleTail_fresh hfresh] at hd
    have hskip := hd.skip
    rw [List.length_replicate] at hskip
    refine ⟨⟨[], true, [] ++ gap, false⟩, _, _, by omega, hskip, Gap.text_breaks hfeed, ?_⟩
    rw [hread, Gap.read_indent _ (show indent ≤ fuel - gap.length by omega) rfl hd,
      Gap.read_end _ _ hskip hend, Gap.start]

/-- A gap starts with a blank or a line end. -/
theorem head_singleGap {gap more : List Char}
    (hgap : (∃ n, gap = List.replicate n ' ') ∨ ∀ x ∈ gap, isBreak x = true) (hne : gap ≠ []) :
    ∀ x ∈ (singleTail indent false (gap ++ more) rest).head?, isGap x = true ∨ isBreak x = true
    := by
  obtain ⟨y, gap, rfl⟩ := List.exists_cons_of_ne_nil hne
  have hy : y = ' ' ∨ isBreak y = true := by
    rcases hgap with ⟨n, hn⟩ | hbreaks
    · exact .inl (List.eq_of_mem_replicate (hn ▸ List.mem_cons_self))
    · exact .inr (hbreaks y List.mem_cons_self)
  intro x hx
  rcases hy with rfl | hy
  · rw [List.cons_append, singleTail_cons rfl] at hx
    exact .inl (Option.some.inj hx ▸ rfl)
  · rw [List.cons_append, singleTail_cons_break hy] at hx
    exact .inr (Option.some.inj hx ▸ hy)

/-- No word starts at a gap or at the closing quote. -/
theorem readSingleWord_gap {gap more : List Char}
    (hgap : (∃ n, gap = List.replicate n ' ') ∨ ∀ x ∈ gap, isBreak x = true)
    (hne : gap = [] → more = []) (hrest : rest.head? ≠ some '\x27') :
    readSingleWord (singleTail indent false (gap ++ more) rest) = ([], 0) := by
  refine readSingleWord_end fun x hx => ?_
  by_cases hnil : gap = []
  · rw [hnil, hne hnil] at hx ⊢
    exact .inr (.inr ⟨(Option.some.inj hx).symm, hrest⟩)
  · exact (head_singleGap hgap hnil x hx).imp id .inl

theorem length_le_length_singleTail (indent : Nat) (rest : List Char) (fresh : Bool)
    (cs : List Char) :
    cs.length < (singleTail indent fresh cs rest).length := by
  induction cs generalizing fresh with
  | nil =>
    rw [singleTail, List.length_append, List.length_append, List.length_cons, List.length_nil]
    omega
  | cons x cs ih =>
    cases hx : isBreak x with
    | true =>
      rw [singleTail_cons_break hx]
      have hcs := ih true
      rw [List.length_cons, List.length_cons]
      omega
    | false =>
      -- a quote is written twice, any other character once
      have hpos : 0 < (doubleQuote x).length := by
        unfold doubleQuote
        split <;> simp
      have hcs := ih false
      cases fresh with
      | false =>
        rw [singleTail_cons hx, List.length_append, List.length_cons]
        omega
      | true =>
        rw [singleTail_fresh (by simp [hx]), singleTail_cons hx, List.length_append,
          List.length_append, List.length_cons]
        omega

/-- The words between single quotes are read up to the closing quote. -/
theorem readQuotedWords?_single (hindent : 0 < indent) (hrest : rest.head? ≠ some '\x27') :
    ∀ {cs : List Char} {fuel column : Nat} {c : Cursor} (_ : FitsSingle cs) (_ : cs.length < fuel)
      (_ : 0 < column) (text : List Char) (_ : c.At column (singleTail indent false cs rest)),
      ∃ d : Cursor, d.rest = rest ∧
        readQuotedWords? '\x27' fuel text c = some (text ++ cs, d) := by
  intro cs fuel column c hfits hfuel hcolumn text h
  obtain ⟨fuel, rfl⟩ : ∃ m, fuel = m + 1 := ⟨fuel - 1, by omega⟩
  obtain ⟨word, gap, more, hcs, hword, hgap, hmore, hne⟩ :=
    exists_singleWord hfits.visible hfits.after hfits.before
  have hstart : ¬ (c.atAnyMarker = true ∨ c.rest = []) := by
    have hlength := length_le_length_singleTail indent rest false cs
    rw [h.atAnyMarker hcolumn, h.rest_eq, ← List.length_eq_zero_iff]
    simp only [Bool.false_eq_true, false_or]
    omega
  rw [hcs] at hfits
  rw [hcs, singleTail_word fun x hx => (hword x hx).2] at h
  have hgaps : ∀ x ∈ word, isGap x = false ∧ isBreak x = false := fun x hx =>
    ⟨(isGap_eq_isSpace (hfits.visible x (List.mem_append_left _ hx))).trans (hword x hx).1,
      (hword x hx).2⟩
  have hread : readQuotedWord? '\x27' c.rest
      = some (word, (word.flatMap doubleQuote).length, .plain) := by
    rw [h.rest_eq, readQuotedWord?, if_neg (by decide),
      readSingleWord_word hgaps (readSingleWord_gap hgap hne hrest)]
  have hskip := h.skip
  by_cases hnil : gap = []
  · -- the closing quote follows
    obtain rfl := hnil
    obtain rfl := hne rfl
    have hclose : (c.skip (word.flatMap doubleQuote).length).At
        (column + (word.flatMap doubleQuote).length) ('\x27' :: rest) := hskip
    refine ⟨_, hclose.skip_one.rest_eq, ?_⟩
    rw [readQuotedWords?_close hstart hread (by rw [hclose.rest_eq]; rfl)]
    simp [hcs]
  · -- the gap leads to the next word
    have hquote : (c.skip (word.flatMap doubleQuote).length).rest.head? ≠ some '\x27' := by
      intro hquote
      rw [hskip.rest_eq] at hquote
      exact absurd (head_singleGap hgap hnil _ hquote) (by decide)
    obtain ⟨g, d, column', hcolumn', hd, htext, hgapread⟩ := read_singleGap hindent hgap hnil
      hfits.behind hmore (by omega) hskip (Nat.le_refl _)
    have hgaplength := List.length_pos_iff.mpr hnil
    have hshorter : cs.length = word.length + (gap.length + more.length) := by simp [hcs]
    have hmorefuel : more.length < fuel := by omega
    obtain ⟨d, hd, hwords⟩ := readQuotedWords?_single hindent hrest hfits.behind.behind hmorefuel
      hcolumn' (text ++ word ++ g.text) hd
    refine ⟨d, hd,
      (readQuotedWords?_gap hstart hread hquote hgapread text).trans (hwords.trans ?_)⟩
    simp [hcs, htext]
termination_by cs => cs.length

/-- A scalar between single quotes is read. -/
theorem readQuoted?_single (hindent : 0 < indent) (hrest : rest.head? ≠ some '\x27')
    (hfits : FitsSingle cs) (hcolumn : 0 < column)
    (h : c.At column (singleTail indent false cs rest)) :
    ∃ d : Cursor, d.rest = rest ∧ readQuoted? '\x27' c = some (cs, d) := by
  have hfuel : cs.length < c.rest.length + 1 := by
    have hlength := length_le_length_singleTail indent rest false cs
    rw [h.rest_eq]
    omega
  exact readQuotedWords?_single hindent hrest hfits hfuel hcolumn [] h

end SheetGrammar.Yaml
