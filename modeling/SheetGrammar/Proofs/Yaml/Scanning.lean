import SheetGrammar.Proofs.Yaml.Blocks
import SheetGrammar.Proofs.Yaml.Records
import SheetGrammar.Yaml.Token.Reader

/-!
# Tokens of written scalars

The scanner takes a text token by token.  Between two tokens of a text that was written as nested
records it is idle: no brackets are open, and nothing that was read may still become a key.

## Main definitions

* `Scanner.idle` — an idle scanner.
* `Scanner.Leads` — reading goes on from one scanner as from another.

## Main results

* `Scanner.leads_of_token` — a token is read.
* `Scanner.leads_plain`, `Scanner.leads_quoted`, `Scanner.leads_literal` — scalars by their style.
* `Scanner.leads_string` — a string as the value of an entry.
-/

namespace SheetGrammar.Yaml

namespace Scanner

/-! ### Steps -/

/-- A scanner outside of brackets, without a token that may start a key. -/
def idle (c : Cursor) (indent : Int) (outer : List Int) (keyAllowed : Bool) (read : List Token) :
    Scanner :=
  ⟨c, indent, outer, keyAllowed, none, [], read⟩

/-- Reading goes on from one scanner as from another, which takes no more steps than the characters
between them. -/
def Leads (s t : Scanner) : Prop :=
  ∃ n, n + t.cursor.rest.length ≤ s.cursor.rest.length ∧
    ∀ fuel, readAll (n + fuel + 1) s = readAll (fuel + 1) t

variable {s t u : Scanner}

theorem Leads.trans (hst : Leads s t) (htu : Leads t u) : Leads s u := by
  obtain ⟨m, hm, hreadm⟩ := hst
  obtain ⟨n, hn, hreadn⟩ := htu
  refine ⟨m + n, by omega, fun fuel => ?_⟩
  rw [Nat.add_assoc m n fuel, hreadm, hreadn]

/-- A reader that may take a step for each character gets there. -/
theorem Leads.exists_readAll (h : Leads s t) :
    ∃ fuel, readAll (s.cursor.rest.length + 1) s = readAll (fuel + 1) t := by
  obtain ⟨n, hn, hread⟩ := h
  refine ⟨s.cursor.rest.length - n, ?_⟩
  rw [← hread, Nat.add_sub_cancel' (by omega)]

variable {c d : Cursor} {column j k : Nat} {i : Int} {outer : List Int} {allowed : Bool}
  {read : List Token} {rest content : List Char} {x : Char}

theorem dropStaleKeys_idle (c : Cursor) (i : Int) (outer : List Int) (allowed : Bool)
    (read : List Token) :
    (idle c i outer allowed read).dropStaleKeys = some (idle c i outer allowed read) := rfl

/-- No collection ends at a place that is not further left. -/
theorem closeBlocks_of_le (h : s.indent ≤ column) : s.closeBlocks column = s := by
  unfold closeBlocks
  split
  · rfl
  cases s.outerIndents with
  | nil => rfl
  | cons o outer =>
    rw [closeBlocksFrom, if_neg]
    omega

/-! ### Blanks and line ends -/

/-- Blanks in front of a token are passed over. -/
theorem skipToToken_blanks (hcontent : StartsToken rest)
    (h : s.cursor.At column (List.replicate k ' ' ++ rest)) (fuel : Nat) :
    skipToToken (fuel + 1) s = s.skip k := by
  -- no byte order mark stands here
  have hmark : ¬ (s.cursor.column = 0 ∧ s.cursor.rest.head? = some '\ufeff') := by
    rintro ⟨-, hmark⟩
    rw [h.rest_eq] at hmark
    cases k with
    | zero => exact (hcontent _ hmark).2.2.2 rfl
    | succ k => simp [List.replicate_succ] at hmark
  have hstop : ∀ tabs : Bool, (rest.takeWhile fun x => x = ' ' || (tabs && x = '\t')) = [] := by
    intro tabs
    cases rest with
    | nil => rfl
    | cons x rest =>
      have hx := (startsToken_cons.mp hcontent).1
      simp only [isGap, Bool.or_eq_false_iff, decide_eq_false_iff_not] at hx
      simp [hx]
  have hskip : ∀ tabs : Bool,
      (s.cursor.skipWhile fun x => x = ' ' || (tabs && x = '\t')) = s.cursor.skip k := by
    intro tabs
    rw [Cursor.skipWhile, h.rest_eq, List.takeWhile_append_of_pos (by simp), hstop,
      List.append_nil, List.length_replicate]
  have hrest : (s.cursor.skip k).rest = rest := by simpa using h.skip.rest_eq
  have hhash : ¬ rest.head? = some '#' := fun hx => (hcontent '#' hx).2.2.1 rfl
  have hbreak : ¬ (rest.head?.any isBreak) = true := by
    cases hrest : rest.head? with
    | none => simp
    | some x => simp [(hcontent x hrest).2.1]
  rw [skipToToken]
  simp only [hmark, if_false, hskip, hrest, hhash, hbreak]
  rfl

/-- Nothing is passed over in front of a token. -/
theorem skipToToken_content (hcontent : StartsToken rest) (h : s.cursor.At column rest)
    (fuel : Nat) : skipToToken (fuel + 1) s = s :=
  skipToToken_blanks (k := 0) hcontent h fuel

/-- Reading goes on where something was passed over. -/
theorem leads_of_skip (h : skipToToken (s.cursor.rest.length + 1) s = t)
    (ht : skipToToken (t.cursor.rest.length + 1) t = t)
    (hlength : t.cursor.rest.length ≤ s.cursor.rest.length) : Leads s t := by
  refine ⟨0, by omega, fun fuel => ?_⟩
  rw [Nat.zero_add, readAll, readAll, h, ht]

/-- A blank in front of a token is passed over. -/
theorem leads_blank (hcontent : StartsToken rest) (h : c.At column (' ' :: rest)) :
    Leads (idle c i outer allowed read) (idle (c.skip 1) i outer allowed read) :=
  leads_of_skip (skipToToken_blanks (k := 1) hcontent h _)
    (skipToToken_content hcontent h.skip_one _) (by simp [idle, Cursor.skip])

/-- The end of a line is passed over, and the indentation of the next. -/
theorem leads_lineEnd (i : Int) (outer : List Int) (allowed : Bool) (read : List Token)
    (hcontent : StartsToken content)
    (h : c.At column ('\n' :: (List.replicate j ' ' ++ content))) :
    ∃ d : Cursor, d.At j content ∧
      Leads (idle c i outer allowed read) (idle d i outer true read) := by
  have hnext := h.nextLine.skip
  rw [List.length_replicate, Nat.zero_add] at hnext
  have hskip : (c.skipWhile fun x => x = ' ' || ((!allowed) && decide (x = '\t'))) = c := by
    rw [Cursor.skipWhile, h.rest_eq, List.takeWhile_cons_of_neg (by simp)]
    rfl
  have hbreak := h.readBreak rfl rfl
  -- one round takes the line end, and the next takes the blanks behind it
  have hfirst : ∀ fuel, skipToToken (fuel + 1) (idle c i outer allowed read)
      = skipToToken fuel (idle (c.nextLine 1) i outer true read) := by
    intro fuel
    rw [skipToToken]
    simp only [idle, inFlow, List.isEmpty_nil, Bool.not_true, Bool.false_or, h.rest_eq,
      List.head?_cons, Option.some.injEq, Char.reduceEq, and_false, if_false, hskip, hbreak,
      Option.any_some]
    rfl
  have hsecond : ∃ fuel, (idle c i outer allowed read).cursor.rest.length = fuel + 1 :=
    ⟨_, by rw [idle, h.rest_eq, List.length_cons]⟩
  obtain ⟨fuel, hfuel⟩ := hsecond
  refine ⟨_, hnext, leads_of_skip ?_ (skipToToken_content hcontent hnext _)
    (by simp [idle, Cursor.skip, Cursor.nextLine])⟩
  rw [hfuel, hfirst]
  exact skipToToken_blanks hcontent h.nextLine _

/-- A token is read where it stands and no collection ends. -/
theorem leads_of_token {next : List Char} (hstarts : StartsToken (x :: next))
    (h : s.cursor.At column (x :: next)) (hfresh : s.dropStaleKeys = some s)
    (hi : s.indent ≤ column) (htoken : s.token x next = some t)
    (hlength : t.cursor.rest.length ≤ next.length) : Leads s t := by
  refine ⟨1, ?_, fun fuel => ?_⟩
  · rw [h.rest_eq, List.length_cons]
    omega
  -- nothing is passed over, no key goes stale and no collection ends in front of the token
  rw [Nat.add_comm 1 fuel, readAll, skipToToken_content hstarts h, hfresh]
  simp only [h.column_eq, closeBlocks_of_le hi]
  split
  · next hnil => cases hnil.symm.trans h.rest_eq
  · next y more hcons =>
    obtain ⟨rfl, rfl⟩ := List.cons.inj (h.rest_eq.symm.trans hcons)
    rw [htoken]

/-! ### Plain scalars -/

/-- A character without a meaning of its own may start a plain scalar. -/
theorem startsPlain_of_not_special {next : List Char} (hspecial : startsSpecial x next = false)
    (hgap : isGap x = false) (hbreak : isBreak x = false) : startsPlain false x next = true := by
  rw [startsSpecial, Bool.or_eq_false_iff] at hspecial
  obtain ⟨hlist, hblank⟩ := hspecial
  unfold startsPlain
  split
  · next hdash =>
    have hblank : isBlankOrEnd next = false := by simpa [hdash] using hblank
    cases next with
    | nil => rfl
    | cons y next =>
      rw [isBlankOrEnd, Bool.or_eq_false_iff] at hblank
      simp [hblank.1]
  split
  · next hmark =>
    have hblank : isBlankOrEnd next = false := by
      rcases hmark with rfl | rfl
      · simpa using hblank
      · simpa using hblank
    simp [hblank]
  · have hshort : ",[]\x7b\x7d#&*!|>\x27\"%@\x60".toList.contains x = false := by
      rw [List.contains_eq_mem, decide_eq_false_iff_not] at hlist ⊢
      -- the writer keeps clear of all that the reader takes for a token of its own
      have hsubset : ",[]\x7b\x7d#&*!|>\x27\"%@\x60".toList
          ⊆ "#,[]\x7b\x7d&*!|>\x27\"%@\x60".toList := by decide
      exact fun hx => hlist (hsubset hx)
    rw [hgap, hbreak, hshort]
    rfl

/-- Such a character starts a plain scalar where no marker of documents stands. -/
theorem token_plain {next : List Char} (hflow : s.inFlow = false)
    (hmarker : s.cursor.atAnyMarker = false) (hspecial : startsSpecial x next = false)
    (hgap : isGap x = false) (hbreak : isBreak x = false) :
    s.token x next = s.plainScalar := by
  have hplain := startsPlain_of_not_special hspecial hgap hbreak
  rw [Cursor.atAnyMarker, Bool.or_eq_false_iff] at hmarker
  obtain ⟨hdash, hdot⟩ := hmarker
  rw [startsSpecial, Bool.or_eq_false_iff] at hspecial
  obtain ⟨hlist, hblank⟩ := hspecial
  have hne : ∀ y ∈ "#,[]\x7b\x7d&*!|>\x27\"%@\x60".toList, x ≠ y := by
    rintro y hy rfl
    rw [List.contains_eq_mem, decide_eq_false_iff_not] at hlist
    exact hlist hy
  -- a question mark, a colon or a dash is a token only in front of a blank
  have hindicator : ∀ y, y = '?' ∨ y = ':' ∨ y = '-' → ¬ (x = y ∧ isBlankOrEnd next = true) := by
    rintro y hy ⟨rfl, hnext⟩
    rw [hnext, Bool.and_true] at hblank
    rcases hy with rfl | rfl | rfl
    · exact absurd hblank (by decide)
    · exact absurd hblank (by decide)
    · exact absurd hblank (by decide)
  unfold token
  simp only [hdash, hdot, hflow, hplain, hindicator '-' (by simp), hindicator '?' (by simp),
    hindicator ':' (by simp), hne '%' (by decide), hne '[' (by decide), hne '\x7b' (by decide),
    hne ']' (by decide), hne '\x7d' (by decide), hne ',' (by decide), hne '*' (by decide),
    hne '&' (by decide), hne '!' (by decide), hne '|' (by decide), hne '>' (by decide),
    hne '\x27' (by decide), hne '"' (by decide), Bool.false_eq_true, and_false, false_and,
    false_or, if_false, if_true]

/-- A plain scalar as the value of an entry. -/
theorem leads_plain {cs : List Char} (hcs : IsPlain cs) (hcontent : StartsToken content)
    (hj : j ≤ k) (hcolumn : k ≤ column)
    (h : c.At column (' ' :: (cs ++ '\n' :: (List.replicate j ' ' ++ content)))) :
    ∃ d : Cursor, d.At j content ∧ Leads (idle c k outer false read)
      (idle d k outer true (.scalar .plain (String.ofList cs) :: read)) := by
  have hindent : ((k : Int) + 1).toNat = k + 1 := rfl
  obtain ⟨d, hd, hread⟩ := readPlain?_lineEnd (Nat.lt_succ_of_le hj) hcontent hcs.words
    hcs.ne_nil (by omega) h.skip_one
  obtain ⟨x, next, rfl⟩ := List.exists_cons_of_ne_nil hcs.ne_nil
  have hspecial : startsSpecial x (next ++ '\n' :: (List.replicate j ' ' ++ content)) = false := by
    have hstart := hcs.start x next rfl
    rwa [startsSpecial, isBlankOrEnd_append_lineFeed]
  have hgap : isGap x = false :=
    (isGap_eq_isSpace (hcs.words.visible x List.mem_cons_self)).trans (hcs.words.head x rfl).1
  have hbreak : isBreak x = false := hcs.words.line x List.mem_cons_self
  have hstarts : StartsToken (x :: (next ++ '\n' :: (List.replicate j ' ' ++ content))) :=
    startsToken_cons.mpr ⟨hgap, hbreak, (hcs.words.head x rfl).2, by
      rintro rfl
      exact absurd (hcs.words.visible _ List.mem_cons_self) (by decide)⟩
  refine ⟨d, hd, (leads_blank hstarts h).trans (leads_of_token hstarts h.skip_one
    (dropStaleKeys_idle _ _ _ _ _) (Int.ofNat_le.mpr (Nat.le_succ_of_le hcolumn)) ?_ ?_)⟩
  · have hmarker := h.skip_one.atAnyMarker (Nat.succ_pos column)
    refine (token_plain rfl hmarker hspecial hgap hbreak).trans ?_
    simp only [plainScalar, noteKey, idle, Bool.not_false, if_true, inFlow, List.isEmpty_nil,
      Bool.not_true, hindent, hread]
    rfl
  · rw [idle, hd.rest_eq]
    simp
    omega

/-! ### Quoted scalars and blocks -/

section Indicators

variable {next : List Char} (hmarker : s.cursor.atAnyMarker = false)

include hmarker

theorem token_singleQuote : s.token '\x27' next = s.quotedScalar .singleQuoted '\x27' := by
  rw [Cursor.atAnyMarker, Bool.or_eq_false_iff] at hmarker
  simp [token, hmarker.1, hmarker.2]

theorem token_doubleQuote : s.token '"' next = s.quotedScalar .doubleQuoted '"' := by
  rw [Cursor.atAnyMarker, Bool.or_eq_false_iff] at hmarker
  simp [token, hmarker.1, hmarker.2]

theorem token_bar (hflow : s.inFlow = false) : s.token '|' next = s.blockScalar .literal := by
  rw [Cursor.atAnyMarker, Bool.or_eq_false_iff] at hmarker
  simp [token, hmarker.1, hmarker.2, hflow]

end Indicators

/-- A scalar between quotes as the value of an entry. -/
theorem leads_quoted {style : Style} {quote : Char} {next cs : List Char}
    (hstarts : StartsToken (quote :: next)) (hcontent : StartsToken content)
    (htoken : (idle (c.skip 1) k outer false read).token quote next
      = (idle (c.skip 1) k outer false read).quotedScalar style quote)
    (hread : readQuoted? quote ((c.skip 1).skip 1) = some (cs, d))
    (hd : d.rest = '\n' :: (List.replicate j ' ' ++ content))
    (hlength : d.rest.length ≤ next.length)
    (hcolumn : k ≤ column) (h : c.At column (' ' :: quote :: next)) :
    ∃ e : Cursor, e.At j content ∧ Leads (idle c k outer false read)
      (idle e k outer true (.scalar style (String.ofList cs) :: read)) := by
  -- the blank in front, the scalar, and the end of its line
  obtain ⟨e, he, hleads⟩ := leads_lineEnd k outer false
    (.scalar style (String.ofList cs) :: read) hcontent ⟨rfl, hd⟩
  have hquoted : Leads (idle (c.skip 1) k outer false read)
      (idle d k outer false (.scalar style (String.ofList cs) :: read)) := by
    refine leads_of_token hstarts h.skip_one (dropStaleKeys_idle _ _ _ _ _)
      (Int.ofNat_le.mpr (Nat.le_succ_of_le hcolumn)) ?_ hlength
    rw [htoken, quotedScalar, keyToken]
    simp only [noteKey, idle, Bool.not_false, if_true, hread]
    rfl
  exact ⟨e, he, (leads_blank hstarts h).trans (hquoted.trans hleads)⟩

/-- A scalar between double quotes as the value of an entry. -/
theorem leads_doubleQuoted {cs : List Char} (hcontent : StartsToken content) (hcolumn : k ≤ column)
    (h : c.At column (' ' :: '"' :: (cs.flatMap escapeChar
      ++ '"' :: '\n' :: (List.replicate j ' ' ++ content)))) :
    ∃ e : Cursor, e.At j content ∧ Leads (idle c k outer false read)
      (idle e k outer true (.scalar .doubleQuoted (String.ofList cs) :: read)) := by
  have hmarker : (c.skip 1).atAnyMarker = false := h.skip_one.atAnyMarker (Nat.succ_pos column)
  obtain ⟨d, hd, hread⟩ := readQuoted?_double (Nat.succ_pos _) h.skip_one.skip_one
  refine leads_quoted (startsToken_cons.mpr (by decide)) hcontent (token_doubleQuote hmarker)
    hread hd ?_ hcolumn h
  rw [hd]
  simp only [List.length_append, List.length_cons]
  omega

/-- A scalar between single quotes as the value of an entry. -/
theorem leads_singleQuoted {cs : List Char} (hfits : FitsSingle cs) (hcontent : StartsToken content)
    (hcolumn : k ≤ column)
    (h : c.At column (' ' :: '\x27' :: singleTail (k + 2) false cs
      ('\n' :: (List.replicate j ' ' ++ content)))) :
    ∃ e : Cursor, e.At j content ∧ Leads (idle c k outer false read)
      (idle e k outer true (.scalar .singleQuoted (String.ofList cs) :: read)) := by
  have hmarker : (c.skip 1).atAnyMarker = false := h.skip_one.atAnyMarker (Nat.succ_pos column)
  obtain ⟨d, hd, hread⟩ := readQuoted?_single (Nat.succ_pos _) (by simp) hfits (Nat.succ_pos _)
    h.skip_one.skip_one
  refine leads_quoted (startsToken_cons.mpr (by decide)) hcontent (token_singleQuote hmarker)
    hread hd ?_ hcolumn h
  rw [hd]
  simp only [singleTail, List.length_append, List.length_cons]
  omega

/-- A literal block as the value of an entry. -/
theorem leads_literal {cs : List Char} (hvisible : ∀ x ∈ cs, isVisible x = true) (hne : cs ≠ [])
    (hcontent : StartsToken content) (hj : j ≤ k) (hcolumn : k ≤ column)
    (h : c.At column (' ' :: '|' :: (literalHints cs
      ++ '\n' :: blockTail (k + 2) true cs (List.replicate j ' ' ++ content)))) :
    ∃ d : Cursor, d.At j content ∧ Leads (idle c k outer false read)
      (idle d k outer true (.scalar .literal (String.ofList cs) :: read)) := by
  obtain ⟨d, hd, hread⟩ := readBlock?_literal hcontent (show j < k + 2 by omega) hvisible
    hne h.skip_one.skip_one
  have hmarker : (c.skip 1).atAnyMarker = false := h.skip_one.atAnyMarker (Nat.succ_pos column)
  have hstarts : StartsToken ('|' :: (literalHints cs
      ++ '\n' :: blockTail (k + 2) true cs (List.replicate j ' ' ++ content))) :=
    startsToken_cons.mpr (by decide)
  refine ⟨d, hd, (leads_blank hstarts h).trans (leads_of_token hstarts h.skip_one
    (dropStaleKeys_idle _ _ _ _ _) (Int.ofNat_le.mpr (Nat.le_succ_of_le hcolumn)) ?_ ?_)⟩
  · refine (token_bar hmarker rfl).trans ?_
    simp only [blockScalar, dropKey, idle, Option.any_none, Bool.false_eq_true, if_false,
      decide_false, hread, Option.map_some, reduceCtorEq]
    rfl
  · rw [idle, hd.rest_eq]
    simp only [blockTail, List.length_append, List.length_cons]
    omega

/-- **A string as the value of an entry.** -/
theorem leads_string (s : String) (hcontent : StartsToken content) (hj : j ≤ k)
    (hcolumn : k ≤ column)
    (h : c.At column (' ' :: writeString (k + 2) s ++ (List.replicate j ' ' ++ content))) :
    ∃ d : Cursor, d.At j content ∧ Leads (idle c k outer false read)
      (idle d k outer true (.scalar (styleOf s.toList) s :: read)) := by
  obtain ⟨cs, rfl⟩ : ∃ cs, s = String.ofList cs := ⟨s.toList, String.ofList_toList.symm⟩
  rw [String.toList_ofList]
  obtain ⟨hstyle, hfits, hfeed⟩ | hstyle | ⟨hstyle, hstring, hfits⟩ | ⟨hstyle, hfits⟩ :=
    styleOf_spec cs
  · have hvisible : ∀ x ∈ cs, isVisible x = true := by
      simp only [fitsLiteral, isRepresentable, Bool.and_eq_true, List.all_eq_true] at hfits
      exact hfits.1.1
    -- a text with a line feed has a last character
    have hlast : cs.getLast?.any isBreak = cs.getLast?.elim true isBreak := by
      cases hlast : cs.getLast? with
      | none => exact absurd (List.getLast?_eq_none_iff.mp hlast) (List.ne_nil_of_mem hfeed)
      | some x => rfl
    have hwrite : writeString (k + 2) (String.ofList cs) ++ (List.replicate j ' ' ++ content)
        = '|' :: (literalHints cs
          ++ '\n' :: blockTail (k + 2) true cs (List.replicate j ' ' ++ content)) := by
      simp [writeString, hstyle, writeLiteral, blockTail, hlast]
    rw [List.cons_append, hwrite] at h
    rw [hstyle]
    exact leads_literal hvisible (List.ne_nil_of_mem hfeed) hcontent hj hcolumn h
  · have hwrite : writeString (k + 2) (String.ofList cs) ++ (List.replicate j ' ' ++ content)
        = '"' :: (cs.flatMap escapeChar
          ++ '"' :: '\n' :: (List.replicate j ' ' ++ content)) := by
      simp [writeString, hstyle, writeDouble]
    rw [List.cons_append, hwrite] at h
    rw [hstyle]
    exact leads_doubleQuoted hcontent hcolumn h
  · have hwrite : writeString (k + 2) (String.ofList cs) ++ (List.replicate j ' ' ++ content)
        = cs ++ '\n' :: (List.replicate j ' ' ++ content) := by
      simp [writeString, hstyle]
    rw [List.cons_append, hwrite] at h
    rw [hstyle]
    exact leads_plain (isPlain_of_fitsPlain (ne_nil_of_readsAsString hstring) hfits) hcontent hj
      hcolumn h
  · have hwrite : writeString (k + 2) (String.ofList cs) ++ (List.replicate j ' ' ++ content)
        = '\x27' :: singleTail (k + 2) false cs
            ('\n' :: (List.replicate j ' ' ++ content)) := by
      rw [← writeSingle_append]
      simp [writeString, hstyle]
    rw [List.cons_append, hwrite] at h
    rw [hstyle]
    exact leads_singleQuoted hfits hcontent hcolumn h

end Scanner

end SheetGrammar.Yaml
