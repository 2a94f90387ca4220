import SheetGrammar.Proofs.Yaml.Scanning

/-!
# Tokens of written records

A text that was written as nested records has the tokens that its values tell: a mapping starts at
the first of its keys and ends where the text is less indented; the dashes of a sequence stand in
the column of the key that it belongs to, so that no token opens it.

## Main definitions

* `valueTokens`, `itemTokens`, `entryTokens` — the tokens of the texts of records.
* `Enters` — a mapping goes on in a column, or starts there.

## Main results

* `Scanner.leads_value`, `Scanner.leads_items`, `Scanner.leads_entries` — a text with such values
  is read as their tokens.
* `tokens_render` — the tokens of a written mapping.
-/

namespace SheetGrammar.Yaml

mutual

/-- The tokens of a value. -/
def valueTokens : Yaml → List Token
  | .integer n => [.scalar .plain (toString n)]
  | .float x => [.scalar .plain (String.ofList (floatText x))]
  | .string s => [.scalar (styleOf s.toList) s]
  | .sequence [] => [.flowSequenceStart, .flowSequenceEnd]
  | .sequence items => itemTokens items
  | .mapping entries => .blockMappingStart :: (entryTokens entries ++ [.blockEnd])
  | _ => []

/-- The tokens of items, each with its dash. -/
def itemTokens : List Yaml → List Token
  | [] => []
  | y :: ys => .blockEntry :: (valueTokens y ++ itemTokens ys)

/-- The tokens of entries, each with those of its key. -/
def entryTokens : List (Yaml × Yaml) → List Token
  | [] => []
  | (k, v) :: es => .key :: (valueTokens k ++ .value :: (valueTokens v ++ entryTokens es))

end

namespace Scanner

variable {s t : Scanner} {c d : Cursor} {column j k : Nat} {i : Int} {outer outer' : List Int}
  {read read' : List Token} {rest next content : List Char} {x : Char}

/-! ### Keys -/

/-- A mapping in a column goes on, or it starts there. -/
inductive Enters (k : Nat) : Int → List Int → List Token → List Int → List Token → Prop
  | more (outer : List Int) (read : List Token) : Enters k k outer read outer read
  | start {i : Int} (h : i < k) (outer : List Int) (read : List Token) :
    Enters k i outer read (i :: outer) (.blockMappingStart :: read)

theorem Enters.le (h : Enters k i outer read outer' read') : i ≤ k := by
  cases h with
  | more => exact Int.le_refl _
  | start h => exact Int.le_of_lt h

/-- No marker of documents starts with another character than a dash or a dot. -/
theorem atAnyMarker_of_ne (h : c.At column (x :: rest)) (hdash : x ≠ '-') (hdot : x ≠ '.') :
    c.atAnyMarker = false := by
  simp [Cursor.atAnyMarker, Cursor.atMarker, h.rest_eq, List.isPrefixOf, Ne.symm hdash,
    Ne.symm hdot]

theorem token_colon (hmarker : s.cursor.atAnyMarker = false) (hnext : isBlankOrEnd next = true) :
    s.token ':' next = s.valueIndicator := by
  rw [Cursor.atAnyMarker, Bool.or_eq_false_iff] at hmarker
  simp [token, hmarker.1, hmarker.2, hnext]

/-- A word in front of a colon is read up to it. -/
theorem readWord?_colon {cs : List Char} (hgap : ∀ x ∈ cs, isGap x = false)
    (hbreak : ∀ x ∈ cs, isBreak x = false) (hcolon : ':' ∉ cs)
    (hrest : isBlankOrEnd rest = true) : readWord? false (cs ++ ':' :: rest) = some cs := by
  induction cs with
  | nil => simp [readWord?, hrest, isGap, isBreak]
  | cons x cs ih =>
    obtain ⟨hx, hgap⟩ := List.forall_mem_cons.mp hgap
    obtain ⟨hxbreak, hbreak⟩ := List.forall_mem_cons.mp hbreak
    obtain ⟨hne, hcolon⟩ := not_or.mp (mt List.mem_cons.mpr hcolon)
    rw [List.cons_append, readWord?, ih hgap hbreak hcolon]
    simp [hx, hxbreak, Ne.symm hne]

/-- A key is read up to the colon behind it. -/
theorem readPlain?_colon {cs : List Char} (indent : Nat) (hne : cs ≠ [])
    (hgap : ∀ x ∈ cs, isGap x = false) (hbreak : ∀ x ∈ cs, isBreak x = false) (hcolon : ':' ∉ cs)
    (hhash : cs.head? ≠ some '#') (hmarker : c.atAnyMarker = false)
    (hrest : isBlankOrEnd rest = true) (h : c.At column (cs ++ ':' :: rest)) :
    readPlain? false indent c = some ⟨cs, c.skip cs.length, false⟩ := by
  have hhash : ¬ c.rest.head? = some '#' := by
    obtain ⟨x, cs, rfl⟩ := List.exists_cons_of_ne_nil hne
    rw [h.rest_eq]
    exact hhash
  have hword : readWord? false c.rest = some cs := by
    rw [h.rest_eq, readWord?_colon hgap hbreak hcolon hrest]
  have hend : isBlankOrEnd (c.skip cs.length).rest = false := by
    rw [h.skip.rest_eq]
    rfl
  rw [readPlain?, readWords?]
  simp only [hmarker, hhash, hword, hne, hend, Bool.false_eq_true, or_self, if_false,
    Bool.not_false, true_or, if_true]
  rfl

/-- A scanner behind a word that may turn out to be a key. -/
def behindWord (c : Cursor) (i : Int) (outer : List Int) (word : String) (read : List Token) :
    Scanner :=
  ⟨c.skip word.length, i, outer, false, some ⟨read.length, i = c.column, c⟩, [],
    .scalar .plain word :: read⟩

/-- A word is read where a key may start. -/
theorem leads_word {key : String} (hkey : IsName key) (hi : i ≤ k)
    (hrest : isBlankOrEnd rest = true) (h : c.At k (key.toList ++ ':' :: rest)) :
    Leads (idle c i outer true read) (behindWord c i outer key read) := by
  obtain ⟨x, next, hcs⟩ := List.exists_cons_of_ne_nil hkey.ne_nil
  have hx : ∀ y : Char, y.isLower = false → x ≠ y := fun y hy => hkey.ne (by simp [hcs]) hy
  have hcolon : ':' ∉ key.toList := fun hmem => hkey.ne hmem (by decide) rfl
  have hhash : key.toList.head? ≠ some '#' := by simp [hcs, hx '#' (by decide)]
  have hgap : isGap x = false := hkey.isGap x (by simp [hcs])
  have hbreak : isBreak x = false := hkey.isBreak x (by simp [hcs])
  have hat : c.At k (x :: (next ++ ':' :: rest)) := by simpa [hcs] using h
  have hmarker : c.atAnyMarker = false :=
    atAnyMarker_of_ne hat (hx '-' (by decide)) (hx '.' (by decide))
  -- what starts something else is no lower case letter
  have hspecial : startsSpecial x (next ++ ':' :: rest) = false := by
    have hlist : ∀ y ∈ "#,[]\x7b\x7d&*!|>\x27\"%@\x60".toList, (!y.isLower) = true :=
      List.all_eq_true.mp (by decide)
    have hcontains : "#,[]\x7b\x7d&*!|>\x27\"%@\x60".toList.contains x = false := by
      rw [List.contains_eq_mem, decide_eq_false_iff_not]
      exact fun hmem => hx x (Bool.not_eq_true' _ ▸ hlist x hmem) rfl
    rw [startsSpecial, hcontains]
    simp [hx '?' (by decide), hx ':' (by decide), hx '-' (by decide)]
  have hread := readPlain?_colon (i + 1).toNat hkey.ne_nil hkey.isGap hkey.isBreak
    hcolon hhash hmarker hrest h
  refine leads_of_token (startsToken_cons.mpr ⟨hgap, hbreak, hx '#' (by decide),
    hx '\ufeff' (by decide)⟩) hat (dropStaleKeys_idle _ _ _ _ _) hi ?_ ?_
  · refine (token_plain rfl hmarker hspecial hgap hbreak).trans ?_
    simp only [plainScalar, noteKey, dropKey, idle, Bool.not_true, Bool.false_eq_true, if_false,
      Option.any_none, Option.map_some, inFlow, List.isEmpty_nil, Bool.not_false, Bool.true_and,
      hread]
    rw [String.length_toList, String.ofList_toList]
    rfl
  · have hbehind : (c.skip key.length).rest = ':' :: rest := h.skip.rest_eq
    simp [behindWord, hbehind]

/-- A token is put in front of those that were read from a place on. -/
theorem insert_append {t : Token} (later : List Token) (h : s.read = later ++ read) :
    s.insert read.length t = { s with read := later ++ t :: read } := by
  have hlater : s.read.length - read.length = later.length := by
    rw [h, List.length_append]
    omega
  rw [insert, hlater, h, List.take_left, List.drop_left]

/-- A collection goes on in its column. -/
theorem openBlock_of_le (h : column ≤ s.indent) (place : Option Nat) (t : Token) :
    s.openBlock column place t = s := if_pos (.inr h)

/-- A collection is opened further right. -/
theorem openBlock_of_lt (hflow : s.outerKeys = []) (h : s.indent < column) (place : Nat)
    (t : Token) : s.openBlock column (some place) t
      = insert { s with outerIndents := s.indent :: s.outerIndents, indent := column } place t := by
  rw [openBlock, if_neg]
  simp [inFlow, hflow, h]

/-- A colon behind a word makes it a key, and opens its mapping if it is the first. -/
theorem valueIndicator_behindWord {word : String} (hin : Enters k i outer read outer' read')
    (hcolumn : c.column = k) :
    (behindWord c i outer word read).valueIndicator
      = some (idle ((c.skip word.length).skip 1) k outer' false
          (.value :: .scalar .plain word :: .key :: read')) := by
  subst hcolumn
  simp only [valueIndicator, behindWord]
  -- the token of the key goes in front of the word
  rw [insert_append [.scalar .plain word] rfl]
  cases hin with
  | more =>
    rw [openBlock_of_le (Int.le_refl _)]
    rfl
  | start h =>
    rw [openBlock_of_lt rfl h, insert_append [.scalar .plain word, .key] rfl]
    rfl

/-- **The key of an entry**, which may be the first of its mapping. -/
theorem leads_key {key : String} (hkey : IsName key) (hin : Enters k i outer read outer' read')
    (hrest : isBlankOrEnd rest = true) (h : c.At k (key.toList ++ ':' :: rest)) :
    ∃ d : Cursor, d.At (k + key.length + 1) rest ∧ Leads (idle c i outer true read)
      (idle d k outer' false (.value :: .scalar .plain key :: .key :: read')) := by
  have hcolon : (c.skip key.length).At (k + key.length) (':' :: rest) := h.skip
  have hpositive : 0 < k + key.length := by
    have hlength := List.length_pos_iff.mpr hkey.ne_nil
    rw [String.length_toList] at hlength
    omega
  refine ⟨_, hcolon.skip_one, (leads_word hkey hin.le hrest h).trans ?_⟩
  have hstarts : StartsToken (':' :: rest) := startsToken_cons.mpr (by decide)
  refine leads_of_token (s := behindWord c i outer key read) hstarts hcolon ?_ ?_ ?_ ?_
  · -- the key is on the line of the colon, and not too long
    have hindex : ¬ c.index + maxKeyLength < c.index + key.length := by
      have hlength := hkey.length_le
      omega
    have hstale : isStale (c.skip key.length) ⟨read.length, i = c.column, c⟩ = false := by
      simp [isStale, Cursor.skip, hindex]
    simp [dropStaleKeys, behindWord, lacksColon, hstale]
  · have hle := hin.le
    simp only [behindWord]
    omega
  · have hmarker : (c.skip key.length).atAnyMarker = false := hcolon.atAnyMarker hpositive
    rw [token_colon (s := behindWord c i outer key read) hmarker hrest,
      valueIndicator_behindWord hin h.column_eq]
  · rw [idle, hcolon.skip_one.rest_eq]

/-! ### Dashes, brackets and ends -/

/-- No marker of documents is a single character. -/
theorem atAnyMarker_of_blank (h : c.At column (x :: ' ' :: rest)) : c.atAnyMarker = false := by
  simp [Cursor.atAnyMarker, Cursor.atMarker, h.rest_eq, List.isPrefixOf]

section Indicators

variable (hmarker : s.cursor.atAnyMarker = false)

include hmarker

theorem token_dash (hnext : isBlankOrEnd next = true) :
    s.token '-' next = s.blockIndicator .blockSequenceStart .blockEntry true := by
  rw [Cursor.atAnyMarker, Bool.or_eq_false_iff] at hmarker
  simp [token, hmarker.1, hmarker.2, hnext]

theorem token_openBracket : s.token '[' next = s.openFlow .flowSequenceStart := by
  rw [Cursor.atAnyMarker, Bool.or_eq_false_iff] at hmarker
  simp [token, hmarker.1, hmarker.2]

theorem token_closeBracket : s.token ']' next = s.closeFlow .flowSequenceEnd := by
  rw [Cursor.atAnyMarker, Bool.or_eq_false_iff] at hmarker
  simp [token, hmarker.1, hmarker.2]

end Indicators

/-- The dash of an item, in the column of the mapping around it. -/
theorem leads_dash (h : c.At k ('-' :: ' ' :: rest)) :
    Leads (idle c k outer true read) (idle (c.skip 1) k outer true (.blockEntry :: read)) := by
  have hmarker : c.atAnyMarker = false := atAnyMarker_of_blank h
  -- the mapping around the items stands in this column, so no sequence is opened
  have hopen : (idle c k outer true read).openBlock c.column none .blockSequenceStart
      = idle c k outer true read := by
    rw [h.column_eq]
    exact openBlock_of_le (Int.le_refl _) _ _
  refine leads_of_token (startsToken_cons.mpr (by decide)) h (dropStaleKeys_idle _ _ _ _ _)
    (Int.le_refl _) ?_ ?_
  · rw [token_dash (s := idle c k outer true read) hmarker rfl, blockIndicator]
    simp only [idle] at hopen ⊢
    simp [inFlow, hopen, indicator, dropKey, allowKey, push, skip, moveTo]
  · simp [idle, Cursor.skip, h.rest_eq]

/-- An empty sequence as the value of an entry. -/
theorem leads_brackets (hcontent : StartsToken content) (hcolumn : k ≤ column)
    (h : c.At column (' ' :: '[' :: ']' :: '\n' :: (List.replicate j ' ' ++ content))) :
    ∃ d : Cursor, d.At j content ∧ Leads (idle c k outer false read)
      (idle d k outer true (.flowSequenceEnd :: .flowSequenceStart :: read)) := by
  have hopening := h.skip_one
  have hclosing := hopening.skip_one
  have hend := hclosing.skip_one
  have hmarker : (c.skip 1).atAnyMarker = false := hopening.atAnyMarker (Nat.succ_pos _)
  have hmarker' : ((c.skip 1).skip 1).atAnyMarker = false := hclosing.atAnyMarker (Nat.succ_pos _)
  have hle : ∀ n, (k : Int) ≤ (column + n : Nat) := by omega
  obtain ⟨d, hd, hleads⟩ := leads_lineEnd k outer false
    (.flowSequenceEnd :: .flowSequenceStart :: read) hcontent hend
  -- between the brackets the scanner is not idle
  have hinside : Leads (idle (c.skip 1) k outer false read)
      ⟨(c.skip 1).skip 1, k, outer, true, none, [none], .flowSequenceStart :: read⟩ := by
    refine leads_of_token (startsToken_cons.mpr (by decide)) hopening
      (dropStaleKeys_idle _ _ _ _ _) (hle 1) ?_ (Nat.le_of_eq (by rw [hclosing.rest_eq]))
    rw [token_openBracket (s := idle (c.skip 1) k outer false read) hmarker]
    rfl
  have hbehind : Leads
      ⟨(c.skip 1).skip 1, k, outer, true, none, [none], .flowSequenceStart :: read⟩
      (idle (((c.skip 1).skip 1).skip 1) k outer false
        (.flowSequenceEnd :: .flowSequenceStart :: read)) := by
    refine leads_of_token (startsToken_cons.mpr (by decide)) hclosing rfl (hle 2) ?_
      (Nat.le_of_eq (by rw [idle, hend.rest_eq]))
    rw [token_closeBracket hmarker']
    rfl
  exact ⟨d, hd, (leads_blank (startsToken_cons.mpr (by decide)) h).trans
    (hinside.trans (hbehind.trans hleads))⟩

/-- A collection ends in front of a token that is further left. -/
theorem leads_close {m : Nat} (hcontent : StartsToken content) (h : c.At j content) (hj : j < m) :
    Leads (idle c m (i :: outer) true read) (idle c i outer true (.blockEnd :: read)) := by
  have hclose : (idle c m (i :: outer) true read).closeBlocks c.column
      = (idle c i outer true (.blockEnd :: read)).closeBlocks c.column := by
    have hlt : (c.column : Int) < m := by
      rw [h.column_eq]
      exact Int.ofNat_lt.mpr hj
    simp only [closeBlocks, idle, inFlow, List.isEmpty_nil, Bool.not_true, Bool.false_eq_true,
      if_false]
    rw [closeBlocksFrom, if_pos hlt]
    rfl
  -- this is no step of its own: the next token closes all collections that end
  refine ⟨0, Nat.le_of_eq (Nat.zero_add _), fun fuel => ?_⟩
  rw [Nat.zero_add, readAll, readAll]
  simp only [skipToToken_content (s := idle c _ _ _ _) hcontent h, dropStaleKeys_idle]
  rw [show (idle c m (i :: outer) true read).cursor = c from rfl,
    show (idle c i outer true (.blockEnd :: read)).cursor = c from rfl, hclose]

/-! ### Records

The induction is on the value.  Any text may stand behind it, in a column that is not further right,
since behind an item stands the next dash, and behind an entry the next key. -/

mutual

/-- **A value of an entry** is read as its tokens. -/
theorem leads_value : ∀ (v : Yaml) {c : Cursor} {column j k : Nat} {outer : List Int}
    {read : List Token} {content : List Char}, IsFieldValue v → StartsToken content → j ≤ k →
    k ≤ column → c.At column (write k false v ++ (List.replicate j ' ' ++ content)) →
    ∃ d : Cursor, d.At j content ∧ Leads (idle c k outer false read)
      (idle d k outer true ((valueTokens v).reverse ++ read))
  | .integer n, _, _, _, _, _, _, _, _, hcontent, hj, hcolumn, h => by
    have h : Cursor.At _ _ (' ' :: ((toString n).toList ++ ['\n'] ++ _)) := h
    rw [List.append_assoc] at h
    simpa [valueTokens] using leads_plain (isPlain_toString n) hcontent hj hcolumn h
  | .float x, _, _, _, _, _, _, _, _, hcontent, hj, hcolumn, h => by
    have h : Cursor.At _ _ (' ' :: (floatText x ++ ['\n'] ++ _)) := h
    rw [List.append_assoc] at h
    exact leads_plain (isPlain_floatText x) hcontent hj hcolumn h
  | .string s, _, _, _, _, _, _, _, _, hcontent, hj, hcolumn, h =>
    leads_string s hcontent hj hcolumn h
  | .sequence items, c, column, j, k, outer, read, content, hv, hcontent, hj, hcolumn, h => by
    by_cases hne : items = []
    · subst hne
      exact leads_brackets hcontent hcolumn h
    rw [write_sequence k hne, List.cons_append, List.append_assoc] at h
    obtain ⟨d, hd, hline⟩ := leads_lineEnd k outer false read (startsToken_items hne _) h
    obtain ⟨e, he, hitems⟩ := leads_items items hne hv hcontent hj hd
    have htokens : valueTokens (.sequence items) = itemTokens items := by
      rw [valueTokens]
      exact hne
    exact ⟨e, he, htokens ▸ hline.trans hitems⟩

/-- **Items** are read as their tokens, in the column of the mapping around them. -/
theorem leads_items : ∀ (items : List Yaml) {c : Cursor} {j k : Nat} {outer : List Int}
    {read : List Token} {content : List Char}, items ≠ [] → AreRecords items →
    StartsToken content → j ≤ k →
    c.At k (writeItems [] k items ++ (List.replicate j ' ' ++ content)) →
    ∃ d : Cursor, d.At j content ∧ Leads (idle c k outer true read)
      (idle d k outer true ((itemTokens items).reverse ++ read))
  | .mapping es :: ys, c, j, k, outer, read, content, _, hys, hcontent, hj, h => by
    obtain ⟨hne, hes, hys⟩ := hys
    rw [writeItems, write_mapping k hne] at h
    -- the entries of the item end in front of a token that is not further right than the dash
    have hitem : ∀ {j : Nat} {content : List Char}, StartsToken content → j ≤ k →
        c.At k ('-' :: ' ' :: (writeEntries [] (k + 2) es ++ (List.replicate j ' ' ++ content))) →
        ∃ d : Cursor, d.At j content ∧ Leads (idle c k outer true read)
          (idle d k outer true (.blockEnd :: ((entryTokens es).reverse
            ++ .blockMappingStart :: .blockEntry :: read))) := by
      intro j content hcontent hj h
      obtain ⟨d, hd, hentries⟩ := leads_entries es (k := k + 2) hne hes
        (.start (i := k) (by omega) outer (.blockEntry :: read)) hcontent (by omega)
        h.skip_one.skip_one
      exact ⟨d, hd, (leads_dash h).trans ((leads_blank (startsToken_entries hne hes _)
        h.skip_one).trans (hentries.trans (leads_close hcontent hd (by omega))))⟩
    by_cases hnil : ys = []
    · -- the last item stands in front of the text behind the sequence
      subst hnil
      obtain ⟨d, hd, hleads⟩ := hitem hcontent hj (by simpa [writeItems] using h)
      exact ⟨d, hd, by simpa [itemTokens, valueTokens] using hleads⟩
    · -- any other in front of the dash of the next
      rw [writeItems_lead _ _ hnil] at h
      obtain ⟨d, hd, hleads⟩ := hitem (j := k) (startsToken_items hnil _) (Nat.le_refl k)
        (by simpa [pad] using h)
      obtain ⟨e, he, hrest⟩ := leads_items ys hnil hys hcontent hj hd
      exact ⟨e, he, by simpa [itemTokens, valueTokens] using hleads.trans hrest⟩

/-- **Entries** are read as their tokens. -/
theorem leads_entries : ∀ (entries : List (Yaml × Yaml)) {c : Cursor} {j k : Nat} {i : Int}
    {outer outer' : List Int} {read read' : List Token} {content : List Char}, entries ≠ [] →
    AreFields entries → Enters k i outer read outer' read' → StartsToken content → j ≤ k →
    c.At k (writeEntries [] k entries ++ (List.replicate j ' ' ++ content)) →
    ∃ d : Cursor, d.At j content ∧ Leads (idle c i outer true read)
      (idle d k outer' true ((entryTokens entries).reverse ++ read'))
  | (.string key, v) :: es, c, j, k, i, outer, outer', read, read', content, _, hes, hin,
      hcontent, hj, h => by
    obtain ⟨hkey, hv, hes⟩ := hes
    rw [writeEntries, keyText_of_isName hkey] at h
    -- the first entry opens the mapping, unless it is open already
    have hentry : ∀ {j : Nat} {content : List Char}, StartsToken content → j ≤ k →
        c.At k (key.toList ++ ':' :: (write k false v ++ (List.replicate j ' ' ++ content))) →
        ∃ d : Cursor, d.At j content ∧ Leads (idle c i outer true read)
          (idle d k outer' true ((valueTokens v).reverse
            ++ .value :: .scalar .plain key :: .key :: read')) := by
      intro j content hcontent hj h
      obtain ⟨d, hd, hleads⟩ := leads_key hkey hin (isBlankOrEnd_write hv _) h
      obtain ⟨e, he, hvalue⟩ := leads_value v hv hcontent hj (by omega) hd
      exact ⟨e, he, hleads.trans hvalue⟩
    by_cases hnil : es = []
    · -- the last entry stands in front of the text behind the mapping
      subst hnil
      obtain ⟨d, hd, hleads⟩ := hentry hcontent hj (by simpa [writeEntries] using h)
      exact ⟨d, hd, by simpa [entryTokens, valueTokens, hkey.plain] using hleads⟩
    · -- any other in front of the key of the next, for which the mapping is open
      rw [writeEntries_lead _ _ hnil] at h
      obtain ⟨d, hd, hleads⟩ := hentry (j := k) (startsToken_entries hnil hes _) (Nat.le_refl k)
        (by simpa [pad] using h)
      obtain ⟨e, he, hrest⟩ := leads_entries es hnil hes (.more outer' _) hcontent hj hd
      exact ⟨e, he, by simpa [entryTokens, valueTokens, hkey.plain] using hleads.trans hrest⟩

end

/-! ### The end of a text -/

/-- The marker of a document's end. -/
theorem leads_documentEnd (h : c.At 0 "...\n".toList) :
    ∃ d : Cursor, d.At 0 [] ∧ Leads (idle c 0 [-1] true read)
      (idle d (-1) [] true (.documentEnd :: .blockEnd :: read)) := by
  have hmark : c.At 0 ("...".toList ++ '\n' :: (List.replicate 0 ' ' ++ [])) := h
  have hline : (c.skip 3).At 3 ('\n' :: (List.replicate 0 ' ' ++ [])) := hmark.skip
  obtain ⟨d, hd, hleads⟩ := leads_lineEnd (-1) [] false
    (.documentEnd :: .blockEnd :: read) startsToken_nil hline
  refine ⟨d, hd, Leads.trans ?_ hleads⟩
  refine leads_of_token (x := '.') (startsToken_cons.mpr (by decide)) h
    (dropStaleKeys_idle _ _ _ _ _) (Int.le_refl _) ?_ ?_
  · -- three dots at the start of a line end the document
    have hdash : c.atMarker '-' = false := by simp [Cursor.atMarker, h.rest_eq]
    have hdot : c.atMarker '.' = true := by
      rw [Cursor.atMarker, h.column_eq, h.rest_eq]
      decide
    simp [token, idle, hdash, hdot]
    rfl
  · rw [idle, hline.rest_eq]
    decide

/-- Reading ends at the end of the text. -/
theorem readAll_of_finish (h : s.cursor.At column []) (hfresh : s.dropStaleKeys = some s)
    (hi : s.indent ≤ column) (hfinish : s.finish = some t) (fuel : Nat) :
    readAll (fuel + 1) s = t.read.reverse := by
  rw [readAll, skipToToken_content startsToken_nil h, hfresh]
  simp only [h.column_eq, closeBlocks_of_le hi]
  split
  · rw [hfinish]
  · next hcons => cases hcons.symm.trans h.rest_eq

/-- The end of the text ends the mapping at its top. -/
theorem readAll_end (h : c.At 0 []) (fuel : Nat) :
    readAll (fuel + 1) (idle c 0 [-1] true read) = (.streamEnd :: .blockEnd :: read).reverse := by
  refine readAll_of_finish (t := idle c (-1) [] false _) h (dropStaleKeys_idle _ _ _ _ _)
    (Int.le_refl _) ?_ fuel
  simp only [finish, idle, h.column_eq, if_true]
  rfl

/-- The end of the text behind a marker. -/
theorem readAll_end_marked (h : c.At 0 []) (fuel : Nat) :
    readAll (fuel + 1) (idle c (-1) [] true read) = (.streamEnd :: read).reverse := by
  have hle : (-1 : Int) ≤ (0 : Nat) := by decide
  refine readAll_of_finish (t := idle c (-1) [] false _) h (dropStaleKeys_idle _ _ _ _ _) hle
    ?_ fuel
  simp only [finish, idle, h.column_eq, if_true]
  rfl

end Scanner

/-- What stands behind the content of a document, and ends it. -/
def endTokens (marked : Bool) : List Token :=
  if marked then [.documentEnd, .streamEnd] else [.streamEnd]

/-- **The tokens of a written mapping.** -/
theorem tokens_render {es : List (Yaml × Yaml)} (hne : es ≠ []) (h : AreFields es) :
    tokens (render (.mapping es))
      = valueTokens (.mapping es) ++ endTokens (opens false (.mapping es)) := by
  have htext : (render (.mapping es)).toList
      = writeEntries [] 0 es ++ (if opens false (.mapping es) then "...\n".toList else []) := by
    obtain ⟨e, es, rfl⟩ := List.exists_cons_of_ne_nil hne
    exact String.toList_ofList
  rw [tokens, if_pos (all_isPrintable_render hne h)]
  generalize render (.mapping es) = text at htext
  generalize opens false (.mapping es) = marked at htext
  have hstart : (Cursor.ofText text).At 0 (writeEntries [] 0 es
      ++ (List.replicate 0 ' ' ++ if marked then "...\n".toList else [])) := ⟨rfl, htext⟩
  have hcontent : StartsToken (if marked then "...\n".toList else []) := by
    cases marked with
    | false => exact startsToken_nil
    | true => exact startsToken_cons.mpr (by decide)
  obtain ⟨d, hd, hentries⟩ := Scanner.leads_entries es hne h
    (.start (i := -1) (k := 0) (by decide) [] []) hcontent (Nat.le_refl 0) hstart
  have htokens : (Token.blockEnd :: ((entryTokens es).reverse ++ [.blockMappingStart])).reverse
      = valueTokens (.mapping es) := by simp [valueTokens]
  cases marked with
  | false =>
    obtain ⟨fuel, hread⟩ := hentries.exists_readAll
    refine hread.trans ((Scanner.readAll_end hd fuel).trans ?_)
    rw [List.reverse_cons, htokens]
    rfl
  | true =>
    obtain ⟨e, he, hend⟩ := Scanner.leads_documentEnd hd
    obtain ⟨fuel, hread⟩ := (hentries.trans hend).exists_readAll
    refine hread.trans ((Scanner.readAll_end_marked he fuel).trans ?_)
    rw [List.reverse_cons, List.reverse_cons, htokens, List.append_assoc]
    rfl

end SheetGrammar.Yaml
