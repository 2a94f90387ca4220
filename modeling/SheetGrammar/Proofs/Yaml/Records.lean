import SheetGrammar.Proofs.Yaml.Numbers
import SheetGrammar.Proofs.Yaml.Quotes
import SheetGrammar.Yaml.Token.Reader

/-!
# Nested records as texts

Documents are written as mappings of named fields, some of which are lists of such mappings.  What
is written of them is printable, whatever characters their strings hold.

## Main definitions

* `IsName` — a string that can be the key of a record.
* `IsFieldValue`, `AreRecords`, `AreFields` — the values that nested records are written as.

## Main results

* `styleOf_spec` — what a string is like that is written in some style.
* `all_isPrintable_render` — the text of a record is printable.
-/

namespace SheetGrammar.Yaml

variable {c : Char} {cs : List Char} {k : Nat}

/-! ### Styles -/

theorem fitsSingle_of_eq_true {cs : List Char} (h : fitsSingle cs = true) (hfeed : '\n' ∉ cs) :
    FitsSingle cs := by
  simp only [fitsSingle, isRepresentable, Bool.and_eq_true, Bool.not_eq_true', List.all_eq_true]
    at h
  exact ⟨h.1.1, h.1.2, h.2, hfeed⟩

theorem ne_nil_of_readsAsString {cs : List Char} (h : readsAsString cs = true) : cs ≠ [] := by
  rintro rfl
  exact absurd h (by decide)

/-- What `styleOf` decides. -/
theorem styleOf_spec (cs : List Char) :
    (styleOf cs = .literal ∧ fitsLiteral cs = true ∧ '\n' ∈ cs) ∨ styleOf cs = .doubleQuoted ∨
      (styleOf cs = .plain ∧ readsAsString cs = true ∧ fitsPlain cs = true) ∨
      (styleOf cs = .singleQuoted ∧ FitsSingle cs) := by
  unfold styleOf
  split
  · next hfeed =>
    split
    · next hfits => exact .inl ⟨rfl, hfits, by simpa using hfeed⟩
    · exact .inr (.inl rfl)
  · next hfeed =>
    split
    · next hplain =>
      rw [Bool.and_eq_true] at hplain
      exact .inr (.inr (.inl ⟨rfl, hplain⟩))
    split
    · next hsingle =>
      exact .inr (.inr (.inr ⟨rfl, fitsSingle_of_eq_true hsingle (by simpa using hfeed)⟩))
    · exact .inr (.inl rfl)

/-! ### Nested records -/

/-- A string that can be the key of a record: some letters that are written plain. -/
structure IsName (key : String) : Prop where
  plain : styleOf key.toList = .plain
  lower : ∀ x ∈ key.toList, x.isLower = true
  length_le : key.length ≤ Scanner.maxKeyLength

mutual

/-- A value of an entry: a number, a string, or a list of records. -/
def IsFieldValue : Yaml → Prop
  | .integer _ => True
  | .float _ => True
  | .string _ => True
  | .sequence items => AreRecords items
  | _ => False

/-- Mappings with entries. -/
def AreRecords : List Yaml → Prop
  | [] => True
  | .mapping entries :: items => entries ≠ [] ∧ AreFields entries ∧ AreRecords items
  | _ :: _ => False

/-- Entries of a record. -/
def AreFields : List (Yaml × Yaml) → Prop
  | [] => True
  | (.string key, value) :: entries => IsName key ∧ IsFieldValue value ∧ AreFields entries
  | _ :: _ => False

end

namespace IsName

variable {key : String} {x y : Char}

theorem ne_nil (h : IsName key) : key.toList ≠ [] := by
  intro hnil
  have hplain := h.plain
  rw [hnil] at hplain
  exact absurd hplain (by decide)

theorem ne (h : IsName key) (hx : x ∈ key.toList) (hy : y.isLower = false) : x ≠ y := by
  rintro rfl
  simp [h.lower x hx] at hy

theorem isPlain (h : IsName key) : IsPlain key.toList := by
  obtain ⟨hstyle, -⟩ | hstyle | ⟨-, -, hfits⟩ | ⟨hstyle, -⟩ := styleOf_spec key.toList
  · cases h.plain.symm.trans hstyle
  · cases h.plain.symm.trans hstyle
  · exact isPlain_of_fitsPlain h.ne_nil hfits
  · cases h.plain.symm.trans hstyle

theorem isVisible (h : IsName key) : ∀ x ∈ key.toList, isVisible x = true :=
  h.isPlain.words.visible

theorem isGap (h : IsName key) : ∀ x ∈ key.toList, isGap x = false := fun x hx => by
  simp [Yaml.isGap, h.ne hx (y := ' ') (by decide), h.ne hx (y := '\t') (by decide)]

theorem isBreak (h : IsName key) : ∀ x ∈ key.toList, isBreak x = false := fun x hx => by
  simp [Yaml.isBreak, h.ne hx (y := '\n') (by decide), h.ne hx (y := '\r') (by decide),
    h.ne hx (y := '\x85') (by decide), h.ne hx (y := '\u2028') (by decide),
    h.ne hx (y := '\u2029') (by decide)]

end IsName

theorem keyText_of_isName {key : String} (h : IsName key) : keyText (.string key) = key.toList := by
  simp [keyText, writeString, h.plain]

variable {ys : List Yaml} {es : List (Yaml × Yaml)}

theorem writeItems_lead (lead : List Char) (k : Nat) (h : ys ≠ []) :
    writeItems lead k ys = lead ++ writeItems [] k ys := by
  obtain ⟨y, ys, rfl⟩ := List.exists_cons_of_ne_nil h
  simp [writeItems]

theorem writeEntries_lead (lead : List Char) (k : Nat) (h : es ≠ []) :
    writeEntries lead k es = lead ++ writeEntries [] k es := by
  obtain ⟨⟨key, v⟩, es, rfl⟩ := List.exists_cons_of_ne_nil h
  simp [writeEntries]

theorem write_string (k : Nat) (s : String) :
    write k false (.string s) = ' ' :: writeString (k + 2) s := rfl

theorem write_sequence (k : Nat) (h : ys ≠ []) :
    write k false (.sequence ys) = '\n' :: (pad k ++ writeItems [] k ys) := by
  obtain ⟨y, ys, rfl⟩ := List.exists_cons_of_ne_nil h
  have hwrite : write k false (.sequence (y :: ys)) = writeItems ('\n' :: pad k) k (y :: ys) := rfl
  rw [hwrite, writeItems_lead _ _ h, List.cons_append]

theorem write_mapping (k : Nat) (h : es ≠ []) :
    write k true (.mapping es) = ' ' :: writeEntries [] (k + 2) es := by
  obtain ⟨e, es, rfl⟩ := List.exists_cons_of_ne_nil h
  have hwrite : write k true (.mapping (e :: es)) = writeEntries [' '] (k + 2) (e :: es) := rfl
  rw [hwrite, writeEntries_lead _ _ h]
  rfl

/-- A value of an entry starts behind a blank, or on the next line. -/
theorem isBlankOrEnd_write {v : Yaml} (hv : IsFieldValue v) (rest : List Char) :
    isBlankOrEnd (write k false v ++ rest) = true := by
  cases v with
  | integer n => rfl
  | float x => rfl
  | string s => rfl
  | sequence items =>
    cases items with
    | nil => rfl
    | cons y ys => rfl
  | _ => exact absurd hv (by simp [IsFieldValue])

theorem startsToken_items (h : ys ≠ []) (rest : List Char) :
    StartsToken (writeItems [] k ys ++ rest) := by
  obtain ⟨y, ys, rfl⟩ := List.exists_cons_of_ne_nil h
  rw [writeItems]
  exact startsToken_cons.mpr (by decide)

theorem startsToken_entries (hne : es ≠ []) (h : AreFields es) (rest : List Char) :
    StartsToken (writeEntries [] k es ++ rest) := by
  obtain ⟨⟨key, v⟩, es, rfl⟩ := List.exists_cons_of_ne_nil hne
  cases key with
  | string key =>
    obtain ⟨hkey, -, -⟩ := h
    obtain ⟨x, next, hcs⟩ := List.exists_cons_of_ne_nil hkey.ne_nil
    have hx : ∀ y : Char, y.isLower = false → x ≠ y := fun y hy => hkey.ne (by simp [hcs]) hy
    rw [writeEntries, keyText_of_isName hkey, hcs]
    exact startsToken_cons.mpr ⟨hkey.isGap x (by simp [hcs]), hkey.isBreak x (by simp [hcs]),
      hx '#' (by decide), hx '\ufeff' (by decide)⟩
  | _ => exact absurd h (by simp [AreFields])

/-! ### Printable texts -/

theorem isPrintable_of_isVisible (h : isVisible c = true) : isPrintable c = true := by
  simp only [isVisible, isPrintable, Bool.or_eq_true, Bool.and_eq_true, beq_iff_eq,
    decide_eq_true_eq] at h ⊢
  omega

theorem all_isPrintable_of_isVisible (h : ∀ x ∈ cs, isVisible x = true) :
    cs.all isPrintable = true :=
  List.all_eq_true.mpr fun x hx => isPrintable_of_isVisible (h x hx)

theorem all_isPrintable_number (h : ∀ x ∈ cs, isNumberChar x = true) :
    (' ' :: (cs ++ ['\n'])).all isPrintable = true := by
  rw [List.all_cons, List.all_append,
    all_isPrintable_of_isVisible fun x hx => isVisible_of_isNumberChar (h x hx)]
  rfl

theorem all_isPrintable_pad (n : Nat) : (pad n).all isPrintable = true :=
  all_isPrintable_of_isVisible fun x hx => by
    rw [(List.mem_replicate.mp hx).2]
    rfl

theorem all_isPrintable_hexDigits (count n : Nat) : (hexDigits count n).all isPrintable = true := by
  induction count generalizing n with
  | zero => rfl
  | succ count ih =>
    have hdigit : ∀ m < 16, isPrintable (upperHexDigit m) = true := by decide
    simp [hexDigits, List.all_append, ih, hdigit (n % 16) (Nat.mod_lt n (by decide))]

theorem all_isPrintable_escapeChar (c : Char) : (escapeChar c).all isPrintable = true := by
  -- the letters are gone through one by one
  have hletter : ∀ x ∈ lettered, (escapeLetter? x).all isPrintable = true :=
    List.all_eq_true.mp (by decide)
  unfold escapeChar
  split
  · next letter h =>
    have hprintable := hletter c (mem_lettered h)
    rw [h, Option.all_some] at hprintable
    simp [hprintable, show isPrintable '\\' = true from rfl]
  split
  · next h => simp [isPrintable_of_isVisible h]
  split
  · simp [all_isPrintable_hexDigits, show isPrintable '\\' = true from rfl,
      show isPrintable 'x' = true from rfl]
  split
  · simp [all_isPrintable_hexDigits, show isPrintable '\\' = true from rfl,
      show isPrintable 'u' = true from rfl]
  · simp [all_isPrintable_hexDigits, show isPrintable '\\' = true from rfl,
      show isPrintable 'U' = true from rfl]

theorem all_isPrintable_writeIndented {double : Char → List Char}
    (hcs : ∀ x ∈ cs, isVisible x = true) (hdouble : ∀ x ∈ cs, (double x).all isPrintable = true)
    (indent : Nat) (fresh : Bool) :
    (writeIndented indent double fresh cs).all isPrintable = true := by
  induction cs generalizing fresh with
  | nil => rfl
  | cons x cs ih =>
    obtain ⟨hx, hcs⟩ := List.forall_mem_cons.mp hcs
    obtain ⟨hdx, hdouble⟩ := List.forall_mem_cons.mp hdouble
    have hrest := ih hcs hdouble
    rw [writeIndented]
    split
    · rw [List.all_cons, isPrintable_of_isVisible hx, hrest]
      rfl
    split
    · rw [List.all_append, List.all_append, hdx, hrest]
      exact congrArg (· && true && true) (all_isPrintable_pad indent)
    · rw [List.all_append, hdx, hrest]
      rfl

theorem all_isPrintable_literalHints (cs : List Char) :
    (literalHints cs).all isPrintable = true := by
  have hhint : ∀ x ∈ ['2', '+', '-'], isPrintable x = true := List.all_eq_true.mp (by decide)
  rw [List.all_eq_true]
  intro x hx
  refine hhint x ?_
  rcases List.mem_append.mp hx with hx | hx
  · split at hx
    · rw [List.mem_singleton.mp hx]
      decide
    · cases hx
  · split at hx
    · rw [List.mem_singleton.mp hx]
      decide
    split at hx
    · cases hx
    · rw [List.mem_singleton.mp hx]
      decide

/-- What is written of a string is printable. -/
theorem all_isPrintable_writeString (indent : Nat) (s : String) :
    (writeString indent s).all isPrintable = true := by
  obtain ⟨hbar, hfeed, hquote, hdouble⟩ : isPrintable '|' = true ∧ isPrintable '\n' = true ∧
    isPrintable '\x27' = true ∧ isPrintable '"' = true := by decide
  obtain ⟨hstyle, hfits, -⟩ | hstyle | ⟨hstyle, -, hfits⟩ | ⟨hstyle, hfits⟩ :=
    styleOf_spec s.toList
  · -- a literal block
    simp only [fitsLiteral, isRepresentable, Bool.and_eq_true, List.all_eq_true] at hfits
    have hchar : ∀ x ∈ s.toList, [x].all isPrintable = true := fun x hx =>
      all_isPrintable_of_isVisible (by simpa using hfits.1.1 x hx)
    have hlines := all_isPrintable_writeIndented hfits.1.1 hchar indent true
    have hend : ∀ b : Bool, (if b then [] else ['\n']).all isPrintable = true := by decide
    simp only [writeString, hstyle, writeLiteral, List.all_append, List.all_cons, hbar, hfeed,
      all_isPrintable_literalHints, hlines, hend, Bool.and_self]
  · -- between double quotes, where what is not printable is escaped
    have hchars : (s.toList.flatMap escapeChar).all isPrintable = true := by
      simp [List.all_flatMap, all_isPrintable_escapeChar]
    simp [writeString, hstyle, writeDouble, hchars, hfeed, hdouble]
  · -- a plain scalar
    simp only [fitsPlain, Bool.and_eq_true, List.all_eq_true] at hfits
    simp [writeString, hstyle, all_isPrintable_of_isVisible hfits.1.1.1.1, hfeed]
  · -- between single quotes
    have hchar : ∀ x ∈ s.toList, (doubleQuote x).all isPrintable = true := by
      intro x hx
      unfold doubleQuote
      split
      · rfl
      · exact all_isPrintable_of_isVisible (by simpa using hfits.visible x hx)
    have hlines := all_isPrintable_writeIndented hfits.visible hchar indent false
    have hend : ∀ b : Bool,
        (if b then List.replicate indent ' ' else []).all isPrintable = true := by
      intro b
      cases b with
      | false => rfl
      | true => exact all_isPrintable_pad indent
    simp only [writeString, hstyle, writeSingle, List.cons_append, List.all_append, List.all_cons,
      hquote, hfeed, hlines, hend, List.all_nil, Bool.and_self]

mutual

theorem all_isPrintable_write : ∀ (v : Yaml) (column : Nat), IsFieldValue v →
    (write column false v).all isPrintable = true
  | .integer n, _, _ => all_isPrintable_number (isNumberChar_toString n)
  | .float x, _, _ => all_isPrintable_number (floatText_spec x).1
  | .string s, column, _ => by
    rw [write_string, List.all_cons, all_isPrintable_writeString]
    rfl
  | .sequence items, column, h => by
    by_cases hne : items = []
    · subst hne
      rfl
    · rw [write_sequence column hne, List.all_cons, List.all_append,
        all_isPrintable_pad, all_isPrintable_writeItems items [] column h rfl]
      rfl

theorem all_isPrintable_writeItems : ∀ (ys : List Yaml) (lead : List Char) (column : Nat),
    AreRecords ys → lead.all isPrintable = true → (writeItems lead column ys).all isPrintable = true
  | [], _, _, _, _ => rfl
  | .mapping es :: ys, lead, column, h, hlead => by
    obtain ⟨hne, hes, hys⟩ := h
    rw [writeItems, write_mapping column hne, List.all_append, List.all_cons, List.all_append,
      List.all_cons, hlead, all_isPrintable_writeEntries es [] _ hes rfl,
      all_isPrintable_writeItems ys _ column hys (all_isPrintable_pad column)]
    rfl

theorem all_isPrintable_writeEntries : ∀ (es : List (Yaml × Yaml)) (lead : List Char)
    (column : Nat), AreFields es → lead.all isPrintable = true →
    (writeEntries lead column es).all isPrintable = true
  | [], _, _, _, _ => rfl
  | (.string key, v) :: es, lead, column, h, hlead => by
    obtain ⟨hkey, hv, hes⟩ := h
    rw [writeEntries, keyText_of_isName hkey, List.all_append, List.all_append, List.all_cons,
      List.all_append, hlead, all_isPrintable_of_isVisible hkey.isVisible,
      all_isPrintable_write v column hv,
      all_isPrintable_writeEntries es _ column hes (all_isPrintable_pad column)]
    rfl

end

/-- The text of a record is printable. -/
theorem all_isPrintable_render (hne : es ≠ []) (h : AreFields es) :
    (render (.mapping es)).toList.all isPrintable = true := by
  -- behind the record stands nothing, or the marker of an end
  have hend : ∀ b : Bool, (if b then "...\n".toList else []).all isPrintable = true := by decide
  have htop : writeTop (.mapping es) = writeEntries [] 0 es := by
    obtain ⟨e, es, rfl⟩ := List.exists_cons_of_ne_nil hne
    rfl
  rw [render, String.toList_ofList, List.all_append, htop,
    all_isPrintable_writeEntries es [] 0 h rfl, hend]
  rfl

end SheetGrammar.Yaml
