import SheetGrammar.Text.Encoding

/-!
# Bytes of texts

A text has bytes in UTF-8 and in UTF-16, from which it is decoded again.  In UTF-8 the characters
of ASCII are single bytes, and all other characters consist of bytes beyond ASCII.

## Main definitions

* `Encoding.utf16Bytes` — the bytes of a text in UTF-16.
* `Encoding.marks` — the bytes that mark an encoding.
* `Encoding.codePages` — the names of some encodings that have a byte for each character.

## Main results

* `Encoding.decodeUtf8?_toUTF8`, `Encoding.decodeUtf16?_utf16Bytes` — texts are decoded from
  their bytes.
* `Encoding.le_of_mem_utf8EncodeChar` — the bytes of characters beyond ASCII.
* `Encoding.byteOrderMark?_append` — a byte of ASCII completes no byte order mark.
* `Encoding.scheme_of_mem_codePages` — what bytes of a code page stand for.
-/

namespace SheetGrammar.Encoding

/-! ### UTF-8 -/

/-- The bytes of a text stand for it. -/
theorem decodeUtf8?_toUTF8 (text : String) :
    decodeUtf8? text.toUTF8.data.toList = some text := by
  unfold decodeUtf8? String.fromUTF8?
  exact (dif_pos text.isValidUTF8).trans rfl

/-- The bytes of a text in UTF-8. -/
def utf8Bytes (cs : List Char) : List UInt8 := cs.flatMap String.utf8EncodeChar

theorem toUTF8_ofList (cs : List Char) :
    (String.ofList cs).toUTF8.data.toList = utf8Bytes cs := by
  rw [String.toUTF8_eq_toByteArray]
  exact congrArg Array.toList List.data_toByteArray

theorem decodeUtf8?_utf8Bytes (cs : List Char) :
    decodeUtf8? (utf8Bytes cs) = some (String.ofList cs) := by
  rw [← toUTF8_ofList]
  exact decodeUtf8?_toUTF8 _

variable {c : Char} {b : UInt8}

/-- Characters are no surrogates. -/
theorem not_surrogate (c : Char) : c.toNat < 0xD800 ∨ 0xDFFF < c.toNat ∧ c.toNat < 0x110000 :=
  c.valid

/-- A character of ASCII is one byte. -/
theorem utf8EncodeChar_of_lt (h : c.toNat < 0x80) :
    String.utf8EncodeChar c = [UInt8.ofNat c.toNat] := by
  have hval : c.val.toNat ≤ 127 := Nat.le_of_lt_succ h
  unfold String.utf8EncodeChar
  exact if_pos hval

/-- The first byte of a character beyond ASCII tells how high the character is, and how many
bytes come behind it. -/
theorem utf8EncodeChar_of_le (h : 0x80 ≤ c.toNat) :
    ∃ first rest, String.utf8EncodeChar c = first :: rest ∧ (∀ b ∈ rest, 0x80 ≤ b ∧ b < 0xC0) ∧
      0xC0 ≤ first ∧ first < 0xF8 ∧ (c.toNat < 0xF000 → first < 0xEF) ∧
      (first = 0xEF → rest.length = 2) := by
  have hvalid : c.val.toNat < 0xD800 ∨ 0xDFFF < c.val.toNat ∧ c.val.toNat < 0x110000 := c.valid
  have hval : 0x80 ≤ c.val.toNat := h
  have htoNat : c.toNat = c.val.toNat := rfl
  unfold String.utf8EncodeChar
  simp only [if_neg (show ¬ c.val.toNat ≤ 127 by omega), htoNat, UInt8.le_iff_toNat_le,
    UInt8.lt_iff_toNat_lt, ← UInt8.toNat_inj]
  -- one case for each number of bytes
  split
  · refine ⟨_, _, rfl, ?_⟩
    simp only [List.forall_mem_cons, List.not_mem_nil, false_implies, implies_true, and_true,
      UInt8.toNat_ofNat', UInt8.reduceToNat, List.length_cons, List.length_nil]
    omega
  split
  · refine ⟨_, _, rfl, ?_⟩
    simp only [List.forall_mem_cons, List.not_mem_nil, false_implies, implies_true, and_true,
      UInt8.toNat_ofNat', UInt8.reduceToNat, List.length_cons, List.length_nil]
    omega
  · refine ⟨_, _, rfl, ?_⟩
    simp only [List.forall_mem_cons, List.not_mem_nil, false_implies, implies_true, and_true,
      UInt8.toNat_ofNat', UInt8.reduceToNat, List.length_cons, List.length_nil]
    omega

/-- Characters beyond ASCII consist of bytes beyond ASCII. -/
theorem le_of_mem_utf8EncodeChar (h : 0x80 ≤ c.toNat) (hb : b ∈ String.utf8EncodeChar c) :
    0x80 ≤ b := by
  obtain ⟨first, rest, hbytes, hrest, hfirst, -⟩ := utf8EncodeChar_of_le h
  rw [hbytes] at hb
  rcases List.mem_cons.mp hb with rfl | hb
  · exact UInt8.le_trans (by decide) hfirst
  · exact (hrest b hb).1

/-- No character begins like a byte order mark of UTF-16. -/
theorem lt_of_head_utf8EncodeChar (hb : (String.utf8EncodeChar c).head? = some b) :
    b < 0xF8 := by
  by_cases h : c.toNat < 0x80
  · rw [utf8EncodeChar_of_lt h] at hb
    obtain rfl := Option.some.inj hb
    simp only [UInt8.lt_iff_toNat_lt, UInt8.toNat_ofNat', UInt8.reduceToNat]
    omega
  · obtain ⟨first, rest, hbytes, -, -, hfirst, -⟩ := utf8EncodeChar_of_le (Nat.le_of_not_lt h)
    rw [hbytes] at hb
    exact Option.some.inj hb ▸ hfirst

/-- Low characters do not begin like the byte order mark of UTF-8. -/
theorem lt_mark_of_head_utf8EncodeChar (h : c.toNat < 0xF000)
    (hb : (String.utf8EncodeChar c).head? = some b) : b < 0xEF := by
  by_cases hascii : c.toNat < 0x80
  · rw [utf8EncodeChar_of_lt hascii] at hb
    obtain rfl := Option.some.inj hb
    simp only [UInt8.lt_iff_toNat_lt, UInt8.toNat_ofNat', UInt8.reduceToNat]
    omega
  · obtain ⟨first, rest, hbytes, -, -, -, hfirst, -⟩ :=
      utf8EncodeChar_of_le (Nat.le_of_not_lt hascii)
    rw [hbytes] at hb
    exact Option.some.inj hb ▸ hfirst h

/-- A character that begins like the byte order mark has as many bytes as the mark. -/
theorem length_utf8EncodeChar_of_head (h : (String.utf8EncodeChar c).head? = some 0xEF) :
    (String.utf8EncodeChar c).length = 3 := by
  by_cases hascii : c.toNat < 0x80
  · rw [utf8EncodeChar_of_lt hascii] at h
    have hbyte := congrArg UInt8.toNat (Option.some.inj h)
    simp only [UInt8.toNat_ofNat', UInt8.reduceToNat] at hbyte
    omega
  · obtain ⟨first, rest, hbytes, -, -, -, -, hrest⟩ :=
      utf8EncodeChar_of_le (Nat.le_of_not_lt hascii)
    rw [hbytes] at h ⊢
    rw [List.length_cons, hrest (Option.some.inj h)]

/-! ### UTF-16 -/

/-- The units of a character: two surrogates where it lies beyond 16 bits. -/
def unitsOfChar (c : Char) : List Nat :=
  if c.toNat < 0x10000 then [c.toNat]
  else [0xD800 + (c.toNat - 0x10000) / 0x400, 0xDC00 + (c.toNat - 0x10000) % 0x400]

/-- The two bytes of a unit. -/
def bytesOfUnit (bigEndian : Bool) (n : Nat) : List UInt8 :=
  if bigEndian then [UInt8.ofNat (n / 256), UInt8.ofNat (n % 256)]
  else [UInt8.ofNat (n % 256), UInt8.ofNat (n / 256)]

/-- The bytes of a text in UTF-16. -/
def utf16Bytes (bigEndian : Bool) (cs : List Char) : List UInt8 :=
  cs.flatMap fun c => (unitsOfChar c).flatMap (bytesOfUnit bigEndian)

theorem utf16Bytes_append (bigEndian : Bool) (cs ds : List Char) :
    utf16Bytes bigEndian (cs ++ ds) = utf16Bytes bigEndian cs ++ utf16Bytes bigEndian ds :=
  List.flatMap_append

theorem lt_of_mem_unitsOfChar {n : Nat} (hn : n ∈ unitsOfChar c) : n < 0x10000 := by
  have hc := not_surrogate c
  unfold unitsOfChar at hn
  split at hn
  · obtain rfl := List.mem_singleton.mp hn
    assumption
  · simp only [List.mem_cons, List.not_mem_nil, or_false] at hn
    omega

/-- Units are read from their bytes. -/
theorem units?_flatMap {bigEndian : Bool} {ns : List Nat} (h : ∀ n ∈ ns, n < 0x10000) :
    units? bigEndian (ns.flatMap (bytesOfUnit bigEndian)) = some ns := by
  induction ns with
  | nil => rfl
  | cons n ns ih =>
    obtain ⟨hn, hns⟩ := List.forall_mem_cons.mp h
    have hsum : n / 256 % 256 * 256 + n % 256 = n := by omega
    rw [List.flatMap_cons]
    cases bigEndian with
    | true => simp [bytesOfUnit, units?, ih hns, hsum]
    | false => simp [bytesOfUnit, units?, ih hns, hsum]

theorem charsOfUnits?_cons {n : Nat} {ns : List Nat} (hhigh : isHighSurrogate n = false)
    (hlow : isLowSurrogate n = false) :
    charsOfUnits? (n :: ns) = (charsOfUnits? ns).map (Char.ofNat n :: ·) := by
  cases ns with
  | nil => simp [charsOfUnits?, hhigh, hlow]
  | cons m ns => simp [charsOfUnits?, hhigh, hlow]

/-- Characters are read from their units. -/
theorem charsOfUnits?_flatMap (cs : List Char) :
    charsOfUnits? (cs.flatMap unitsOfChar) = some cs := by
  induction cs with
  | nil => rfl
  | cons c cs ih =>
    have hc := not_surrogate c
    rw [List.flatMap_cons, unitsOfChar]
    split
    · have hhigh : isHighSurrogate c.toNat = false := by
        simp only [isHighSurrogate, Bool.and_eq_false_iff, decide_eq_false_iff_not]
        omega
      have hlow : isLowSurrogate c.toNat = false := by
        simp only [isLowSurrogate, Bool.and_eq_false_iff, decide_eq_false_iff_not]
        omega
      rw [List.singleton_append, charsOfUnits?_cons hhigh hlow, ih, Option.map_some,
        Char.ofNat_toNat]
    · next hlarge =>
      have hhigh : isHighSurrogate (0xD800 + (c.toNat - 0x10000) / 0x400) = true := by
        simp only [isHighSurrogate, Bool.and_eq_true, decide_eq_true_eq]
        omega
      have hlow : isLowSurrogate (0xDC00 + (c.toNat - 0x10000) % 0x400) = true := by
        simp only [isLowSurrogate, Bool.and_eq_true, decide_eq_true_eq]
        omega
      have hsum : 0x10000 + (0xD800 + (c.toNat - 0x10000) / 0x400 - 0xD800) * 0x400
          + (0xDC00 + (c.toNat - 0x10000) % 0x400 - 0xDC00) = c.toNat := by omega
      rw [List.cons_append, List.singleton_append, charsOfUnits?, if_pos hhigh, if_pos hlow, ih,
        Option.map_some, hsum, Char.ofNat_toNat]

/-- A text is decoded from its bytes in UTF-16. -/
theorem decodeUtf16?_utf16Bytes (bigEndian : Bool) (cs : List Char) :
    decodeUtf16? bigEndian (utf16Bytes bigEndian cs) = some (String.ofList cs) := by
  have hunits : ∀ n ∈ cs.flatMap unitsOfChar, n < 0x10000 := by
    intro n hn
    obtain ⟨c, -, hn⟩ := List.mem_flatMap.mp hn
    exact lt_of_mem_unitsOfChar hn
  unfold decodeUtf16? utf16Bytes
  rw [← List.flatMap_assoc, units?_flatMap hunits, Option.bind_some, charsOfUnits?_flatMap]
  rfl

/-! ### Byte order marks -/

/-- The bytes that mark an encoding. -/
def marks : List (List UInt8) := [[0xEF, 0xBB, 0xBF], [0xFF, 0xFE], [0xFE, 0xFF]]

theorem byteOrderMark?_eq_none_iff {bytes : List UInt8} :
    byteOrderMark? bytes = none ↔ ∀ mark ∈ marks, ¬ mark <+: bytes := by
  constructor
  · intro h mark hmark hprefix
    obtain ⟨rest, rfl⟩ := hprefix
    simp only [marks, List.mem_cons, List.not_mem_nil, or_false] at hmark
    rcases hmark with rfl | rfl | rfl
    · cases h
    · cases h
    · cases h
  · intro h
    unfold byteOrderMark?
    split
    · exact absurd (List.prefix_append [0xEF, 0xBB, 0xBF] _) (h _ (by simp [marks]))
    · exact absurd (List.prefix_append [0xFF, 0xFE] _) (h _ (by simp [marks]))
    · exact absurd (List.prefix_append [0xFE, 0xFF] _) (h _ (by simp [marks]))
    · rfl

/-- A byte of ASCII behind bytes does not turn them into a byte order mark. -/
theorem byteOrderMark?_append {bytes rest : List UInt8} {b : UInt8}
    (h : byteOrderMark? bytes = none) (hb : b < 0x80) :
    byteOrderMark? (bytes ++ b :: rest) = none := by
  rw [byteOrderMark?_eq_none_iff] at h ⊢
  intro mark hmark hprefix
  have hascii : b ∉ mark := by
    intro hmem
    have hall : ∀ mark ∈ marks, mark.all (0x80 ≤ ·) = true := by decide
    have hle := List.all_eq_true.mp (hall mark hmark) b hmem
    exact absurd hb (UInt8.not_lt.mpr (of_decide_eq_true hle))
  rcases List.prefix_or_prefix_of_prefix hprefix (List.prefix_append bytes (b :: rest)) with
    hbefore | ⟨others, rfl⟩
  · exact h mark hmark hbefore
  -- the mark would reach beyond the bytes, and the byte stand in it
  cases others with
  | nil => exact h _ hmark (by simp)
  | cons x others =>
    have hhead := (List.prefix_append_right_inj bytes).mp hprefix
    obtain rfl : x = b := (List.cons_prefix_cons.mp hhead).1
    exact hascii (by simp)

/-! ### Code pages -/

/-- The names of some encodings that have a byte for each character. -/
def codePages : List String := ["windows-1252", "windows-1251", "ISO-8859-15"]

/-- Each byte beyond ASCII stands for a character beyond ASCII, all of which come before the byte
order mark. -/
def HighBelowMark (page : CodePage) : Prop :=
  page.high.length = 128 ∧
    ∀ c? ∈ page.high, c?.any (fun c => 0x80 ≤ c.toNat && c.toNat < 0xF000) = true

instance (page : CodePage) : Decidable (HighBelowMark page) :=
  inferInstanceAs (Decidable (_ ∧ _))

/-- A page is checked by the characters of its text, which cost less to compute with. -/
theorem highBelowMark_ofText {cs : List Char} (h : HighBelowMark (.ofChars cs)) :
    HighBelowMark (.ofText (String.ofList cs)) := by
  rwa [CodePage.ofText, String.toList_ofList]

set_option maxRecDepth 4000 in
theorem highBelowMark_windows1252 : HighBelowMark .windows1252 :=
  highBelowMark_ofText (by decide +kernel)

set_option maxRecDepth 4000 in
theorem highBelowMark_windows1251 : HighBelowMark .windows1251 :=
  highBelowMark_ofText (by decide +kernel)

set_option maxRecDepth 4000 in
theorem highBelowMark_iso15 : HighBelowMark .iso15 :=
  highBelowMark_ofText (by decide +kernel)

/-- A code page has one of three tables for its bytes beyond ASCII. -/
theorem scheme_of_mem_codePages {e : Encoding} (he : e ∈ all) (hname : e.name ∈ codePages) :
    ∃ page, e.scheme = .singleByte page ∧ HighBelowMark page := by
  have hpages : (all.filter fun e => codePages.contains e.name).map (·.scheme)
      = [.singleByte .iso15, .singleByte .windows1251, .singleByte .windows1252] := by
    with_unfolding_all rfl
  have hmem : e.scheme ∈ (all.filter fun e => codePages.contains e.name).map (·.scheme) :=
    List.mem_map_of_mem (List.mem_filter.mpr ⟨he, List.contains_iff_mem.mpr hname⟩)
  rw [hpages] at hmem
  simp only [List.mem_cons, List.not_mem_nil, or_false] at hmem
  rcases hmem with h | h | h
  · exact ⟨.iso15, h, highBelowMark_iso15⟩
  · exact ⟨.windows1251, h, highBelowMark_windows1251⟩
  · exact ⟨.windows1252, h, highBelowMark_windows1252⟩

end SheetGrammar.Encoding
