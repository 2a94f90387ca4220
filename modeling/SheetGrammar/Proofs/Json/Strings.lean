import SheetGrammar.Json.Text

/-!
# Strings of JSON texts come back

Every string, whatever characters it holds, is read back from its quoted text, up to and
with the closing quote.

## Main results

* `Json.readStringFrom?_escapeChar` — an escaped character is read as that character.
* `Json.readString?_escapeText` — a quoted string is read as that string.
-/

namespace SheetGrammar

/-- Four digits, of which the first two are zeros, stand for the control characters. -/
theorem Json.hexWord?_control :
    ∀ n < 32, hexWord? '0' '0' (hexDigit (n / 16)) (hexDigit (n % 16)) = some n := by
  decide

namespace Json

/-- A string that is being read and in which no surrogate waits or stood alone. -/
def Partial.ofChars (chars : List Char) : Partial := ⟨chars, none, true⟩

@[simp] theorem Partial.push_ofChars (chars : List Char) (c : Char) :
    (Partial.ofChars chars).push c = .ofChars (c :: chars) := rfl

@[simp] theorem Partial.text?_ofChars (chars : List Char) :
    (Partial.ofChars chars).text? = some (String.ofList chars.reverse) := rfl

/-- A number that is no surrogate is read as a character. -/
theorem Partial.pushUnit_of_lt {n : Nat} (h : n < 32) (p : Partial) :
    p.pushUnit n = p.push (Char.ofNat n) := by
  rw [pushUnit, if_neg (by omega), if_neg (by omega)]

/-! ### Characters -/

theorem readStringFrom?_simple {c e : Char} (hc : c ≠ 'u') (he : simpleEscape? c = some e)
    (p : Partial) (cs : List Char) :
    readStringFrom? p ('\\' :: c :: cs) = readStringFrom? (p.push e) cs := by
  rw [readStringFrom?]
  · rw [he]
  · intro a b c' d cs' h _
    exact hc h

theorem readStringFrom?_plain {c : Char} (hquote : c ≠ '"') (hslash : c ≠ '\\')
    (hcontrol : ¬ c.toNat < 0x20) (p : Partial) (cs : List Char) :
    readStringFrom? p (c :: cs) = readStringFrom? (p.push c) cs := by
  rw [readStringFrom?]
  · rw [if_neg (by simp [hslash, hcontrol])]
  · exact hquote
  · intro a b c' d cs' h _
    exact hslash h
  · intro c' cs' h _
    exact hslash h

/-- An escaped character is read as that character. -/
theorem readStringFrom?_escapeChar (c : Char) (p : Partial) (cs : List Char) :
    readStringFrom? p (escapeChar c ++ cs) = readStringFrom? (p.push c) cs := by
  unfold escapeChar
  split
  · next h => subst h; exact readStringFrom?_simple (by decide) (by decide) p cs
  split
  · next h => subst h; exact readStringFrom?_simple (by decide) (by decide) p cs
  split
  · next h => subst h; exact readStringFrom?_simple (by decide) (by decide) p cs
  split
  · next h => subst h; exact readStringFrom?_simple (by decide) (by decide) p cs
  split
  · next h => subst h; exact readStringFrom?_simple (by decide) (by decide) p cs
  split
  · next h => subst h; exact readStringFrom?_simple (by decide) (by decide) p cs
  split
  · next h => subst h; exact readStringFrom?_simple (by decide) (by decide) p cs
  split
  · next h =>
    simp only [List.cons_append, List.nil_append]
    rw [readStringFrom?, hexWord?_control c.toNat h]
    simp only
    rw [Partial.pushUnit_of_lt h, Char.ofNat_toNat]
  · next hquote hslash _ _ _ _ _ hcontrol =>
    exact readStringFrom?_plain hquote hslash hcontrol p cs

/-! ### Strings -/

theorem readStringFrom?_escapeText (cs chars rest : List Char) :
    readStringFrom? (.ofChars chars) (escapeText cs ++ '"' :: rest)
      = some (some (String.ofList (chars.reverse ++ cs)), rest) := by
  induction cs generalizing chars with
  | nil => simp [escapeText, readStringFrom?]
  | cons c cs ih =>
    have hcs : escapeText (c :: cs) = escapeChar c ++ escapeText cs := rfl
    rw [hcs, List.append_assoc, readStringFrom?_escapeChar, Partial.push_ofChars, ih]
    simp

theorem readString?_escapeText (s : String) (rest : List Char) :
    readString? (escapeText s.toList ++ '"' :: rest) = some (some s, rest) := by
  have h := readStringFrom?_escapeText s.toList [] rest
  rwa [List.reverse_nil, List.nil_append, String.ofList_toList] at h

end Json

end SheetGrammar
