import SheetGrammar.Json.Printer
import SheetGrammar.Json.Reader
import SheetGrammar.Proofs.Json.Numbers
import SheetGrammar.Proofs.Json.Strings

/-!
# Values of JSON texts come back

A value without faults, whose numbers can be read and which is not nested too deep, is
read back from its text.  Around the text of each value stand line breaks, commas and
brackets only, and none of them goes on with a number.

## Main definitions

* `Json.Printable` — a value that a text can stand for.
* `Json.depth` — how deep arrays and objects are nested.
* `Json.ReadsIn` — a value that is read from its lines.

## Main results

* `Json.readsIn_of_printable` — a value is read from its lines, at any level.
* `Json.ofText_pretty` — a value is read back from its text.
-/

namespace SheetGrammar.Json

mutual

/-- A value without fault, whose integers have at most 64 bits and whose floats are read
back from their texts. -/
def Printable : Json → Prop
  | null => True
  | bool _ => True
  | integer n => -(wordSize 63 : Int) ≤ n ∧ n < wordSize 64
  | float x => ReadsBack x
  | string _ => True
  | array items closed => closed = true ∧ AllPrintable items
  | object members closed => closed = true ∧ AllPrintableMembers members
  | unreadable => False
  | broken => False

/-- Every value of a list is of this kind. -/
def AllPrintable : List Json → Prop
  | [] => True
  | j :: js => Printable j ∧ AllPrintable js

/-- Every member's value is of this kind. -/
def AllPrintableMembers : List (String × Json) → Prop
  | [] => True
  | (_, j) :: ms => Printable j ∧ AllPrintableMembers ms

end

mutual

/-- How deep arrays and objects are nested in a value. -/
def depth : Json → Nat
  | array items _ => depthItems items + 1
  | object members _ => depthMembers members + 1
  | _ => 0

/-- How deep they are nested in some values. -/
def depthItems : List Json → Nat
  | [] => 0
  | j :: js => max (depth j) (depthItems js)

/-- How deep they are nested in the values of some members. -/
def depthMembers : List (String × Json) → Nat
  | [] => 0
  | (_, j) :: ms => max (depth j) (depthMembers ms)

end

theorem depthItems_le_iff {js : List Json} {n : Nat} :
    depthItems js ≤ n ↔ ∀ j ∈ js, j.depth ≤ n := by
  induction js with
  | nil => simp [depthItems]
  | cons j js ih => rw [depthItems, Nat.max_le, ih, List.forall_mem_cons]

theorem depthMembers_le_iff {ms : List (String × Json)} {n : Nat} :
    depthMembers ms ≤ n ↔ ∀ m ∈ ms, m.2.depth ≤ n := by
  induction ms with
  | nil => simp [depthMembers]
  | cons m ms ih => rw [depthMembers, Nat.max_le, ih, List.forall_mem_cons]

/-- Inside an array there is one level less. -/
theorem depth_items {items : List Json} {closed : Bool} {n : Nat}
    (h : (array items closed).depth ≤ n) : ∃ k, n = k + 1 ∧ ∀ j ∈ items, j.depth ≤ k := by
  obtain ⟨k, rfl⟩ := Nat.exists_eq_add_one_of_ne_zero (Nat.ne_zero_of_lt h)
  exact ⟨k, rfl, depthItems_le_iff.mp (Nat.le_of_succ_le_succ h)⟩

/-- Inside an object there is one level less. -/
theorem depth_members {members : List (String × Json)} {closed : Bool} {n : Nat}
    (h : (object members closed).depth ≤ n) : ∃ k, n = k + 1 ∧ ∀ m ∈ members, m.2.depth ≤ k := by
  obtain ⟨k, rfl⟩ := Nat.exists_eq_add_one_of_ne_zero (Nat.ne_zero_of_lt h)
  exact ⟨k, rfl, depthMembers_le_iff.mp (Nat.le_of_succ_le_succ h)⟩

/-! ### Space between the parts -/

theorem skipSpace_newLine (level : Nat) (cs : List Char) :
    skipSpace (newLine level ++ cs) = skipSpace cs := by
  have h : ∀ n, skipSpace (List.replicate n ' ' ++ cs) = skipSpace cs := by
    intro n
    induction n with
    | zero => rfl
    | succ n ih => exact ih
  exact h (2 * level)

theorem skipSpace_cons {c : Char} (h : isSpace c = false) (cs : List Char) :
    skipSpace (c :: cs) = c :: cs := by
  rw [skipSpace, List.dropWhile_cons, if_neg (by simp [h])]

theorem endsNumber_newLine (level : Nat) (cs : List Char) : EndsNumber (newLine level ++ cs) :=
  endsNumber_cons.mpr (by decide)

theorem endsNumber_comma (cs : List Char) : EndsNumber (',' :: cs) :=
  endsNumber_cons.mpr (by decide)

theorem readValue_of_skipSpace_eq {cs ds : List Char} (h : skipSpace cs = skipSpace ds)
    (d : Nat) : readValue d cs = readValue d ds := by
  cases d <;> rw [readValue, readValue, h]

theorem readValue_newLine (d level : Nat) (cs : List Char) :
    readValue d (newLine level ++ cs) = readValue d cs :=
  readValue_of_skipSpace_eq (skipSpace_newLine level cs) d

/-! ### Values without parts -/

theorem readValue_scalar {c : Char} (hspace : isSpace c = false) (harray : c ≠ '[')
    (hobject : c ≠ '\x7b') (d : Nat) (cs : List Char) :
    readValue d (c :: cs) = readScalar (c :: cs) := by
  cases d with
  | zero =>
    rw [readValue, skipSpace_cons hspace]
    split
    · next heq => exact absurd (List.cons.inj heq).1 harray
    · next heq => exact absurd (List.cons.inj heq).1 hobject
    · rfl
  | succ d =>
    rw [readValue, skipSpace_cons hspace]
    split
    · next heq => exact absurd (List.cons.inj heq).1 harray
    · next heq => exact absurd (List.cons.inj heq).1 hobject
    · rfl

/-- A number is read where a value is expected. -/
theorem readValue_number {cs rest : List Char} {j : Json} (h : readNumber? cs = some (j, []))
    (hrest : EndsNumber rest) (d : Nat) : readValue d (cs ++ rest) = (j, some rest) := by
  have hread := readNumber?_append h hrest
  obtain ⟨c, ds, rfl, hc⟩ := head_of_readNumber? h
  -- no other kind of value starts as a number does
  have hne : ∀ e : Char, e ≠ '-' → e.isDigit = false → c ≠ e := by
    rintro e hminus hdigit rfl
    rcases hc with hc | hc
    · exact hminus hc
    · exact Bool.false_ne_true (hdigit.symm.trans hc)
  rw [List.cons_append] at hread ⊢
  rw [readValue_scalar (by simp [isSpace, hne]) (hne _ (by decide) (by decide))
    (hne _ (by decide) (by decide)), readScalar]
  · rw [hread]
  all_goals
    intro cs' heq
    exact hne _ (by decide) (by decide) (List.cons.inj heq).1

theorem readValue_string (s : String) (rest : List Char) (d : Nat) :
    readValue d (quoteText s ++ rest) = (string s, some rest) := by
  rw [quoteText, List.cons_append, List.append_assoc,
    readValue_scalar (by decide) (by decide) (by decide), readScalar]
  simp only [List.cons_append, List.nil_append]
  rw [readString?_escapeText]

/-- The text of a value starts with a character that is no space and no closing bracket. -/
theorem head_render {j : Json} (h : j.Printable) (level : Nat) :
    ∃ c cs, render level j = c :: cs ∧ isSpace c = false ∧ c ≠ ']' := by
  have hnumber : ∀ {cs : List Char} {r}, readNumber? cs = some r →
      ∃ c ds, cs = c :: ds ∧ isSpace c = false ∧ c ≠ ']' := by
    intro cs r hr
    obtain ⟨c, ds, rfl, hc⟩ := head_of_readNumber? hr
    refine ⟨c, ds, rfl, ?_⟩
    rcases hc with rfl | hdigit
    · decide
    · constructor
      · by_contra hspace
        simp only [isSpace, Bool.not_eq_false, Bool.or_eq_true, decide_eq_true_eq] at hspace
        rcases hspace with ((rfl | rfl) | rfl) | rfl <;> exact absurd hdigit (by decide)
      · rintro rfl
        exact absurd hdigit (by decide)
  cases j with
  | null => exact ⟨_, _, rfl, by decide⟩
  | bool b => cases b <;> exact ⟨_, _, rfl, by decide⟩
  | integer n => exact hnumber (readNumber?_toString h.1 h.2)
  | float x => exact hnumber h
  | string s => exact ⟨_, _, rfl, by decide⟩
  | array items closed =>
    cases items <;> exact ⟨_, _, rfl, by decide⟩
  | object members closed =>
    cases members with
    | nil => exact ⟨_, _, rfl, by decide⟩
    | cons m members => exact ⟨_, _, rfl, by decide⟩
  | unreadable => exact h.elim
  | broken => exact h.elim

/-! ### Items and members -/

/-- No more lines than characters between the first and the last of them. -/
theorem length_le_length_intercalate (c : Char) (sep : List Char) (lines : List (List Char)) :
    lines.length ≤ ((c :: sep).intercalate lines).length + 1 := by
  induction lines with
  | nil => exact Nat.zero_le _
  | cons line lines ih =>
    cases lines with
    | nil => exact Nat.le_add_left 1 _
    | cons line' lines =>
      rw [List.intercalate_cons_cons]
      simp only [List.length_append, List.length_cons] at ih ⊢
      omega

/-- A value is read from its lines, whatever follows. -/
def ReadsIn (d level : Nat) (j : Json) : Prop :=
  ∀ rest, EndsNumber rest → readValue d (render level j ++ rest) = (j, some rest)

variable {d level : Nat}

theorem readItems_newLine (n fuel : Nat) (cs : List Char) :
    readItems (readValue d) fuel (newLine n ++ cs) = readItems (readValue d) fuel cs := by
  cases fuel with
  | zero => rfl
  | succ fuel => rw [readItems, readItems, readValue_newLine]

/-- Items are read up to the closing bracket, if each of them is read. -/
theorem readItems_renderItems {j : Json} {js : List Json} {fuel : Nat} (hfuel : js.length < fuel)
    (h : ∀ k ∈ j :: js, ReadsIn d level k) (outer : Nat) (rest : List Char) :
    readItems (readValue d) fuel
        ((',' :: newLine level).intercalate (renderItems level (j :: js))
          ++ (newLine outer ++ ']' :: rest))
      = (j :: js, true, some rest) := by
  induction js generalizing j fuel with
  | nil =>
    obtain ⟨fuel, rfl⟩ := Nat.exists_eq_add_one_of_ne_zero (Nat.pos_iff_ne_zero.mp hfuel)
    have hj := h j (List.mem_cons_self) _ (endsNumber_newLine outer (']' :: rest))
    rw [renderItems, renderItems, List.intercalate_singleton, readItems, hj]
    simp only [skipSpace_newLine, skipSpace_cons (c := ']') rfl]
  | cons k js ih =>
    obtain ⟨fuel, rfl⟩ := Nat.exists_eq_add_one_of_ne_zero (Nat.ne_zero_of_lt hfuel)
    -- behind the comma the reader goes on with the next line
    have hjs := ih (Nat.lt_of_succ_lt_succ hfuel) fun l hl => h l (List.mem_cons_of_mem j hl)
    rw [renderItems] at hjs ⊢
    rw [renderItems, List.intercalate_cons_cons, List.append_assoc, List.append_assoc,
      List.cons_append, readItems,
      h j List.mem_cons_self _ (endsNumber_comma _)]
    simp only [skipSpace_cons (c := ',') rfl, readItems_newLine, hjs]

theorem readMembers_newLine (n fuel : Nat) (cs : List Char) :
    readMembers (readValue d) fuel (newLine n ++ cs) = readMembers (readValue d) fuel cs := by
  cases fuel with
  | zero => rfl
  | succ fuel => rw [readMembers, readMembers, skipSpace_newLine]

theorem ReadsIn.behind_blank {j : Json} {rest : List Char} (h : ReadsIn d level j)
    (hrest : EndsNumber rest) : readValue d (' ' :: (render level j ++ rest)) = (j, some rest) := by
  have hblank : skipSpace (' ' :: (render level j ++ rest)) = skipSpace (render level j ++ rest) :=
    rfl
  rw [readValue_of_skipSpace_eq hblank, h rest hrest]

/-- The last member is read up to the closing brace. -/
theorem readMembers_last {name : String} {j : Json} {rest behind : List Char}
    (h : ReadsIn d level j) (fuel : Nat) (hrest : EndsNumber rest)
    (hbrace : skipSpace rest = '\x7d' :: behind) :
    readMembers (readValue d) (fuel + 1) (quoteText name ++ ':' :: ' ' :: render level j ++ rest)
      = ([(name, j)], true, some behind) := by
  rw [quoteText, readMembers]
  simp only [List.cons_append, List.append_assoc, List.nil_append, skipSpace_cons (c := '"') rfl,
    readString?_escapeText, skipSpace_cons (c := ':') rfl, h.behind_blank hrest, hbrace]

/-- Behind any other member the reader goes on after the comma. -/
theorem readMembers_next {name : String} {j : Json} {rest behind : List Char}
    {ms : List (String × Json)} {r : Bool × Rest} {fuel : Nat} (h : ReadsIn d level j)
    (hrest : EndsNumber rest) (hcomma : skipSpace rest = ',' :: behind)
    (hms : readMembers (readValue d) fuel behind = (ms, r)) :
    readMembers (readValue d) (fuel + 1) (quoteText name ++ ':' :: ' ' :: render level j ++ rest)
      = ((name, j) :: ms, r) := by
  rw [quoteText, readMembers]
  simp only [List.cons_append, List.append_assoc, List.nil_append, skipSpace_cons (c := '"') rfl,
    readString?_escapeText, skipSpace_cons (c := ':') rfl, h.behind_blank hrest, hcomma, hms]

/-- Members are read up to the closing brace, if each of their values is read. -/
theorem readMembers_renderMembers {m : String × Json} {ms : List (String × Json)} {fuel : Nat}
    (hfuel : ms.length < fuel) (h : ∀ k ∈ m :: ms, ReadsIn d level k.2) (outer : Nat)
    (rest : List Char) :
    readMembers (readValue d) fuel
        ((',' :: newLine level).intercalate (renderMembers level (m :: ms))
          ++ (newLine outer ++ '\x7d' :: rest))
      = (m :: ms, true, some rest) := by
  induction ms generalizing m fuel with
  | nil =>
    obtain ⟨fuel, rfl⟩ := Nat.exists_eq_add_one_of_ne_zero (Nat.pos_iff_ne_zero.mp hfuel)
    rw [renderMembers, renderMembers, List.intercalate_singleton]
    refine readMembers_last (h m List.mem_cons_self) fuel (endsNumber_newLine outer _) ?_
    rw [skipSpace_newLine, skipSpace_cons rfl]
  | cons k ms ih =>
    obtain ⟨fuel, rfl⟩ := Nat.exists_eq_add_one_of_ne_zero (Nat.ne_zero_of_lt hfuel)
    have hms := ih (Nat.lt_of_succ_lt_succ hfuel) fun l hl => h l (List.mem_cons_of_mem m hl)
    rw [renderMembers] at hms ⊢
    rw [renderMembers, List.intercalate_cons_cons, List.append_assoc, List.append_assoc]
    refine readMembers_next (h m List.mem_cons_self) (endsNumber_comma _) (skipSpace_cons rfl _) ?_
    exact (readMembers_newLine level fuel _).trans hms

/-! ### Values -/

theorem length_renderItems (level : Nat) (js : List Json) :
    (renderItems level js).length = js.length := by
  induction js with
  | nil => rfl
  | cons j js ih => rw [renderItems, List.length_cons, List.length_cons, ih]

theorem length_renderMembers (level : Nat) (ms : List (String × Json)) :
    (renderMembers level ms).length = ms.length := by
  induction ms with
  | nil => rfl
  | cons m ms ih => rw [renderMembers, List.length_cons, List.length_cons, ih]

/-- Lines start as the first of them does. -/
theorem exists_intercalate_eq_cons {c : Char} {line cs : List Char} (h : line = c :: cs)
    (sep rest : List Char) (lines : List (List Char)) :
    ∃ ds, sep.intercalate (line :: lines) ++ rest = c :: ds := by
  subst h
  cases lines with
  | nil => exact ⟨_, rfl⟩
  | cons line' lines =>
    rw [List.intercalate_cons_cons]
    exact ⟨_, rfl⟩

theorem readsIn_array {items : List Json} (hitems : AllPrintable items)
    (h : ∀ k ∈ items, ReadsIn d (level + 1) k) : ReadsIn (d + 1) level (array items true) := by
  intro rest _
  cases items with
  | nil => rfl
  | cons j js =>
    obtain ⟨c, cs, hc, hspace, hbracket⟩ := head_render hitems.1 (level + 1)
    obtain ⟨ds, hds⟩ := exists_intercalate_eq_cons hc (',' :: newLine (level + 1))
      (newLine level ++ ']' :: rest) (renderItems (level + 1) js)
    -- the reader may take as many items as there are characters, and each line has one
    have hfuel : js.length < (c :: ds).length + 1 := by
      have hlines := length_le_length_intercalate ',' (newLine (level + 1))
        (renderItems (level + 1) (j :: js))
      rw [length_renderItems, List.length_cons, renderItems] at hlines
      rw [← hds, List.length_append]
      omega
    have hread := readItems_renderItems hfuel h level rest
    rw [renderItems, hds] at hread
    have htext : render level (array (j :: js) true) ++ rest
        = '[' :: (newLine (level + 1) ++ c :: ds) := by
      rw [← hds]
      simp only [render, renderItems, block, List.cons_append, List.append_assoc, List.nil_append]
    rw [htext, readValue]
    simp only [skipSpace_cons (c := '[') rfl, skipSpace_newLine, skipSpace_cons hspace]
    split
    · next heq => exact absurd (List.cons.inj heq).1 hbracket
    · rw [hread]

theorem readsIn_object {members : List (String × Json)}
    (h : ∀ m ∈ members, ReadsIn d (level + 1) m.2) :
    ReadsIn (d + 1) level (object members true) := by
  intro rest _
  cases members with
  | nil => rfl
  | cons m ms =>
    have hline : quoteText m.1 ++ ':' :: ' ' :: render (level + 1) m.2 = '"' ::
        (escapeText m.1.toList ++ ['"'] ++ ':' :: ' ' :: render (level + 1) m.2) := rfl
    obtain ⟨ds, hds⟩ := exists_intercalate_eq_cons hline (',' :: newLine (level + 1))
      (newLine level ++ '\x7d' :: rest) (renderMembers (level + 1) ms)
    have hfuel : ms.length < ('"' :: ds).length + 1 := by
      have hlines := length_le_length_intercalate ',' (newLine (level + 1))
        (renderMembers (level + 1) (m :: ms))
      rw [length_renderMembers, List.length_cons, renderMembers] at hlines
      rw [← hds, List.length_append]
      omega
    have hread := readMembers_renderMembers hfuel h level rest
    rw [renderMembers, hds] at hread
    have htext : render level (object (m :: ms) true) ++ rest
        = '\x7b' :: (newLine (level + 1) ++ '"' :: ds) := by
      rw [← hds]
      simp only [render, renderMembers, block, List.cons_append, List.append_assoc,
        List.nil_append]
    rw [htext, readValue]
    simp only [skipSpace_cons (c := '\x7b') rfl, skipSpace_newLine, skipSpace_cons (c := '"') rfl]
    split
    · next heq => exact absurd (List.cons.inj heq).1 (by decide)
    · rw [hread]

mutual

/-- A value that is not nested too deep is read from its lines. -/
theorem readsIn_of_printable :
    ∀ (j : Json), j.Printable → ∀ {d} (level), j.depth ≤ d → ReadsIn d level j
  | null, _, d, _, _ => fun _ _ => readValue_scalar rfl (by decide) (by decide) d _
  | bool true, _, d, _, _ => fun _ _ => readValue_scalar rfl (by decide) (by decide) d _
  | bool false, _, d, _, _ => fun _ _ => readValue_scalar rfl (by decide) (by decide) d _
  | integer _, h, d, _, _ => fun _ hrest => readValue_number (readNumber?_toString h.1 h.2) hrest d
  | float _, h, d, _, _ => fun _ hrest => readValue_number h hrest d
  | string s, _, d, _, _ => fun rest _ => readValue_string s rest d
  | array items true, h, _, level, hd => by
    obtain ⟨d, rfl, hitems⟩ := depth_items hd
    exact readsIn_array h.2 (readsIn_of_allPrintable items h.2 (level + 1) hitems)
  | object members true, h, _, level, hd => by
    obtain ⟨d, rfl, hmembers⟩ := depth_members hd
    exact readsIn_object (readsIn_of_allPrintableMembers members h.2 (level + 1) hmembers)

theorem readsIn_of_allPrintable :
    ∀ (js : List Json), AllPrintable js → ∀ {d} (level), (∀ j ∈ js, j.depth ≤ d) →
      ∀ j ∈ js, ReadsIn d level j
  | [], _, _, _, _ => by simp
  | j :: js, h, d, level, hd => by
    rw [List.forall_mem_cons] at hd ⊢
    exact ⟨readsIn_of_printable j h.1 level hd.1, readsIn_of_allPrintable js h.2 level hd.2⟩

theorem readsIn_of_allPrintableMembers :
    ∀ (ms : List (String × Json)), AllPrintableMembers ms → ∀ {d} (level),
      (∀ m ∈ ms, m.2.depth ≤ d) → ∀ m ∈ ms, ReadsIn d level m.2
  | [], _, _, _, _ => by simp
  | (name, j) :: ms, h, d, level, hd => by
    rw [List.forall_mem_cons] at hd ⊢
    exact ⟨readsIn_of_printable j h.1 level hd.1,
      readsIn_of_allPrintableMembers ms h.2 level hd.2⟩

end

/-- A value is read back from its text, behind which nothing stands. -/
theorem ofText_pretty {j : Json} (h : j.Printable) (hd : j.depth ≤ maxDepth) :
    ofText j.pretty = (j, true) := by
  have hend : EndsNumber ['\n'] := endsNumber_cons.mpr (by decide)
  rw [ofText, pretty, String.toList_ofList, readsIn_of_printable j h 0 hd ['\n'] hend]
  rfl

end SheetGrammar.Json
