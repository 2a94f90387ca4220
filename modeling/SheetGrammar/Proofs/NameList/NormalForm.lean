import SheetGrammar.Config.Entry
import SheetGrammar.Proofs.Except
import SheetGrammar.Proofs.NameList

/-!
# Lists of names in normal form

Whatever a text of names looks like, the names that are read from it are in normal form: none is
empty, and none has commas or blanks around it.  Reading goes part by part, so that it makes no
difference how names are spread over texts, and names that were read are read again as they are.

## Main definitions

* `IsName` — a name in normal form.

## Main results

* `NameList.isName_of_mem_parse` — names are read in normal form.
* `NameList.parse_append_comma`, `NameList.parse_join_eq_flatMap` — names are read part by part.
* `NameList.parse_join_parse` — names that were read are read again.
* `Entry.readNames_items` — a sequence has the names of its items.
* `NameList.parse_normal_form` — all of this together.
-/

namespace SheetGrammar

/-- A name in normal form. -/
structure IsName (name : String) : Prop where
  ne_empty : name ≠ ""
  comma_not_mem : ',' ∉ name.toList
  trimmed : Trimmed name.toList

theorem IsName.trim_eq {name : String} (h : IsName name) : trim name = name := by
  rw [trim, h.trimmed.trimBlanks_eq, String.ofList_toList]

/-- No part of a text that is split contains what it is split at. -/
theorem not_mem_of_mem_splitOn {α : Type} [BEq α] [LawfulBEq α] {x : α} {as part : List α}
    (h : part ∈ as.splitOn x) : x ∉ part := by
  induction as generalizing part with
  | nil =>
    obtain rfl : part = [] := by simpa using h
    exact List.not_mem_nil
  | cons a as ih =>
    rw [List.splitOn_cons_eq_if_modifyHead] at h
    split at h
    · rcases List.mem_cons.mp h with rfl | hpart
      · exact List.not_mem_nil
      · exact ih hpart
    · next hne =>
      obtain ⟨first, parts, hparts⟩ := List.exists_cons_of_ne_nil (List.splitOn_ne_nil x as)
      rw [hparts, List.modifyHead_cons] at h
      rcases List.mem_cons.mp h with rfl | hpart
      · -- the first part goes on with a character that is not split at
        have hfirst : x ∉ first := ih (hparts ▸ List.mem_cons_self)
        have hx : x ≠ a := fun hxa => hne (beq_iff_eq.mpr hxa.symm)
        exact List.not_mem_cons_of_ne_of_not_mem hx hfirst
      · exact ih (hparts ▸ List.mem_cons_of_mem first hpart)

namespace NameList

/-! ### Names that are read -/

theorem isName_of_mem_parse {text name : String} (h : name ∈ parse text) : IsName name := by
  obtain ⟨hmem, hne⟩ := List.mem_filter.mp h
  obtain ⟨part, hpart, rfl⟩ := List.mem_map.mp hmem
  refine ⟨of_decide_eq_true hne, ?_, ?_⟩
  · rw [String.toList_ofList]
    exact fun hcomma => not_mem_of_mem_splitOn hpart (mem_of_mem_trimBlanks hcomma)
  · rw [String.toList_ofList]
    exact trimmed_trimBlanks part

/-- Names in normal form are read as they are. -/
theorem parse_join_of_isName {names : List String} (h : ∀ name ∈ names, IsName name) :
    parse (join names) = names := by
  have htrim : names.map trim = names :=
    (List.map_congr_left fun name hname => (h name hname).trim_eq).trans names.map_id
  rw [parse_join fun name hname => (h name hname).comma_not_mem, htrim]
  exact List.filter_eq_self.mpr fun name hname => decide_eq_true (h name hname).ne_empty

/-- Names that were read are read again as they are. -/
theorem parse_join_parse (text : String) : parse (join (parse text)) = parse text :=
  parse_join_of_isName fun _ => isName_of_mem_parse

/-! ### Texts in several parts -/

@[simp] theorem parse_empty : parse "" = [] := by decide

/-- A comma ends a name, so that nothing behind it changes what stands before it. -/
theorem parse_append_comma (s t : String) : parse (s ++ "," ++ t) = parse s ++ parse t := by
  have htext : (s ++ "," ++ t).toList = s.toList ++ ',' :: t.toList := by
    rw [String.toList_append, String.toList_append, List.append_assoc]
    rfl
  rw [parse, htext, List.splitOn_append_cons_self, List.map_append, List.filter_append]
  rfl

/-- The names in a text that joins some texts are those of one after the other. -/
theorem parse_join_eq_flatMap (texts : List String) :
    parse (join texts) = texts.flatMap parse := by
  induction texts with
  | nil => exact parse_empty
  | cons text texts ih =>
    cases texts with
    | nil => simp [join, String.intercalate_singleton]
    | cons next rest =>
      have hjoin : join (text :: next :: rest) = text ++ "," ++ join (next :: rest) :=
        String.intercalate_cons_cons
      rw [hjoin, parse_append_comma, ih]
      rfl

end NameList

namespace Entry

open Yaml (Node)

/-! ### Sequences -/

/-- A name that stands alone is a text of names. -/
theorem readNames_of_name? {item : Node} {text : String} (h : name? item = some text) :
    readNames item = .ok (NameList.parse text) := by
  have hitems : untaggedItems? item = none := by
    cases item with
    | sequence tag items closed => cases h
    | _ => rfl
  rw [readNames, hitems, h]
  rfl

theorem exists_name?_iff {item : Node} {names : List String} :
    ((name? item).isSome ∧ readNames item = .ok names) ↔
      ∃ text, name? item = some text ∧ NameList.parse text = names := by
  rw [Option.isSome_iff_exists]
  constructor
  · rintro ⟨⟨text, htext⟩, hnames⟩
    exact ⟨text, htext, Except.ok.inj ((readNames_of_name? htext).symm.trans hnames)⟩
  · rintro ⟨text, htext, rfl⟩
    exact ⟨⟨text, htext⟩, readNames_of_name? htext⟩

/-- A sequence is read if each item is a name, and has the names that are read from its items one
by one. -/
theorem readNames_items {n : Node} {items : List Node} (h : untaggedItems? n = some items)
    {names : List String} :
    readNames n = .ok names ↔
      ∃ lists, List.Forall₂ (fun item list => (name? item).isSome ∧ readNames item = .ok list)
        items lists ∧ lists.flatten = names := by
  have hread : readNames n = .ok names ↔
      ∃ texts, items.mapM name? = some texts ∧ (texts.map NameList.parse).flatten = names := by
    rw [readNames, h]
    cases hitems : items.mapM name? with
    | none => simp [hitems, Structured.orFail]
    | some texts =>
      simp [hitems, Structured.orFail, NameList.parse_join_eq_flatMap, List.flatMap_def]
  simp only [hread, exists_name?_iff, List.forall₂_comp_iff, List.mapM_eq_some_iff]
  constructor
  · rintro ⟨texts, htexts, hnames⟩
    have hlists := List.forall₂_map_right_iff.mpr
      (List.forall₂_same.mpr fun text (_ : text ∈ texts) => Eq.refl (NameList.parse text))
    exact ⟨_, ⟨texts, htexts, hlists⟩, hnames⟩
  · rintro ⟨lists, ⟨texts, htexts, hlists⟩, hnames⟩
    have heq : texts.map NameList.parse = lists := by
      rwa [← List.forall₂_eq_eq_eq, List.forall₂_map_left_iff]
    exact ⟨texts, htexts, heq ▸ hnames⟩

end Entry

/-! ### All laws -/

namespace NameList

/-- **Lists of names have a normal form.** The names that are read from a text are in normal form.
Of two texts with a comma between them those of the first are read, then those of the second.
Names that were read are read again as they are.  A sequence has the names that are read from its
items one by one, and is refused if and only if some item is no name. -/
theorem parse_normal_form (s t : String) :
    (∀ name ∈ parse s, IsName name) ∧
    parse (s ++ "," ++ t) = parse s ++ parse t ∧
    parse (join (parse s)) = parse s ∧
    (∀ n items, Entry.untaggedItems? n = some items →
      ∀ names, Entry.readNames n = .ok names ↔
        ∃ lists, List.Forall₂ (fun item list =>
          (Entry.name? item).isSome ∧ Entry.readNames item = .ok list) items lists ∧
          lists.flatten = names) :=
  ⟨fun _ => isName_of_mem_parse, parse_append_comma s t, parse_join_parse s,
    fun _ _ h _ => Entry.readNames_items h⟩

/-- Two names in a text, then a text without any, and one name. -/
def threeTexts : Yaml.Node :=
  .sequence none
    [.scalar none .plain "item,  sub item", .scalar none .singleQuoted " , ",
      .scalar none .plain "note"] true

/-- Blanks inside a name belong to it, those around it do not. -/
theorem parse_normal_form_items :
    IsName "sub item" ∧
      parse (" item ,,\t sub item\u00a0," ++ "," ++ "note") = ["item", "sub item", "note"] ∧
      parse (join ["item", "sub item"]) = ["item", "sub item"] ∧
      Entry.readNames threeTexts = .ok ["item", "sub item", "note"] := by
  obtain ⟨hnames, happend, hagain, hitems⟩ :=
    parse_normal_form " item ,,\t sub item\u00a0," "note"
  have hparse : parse " item ,,\t sub item\u00a0," = ["item", "sub item"] := by decide +kernel
  rw [hparse] at hnames happend hagain
  refine ⟨hnames "sub item" (by simp), happend.trans (by decide +kernel), hagain, ?_⟩
  refine (hitems threeTexts _ rfl _).mpr ⟨[["item", "sub item"], [], ["note"]], ?_, rfl⟩
  refine .cons ⟨?_, ?_⟩ (.cons ⟨?_, ?_⟩ (.cons ⟨?_, ?_⟩ .nil)) <;> decide +kernel

end NameList

end SheetGrammar
