import Mathlib.Data.List.Pairwise
import Mathlib.Data.List.Perm.Basic
import Mathlib.Logic.Relation
import SheetGrammar.Proofs.Config.Filling
import SheetGrammar.Proofs.NameList
import SheetGrammar.Proofs.Structured

/-!
# Spellings of configurations

The same configuration can be written in several ways: the keys of an entry stand in any order
and have several names, there may be blanks around names, and a list of names may be one text.
A form says, for a part of a configuration, which ways to write it are the same, and which are
refused because of a key.  Forms of entries are put together from the forms of their fields.

## Main definitions

* `Form`, `Spelling` — the forms of parts, and the names and the form of a field.
* `Form.fixed`, `Form.name`, `Form.names`, `Form.list`, `Form.entry` — the forms.
* `Form.Governs` — a form tells what a reader makes of other spellings.

## Main results

* `Form.governs_name`, `Form.governs_names`, `Form.governs_list` — the forms of texts and lists.
* `Form.governs_entry` — the form of an entry governs its reader if the forms of the fields do.
-/

namespace SheetGrammar

open Structured (Reading Field readText readList)
open Yaml (Node)

/-! ### Forms -/

/-- How a part of a configuration may be written. -/
structure Form where
  /-- Two ways to write the same. -/
  Respelled : Node → Node → Prop
  /-- Some key in it is not accepted, or names a field again. -/
  Miskeyed : Node → Prop
  refl : ∀ n, Respelled n n

/-- The names and the form of a field. -/
structure Spelling where
  name : String
  aliases : List String
  form : Form

namespace Spelling

/-- All names of a field. -/
def keys (sp : Spelling) : List String := sp.name :: sp.aliases

/-- A key that names a field. -/
def Names (sp : Spelling) (k : Node) : Prop := ∃ key ∈ sp.keys, k.text? = some key

end Spelling

namespace Form

/-- A part that can be written in one way only. -/
def fixed : Form := ⟨Eq, fun _ => False, fun _ => rfl⟩

/-- Names with other blanks around them. -/
inductive NameRespelled : Node → Node → Prop
  | refl (n : Node) : NameRespelled n n
  | blanks {name text text' : String} {tag tag' : Option String} {style style' : Yaml.Style}
      (h : Spaced name text) (h' : Spaced name text') :
      NameRespelled (.scalar tag style text) (.scalar tag' style' text')

/-- The name of a type of rows or of a rule. -/
def name : Form := ⟨NameRespelled, fun _ => False, .refl⟩

/-- A scalar that means a string. -/
inductive IsString (text : String) : Node → Prop
  | scalar {tag : Option String} {style : Yaml.Style} (htag : Yaml.localTag? tag = none)
      (hmeaning : Yaml.meaningOfScalar? tag style text = some .string) :
      IsString text (.scalar tag style text)

/-- A list of names, written as a sequence or as one text with commas, with blanks around
the names. -/
inductive Lists (names : List String) : Node → Prop
  | items {tag : Option String} {items : List Node} (htag : Yaml.localTag? tag = none)
      (h : List.Forall₂ (fun name item => ∃ text, Spaced name text ∧ IsString text item)
        names items) : Lists names (.sequence tag items true)
  | joined {texts : List String} {n : Node} (h : List.Forall₂ Spaced names texts)
      (hn : IsString (NameList.join texts) n) : Lists names n

/-- Lists of the same names, which have no commas. -/
inductive NamesRespelled : Node → Node → Prop
  | refl (n : Node) : NamesRespelled n n
  | lists {names : List String} {n n' : Node} (hcomma : ∀ name ∈ names, ',' ∉ name.toList)
      (h : Lists names n) (h' : Lists names n') : NamesRespelled n n'

/-- A list of names. -/
def names : Form := ⟨NamesRespelled, fun _ => False, .refl⟩

/-- The items of a list are respelled one by one. -/
inductive ListRespelled (R : Node → Node → Prop) : Node → Node → Prop
  | refl (n : Node) : ListRespelled R n n
  | items {tag : Option String} {items items' : List Node} {closed : Bool}
      (h : List.Forall₂ R items items') :
      ListRespelled R (.sequence tag items closed) (.sequence tag items' closed)

/-- Some item of a list is refused. -/
inductive ListMiskeyed (M : Node → Prop) : Node → Prop
  | item {tag : Option String} {items : List Node} {closed : Bool} {item : Node}
      (hitem : item ∈ items) (h : M item) : ListMiskeyed M (.sequence tag items closed)

/-- A list of parts of one form. -/
def list (f : Form) : Form := ⟨ListRespelled f.Respelled, ListMiskeyed f.Miskeyed, .refl⟩

variable (sps : List Spelling)

/-- A field is named by any of its names, and its value is respelled. -/
inductive FieldRespelled : Node × Node → Node × Node → Prop
  | field {sp : Spelling} {k k' v v' : Node} (hsp : sp ∈ sps) (hk : sp.Names k)
      (hk' : sp.Names k') (h : sp.form.Respelled v v') : FieldRespelled (k, v) (k', v')

/-- The fields of an entry stand in any order, and are respelled one by one. -/
inductive EntryRespelled : Node → Node → Prop
  | refl (n : Node) : EntryRespelled n n
  | fields {tag : Option String} {es es' fs : List (Node × Node)} {closed : Bool}
      (hperm : es.Perm es') (h : List.Forall₂ (FieldRespelled sps) es' fs) :
      EntryRespelled (.mapping tag es closed) (.mapping tag fs closed)

/-- Some key of an entry is not accepted, names a field again, or has a value that is
refused. -/
inductive EntryMiskeyed : Node → Prop
  | unknown {tag : Option String} {es : List (Node × Node)} {closed : Bool} {e : Node × Node}
      (he : e ∈ es) (h : ∀ sp ∈ sps, ¬ sp.Names e.1) : EntryMiskeyed (.mapping tag es closed)
  | twice {tag : Option String} {before between after : List (Node × Node)} {closed : Bool}
      {e e' : Node × Node} {sp : Spelling} (hsp : sp ∈ sps) (he : sp.Names e.1)
      (he' : sp.Names e'.1) :
      EntryMiskeyed (.mapping tag (before ++ e :: between ++ e' :: after) closed)
  | value {tag : Option String} {es : List (Node × Node)} {closed : Bool} {e : Node × Node}
      {sp : Spelling} (he : e ∈ es) (hsp : sp ∈ sps) (hk : sp.Names e.1)
      (h : sp.form.Miskeyed e.2) : EntryMiskeyed (.mapping tag es closed)

/-- An entry with some fields. -/
def entry : Form := ⟨EntryRespelled sps, EntryMiskeyed sps, .refl⟩

/-! ### Readers -/

variable {β σ : Type}

/-- A form governs a reader: what is respelled is read as a value that is the same in the
sense of `S`, and what is refused is not read. -/
structure Governs (f : Form) (read : Node → Reading β) (S : β → β → Prop) : Prop where
  refl : ∀ b, S b b
  respelled : ∀ {n n' b}, f.Respelled n n' → read n = .ok b → ∃ b', read n' = .ok b' ∧ S b b'
  miskeyed : ∀ {n b}, f.Miskeyed n → read n ≠ .ok b

/-- However often a part is respelled, it keeps all that values which are the same in the sense
of `S` have in common. -/
theorem Governs.exists_read_eq {γ : Type} {f : Form} {read : Node → Reading β} {S : β → β → Prop}
    (h : f.Governs read S) {g : β → γ} (hg : ∀ {b b'}, S b b' → g b' = g b) {n n' : Node} {b : β}
    (hn : Relation.ReflTransGen f.Respelled n n') (hb : read n = .ok b) :
    ∃ b', read n' = .ok b' ∧ g b' = g b := by
  induction hn with
  | refl => exact ⟨b, hb, rfl⟩
  | tail _ hstep ih =>
    obtain ⟨c, hc, hcb⟩ := ih
    obtain ⟨c', hc', hsame⟩ := h.respelled hstep hc
    exact ⟨c', hc', (hg hsame).trans hcb⟩

theorem governs_fixed (read : Node → Reading β) : fixed.Governs read Eq where
  refl _ := rfl
  respelled := by
    rintro n _ b rfl hb
    exact ⟨b, hb, rfl⟩
  miskeyed h := h.elim

theorem governs_name : name.Governs readText fun a b => trim a = trim b where
  refl _ := rfl
  respelled := by
    intro n n' b h hb
    cases h with
    | refl => exact ⟨b, hb, rfl⟩
    | blanks h h' =>
      obtain rfl := Except.ok.inj hb
      exact ⟨_, rfl, h.trim_eq.trans h'.trim_eq.symm⟩
  miskeyed h := h.elim

theorem IsString.name? {text : String} {n : Node} (h : IsString text n) :
    Entry.name? n = some text := by
  cases h with
  | scalar htag hmeaning => simp [Entry.name?, Node.value?, htag, hmeaning, Value.text?]

theorem IsString.text? {text : String} {n : Node} (h : IsString text n) : n.text? = some text := by
  cases h
  rfl

theorem IsString.read {text : String} {n : Node} (h : IsString text n) (d : Nat) :
    Yaml.read d n = .ok (.string text) := by
  cases h with
  | scalar htag hmeaning =>
    simp [Yaml.read, Yaml.readScalar, Yaml.underTag, htag, hmeaning, Yaml.ofMeaning]

theorem parse_join_spaced {names texts : List String} (h : List.Forall₂ Spaced names texts)
    (hcomma : ∀ name ∈ names, ',' ∉ name.toList) :
    NameList.parse (NameList.join texts) = (names.map trim).filter (· ≠ "") := by
  have htexts : ∀ text ∈ texts, ',' ∉ text.toList := by
    intro text htext
    obtain ⟨name, hname, hspaced⟩ := h.exists_of_mem htext
    exact hspaced.comma_not_mem (hcomma name hname)
  rw [NameList.parse_join htexts, h.map_eq_map fun hspaced => hspaced.trim_eq]

/-- A list of names is read as these names, however it is written. -/
theorem Lists.readNames {names : List String} {n : Node} (h : Lists names n)
    (hcomma : ∀ name ∈ names, ',' ∉ name.toList) :
    Entry.readNames n = .ok ((names.map trim).filter (· ≠ "")) := by
  cases h with
  | @items tag items htag h =>
    have hitems : Entry.untaggedItems? (.sequence tag items true) = some items := by
      simp [Entry.untaggedItems?, htag]
    obtain ⟨texts, htexts, hread⟩ : ∃ texts, List.Forall₂ Spaced names texts ∧
        items.mapM Entry.name? = some texts := by
      clear hitems
      induction h with
      | nil => exact ⟨[], .nil, rfl⟩
      | cons hitem _ ih =>
        obtain ⟨text, hspaced, hstring⟩ := hitem
        obtain ⟨texts, htexts, hread⟩ :=
          ih fun name hname => hcomma name (List.mem_cons_of_mem _ hname)
        refine ⟨text :: texts, .cons hspaced htexts, ?_⟩
        rw [List.mapM_cons, hstring.name?, hread]
        rfl
    simp only [Entry.readNames, hitems, hread, Option.map_some, parse_join_spaced htexts hcomma]
    rfl
  | @joined texts n htexts hn =>
    have hitems : Entry.untaggedItems? n = none := by
      cases hn
      rfl
    simp only [Entry.readNames, hitems, hn.name?, Option.map_some,
      parse_join_spaced htexts hcomma]
    rfl

theorem governs_names : Form.names.Governs Entry.readNames Eq where
  refl _ := rfl
  respelled := by
    intro n n' b h hb
    cases h with
    | refl => exact ⟨b, hb, rfl⟩
    | lists hcomma h h' =>
      rw [h.readNames hcomma] at hb
      exact ⟨b, by rw [h'.readNames hcomma, hb], rfl⟩
  miskeyed h := h.elim

theorem governs_list {f : Form} {read : Node → Reading β} {S : β → β → Prop}
    (h : f.Governs read S) : f.list.Governs (readList read) (List.Forall₂ S) where
  refl bs := List.forall₂_same.mpr fun b _ => h.refl b
  respelled := by
    intro n n' bs hn hbs
    cases hn with
    | refl => exact ⟨bs, hbs, List.forall₂_same.mpr fun b _ => h.refl b⟩
    | @items tag items items' closed hitems =>
      obtain ⟨_, hparts, hread⟩ := Structured.readList_eq_ok_iff.mp hbs
      obtain ⟨rfl, rfl⟩ := Parts.mk.inj (Option.some.inj hparts)
      obtain ⟨bs', hread', hsame⟩ := hitems.exists_forall₂ hread h.respelled
      exact ⟨bs', Structured.readList_eq_ok_iff.mpr ⟨items', rfl, hread'⟩, hsame⟩
  miskeyed := by
    intro n bs hn hbs
    cases hn with
    | item hitem hmiskeyed =>
      obtain ⟨_, hparts, hread⟩ := Structured.readList_eq_ok_iff.mp hbs
      obtain ⟨rfl, rfl⟩ := Parts.mk.inj (Option.some.inj hparts)
      obtain ⟨b, -, hb⟩ := hread.exists_of_mem_left hitem
      exact h.miskeyed hmiskeyed hb

theorem governs_list_eq {f : Form} {read : Node → Reading β} (h : f.Governs read Eq) :
    f.list.Governs (readList read) Eq := by
  have hlist := governs_list h
  rwa [List.forall₂_eq_eq_eq] at hlist

/-! ### Entries -/

/-- A spelling governs a field: another spelling of a value updates the entry in the same way in
the sense of `R`, and a value that is refused is not read. -/
structure GovernsField (R : σ → σ → Prop) (sp : Spelling) (f : Field Node (Entry.Filling σ)) :
    Prop where
  name : f.name = sp.name
  aliases : f.aliases = sp.aliases
  slot : Entry.IsSlot f
  respelled : ∀ {v v' s t}, sp.form.Respelled v v' → f.read v s = .ok t →
    ∃ u u', Entry.Updates f v u ∧ Entry.Updates f v' u' ∧ ∀ x x', R x x' → R (u x) (u' x')
  miskeyed : ∀ {v s t}, sp.form.Miskeyed v → f.read v s ≠ .ok t

theorem governsField_slot {name : String} {aliases : List String} {form : Form}
    {read : Node → Reading β} {set : σ → β → σ} {S : β → β → Prop} {R : σ → σ → Prop}
    (h : form.Governs read S) (hset : ∀ x x' b b', R x x' → S b b' → R (set x b) (set x' b')) :
    GovernsField R ⟨name, aliases, form⟩ (Entry.slot name aliases read set) where
  name := rfl
  aliases := rfl
  slot := Entry.isSlot_slot name aliases read set
  respelled := by
    intro v v' s t hv ht
    obtain ⟨b, hb, -⟩ := Except.map_eq_ok_iff.mp ht
    obtain ⟨b', hb', hsame⟩ := h.respelled hv hb
    refine ⟨_, _, Entry.updates_slot hb, Entry.updates_slot hb', fun x x' hx => ?_⟩
    exact hset x x' b b' hx hsame
  miskeyed := by
    intro v s t hv ht
    obtain ⟨b, hb, -⟩ := Except.map_eq_ok_iff.mp ht
    exact h.miskeyed hv hb

theorem governsField_slot_eq {name : String} {aliases : List String} {form : Form}
    {read : Node → Reading β} {set : σ → β → σ} (h : form.Governs read Eq) :
    GovernsField Eq ⟨name, aliases, form⟩ (Entry.slot name aliases read set) := by
  refine governsField_slot h ?_
  rintro x _ b _ rfl rfl
  rfl

/-- The spellings of an entry govern its fields, no key has two meanings, and the order of the
fields does not matter. -/
structure GovernsFields (R : σ → σ → Prop) (sps : List Spelling)
    (fields : List (Field Node (Entry.Filling σ))) : Prop where
  governed : List.Forall₂ (GovernsField R) sps fields
  distinct : (sps.flatMap Spelling.keys).Nodup
  commute : fields.Pairwise Entry.Commutes

variable {sps : List Spelling} {fields : List (Field Node (Entry.Filling σ))} {R : σ → σ → Prop}

theorem GovernsFields.slots (h : GovernsFields R sps fields) : ∀ f ∈ fields, Entry.IsSlot f := by
  intro f hf
  obtain ⟨sp, -, hgoverns⟩ := h.governed.exists_of_mem hf
  exact hgoverns.slot

theorem GovernsField.hasName_iff {sp : Spelling} {f : Field Node (Entry.Filling σ)}
    (h : GovernsField R sp f) {key : String} : f.hasName key = true ↔ key ∈ sp.keys := by
  rw [Field.hasName, h.name, h.aliases, Spelling.keys, List.mem_cons, Bool.or_eq_true,
    decide_eq_true_eq, List.contains_iff_mem, eq_comm]

/-- All names of a field lead to the field. -/
theorem exists_field (h : List.Forall₂ (GovernsField R) sps fields)
    (hdistinct : (sps.flatMap Spelling.keys).Nodup) {sp : Spelling} (hsp : sp ∈ sps) :
    ∃ f, GovernsField R sp f ∧
      ∀ key ∈ sp.keys, (fields.find? fun f => f.hasName key) = some f := by
  induction h with
  | nil => cases hsp
  | @cons sp₀ f sps fields hf _ ih =>
    rw [List.flatMap_cons, List.nodup_append] at hdistinct
    obtain ⟨-, hdistinct, hdisjoint⟩ := hdistinct
    rcases List.mem_cons.mp hsp with rfl | hsp
    · exact ⟨f, hf, fun key hkey => List.find?_cons_of_pos (hf.hasName_iff.mpr hkey)⟩
    · obtain ⟨g, hg, hfind⟩ := ih hdistinct hsp
      refine ⟨g, hg, fun key hkey => ?_⟩
      have hother : f.hasName key = false := by
        refine Bool.eq_false_iff.mpr fun hname => ?_
        have hmem := List.mem_flatMap.mpr ⟨sp, hsp, hkey⟩
        exact hdisjoint key (hf.hasName_iff.mp hname) key hmem rfl
      rw [List.find?_cons, hother]
      exact hfind key hkey

/-- The field that a key leads to has the key among its names. -/
theorem exists_spelling (h : List.Forall₂ (GovernsField R) sps fields) {key : String}
    {f : Field Node (Entry.Filling σ)} (hf : (fields.find? fun f => f.hasName key) = some f) :
    ∃ sp ∈ sps, key ∈ sp.keys := by
  obtain ⟨sp, hsp, hgoverns⟩ := h.exists_of_mem (List.mem_of_find?_eq_some hf)
  have hname := List.find?_some hf
  exact ⟨sp, hsp, hgoverns.hasName_iff.mp hname⟩

/-- A key that names a field is read as this field, which all its names lead to. -/
theorem exists_field_of_names (h : GovernsFields R sps fields) {sp : Spelling} (hsp : sp ∈ sps)
    {e : Node × Node} (hk : sp.Names e.1) {u : String × (σ → σ)}
    (hu : Entry.ReadsAs fields e u) :
    ∃ f, GovernsField R sp f ∧ (∀ key ∈ sp.keys, (fields.find? fun f => f.hasName key) = some f) ∧
      u.1 = f.name ∧ Entry.Updates f e.2 u.2 := by
  obtain ⟨key, f, hkey, hf, hname, hupdates⟩ := hu
  obtain ⟨g, hgoverns, hfind⟩ := exists_field h.governed h.distinct hsp
  obtain ⟨key', hmem, hkey'⟩ := hk
  obtain rfl : key' = key := Option.some.inj (hkey'.symm.trans hkey)
  obtain rfl : g = f := Option.some.inj ((hfind key' hmem).symm.trans hf)
  exact ⟨g, hgoverns, hfind, hname, hupdates⟩

/-- A field under any of its names, with another spelling of its value, is the same update. -/
theorem FieldRespelled.readsAs (h : GovernsFields R sps fields) {e e' : Node × Node}
    (he : FieldRespelled sps e e') (x : σ) {u : String × (σ → σ)}
    (hu : Entry.ReadsAs fields e u) :
    ∃ u', Entry.ReadsAs fields e' u' ∧ u'.1 = u.1 ∧ ∀ x x', R x x' → R (u.2 x) (u'.2 x') := by
  cases he with
  | field hsp hk hk' hv =>
    obtain ⟨f, hgoverns, hfind, hname, hupdates⟩ := exists_field_of_names h hsp hk hu
    obtain ⟨w, w', hw, hw', hsame⟩ := hgoverns.respelled hv (hupdates ⟨x, []⟩)
    obtain ⟨key', hmem', hkey'⟩ := hk'
    refine ⟨(f.name, w'), ⟨key', f, hkey', hfind key' hmem', rfl, hw'⟩, hname.symm, ?_⟩
    rwa [hupdates.unique hw]

theorem updateAll_same {us us' : List (String × (σ → σ))}
    (h : List.Forall₂ (fun u u' : String × (σ → σ) =>
      u'.1 = u.1 ∧ ∀ x x', R x x' → R (u.2 x) (u'.2 x')) us us') {x x' : σ} (hx : R x x') :
    R (Entry.updateAll us x) (Entry.updateAll us' x') := by
  induction h generalizing x x' with
  | nil => exact hx
  | cons hu _ ih => exact ih (hu.2 x x' hx)

/-- Updates by different fields may be done in any order. -/
theorem updateAll_perm (h : GovernsFields R sps fields) {es : List (Node × Node)}
    {us us' : List (String × (σ → σ))} (hus : List.Forall₂ (Entry.ReadsAs fields) es us)
    (hnodup : (us.map Prod.fst).Nodup) (hperm : us.Perm us') (x : σ) :
    Entry.updateAll us x = Entry.updateAll us' x := by
  refine hperm.foldl_eq' (fun u hu w hw z => ?_) x
  obtain ⟨e, -, key, f, -, hf, hname, hupdates⟩ := hus.exists_of_mem hu
  obtain ⟨e', -, key', g, -, hg, hname', hupdates'⟩ := hus.exists_of_mem hw
  by_cases hsame : f = g
  · subst hsame
    obtain rfl : u = w := List.inj_on_of_nodup_map hnodup hu hw (hname.trans hname'.symm)
    rfl
  · have hmem := List.mem_of_find?_eq_some hf
    have hmem' := List.mem_of_find?_eq_some hg
    exact h.commute.forall hmem hmem' hsame hupdates hupdates' z

/-- **The form of an entry governs its reader** if the forms of its fields do: the order of the
fields and the choice among their names have no say, and keys that are not accepted or name a
field again are refused. -/
theorem governs_entry (h : GovernsFields R sps fields) (hrefl : ∀ x, R x x)
    (needed : List String) (start : σ) :
    (entry sps).Governs (Entry.read fields needed start) R where
  refl := hrefl
  respelled := by
    intro n n' x hn hx
    cases hn with
    | refl => exact ⟨x, hx, hrefl x⟩
    | @fields tag es es' fs closed hperm hes =>
      obtain ⟨hclosed, us, hus, hnodup, hneeded, rfl⟩ :=
        (Entry.read_mapping_eq_ok_iff h.slots).mp hx
      -- first the order of the fields, then their names and values
      obtain ⟨ws, hws, hsame⟩ := List.perm_comp_forall₂ hperm.symm hus
      obtain ⟨us', hus', hupdates⟩ := hes.exists_forall₂ hws fun he hu => he.readsAs h start hu
      have hnames : us'.map Prod.fst = ws.map Prod.fst := hupdates.map_eq_map fun hu => hu.1
      have hmem : ∀ name, name ∈ us'.map Prod.fst ↔ name ∈ us.map Prod.fst := by
        intro name
        rw [hnames]
        exact (hsame.map Prod.fst).mem_iff
      refine ⟨Entry.updateAll us' start, (Entry.read_mapping_eq_ok_iff h.slots).mpr
        ⟨hclosed, us', hus', ?_, fun name hname => (hmem name).mpr (hneeded name hname), rfl⟩, ?_⟩
      · rw [hnames]
        exact (hsame.map Prod.fst).nodup_iff.mpr hnodup
      · rw [updateAll_perm h hus hnodup hsame.symm start]
        exact updateAll_same hupdates (hrefl start)
  miskeyed := by
    intro n x hn hx
    cases hn with
    | @unknown tag es closed e he hnone =>
      obtain ⟨-, us, hus, -⟩ := (Entry.read_mapping_eq_ok_iff h.slots).mp hx
      obtain ⟨u, -, key, f, hkey, hf, -⟩ := hus.exists_of_mem_left he
      obtain ⟨sp, hsp, hmem⟩ := exists_spelling h.governed hf
      exact hnone sp hsp ⟨key, hmem, hkey⟩
    | @twice tag before between after closed e e' sp hsp he he' =>
      obtain ⟨-, us, hus, hnodup, -⟩ := (Entry.read_mapping_eq_ok_iff h.slots).mp hx
      have hperm : (e :: e' :: (before ++ (between ++ after))).Perm
          (before ++ e :: between ++ e' :: after) := by
        rw [List.append_assoc, List.cons_append]
        refine List.Perm.trans (.cons e ?_) List.perm_middle.symm
        rw [← List.append_assoc, ← List.append_assoc]
        exact List.perm_middle.symm
      obtain ⟨_, hall, hsame⟩ := List.perm_comp_forall₂ hperm hus
      obtain ⟨u, _, hu, hrest, rfl⟩ := List.forall₂_cons_left_iff.mp hall
      obtain ⟨w, ws, hw, -, rfl⟩ := List.forall₂_cons_left_iff.mp hrest
      obtain ⟨f, hgoverns, -, hname, -⟩ := exists_field_of_names h hsp he hu
      obtain ⟨g, hgoverns', -, hname', -⟩ := exists_field_of_names h hsp he' hw
      -- both entries note the name of the same field
      have hnames : u.1 = w.1 := by
        rw [hname, hname', hgoverns.name, hgoverns'.name]
      have hdistinct := (hsame.map Prod.fst).nodup_iff.mpr hnodup
      exact (List.nodup_cons.mp hdistinct).1 (hnames ▸ List.mem_cons_self)
    | value he hsp hk hv =>
      obtain ⟨-, us, hus, -⟩ := (Entry.read_mapping_eq_ok_iff h.slots).mp hx
      obtain ⟨u, -, hu⟩ := hus.exists_of_mem_left he
      obtain ⟨f, hgoverns, -, -, hupdates⟩ := exists_field_of_names h hsp hk hu
      exact hgoverns.miskeyed hv (hupdates ⟨start, []⟩)

end Form

end SheetGrammar
