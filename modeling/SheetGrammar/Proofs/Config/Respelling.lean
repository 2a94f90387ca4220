import SheetGrammar.Proofs.Config.DeriveSpelling
import SheetGrammar.Proofs.Config.DeriveValidity

/-!
# Equivalent spellings of configurations

A configuration may be respelled anywhere and any number of times: it is still read, and builds
the same plan or fails for the same reason.  There are limits where expressions are respelled.
Their keys have to be distinct, since of parameters with the same name the last one counts.
Parameters only go under the kind if the reader still reaches the bottom of their values, since
they are then one collection deeper.  And evaluators must not look at the order of keys inside
their parameters; those of the library do not.

## Main definitions

* `DeriveConfig.readForm` — the form of derive configurations within these limits.

## Main results

* `build_eq_of_respelled` — configurations that are respelled build the same plan, and those with
  keys that are not accepted or name a field again are not read.
* `not_build_eq_of_respelled` — the limits are needed.
-/

namespace SheetGrammar

open Relation (ReflTransGen)
open Yaml (Node)

/-- The form of a derive configuration where keys of expressions are distinct and the reader
reaches the bottom of parameters under the kind, which are inside five collections. -/
def DeriveConfig.readForm : Form :=
  form ExpressionEntry.DistinctNames fun n => n.depth ≤ Yaml.readerDepth - 5

theorem DeriveConfig.governs_readForm : readForm.Governs (read Yaml.readerDepth) Same :=
  governs_form (Yaml.readerDepth - 5)

/-- **Configurations that are respelled build the same plan**, or fail for the same reason. Those
with a key that is not accepted, or with a field under two of its names, are not read. -/
theorem build_eq_of_respelled {registry : Registry} (hregistry : registry.Uniform) :
    (∀ {n n' : Node} {c : ReadConfig}, ReflTransGen ReadConfig.form.Respelled n n' →
      ReadConfig.read n = .ok c → ∃ c', ReadConfig.read n' = .ok c' ∧ c'.build = c.build) ∧
    (∀ {n n' : Node} {c : DeriveConfig}, ReflTransGen DeriveConfig.readForm.Respelled n n' →
      DeriveConfig.read Yaml.readerDepth n = .ok c →
      ∃ c', DeriveConfig.read Yaml.readerDepth n' = .ok c' ∧
        c'.build registry = c.build registry) ∧
    (∀ {n : Node} {c : ReadConfig}, ReadConfig.form.Miskeyed n → ReadConfig.read n ≠ .ok c) ∧
    (∀ {n : Node} {c : DeriveConfig}, DeriveConfig.readForm.Miskeyed n →
      DeriveConfig.read Yaml.readerDepth n ≠ .ok c) := by
  refine ⟨fun hn hc => ?read, fun hn hc => ?derive, fun hn => ReadConfig.governs_form.miskeyed hn,
    fun hn => DeriveConfig.governs_readForm.miskeyed hn⟩
  case read => exact ReadConfig.governs_form.exists_read_eq ReadConfig.Same.build_eq hn hc
  case derive =>
    exact DeriveConfig.governs_readForm.exists_read_eq (fun h => h.build_eq hregistry) hn hc

/-! ### An example -/

namespace Respelling

/-- A quoted scalar. -/
def word (text : String) : Node := .scalar none .singleQuoted text

/-- A mapping whose keys are quoted. -/
def fields (es : List (String × Node)) : Node :=
  .mapping none (es.map fun e => (word e.1, e.2)) true

/-- A sequence. -/
def items (ns : List Node) : Node := .sequence none ns true

theorem isString_word (text : String) : Form.IsString text (word text) := .scalar rfl rfl

theorem field_word {sps : List Spelling} {sp : Spelling} {key key' : String} {v v' : Node}
    (hsp : sp ∈ sps) (h : sp.form.Respelled v v') (hkey : key ∈ sp.keys) (hkey' : key' ∈ sp.keys) :
    Form.FieldRespelled sps (word key, v) (word key', v') :=
  .field hsp ⟨key, hkey, rfl⟩ ⟨key', hkey', rfl⟩ h

/-- A read configuration for orders with items and notes. -/
def orders : Node :=
  fields
    [("sheets", items [fields [("row", word "order")]]),
     ("rows", items
       [fields [("name", word "order"), ("children", word "item, note")],
        fields [("name", word "item")], fields [("name", word "note")]])]

/-- The same with other names of the fields, in another order, and with blanks. -/
def ordersRespelled : Node :=
  fields
    [("row", items
       [fields [("children", items [word "item", word " note"]), ("name", word " order ")],
        fields [("name", word "item")], fields [("name", word "note")]]),
     ("sheet", items [fields [("entry", word "order ")]])]

/-- What both say. -/
def ordersConfig : ReadConfig :=
  ⟨.skip, [⟨[], "order"⟩],
    [⟨"order", [], [], ["item", "note"]⟩, ⟨"item", [], [], []⟩, ⟨"note", [], [], []⟩]⟩

theorem respelled_orders : ReadConfig.form.Respelled orders ordersRespelled := by
  have hnone : ∀ c ∈ [], isBlank c := List.forall_mem_nil _
  have hblank : ∀ c ∈ [' '], isBlank c := List.forall_mem_singleton.mpr rfl
  have hrow : Form.name.Respelled (word "order") (word "order ") :=
    .blanks (spaced_refl "order") ⟨[], [' '], hnone, hblank, by decide⟩
  have hname : Form.name.Respelled (word "order") (word " order ") :=
    .blanks (spaced_refl "order") ⟨[' '], [' '], hblank, hblank, by decide⟩
  have hnote : Spaced "note" " note" := ⟨[' '], [], hblank, hnone, by decide⟩
  have hspaced : List.Forall₂ Spaced ["item", "note"] ["item", " note"] :=
    .cons (spaced_refl "item") (.cons hnote .nil)
  have hitems : Form.Lists ["item", "note"] (items [word "item", word " note"]) :=
    .items rfl (.cons ⟨_, spaced_refl "item", isString_word _⟩
      (.cons ⟨_, hnote, isString_word _⟩ .nil))
  have hchildren : Form.names.Respelled (word "item, note") (items [word "item", word " note"]) :=
    .lists (by decide) (.joined hspaced (isString_word _)) hitems
  have hsheet : ReadSheetEntry.form.Respelled (fields [("row", word "order")])
      (fields [("entry", word "order ")]) := by
    refine .fields (.refl _) (.cons ?_ .nil)
    exact field_word (.tail _ (.head _)) hrow (by simp [Spelling.keys]) (by simp [Spelling.keys])
  have htype : RowTypeEntry.form.Respelled
      (fields [("name", word "order"), ("children", word "item, note")])
      (fields [("children", items [word "item", word " note"]), ("name", word " order ")]) := by
    refine .fields (.swap _ _ _) (.cons ?children (.cons ?name .nil))
    case children =>
      exact field_word (.tail _ (.tail _ (.tail _ (.head _)))) hchildren
        (by simp [Spelling.keys]) (by simp [Spelling.keys])
    case name =>
      exact field_word (.head _) hname (by simp [Spelling.keys]) (by simp [Spelling.keys])
  refine .fields (.swap _ _ _) (.cons ?rows (.cons ?sheets .nil))
  case rows =>
    exact field_word (.tail _ (.tail _ (.head _)))
      (.items (.cons htype (.cons (.refl _) (.cons (.refl _) .nil))))
      (by simp [Spelling.keys]) (by simp [Spelling.keys])
  case sheets =>
    exact field_word (.tail _ (.head _)) (.items (.cons hsheet .nil))
      (by simp [Spelling.keys]) (by simp [Spelling.keys])

variable {keyed : List (Node × Node) → Prop} {fits : Node → Prop} {n n' : Node}

/-- A derive configuration with one rule. -/
def codes (expression : Node) : Node :=
  fields
    [("rules", items
       [fields
         [("name", word "code"), ("output", fields [("tag", word "code")]),
          ("expression", expression)]])]

/-- What is read. -/
def codesConfig (e : Option ExpressionEntry) : DeriveConfig :=
  ⟨[], [⟨"code", none, [], [], ⟨"", "code"⟩, e⟩]⟩

theorem respelled_codes (h : (ExpressionEntry.form keyed fits).Respelled n n') :
    (DeriveConfig.form keyed fits).Respelled (codes n) (codes n') := by
  have hrule : (RuleEntry.form keyed fits).Respelled
      (fields
        [("name", word "code"), ("output", fields [("tag", word "code")]), ("expression", n)])
      (fields
        [("name", word "code"), ("output", fields [("tag", word "code")]), ("expression", n')]) := by
    refine .fields (.refl _) (.cons ?name (.cons ?output (.cons ?expression .nil)))
    case name =>
      exact field_word (.head _) (.refl _) (by simp [Spelling.keys]) (by simp [Spelling.keys])
    case output =>
      exact field_word (.tail _ (.tail _ (.tail _ (.tail _ (.head _))))) (.refl _)
        (by simp [Spelling.keys]) (by simp [Spelling.keys])
    case expression =>
      exact field_word (.tail _ (.tail _ (.tail _ (.tail _ (.tail _ (.head _)))))) h
        (by simp [Spelling.keys]) (by simp [Spelling.keys])
  refine .fields (.refl _) (.cons ?_ .nil)
  exact field_word (.tail _ (.head _)) (.items (.cons hrule .nil))
    (by simp [Spelling.keys]) (by simp [Spelling.keys])

/-- An expression with the kind beside the parameter. -/
def beside (kind name : String) (value : Node) : Node :=
  fields [("kind", word kind), (name, value)]

/-- An expression with the parameter under the kind. -/
def under (kind name : String) (value : Node) : Node := fields [(kind, fields [(name, value)])]

theorem nests_under {kind name : String} (hkind : kind ≠ "kind") (hname : name ≠ "kind")
    (value : Node) :
    ExpressionEntry.Nests [(word name, value)] kind (beside kind name value)
      (under kind name value) := by
  refine .nests rfl (isString_word kind) rfl hkind ?_ rfl
  exact List.forall_mem_singleton.mpr ⟨name, isString_word name, hname⟩

theorem read_fields {σ : Type} (fs : List (Structured.Field Node (Entry.Filling σ)))
    (needed : List String) (start : σ) (es : List (String × Node)) :
    Entry.read fs needed start (fields es) =
      (Structured.readEntries true fs ⟨start, []⟩ (es.map fun e => (some e.1, e.2))).bind
        (Entry.finish needed) := by
  have hparts : Structured.entries? (fields es) = some ⟨es.map fun e => (some e.1, e.2), true⟩ := by
    simp [Structured.entries?, fields, word, Node.text?]
  rw [Entry.read, Structured.readStruct, hparts]
  dsimp only
  cases Structured.readEntries true fs ⟨start, []⟩ (es.map fun e => (some e.1, e.2)) <;> rfl

theorem read_codes (d : Nat) (n : Node) :
    DeriveConfig.read (d + 3) (codes n)
      = (n.readOptional (ExpressionEntry.read d)).map codesConfig := by
  have hname : Structured.readText (word "code") = .ok "code" := rfl
  have houtput : ColumnEntry.read (fields [("tag", word "code")]) = .ok ⟨"", "code"⟩ := rfl
  have hitems : ∀ ns, Structured.items? (items ns) = some ⟨ns, true⟩ := fun _ => rfl
  cases h : n.readOptional (ExpressionEntry.read d)
  all_goals simp [codes, codesConfig, DeriveConfig.read, RuleEntry.read, read_fields,
    Structured.readEntries, Structured.readEntry, Structured.Field.hasName, Structured.readList,
    Structured.readAll, Entry.slot, Entry.finish, Except.map, Except.bind, h, hname, houtput, hitems]

theorem read_beside {d : Nat} {kind name : String} {value : Node} {y : Yaml}
    (hname : name ≠ "kind") (h : Yaml.read d value = .ok y) :
    ExpressionEntry.read (d + 1) (beside kind name value) = .ok ⟨kind, [(name, y)]⟩ := by
  have hkeys : ExpressionEntry.ParamKeys [(word name, value)] :=
    List.forall_mem_singleton.mpr ⟨name, isString_word name, hname⟩
  refine (ExpressionEntry.read_beside_eq_ok_iff rfl (isString_word kind) hkeys ?_).mpr
    ⟨[(name, y)], .cons ⟨rfl, h⟩ .nil, ?_⟩
  · simp [ExpressionEntry.DistinctNames]
  · simp [Yaml.sortNamed]

end Respelling

open Respelling

theorem build_eq_of_respelled_orders :
    (∃ c, ReadConfig.read ordersRespelled = .ok c ∧ c.build = ordersConfig.build) ∧
    (∃ c, DeriveConfig.read Yaml.readerDepth
        (codes (under "pattern-extract" "pattern" (word "(.)"))) = .ok c ∧
      c.build .builtins
        = (codesConfig (some ⟨"pattern-extract", [("pattern", .string "(.)")]⟩)).build .builtins) ∧
    (∀ c, ReadConfig.read (fields [("rows", items []), ("row", items [])]) ≠ .ok c) ∧
    (∀ c, DeriveConfig.read Yaml.readerDepth (fields [("rule", items [])]) ≠ .ok c) := by
  obtain ⟨hread, hderive, hreadKeys, hderiveKeys⟩ :=
    build_eq_of_respelled Registry.uniform_builtins
  have hunder : DeriveConfig.readForm.Respelled
      (codes (beside "pattern-extract" "pattern" (word "(.)")))
      (codes (under "pattern-extract" "pattern" (word "(.)"))) := by
    refine respelled_codes (.nest (nests_under (by decide) (by decide) _) ?_ ?_)
    · simp [ExpressionEntry.DistinctNames]
    · exact List.forall_mem_singleton.mpr (Nat.zero_le _)
  have hcodes : DeriveConfig.read Yaml.readerDepth
      (codes (beside "pattern-extract" "pattern" (word "(.)")))
      = .ok (codesConfig (some ⟨"pattern-extract", [("pattern", .string "(.)")]⟩)) := by
    have hparam : Yaml.read 124 (word "(.)") = .ok (.string "(.)") := (isString_word "(.)").read 124
    refine (read_codes 125 _).trans (Except.map_eq_ok_iff.mpr ⟨_, ?_, rfl⟩)
    exact Except.map_eq_ok_iff.mpr ⟨_, read_beside (by decide) hparam, rfl⟩
  have htwice : ReadConfig.form.Miskeyed (fields [("rows", items []), ("row", items [])]) := by
    refine @Form.EntryMiskeyed.twice _ none [] [] [] true _ _ _ (.tail _ (.tail _ (.head _))) ?_ ?_
    · exact ⟨"rows", by simp [Spelling.keys], rfl⟩
    · exact ⟨"row", by simp [Spelling.keys], rfl⟩
  have hunknown : DeriveConfig.readForm.Miskeyed (fields [("rule", items [])]) := by
    refine .unknown (.head _) ?_
    simp [Spelling.Names, Spelling.keys, word, Node.text?]
  exact ⟨hread (.single respelled_orders) rfl, hderive (.single hunder) hcodes,
    fun c => hreadKeys htwice, fun c => hderiveKeys hunknown⟩

/-! ### The limits -/

/-- The form of a derive configuration without limits. -/
def DeriveConfig.freeForm : Form := form (fun _ => True) fun _ => True

namespace Respelling

/-- What a derive configuration builds. -/
def plan? (registry : Registry) (n : Node) : Structured.Reading (Except Error DerivePlan) :=
  (DeriveConfig.read Yaml.readerDepth n).map fun c => c.build registry

theorem build_codesConfig {registry : Registry} {e : ExpressionEntry} {err : Error}
    (h : registry.bind "code" e.kind e.params = .error err) :
    (codesConfig (some e)).build registry = .error err := by
  have htrim : trim "code" = "code" := by decide
  obtain ⟨rule, hrule⟩ : ∃ rule, Rule.ofName "code" "" = .ok rule :=
    Rule.exists_ofName_eq_ok_iff.mpr fun hne => absurd rfl hne
  have houtput : RuleEntry.setOutput ⟨"", "code"⟩ rule = .ok (rule.withOutput "" "code") := rfl
  have hset : RuleEntry.setEvaluator registry (some e) (rule.withOutput "" "code") = .error err := by
    have hname : rule.name = "code" := Rule.name_of_ofName hrule
    simp only [RuleEntry.setEvaluator, Rule.withOutput, hname, h, Except.map]
  have hcompile : RuleEntry.compile registry ⟨"code", none, [], [], ⟨"", "code"⟩, some e⟩
      = .error err := by
    simp [RuleEntry.compile, htrim, hrule, pure, Except.pure, Except.bind, houtput, hset]
  simp [DeriveConfig.build, DeriveConfig.rulePlan, codesConfig, hcompile, Except.bind]

/-- A parameter that is not read under the kind is why the configuration is not. -/
theorem plan?_under {registry : Registry} {kind name : String} {value : Node} {e : ParseError}
    (h : Yaml.read 123 value = .error e) :
    plan? registry (codes (under kind name value)) = .error e := by
  have hparams : Yaml.read 124 (fields [(name, value)]) = .error e := by
    simp [fields, Yaml.read, Yaml.underTag, Yaml.localTag?, Yaml.readDistinct,
      (isString_word name).read 123, h]
  have hread : ExpressionEntry.read 125 (under kind name value) = .error e := by
    have hentries : Structured.entries? (under kind name value)
        = some ⟨[(some kind, fields [(name, value)])], true⟩ := rfl
    simp only [ExpressionEntry.read, Yaml.readEntries, hentries, Yaml.readNamed, hparams]
  have hcodes : DeriveConfig.read Yaml.readerDepth (codes (under kind name value)) = .error e :=
    (read_codes 125 _).trans
      (Except.map_eq_error_iff.mpr (Except.map_eq_error_iff.mpr hread))
  rw [plan?, hcodes]
  rfl

/-- The rule fails if its expression cannot be bound. -/
theorem plan?_codes {registry : Registry} {es : List (String × Node)} {e : ExpressionEntry}
    {err : Error} (he : ExpressionEntry.read 125 (fields es) = .ok e)
    (h : registry.bind "code" e.kind e.params = .error err) :
    plan? registry (codes (fields es)) = .ok (.error err) := by
  have hoptional : (fields es).readOptional (ExpressionEntry.read 125) = .ok (some e) :=
    Except.map_eq_ok_iff.mpr ⟨e, he, rfl⟩
  have hread : DeriveConfig.read Yaml.readerDepth (codes (fields es)) = .ok (codesConfig (some e)) :=
    (read_codes 125 _).trans (Except.map_eq_ok_iff.mpr ⟨some e, hoptional, rfl⟩)
  rw [plan?, hread]
  exact congrArg Except.ok (build_codesConfig h)

/-- Lists in lists. -/
def nestedLists : Nat → Node
  | 0 => items []
  | n + 1 => items [nestedLists n]

/-- What is read. -/
def nestedSequences : Nat → Yaml
  | 0 => .sequence []
  | n + 1 => .sequence [nestedSequences n]

/-- A collection is read if there are no more inside than the reader may enter. -/
theorem read_nestedLists (d n : Nat) :
    Yaml.read d (nestedLists n) = if n < d then .ok (nestedSequences n) else .error .malformed := by
  induction n generalizing d with
  | zero => cases d <;> rfl
  | succ n ih =>
    cases d with
    | zero => rfl
    | succ d =>
      simp only [nestedLists, items, Yaml.read, Yaml.underTag, Yaml.localTag?, Option.map_none,
        Structured.readAll, ih d, Nat.add_lt_add_iff_right, nestedSequences]
      by_cases h : n < d
      · simp only [h, if_true, Except.map]
      · simp only [h, if_false]

/-- Evaluators that look at the order of keys inside their parameter. -/
def firstKeys : Registry :=
  ⟨[("first", fun rule ps =>
    match ps with
    | [(_, .mapping ((.string key, _) :: _))] => .error (.unknownExpression key rule)
    | _ => .error (.unboundExpression rule))]⟩

/-- A mapping of two keys to empty lists. -/
def pair (a b : String) : Node := fields [(a, items []), (b, items [])]

theorem distinctKeys_pair {a b : String} (h : a ≠ b) :
    Node.DistinctKeys [(word a, items []), (word b, items [])] := by
  refine .cons (fun e he d x y hx hy => ?_) (.cons (fun e he => by cases he) .nil)
  obtain rfl := List.mem_singleton.mp he
  obtain rfl := Except.ok.inj (hx.symm.trans ((isString_word a).read d))
  obtain rfl := Except.ok.inj (hy.symm.trans ((isString_word b).read d))
  simp [Yaml.sameKey, h]

theorem read_pair (d : Nat) {a b : String} (h : a ≠ b) :
    Yaml.read (d + 2) (pair a b)
      = .ok (.mapping [(.string a, .sequence []), (.string b, .sequence [])]) := by
  refine Yaml.read_mapping_eq_ok_iff.mpr ⟨rfl, _,
    .cons ⟨(isString_word a).read _, rfl⟩ (.cons ⟨(isString_word b).read _, rfl⟩ .nil), ?_, rfl⟩
  simp [Yaml.sameKey, h]

theorem reordered_pair {a b : String} (h : a ≠ b) : Node.Reordered (pair a b) (pair b a) :=
  .mapping (.swap _ _ _) (.cons (.refl _) (.refl _) (.cons (.refl _) (.refl _) .nil))
    (distinctKeys_pair h.symm)

/-- An expression with two kinds. -/
def twoKinds (a b : String) : Node := fields [("kind", word a), ("kind", word b)]

/-- The last kind counts. -/
theorem read_twoKinds (d : Nat) (a b : String) :
    ExpressionEntry.read (d + 1) (twoKinds a b) = .ok ⟨b, []⟩ := by
  refine ExpressionEntry.read_mapping_eq_ok_iff.mpr
    ⟨rfl, [("kind", .string a), ("kind", .string b)], ?_, ?_⟩
  · exact .cons ⟨rfl, (isString_word a).read d⟩ (.cons ⟨rfl, (isString_word b).read d⟩ .nil)
  · have hlast : Yaml.sortNamed [("kind", .string a), ("kind", .string b)] = [("kind", .string b)] := by
      simp [Yaml.sortNamed]
    rw [hlast]
    exact ExpressionEntry.ofEntries_of_kind rfl rfl

end Respelling

/-- **The limits are needed.** Without them, a configuration that is respelled may not be read, or
it may have another kind of evaluators, or these may take the order of keys into account. -/
theorem not_build_eq_of_respelled :
    (DeriveConfig.freeForm.Respelled (codes (beside "pattern-extract" "p" (nestedLists 123)))
        (codes (under "pattern-extract" "p" (nestedLists 123))) ∧
      plan? .builtins (codes (beside "pattern-extract" "p" (nestedLists 123)))
        = .ok (.error (.configuration (.unknownParameter "code" "pattern-extract" "p"))) ∧
      plan? .builtins (codes (under "pattern-extract" "p" (nestedLists 123)))
        = .error .malformed) ∧
    (DeriveConfig.freeForm.Respelled (codes (twoKinds "a" "b")) (codes (twoKinds "b" "a")) ∧
      plan? .builtins (codes (twoKinds "a" "b")) = .ok (.error (.unknownExpression "b" "code")) ∧
      plan? .builtins (codes (twoKinds "b" "a")) = .ok (.error (.unknownExpression "a" "code"))) ∧
    (DeriveConfig.freeForm.Respelled (codes (beside "first" "p" (pair "a" "b")))
        (codes (beside "first" "p" (pair "b" "a"))) ∧
      plan? firstKeys (codes (beside "first" "p" (pair "a" "b")))
        = .ok (.error (.unknownExpression "a" "code")) ∧
      plan? firstKeys (codes (beside "first" "p" (pair "b" "a")))
        = .ok (.error (.unknownExpression "b" "code"))) := by
  have hab : "a" ≠ "b" := by decide
  refine ⟨⟨respelled_codes ?nest, ?beside, ?under⟩, ⟨respelled_codes ?swap, ?last, ?first⟩,
    respelled_codes ?inside, ?before, ?after⟩
  case nest => exact .nest (nests_under (by decide) (by decide) _) trivial fun _ _ => trivial
  case beside =>
    have hvalue : Yaml.read 124 (nestedLists 123) = .ok (nestedSequences 123) :=
      (read_nestedLists 124 123).trans (if_pos (by decide))
    exact plan?_codes (read_beside (by decide) hvalue) rfl
  case under =>
    have hvalue : Yaml.read 123 (nestedLists 123) = .error .malformed :=
      (read_nestedLists 123 123).trans (if_neg (by decide))
    exact plan?_under hvalue
  case swap =>
    exact .reorder (.swap _ _ _) (.cons (.refl _) (.refl _) (.cons (.refl _) (.refl _) .nil)) trivial
  case last => exact plan?_codes (read_twoKinds 124 "a" "b") rfl
  case first => exact plan?_codes (read_twoKinds 124 "b" "a") rfl
  case inside =>
    exact .reorder (.refl _)
      (.cons (.refl _) (.refl _) (.cons (.refl _) (reordered_pair hab) .nil)) trivial
  case before => exact plan?_codes (read_beside (by decide) (read_pair 122 hab)) rfl
  case after => exact plan?_codes (read_beside (by decide) (read_pair 122 hab.symm)) rfl

end SheetGrammar
