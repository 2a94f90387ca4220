import SheetGrammar.Proofs.Yaml.Tokens
import SheetGrammar.Yaml.Node

/-!
# Nodes of written records

The tokens of written records form the tree that was written.  No anchors and no aliases occur, so
that it does not matter how many aliases may be followed.

## Main definitions

* `nodeOf`, `nodesOf`, `entryNodes` — the nodes of nested records.

## Main results

* `readNode_value`, `readDashes_items`, `readBlockEntries_entries` — the tokens of a value, of
  items and of entries are read as their nodes.
* `ofText_render` — the node of a written mapping.
-/

namespace SheetGrammar.Yaml

mutual

/-- The node of a value. -/
def nodeOf : Yaml → Node
  | .integer n => .scalar none .plain (toString n)
  | .float x => .scalar none .plain (String.ofList (floatText x))
  | .string s => .scalar none (styleOf s.toList) s
  | .sequence items => .sequence none (nodesOf items) true
  | .mapping entries => .mapping none (entryNodes entries) true
  | _ => .empty

/-- The nodes of items. -/
def nodesOf : List Yaml → List Node
  | [] => []
  | y :: ys => nodeOf y :: nodesOf ys

/-- The nodes of entries. -/
def entryNodes : List (Yaml × Yaml) → List (Node × Node)
  | [] => []
  | (k, v) :: es => (nodeOf k, nodeOf v) :: entryNodes es

end

/-! ### Tokens ahead -/

namespace Progress

variable {p : Progress} {t : Token} {ts : List Token}

theorem peek_of_rest (h : p.rest = some ts) : p.peek = ts.head? := by
  rw [peek, h]
  rfl

theorem skip_of_rest (h : p.rest = some (t :: ts)) : p.skip.rest = some ts := by
  rw [skip, h]
  rfl

theorem isAt_of_rest (h : p.rest = some ts) (among : List Token) :
    p.isAt among = ts.head?.any among.contains := by
  rw [isAt, peek_of_rest h]

theorem stopped_of_rest (h : p.rest = some ts) : p.stopped = false := by
  rw [stopped, h]
  rfl

/-- Nothing is read in front of a node without an anchor and a tag. -/
theorem readProperties_of_rest (h : p.rest = some ts) (hanchor : ∀ a, ts.head? ≠ some (.anchor a))
    (htag : ∀ handle suffix, ts.head? ≠ some (.tag handle suffix)) :
    readProperties p = (⟨none, none⟩, p) := by
  have hpeek := peek_of_rest h
  have hreadAnchor : readAnchorProperty p = (none, p) := by
    unfold readAnchorProperty
    split
    · next a ha => exact absurd (hpeek.symm.trans ha) (hanchor a)
    · rfl
  have hreadTag : readTagProperty p = (none, p) := by
    unfold readTagProperty
    split
    · next handle suffix ht => exact absurd (hpeek.symm.trans ht) (htag handle suffix)
    · rfl
  simp only [readProperties, hreadAnchor, hreadTag]

end Progress

variable {p : Progress} {ts more : List Token} {t : Token} {fuel : Nat}

/-! ### Nodes -/

theorem readNode_scalar {style : Style} {text : String} (fuel : Nat) (block dashes : Bool)
    (h : p.rest = some (.scalar style text :: more)) :
    ∃ q : Progress, q.rest = some more ∧
      readNode (fuel + 1) block dashes p = (.scalar none style text, q) := by
  have hpeek : p.peek = some (.scalar style text) := Progress.peek_of_rest h
  refine ⟨p.skip.count 1, Progress.skip_of_rest h, ?_⟩
  rw [readNode]
  simp only [hpeek, Progress.readProperties_of_rest h (by simp) (by simp), Progress.name]
  rfl

/-- A sequence without items stands in brackets. -/
theorem readNode_brackets (block dashes : Bool)
    (h : p.rest = some (.flowSequenceStart :: .flowSequenceEnd :: more)) :
    ∃ q : Progress, q.rest = some more ∧
      readNode (fuel + 2) block dashes p = (.sequence none [] true, q) := by
  have hpeek : p.peek = some .flowSequenceStart := Progress.peek_of_rest h
  have hinside := Progress.skip_of_rest h
  have hread : readFlowItems (fuel + 1) true p.skip = ([], true, p.skip.skip) := by
    have hend : p.skip.peek = some .flowSequenceEnd := Progress.peek_of_rest hinside
    rw [readFlowItems]
    simp only [hend]
  refine ⟨p.skip.skip.complete p none (.sequence none [] true), Progress.skip_of_rest hinside, ?_⟩
  rw [readNode]
  simp only [hpeek, Progress.readProperties_of_rest h (by simp) (by simp), Progress.name, hread]

/-- A sequence in the column of its mapping starts with a dash. -/
theorem readNode_dashes {items : List Node} {q : Progress} (h : p.rest = some (.blockEntry :: ts))
    (hread : readDashes fuel p = (items, true, q)) (hq : q.rest = some more) :
    ∃ q : Progress, q.rest = some more ∧
      readNode (fuel + 1) true true p = (.sequence none items true, q) := by
  have hpeek : p.peek = some .blockEntry := Progress.peek_of_rest h
  refine ⟨q.complete p none (.sequence none items true), hq, ?_⟩
  rw [readNode]
  simp only [hpeek, Progress.readProperties_of_rest h (by simp) (by simp), Progress.name, hread,
    if_true]

/-- A mapping is opened and closed. -/
theorem readNode_mapping {entries : List (Node × Node)} {q : Progress} (dashes : Bool)
    (h : p.rest = some (.blockMappingStart :: ts))
    (hread : readBlockEntries fuel p.skip = (entries, true, q)) (hq : q.rest = some more) :
    ∃ q : Progress, q.rest = some more ∧
      readNode (fuel + 1) true dashes p = (.mapping none entries true, q) := by
  have hpeek : p.peek = some .blockMappingStart := Progress.peek_of_rest h
  refine ⟨q.complete p none (.mapping none entries true), hq, ?_⟩
  rw [readNode]
  simp only [hpeek, Progress.readProperties_of_rest h (by simp) (by simp), Progress.name, hread,
    if_true]

/-- An item behind its dash, and those that follow it. -/
theorem readDashes_cons {n : Node} {ns : List Node} {q r : Progress} {ts' : List Token}
    (h : p.rest = some (.blockEntry :: t :: ts))
    (ht : t ∉ [Token.blockEntry, .key, .value, .blockEnd])
    (hread : readNode fuel true false p.skip = (n, q)) (hq : q.rest = some ts')
    (hitems : readDashes fuel q = (ns, true, r)) :
    readDashes (fuel + 1) p = (n :: ns, true, r) := by
  have hpeek : p.peek = some .blockEntry := Progress.peek_of_rest h
  have hat : p.skip.isAt [.blockEntry, .key, .value, .blockEnd] = false := by
    rw [Progress.isAt_of_rest (Progress.skip_of_rest h)]
    simpa using ht
  rw [readDashes]
  simp only [hpeek, hat, hread, Progress.stopped_of_rest hq, hitems, Bool.false_eq_true, if_false]

/-- The items end where no dash follows. -/
theorem readDashes_end (h : p.rest = some (t :: ts)) (ht : t ≠ .blockEntry) :
    readDashes (fuel + 1) p = ([], true, p) := by
  have hpeek : p.peek = some t := Progress.peek_of_rest h
  rw [readDashes]
  split
  · next hentry => exact absurd (Option.some.inj (hpeek.symm.trans hentry)) ht
  · rfl
  · next hnone => cases hpeek.symm.trans hnone

/-- An entry, and those that follow it. -/
theorem readBlockEntries_cons {style : Style} {key : String} {v : Node} {es : List (Node × Node)}
    {ts' : List Token} (h : p.rest = some (.key :: .scalar style key :: .value :: t :: ts))
    (ht : t ∉ [Token.key, .value, .blockEnd])
    (hvalue : ∀ p : Progress, p.rest = some (t :: ts) →
      ∃ q : Progress, q.rest = some ts' ∧ readNode fuel true true p = (v, q))
    (hentries : ∀ p : Progress, p.rest = some ts' →
      ∃ q : Progress, q.rest = some more ∧ readBlockEntries fuel p = (es, true, q)) :
    ∃ q : Progress, q.rest = some more ∧
      readBlockEntries (fuel + 2) p = ((.scalar none style key, v) :: es, true, q) := by
  have hkey := Progress.skip_of_rest h
  obtain ⟨q, hq, hreadKey⟩ := readNode_scalar fuel true true hkey
  have hbehind := Progress.skip_of_rest hq
  obtain ⟨r, hr, hreadValue⟩ := hvalue q.skip hbehind
  obtain ⟨w, hw, hreadEntries⟩ := hentries r hr
  have hpeek : p.peek = some .key := Progress.peek_of_rest h
  have hpeekValue : q.peek = some .value := Progress.peek_of_rest hq
  have hat : p.skip.isAt [.key, .value, .blockEnd] = false := by
    rw [Progress.isAt_of_rest hkey]
    rfl
  have hatValue : q.skip.isAt [.key, .value, .blockEnd] = false := by
    rw [Progress.isAt_of_rest hbehind]
    simpa using ht
  refine ⟨w, hw, ?_⟩
  rw [readBlockEntries]
  simp only [hpeek, hat, hreadKey, Progress.stopped_of_rest hq, Bool.false_eq_true, if_false]
  rw [readBlockValue]
  simp only [hpeekValue, hatValue, hreadValue, Progress.stopped_of_rest hr, hreadEntries,
    Bool.false_eq_true, if_false]

/-- The entries end with their mapping. -/
theorem readBlockEntries_end (h : p.rest = some (.blockEnd :: ts)) :
    readBlockEntries (fuel + 1) p = ([], true, p.skip) := by
  have hpeek : p.peek = some .blockEnd := Progress.peek_of_rest h
  rw [readBlockEntries]
  simp only [hpeek]

/-! ### Records

Any tokens may stand behind those of a value.  A call of the reader takes a token or is the last one
for its collection, so that the number of tokens bounds the fuel. -/

/-- The first token of a value starts a node. -/
theorem valueTokens_eq_cons {v : Yaml} (hv : IsFieldValue v) :
    ∃ t ts, valueTokens v = t :: ts ∧ t ∉ [Token.key, .value, .blockEnd] := by
  cases v with
  | integer n => exact ⟨_, _, rfl, by simp⟩
  | float x => exact ⟨_, _, rfl, by simp⟩
  | string s => exact ⟨_, _, rfl, by simp⟩
  | sequence items =>
    cases items with
    | nil => exact ⟨_, _, rfl, by simp⟩
    | cons y ys => exact ⟨_, _, rfl, by simp⟩
  | _ => exact absurd hv (by simp [IsFieldValue])

mutual

/-- **The tokens of a value** are read as its node. -/
theorem readNode_value : ∀ v : Yaml, IsFieldValue v →
    ∀ (fuel : Nat) ⦃p : Progress⦄ ⦃t : Token⦄ ⦃more : List Token⦄,
      p.rest = some (valueTokens v ++ t :: more) → t ≠ .blockEntry →
      (valueTokens v).length + 2 ≤ fuel →
      ∃ q : Progress, q.rest = some (t :: more) ∧ readNode fuel true true p = (nodeOf v, q)
  | .integer n, _ => by
    intro fuel p t more h _ hfuel
    obtain ⟨fuel, rfl⟩ := Nat.exists_eq_add_of_le' hfuel
    exact readNode_scalar _ true true h
  | .float x, _ => by
    intro fuel p t more h _ hfuel
    obtain ⟨fuel, rfl⟩ := Nat.exists_eq_add_of_le' hfuel
    exact readNode_scalar _ true true h
  | .string s, _ => by
    intro fuel p t more h _ hfuel
    obtain ⟨fuel, rfl⟩ := Nat.exists_eq_add_of_le' hfuel
    exact readNode_scalar _ true true h
  | .sequence items, hitems => by
    intro fuel p t more h ht hfuel
    obtain ⟨fuel, rfl⟩ : ∃ m, fuel = m + 2 := ⟨fuel - 2, by omega⟩
    -- a sequence without items has tokens of its own
    by_cases hne : items = []
    · subst hne
      exact readNode_brackets true true h
    · have htokens : valueTokens (.sequence items) = itemTokens items := by
        rw [valueTokens]
        exact hne
      rw [htokens] at h hfuel
      obtain ⟨q, hq, hread⟩ := readDashes_items items hitems (fuel + 1) h ht (by omega)
      obtain ⟨y, ys, rfl⟩ := List.exists_cons_of_ne_nil hne
      exact readNode_dashes h hread hq

/-- **The tokens of items** are read as their nodes. -/
theorem readDashes_items : ∀ items : List Yaml, AreRecords items →
    ∀ (fuel : Nat) ⦃p : Progress⦄ ⦃t : Token⦄ ⦃more : List Token⦄,
      p.rest = some (itemTokens items ++ t :: more) → t ≠ .blockEntry →
      (itemTokens items).length + 1 ≤ fuel →
      ∃ q : Progress, q.rest = some (t :: more) ∧ readDashes fuel p = (nodesOf items, true, q)
  | [], _ => by
    intro fuel p t more h ht hfuel
    obtain ⟨fuel, rfl⟩ := Nat.exists_eq_add_of_le' hfuel
    exact ⟨p, h, readDashes_end h ht⟩
  | .mapping es :: ys, ⟨_, hes, hys⟩ => by
    intro fuel p t more h ht hfuel
    simp only [itemTokens, valueTokens, List.cons_append, List.append_assoc, List.length_cons,
      List.length_append, List.nil_append] at h hfuel
    obtain ⟨fuel, rfl⟩ : ∃ m, fuel = m + 2 := ⟨fuel - 2, by omega⟩
    have hitem := Progress.skip_of_rest h
    -- the dash, the item between its start and its end, and then the other items
    obtain ⟨q, hq, hentries⟩ := readBlockEntries_entries es hes fuel
      (Progress.skip_of_rest hitem) (by omega)
    obtain ⟨r, hr, hmapping⟩ := readNode_mapping false hitem hentries hq
    obtain ⟨w, hw, hrest⟩ := readDashes_items ys hys (fuel + 1) hr ht (by omega)
    exact ⟨w, hw, readDashes_cons h (by simp) hmapping hr hrest⟩

/-- **The tokens of entries** are read as their nodes. -/
theorem readBlockEntries_entries : ∀ entries : List (Yaml × Yaml), AreFields entries →
    ∀ (fuel : Nat) ⦃p : Progress⦄ ⦃more : List Token⦄,
      p.rest = some (entryTokens entries ++ .blockEnd :: more) →
      (entryTokens entries).length + 1 ≤ fuel →
      ∃ q : Progress, q.rest = some more ∧
        readBlockEntries fuel p = (entryNodes entries, true, q)
  | [], _ => by
    intro fuel p more h hfuel
    obtain ⟨fuel, rfl⟩ := Nat.exists_eq_add_of_le' hfuel
    exact ⟨p.skip, Progress.skip_of_rest h, readBlockEntries_end h⟩
  | (.string key, v) :: es, ⟨_, hv, hes⟩ => by
    intro fuel p more h hfuel
    obtain ⟨x, xs, hx, hstart⟩ := valueTokens_eq_cons hv
    -- what follows a value is a key or the end of the mapping, but no dash
    have hnext : ∃ y ys, entryTokens es ++ .blockEnd :: more = y :: ys ∧ y ≠ .blockEntry := by
      cases es with
      | nil => exact ⟨_, _, rfl, by simp⟩
      | cons e es => exact ⟨_, _, rfl, by simp⟩
    obtain ⟨y, ys, hy, hdash⟩ := hnext
    simp only [entryTokens, valueTokens, List.cons_append, List.append_assoc, List.length_cons,
      List.length_append, List.nil_append, hy] at h hfuel
    obtain ⟨fuel, rfl⟩ : ∃ m, fuel = m + 2 := ⟨fuel - 2, by omega⟩
    rw [hx, List.cons_append] at h
    refine readBlockEntries_cons h hstart
      (fun p hp => readNode_value v hv fuel ?_ hdash (by omega))
      (fun p hp =>
        readBlockEntries_entries es hes fuel (hp.trans (congrArg some hy.symm)) (by omega))
    rw [hp, hx, List.cons_append]

end

/-- The content of a document is a mapping, and its end follows. -/
theorem readContent_mapping {es : List (Yaml × Yaml)} (h : AreFields es) (marked : Bool) :
    readContent [] (valueTokens (.mapping es) ++ endTokens marked)
      = (nodeOf (.mapping es), true) := by
  have hread : ∀ maxJumps, ∃ q : Progress, q.rest = some (endTokens marked) ∧
      readNode (stepBound (valueTokens (.mapping es) ++ endTokens marked)) true false
        (.start (valueTokens (.mapping es) ++ endTokens marked) [] maxJumps)
        = (nodeOf (.mapping es), q) := by
    intro maxJumps
    have hstart : (Progress.start (valueTokens (.mapping es) ++ endTokens marked) [] maxJumps).rest
        = some (.blockMappingStart :: (entryTokens es ++ .blockEnd :: endTokens marked)) := by
      simp [Progress.start, valueTokens]
    -- the bound of the reader counts the tokens
    have hfuel : ∃ fuel, stepBound (valueTokens (.mapping es) ++ endTokens marked) = fuel + 1 ∧
        (entryTokens es).length + 1 ≤ fuel := by
      refine ⟨_, rfl, ?_⟩
      simp only [valueTokens, List.length_cons, List.length_append]
      omega
    obtain ⟨fuel, hbound, hfuel⟩ := hfuel
    obtain ⟨q, hq, hentries⟩ :=
      readBlockEntries_entries es h fuel (Progress.skip_of_rest hstart) hfuel
    rw [hbound]
    exact readNode_mapping false hstart hentries hq
  have hend : isEnd (endTokens marked) = true := by
    cases marked with
    | false => rfl
    | true => rfl
  unfold readContent
  dsimp only
  -- without an alias there is no jump, so any number of them is allowed
  generalize some (jumpsPerPart * _) = maxJumps
  obtain ⟨q, hq, hnode⟩ := hread maxJumps
  rw [hnode, hq]
  exact congrArg (Prod.mk _) hend

/-- **The node of a written mapping**, behind which nothing follows. -/
theorem ofText_render {es : List (Yaml × Yaml)} (hne : es ≠ []) (h : AreFields es) :
    Node.ofText (render (.mapping es)) = (nodeOf (.mapping es), true) := by
  have hstart : valueTokens (.mapping es) ++ endTokens (opens false (.mapping es))
      = .blockMappingStart :: (entryTokens es ++ [.blockEnd]
        ++ endTokens (opens false (.mapping es))) := by
    simp [valueTokens]
  have hcontent := readContent_mapping h (opens false (.mapping es))
  rw [Node.ofText, tokens_render hne h]
  rw [hstart] at hcontent ⊢
  exact hcontent

end SheetGrammar.Yaml
