import SheetGrammar.Proofs.Classifier.Walk

/-!
# The records of a classifier fit the grammar

A record fits the grammar if its type is defined, its groups follow the order of the child
types, and the records of each group bear its name and count up from 1.  While a frame
collects records, its cursor bounds the groups that its open record can have: those of the
child types that the cursor has passed, and without the last of them while a frame stands
above that is still collecting for it.

## Main definitions

* `Record.Numbered` — records of one name that count up from 1.
* `Record.Conforms` — a record with its groups fits the grammar.
* `Frame.Fits` — the same for what a frame holds, with a bound on the groups of the open
  record.

## Main results

* `Frame.Fits.attach` — closing a frame adds a group within the bound of the frame under it.
* `Classifier.Stepped.fitting` — every transition keeps all frames fitting.
* `Classifier.index_le_of_classify` — no index in a sheet exceeds the number of its rows.
* `Classifier.conforms_finish_after` — the finished records fit the grammar.
-/

namespace SheetGrammar

namespace Record

variable {g : Grammar} {name : String} {rs : List Record} {r : Record}

/-! ### Siblings -/

/-- Records that bear a name and count up from 1. -/
def Numbered (name : String) (rs : List Record) : Prop :=
  ∀ i r, rs[i]? = some r → r.name = name ∧ r.index = i + 1

theorem numbered_nil (name : String) : Numbered name [] := by
  intro i r h
  simp at h

/-- One more record with the next number. -/
theorem Numbered.concat (h : Numbered name rs) (hn : r.name = name)
    (hi : r.index = rs.length + 1) : Numbered name (rs ++ [r]) := by
  intro i s hs
  rcases Nat.lt_trichotomy i rs.length with hlt | heq | hgt
  · rw [List.getElem?_append_left hlt] at hs
    exact h i s hs
  · subst heq
    rw [List.getElem?_append_right (Nat.le_refl _)] at hs
    obtain rfl : r = s := by simpa using hs
    exact ⟨hn, hi⟩
  · rw [List.getElem?_eq_none (by simp; omega)] at hs
    cases hs

theorem Numbered.of_concat (h : Numbered name (rs ++ [r])) :
    Numbered name rs ∧ r.name = name ∧ r.index = rs.length + 1 := by
  refine ⟨?_, h rs.length r (by simp)⟩
  intro i s hs
  have hi := (List.getElem?_eq_some_iff.mp hs).1
  exact h i s (by rw [List.getElem?_append_left hi]; exact hs)

/-! ### Records and their groups -/

/-- A group holds records, which are siblings of its name. -/
structure GroupConforms (k : Group Record) : Prop where
  ne_nil : k.rows ≠ []
  numbered : Numbered k.name k.rows

/-- A record fits the grammar: its type is defined, and its groups are those of some of the
child types, in their order. -/
def Conforms (g : Grammar) (r : Record) : Prop :=
  ∃ t, g.get? r.name = some t ∧ (r.children.map Group.name).Sublist t.children ∧
    ∀ k ∈ r.children, GroupConforms k

theorem conforms_leaf {t : RowType} (h : g.get? name = some t) (index : Nat)
    (columns : List Column) : Conforms g ⟨name, index, columns, []⟩ :=
  ⟨t, h, List.nil_sublist _, by simp⟩

/-- All records of some trees fit the grammar. -/
def AllConform (g : Grammar) (rs : List Record) : Prop := ∀ r ∈ walkRows rs, r.Conforms g

theorem allConform_append {ss : List Record} :
    AllConform g (rs ++ ss) ↔ AllConform g rs ∧ AllConform g ss := by
  simp [AllConform, or_imp, forall_and]

theorem allConform_singleton :
    AllConform g [r] ↔ r.Conforms g ∧ ∀ s ∈ walkGroups r.children, s.Conforms g := by
  simp [AllConform, walk_eq]

/-- A record that gets one more group keeps fitting if the name of the group comes behind
those of the others in the child types. -/
theorem AllConform.addGroup {t : RowType} {k : Group Record} (h : AllConform g [r])
    (ht : g.get? r.name = some t)
    (hsub : ((r.children ++ [k]).map Group.name).Sublist t.children) (hk : GroupConforms k)
    (hrows : AllConform g k.rows) :
    AllConform g [{ r with children := r.children ++ [k] }] := by
  rw [allConform_singleton] at h ⊢
  obtain ⟨⟨t', ht', -, hgroups⟩, hunder⟩ := h
  refine ⟨⟨t, ht, hsub, ?_⟩, ?_⟩
  · intro k' hk'
    rcases List.mem_append.mp hk' with hk' | hk'
    · exact hgroups k' hk'
    · obtain rfl := List.mem_singleton.mp hk'
      exact hk
  · intro s hs
    rw [walkGroups_append, walkGroups_singleton] at hs
    rcases List.mem_append.mp hs with hs | hs
    · exact hunder s hs
    · exact hrows s hs

/-! ### Indexes -/

theorem length_le_countRows (rs : List Record) : rs.length ≤ countRows rs := by
  induction rs with
  | nil => exact Nat.le_refl 0
  | cons r rs ih =>
    obtain ⟨_, _, _, children⟩ := r
    rw [List.length_cons, countRows, count]
    omega

theorem Numbered.index_le {n : Nat} (h : Numbered name rs) (hn : countRows rs ≤ n) :
    ∀ r ∈ rs, r.index ≤ n := by
  intro r hr
  obtain ⟨i, hi⟩ := List.mem_iff_getElem?.mp hr
  have hlt := (List.getElem?_eq_some_iff.mp hi).1
  rw [(h i r hi).2]
  exact Nat.le_trans hlt (Nat.le_trans (length_le_countRows rs) hn)

mutual

theorem index_le_of_walk :
    ∀ (r : Record) {n : Nat}, (∀ s ∈ r.walk, s.Conforms g) → r.index ≤ n → r.count ≤ n →
      ∀ s ∈ r.walk, s.index ≤ n
  | ⟨_, _, _, children⟩, n, h, hindex, hcount => by
    obtain ⟨_, _, _, hgroups⟩ := h _ List.mem_cons_self
    have hunder := index_le_of_walkGroups children hgroups
      (fun s hs => h s (List.mem_cons_of_mem _ hs)) (Nat.le_trans (Nat.le_add_left _ 1) hcount)
    intro s hs
    rcases List.mem_cons.mp hs with heq | hs
    · rw [heq]
      exact hindex
    · exact hunder s hs

theorem index_le_of_walkGroups :
    ∀ (ks : List (Group Record)) {n : Nat}, (∀ k ∈ ks, GroupConforms k) →
      (∀ s ∈ walkGroups ks, s.Conforms g) → countGroups ks ≤ n → ∀ s ∈ walkGroups ks, s.index ≤ n
  | [], _, _, _, _ => by simp [walkGroups]
  | ⟨_, rows⟩ :: ks, n, hgroups, h, hcount => by
    rw [countGroups] at hcount
    -- a group is numbered from 1, so its length bounds its indexes
    have hcountRows : countRows rows ≤ n := Nat.le_trans (Nat.le_add_right _ _) hcount
    have hnumbered := (hgroups _ List.mem_cons_self).numbered
    have hrows := index_le_of_walkRows rows (hnumbered.index_le hcountRows)
      (fun s hs => h s (List.mem_append_left _ hs)) hcountRows
    have hks := index_le_of_walkGroups ks (fun k hk => hgroups k (List.mem_cons_of_mem _ hk))
      (fun s hs => h s (List.mem_append_right _ hs)) (Nat.le_trans (Nat.le_add_left _ _) hcount)
    intro s hs
    rcases List.mem_append.mp hs with hs | hs
    · exact hrows s hs
    · exact hks s hs

theorem index_le_of_walkRows :
    ∀ (rs : List Record) {n : Nat}, (∀ r ∈ rs, r.index ≤ n) → (∀ s ∈ walkRows rs, s.Conforms g) →
      countRows rs ≤ n → ∀ s ∈ walkRows rs, s.index ≤ n
  | [], _, _, _, _ => by simp [walkRows]
  | r :: rs, n, hindex, h, hcount => by
    rw [countRows] at hcount
    have hr := index_le_of_walk r (fun s hs => h s (List.mem_append_left _ hs))
      (hindex r List.mem_cons_self) (Nat.le_trans (Nat.le_add_right _ _) hcount)
    have hrs := index_le_of_walkRows rs (fun s hs => hindex s (List.mem_cons_of_mem r hs))
      (fun s hs => h s (List.mem_append_right _ hs)) (Nat.le_trans (Nat.le_add_left _ _) hcount)
    intro s hs
    rcases List.mem_append.mp hs with hs | hs
    · exact hr s hs
    · exact hrs s hs

end

/-- In records that fit the grammar no index exceeds the number of the records. -/
theorem AllConform.index_le (h : AllConform g rs) (hnumbered : Numbered name rs) :
    ∀ r ∈ walkRows rs, r.index ≤ countRows rs :=
  index_le_of_walkRows rs (hnumbered.index_le (Nat.le_refl _)) h (Nat.le_refl _)

end Record

namespace Frame

variable {g : Grammar} {f above : Frame} {m n : Nat}

/-! ### Frames -/

/-- What a frame holds fits the grammar, and the groups of its open record are among the
first `n` child types. -/
structure Fits (g : Grammar) (n : Nat) (f : Frame) : Prop where
  numbered : Record.Numbered f.rowType.name f.records
  conforms : Record.AllConform g f.records
  groups : ∀ r ∈ f.rows.head?, (r.children.map Group.name).Sublist (f.rowType.children.take n)

theorem fits_ofRowType (t : RowType) : (ofRowType t).Fits g n :=
  ⟨Record.numbered_nil _, by simp [Record.AllConform, Record.walkRows], by simp⟩

theorem Fits.mono (h : f.Fits g m) (hmn : m ≤ n) : f.Fits g n :=
  ⟨h.numbered, h.conforms, fun r hr =>
    (h.groups r hr).trans (List.take_sublist_take_left hmn)⟩

theorem Fits.advance (h : f.Fits g n) : f.advance.Fits g n :=
  ⟨h.numbered, h.conforms, h.groups⟩

theorem Fits.add (h : f.Fits g n) (hs : f.Sound g) (columns : List Column) :
    (f.add columns).Fits g 0 where
  numbered := by
    rw [records_add]
    exact h.numbered.concat rfl (by simp [records])
  conforms := by
    rw [records_add, Record.allConform_append]
    refine ⟨h.conforms, ?_⟩
    rw [Record.allConform_singleton]
    exact ⟨Record.conforms_leaf hs.defined _ _, by simp [Record.walkGroups]⟩
  groups := by simp

/-- The name behind the first `n - 1` of a list makes them the first `n`. -/
theorem sublist_take_concat {names children : List String} {name : String} (hn : 0 < n)
    (h : names.Sublist (children.take (n - 1))) (hname : children[n - 1]? = some name) :
    (names ++ [name]).Sublist (children.take n) := by
  have htake : children.take n = children.take (n - 1) ++ [name] := by
    conv_lhs => rw [← Nat.sub_add_cancel hn, List.take_add_one, hname, Option.toList_some]
  rw [htake]
  exact h.append (List.Sublist.refl _)

/-- Closing a frame puts its records as a group under the open record of the frame below,
which then may have groups up to the cursor. -/
theorem Fits.attach (h : f.Fits g (f.nextChild - 1)) (hs : f.Sound g) (hf : f.Supports above)
    (ha : above.Fits g m) : (f.attach above).Fits g (f.attach above).nextChild := by
  rw [nextChild_attach]
  by_cases hrows : above.rows = []
  · rw [attach_of_rows_eq_nil f hrows]
    exact h.mono (Nat.sub_le _ _)
  · obtain ⟨r, rs, hr⟩ := List.exists_cons_of_ne_nil hf.isOpen
    -- the open record is the last one, and only its groups change
    have hf' : f.records = rs.reverse ++ [r] := by simp [records, hr]
    obtain ⟨hnumbered, hname, hindex⟩ := (hf' ▸ h.numbered).of_concat
    obtain ⟨hclosed, hopen⟩ := Record.allConform_append.mp (hf' ▸ h.conforms)
    have hsub := sublist_take_concat hf.cursor_pos (h.groups r (by simp [hr])) hf.child
    refine ⟨?_, ?_, ?_⟩
    · rw [rowType_attach, records_attach hr hrows]
      exact hnumbered.concat hname hindex
    · rw [records_attach hr hrows, Record.allConform_append]
      refine ⟨hclosed, hopen.addGroup (hname ▸ hs.defined) ?_ ⟨?_, ha.numbered⟩ ha.conforms⟩
      · rw [List.map_append, List.map_singleton]
        exact hsub.trans (List.take_sublist _ _)
      · simpa [records] using hrows
    · obtain ⟨a, as, has⟩ := List.exists_cons_of_ne_nil hrows
      simpa [Frame.attach, hr, has] using hsub

end Frame

namespace Classifier

variable {g : Grammar} {entry : String} {top f : Frame} {below : List Frame}

/-! ### Stacks -/

/-- All frames of a stack fit: the top one up to its cursor, and the others without the
child type that the frame above them collects. -/
structure Fitting (g : Grammar) (top : Frame) (below : List Frame) : Prop where
  top : top.Fits g top.nextChild
  below : ∀ f ∈ below, f.Fits g (f.nextChild - 1)

theorem Fitting.close (h : Fitting g top (f :: below)) (hstack : Stacked g entry top (f :: below)) :
    Fitting g (f.attach top) below := by
  cases hstack with
  | push ht hs hstack =>
    refine ⟨?_, fun f' hf' => h.below f' (List.mem_cons_of_mem _ hf')⟩
    exact (h.below f List.mem_cons_self).attach hstack.sound hs h.top

/-- Unwinding a stack ends in a frame that fits. -/
theorem Fitting.unwind (h : Fitting g top below) (hstack : Stacked g entry top below) :
    Fitting g (unwind top below) [] := by
  induction below generalizing top with
  | nil => exact h
  | cons f below ih => exact ih (h.close hstack) hstack.close

theorem Stepped.fitting {c d : Classifier} {cells : List String} {r : Except Error Transition}
    (hs : Stepped c cells d r) (hstack : HasStack entry c)
    (h : Fitting c.grammar c.top c.below) : Fitting d.grammar d.top d.below := by
  have hsound := hstack.sound
  cases hs with
  | matched columns => exact ⟨h.top.add hsound columns, h.below⟩
  | misread e => exact h
  | descended child rest t =>
    refine ⟨Frame.fits_ofRowType t, ?_⟩
    intro f hf
    rcases List.mem_cons.mp hf with rfl | hf
    · exact h.top.advance
    · exact h.below f hf
  | undefinedChild child rest =>
    exact ⟨h.top.advance.mono (Nat.le_succ _), h.below⟩
  | ascended f below _ _ hb =>
    unfold HasStack at hstack
    rw [hb] at h hstack
    exact h.close hstack
  | dropped => exact h

theorem fitting_after {c : Classifier} (hstack : HasStack entry c)
    (h : Fitting c.grammar c.top c.below) (ks : List Call) :
    Fitting (c.after ks).grammar (c.after ks).top (c.after ks).below :=
  (after_induction (P := fun c => HasStack entry c ∧ Fitting c.grammar c.top c.below)
    (fun hs h => ⟨hs.stacked h.1, hs.fitting h.1 h.2⟩) (fun _ _ h => h) ⟨hstack, h⟩ ks).2

/-! ### The theorem -/

/-- Once all others are closed, the root frame fits. -/
theorem root_fits_after {sheet : String} {c : Classifier} (h : ofEntry g entry sheet = .ok c)
    (ks : List Call) :
    ∃ (f : Frame) (n : Nat),
      f.Fits g n ∧ f.rowType.name = entry ∧ f.records = (c.after ks).finish := by
  have hstack := stacked_of_ofEntry h
  have hgrammar : (c.after ks).grammar = g := by
    obtain ⟨t, -, rfl⟩ := eq_of_ofEntry h
    exact (context_after _ ks).1
  have hstart : Fitting c.grammar c.top c.below := by
    obtain ⟨t, -, rfl⟩ := eq_of_ofEntry h
    exact ⟨Frame.fits_ofRowType t, by simp⟩
  have hroot := (stacked_after hstack ks).unwind
  have hfits := ((fitting_after hstack hstart ks).unwind (stacked_after hstack ks)).top
  rw [hgrammar] at hfits
  cases hroot with
  | root _ he => exact ⟨_, _, hfits, he, rfl⟩

/-- No index in a sheet exceeds the number of its rows. -/
theorem index_le_of_classify {s : Sheet} {rows : List Record}
    (h : classify g entry s = .ok rows) : ∀ r ∈ Record.walkRows rows, r.index ≤ s.rows.length := by
  obtain ⟨c, d, hc, hd, rfl, hcount⟩ := recordCount_of_classify h
  obtain ⟨f, n, hfits, -, hrecords⟩ := root_fits_after hc (s.rows.map .feed)
  rw [← (length_matchedRows_feedAll hd).1] at hrecords
  intro r hr
  rw [← hrecords] at hr hcount
  calc
    r.index ≤ Record.countRows f.records := hfits.conforms.index_le hfits.numbered r hr
    _ ≤ Record.countRows f.records + d.rowsDropped := Nat.le_add_right _ _
    _ = s.rows.length := hcount

/-- **The classified tree fits the grammar.** Whatever is done with a classifier, the records
at the root bear the name of the entry type and count up from 1, and every record at any
depth is of a defined type, with groups in the order of the child types whose records bear
the name of the group and count up from 1. -/
theorem conforms_finish_after {sheet : String} {c : Classifier}
    (h : ofEntry g entry sheet = .ok c) (ks : List Call) :
    Record.Numbered entry (c.after ks).finish ∧
      ∀ r ∈ Record.walkRows (c.after ks).finish, r.Conforms g := by
  obtain ⟨f, n, hfits, hname, hrecords⟩ := root_fits_after h ks
  rw [← hrecords]
  exact ⟨hname ▸ hfits.numbered, hfits.conforms⟩

/-- An order inside another one, which is numbered anew, behind an item that cannot be
read. -/
theorem conforms_finish_orders :
    ofEntry .orders "order" "s" = .ok orders ∧
      Record.Numbered "order" (orders.after
        [.feed ["O", "1"], .feed ["I", "2"], .feed ["I", "x"], .feed ["O", "3"]]).finish ∧
      ∀ r ∈ Record.walkRows (orders.after
        [.feed ["O", "1"], .feed ["I", "2"], .feed ["I", "x"], .feed ["O", "3"]]).finish,
        r.Conforms .orders :=
  ⟨ofEntry_orders, conforms_finish_after ofEntry_orders _⟩

end Classifier

end SheetGrammar
