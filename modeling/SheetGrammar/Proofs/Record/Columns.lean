import SheetGrammar.Proofs.Record.Walk

/-!
# Trees with other columns

The columns of a tree may change while its records stay where they are: with their names, their
indexes and the groups in which they stand.

## Main definitions

* `Record.mapColumns` — a tree in which each record has other columns.
* `Record.Alike` — trees that differ in the columns of their records alone.

## Main results

* `Record.mapColumns_mapColumns` — columns that are found twice.
* `Record.heads_mapColumnsRows` — each record alone has the columns that were found for it.
-/

namespace SheetGrammar

namespace Record

mutual

/-- A tree in which each record has the columns that `f` finds for it, taken alone. -/
def mapColumns (f : Record → List Column) : Record → Record
  | ⟨name, index, columns, children⟩ =>
    ⟨name, index, f ⟨name, index, columns, []⟩, mapColumnsGroups f children⟩

/-- The same for the records of some groups. -/
def mapColumnsGroups (f : Record → List Column) : List (Group Record) → List (Group Record)
  | [] => []
  | ⟨name, rows⟩ :: groups => ⟨name, mapColumnsRows f rows⟩ :: mapColumnsGroups f groups

/-- The same for some trees. -/
def mapColumnsRows (f : Record → List Column) : List Record → List Record
  | [] => []
  | r :: rs => mapColumns f r :: mapColumnsRows f rs

end

variable {f : Record → List Column}

mutual

theorem walk_mapColumns : ∀ r : Record, (r.mapColumns f).walk = r.walk.map (mapColumns f)
  | ⟨_, _, _, children⟩ => by
    rw [mapColumns, walk, walk, List.map_cons, walkGroups_mapColumnsGroups children, mapColumns]

theorem walkGroups_mapColumnsGroups :
    ∀ gs : List (Group Record),
      walkGroups (mapColumnsGroups f gs) = (walkGroups gs).map (mapColumns f)
  | [] => rfl
  | ⟨_, rows⟩ :: gs => by
    rw [mapColumnsGroups, walkGroups, walkGroups, List.map_append, walkRows_mapColumnsRows rows,
      walkGroups_mapColumnsGroups gs]

theorem walkRows_mapColumnsRows :
    ∀ rs : List Record, walkRows (mapColumnsRows f rs) = (walkRows rs).map (mapColumns f)
  | [] => rfl
  | r :: rs => by
    rw [mapColumnsRows, walkRows, walkRows, List.map_append, walk_mapColumns r,
      walkRows_mapColumnsRows rs]

end

variable {g k : Record → List Column}

mutual

/-- Finding columns twice comes to finding them once if it does so for each record alone. -/
theorem mapColumns_mapColumns :
    ∀ r : Record, (∀ s ∈ r.walk, g { s.alone with columns := f s.alone } = k s.alone) →
      (r.mapColumns f).mapColumns g = r.mapColumns k
  | ⟨name, index, columns, children⟩, h => by
    obtain ⟨hself, hunder⟩ := List.forall_mem_cons.mp h
    have hcolumns : g ⟨name, index, f ⟨name, index, columns, []⟩, []⟩
        = k ⟨name, index, columns, []⟩ := hself
    rw [mapColumns, mapColumns, mapColumns, mapColumnsGroups_mapColumnsGroups children hunder,
      hcolumns]

theorem mapColumnsGroups_mapColumnsGroups :
    ∀ gs : List (Group Record),
      (∀ s ∈ walkGroups gs, g { s.alone with columns := f s.alone } = k s.alone) →
      mapColumnsGroups g (mapColumnsGroups f gs) = mapColumnsGroups k gs
  | [], _ => rfl
  | ⟨_, rows⟩ :: gs, h => by
    obtain ⟨hrows, hgs⟩ := List.forall_mem_append.mp h
    rw [mapColumnsGroups, mapColumnsGroups, mapColumnsGroups,
      mapColumnsRows_mapColumnsRows rows hrows, mapColumnsGroups_mapColumnsGroups gs hgs]

theorem mapColumnsRows_mapColumnsRows :
    ∀ rs : List Record,
      (∀ s ∈ walkRows rs, g { s.alone with columns := f s.alone } = k s.alone) →
      mapColumnsRows g (mapColumnsRows f rs) = mapColumnsRows k rs
  | [], _ => rfl
  | r :: rs, h => by
    obtain ⟨hr, hrs⟩ := List.forall_mem_append.mp h
    rw [mapColumnsRows, mapColumnsRows, mapColumnsRows, mapColumns_mapColumns r hr,
      mapColumnsRows_mapColumnsRows rs hrs]

end

theorem alone_mapColumns (r : Record) :
    (r.mapColumns f).alone = { r.alone with columns := f r.alone } := by
  obtain ⟨name, index, columns, children⟩ := r
  rw [mapColumns]
  rfl

/-- Each record alone has the columns that were found for it. -/
theorem heads_mapColumnsRows (rs : List Record) :
    heads (mapColumnsRows f rs) = (heads rs).map fun r => { r with columns := f r } := by
  unfold heads
  rw [walkRows_mapColumnsRows, List.map_map, List.map_map]
  exact List.map_congr_left fun r _ => alone_mapColumns r

/-! ### What stays the same -/

mutual

/-- Two trees are alike if they differ in the columns of their records alone, and these are
related by `R`. -/
inductive Alike (R : List Column → List Column → Prop) : Record → Record → Prop
  /-- The records bear the same name and index. -/
  | record {name : String} {index : Nat} {columns columns' : List Column}
      {children children' : List (Group Record)} (hcolumns : R columns columns')
      (hchildren : GroupsAlike R children children') :
      Alike R ⟨name, index, columns, children⟩ ⟨name, index, columns', children'⟩

/-- Groups of the same names whose records are alike. -/
inductive GroupsAlike (R : List Column → List Column → Prop) :
    List (Group Record) → List (Group Record) → Prop
  | nil : GroupsAlike R [] []
  | cons {name : String} {rows rows' : List Record} {gs gs' : List (Group Record)}
      (hrows : RowsAlike R rows rows') (hgs : GroupsAlike R gs gs') :
      GroupsAlike R (⟨name, rows⟩ :: gs) (⟨name, rows'⟩ :: gs')

/-- Records that are alike one by one. -/
inductive RowsAlike (R : List Column → List Column → Prop) : List Record → List Record → Prop
  | nil : RowsAlike R [] []
  | cons {r r' : Record} {rs rs' : List Record} (hr : Alike R r r') (hrs : RowsAlike R rs rs') :
      RowsAlike R (r :: rs) (r' :: rs')

end

variable {R : List Column → List Column → Prop}

mutual

theorem alike_refl (h : ∀ columns, R columns columns) : ∀ r : Record, Alike R r r
  | ⟨_, _, columns, children⟩ => .record (h columns) (groupsAlike_refl h children)

theorem groupsAlike_refl (h : ∀ columns, R columns columns) :
    ∀ gs : List (Group Record), GroupsAlike R gs gs
  | [] => .nil
  | ⟨_, rows⟩ :: gs => .cons (rowsAlike_refl h rows) (groupsAlike_refl h gs)

theorem rowsAlike_refl (h : ∀ columns, R columns columns) : ∀ rs : List Record, RowsAlike R rs rs
  | [] => .nil
  | r :: rs => .cons (alike_refl h r) (rowsAlike_refl h rs)

end

end Record

end SheetGrammar
