import Bytebase.Frontend.JsMap

/-!
# Frontend — the data source store

The mutations of `store/modules/dataSource.ts` on its two maps of data
source lists, keyed by database and by instance. The mutations read only a
data source's `id`; the rest of the record (instance, database, members,
attributes) is carried as it is, as a value of any type `α`.

`upsertDataSourceInListByDatabaseId` replaces the first entry of the data
source's id (`findIndex`, then `list[i] = dataSource`) or pushes it;
`deleteDataSourceInListByDatabaseId` splices out the first entry of the
id. From the empty store, along every sequence of mutations whose set lists
have distinct ids, every list keeps distinct ids, so "the first entry"
is "the entry": an upsert replaces it in place or appends, and a delete
removes exactly it (`commitAll_dataSourceListByDatabaseId`).
-/

namespace Bytebase.Frontend

/-- A `DataSource` as the mutations read it: its `id` and the rest of the
record. -/
structure DataSource (α : Type) where
  id : Int
  rest : α
  deriving DecidableEq, Repr

/-- `DataSourceState`. -/
structure DataSourceState (α : Type) where
  dataSourceListByDatabaseId : JsMap Int (List (DataSource α))
  dataSourceListByInstanceId : JsMap Int (List (DataSource α))

/-- A commit of one of the module's mutations. -/
inductive Mutation (α : Type) where
  | setDataSourceListByInstanceId (instanceId : Int) (dataSourceList : List (DataSource α))
  | setDataSourceListByDatabaseId (databaseId : Int) (dataSourceList : List (DataSource α))
  | upsertDataSourceInListByDatabaseId (databaseId : Int) (dataSource : DataSource α)
  | deleteDataSourceInListByDatabaseId (databaseId : Int) (dataSourceId : Int)

variable {α : Type}

/-- `state()`: two empty maps. -/
def initialState : DataSourceState α := ⟨JsMap.empty, JsMap.empty⟩

/-! ## The mutations -/

/-- The array work of the upsert: `list[i] = dataSource` at
`findIndex(item.id == dataSource.id)`, or `list.push(dataSource)`. -/
def upsertInList (list : List (DataSource α)) (dataSource : DataSource α) : List (DataSource α) :=
  match list.findIdx? (·.id == dataSource.id) with
  | some i => list.set i dataSource
  | none => list ++ [dataSource]

/-- The array work of the delete: `list.splice(i, 1)` at
`findIndex(item.id == dataSourceId)`, when found. -/
def deleteInList (list : List (DataSource α)) (dataSourceId : Int) : List (DataSource α) :=
  match list.findIdx? (·.id == dataSourceId) with
  | some i => list.eraseIdx i
  | none => list

/-- `setDataSourceListByInstanceId`. -/
def setDataSourceListByInstanceId (st : DataSourceState α) (instanceId : Int)
    (dataSourceList : List (DataSource α)) : DataSourceState α :=
  { st with dataSourceListByInstanceId := st.dataSourceListByInstanceId.set instanceId dataSourceList }

/-- `setDataSourceListByDatabaseId`. -/
def setDataSourceListByDatabaseId (st : DataSourceState α) (databaseId : Int)
    (dataSourceList : List (DataSource α)) : DataSourceState α :=
  { st with dataSourceListByDatabaseId := st.dataSourceListByDatabaseId.set databaseId dataSourceList }

/-- `upsertDataSourceInListByDatabaseId`: the database's list is updated in
place, or a one-element list is set. -/
def upsertDataSourceInListByDatabaseId (st : DataSourceState α) (databaseId : Int)
    (dataSource : DataSource α) : DataSourceState α :=
  match st.dataSourceListByDatabaseId.get databaseId with
  | some list => setDataSourceListByDatabaseId st databaseId (upsertInList list dataSource)
  | none => setDataSourceListByDatabaseId st databaseId [dataSource]

/-- `deleteDataSourceInListByDatabaseId`: a database without a list is left
alone. -/
def deleteDataSourceInListByDatabaseId (st : DataSourceState α) (databaseId dataSourceId : Int) :
    DataSourceState α :=
  match st.dataSourceListByDatabaseId.get databaseId with
  | some list => setDataSourceListByDatabaseId st databaseId (deleteInList list dataSourceId)
  | none => st

/-- `commit(mutation)`. -/
def commit (st : DataSourceState α) : Mutation α → DataSourceState α
  | .setDataSourceListByInstanceId i l => setDataSourceListByInstanceId st i l
  | .setDataSourceListByDatabaseId d l => setDataSourceListByDatabaseId st d l
  | .upsertDataSourceInListByDatabaseId d s => upsertDataSourceInListByDatabaseId st d s
  | .deleteDataSourceInListByDatabaseId d i => deleteDataSourceInListByDatabaseId st d i

/-- The store after a sequence of commits. -/
def commitAll (st : DataSourceState α) (ms : List (Mutation α)) : DataSourceState α := ms.foldl commit st

/-- `dataSourceById(dataSourceId, databaseId)`, `none` for
`unknown("DATA_SOURCE")`. A `databaseId` that is `undefined` or `0` is
falsy: the getter then takes the first match over every list, in the map's
order. -/
def dataSourceById (st : DataSourceState α) (dataSourceId : Int) (databaseId : Option Int) :
    Option (DataSource α) :=
  match databaseId.filter (· != 0) with
  | some databaseId => ((st.dataSourceListByDatabaseId.get databaseId).getD []).find? (·.id == dataSourceId)
  | none => st.dataSourceListByDatabaseId.values.findSome? (·.find? (·.id == dataSourceId))

/-! ## What the lists keep -/

/-- Every list of `dataSourceListByDatabaseId` has pairwise distinct ids. -/
def IdsDistinct (st : DataSourceState α) : Prop :=
  ∀ databaseId list, st.dataSourceListByDatabaseId.get databaseId = some list → (list.map (·.id)).Nodup

/-- A mutation the claim admits: a list that is set has distinct ids. -/
def Mutation.Admissible : Mutation α → Prop
  | .setDataSourceListByDatabaseId _ l => (l.map (·.id)).Nodup
  | _ => True

instance Mutation.decidableAdmissible : (m : Mutation α) → Decidable m.Admissible
  | .setDataSourceListByInstanceId .. => isTrue trivial
  | .setDataSourceListByDatabaseId _ l => inferInstanceAs (Decidable (l.map (fun x : DataSource α => x.id)).Nodup)
  | .upsertDataSourceInListByDatabaseId .. => isTrue trivial
  | .deleteDataSourceInListByDatabaseId .. => isTrue trivial

/-- `list'` is `list` with `dataSource` in place of the entry of its id, the
other entries in their order, or `list` with `dataSource` appended when no
entry has its id. -/
def UpsertedIn (list : List (DataSource α)) (dataSource : DataSource α) (list' : List (DataSource α)) : Prop :=
  (∃ pre old post, list = pre ++ old :: post ∧ old.id = dataSource.id ∧ list' = pre ++ dataSource :: post) ∨
    ((∀ x ∈ list, x.id ≠ dataSource.id) ∧ list' = list ++ [dataSource])

theorem upsertInList_cons (x : DataSource α) (xs : List (DataSource α)) (d : DataSource α) :
    upsertInList (x :: xs) d = if x.id = d.id then d :: xs else x :: upsertInList xs d := by
  unfold upsertInList
  rw [List.findIdx?_cons]
  by_cases h : x.id = d.id
  · simp [h]
  · rw [List.findIdx?_start_succ]
    cases xs.findIdx? (·.id == d.id) <;> simp [h]

theorem deleteInList_cons (x : DataSource α) (xs : List (DataSource α)) (i : Int) :
    deleteInList (x :: xs) i = if x.id = i then xs else x :: deleteInList xs i := by
  unfold deleteInList
  rw [List.findIdx?_cons]
  by_cases h : x.id = i
  · simp [h]
  · rw [List.findIdx?_start_succ]
    cases xs.findIdx? (·.id == i) <;> simp [h]

theorem upsertedIn_upsertInList (list : List (DataSource α)) (d : DataSource α) :
    UpsertedIn list d (upsertInList list d) := by
  induction list with
  | nil => exact .inr ⟨nofun, rfl⟩
  | cons x xs ih =>
    rw [upsertInList_cons]
    by_cases h : x.id = d.id
    · exact .inl ⟨[], x, xs, rfl, h, by simp [h]⟩
    · rw [if_neg h]
      rcases ih with ⟨pre, old, post, rfl, hold, he⟩ | ⟨hnone, he⟩
      · exact .inl ⟨x :: pre, old, post, rfl, hold, by simp [he]⟩
      · exact .inr ⟨by simpa [h] using hnone, by simp [he]⟩

theorem ids_upsertInList (list : List (DataSource α)) (d : DataSource α) :
    (upsertInList list d).map (·.id) =
      if d.id ∈ list.map (·.id) then list.map (·.id) else list.map (·.id) ++ [d.id] := by
  rcases upsertedIn_upsertInList list d with ⟨pre, old, post, rfl, hold, he⟩ | ⟨hnone, he⟩
  · rw [he, if_pos (by simp [← hold])]
    simp [hold]
  · rw [he, if_neg (by simpa using hnone)]
    simp

theorem nodup_upsertInList {list : List (DataSource α)} (h : (list.map (·.id)).Nodup) (d : DataSource α) :
    ((upsertInList list d).map (·.id)).Nodup := by
  rw [ids_upsertInList]
  split
  · exact h
  · exact h.append (List.nodup_singleton _) (List.disjoint_singleton.2 ‹_›)

theorem mem_upsertInList (list : List (DataSource α)) (d : DataSource α) : d ∈ upsertInList list d := by
  rcases upsertedIn_upsertInList list d with ⟨_, _, _, -, -, he⟩ | ⟨-, he⟩ <;> simp [he]

/-- Over a list with distinct ids the upserted data source is there once. -/
theorem count_upsertInList [DecidableEq α] {list : List (DataSource α)} (h : (list.map (·.id)).Nodup)
    (d : DataSource α) : (upsertInList list d).count d = 1 :=
  List.count_eq_one_of_mem ((nodup_upsertInList h d).of_map _) (mem_upsertInList list d)

theorem deleteInList_eq_filter {list : List (DataSource α)} (h : (list.map (·.id)).Nodup) (i : Int) :
    deleteInList list i = list.filter (·.id ≠ i) := by
  induction list with
  | nil => rfl
  | cons x xs ih =>
    simp only [List.map_cons, List.nodup_cons] at h
    rw [deleteInList_cons, List.filter_cons]
    by_cases hx : x.id = i
    · subst hx
      have hxs : ∀ y ∈ xs, y.id ≠ x.id := fun y hy e => h.1 (List.mem_map.2 ⟨y, hy, e⟩)
      rw [if_pos rfl, if_neg (by simp)]
      exact (List.filter_eq_self.2 fun y hy => by simpa using hxs y hy).symm
    · rw [if_neg hx, if_pos (by simpa using hx), ih h.2]

/-! ## Every mutation keeps the ids distinct -/

section

variable {st : DataSourceState α}

@[simp] theorem get_setDataSourceListByDatabaseId (databaseId j : Int) (l : List (DataSource α)) :
    (setDataSourceListByDatabaseId st databaseId l).dataSourceListByDatabaseId.get j =
      if databaseId = j then some l else st.dataSourceListByDatabaseId.get j :=
  JsMap.get_set _ _ _ _

theorem IdsDistinct.set (h : IdsDistinct st) {databaseId : Int} {l : List (DataSource α)}
    (hl : (l.map (·.id)).Nodup) : IdsDistinct (setDataSourceListByDatabaseId st databaseId l) := by
  intro j list hj
  rw [get_setDataSourceListByDatabaseId] at hj
  split at hj
  · cases hj; exact hl
  · exact h j list hj

theorem IdsDistinct.commit (h : IdsDistinct st) {m : Mutation α} (hm : m.Admissible) : IdsDistinct (commit st m) := by
  cases m with
  | setDataSourceListByInstanceId i l => exact h
  | setDataSourceListByDatabaseId d l => exact h.set hm
  | upsertDataSourceInListByDatabaseId d s =>
    simp only [Frontend.commit, upsertDataSourceInListByDatabaseId]
    split
    · exact h.set (nodup_upsertInList (h d _ ‹_›) s)
    · exact h.set (List.nodup_singleton _)
  | deleteDataSourceInListByDatabaseId d i =>
    simp only [Frontend.commit, deleteDataSourceInListByDatabaseId]
    split
    · rename_i list hl
      have hn := h d list hl
      exact h.set (by rw [deleteInList_eq_filter hn]; exact hn.sublist ((List.filter_sublist _).map _))
    · exact h

theorem IdsDistinct.commitAll (h : IdsDistinct st) {ms : List (Mutation α)} (hms : ∀ m ∈ ms, m.Admissible) :
    IdsDistinct (commitAll st ms) := by
  induction ms generalizing st with
  | nil => exact h
  | cons m ms ih =>
    exact ih (h.commit (hms m (List.mem_cons_self _ _))) fun m' hm' => hms m' (List.mem_cons_of_mem _ hm')

theorem idsDistinct_initialState : IdsDistinct (initialState : DataSourceState α) := by
  intro _ _ h; cases h

end

/-! ## The store along any run -/

/-- **The lists of the data source store along any run.** From the empty
store, after any mutations whose set lists have distinct ids, every list
of `dataSourceListByDatabaseId` has distinct ids; an upsert leaves the
data source exactly once in its database's list, in place of the entry of
its id or appended after the others; a delete leaves the list without the
id, the other entries in their order. -/
theorem commitAll_dataSourceListByDatabaseId [DecidableEq α] {ms : List (Mutation α)}
    (hms : ∀ m ∈ ms, m.Admissible) :
    IdsDistinct (commitAll initialState ms) ∧
      (∀ databaseId dataSource, ∃ list',
        (upsertDataSourceInListByDatabaseId (commitAll initialState ms) databaseId
          dataSource).dataSourceListByDatabaseId.get databaseId = some list' ∧
        list'.count dataSource = 1 ∧
        UpsertedIn (((commitAll initialState ms).dataSourceListByDatabaseId.get databaseId).getD []) dataSource
          list') ∧
      (∀ databaseId dataSourceId,
        (deleteDataSourceInListByDatabaseId (commitAll initialState ms) databaseId
          dataSourceId).dataSourceListByDatabaseId.get databaseId =
        ((commitAll initialState ms).dataSourceListByDatabaseId.get databaseId).map
          (List.filter (·.id ≠ dataSourceId))) := by
  have hd := idsDistinct_initialState.commitAll hms
  refine ⟨hd, fun databaseId dataSource => ?_, fun databaseId dataSourceId => ?_⟩
  · simp only [upsertDataSourceInListByDatabaseId]
    split
    · rename_i list hl
      exact ⟨upsertInList list dataSource, by simp, count_upsertInList (hd databaseId list hl) dataSource,
        by simpa [hl] using upsertedIn_upsertInList list dataSource⟩
    · rename_i hl
      exact ⟨[dataSource], by simp, List.count_singleton_self _, by rw [hl]; exact .inr ⟨nofun, rfl⟩⟩
  · simp only [deleteDataSourceInListByDatabaseId]
    split
    · rename_i list hl
      simp [hl, deleteInList_eq_filter (hd databaseId list hl)]
    · rename_i hl
      simp [hl]

/-- A set of two data sources, an upsert of the second and a delete of the
first. -/
def setUpsertDelete : List (Mutation Unit) :=
  [.setDataSourceListByDatabaseId 7 [⟨1, ()⟩, ⟨2, ()⟩], .upsertDataSourceInListByDatabaseId 7 ⟨2, ()⟩,
    .deleteDataSourceInListByDatabaseId 7 1]

theorem commitAll_setUpsertDelete :
    (∀ m ∈ setUpsertDelete, m.Admissible) ∧
      (IdsDistinct (commitAll initialState setUpsertDelete) ∧
      (∀ databaseId dataSource, ∃ list',
        (upsertDataSourceInListByDatabaseId (commitAll initialState setUpsertDelete) databaseId
          dataSource).dataSourceListByDatabaseId.get databaseId = some list' ∧
        list'.count dataSource = 1 ∧
        UpsertedIn (((commitAll initialState setUpsertDelete).dataSourceListByDatabaseId.get databaseId).getD [])
          dataSource list') ∧
      (∀ databaseId dataSourceId,
        (deleteDataSourceInListByDatabaseId (commitAll initialState setUpsertDelete) databaseId
          dataSourceId).dataSourceListByDatabaseId.get databaseId =
        ((commitAll initialState setUpsertDelete).dataSourceListByDatabaseId.get databaseId).map
          (List.filter (·.id ≠ dataSourceId)))) :=
  ⟨by decide, commitAll_dataSourceListByDatabaseId (by decide)⟩

/-! ## What the invariant gives the getter -/

theorem find?_id_eq_some_iff {list : List (DataSource α)} (h : (list.map (·.id)).Nodup) {i : Int}
    {d : DataSource α} : list.find? (·.id == i) = some d ↔ d ∈ list ∧ d.id = i := by
  induction list with
  | nil => simp
  | cons x xs ih =>
    simp only [List.map_cons, List.nodup_cons] at h
    rw [List.find?_cons, List.mem_cons]
    by_cases hx : x.id = i
    · simp only [hx, beq_self_eq_true, Option.some.injEq]
      constructor
      · rintro rfl; exact ⟨.inl rfl, hx⟩
      · rintro ⟨rfl | hd, hdi⟩
        · rfl
        · exact absurd (List.mem_map.2 ⟨d, hd, hdi.trans hx.symm⟩) h.1
    · simp only [show (x.id == i) = false by simpa using hx, ih h.2]
      exact ⟨fun ⟨hd, hdi⟩ => ⟨.inr hd, hdi⟩,
        fun ⟨hd, hdi⟩ => ⟨hd.resolve_left (by rintro rfl; exact hx hdi), hdi⟩⟩

/-- With the ids of every list distinct, the getter's first match in a
database's list is the one entry of the id there. -/
theorem dataSourceById_eq_some_iff {st : DataSourceState α} (h : IdsDistinct st) {databaseId : Int}
    (hdb : databaseId ≠ 0) (dataSourceId : Int) (d : DataSource α) :
    dataSourceById st dataSourceId (some databaseId) = some d ↔
      ∃ list, st.dataSourceListByDatabaseId.get databaseId = some list ∧ d ∈ list ∧ d.id = dataSourceId := by
  cases hl : st.dataSourceListByDatabaseId.get databaseId with
  | none => simp [dataSourceById, Option.filter, hdb, hl]
  | some list => simp [dataSourceById, Option.filter, hdb, hl, find?_id_eq_some_iff (h databaseId list hl)]

end Bytebase.Frontend
