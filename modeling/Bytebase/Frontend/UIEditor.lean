import Bytebase.Frontend.JsMap

/-!
# Frontend — the UI editor's tabs

The tab actions of the `UIEditor` store (`addTab`, `setCurrentTab`,
`closeTab`, `findTab`) on its `tabState`: a map from tab id to tab, in
insertion order, and the current tab's id, `""` at first and `undefined`
after a miss. `dropTable` also edits `tableList`, and closes the tab of a
table it removes; the other parts of the state (`databaseList`,
`originTableList`) are read by none of these.

From the default state, every sequence of these actions keeps no two tabs
for one target (a database, or one table of a database) and a current id
that is `undefined`, `""` or the id of a tab in the map
(`runActions_tabState`). This holds whatever ids the added tabs carry:
`addTab` deduplicates by target, not by id, and `closeTab` moves to a
neighbour, whose id differs from the closed one because the map is keyed
by the tabs' own ids.
-/

namespace Bytebase.Frontend

/-- `UIEditorTabType`. -/
inductive UIEditorTabType where
  | tabForDatabase
  | tabForTable
  deriving DecidableEq, Repr

/-- `TabContext`: a `DatabaseTabContext` or a `TableTabContext`. -/
inductive TabContext where
  | database (id : String) (databaseId : Int)
  | table (id : String) (databaseId : Int) (tableName : String)
  deriving DecidableEq, Repr

namespace TabContext

/-- `tab.id`. -/
def id : TabContext → String
  | database id _ => id
  | table id _ _ => id

/-- `tab.type`. -/
def type : TabContext → UIEditorTabType
  | database .. => .tabForDatabase
  | table .. => .tabForTable

/-- `tab.databaseId`. -/
def databaseId : TabContext → Int
  | database _ databaseId => databaseId
  | table _ databaseId _ => databaseId

/-- `tab.tableName`, `undefined` on a database tab. -/
def tableName : TabContext → Option String
  | database .. => none
  | table _ _ tableName => some tableName

end TabContext

/-- Two tabs for one target: one database, or one table of one database. -/
def SameTarget : TabContext → TabContext → Prop
  | .database _ d, .database _ d' => d = d'
  | .table _ d n, .table _ d' n' => d = d' ∧ n = n'
  | _, _ => False

/-- `TableOrColumnStatus`. -/
inductive TableOrColumnStatus where
  | created
  | dropped
  deriving DecidableEq, Repr

/-- A `Table` as `dropTable` reads it: which object it is (`===` compares
references), its database, its new name and its status. -/
structure Table where
  ref : Nat
  databaseId : Int
  newName : String
  status : Option TableOrColumnStatus
  deriving DecidableEq, Repr

/-- `tabState`. -/
structure TabState where
  tabMap : JsMap String TabContext
  currentTabId : Option String

/-- `UIEditorState`, with the parts the tab actions and `dropTable` read. -/
structure UIEditorState where
  tabState : TabState
  tableList : List Table

/-- `getDefaultUIEditorState()`. -/
def getDefaultUIEditorState : UIEditorState := ⟨⟨JsMap.empty, some ""⟩, []⟩

/-- The predicate `addTab` looks for an open tab with: `item` has the type
of `tab` and its database, and for a table tab its table name. -/
def isTabCache (tab item : TabContext) : Bool :=
  if item.type != tab.type then false
  else if item.type == .tabForDatabase && item.databaseId == tab.databaseId then true
  else if item.type == .tabForTable && item.databaseId == tab.databaseId && item.tableName == tab.tableName then true
  else false

/-- `nextTabIndex` of `closeTab`: the second tab when the first is closed,
otherwise the one before. -/
def nextTabIndex (tabIndex : Int) : Int := if tabIndex = 0 then 1 else tabIndex - 1

namespace TabState

/-- The `tabList` getter. -/
def tabList (s : TabState) : List TabContext := s.tabMap.values

/-- `setCurrentTab(tabId)`: an id the map does not hold makes the current
id `undefined`. -/
def setCurrentTab (s : TabState) (tabId : String) : TabState :=
  if (s.tabMap.get tabId).isNone then { s with currentTabId := none } else { s with currentTabId := some tabId }

/-- `addTab(tab, setAsCurrentTab)`: an open tab for the target of `tab` is
reused, otherwise `tab` is set under its id. -/
def addTab (s : TabState) (tab : TabContext) (setAsCurrentTab : Bool) : TabState :=
  match s.tabList.find? (isTabCache tab) with
  | some tabCache => if setAsCurrentTab then s.setCurrentTab tabCache.id else s
  | none =>
    let s := { s with tabMap := s.tabMap.set tab.id tab }
    if setAsCurrentTab then s.setCurrentTab tab.id else s

/-- `closeTab(tabId)`: when the current tab is closed, the tab at
`nextTabIndex` becomes current, or `""` when there is none there; then the
tab is deleted. -/
def closeTab (s : TabState) (tabId : String) : TabState :=
  let tabIndex := JsArray.findIndex s.tabList (·.id == tabId)
  let s' :=
    if s.currentTabId = some tabId then
      match JsArray.get? s.tabList (nextTabIndex tabIndex) with
      | some nextTab => s.setCurrentTab nextTab.id
      | none => s.setCurrentTab ""
    else s
  { s' with tabMap := s'.tabMap.delete tabId }

/-- `findTab(databaseId, tableName)`: a table tab when a table name is
given, otherwise a database tab. -/
def findTab (s : TabState) (databaseId : Int) (tableName : Option String) : Option TabContext :=
  let tabType := if tableName.isSome then UIEditorTabType.tabForTable else .tabForDatabase
  s.tabList.find? fun tab =>
    if tab.type != tabType || tab.databaseId != databaseId then false
    else if tab.type == .tabForDatabase then true
    else if tab.type == .tabForTable && tab.tableName == tableName then true
    else false

end TabState

/-- `dropTable(table)`: a table created in the editor is spliced out at its
index (`-1` when it is not in the list) and its tab closed; any other table
is marked dropped. -/
def dropTable (st : UIEditorState) (table : Table) : UIEditorState :=
  let index := JsArray.findIndex st.tableList (·.ref == table.ref)
  if table.status = some .created then
    let st := { st with tableList := JsArray.spliceOne st.tableList index }
    match st.tabState.findTab table.databaseId (some table.newName) with
    | some tab => { st with tabState := st.tabState.closeTab tab.id }
    | none => st
  else
    { st with tableList := st.tableList.map fun t => if t.ref = table.ref then { t with status := some .dropped } else t }

/-- One call of a tab action or of `dropTable`. -/
inductive UIEditorAction where
  | addTab (tab : TabContext) (setAsCurrentTab : Bool)
  | setCurrentTab (tabId : String)
  | closeTab (tabId : String)
  | dropTable (table : Table)

/-- The store after one action. -/
def runAction (st : UIEditorState) : UIEditorAction → UIEditorState
  | .addTab tab setAsCurrentTab => { st with tabState := st.tabState.addTab tab setAsCurrentTab }
  | .setCurrentTab tabId => { st with tabState := st.tabState.setCurrentTab tabId }
  | .closeTab tabId => { st with tabState := st.tabState.closeTab tabId }
  | .dropTable table => dropTable st table

/-- The store after a sequence of actions. -/
def runActions (st : UIEditorState) (actions : List UIEditorAction) : UIEditorState :=
  actions.foldl runAction st

/-! ## Targets -/

theorem SameTarget.symm {a b : TabContext} (h : SameTarget a b) : SameTarget b a := by
  cases a <;> cases b <;> simp only [SameTarget] at h ⊢
  · exact h.symm
  · exact ⟨h.1.symm, h.2.symm⟩

theorem isTabCache_iff (tab item : TabContext) : isTabCache tab item = true ↔ SameTarget item tab := by
  cases tab <;> cases item <;>
    simp [isTabCache, SameTarget, TabContext.type, TabContext.databaseId, TabContext.tableName]

/-! ## The tab state's invariant -/

namespace TabState

/-- The tab map keyed by the tabs' own ids, no two tabs for one target, and
a current id that is `undefined`, `""` or the id of a tab in the map. -/
structure WellFormed (s : TabState) : Prop where
  key_eq_id : ∀ k tab, (k, tab) ∈ s.tabMap.entries → tab.id = k
  distinct_targets : s.tabList.Pairwise fun a b => ¬SameTarget a b
  current : ∀ id, s.currentTabId = some id → id = "" ∨ (s.tabMap.get id).isSome

variable {s : TabState}

theorem WellFormed.nodup_ids (h : s.WellFormed) : (s.tabList.map (·.id)).Nodup := by
  have hids : s.tabList.map (·.id) = s.tabMap.entries.map Prod.fst := by
    rw [tabList, JsMap.values, List.map_map]
    exact List.map_congr_left fun ⟨k, tab⟩ hm => h.key_eq_id k tab hm
  rw [hids]
  exact s.tabMap.nodup

theorem setCurrentTab_eq (s : TabState) (tabId : String) :
    s.setCurrentTab tabId = { s with currentTabId := none } ∨
      s.setCurrentTab tabId = { s with currentTabId := some tabId } ∧ (s.tabMap.get tabId).isSome := by
  unfold setCurrentTab
  cases s.tabMap.get tabId <;> simp

theorem WellFormed.setCurrentTab (h : s.WellFormed) (tabId : String) : (s.setCurrentTab tabId).WellFormed := by
  rcases setCurrentTab_eq s tabId with he | ⟨he, hs⟩ <;> rw [he]
  · exact ⟨h.key_eq_id, h.distinct_targets, nofun⟩
  · exact ⟨h.key_eq_id, h.distinct_targets, fun _ hid => .inr (by cases hid; exact hs)⟩

/-- Setting a tab for a target no tab has keeps the invariant. -/
theorem WellFormed.set (h : s.WellFormed) {tab : TabContext} (hnew : ∀ item ∈ s.tabList, ¬SameTarget item tab) :
    { s with tabMap := s.tabMap.set tab.id tab }.WellFormed where
  key_eq_id k t hm := by
    rcases s.tabMap.mem_entries_set.1 hm with ⟨rfl, rfl⟩ | ⟨hm, -⟩
    · rfl
    · exact h.key_eq_id k t hm
  distinct_targets := by
    show (s.tabMap.set tab.id tab).values.Pairwise _
    rw [(JsMap.values_set_perm _ _ _).pairwise_iff fun hab hba => hab hba.symm, List.pairwise_append]
    have hsub : ((s.tabMap.entries.filter (·.1 ≠ tab.id)).map Prod.snd).Sublist s.tabList :=
      (List.filter_sublist _).map _
    exact ⟨h.distinct_targets.sublist hsub, List.pairwise_singleton _ _,
      fun a ha b hb => (List.mem_singleton.1 hb) ▸ hnew a (hsub.subset ha)⟩
  current id hid := (h.current id hid).imp_right fun hs => by
    rw [JsMap.get_set]
    split <;> simp_all

theorem WellFormed.addTab (h : s.WellFormed) (tab : TabContext) (setAsCurrentTab : Bool) :
    (s.addTab tab setAsCurrentTab).WellFormed := by
  unfold TabState.addTab
  split
  · split
    · exact h.setCurrentTab _
    · exact h
  · rename_i hf
    have hnew : ∀ item ∈ s.tabList, ¬SameTarget item tab := fun item hi hs =>
      List.find?_eq_none.1 hf item hi ((isTabCache_iff tab item).2 hs)
    split
    · exact (h.set hnew).setCurrentTab _
    · exact h.set hnew

/-- Deleting a tab whose id is not current (`""` apart) keeps the
invariant. -/
theorem WellFormed.delete (h : s.WellFormed) {tabId : String}
    (hc : ∀ id, s.currentTabId = some id → id = "" ∨ id ≠ tabId) :
    { s with tabMap := s.tabMap.delete tabId }.WellFormed where
  key_eq_id k t hm := h.key_eq_id k t (s.tabMap.mem_entries_delete.1 hm).1
  distinct_targets := h.distinct_targets.sublist (JsMap.values_delete_sublist _ _)
  current id hid := by
    rcases hc id hid with he | hne
    · exact .inl he
    · refine (h.current id hid).imp_right fun hs => ?_
      rw [JsMap.get_delete, if_neg (Ne.symm hne)]
      exact hs

/-- The tab `closeTab` moves to is not the one it closes: the map is keyed
by the tabs' ids, so the tab at `nextTabIndex` has another id. -/
theorem id_ne_of_get?_nextTabIndex {l : List TabContext} (hl : (l.map (·.id)).Nodup) {tabId : String}
    {nextTab : TabContext} (h : JsArray.get? l (nextTabIndex (JsArray.findIndex l (·.id == tabId))) = some nextTab) :
    nextTab.id ≠ tabId := by
  rintro rfl
  obtain ⟨n, hn, hidx, rfl⟩ := JsArray.get?_eq_some h
  obtain ⟨i, hi, hfi, hpi⟩ := JsArray.findIndex_of_getElem (p := (·.id == l[n].id)) hn (by simp)
  have hin : i = n := by
    have hi' : i < (l.map (·.id)).length := by simpa using hi
    have hn' : n < (l.map (·.id)).length := by simpa using hn
    have hids : (l.map (·.id))[i] = (l.map (·.id))[n] := by simpa using hpi
    exact hl.getElem_inj_iff.1 hids
  rw [hfi, hin, nextTabIndex] at hidx
  split at hidx <;> omega

theorem WellFormed.closeTab (h : s.WellFormed) (tabId : String) : (s.closeTab tabId).WellFormed := by
  unfold TabState.closeTab
  dsimp only
  split
  · split
    · rename_i nextTab hnext
      have hne := id_ne_of_get?_nextTabIndex h.nodup_ids hnext
      refine (h.setCurrentTab _).delete fun id hid => .inr ?_
      rcases setCurrentTab_eq s nextTab.id with he | ⟨he, -⟩ <;> rw [he] at hid <;> cases hid
      exact hne
    · refine (h.setCurrentTab _).delete fun id hid => .inl ?_
      rcases setCurrentTab_eq s "" with he | ⟨he, -⟩ <;> rw [he] at hid <;> cases hid
      rfl
  · rename_i hcur
    exact h.delete fun id hid => .inr fun he => hcur (he ▸ hid)

theorem wellFormed_default : getDefaultUIEditorState.tabState.WellFormed where
  key_eq_id _ _ hm := nomatch hm
  distinct_targets := List.Pairwise.nil
  current _ hid := .inl (Option.some.inj hid).symm

end TabState

/-! ## Every run keeps the invariant -/

theorem wellFormed_runAction {st : UIEditorState} (h : st.tabState.WellFormed) (action : UIEditorAction) :
    (runAction st action).tabState.WellFormed := by
  cases action with
  | addTab tab setAsCurrentTab => exact h.addTab tab setAsCurrentTab
  | setCurrentTab tabId => exact h.setCurrentTab tabId
  | closeTab tabId => exact h.closeTab tabId
  | dropTable table =>
    simp only [runAction, dropTable]
    split
    · split
      · exact h.closeTab _
      · exact h
    · exact h

theorem wellFormed_runActions {st : UIEditorState} (h : st.tabState.WellFormed) (actions : List UIEditorAction) :
    (runActions st actions).tabState.WellFormed := by
  induction actions generalizing st with
  | nil => exact h
  | cons action actions ih => exact ih (wellFormed_runAction h action)

/-- A second tab for database 7 is the first one again; closing it, the
first of the list, moves to the second. -/
example : (runActions getDefaultUIEditorState [.addTab (.database "1" 7) true, .addTab (.database "2" 8) true,
    .addTab (.database "3" 7) true, .closeTab "1"]).tabState.currentTabId = some "2" := by decide

/-- **The tabs along any run.** From the default state, after any sequence of
`addTab`, `setCurrentTab`, `closeTab` and `dropTable` calls, whatever the ids
of the added tabs, no two open tabs are for one target, and the current id
is `undefined`, `""` or the id of an open tab. -/
theorem runActions_tabState (actions : List UIEditorAction) :
    (runActions getDefaultUIEditorState actions).tabState.tabList.Pairwise (fun a b => ¬SameTarget a b) ∧
      ∀ id, (runActions getDefaultUIEditorState actions).tabState.currentTabId = some id →
        id = "" ∨ ∃ tab, (runActions getDefaultUIEditorState actions).tabState.tabMap.get id = some tab := by
  have h := wellFormed_runActions TabState.wellFormed_default actions
  exact ⟨h.distinct_targets, fun id hid => (h.current id hid).imp_right Option.isSome_iff_exists.1⟩

end Bytebase.Frontend
