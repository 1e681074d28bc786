import Bytebase.Webhook.Issue

/-!
# Webhook — `processPushEvent`

The push pipeline end to end: the changed files of a push are grouped by
repository and by database (`pushEventGroups`), and each group is handed to
`processFilesInProject` (`processGroup`). A group that creates an issue
adds its creation message; a group that creates none has its ignored-file
activities recorded; a group that fails ends the push event
(`processGroups`).

Which group comes first is Go's choice: both loops `range` over a map.
`RangeOrder` is the order one run visits them in, and `SortSlice` the
permutation `sort.Slice` returns; every result here holds for every
choice of both.

The results: the writes of a run are those of its groups, in visiting
order, up to and including the first group that fails
(`processGroups_writes`), and a group's writes are a function of the group
alone; so a failing group hides the issues of the groups visited after it,
and which those are is the map order's choice (`processPushEvent_issues`).
When no group fails, every visiting order creates the same issues. A
push's messages name the issues of each group that created its merged
issue, and nothing a failed push created is undone
(`processPushEvent_reports`).
-/

namespace Bytebase.Webhook

open Bytebase.Go Bytebase.Api

/-- The orders one run of `processPushEvent` visits its maps in: the
`range` over `repoID2FileItemList`, and each `range` over a
`dbID2FileInfoList`. Go fixes neither. -/
structure RangeOrder where
  rangeRepos : List (Int × List FileInfo) → List (Int × List FileInfo)
  rangeRepos_perm : ∀ m, (rangeRepos m).Perm m
  rangeDbs : List (String × List FileInfo) → List (String × List FileInfo)
  rangeDbs_perm : ∀ m, (rangeDbs m).Perm m

/-- `sort.Slice` on file infos: some permutation of the list. -/
structure SortSlice where
  sort : (FileInfo → FileInfo → Bool) → List FileInfo → List FileInfo
  perm : ∀ less l, (sort less l).Perm l

/-- A run that visits both maps in insertion order. -/
def RangeOrder.inserted : RangeOrder := ⟨id, fun _ => .refl _, id, fun _ => .refl _⟩

/-- A run that visits both maps in reverse insertion order. -/
def RangeOrder.reversed : RangeOrder := ⟨List.reverse, List.reverse_perm, List.reverse, List.reverse_perm⟩

/-- `sort.Slice` as an insertion sort. -/
def SortSlice.insertion : SortSlice :=
  ⟨fun less l => l.insertionSort fun a b => less a b = true, fun _ l => List.perm_insertionSort _ l⟩

/-- Go's own `sort.Slice`: `pdqsort_func` on the slice. -/
def SortSlice.go : SortSlice := ⟨Go.sortSlice, Go.sortSlice_perm⟩

/-! ## One group -/

/-- The loop recording a group's ignored-file activities; a failure to
record one is only logged. -/
def createActivities (w : World) : List ActivityCreate → Run Unit
  | [] => pure ()
  | a :: rest => do
    if w.createActivity a = .ok () then Run.write (.activityCreated a)
    createActivities w rest

theorem createActivities_result (w : World) (acts : List ActivityCreate) :
    (createActivities w acts).result = .ok () := by
  induction acts with
  | nil => rfl
  | cons a rest ih =>
    simp only [createActivities]
    split <;> simp [ih, Except.bind]

theorem createActivities_panicsOnlyWith (what : String) (w : World) (acts : List ActivityCreate) :
    (createActivities w acts).PanicsOnlyWith what := by
  induction acts with
  | nil => exact Run.panicsOnlyWith_pure _ _
  | cons a rest ih =>
    unfold createActivities
    dsimp only
    split
    · exact (Run.panicsOnlyWith_write _ _).bind fun _ _ => ih
    · exact (Run.panicsOnlyWith_pure _ _).bind fun _ _ => ih

theorem createActivities_issues (w : World) (acts : List ActivityCreate) :
    Effect.issues (createActivities w acts).writes = [] := by
  induction acts with
  | nil => rfl
  | cons a rest ih =>
    simp only [createActivities]
    split <;> simp [ih, Except.bind]

/-- The body of `processPushEvent`'s inner loop for one (repository,
database) group: `.error` ends the push event, `.ok (some m)` adds the
creation message `m`, `.ok none` means no issue was created (and the
group's ignored-file activities were recorded). -/
def processGroup (w : World) (sortSlice : SortSlice) (baseVCSPushEvent : PushEvent)
    (fileInfoListInDB : List FileInfo) : Run (Except GoError (Option String)) := do
  let fileInfoListSorted := sortFilesBySchemaVersion sortSlice.sort fileInfoListInDB
  let some first := fileInfoListSorted.head? | Run.panic "index out of range [0] with length 0"
  let repository := first.repository
  let vcs ← vcsOf repository
  let pushEvent := { baseVCSPushEvent with vcsType := vcs.type, baseDirectory := repository.baseDirectory }
  let (createdMessage, created, activityCreateList, err) ← processFilesInProject w pushEvent repository fileInfoListSorted
  if let some e := err then return .error e
  if created then return .ok (some createdMessage)
  createActivities w activityCreateList
  return .ok none

/-- The loops of `processPushEvent` over the groups, in visiting order. -/
def processGroups (w : World) (sortSlice : SortSlice) (baseVCSPushEvent : PushEvent) :
    List (List FileInfo) → List String → Run (Except GoError (List String))
  | [], createdMessageList => pure (.ok createdMessageList)
  | g :: rest, createdMessageList => do
    match ← processGroup w sortSlice baseVCSPushEvent g with
    | .error e => return .error e
    | .ok (some m) => processGroups w sortSlice baseVCSPushEvent rest (createdMessageList ++ [m])
    | .ok none => processGroups w sortSlice baseVCSPushEvent rest createdMessageList

/-! ## The push event -/

/-- The (repository, database) groups of the files, in the order the two
nested `range` loops of `processPushEvent` visit them. -/
def visitGroups (order : RangeOrder) (repoID2FileItemList : GoMap Int (List FileInfo)) : List (List FileInfo) :=
  (order.rangeRepos repoID2FileItemList.entries).flatMap fun entry =>
    (order.rangeDbs (groupFileInfoByDatabase entry.2).entries).map (·.2)

/-- The part of `processPushEvent` before its loops: the groups to process,
in visiting order (none when the push has no file). -/
def pushEventGroups (w : World) (order : RangeOrder) (repositoryList : List Repository) (baseVCSPushEvent : PushEvent) :
    Run (Except GoError (List (List FileInfo))) := do
  let repo :: _ := repositoryList | return .error (.plain "empty repository list")
  let distinctFileList := w.getDistinctFileList baseVCSPushEvent
  if distinctFileList.isEmpty then return .ok []
  match ← filterFilesByCommitsDiff w repo distinctFileList baseVCSPushEvent.before baseVCSPushEvent.after with
  | .error e => return .error e
  | .ok filteredDistinctFileList =>
    return .ok (visitGroups order (groupFileInfoByRepo w filteredDistinctFileList repositoryList))

/-- `processPushEvent(repositoryList, baseVCSPushEvent)`: the creation
messages of the groups that created issues. -/
def processPushEvent (w : World) (order : RangeOrder) (sortSlice : SortSlice) (repositoryList : List Repository)
    (baseVCSPushEvent : PushEvent) : Run (Except GoError (List String)) := do
  match ← pushEventGroups w order repositoryList baseVCSPushEvent with
  | .error e => return .error e
  | .ok groups => processGroups w sortSlice baseVCSPushEvent groups []

/-! ## What a run writes -/

/-- Whether a group ends the push event: its processing returns an error
or panics. -/
def groupStops (w : World) (sortSlice : SortSlice) (pe : PushEvent) (g : List FileInfo) : Bool :=
  match (processGroup w sortSlice pe g).result with
  | .ok (.ok _) => false
  | _ => true

/-- A list up to and including its first element satisfying `p`. -/
def takeThrough {α : Type} (p : α → Bool) : List α → List α
  | [] => []
  | a :: rest => if p a then [a] else a :: takeThrough p rest

theorem takeThrough_eq_self {α : Type} {p : α → Bool} {l : List α} (h : ∀ a ∈ l, p a = false) :
    takeThrough p l = l := by
  induction l with
  | nil => rfl
  | cons a rest ih => simp [takeThrough, h a (by simp), ih fun b hb => h b (by simp [hb])]

theorem takeThrough_stop {α : Type} {p : α → Bool} {pre post : List α} {a : α}
    (hpre : ∀ b ∈ pre, p b = false) (ha : p a = true) : takeThrough p (pre ++ a :: post) = pre ++ [a] := by
  induction pre with
  | nil => simp [takeThrough, ha]
  | cons b rest ih => simp [takeThrough, hpre b (by simp), ih fun c hc => hpre c (by simp [hc])]

/-- **The group loop writes group by group**: the writes of the groups it
visits, in order, up to and including the first group that fails. -/
theorem processGroups_writes (w : World) (sortSlice : SortSlice) (pe : PushEvent)
    (groups : List (List FileInfo)) (msgs : List String) :
    (processGroups w sortSlice pe groups msgs).writes =
      (takeThrough (groupStops w sortSlice pe) groups).flatMap fun g => (processGroup w sortSlice pe g).writes := by
  induction groups generalizing msgs with
  | nil => rfl
  | cons g rest ih =>
    simp only [processGroups, Run.writes_bind]
    split
    · rename_i a heq
      rcases a with e | _ | m <;> simp [groupStops, heq, takeThrough, ih]
    · rename_i heq
      simp [groupStops, heq, takeThrough]

/-- Forming the groups writes nothing. -/
theorem pushEventGroups_writes (w : World) (order : RangeOrder) (repositoryList : List Repository) (pe : PushEvent) :
    (pushEventGroups w order repositoryList pe).writes = [] := by
  rcases repositoryList with _ | ⟨repo, rest⟩
  · rfl
  · simp only [pushEventGroups]
    split
    · rfl
    · simp only [Run.writes_bind, Run.writes_pure, Run.result_pure, filterFilesByCommitsDiff_writes, List.nil_append]
      split
      · split <;> rfl
      · rfl

theorem processPushEvent_writes (w : World) (order : RangeOrder) (sortSlice : SortSlice)
    (repositoryList : List Repository) (pe : PushEvent) :
    (processPushEvent w order sortSlice repositoryList pe).writes =
      match (pushEventGroups w order repositoryList pe).result with
      | .ok (.ok groups) =>
        (takeThrough (groupStops w sortSlice pe) groups).flatMap fun g => (processGroup w sortSlice pe g).writes
      | _ => [] := by
  simp only [processPushEvent, Run.writes_bind, pushEventGroups_writes, List.nil_append]
  rcases (pushEventGroups w order repositoryList pe).result with s | e | groups
  · rfl
  · rfl
  · exact processGroups_writes w sortSlice pe groups []

/-! ## Visiting orders -/

/-- Two visiting orders visit the same groups. -/
theorem visitGroups_perm (order order' : RangeOrder) (m : GoMap Int (List FileInfo)) :
    (visitGroups order m).Perm (visitGroups order' m) := by
  unfold visitGroups
  refine ((order.rangeRepos_perm _).flatMap_right _).trans
    ((List.Perm.flatMap_left _ fun e _ => ?_).trans ((order'.rangeRepos_perm _).flatMap_right _).symm)
  exact ((order.rangeDbs_perm _).trans (order'.rangeDbs_perm _).symm).map _

theorem pushEventGroups_perm (w : World) (order order' : RangeOrder) (repositoryList : List Repository)
    (pe : PushEvent) {groups : List (List FileInfo)}
    (h : (pushEventGroups w order repositoryList pe).result = .ok (.ok groups)) :
    ∃ groups', (pushEventGroups w order' repositoryList pe).result = .ok (.ok groups') ∧ groups.Perm groups' := by
  rcases repositoryList with _ | ⟨repo, rest⟩
  · cases h
  · simp only [pushEventGroups] at h ⊢
    split at h
    · exact ⟨[], by simp_all, by simp_all⟩
    · rcases hf : (filterFilesByCommitsDiff w repo (w.getDistinctFileList pe) pe.before pe.after).result
        with s | e | files <;> simp_all [Except.bind]
      subst h
      exact visitGroups_perm _ _ _

/-- **The issues of a push, group by group.** For every order the two
`range` loops visit the maps in, the issues `processPushEvent` creates are
those of the groups it visits, in that order, up to and including the
first group that fails (`groupStops`), each group contributing what
`processGroup` creates for it from its own files, repository and project.
When no group fails, two visiting orders create the same issues, up to
their order. -/
theorem processPushEvent_issues (w : World) (order order' : RangeOrder) (sortSlice : SortSlice)
    (repositoryList : List Repository) (pe : PushEvent) :
    Effect.issues (processPushEvent w order sortSlice repositoryList pe).writes =
      (match (pushEventGroups w order repositoryList pe).result with
        | .ok (.ok groups) => (takeThrough (groupStops w sortSlice pe) groups).flatMap
            fun g => Effect.issues (processGroup w sortSlice pe g).writes
        | _ => []) ∧
    ((∀ groups, (pushEventGroups w order repositoryList pe).result = .ok (.ok groups) →
        ∀ g ∈ groups, groupStops w sortSlice pe g = false) →
      (Effect.issues (processPushEvent w order sortSlice repositoryList pe).writes).Perm
        (Effect.issues (processPushEvent w order' sortSlice repositoryList pe).writes)) := by
  have byGroup : ∀ o : RangeOrder, Effect.issues (processPushEvent w o sortSlice repositoryList pe).writes =
      (match (pushEventGroups w o repositoryList pe).result with
        | .ok (.ok groups) => (takeThrough (groupStops w sortSlice pe) groups).flatMap
            fun g => Effect.issues (processGroup w sortSlice pe g).writes
        | _ => []) := fun o => by
    rw [processPushEvent_writes]
    split <;> simp [Effect.issues_flatMap, Effect.issues]
  refine ⟨byGroup order, fun hnone => ?_⟩
  rw [byGroup order, byGroup order']
  rcases hg : (pushEventGroups w order repositoryList pe).result with s | e | groups
  pick_goal 3
  · obtain ⟨groups', hg', hperm⟩ := pushEventGroups_perm w order order' repositoryList pe hg
    have hall := hnone groups hg
    simp only [hg', takeThrough_eq_self hall,
      takeThrough_eq_self fun g hg => hall g (hperm.symm.subset hg)]
    exact hperm.flatMap_right _
  -- no groups in this order, so none in the other
  all_goals
    rcases hg' : (pushEventGroups w order' repositoryList pe).result with s' | e' | groups'
    · rfl
    · rfl
    · obtain ⟨_, h, -⟩ := pushEventGroups_perm w order' order repositoryList pe hg'
      simp_all

/-- Repository `id` of a project in tenant mode `mode`, on endpoint `ep`,
whose files live under `dir`. -/
def pushRepo (id : Int) (mode : TenantMode) (dir : String) : Repository :=
  { id, projectID := id, project := ⟨"p", .normal, mode, "", .ddl⟩, vcs := some ⟨.gitLabSelfHost, "", "", ""⟩,
    webURL := "", externalID := "42", baseDirectory := dir, branchFilter := "main",
    filePathTemplate := "", schemaPathTemplate := "", webhookEndpointID := "ep",
    webhookSecretToken := "tok", enableSQLReviewCI := false, accessToken := "", refreshToken := "" }

/-- A push to `main` of one commit. -/
def onePush : PushEvent := ⟨.gitLabSelfHost, "", "refs/heads/main", "b", "a", "42", [⟨"a", ""⟩]⟩

/-- A file the push adds. -/
def addedFile (name : String) : DistinctFileItem := ⟨name, ⟨"a", ""⟩, .added, false⟩

/-- The database `shop` of every project. -/
def shopDb : Database := ⟨1, "shop", ⟨1, ⟨"prod"⟩, "MYSQL"⟩, "", ""⟩

/-- A world in which the push changed `files`, every file is a migration
of database `shop` at the version of its own name, and `shop` exists. -/
def pushWorld (files : List DistinctFileItem) : World :=
  { World.quiet with
    getDistinctFileList := fun _ => files
    getDiffFileList := fun _ _ _ => .ok (files.map fun f => ⟨f.fileName⟩)
    parseMigrationInfo := fun file _ _ => .ok (some ⟨"shop", "", file, .migrate⟩)
    findDatabase := fun _ _ => .ok [shopDb] }

/-- Two repositories share one push: a tenant project under `t` and a
plain project under `n`. -/
def sharedRepos : List Repository := [pushRepo 1 .tenant "t", pushRepo 2 .disabled "n"]

/-- The push adds one migration under each repository, and the license
does not cover multi-tenancy. -/
def unlicensedWorld : World :=
  { pushWorld [addedFile "t/1.sql", addedFile "n/1.sql"] with multiTenancy := false }

/-- Visiting the tenant project's group first ends the push with the 403
before the plain project's group creates its issue; visiting it second,
the issue is created. -/
theorem processPushEvent_order_decides :
    Effect.issues (processPushEvent unlicensedWorld .inserted .insertion sharedRepos onePush).writes = [] ∧
    (Effect.issues (processPushEvent unlicensedWorld .reversed .insertion sharedRepos onePush).writes).map
      (·.name) = ["[shop] Alter schema"] := by
  decide

/-! ## What a push reports -/

/-- The creation message a group adds, when it does not end the push. -/
def groupMessage (w : World) (sortSlice : SortSlice) (pe : PushEvent) (g : List FileInfo) : Option String :=
  match (processGroup w sortSlice pe g).result with
  | .ok (.ok o) => o
  | _ => none

/-- What one group reports: a group that adds no message and does not end
the push created no issue, and a group's message is empty or names every
issue the group created. -/
theorem processGroup_message (w : World) (sortSlice : SortSlice) (pe : PushEvent) (g : List FileInfo) :
    (groupMessage w sortSlice pe g = none → groupStops w sortSlice pe g = false →
      Effect.issues (processGroup w sortSlice pe g).writes = []) ∧
    ∀ m, groupMessage w sortSlice pe g = some m → m = "" ∨
      m = "Created issue " ++ quote (join ((Effect.issues (processGroup w sortSlice pe g).writes).map (·.name)) ",") ++
        " from push event" := by
  unfold groupMessage groupStops processGroup
  rcases hh : (sortFilesBySchemaVersion sortSlice.sort g).head? with _ | first
  · simp [hh]
  · simp only [hh, Run.result_bind, Run.writes_bind, vcsOf_writes, List.nil_append]
    rcases hv : (vcsOf first.repository).result with s | v
    · simp [hv, Except.bind]
    · simp only [hv, Except.bind, Run.result_bind, Run.writes_bind]
      generalize hpe : { pe with vcsType := v.type, baseDirectory := first.repository.baseDirectory } = pe'
      rcases hp : (processFilesInProject w pe' first.repository (sortFilesBySchemaVersion sortSlice.sort g)).result
        with s | ⟨m, created, acts, _ | e⟩
      · simp [hp, Except.bind]
      · have hm := processFilesInProject_message _ _ _ _ hp
        cases created
        · simp [hp, Except.bind, hm.1 rfl, createActivities_issues, createActivities_result]
        · simpa [hp, Except.bind] using hm.2
      · simp [hp, Except.bind]

/-- A group loop that returns its messages visited no group that fails,
and collected the groups' messages in order. -/
theorem processGroups_ok (w : World) (sortSlice : SortSlice) (pe : PushEvent) (groups : List (List FileInfo))
    {msgs₀ msgs : List String} (h : (processGroups w sortSlice pe groups msgs₀).result = .ok (.ok msgs)) :
    (∀ g ∈ groups, groupStops w sortSlice pe g = false) ∧
      msgs = msgs₀ ++ groups.filterMap (groupMessage w sortSlice pe) := by
  induction groups generalizing msgs₀ with
  | nil => cases h; simp
  | cons g rest ih =>
    simp only [processGroups, Run.result_bind] at h
    rcases hg : (processGroup w sortSlice pe g).result with s | e | _ | m
    · simp [hg, Except.bind] at h
    · simp [hg, Except.bind] at h
    all_goals
      obtain ⟨h₁, h₂⟩ := ih (by simpa [hg, Except.bind] using h)
      have hs : groupStops w sortSlice pe g = false := by simp [groupStops, hg]
      exact ⟨List.forall_mem_cons.2 ⟨hs, h₁⟩, by simp [h₂, groupMessage, hg]⟩

/-- A group loop that returns an error stopped at a group that fails,
after groups that did not. -/
theorem processGroups_error (w : World) (sortSlice : SortSlice) (pe : PushEvent) (groups : List (List FileInfo))
    {msgs₀ : List String} {e : GoError} (h : (processGroups w sortSlice pe groups msgs₀).result = .ok (.error e)) :
    ∃ pre g post, groups = pre ++ g :: post ∧ (∀ g' ∈ pre, groupStops w sortSlice pe g' = false) ∧
      groupStops w sortSlice pe g = true := by
  induction groups generalizing msgs₀ with
  | nil => cases h
  | cons g rest ih =>
    simp only [processGroups, Run.result_bind] at h
    rcases hg : (processGroup w sortSlice pe g).result with s | e' | _ | m
    · simp [hg, Except.bind] at h
    · exact ⟨[], g, rest, rfl, by simp, by simp [groupStops, hg]⟩
    all_goals
      obtain ⟨pre, g', post, rfl, hpre, hg'⟩ := ih (by simpa [hg, Except.bind] using h)
      exact ⟨g :: pre, g', post, rfl, by simpa [groupStops, hg] using hpre, hg'⟩

/-- **What a push reports.** When `processPushEvent` returns its creation
messages, they are those of the groups, in visiting order; a group that
adds none created no issue, and a group's message is either empty or
names, in creation order, every issue the group created. When it returns
an error, nothing is undone: the issues created by the groups processed
before the failing one, and those the failing group created before it
failed, remain. -/
theorem processPushEvent_reports (w : World) (order : RangeOrder) (sortSlice : SortSlice)
    (repositoryList : List Repository) (pe : PushEvent) :
    (∀ msgs, (processPushEvent w order sortSlice repositoryList pe).result = .ok (.ok msgs) →
      ∃ groups, (pushEventGroups w order repositoryList pe).result = .ok (.ok groups) ∧
        msgs = groups.filterMap (groupMessage w sortSlice pe) ∧
        ∀ g ∈ groups,
          (groupMessage w sortSlice pe g = none → Effect.issues (processGroup w sortSlice pe g).writes = []) ∧
          ∀ m, groupMessage w sortSlice pe g = some m → m = "" ∨
            m = "Created issue " ++
              quote (join ((Effect.issues (processGroup w sortSlice pe g).writes).map (·.name)) ",") ++
              " from push event") ∧
    (∀ e, (processPushEvent w order sortSlice repositoryList pe).result = .ok (.error e) →
      Effect.issues (processPushEvent w order sortSlice repositoryList pe).writes = [] ∨
      ∃ groups pre g post, (pushEventGroups w order repositoryList pe).result = .ok (.ok groups) ∧
        groups = pre ++ g :: post ∧ (∀ g' ∈ pre, groupStops w sortSlice pe g' = false) ∧
        groupStops w sortSlice pe g = true ∧
        Effect.issues (processPushEvent w order sortSlice repositoryList pe).writes =
          pre.flatMap (fun g' => Effect.issues (processGroup w sortSlice pe g').writes) ++
            Effect.issues (processGroup w sortSlice pe g).writes) := by
  have hres : (processPushEvent w order sortSlice repositoryList pe).result =
      (pushEventGroups w order repositoryList pe).result.bind fun r => match r with
        | .error e => .ok (.error e)
        | .ok groups => (processGroups w sortSlice pe groups []).result := by
    simp only [processPushEvent, Run.result_bind]
    congr; funext r; cases r <;> rfl
  rw [processPushEvent_writes, hres]
  rcases hg : (pushEventGroups w order repositoryList pe).result with s | e | groups
  · simp [Except.bind]
  · simp [Except.bind]
  · simp only [Except.bind]
    refine ⟨fun msgs h => ?_, fun e h => .inr ?_⟩
    · obtain ⟨hstops, rfl⟩ := processGroups_ok w sortSlice pe groups h
      refine ⟨groups, rfl, by simp, fun g hg => ⟨fun hn => ?_, (processGroup_message w sortSlice pe g).2⟩⟩
      exact (processGroup_message w sortSlice pe g).1 hn (hstops g hg)
    · obtain ⟨pre, g, post, rfl, hpre, hstop⟩ := processGroups_error w sortSlice pe groups h
      refine ⟨_, pre, g, post, rfl, rfl, hpre, hstop, ?_⟩
      simp [takeThrough_stop hpre hstop, Effect.issues_flatMap]

/-- A state-based (SDL) project's repository under `n`. -/
def sdlRepo : Repository := { pushRepo 2 .disabled "n" with project := ⟨"p", .normal, .disabled, "", .sdl⟩ }

/-- The push adds one schema file of database `shop`. -/
def schemaFileWorld : World :=
  { pushWorld [addedFile "n/shop.sql"] with
    parseMigrationInfo := fun _ _ _ => .ok none
    parseSchemaFileInfo := fun _ _ _ => .ok (some ⟨"shop", "", "", .migrate⟩) }

/-- A push of one SDL schema file reports the empty message for the issue
it created; and the push of `processPushEvent_order_decides`, visited in
reverse, fails with the 403 after it created an issue. -/
theorem processPushEvent_unreported_issues :
    ((processPushEvent schemaFileWorld .inserted .insertion [sdlRepo] onePush).result = .ok (.ok [""]) ∧
      (Effect.issues (processPushEvent schemaFileWorld .inserted .insertion [sdlRepo] onePush).writes).map
        (·.name) = ["[shop] Alter schema"]) ∧
    ((processPushEvent unlicensedWorld .reversed .insertion sharedRepos onePush).result =
        .ok (.error multiTenancyForbidden) ∧
      (Effect.issues (processPushEvent unlicensedWorld .reversed .insertion sharedRepos onePush).writes).map
        (·.name) = ["[shop] Alter schema"]) := by
  decide

/-! ## Ignored files -/

/-- A plain project's repository under `n`. -/
def plainRepo : Repository := pushRepo 2 .disabled "n"

/-- The push adds two migrations of `shop` under `n`; the second cannot be
read. -/
def unreadableWorld : World :=
  { pushWorld [addedFile "n/1.sql", addedFile "n/2.sql"] with
    findRepository := fun _ => .ok [plainRepo]
    readFile := fun _ file _ => if file = "n/2.sql" then .error (.plain "404 Not Found") else .ok "" }

/-- The two files as `getFileInfo` places them: one group. -/
def unreadableGroup : List FileInfo :=
  [⟨addedFile "n/1.sql", ⟨"shop", "", "n/1.sql", .migrate⟩, .migration, plainRepo⟩,
    ⟨addedFile "n/2.sql", ⟨"shop", "", "n/2.sql", .migrate⟩, .migration, plainRepo⟩]

/-- The group's file loop returns the warning activity for the unreadable
file, but the group's merged issue is created, so `processPushEvent`
records only the issue's own activity: the warning is lost. -/
theorem processPushEvent_drops_ignored_file :
    (processFilesInProject unreadableWorld { onePush with baseDirectory := "n" } plainRepo unreadableGroup).result.map
        (fun r => (r.2.1, r.2.2.1.map (·.level))) = .ok (true, [.warn]) ∧
    (processPushEvent unreadableWorld .inserted .insertion [plainRepo] onePush).result =
      .ok (.ok ["Created issue \"[shop] Alter schema\" from push event"]) ∧
    (Effect.activities (processPushEvent unreadableWorld .inserted .insertion [plainRepo] onePush).writes).map
      (·.level) = [.info] := by
  decide

/-! ## Which panics a push can meet

`processPushEvent` indexes `repositoryList[0]` after checking the list,
`fileInfoListSorted[0]` of groups that each hold a file, and the commit
list of a push that lists files; so only a nil VCS is left to panic on.
A file's migration information is never nil: `getFileInfo` assigns one
only where a parser returned it, and `FileInfo.migrationInfo` is a value. -/

section Panics

variable {w : World} {sortSlice : SortSlice} {pe : PushEvent} (hc : pe.commitList ≠ [])
include hc

theorem processGroup_panicsOnlyWith {g : List FileInfo} (hg : g ≠ []) :
    (processGroup w sortSlice pe g).PanicsOnlyWith nilDereference := by
  have hs : sortFilesBySchemaVersion sortSlice.sort g ≠ [] := fun h =>
    hg (List.Perm.eq_nil (h ▸ (sortSlice.perm _ g).symm))
  obtain ⟨f, fs, hfs⟩ := List.exists_cons_of_ne_nil hs
  unfold processGroup
  simp only [hfs, List.head?_cons]
  refine (vcsOf_panicsOnlyWith _).bind fun _ _ => ?_
  refine (processFilesInProject_panicsOnlyWith (by exact hc) (List.cons_ne_nil f fs)).bind fun _ _ => ?_
  repeat' first
    | exact Run.panicsOnlyWith_pure _ _
    | exact createActivities_panicsOnlyWith _ _ _
    | refine Run.PanicsOnlyWith.bind ?_ fun _ _ => ?_
    | split

theorem processGroups_panicsOnlyWith {groups : List (List FileInfo)} (hg : ∀ g ∈ groups, g ≠ [])
    (msgs : List String) : (processGroups w sortSlice pe groups msgs).PanicsOnlyWith nilDereference := by
  induction groups generalizing msgs with
  | nil => exact Run.panicsOnlyWith_pure _ _
  | cons g rest ih =>
    refine (processGroup_panicsOnlyWith hc (hg g (List.mem_cons_self g rest))).bind fun r _ => ?_
    have hrest := ih fun g' h => hg g' (List.mem_cons_of_mem g h)
    split
    · exact Run.panicsOnlyWith_pure _ _
    · exact hrest _
    · exact hrest _

end Panics

/-- Every group the two loops visit holds a file. -/
theorem visitGroups_ne_nil (order : RangeOrder) (m : GoMap Int (List FileInfo)) :
    ∀ g ∈ visitGroups order m, g ≠ [] := by
  simp only [visitGroups, List.mem_flatMap, List.mem_map]
  rintro g ⟨entry, -, kv, hkv, rfl⟩
  exact ((GoMap.mem_entries_groupBy _ _ _ _).1 ((order.rangeDbs_perm _).subset hkv)).1

/-- Forming the groups panics only on a nil VCS, and gives groups that each
hold a file, and some only for a push that lists files. -/
theorem pushEventGroups_spec (w : World) (order : RangeOrder) (repositoryList : List Repository) (pe : PushEvent) :
    (pushEventGroups w order repositoryList pe).PanicsOnlyWith nilDereference ∧
    ∀ groups, (pushEventGroups w order repositoryList pe).result = .ok (.ok groups) →
      (∀ g ∈ groups, g ≠ []) ∧ (groups ≠ [] → w.getDistinctFileList pe ≠ []) := by
  rcases repositoryList with _ | ⟨repo, rest⟩
  · exact ⟨Run.panicsOnlyWith_pure _ _, fun _ h => nomatch h⟩
  simp only [pushEventGroups]
  split
  · exact ⟨Run.panicsOnlyWith_pure _ _, fun _ h => by cases h; simp⟩
  rename_i hne
  refine ⟨(Run.panicsOnlyWith_pure _ _).bind fun _ _ => (filterFilesByCommitsDiff_panicsOnlyWith w repo _ _ _).bind
    fun _ _ => by split <;> exact Run.panicsOnlyWith_pure _ _, fun groups h => ?_⟩
  rcases hf : (filterFilesByCommitsDiff w repo (w.getDistinctFileList pe) pe.before pe.after).result
    with _ | _ | files <;> simp [hf] at h
  exact ⟨h ▸ visitGroups_ne_nil _ _, fun _ => by simpa [List.isEmpty_iff] using hne⟩

/-- **No index out of range in a push.** For every push whose distinct-file
list is empty when its commit list is, every repository list and every
order of the map loops and of `sort.Slice`, every slice `processPushEvent`
and the functions it calls index holds the element asked for: the only
panic the run can end in is the dereference of a repository's nil VCS. -/
theorem processPushEvent_panicsOnlyWith (w : World) (order : RangeOrder) (sortSlice : SortSlice)
    (repositoryList : List Repository) (pe : PushEvent) (hpe : pe.commitList = [] → w.getDistinctFileList pe = []) :
    (processPushEvent w order sortSlice repositoryList pe).PanicsOnlyWith nilDereference := by
  obtain ⟨hpanic, hgroups⟩ := pushEventGroups_spec w order repositoryList pe
  refine hpanic.bind fun r hr => ?_
  split
  · exact Run.panicsOnlyWith_pure _ _
  rename_i groups
  obtain ⟨hne, hfiles⟩ := hgroups groups hr
  rcases groups with _ | ⟨g, gs⟩
  · exact Run.panicsOnlyWith_pure _ _
  exact processGroups_panicsOnlyWith (fun h => hfiles (List.cons_ne_nil g gs) (hpe h)) hne []

theorem processPushEvent_panicsOnlyWith_shared :
    (onePush.commitList = [] → unlicensedWorld.getDistinctFileList onePush = []) ∧
    (processPushEvent unlicensedWorld .inserted .insertion sharedRepos onePush).PanicsOnlyWith nilDereference :=
  ⟨fun h => absurd h (by decide),
    processPushEvent_panicsOnlyWith _ _ _ _ _ fun h => absurd h (by decide)⟩

/-! ## Where a push writes

A group is processed under the repository of its first file once sorted,
which is one of the group's files, and every file of every group was
placed by `getFileInfo` in a repository of the list. So each write of a
push is inside the project of one of the repositories it was handed. -/

section Scope

variable {w : World} {sortSlice : SortSlice} {pe : PushEvent}

theorem createActivities_spec {projectID : Int} {acts : List ActivityCreate} (h : ActivitiesOn projectID acts) :
    (createActivities w acts).Spec (Effect.InProject w projectID) fun _ => True := by
  induction acts with
  | nil => exact Run.spec_pure trivial
  | cons a rest ih =>
    have ih := ih fun a' ha' => h a' (List.mem_cons_of_mem a ha')
    unfold createActivities
    split
    · exact (Run.spec_write (h a (List.mem_cons_self a rest))).bind fun _ _ => ih
    · exact (Run.spec_pure (Q := fun _ => True) trivial).bind fun _ _ => ih

/-- A group writes only into the project of the repository of one of its
files. -/
theorem processGroup_spec (g : List FileInfo) :
    (processGroup w sortSlice pe g).Spec (fun e => ∃ f ∈ g, e.InProject w f.repository.projectID) fun _ => True := by
  unfold processGroup
  rcases hs : sortFilesBySchemaVersion sortSlice.sort g with _ | ⟨first, rest⟩
  · exact Run.spec_panic _
  have hsorted : first ∈ sortFilesBySchemaVersion sortSlice.sort g := hs ▸ List.mem_cons_self first rest
  have hP : ∀ e : Effect, e.InProject w first.repository.projectID → ∃ f ∈ g, e.InProject w f.repository.projectID :=
    fun e he => ⟨first, (sortSlice.perm _ g).subset hsorted, he⟩
  simp only [List.head?_cons]
  refine (Run.spec_of_writes_eq_nil (vcsOf_writes _) fun _ _ => trivial).bind fun _ _ => ?_
  refine ((processFilesInProject_spec _).mono hP fun _ h => h).bind fun ⟨m, created, acts, err⟩ hacts => ?_
  dsimp only
  repeat' first
    | exact Run.spec_pure (Q := fun _ => True) trivial
    | exact (createActivities_spec hacts).mono hP fun _ h => h
    | apply Run.Spec.bind
    | intro _ _
    | split

theorem processGroups_spec {repositoryList : List Repository} {groups : List (List FileInfo)}
    (hg : ∀ g ∈ groups, ∀ f ∈ g, f.repository ∈ repositoryList) (msgs : List String) :
    (processGroups w sortSlice pe groups msgs).Spec (fun e => ∃ repo ∈ repositoryList, e.InProject w repo.projectID)
      fun _ => True := by
  induction groups generalizing msgs with
  | nil => exact Run.spec_pure trivial
  | cons g rest ih =>
    have hin : ∀ e : Effect, (∃ f ∈ g, e.InProject w f.repository.projectID) →
        ∃ repo ∈ repositoryList, e.InProject w repo.projectID :=
      fun _ ⟨f, hf, he⟩ => ⟨f.repository, hg g (List.mem_cons_self g rest) f hf, he⟩
    have ih := ih fun g' h => hg g' (List.mem_cons_of_mem g h)
    refine ((processGroup_spec g).mono hin fun _ h => h).bind fun r _ => ?_
    split
    · exact Run.spec_pure trivial
    · exact ih _
    · exact ih _

/-- Every file of a group the two loops visit is a value of the map. -/
theorem mem_values_of_mem_visitGroups {order : RangeOrder} {m : GoMap Int (List FileInfo)} {g : List FileInfo}
    (hg : g ∈ visitGroups order m) {f : FileInfo} (hf : f ∈ g) : f ∈ m.values := by
  simp only [visitGroups, List.mem_flatMap, List.mem_map] at hg
  obtain ⟨entry, hentry, ⟨k, g'⟩, hkv, rfl⟩ := hg
  obtain ⟨-, rfl⟩ := (GoMap.mem_entries_groupBy _ _ _ _).1 ((order.rangeDbs_perm _).subset hkv)
  exact List.mem_flatMap.2 ⟨entry, (order.rangeRepos_perm _).subset hentry, List.mem_of_mem_filter hf⟩

/-- The files of the groups of a push are placed in repositories of the
list. -/
theorem pushEventGroups_repositories {order : RangeOrder} {repositoryList : List Repository}
    {groups : List (List FileInfo)} (h : (pushEventGroups w order repositoryList pe).result = .ok (.ok groups)) :
    ∀ g ∈ groups, ∀ f ∈ g, f.repository ∈ repositoryList := by
  rcases repositoryList with _ | ⟨repo, rest⟩
  · cases h
  simp only [pushEventGroups] at h
  split at h
  · cases h; exact nofun
  rcases hf : (filterFilesByCommitsDiff w repo (w.getDistinctFileList pe) pe.before pe.after).result
    with _ | _ | files <;> simp [hf] at h
  subst h
  intro g hg f hfg
  exact getFileInfo_mem ((mem_values_groupFileInfoByRepo _ _ _ _).1 (mem_values_of_mem_visitGroups hg hfg)).2

/-- **A push writes only into the projects of its repositories.** For
every order of the map loops and of `sort.Slice`, every issue, activity
and task patch `processPushEvent` writes is inside the project of one of
the repositories it is handed. -/
theorem processPushEvent_spec (order : RangeOrder) (repositoryList : List Repository) :
    (processPushEvent w order sortSlice repositoryList pe).Spec
      (fun e => ∃ repo ∈ repositoryList, e.InProject w repo.projectID) fun _ => True := by
  refine (Run.spec_of_writes_eq_nil (pushEventGroups_writes ..)
    (Q := fun r => (pushEventGroups w order repositoryList pe).result = .ok r) fun _ h => h).bind fun r hr => ?_
  rcases r with e | groups
  · exact Run.spec_pure trivial
  · exact processGroups_spec (pushEventGroups_repositories hr) []

end Scope

end Bytebase.Webhook
