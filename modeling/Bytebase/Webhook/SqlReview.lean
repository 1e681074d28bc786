import Bytebase.Webhook.Issue

/-!
# Webhook — the SQL review endpoint

`POST /sql-review/:id` lists the files of a pull request, places each file
that is not deleted with `getFileInfo`, and starts one goroutine per
placed file; each reviews its file (`sqlAdviceForFile`) and, when the
review succeeds with a non-nil list, stores the list in the shared map
under the file's path. The handler waits for all of them and formats the
map.

A goroutine's review only reads: the store, the VCS and the advisor
answer as the `World` says, whatever the other goroutines do. So the
interleaving matters only through the order of the map writes, which is
`schedule`, a permutation of the goroutines; each write is one step, as
if the map were guarded (the Go code writes it without a lock, a data
race this model does not describe). A goroutine that panics ends the
process.

The result: when no two goroutines' files share a path, every schedule
leaves the same map, holding exactly the non-nil lists of the successful
reviews (`sqlReview_adviceMap`); two files with one path leave the list
of whichever write comes last.
-/

namespace Bytebase.Webhook

open Bytebase.Go Bytebase.Api

/-! ## One file -/

/-- The database loop of `sqlAdviceForFile`: the first database whose
environment has a SQL review policy is checked through a read-only
driver, which is closed after the check. -/
def reviewDatabases (w : World) (fileContent : String) :
    List Database → Run (Except GoError (Option (List Advice)))
  | [] =>
    pure (.ok (some [⟨statusWarn, w.adviceNotFound, "SQL review policy not found",
      "You can configure the SQL review policy on " ++ w.externalURL ++ "/setting/sql-review", 1⟩]))
  | database :: rest =>
    match w.getNormalSQLReviewPolicy database.inst.environmentID with
    | .error e =>
      pure (.error (.plain ("Failed to get SQL review policy in environment " ++
        toString database.inst.environmentID ++ " with error: " ++ e.text)))
    | .ok none => reviewDatabases w fileContent rest
    | .ok (some policy) =>
      match w.convertToAdvisorDBType database.inst.engine with
      | .error e =>
        pure (.error (.plain ("Failed to convert database engine type " ++ database.inst.engine ++
          " to advisor db type with error: " ++ e.text)))
      | .ok dbType =>
        match w.newCatalog database.id database.inst.engine with
        | .error e =>
          pure (.error (.plain ("Failed to get catalog for database " ++ toString database.id ++
            " with error: " ++ e.text)))
        | .ok () =>
          match w.getReadOnlyDatabaseDriver database.inst database.name with
          | .error e => pure (.error e)
          | .ok driver => do
            Run.write (.driverOpened driver)
            match w.getDBConnection driver database.name with
            | .error e => pure (.error e)
            | .ok () => do
              let result := w.sqlReviewCheck fileContent policy database dbType
              Run.write (.driverClosed driver)
              match result with
              | .error e =>
                pure (.error (.plain ("Failed to exec the SQL check for database " ++ toString database.id ++
                  " with error: " ++ e.text)))
              | .ok adviceList => pure (.ok adviceList)

/-- `sqlAdviceForFile(fileInfo)`: the file's advice list (`none` is a nil
list) or the error. Its first log line reads the repository's VCS. -/
def sqlAdviceForFile (w : World) (fileInfo : FileInfo) : Run (Except GoError (Option (List Advice))) := do
  let repo := fileInfo.repository
  let _ ← vcsOf repo
  if repo.project.tenantMode = .tenant then
    return .ok (some [⟨statusWarn, w.adviceUnsupported, "Tenant mode is not supported",
      "Project " ++ repo.project.name ++ " a tenant mode project.", 1⟩])
  match findProjectDatabases w repo.projectID fileInfo.migrationInfo.database fileInfo.migrationInfo.environment with
  | .error e => return .error (.plain ("Failed to list databse with error: " ++ e.text))
  | .ok databases =>
    match w.readFile repo fileInfo.item.fileName fileInfo.item.commit.id with
    | .error e =>
      return .error (.plain ("Failed to read file cotent for " ++ fileInfo.item.fileName ++ " with error: " ++ e.text))
    | .ok fileContent => reviewDatabases w fileContent databases

/-- The database loop never panics. -/
theorem reviewDatabases_ok (w : World) (fileContent : String) (databases : List Database) :
    ∃ r, (reviewDatabases w fileContent databases).result = .ok r := by
  induction databases with
  | nil => exact ⟨_, rfl⟩
  | cons d rest ih =>
    simp only [reviewDatabases]
    repeat' split
    all_goals simp_all

/-- A review panics only on a repository with no VCS. -/
theorem sqlAdviceForFile_ok (w : World) {fileInfo : FileInfo} (h : fileInfo.repository.vcs.isSome) :
    ∃ r, (sqlAdviceForFile w fileInfo).result = .ok r := by
  obtain ⟨v, hv⟩ := Option.isSome_iff_exists.1 h
  simp only [sqlAdviceForFile, vcsOf, hv, Run.result_bind, Run.result_pure, Except.bind]
  repeat' split
  all_goals simp_all [reviewDatabases_ok]

/-! ## Drivers -/

/-- What a review writes of drivers: nothing; or the driver of one
database, opened and closed after the check; or, when `GetDBConnection`
fails, opened and never closed, the failure being the review's result. -/
def DriverWrites (w : World) (r : Run (Except GoError (Option (List Advice)))) : Prop :=
  r.writes = [] ∨ ∃ (database : Database) (driver : Nat), w.getReadOnlyDatabaseDriver database.inst database.name = .ok driver ∧
    ((w.getDBConnection driver database.name = .ok () ∧ r.writes = [.driverOpened driver, .driverClosed driver]) ∨
      ∃ e, w.getDBConnection driver database.name = .error e ∧ r.writes = [.driverOpened driver] ∧
        r.result = .ok (.error e))

theorem reviewDatabases_drivers (w : World) (fileContent : String) (databases : List Database) :
    DriverWrites w (reviewDatabases w fileContent databases) := by
  induction databases with
  | nil => exact Or.inl rfl
  | cons d rest ih =>
    simp only [reviewDatabases]
    split
    · exact Or.inl rfl
    · exact ih
    split
    · exact Or.inl rfl
    split
    · exact Or.inl rfl
    split
    · exact Or.inl rfl
    rename_i driver hdriver
    refine Or.inr ⟨d, driver, hdriver, ?_⟩
    rcases hc : w.getDBConnection driver d.name with e | _
    · exact Or.inr ⟨e, rfl, by simp [hc], by simp [hc]⟩
    · refine Or.inl ⟨rfl, ?_⟩
      simp only [hc, Run.writes_bind, Run.writes_write, Run.result_write]
      split <;> rfl

/-- **The drivers of one review.** A review opens at most one driver, and
closes it once after the check unless `GetDBConnection` fails on it; then
it returns that failure with the driver still open. -/
theorem sqlAdviceForFile_drivers (w : World) (fileInfo : FileInfo) :
    DriverWrites w (sqlAdviceForFile w fileInfo) := by
  cases hv : fileInfo.repository.vcs with
  | none => exact Or.inl (by simp [sqlAdviceForFile, vcsOf, hv])
  | some v =>
    simp only [sqlAdviceForFile, vcsOf, hv]
    split
    · exact Or.inl rfl
    split
    · exact Or.inl rfl
    split
    · exact Or.inl rfl
    · exact reviewDatabases_drivers w _ _

/-- A store whose one database `shop` has a policy, and whose driver `7`
cannot connect. -/
def refusedConnectionWorld : World :=
  { World.quiet with
    findDatabase := fun _ _ => .ok [shopDatabase]
    getNormalSQLReviewPolicy := fun _ => .ok (some ⟨[]⟩)
    getReadOnlyDatabaseDriver := fun _ _ => .ok 7
    getDBConnection := fun _ _ => .error (.plain "connection refused") }

/-- A migration of `shop` in a plain project. -/
def shopMigration : FileInfo :=
  ⟨⟨"shop/1.sql", ⟨"c1", ""⟩, .unset, false⟩, ⟨"shop", "", "1", .migrate⟩, .migration, linkedRepo 1 "shop" "ws-1"⟩

/-- The driver obtained for `shop` is never closed: the review returns the
connection error with the driver open. -/
theorem sqlAdviceForFile_leaks_driver :
    (sqlAdviceForFile refusedConnectionWorld shopMigration).writes = [.driverOpened 7] ∧
      (sqlAdviceForFile refusedConnectionWorld shopMigration).result = .ok (.error (.plain "connection refused")) := by
  decide

/-! ## The goroutines -/

/-- The pull request's files the review places: those not deleted, as
distinct-file items of their last commit. -/
def prDistinctFileList (prFiles : List PullRequestFile) : List DistinctFileItem :=
  prFiles.filterMap fun f => if f.isDeleted then none else some ⟨f.path, ⟨f.lastCommitID, ""⟩, .unset, false⟩

/-- The goroutines the handler starts, one per placed file. -/
def reviewTasks (w : World) (repositoryList : List Repository) (prFiles : List PullRequestFile) : List FileInfo :=
  (groupFileInfoByRepo w (prDistinctFileList prFiles) repositoryList).values

/-- The write a goroutine makes to `sqlCheckAdvice`, if any. -/
def reviewWrite (w : World) (file : FileInfo) : Option (String × List Advice) :=
  match (sqlAdviceForFile w file).result with
  | .ok (.ok (some adviceList)) => some (file.item.fileName, adviceList)
  | _ => none

/-- `sqlCheckAdvice` after `wg.Wait()`, from `m`, when the goroutines write
in the order `schedule`; a panic ends the process. -/
def adviceMapAfterWait (w : World) : GoMap String (List Advice) → List FileInfo →
    Except String (GoMap String (List Advice))
  | m, [] => .ok m
  | m, file :: rest =>
    match (sqlAdviceForFile w file).result with
    | .error p => .error p
    | .ok (.ok (some adviceList)) => adviceMapAfterWait w (m.set file.item.fileName adviceList) rest
    | .ok _ => adviceMapAfterWait w m rest

/-- With no panic, the map is the writes applied in schedule order. -/
theorem adviceMapAfterWait_eq (w : World) (m : GoMap String (List Advice)) {schedule : List FileInfo}
    (h : ∀ t ∈ schedule, ∃ r, (sqlAdviceForFile w t).result = .ok r) :
    adviceMapAfterWait w m schedule = .ok (m.setAll (schedule.filterMap (reviewWrite w))) := by
  induction schedule generalizing m with
  | nil => rfl
  | cons t rest ih =>
    obtain ⟨r, hr⟩ := h t (List.mem_cons_self t rest)
    have hrest : ∀ t' ∈ rest, ∃ r, (sqlAdviceForFile w t').result = .ok r :=
      fun t' ht' => h t' (List.mem_cons_of_mem t ht')
    rcases r with e | _ | l <;> simp [adviceMapAfterWait, reviewWrite, hr, ih _ hrest, GoMap.setAll]

theorem mem_prDistinctFileList (prFiles : List PullRequestFile) (item : DistinctFileItem) :
    item ∈ prDistinctFileList prFiles ↔
      ∃ f ∈ prFiles, f.isDeleted = false ∧ item = ⟨f.path, ⟨f.lastCommitID, ""⟩, .unset, false⟩ := by
  simp only [prDistinctFileList, List.mem_filterMap]
  constructor
  · rintro ⟨f, hf, h⟩
    cases hd : f.isDeleted <;> simp [hd] at h
    exact ⟨f, hf, hd, h.symm⟩
  · rintro ⟨f, hf, hd, rfl⟩
    exact ⟨f, hf, by simp [hd]⟩

theorem reviewWrite_eq_some (w : World) (t : FileInfo) (path : String) (adviceList : List Advice) :
    reviewWrite w t = some (path, adviceList) ↔
      t.item.fileName = path ∧ (sqlAdviceForFile w t).result = .ok (.ok (some adviceList)) := by
  rcases h : (sqlAdviceForFile w t).result with p | e | _ | l <;> simp [reviewWrite, h]

theorem keys_filterMap_reviewWrite (w : World) (l : List FileInfo) :
    ((l.filterMap (reviewWrite w)).map Prod.fst).Sublist (l.map (·.item.fileName)) := by
  induction l with
  | nil => simp
  | cons t rest ih =>
    rcases h : reviewWrite w t with _ | ⟨path, adviceList⟩
    · simpa [h] using ih.cons t.item.fileName
    · simpa [h, ((reviewWrite_eq_some w t path adviceList).1 h).1] using ih.cons₂ t.item.fileName

/-- **The review map is the same for every schedule.** When every
repository of the list has a VCS (as those `filterRepository` returns do)
and no two goroutines review files with the same path, every order of the
map writes leaves a map holding exactly the non-nil advice lists of the
successful reviews, each under its file's path: the files are the
non-deleted files of the pull request that `getFileInfo` assigns a
repository. -/
theorem sqlReview_adviceMap (w : World) (repositoryList : List Repository) (prFiles : List PullRequestFile)
    (hvcs : ∀ r ∈ repositoryList, r.vcs.isSome)
    (hpaths : ((reviewTasks w repositoryList prFiles).map (·.item.fileName)).Nodup)
    (schedule : List FileInfo) (hσ : schedule.Perm (reviewTasks w repositoryList prFiles)) :
    ∃ m, adviceMapAfterWait w GoMap.empty schedule = .ok m ∧
      ∀ path adviceList, m.get? path = some adviceList ↔
        ∃ f ∈ prFiles, f.isDeleted = false ∧ f.path = path ∧
          ∃ mi t repo, getFileInfo w ⟨f.path, ⟨f.lastCommitID, ""⟩, .unset, false⟩ repositoryList = .ok (mi, t, repo) ∧
            (sqlAdviceForFile w ⟨⟨f.path, ⟨f.lastCommitID, ""⟩, .unset, false⟩, mi, t, repo⟩).result =
              .ok (.ok (some adviceList)) := by
  have htask : ∀ t, t ∈ schedule ↔ (∃ f ∈ prFiles, f.isDeleted = false ∧
      t.item = ⟨f.path, ⟨f.lastCommitID, ""⟩, .unset, false⟩) ∧
      getFileInfo w t.item repositoryList = .ok (t.migrationInfo, t.fType, t.repository) := fun t => by
    rw [hσ.mem_iff, reviewTasks, mem_values_groupFileInfoByRepo, mem_prDistinctFileList]
  have hok : ∀ t ∈ schedule, ∃ r, (sqlAdviceForFile w t).result = .ok r := fun t ht =>
    sqlAdviceForFile_ok w (hvcs _ (getFileInfo_mem ((htask t).1 ht).2))
  refine ⟨_, adviceMapAfterWait_eq w _ hok, fun path adviceList => ?_⟩
  have hnodup := (keys_filterMap_reviewWrite w schedule).nodup ((hσ.map _).nodup_iff.2 hpaths)
  rw [GoMap.get?_setAll_empty hnodup, List.mem_filterMap]
  constructor
  · rintro ⟨t, ht, hw⟩
    obtain ⟨⟨f, hf, hd, hi⟩, hg⟩ := (htask t).1 ht
    obtain ⟨hp, hr⟩ := (reviewWrite_eq_some w t path adviceList).1 hw
    obtain ⟨item, mi, ty, repo⟩ := t
    subst hi
    exact ⟨f, hf, hd, hp, mi, ty, repo, hg, hr⟩
  · rintro ⟨f, hf, hd, hp, mi, ty, repo, hg, hr⟩
    exact ⟨_, (htask _).2 ⟨⟨f, hf, hd, rfl⟩, hg⟩, (reviewWrite_eq_some w _ path adviceList).2 ⟨hp, hr⟩⟩

/-- A repository of a plain project at the root of its GitHub repository. -/
def reviewRepo : Repository :=
  { id := 1, projectID := 1, project := ⟨"p", .normal, .disabled, "", .ddl⟩, vcs := some ⟨.gitHubCom, "", "", ""⟩,
    webURL := "", externalID := "42", baseDirectory := "", branchFilter := "main", filePathTemplate := "",
    schemaPathTemplate := "", webhookEndpointID := "ep", webhookSecretToken := "tok", enableSQLReviewCI := true,
    accessToken := "", refreshToken := "" }

/-- Every file is a migration of database `shop`, whose environment has a
policy; a file reads as the ID of its commit, and the advisor warns once,
with the statement as the title. -/
def reviewWorld : World :=
  { World.quiet with
    parseMigrationInfo := fun _ _ _ => .ok (some ⟨"shop", "", "1", .migrate⟩)
    findDatabase := fun _ _ => .ok [⟨1, "shop", ⟨1, ⟨"prod"⟩, "MYSQL"⟩, "", ""⟩]
    readFile := fun _ _ ref => .ok ref
    getNormalSQLReviewPolicy := fun _ => .ok (some ⟨[]⟩)
    sqlReviewCheck := fun statement _ _ _ => .ok (some [⟨statusWarn, 101, statement, "", 1⟩]) }

/-- Two files with two paths, and a deleted one. -/
def twoPaths : List PullRequestFile := [⟨"a.sql", "c1", false⟩, ⟨"b.sql", "c2", false⟩, ⟨"c.sql", "c3", true⟩]

theorem sqlReview_adviceMap_twoPaths :
    (∀ r ∈ [reviewRepo], r.vcs.isSome) ∧
    ((reviewTasks reviewWorld [reviewRepo] twoPaths).map (·.item.fileName)).Nodup ∧
    ∃ m, adviceMapAfterWait reviewWorld GoMap.empty (reviewTasks reviewWorld [reviewRepo] twoPaths) = .ok m ∧
      ∀ path adviceList, m.get? path = some adviceList ↔
        ∃ f ∈ twoPaths, f.isDeleted = false ∧ f.path = path ∧
          ∃ mi t repo, getFileInfo reviewWorld ⟨f.path, ⟨f.lastCommitID, ""⟩, .unset, false⟩ [reviewRepo] =
              .ok (mi, t, repo) ∧
            (sqlAdviceForFile reviewWorld ⟨⟨f.path, ⟨f.lastCommitID, ""⟩, .unset, false⟩, mi, t, repo⟩).result =
              .ok (.ok (some adviceList)) :=
  ⟨by decide, by decide,
    sqlReview_adviceMap reviewWorld [reviewRepo] twoPaths (by decide) (by decide) _ (List.Perm.refl _)⟩

/-- Two files of the pull request with one path, at two commits. -/
def onePathTwice : List PullRequestFile := [⟨"a.sql", "c1", false⟩, ⟨"a.sql", "c2", false⟩]

/-- The two goroutines write `a.sql` in turn: in launch order the map keeps
the second review, in the reverse order the first. -/
theorem sqlReview_adviceMap_last_write_wins :
    (adviceMapAfterWait reviewWorld GoMap.empty (reviewTasks reviewWorld [reviewRepo] onePathTwice)).map
        (·.get? "a.sql") = .ok (some [⟨statusWarn, 101, "c2", "", 1⟩]) ∧
    (adviceMapAfterWait reviewWorld GoMap.empty (reviewTasks reviewWorld [reviewRepo] onePathTwice).reverse).map
        (·.get? "a.sql") = .ok (some [⟨statusWarn, 101, "c1", "", 1⟩]) := by
  decide
end Bytebase.Webhook
