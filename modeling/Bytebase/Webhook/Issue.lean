import Bytebase.Webhook.FileInfo

/-!
# Webhook — from a group of files to issues

The second half of the push pipeline, for one (repository, database)
group: each file's content is read at the push's last commit and turned
into migration details against the project's databases
(`prepareIssueFromFile`, `prepareIssueFromSDLFile`), or, for a modified
file of a non-tenant project, patched into the pending task of its schema
version (`tryUpdateTasksFromModifiedFile`); a file that cannot be used
yields a warning activity instead (`getIgnoredFileActivityCreate`).
`processFilesInProject` creates one issue per SDL schema file and one
issue for all the migration details of the group.

Each function is the Go function of the same name; a Go function with
several results returns them as a tuple, its error last as an `Option`
or inside an `Except`, and the store writes it makes are the `Run`'s.
JSON marshalling of the payloads cannot fail on these records and is not
modelled; the payloads are the records themselves.
-/

namespace Bytebase.Webhook

open Bytebase.Go Bytebase.Api

/-! ## Reading and resolving -/

/-- `readFileContent(pushEvent, repo, file)`. The repository is looked up
again by its webhook endpoint and the first one found is read through; an
empty lookup returns no content and no error (`errors.Wrapf` of a nil
error is nil). -/
def readFileContent (w : World) (pushEvent : PushEvent) (repo : Repository) (file : String) :
    Run (Except GoError String) :=
  match w.findRepository repo.webhookEndpointID with
  | .error e => pure (.error (e.wrap ("get repository by webhook endpoint " ++ quote repo.webhookEndpointID)))
  | .ok [] => pure (.ok "")
  | .ok (repo :: _) => do
    let _ ← vcsOf repo
    match pushEvent.commitList.getLast? with
    | none => Run.panic "index out of range [-1]"
    | some lastCommit =>
      pure (match w.readFile repo file lastCommit.id with
        | .error e => .error (e.wrap "read content")
        | .ok content => .ok content)

@[simp] theorem readFileContent_writes (w : World) (pushEvent : PushEvent) (repo : Repository) (file : String) :
    (readFileContent w pushEvent repo file).writes = [] := by
  unfold readFileContent
  split
  · rfl
  · rfl
  · simp only [Run.writes_bind, vcsOf_writes, List.nil_append]
    split
    · split <;> rfl
    · rfl

/-- **What a successful read returns.** The repository is looked up again
by its webhook endpoint: an empty lookup succeeds with empty content, and
otherwise the file is read, at the push's last commit, through whichever
record the lookup lists first. -/
theorem readFileContent_result_eq_ok {w : World} {pushEvent : PushEvent} {repo : Repository}
    {file content : String} :
    (readFileContent w pushEvent repo file).result = .ok (.ok content) ↔
      (w.findRepository repo.webhookEndpointID = .ok [] ∧ content = "") ∨
      ∃ first rest lastCommit, w.findRepository repo.webhookEndpointID = .ok (first :: rest) ∧ first.vcs ≠ none ∧
        pushEvent.commitList.getLast? = some lastCommit ∧ w.readFile first file lastCommit.id = .ok content := by
  unfold readFileContent
  split
  · next hfind => simp [hfind]
  · next hfind => simp [hfind, @eq_comm _ ""]
  · rename_i first rest hfind
    cases hv : first.vcs with
    | none => simp [vcsOf, hv, hfind]
    | some v =>
      cases hl : pushEvent.commitList.getLast? with
      | none => simp [vcsOf, hv, hl, hfind]
      | some lc => cases hr : w.readFile first file lc.id <;> simp [vcsOf, hv, hl, hr, hfind]

/-- A repository of project `id` linked to the external repository
`externalID` through the webhook endpoint `endpoint`. -/
def linkedRepo (id : Int) (externalID endpoint : String) : Repository :=
  ⟨id, id, ⟨"p", .normal, .disabled, "", .ddl⟩, some ⟨.gitLabSelfHost, "https://git.example", "app", "secret"⟩,
    "https://git.example/" ++ externalID, externalID, "", "main", "", "", endpoint, "secret", false, "access", "refresh"⟩

/-- A store with two links under the endpoint "ws-1000" (two links made in
the same second share it), whose VCS answers a read with the external
repository and the path it read. -/
def sharedEndpointWorld : World :=
  { World.quiet with
    findRepository := fun e =>
      if e = "ws-1000" then .ok [linkedRepo 1 "shop/api" "ws-1000", linkedRepo 2 "shop/web" "ws-1000"] else .ok []
    readFile := fun r f _ => .ok (r.externalID ++ ":" ++ f) }

/-- A push with one commit. -/
def onePushEvent : PushEvent := ⟨.gitLabSelfHost, "", "refs/heads/main", "b", "a", "42", [⟨"a", ""⟩]⟩

/-- Repository 2's file is read from repository 1's external repository,
and a repository whose endpoint the store no longer lists reads as empty
content without error. -/
theorem readFileContent_other_record_or_nothing :
    (readFileContent sharedEndpointWorld onePushEvent (linkedRepo 2 "shop/web" "ws-1000") "m.sql").result =
        .ok (.ok "shop/api:m.sql") ∧
      sharedEndpointWorld.readFile (linkedRepo 2 "shop/web" "ws-1000") "m.sql" "a" = .ok "shop/web:m.sql" ∧
      (readFileContent sharedEndpointWorld onePushEvent (linkedRepo 3 "shop/db" "ws-999") "m.sql").result =
        .ok (.ok "") ∧
      sharedEndpointWorld.readFile (linkedRepo 3 "shop/db" "ws-999") "m.sql" "a" = .ok "shop/db:m.sql" := by
  decide

/-- Whether two databases of the list share an environment: the `marked`
loop of `findProjectDatabases`. -/
def hasSharedEnvironment : List Database → Bool
  | [] => false
  | d :: rest => rest.any (·.inst.environmentID == d.inst.environmentID) || hasSharedEnvironment rest

/-- `findProjectDatabases(projectID, dbName, envName)`. -/
def findProjectDatabases (w : World) (projectID : Int) (dbName envName : String) :
    Except GoError (List Database) :=
  match w.findDatabase projectID dbName with
  | .error e => .error (e.wrap "find database")
  | .ok [] => .error (.plain ("project " ++ toString projectID ++ " does not have database " ++ quote dbName))
  | .ok foundDatabases =>
    let filteredDatabases :=
      if envName.isEmpty then foundDatabases
      else foundDatabases.filter fun d => equalFold w.simpleFold d.inst.environment.name envName
    if !envName.isEmpty && filteredDatabases.isEmpty then
      .error (.plain ("project " ++ toString projectID ++ " does not have database " ++ quote dbName ++
        " for environment " ++ quote envName))
    else if hasSharedEnvironment filteredDatabases then
      .error (.plain ("project " ++ toString projectID ++ " has multiple databases " ++ quote dbName ++
        " for environment " ++ quote envName))
    else .ok filteredDatabases

/-- The databases `findProjectDatabases` keeps of those the store finds:
the ones whose environment name `strings.EqualFold` matches with
`envName`, or all of them when `envName` is empty. -/
def environmentDatabases (simpleFold : Char → Char) (envName : String) (foundDatabases : List Database) :
    List Database :=
  if envName.isEmpty then foundDatabases
  else foundDatabases.filter fun d => equalFold simpleFold d.inst.environment.name envName

/-- The `marked` loop finds two databases of one environment exactly when
the environment IDs are not pairwise distinct. -/
theorem hasSharedEnvironment_eq_false_iff (l : List Database) :
    hasSharedEnvironment l = false ↔ (l.map (·.inst.environmentID)).Nodup := by
  induction l with
  | nil => simp [hasSharedEnvironment]
  | cons d rest ih =>
    simp only [hasSharedEnvironment, Bool.or_eq_false_iff, ih, List.map_cons, List.nodup_cons, List.any_eq_false,
      beq_iff_eq, List.mem_map, not_exists, not_and]

/-- What `findProjectDatabases` makes of the databases the store found:
those of the environment, when there are some and no two share an
environment. -/
theorem findProjectDatabases_eq_ok_of_found {w : World} {projectID : Int} {dbName envName : String}
    {found : List Database} (h : w.findDatabase projectID dbName = .ok found) (l : List Database) :
    findProjectDatabases w projectID dbName envName = .ok l ↔
      l = environmentDatabases w.simpleFold envName found ∧ l ≠ [] ∧ (l.map (·.inst.environmentID)).Nodup := by
  rw [← hasSharedEnvironment_eq_false_iff]
  rcases found with _ | ⟨d, rest⟩
  · simp only [findProjectDatabases, h, environmentDatabases, List.filter_nil, ite_self, reduceCtorEq, false_iff,
      not_and]
    exact fun h1 h2 => absurd h1 h2
  -- with a database found, an empty environment keeps it, so both guards test the kept list
  have hne : (!envName.isEmpty && (environmentDatabases w.simpleFold envName (d :: rest)).isEmpty) =
      (environmentDatabases w.simpleFold envName (d :: rest)).isEmpty := by
    by_cases he : envName.isEmpty <;> simp [environmentDatabases, he]
  simp only [findProjectDatabases, h, ← environmentDatabases.eq_1, hne]
  generalize environmentDatabases w.simpleFold envName (d :: rest) = F
  split_ifs with h1 h2
  · simp_all [List.isEmpty_iff]
  · simp only [reduceCtorEq, false_iff, not_and]; rintro rfl; simp_all
  · simp only [Except.ok.injEq]
    constructor
    · rintro rfl; simp_all [List.isEmpty_iff]
    · rintro ⟨rfl, -⟩; rfl

theorem findProjectDatabases_eq_ok_iff {w : World} {projectID : Int} {dbName envName : String} {l : List Database} :
    findProjectDatabases w projectID dbName envName = .ok l ↔
      ∃ found, w.findDatabase projectID dbName = .ok found ∧
        l = environmentDatabases w.simpleFold envName found ∧ l ≠ [] ∧ (l.map (·.inst.environmentID)).Nodup := by
  rcases hf : w.findDatabase projectID dbName with e | found
  · simp [findProjectDatabases, hf]
  · simp [findProjectDatabases_eq_ok_of_found hf]

/-- `getIgnoredFileActivityCreate(projectID, pushEvent, file, err)`: the
warning activity for a file the pipeline skips. -/
def getIgnoredFileActivityCreate (projectID : Int) (pushEvent : PushEvent) (file : String) (err : GoError) :
    ActivityCreate :=
  { creatorID := systemBotID, containerID := projectID, level := .warn,
    comment := "Ignored file " ++ quote file ++ ", " ++ err.text ++ ".",
    payload := ⟨pushEvent, 0, ""⟩ }

/-- `getIssueCreatorID(email)`: the committer's principal, else the bot. -/
def getIssueCreatorID (w : World) (email : String) : Int :=
  if email.isEmpty then systemBotID
  else match w.getPrincipalByEmail email with
    | .ok (some id) => id
    | _ => systemBotID

/-! ## Migration details of one file -/

/-- `prepareIssueFromSDLFile(repo, pushEvent, schemaInfo, file)`. -/
def prepareIssueFromSDLFile (w : World) (repo : Repository) (pushEvent : PushEvent)
    (schemaInfo : MigrationInfo) (file : String) : Run (List MigrationDetail × List ActivityCreate) := do
  let dbName := schemaInfo.database
  if dbName.isEmpty then return ([], [])
  match ← readFileContent w pushEvent repo file with
  | .error e => return ([], [getIgnoredFileActivityCreate repo.projectID pushEvent file (e.wrap "Failed to read file content")])
  | .ok sdl =>
    if repo.project.tenantMode = .tenant then return ([⟨.migrateSDL, 0, dbName, sdl, ""⟩], [])
    match findProjectDatabases w repo.projectID dbName schemaInfo.environment with
    | .error e =>
      return ([], [getIgnoredFileActivityCreate repo.projectID pushEvent file (e.wrap "Failed to find project databases")])
    | .ok databases => return (databases.map fun d => ⟨.migrateSDL, d.id, "", sdl, ""⟩, [])

@[simp] theorem prepareIssueFromSDLFile_writes (w : World) (repo : Repository) (pushEvent : PushEvent)
    (schemaInfo : MigrationInfo) (file : String) :
    (prepareIssueFromSDLFile w repo pushEvent schemaInfo file).writes = [] := by
  simp only [prepareIssueFromSDLFile]
  split
  · rfl
  · simp only [Run.writes_bind, Run.writes_pure, Run.result_pure, readFileContent_writes, List.nil_append]
    split
    · split
      · rfl
      · split
        · rfl
        · simp only [Run.writes_bind, Run.writes_pure, Run.result_pure, List.nil_append]
          split <;> rfl
    · rfl

/-- The database loop of a tenant project's YAML file in
`prepareIssueFromFile`: every database the file names, resolved by name
alone; the first that cannot be resolved fails the file. -/
def yamlMigrationDetails (w : World) (projectID : Int) (mi : MigrationInfo) (statement : String) :
    List String → Except GoError (List MigrationDetail)
  | [] => .ok []
  | name :: rest =>
    match findProjectDatabases w projectID name "" with
    | .error e => .error (e.wrap ("Failed to find project database " ++ quote name))
    | .ok dbList =>
      (yamlMigrationDetails w projectID mi statement rest).map fun details =>
        dbList.map (fun d => ⟨mi.type, d.id, "", statement, mi.version⟩) ++ details

/-- `tryUpdateTasksFromModifiedFile(databases, fileName, schemaVersion,
statement)`: for each database in turn, the one pending task of the schema
version gets the new statement. A failed task lookup is the error; more
than one task, or a failed issue lookup or patch, ends the loop quietly. -/
def tryUpdateTasksFromModifiedFile (w : World) (schemaVersion statement : String) :
    List Database → Run (Except GoError Unit)
  | [] => pure (.ok ())
  | database :: rest =>
    match w.findTask database.id schemaVersion with
    | .error e => pure (.error e)
    | .ok [] => tryUpdateTasksFromModifiedFile w schemaVersion statement rest
    | .ok [task] =>
      match w.getIssueByPipelineID task.pipelineID with
      | .ok (some issue) =>
        let taskPatch : TaskPatch := ⟨task.id, statement, systemBotID⟩
        match w.patchTask task taskPatch issue with
        | .ok () => do
          Run.write (.taskPatched task taskPatch)
          tryUpdateTasksFromModifiedFile w schemaVersion statement rest
        | .error _ => pure (.ok ())
      | _ => pure (.ok ())
    | .ok _ => pure (.ok ())

/-- Patching tasks creates no issue. -/
theorem tryUpdateTasksFromModifiedFile_issues (w : World) (schemaVersion statement : String) (databases : List Database) :
    Effect.issues (tryUpdateTasksFromModifiedFile w schemaVersion statement databases).writes = [] := by
  induction databases with
  | nil => rfl
  | cons d rest ih =>
    simp only [tryUpdateTasksFromModifiedFile]
    repeat' split
    all_goals simp [ih]

/-- What the loop of `tryUpdateTasksFromModifiedFile` does at one database:
the patch it writes, if any, and whether it goes on to the next database.
It goes on past a database with no matching task and past a successful
patch, and stops at anything else. -/
def taskUpdateStep (w : World) (schemaVersion statement : String) (database : Database) :
    Option (Task × TaskPatch) × Bool :=
  match w.findTask database.id schemaVersion with
  | .ok [] => (none, true)
  | .ok [task] =>
    match w.getIssueByPipelineID task.pipelineID with
    | .ok (some issue) =>
      if w.patchTask task ⟨task.id, statement, systemBotID⟩ issue = .ok () then
        (some (task, ⟨task.id, statement, systemBotID⟩), true)
      else (none, false)
    | _ => (none, false)
  | _ => (none, false)

/-- **The tasks a modified file patches**: one per database, in list
order, up to the first database that stops the loop; the databases after
it are never looked at. -/
theorem tryUpdateTasksFromModifiedFile_writes (w : World) (schemaVersion statement : String)
    (databases : List Database) :
    (tryUpdateTasksFromModifiedFile w schemaVersion statement databases).writes =
      ((databases.takeWhile fun d => (taskUpdateStep w schemaVersion statement d).2).filterMap
        fun d => (taskUpdateStep w schemaVersion statement d).1).map fun p => .taskPatched p.1 p.2 := by
  induction databases with
  | nil => rfl
  | cons d rest ih =>
    simp only [tryUpdateTasksFromModifiedFile, List.takeWhile_cons]
    rcases hf : w.findTask d.id schemaVersion with e | _ | ⟨task, _ | ⟨t, ts⟩⟩
    · simp [taskUpdateStep, hf]
    · simp [taskUpdateStep, hf, ih]
    · rcases hi : w.getIssueByPipelineID task.pipelineID with e | _ | issue
      · simp [taskUpdateStep, hf, hi]
      · simp [taskUpdateStep, hf, hi]
      · cases hp : w.patchTask task ⟨task.id, statement, systemBotID⟩ issue <;>
          simp [taskUpdateStep, hf, hi, hp, ih]
    · simp [taskUpdateStep, hf]

/-- A database of the project's one instance. -/
def taskDb (id : Int) : Database := ⟨id, "db" ++ toString id, ⟨1, ⟨"prod"⟩, "MYSQL"⟩, "", ""⟩

/-- A store in which database 1 has two matching tasks and database 2 one;
every issue lookup and every patch succeeds. -/
def twoTaskWorld : World :=
  { World.quiet with
    findTask := fun dbID _ =>
      if dbID = 1 then .ok [⟨11, 1⟩, ⟨12, 2⟩] else if dbID = 2 then .ok [⟨21, 3⟩] else .ok []
    getIssueByPipelineID := fun pid => .ok (some ⟨pid, "issue"⟩) }

/-- Database 2's one task is patched when it comes first, and left alone
when database 1 comes first; both calls return nil. -/
theorem tryUpdateTasksFromModifiedFile_order_decides :
    (tryUpdateTasksFromModifiedFile twoTaskWorld "0001" "ALTER" [taskDb 1, taskDb 2]).result = .ok (.ok ()) ∧
      (tryUpdateTasksFromModifiedFile twoTaskWorld "0001" "ALTER" [taskDb 1, taskDb 2]).writes = [] ∧
      (tryUpdateTasksFromModifiedFile twoTaskWorld "0001" "ALTER" [taskDb 2, taskDb 1]).result = .ok (.ok ()) ∧
      (tryUpdateTasksFromModifiedFile twoTaskWorld "0001" "ALTER" [taskDb 2, taskDb 1]).writes =
        [.taskPatched ⟨21, 3⟩ ⟨21, "ALTER", systemBotID⟩] := by
  decide

/-- `prepareIssueFromFile(repo, pushEvent, fileInfo)`. -/
def prepareIssueFromFile (w : World) (repo : Repository) (pushEvent : PushEvent) (fileInfo : FileInfo) :
    Run (List MigrationDetail × List ActivityCreate) := do
  let file := fileInfo.item.fileName
  let mi := fileInfo.migrationInfo
  let ignored (e : GoError) (why : String) := getIgnoredFileActivityCreate repo.projectID pushEvent file (e.wrap why)
  match ← readFileContent w pushEvent repo file with
  | .error e => return ([], [ignored e "Failed to read file content"])
  | .ok content =>
    if repo.project.tenantMode = .tenant then
      if !fileInfo.item.isYAML then return ([⟨mi.type, 0, mi.database, content, mi.version⟩], [])
      match w.parseMigrationFileYAML content with
      | .error e => return ([], [ignored e "Failed to parse file content as YAML"])
      | .ok migrationFile =>
        match yamlMigrationDetails w repo.projectID mi migrationFile.statement migrationFile.databases with
        | .error e => return ([], [getIgnoredFileActivityCreate repo.projectID pushEvent file e])
        | .ok details => return (details, [])
    match findProjectDatabases w repo.projectID mi.database mi.environment with
    | .error e => return ([], [ignored e "Failed to find project databases"])
    | .ok databases =>
      if fileInfo.item.itemType = .added then
        return (databases.map fun d => ⟨mi.type, d.id, "", content, mi.version⟩, [])
      match ← tryUpdateTasksFromModifiedFile w mi.version content databases with
      | .error e => return ([], [ignored e "Failed to find project task"])
      | .ok () => return ([], [])

/-- Reading a file into migration details creates no issue. -/
theorem prepareIssueFromFile_issues (w : World) (repo : Repository) (pushEvent : PushEvent) (fileInfo : FileInfo) :
    Effect.issues (prepareIssueFromFile w repo pushEvent fileInfo).writes = [] := by
  simp only [prepareIssueFromFile, Run.writes_bind, readFileContent_writes, List.nil_append]
  split
  · split
    · rfl
    · split
      · split
        · rfl
        · split
          · rfl
          · split <;> rfl
      · split
        · rfl
        · split
          · rfl
          · simp only [Run.writes_bind, Effect.issues_append, tryUpdateTasksFromModifiedFile_issues, List.nil_append]
            split
            · split <;> rfl
            · rfl
  · rfl

/-- Migration details that target, one each, the databases
`findProjectDatabases` resolves for `dbName` in `envName`, whose
environments are pairwise distinct; or no detail. -/
def TargetsDistinctEnvironments (w : World) (projectID : Int) (dbName envName : String)
    (details : List MigrationDetail) : Prop :=
  details = [] ∨ ∃ databases, findProjectDatabases w projectID dbName envName = .ok databases ∧
    (databases.map (·.inst.environmentID)).Nodup ∧ details.map (·.databaseID) = databases.map (·.id)

theorem targetsDistinctEnvironments_map {w : World} {projectID : Int} {dbName envName : String}
    {databases : List Database} (h : findProjectDatabases w projectID dbName envName = .ok databases)
    (f : Database → MigrationDetail) (hf : ∀ d, (f d).databaseID = d.id) :
    TargetsDistinctEnvironments w projectID dbName envName (databases.map f) := by
  obtain ⟨_, _, -, -, hnd⟩ := findProjectDatabases_eq_ok_iff.1 h
  exact .inr ⟨databases, h, hnd, by simp [hf]⟩

section Details

variable {w : World} {repo : Repository} {pushEvent : PushEvent} {details : List MigrationDetail}
  {acts : List ActivityCreate}

/-- Outside tenant mode, a file's migration details target the databases
its database and environment resolve to. -/
theorem prepareIssueFromFile_targets {fileInfo : FileInfo} (ht : repo.project.tenantMode ≠ .tenant)
    (h : (prepareIssueFromFile w repo pushEvent fileInfo).result = .ok (details, acts)) :
    TargetsDistinctEnvironments w repo.projectID fileInfo.migrationInfo.database fileInfo.migrationInfo.environment
      details := by
  simp only [prepareIssueFromFile, Run.result_bind, if_neg ht] at h
  rcases hr : (readFileContent w pushEvent repo fileInfo.item.fileName).result with _ | _ | content <;>
    simp [hr] at h
  · exact .inl h.1
  rcases hf : findProjectDatabases w repo.projectID fileInfo.migrationInfo.database
    fileInfo.migrationInfo.environment with e | databases <;> simp [hf] at h
  · exact .inl h.1
  split_ifs at h
  · simp only [Run.result_pure, Except.ok.injEq, Prod.mk.injEq] at h
    exact h.1 ▸ targetsDistinctEnvironments_map hf _ fun _ => rfl
  · rcases hu : (tryUpdateTasksFromModifiedFile w fileInfo.migrationInfo.version content databases).result
      with _ | _ | _ <;> simp [hu] at h
    all_goals exact .inl h.1

/-- Outside tenant mode, a schema file's migration details target the
databases its database and environment resolve to. -/
theorem prepareIssueFromSDLFile_targets {schemaInfo : MigrationInfo} {file : String}
    (ht : repo.project.tenantMode ≠ .tenant)
    (h : (prepareIssueFromSDLFile w repo pushEvent schemaInfo file).result = .ok (details, acts)) :
    TargetsDistinctEnvironments w repo.projectID schemaInfo.database schemaInfo.environment details := by
  simp only [prepareIssueFromSDLFile, if_neg ht] at h
  split_ifs at h
  · simp at h; exact .inl h.1
  rcases hr : (readFileContent w pushEvent repo file).result with _ | _ | sdl <;> simp [hr] at h
  · exact .inl h.1
  rcases hf : findProjectDatabases w repo.projectID schemaInfo.database schemaInfo.environment
    with e | databases <;> simp [hf] at h
  · exact .inl h.1
  · exact h.1 ▸ targetsDistinctEnvironments_map hf _ fun _ => rfl

end Details

/-- **What `findProjectDatabases` resolves.** For every store it returns,
without error, exactly the databases the store finds for the name, kept by
environment (`environmentDatabases`), when some are kept and their
environments are pairwise distinct; it returns an error otherwise. Outside
tenant mode, the migration details `prepareIssueFromFile` and
`prepareIssueFromSDLFile` build for one file are one per database so
resolved, so they target pairwise distinct environments. -/
theorem findProjectDatabases_spec (w : World) :
    (∀ projectID dbName envName l, findProjectDatabases w projectID dbName envName = .ok l ↔
      ∃ found, w.findDatabase projectID dbName = .ok found ∧
        l = environmentDatabases w.simpleFold envName found ∧ l ≠ [] ∧ (l.map (·.inst.environmentID)).Nodup) ∧
    (∀ projectID dbName envName found, w.findDatabase projectID dbName = .ok found →
      ((∃ e, findProjectDatabases w projectID dbName envName = .error e) ↔
        environmentDatabases w.simpleFold envName found = [] ∨
          ¬((environmentDatabases w.simpleFold envName found).map (·.inst.environmentID)).Nodup)) ∧
    (∀ repo pushEvent fileInfo details acts, repo.project.tenantMode ≠ .tenant →
      (prepareIssueFromFile w repo pushEvent fileInfo).result = .ok (details, acts) →
      TargetsDistinctEnvironments w repo.projectID fileInfo.migrationInfo.database
        fileInfo.migrationInfo.environment details) ∧
    (∀ repo pushEvent schemaInfo file details acts, repo.project.tenantMode ≠ .tenant →
      (prepareIssueFromSDLFile w repo pushEvent schemaInfo file).result = .ok (details, acts) →
      TargetsDistinctEnvironments w repo.projectID schemaInfo.database schemaInfo.environment details) := by
  refine ⟨fun _ _ _ _ => findProjectDatabases_eq_ok_iff, fun projectID dbName envName found hf => ?_,
    fun _ _ _ _ _ => prepareIssueFromFile_targets, fun _ _ _ _ _ _ => prepareIssueFromSDLFile_targets⟩
  have hok := @findProjectDatabases_eq_ok_of_found w projectID dbName envName found hf
  rcases hr : findProjectDatabases w projectID dbName envName with e | l
  · simp only [Except.error.injEq, exists_eq', true_iff, or_iff_not_imp_left]
    intro hne hnd
    cases hr.symm.trans ((hok _).2 ⟨rfl, hne, hnd⟩)
  · obtain ⟨rfl, hne, hnd⟩ := (hok l).1 hr
    simp [hne, hnd]

/-- A tenant project's repository. -/
def tenantRepo : Repository := { linkedRepo 1 "shop" "ws-1" with project := ⟨"p", .normal, .tenant, "", .ddl⟩ }

/-- The database `name` of one tenant, in environment `prod`. -/
def tenantDatabase (id : Int) (name : String) : Database := ⟨id, name, ⟨1, ⟨"prod"⟩, "MYSQL"⟩, "", ""⟩

/-- A store holding the tenants' databases `a` and `b`, both in `prod`,
whose YAML files name both. -/
def tenantWorld : World :=
  { World.quiet with
    findRepository := fun _ => .ok [tenantRepo]
    findDatabase := fun _ name =>
      if name = "a" then .ok [tenantDatabase 1 "a"] else if name = "b" then .ok [tenantDatabase 2 "b"] else .ok []
    parseMigrationFileYAML := fun _ => .ok ⟨["a", "b"], "INSERT INTO t VALUES (1)"⟩ }

theorem findProjectDatabases_spec_a :
    ((∃ e, findProjectDatabases tenantWorld 1 "a" "" = .error e) ↔
      environmentDatabases tenantWorld.simpleFold "" [tenantDatabase 1 "a"] = [] ∨
        ¬((environmentDatabases tenantWorld.simpleFold "" [tenantDatabase 1 "a"]).map (·.inst.environmentID)).Nodup) ∧
    TargetsDistinctEnvironments tenantWorld 1 "a" "" [⟨.data, 1, "", "", "0001"⟩] ∧
    TargetsDistinctEnvironments tenantWorld 1 "a" "" [⟨.migrateSDL, 1, "", "", ""⟩] :=
  ⟨(findProjectDatabases_spec tenantWorld).2.1 1 "a" "" _ rfl,
    (findProjectDatabases_spec tenantWorld).2.2.1 (linkedRepo 1 "shop" "ws-1") onePushEvent
      ⟨⟨"a.sql", ⟨"a", ""⟩, .added, false⟩, ⟨"a", "", "0001", .data⟩, .migration, linkedRepo 1 "shop" "ws-1"⟩
      _ [] (by decide) (by decide),
    (findProjectDatabases_spec tenantWorld).2.2.2 (linkedRepo 1 "shop" "ws-1") onePushEvent
      ⟨"a", "", "", .migrateSDL⟩ "a.sql" _ [] (by decide) (by decide)⟩

/-- A tenant project's YAML file naming `a` and `b`, resolved by name alone,
gets one detail for each, and the two target the one environment `prod`. -/
theorem prepareIssueFromFile_tenant_shared_environment :
    (prepareIssueFromFile tenantWorld tenantRepo onePushEvent
        ⟨⟨"tenants.yml", ⟨"a", ""⟩, .added, true⟩, ⟨"", "", "0001", .data⟩, .migration, tenantRepo⟩).result =
      .ok ([⟨.data, 1, "", "INSERT INTO t VALUES (1)", "0001"⟩, ⟨.data, 2, "", "INSERT INTO t VALUES (1)", "0001"⟩],
        []) ∧
    tenantWorld.findDatabase 1 "a" = .ok [tenantDatabase 1 "a"] ∧
    tenantWorld.findDatabase 1 "b" = .ok [tenantDatabase 2 "b"] ∧
    (tenantDatabase 1 "a").inst.environmentID = (tenantDatabase 2 "b").inst.environmentID := by
  decide

/-! ## Issues -/

/-- The issue type `createIssueFromMigrationDetailList` gives: a schema
update when some detail migrates or baselines, else a data update. -/
def issueTypeOf (migrationDetailList : List MigrationDetail) : IssueType :=
  if migrationDetailList.any fun d => d.migrationType = .migrate || d.migrationType = .baseline then
    .databaseSchemaUpdate
  else .databaseDataUpdate

/-- `createIssueFromMigrationDetailList(issueName, issueDescription,
pushEvent, creatorID, projectID, migrationDetailList)`: the issue, then
the project activity that records it. -/
def createIssueFromMigrationDetailList (w : World) (issueName issueDescription : String)
    (pushEvent : PushEvent) (creatorID projectID : Int) (migrationDetailList : List MigrationDetail) :
    Run (Except GoError Unit) := do
  let issueType := issueTypeOf migrationDetailList
  let issueCreate : IssueCreate :=
    { creatorID, projectID, name := issueName, type := issueType, description := issueDescription,
      assigneeID := systemBotID, assigneeNeedAttention := true,
      createContext := ⟨pushEvent, migrationDetailList⟩ }
  match w.createIssue issueCreate with
  | .error _ =>
    return .error (.http 500 (if issueType = .databaseDataUpdate then "Failed to create data update issue"
      else "Failed to create schema update issue"))
  | .ok issue =>
    Run.write (.issueCreated issueCreate issue)
    let activityCreate : ActivityCreate :=
      { creatorID, containerID := projectID, level := .info,
        comment := "Created issue " ++ quote issue.name ++ ".", payload := ⟨pushEvent, issue.id, issue.name⟩ }
    match w.createActivity activityCreate with
    | .error _ =>
      return .error (.http 500 ("Failed to create project activity after creating issue from repository push event: " ++
        toString issue.id))
    | .ok () => do
      Run.write (.activityCreated activityCreate)
      return .ok ()

/-- A creation that succeeded created the one issue it was asked for. -/
theorem createIssueFromMigrationDetailList_issues (w : World) (issueName issueDescription : String)
    (pushEvent : PushEvent) (creatorID projectID : Int) (migrationDetailList : List MigrationDetail)
    (h : (createIssueFromMigrationDetailList w issueName issueDescription pushEvent creatorID projectID
      migrationDetailList).result = .ok (.ok ())) :
    (Effect.issues (createIssueFromMigrationDetailList w issueName issueDescription pushEvent creatorID projectID
      migrationDetailList).writes).map (·.name) = [issueName] := by
  simp only [createIssueFromMigrationDetailList] at h ⊢
  repeat' split at h
  all_goals simp_all

/-- `fmt.Sprintf(issueNameTemplate, databaseName, kind)`. -/
def issueName (databaseName kind : String) : String := "[" ++ databaseName ++ "] " ++ kind

/-- What the file loop of `processFilesInProject` has gathered. -/
structure ProjectAcc where
  migrationDetailList : List MigrationDetail
  activityCreateList : List ActivityCreate
  createdIssueList : List String
  fileNameList : List String

/-- One turn of the file loop of `processFilesInProject`: the accumulator
with the file's share added, or `.error` with what was gathered when an
SDL issue could not be created, which ends the function. -/
def processFile (w : World) (pushEvent : PushEvent) (repo : Repository) (creatorID : Int)
    (fileInfo : FileInfo) (acc : ProjectAcc) : Run (Except ProjectAcc ProjectAcc) := do
  if fileInfo.fType = .schema then
    if repo.project.schemaChangeType = .sdl then
      let (details, acts) ← prepareIssueFromSDLFile w repo pushEvent fileInfo.migrationInfo fileInfo.item.fileName
      let acc := { acc with activityCreateList := acc.activityCreateList ++ acts }
      if details.isEmpty then return .ok acc
      let name := issueName fileInfo.migrationInfo.database "Alter schema"
      let description := "Apply schema diff by file " ++ trimPrefix fileInfo.item.fileName (repo.baseDirectory ++ "/")
      match ← createIssueFromMigrationDetailList w name description pushEvent creatorID repo.projectID details with
      | .error _ => return .error acc
      | .ok () => return .ok { acc with createdIssueList := acc.createdIssueList ++ [name] }
    else return .ok acc
  else
    let (details, acts) ← prepareIssueFromFile w repo pushEvent fileInfo
    return .ok
      { acc with
        activityCreateList := acc.activityCreateList ++ acts
        migrationDetailList := acc.migrationDetailList ++ details
        fileNameList := if details.isEmpty then acc.fileNameList
          else acc.fileNameList ++ [trimPrefix fileInfo.item.fileName (repo.baseDirectory ++ "/")] }

/-- The file loop of `processFilesInProject`, file after file. -/
def processFilesLoop (w : World) (pushEvent : PushEvent) (repo : Repository) (creatorID : Int) :
    List FileInfo → ProjectAcc → Run (Except ProjectAcc ProjectAcc)
  | [], acc => pure (.ok acc)
  | fileInfo :: rest, acc => do
    match ← processFile w pushEvent repo creatorID fileInfo acc with
    | .error acc => return .error acc
    | .ok acc => processFilesLoop w pushEvent repo creatorID rest acc

/-- The 403 of `api.FeatureMultiTenancy.AccessErrorMessage()`, whose text is
defined outside these sources. -/
def multiTenancyForbidden : GoError := .http 403 "api.FeatureMultiTenancy.AccessErrorMessage()"

/-- `processFilesInProject(pushEvent, repo, fileInfoList)`: the creation
message, whether an issue was created, the ignored-file activities, and
the error. -/
def processFilesInProject (w : World) (pushEvent : PushEvent) (repo : Repository) (fileInfoList : List FileInfo) :
    Run (String × Bool × List ActivityCreate × Option GoError) := do
  if repo.project.tenantMode = .tenant && !w.multiTenancy then
    return ("", false, [], some multiTenancyForbidden)
  let some firstCommit := pushEvent.commitList.head? | Run.panic "index out of range [0] with length 0"
  let creatorID := getIssueCreatorID w firstCommit.authorEmail
  match ← processFilesLoop w pushEvent repo creatorID fileInfoList ⟨[], [], [], []⟩ with
  | .error acc => return ("", false, acc.activityCreateList, some (.http 500 "Failed to create issue"))
  | .ok acc =>
    if acc.migrationDetailList.isEmpty then
      return ("", !acc.createdIssueList.isEmpty, acc.activityCreateList, none)
    let migrateType := if acc.migrationDetailList.any (·.migrationType = .migrate) then "Alter schema" else "Change data"
    let some first := fileInfoList.head? | Run.panic "index out of range [0] with length 0"
    let name := issueName first.migrationInfo.database migrateType
    let description := "By VCS files:\n\n" ++ join acc.fileNameList "\n" ++ "\n"
    match ← createIssueFromMigrationDetailList w name description pushEvent creatorID repo.projectID
        acc.migrationDetailList with
    | .error _ =>
      return ("", !acc.createdIssueList.isEmpty, acc.activityCreateList, some (.http 500 ("Failed to create issue " ++ name)))
    | .ok () =>
      return ("Created issue " ++ quote (join (acc.createdIssueList ++ [name]) ",") ++ " from push event", true,
        acc.activityCreateList, none)

/-! ## Which panics a group can meet

Every slice a group indexes holds an element once the push has a commit:
`pushEvent.CommitList[0]`, `pushEvent.CommitList[len-1]` and
`fileInfoList[0]` of a non-empty group. What is left is the dereference
of a repository's nil VCS. -/

theorem tryUpdateTasksFromModifiedFile_panicsOnlyWith (what : String) (w : World) (schemaVersion statement : String)
    (databases : List Database) :
    (tryUpdateTasksFromModifiedFile w schemaVersion statement databases).PanicsOnlyWith what := by
  induction databases with
  | nil => exact Run.panicsOnlyWith_pure _ _
  | cons d rest ih =>
    unfold tryUpdateTasksFromModifiedFile
    dsimp only
    repeat' first
      | exact Run.panicsOnlyWith_pure _ _
      | exact Run.panicsOnlyWith_write _ _
      | exact ih
      | refine Run.PanicsOnlyWith.bind ?_ fun _ _ => ?_
      | split

theorem createIssueFromMigrationDetailList_panicsOnlyWith (what : String) (w : World)
    (issueName issueDescription : String) (pushEvent : PushEvent) (creatorID projectID : Int)
    (migrationDetailList : List MigrationDetail) :
    (createIssueFromMigrationDetailList w issueName issueDescription pushEvent creatorID projectID
      migrationDetailList).PanicsOnlyWith what := by
  unfold createIssueFromMigrationDetailList
  dsimp only
  repeat' first
    | exact Run.panicsOnlyWith_pure _ _
    | exact Run.panicsOnlyWith_write _ _
    | refine Run.PanicsOnlyWith.bind ?_ fun _ _ => ?_
    | split

section Panics

variable {w : World} {pushEvent : PushEvent} {repo : Repository} (hc : pushEvent.commitList ≠ [])
include hc

theorem readFileContent_panicsOnlyWith (file : String) :
    (readFileContent w pushEvent repo file).PanicsOnlyWith nilDereference := by
  unfold readFileContent
  split
  · exact Run.panicsOnlyWith_pure _ _
  · exact Run.panicsOnlyWith_pure _ _
  refine (vcsOf_panicsOnlyWith _).bind fun _ _ => ?_
  split
  · rename_i h; exact absurd (List.getLast?_eq_none_iff.1 h) hc
  · exact Run.panicsOnlyWith_pure _ _

theorem prepareIssueFromSDLFile_panicsOnlyWith (schemaInfo : MigrationInfo) (file : String) :
    (prepareIssueFromSDLFile w repo pushEvent schemaInfo file).PanicsOnlyWith nilDereference := by
  unfold prepareIssueFromSDLFile
  dsimp only
  repeat' first
    | exact Run.panicsOnlyWith_pure _ _
    | exact readFileContent_panicsOnlyWith hc _
    | refine Run.PanicsOnlyWith.bind ?_ fun _ _ => ?_
    | split

theorem prepareIssueFromFile_panicsOnlyWith (fileInfo : FileInfo) :
    (prepareIssueFromFile w repo pushEvent fileInfo).PanicsOnlyWith nilDereference := by
  unfold prepareIssueFromFile
  dsimp only
  repeat' first
    | exact Run.panicsOnlyWith_pure _ _
    | exact readFileContent_panicsOnlyWith hc _
    | exact tryUpdateTasksFromModifiedFile_panicsOnlyWith _ _ _ _ _
    | refine Run.PanicsOnlyWith.bind ?_ fun _ _ => ?_
    | split

theorem processFile_panicsOnlyWith (creatorID : Int) (fileInfo : FileInfo) (acc : ProjectAcc) :
    (processFile w pushEvent repo creatorID fileInfo acc).PanicsOnlyWith nilDereference := by
  unfold processFile
  dsimp only
  repeat' first
    | exact Run.panicsOnlyWith_pure _ _
    | exact prepareIssueFromSDLFile_panicsOnlyWith hc _ _
    | exact prepareIssueFromFile_panicsOnlyWith hc _
    | exact createIssueFromMigrationDetailList_panicsOnlyWith _ _ _ _ _ _ _ _
    | refine Run.PanicsOnlyWith.bind ?_ fun _ _ => ?_
    | split

theorem processFilesLoop_panicsOnlyWith (creatorID : Int) (files : List FileInfo) (acc : ProjectAcc) :
    (processFilesLoop w pushEvent repo creatorID files acc).PanicsOnlyWith nilDereference := by
  induction files generalizing acc with
  | nil => exact Run.panicsOnlyWith_pure _ _
  | cons f rest ih =>
    refine (processFile_panicsOnlyWith hc _ _ _).bind fun r _ => ?_
    split
    · exact Run.panicsOnlyWith_pure _ _
    · exact ih _

/-- A push with a commit and a non-empty group index no empty slice in
`processFilesInProject`. -/
theorem processFilesInProject_panicsOnlyWith {fileInfoList : List FileInfo} (hne : fileInfoList ≠ []) :
    (processFilesInProject w pushEvent repo fileInfoList).PanicsOnlyWith nilDereference := by
  obtain ⟨c, cs, hcs⟩ := List.exists_cons_of_ne_nil hc
  obtain ⟨f, fs, rfl⟩ := List.exists_cons_of_ne_nil hne
  unfold processFilesInProject
  simp only [hcs, List.head?_cons]
  repeat' first
    | exact Run.panicsOnlyWith_pure _ _
    | exact processFilesLoop_panicsOnlyWith hc _ _ _
    | exact createIssueFromMigrationDetailList_panicsOnlyWith _ _ _ _ _ _ _ _
    | refine Run.PanicsOnlyWith.bind ?_ fun _ _ => ?_
    | split

end Panics

/-! ## Where a group writes

Every write of `processFilesInProject` stays inside the project of the
repository it runs under (`Effect.InProject`): the issue and the activity
of a creation carry that project's ID, and the tasks a modified file
patches are those of databases `findProjectDatabases` found in that
project. The ignored-file activities it returns are on that project
too. -/

section Scope

variable {w : World} {pushEvent : PushEvent} {repo : Repository}

theorem tryUpdateTasksFromModifiedFile_spec {projectID : Int} (schemaVersion statement : String)
    {databases : List Database} (hdb : ∀ d ∈ databases, w.FindsIn projectID d) :
    (tryUpdateTasksFromModifiedFile w schemaVersion statement databases).Spec (Effect.InProject w projectID)
      fun _ => True := by
  induction databases with
  | nil => exact Run.spec_pure trivial
  | cons d rest ih =>
    have ih := ih fun d' h => hdb d' (List.mem_cons_of_mem d h)
    unfold tryUpdateTasksFromModifiedFile
    rcases hf : w.findTask d.id schemaVersion with e | _ | ⟨task, _ | _⟩ <;> simp only
    · exact Run.spec_pure trivial
    · exact ih
    · -- the database's one task is patched, then the loop goes on
      have hin : ∀ p, (Effect.taskPatched task p).InProject w projectID :=
        fun _ => ⟨d, hdb d (List.mem_cons_self d rest), schemaVersion, hf⟩
      repeat' first
        | exact Run.spec_pure (Q := fun _ => True) trivial
        | exact (Run.spec_write (hin _)).bind fun _ _ => ih
        | split
    · exact Run.spec_pure trivial

/-- The databases `findProjectDatabases` returns are found in the project. -/
theorem findsIn_of_findProjectDatabases {projectID : Int} {dbName envName : String} {databases : List Database}
    (h : findProjectDatabases w projectID dbName envName = .ok databases) : ∀ d ∈ databases, w.FindsIn projectID d := by
  obtain ⟨found, hfound, rfl, -⟩ := findProjectDatabases_eq_ok_iff.1 h
  intro d hd
  refine ⟨dbName, found, hfound, ?_⟩
  unfold environmentDatabases at hd
  split at hd
  · exact hd
  · exact List.mem_of_mem_filter hd

theorem createIssueFromMigrationDetailList_spec (issueName issueDescription : String) (creatorID projectID : Int)
    (migrationDetailList : List MigrationDetail) :
    (createIssueFromMigrationDetailList w issueName issueDescription pushEvent creatorID projectID
      migrationDetailList).Spec (Effect.InProject w projectID) fun _ => True := by
  unfold createIssueFromMigrationDetailList
  dsimp only
  repeat' first
    | exact Run.spec_pure (Q := fun _ => True) trivial
    | exact Run.spec_write rfl
    | apply Run.Spec.bind
    | intro _ _
    | split

/-- Activities all on project `projectID`. -/
def ActivitiesOn (projectID : Int) (acts : List ActivityCreate) : Prop := ∀ a ∈ acts, a.containerID = projectID

@[simp] theorem activitiesOn_nil (projectID : Int) : ActivitiesOn projectID [] := nofun

@[simp] theorem activitiesOn_append {projectID : Int} {acts acts' : List ActivityCreate} :
    ActivitiesOn projectID (acts ++ acts') ↔ ActivitiesOn projectID acts ∧ ActivitiesOn projectID acts' := by
  simp [ActivitiesOn, or_imp, forall_and]

@[simp] theorem activitiesOn_ignored (projectID : Int) (file : String) (err : GoError) :
    ActivitiesOn projectID [getIgnoredFileActivityCreate projectID pushEvent file err] := by
  simp [ActivitiesOn, getIgnoredFileActivityCreate]

theorem readFileContent_spec (file : String) {P : Effect → Prop} :
    (readFileContent w pushEvent repo file).Spec P fun _ => True :=
  Run.spec_of_writes_eq_nil (readFileContent_writes ..) fun _ _ => trivial

theorem prepareIssueFromSDLFile_spec (schemaInfo : MigrationInfo) (file : String) :
    (prepareIssueFromSDLFile w repo pushEvent schemaInfo file).Spec (Effect.InProject w repo.projectID)
      fun r => ActivitiesOn repo.projectID r.2 := by
  unfold prepareIssueFromSDLFile
  dsimp only
  repeat' first
    | exact Run.spec_pure (by simp)
    | exact Run.spec_pure (Q := fun _ => True) trivial
    | exact readFileContent_spec _
    | apply Run.Spec.bind
    | intro _ _
    | split

theorem prepareIssueFromFile_spec (fileInfo : FileInfo) :
    (prepareIssueFromFile w repo pushEvent fileInfo).Spec (Effect.InProject w repo.projectID)
      fun r => ActivitiesOn repo.projectID r.2 := by
  unfold prepareIssueFromFile
  dsimp only
  repeat' first
    | exact Run.spec_pure (by simp)
    | exact Run.spec_pure (Q := fun _ => True) trivial
    | exact readFileContent_spec _
    | exact tryUpdateTasksFromModifiedFile_spec _ _ (findsIn_of_findProjectDatabases ‹_›)
    | apply Run.Spec.bind
    | intro _ _
    | split

/-- The accumulator a turn of the file loop hands on or stops with. -/
def ProjectAcc.ofResult : Except ProjectAcc ProjectAcc → ProjectAcc
  | .ok acc | .error acc => acc

theorem processFile_spec (creatorID : Int) (fileInfo : FileInfo) {acc : ProjectAcc}
    (hacc : ActivitiesOn repo.projectID acc.activityCreateList) :
    (processFile w pushEvent repo creatorID fileInfo acc).Spec (Effect.InProject w repo.projectID)
      fun r => ActivitiesOn repo.projectID (ProjectAcc.ofResult r).activityCreateList := by
  unfold processFile
  dsimp only
  repeat' first
    | exact Run.spec_pure (Q := fun _ => True) trivial
    | exact prepareIssueFromSDLFile_spec _ _
    | exact prepareIssueFromFile_spec _
    | exact createIssueFromMigrationDetailList_spec _ _ _ _ _
    | apply Run.Spec.bind
    | intro _ _
    | split
    | exact Run.spec_pure hacc
    | exact Run.spec_pure (activitiesOn_append.2 ⟨hacc, ‹_›⟩)

theorem processFilesLoop_spec (creatorID : Int) (files : List FileInfo) {acc : ProjectAcc}
    (hacc : ActivitiesOn repo.projectID acc.activityCreateList) :
    (processFilesLoop w pushEvent repo creatorID files acc).Spec (Effect.InProject w repo.projectID)
      fun r => ActivitiesOn repo.projectID (ProjectAcc.ofResult r).activityCreateList := by
  induction files generalizing acc with
  | nil => exact Run.spec_pure hacc
  | cons f rest ih =>
    refine (processFile_spec creatorID f hacc).bind fun r hr => ?_
    rcases r with acc' | acc'
    · exact Run.spec_pure hr
    · exact ih hr

/-- **A group writes only into its repository's project**: every issue,
activity and task patch of `processFilesInProject` is in the project of
the repository it runs under, and so are the ignored-file activities it
returns. -/
theorem processFilesInProject_spec (fileInfoList : List FileInfo) :
    (processFilesInProject w pushEvent repo fileInfoList).Spec (Effect.InProject w repo.projectID)
      fun r => ActivitiesOn repo.projectID r.2.2.1 := by
  unfold processFilesInProject
  repeat' first
    | exact Run.spec_panic _
    | exact processFilesLoop_spec _ _ (activitiesOn_nil _)
    | exact createIssueFromMigrationDetailList_spec _ _ _ _ _
    | exact Run.spec_pure (Q := fun _ => True) trivial
    | apply Run.Spec.bind
    | intro _ _
    | split
    | exact Run.spec_pure (activitiesOn_nil _)
    | exact Run.spec_pure ‹_›

end Scope

/-! ## What a group creates

The creation message of `processFilesInProject` lists `createdIssueList`
and the merged issue's name; the loop adds a name to `createdIssueList`
exactly when it creates that issue, so the message names every issue the
call created, except when the group has no migration detail, where the
message is empty whatever SDL issues were created. -/

/-- **A turn of the file loop records the issue it creates.** -/
theorem processFile_createdIssueList (w : World) (pushEvent : PushEvent) (repo : Repository) (creatorID : Int)
    (fileInfo : FileInfo) (acc acc' : ProjectAcc)
    (h : (processFile w pushEvent repo creatorID fileInfo acc).result = .ok (.ok acc')) :
    acc'.createdIssueList = acc.createdIssueList ++
      (Effect.issues (processFile w pushEvent repo creatorID fileInfo acc).writes).map (·.name) := by
  unfold processFile at h ⊢
  split_ifs at h ⊢ with hs hsdl
  · obtain ⟨⟨details, acts⟩, -, h, hw⟩ := Run.bind_eq_ok h
    rw [hw, prepareIssueFromSDLFile_writes, List.nil_append]
    dsimp only at h ⊢
    by_cases hd : details.isEmpty
    · simp only [hd, if_true, Run.result_pure, Except.ok.injEq] at h ⊢
      subst h; simp
    simp only [hd, Bool.false_eq_true, if_false, Run.pure_bind] at h ⊢
    obtain ⟨r, hc, h, hw⟩ := Run.bind_eq_ok h
    rcases r with _ | ⟨⟩ <;> simp only [Run.result_pure, Except.ok.injEq, reduceCtorEq] at h
    subst h
    rw [hw]
    simp [createIssueFromMigrationDetailList_issues _ _ _ _ _ _ _ hc]
  · cases h; simp
  · obtain ⟨⟨details, acts⟩, -, h, hw⟩ := Run.bind_eq_ok h
    simp only [Run.result_pure, Except.ok.injEq] at h
    subst h
    rw [hw]
    simp [prepareIssueFromFile_issues]

/-- The file loop records, in order, the names of the issues it creates. -/
theorem processFilesLoop_createdIssueList (w : World) (pushEvent : PushEvent) (repo : Repository) (creatorID : Int)
    (files : List FileInfo) (acc acc' : ProjectAcc)
    (h : (processFilesLoop w pushEvent repo creatorID files acc).result = .ok (.ok acc')) :
    acc'.createdIssueList = acc.createdIssueList ++
      (Effect.issues (processFilesLoop w pushEvent repo creatorID files acc).writes).map (·.name) := by
  induction files generalizing acc with
  | nil => cases h; simp [processFilesLoop]
  | cons f rest ih =>
    simp only [processFilesLoop, Run.result_bind, Run.writes_bind, Effect.issues_append] at h ⊢
    rcases hf : (processFile w pushEvent repo creatorID f acc).result with s | acc₁ | acc₁
    · simp [hf, Except.bind] at h
    · simp [hf, Except.bind] at h
    · simp only [hf, Except.bind] at h ⊢
      rw [ih acc₁ h, processFile_createdIssueList w pushEvent repo creatorID f acc acc₁ hf]
      simp

/-- **What `processFilesInProject` reports when it returns no error**: a
group that reports no creation created no issue, and its message is
either empty or names, in creation order, every issue it created. -/
theorem processFilesInProject_message (w : World) (pushEvent : PushEvent) (repo : Repository)
    (fileInfoList : List FileInfo) {m : String} {created : Bool} {acts : List ActivityCreate}
    (h : (processFilesInProject w pushEvent repo fileInfoList).result = .ok (m, created, acts, none)) :
    (created = false →
      Effect.issues (processFilesInProject w pushEvent repo fileInfoList).writes = []) ∧
    (m = "" ∨ m = "Created issue " ++ quote (join ((Effect.issues
      (processFilesInProject w pushEvent repo fileInfoList).writes).map (·.name)) ",") ++ " from push event") := by
  unfold processFilesInProject at h ⊢
  by_cases ht : (repo.project.tenantMode = .tenant && !w.multiTenancy) = true
  · simp [ht] at h
  simp only [ht, Bool.false_eq_true, if_false, Run.pure_bind] at h ⊢
  rcases hc : pushEvent.commitList.head? with _ | firstCommit
  · simp [hc] at h
  simp only [hc] at h ⊢
  obtain ⟨r, hl, h, hw⟩ := Run.bind_eq_ok h
  rw [hw]
  rcases r with acc | acc
  · simp at h
  have hnames := processFilesLoop_createdIssueList _ _ _ _ _ _ _ hl
  dsimp only at h ⊢
  by_cases he : acc.migrationDetailList.isEmpty
  · simp only [he, if_true, Run.result_pure, Run.writes_pure, Except.ok.injEq, Prod.mk.injEq] at h ⊢
    obtain ⟨rfl, rfl, -, -⟩ := h
    refine ⟨fun hc => ?_, by simp⟩
    have hnil : acc.createdIssueList = [] := by simpa using hc
    simpa [hnil] using hnames.symm
  simp only [he, Bool.false_eq_true, if_false] at h ⊢
  rcases hf : fileInfoList.head? with _ | first
  · simp [hf] at h
  simp only [hf] at h ⊢
  generalize issueName first.migrationInfo.database _ = name at h ⊢
  obtain ⟨r, hci, h, hw⟩ := Run.bind_eq_ok h
  rw [hw]
  rcases r with _ | ⟨⟩ <;>
    simp only [Run.result_pure, Except.ok.injEq, Prod.mk.injEq, reduceCtorEq, and_false, and_true] at h
  obtain ⟨rfl, rfl, -⟩ := h
  refine ⟨fun hc => (nomatch hc), .inr ?_⟩
  simp only [List.nil_append] at hnames
  simp [hnames, createIssueFromMigrationDetailList_issues _ _ _ _ _ _ _ hci]

/-! ## Issue names and issue types -/

/-- The issue type `createIssueFromMigrationDetailList` gives is a schema
update exactly when some detail is a MIGRATE or a BASELINE. -/
theorem issueTypeOf_eq_schemaUpdate (l : List MigrationDetail) :
    issueTypeOf l = .databaseSchemaUpdate ↔ ∃ d ∈ l, d.migrationType = .migrate ∨ d.migrationType = .baseline := by
  unfold issueTypeOf
  split <;> simp_all

/-- The database `shop`. -/
def shopDatabase : Database := ⟨1, "shop", ⟨1, ⟨"prod"⟩, "MYSQL"⟩, "", ""⟩

/-- A repository of project 2, its project state-based (SDL) or not. -/
def namingRepo (schemaChangeType : SchemaChangeType) : Repository :=
  { linkedRepo 2 "shop" "ws-1" with project := ⟨"p", .normal, .disabled, "", schemaChangeType⟩ }

/-- A store that lists the repository under its endpoint and holds the
database `shop`. -/
def namingWorld (repo : Repository) : World :=
  { World.quiet with
    findRepository := fun _ => .ok [repo]
    findDatabase := fun _ name => if name = "shop" then .ok [shopDatabase] else .ok [] }

/-- An added schema file of `shop`. -/
def shopSchemaFile : FileInfo :=
  ⟨⟨"shop.sql", ⟨"a", ""⟩, .added, false⟩, ⟨"shop", "", "", .migrate⟩, .schema, namingRepo .sdl⟩

/-- An added BASELINE migration of `shop`. -/
def shopBaselineFile : FileInfo :=
  ⟨⟨"shop__0001__baseline.sql", ⟨"a", ""⟩, .added, false⟩, ⟨"shop", "", "0001", .baseline⟩, .migration, namingRepo .ddl⟩

/-- An SDL schema file creates an issue named "Alter schema" of the
data-update type, and a baseline migration one named "Change data" of the
schema-update type. -/
theorem processFilesInProject_name_type_disagree :
    (Effect.issues (processFilesInProject (namingWorld (namingRepo .sdl)) onePushEvent (namingRepo .sdl)
        [shopSchemaFile]).writes).map (fun c => (c.name, c.type)) =
      [("[shop] Alter schema", .databaseDataUpdate)] ∧
    (Effect.issues (processFilesInProject (namingWorld (namingRepo .ddl)) onePushEvent (namingRepo .ddl)
        [shopBaselineFile]).writes).map (fun c => (c.name, c.type)) =
      [("[shop] Change data", .databaseSchemaUpdate)] := by
  decide

end Bytebase.Webhook
