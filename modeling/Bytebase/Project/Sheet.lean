import Bytebase.Webhook.Issue

/-!
# Project — `POST /project/:projectID/sync-sheet`

The handler reads the project, its repository and the repository's VCS,
lists the files under the directory of the sheet path template, and turns
each file into a sheet of the project: a new sheet when none of its name
exists, a patch of the existing one otherwise (`syncFile`). A sheet is
tied to a database (`sheetDatabaseID`) by the environment and database
names its path gives, and the first failure ends the request, leaving the
sheets written before it (`syncFiles`).

The handler's comment says the database is set "in non-tenant mode", but
the branch runs when `project.TenantMode != api.TenantModeDisabled`: in a
project whose tenant mode is disabled no sheet is ever tied to a database
(`syncSheet_disabled_no_database`). Where it runs, it takes the first
database of the name whose environment's name is equal, rune for rune,
to the path's; `findProjectDatabases` folds case and refuses two
databases of one environment.

The store's `FindDatabase` is the `World`'s; the VCS and the sheet store
are `SheetWorld`, one function per call, answering for every outcome.
`json.Marshal` of the payload record cannot fail and is not modelled; the
payload is the record.
-/

namespace Bytebase.Project

open Bytebase.Go Bytebase.Api Bytebase.Webhook

/-- `api.ProjectWorkflowType`. -/
inductive WorkflowType where
  | ui | vcs
  deriving DecidableEq, Repr

/-- The text `%s` prints for a workflow type. -/
def WorkflowType.text : WorkflowType → String
  | .ui => "UI"
  | .vcs => "VCS"

/-- What the handler reads of `api.Project`. -/
structure SheetProject where
  id : Int
  workflowType : WorkflowType
  tenantMode : TenantMode
  deriving DecidableEq, Repr

/-- What the handler reads of `api.Repository`; the OAuth tokens and the
web URL only reach the VCS calls. -/
structure SheetRepository where
  vcsID : Int
  externalID : String
  branchFilter : String
  sheetPathTemplate : String
  deriving DecidableEq, Repr

/-- `parseSheetInfo(path, template)`: the names a sheet's path gives. -/
structure SheetInfo where
  environmentName : String
  databaseName : String
  sheetName : String
  deriving DecidableEq, Repr

/-- `vcs.FileMeta`. -/
structure FileMeta where
  name : String
  path : String
  size : Int
  lastCommitID : String
  deriving DecidableEq, Repr

/-- The commit `FetchCommitByID` answers. -/
structure CommitData where
  id : String
  authorName : String
  deriving DecidableEq, Repr

/-- `api.SheetVCSPayload`. -/
structure SheetVCSPayload where
  fileName : String
  filePath : String
  size : Int
  author : String
  lastCommitID : String
  lastSyncTs : Int
  deriving DecidableEq, Repr

/-- `api.SheetSource` of a sheet synced from a VCS. -/
inductive SheetSource where
  | gitLabSelfHost | gitHubCom
  deriving DecidableEq, Repr

/-- `api.SheetCreate`, its visibility `PROJECT` and its type `SQL`. -/
structure SheetCreate where
  projectID : Int
  creatorID : Int
  name : String
  statement : String
  source : SheetSource
  payload : SheetVCSPayload
  databaseID : Option Int
  deriving DecidableEq, Repr

/-- `api.SheetPatch`. -/
structure SheetPatch where
  id : Int
  updaterID : Int
  statement : String
  payload : SheetVCSPayload
  databaseID : Option Int
  deriving DecidableEq, Repr

/-- A sheet the store accepted: created or patched. -/
inductive SheetWrite where
  | created (c : SheetCreate)
  | patched (p : SheetPatch)
  deriving DecidableEq, Repr

/-- The database a written sheet is tied to. -/
def SheetWrite.databaseID : SheetWrite → Option Int
  | .created c => c.databaseID
  | .patched p => p.databaseID

/-- The VCS and the sheet store of one request. -/
structure SheetWorld where
  getProjectByID : Int → Except GoError (Option SheetProject)
  getRepository : Int → Except GoError (Option SheetRepository)
  getVCSByID : Int → Except GoError (Option VCS)
  /-- `FetchRepositoryFileList` under `filepath.Dir(repo.SheetPathTemplate)`:
  the paths of the files. -/
  fetchRepositoryFileList : VCS → SheetRepository → Except GoError (List String)
  parseSheetInfo : String → String → Except GoError SheetInfo
  /-- `ReadFileContent` of a path on the repository's branch. -/
  readFileContent : VCS → SheetRepository → String → Except GoError String
  /-- `ReadFileMeta` of a path on the repository's branch. -/
  readFileMeta : VCS → SheetRepository → String → Except GoError FileMeta
  fetchCommitByID : VCS → SheetRepository → String → Except GoError CommitData
  /-- `GetSheet` by name, project and source, for a principal: the sheet's ID. -/
  getSheet : String → Int → SheetSource → Int → Except GoError (Option Int)
  createSheet : SheetCreate → Except GoError Unit
  patchSheet : SheetPatch → Except GoError Unit
  /-- `time.Now().Unix()`. -/
  now : Int

/-! ## One file -/

/-- The database a file's sheet is tied to: outside `TenantModeDisabled`,
and when the path names both an environment and a database, the first
database of that name in the project whose environment has that name. -/
def sheetDatabaseID (w : World) (project : SheetProject) (projectID : Int) (sheetInfo : SheetInfo) :
    Except GoError (Option Int) :=
  if project.tenantMode ≠ .disabled ∧ sheetInfo.environmentName ≠ "" ∧ sheetInfo.databaseName ≠ "" then
    match w.findDatabase projectID sheetInfo.databaseName with
    | .error _ =>
      .error (.http 500 ("Failed to find database list with name: " ++ sheetInfo.databaseName ++ ", project ID: " ++
        toString projectID))
    | .ok databaseList =>
      .ok ((databaseList.find? fun d => d.inst.environment.name = sheetInfo.environmentName).map (·.id))
  else .ok none

/-- The sheet source of a VCS. -/
def sheetSourceOf : VCSType → SheetSource
  | .gitLabSelfHost => .gitLabSelfHost
  | .gitHubCom => .gitHubCom

/-- The loop body for one file: the sheet written, or the error that ends
the request. -/
def syncFile (w : World) (sw : SheetWorld) (projectID currentPrincipalID : Int) (project : SheetProject)
    (repo : SheetRepository) (vcs : VCS) (path : String) : Except GoError SheetWrite :=
  match sw.parseSheetInfo path repo.sheetPathTemplate with
  | .error _ => .error (.http 500 "Failed to parse sheet info from template")
  | .ok sheetInfo =>
  if sheetInfo.sheetName = "" then
    .error (.http 400 ("sheet name cannot be empty from sheet path " ++ path ++ " with template " ++
      repo.sheetPathTemplate))
  else
  let repoRef := "instance URL: " ++ vcs.instanceURL ++ ", repo ID: " ++ repo.externalID
  match sw.readFileContent vcs repo path with
  | .error _ => .error (.http 500 ("Failed to fetch file content from VCS, " ++ repoRef ++ ", file path: " ++ path ++
      ", branch: " ++ repo.branchFilter))
  | .ok fileContent =>
  match sw.readFileMeta vcs repo path with
  | .error _ => .error (.http 500 ("Failed to fetch file meta from VCS, " ++ repoRef ++ ", file path: " ++ path ++
      ", branch: " ++ repo.branchFilter))
  | .ok fileMeta =>
  match sw.fetchCommitByID vcs repo fileMeta.lastCommitID with
  | .error _ => .error (.http 500 ("Failed to fetch commit data from VCS, " ++ repoRef ++ ", commit ID: " ++
      fileMeta.lastCommitID))
  | .ok lastCommit =>
  let payload : SheetVCSPayload :=
    ⟨fileMeta.name, fileMeta.path, fileMeta.size, lastCommit.authorName, lastCommit.id, sw.now⟩
  match sheetDatabaseID w project projectID sheetInfo with
  | .error e => .error e
  | .ok databaseID =>
  let sheetSource := sheetSourceOf vcs.type
  match sw.getSheet sheetInfo.sheetName project.id sheetSource currentPrincipalID with
  | .error _ => .error (.http 500 ("Failed to find sheet with name: " ++ sheetInfo.sheetName ++ ", project ID: " ++
      toString projectID))
  | .ok none =>
    let sheetCreate : SheetCreate :=
      ⟨projectID, currentPrincipalID, sheetInfo.sheetName, fileContent, sheetSource, payload, databaseID⟩
    match sw.createSheet sheetCreate with
    | .error _ => .error (.http 500 "Failed to create sheet from VCS")
    | .ok () => .ok (.created sheetCreate)
  | .ok (some sheetID) =>
    let sheetPatch : SheetPatch := ⟨sheetID, currentPrincipalID, fileContent, payload, databaseID⟩
    match sw.patchSheet sheetPatch with
    | .error _ => .error (.http 500 "Failed to patch sheet from VCS")
    | .ok () => .ok (.patched sheetPatch)

/-- The file loop: the sheets written, in order, up to the first error. -/
def syncFiles (w : World) (sw : SheetWorld) (projectID currentPrincipalID : Int) (project : SheetProject)
    (repo : SheetRepository) (vcs : VCS) : List String → Except GoError Unit × List SheetWrite
  | [] => (.ok (), [])
  | path :: rest =>
    match syncFile w sw projectID currentPrincipalID project repo vcs path with
    | .error e => (.error e, [])
    | .ok written =>
      let (result, writes) := syncFiles w sw projectID currentPrincipalID project repo vcs rest
      (result, written :: writes)

/-- `POST /project/:projectID/sync-sheet`: the response's error, if any, and
the sheets written. -/
def syncSheet (w : World) (sw : SheetWorld) (projectIDParam : String) (currentPrincipalID : Int) :
    Except GoError Unit × List SheetWrite :=
  match atoi projectIDParam with
  | none => (.error (.http 400 ("Project ID is not a number: " ++ projectIDParam)), [])
  | some projectID =>
  match sw.getProjectByID projectID with
  | .error _ => (.error (.http 500 ("Project not found: " ++ toString projectID)), [])
  | .ok none => (.error (.http 404 ("Project not found by ID: " ++ toString projectID)), [])
  | .ok (some project) =>
  if project.workflowType ≠ .vcs then
    (.error (.http 400 ("Invalid workflow type: " ++ project.workflowType.text ++ ", need " ++ WorkflowType.vcs.text ++
      " to enable this function")), [])
  else
  match sw.getRepository projectID with
  | .error _ => (.error (.http 500 ("Failed to find relevant VCS repo, Project ID: " ++ toString projectID)), [])
  | .ok none => (.error (.http 404 ("Repository not found by project ID: " ++ toString projectID)), [])
  | .ok (some repo) =>
  match sw.getVCSByID repo.vcsID with
  | .error _ => (.error (.http 500 ("Failed to find VCS for sync sheet: " ++ toString repo.vcsID)), [])
  | .ok none => (.error (.http 404 ("VCS not found by ID: " ++ toString repo.vcsID)), [])
  | .ok (some vcs) =>
  match sw.fetchRepositoryFileList vcs repo with
  | .error _ =>
    (.error (.http 500 ("Failed to fetch repository file list from VCS, instance URL: " ++ vcs.instanceURL)), [])
  | .ok fileList => syncFiles w sw projectID currentPrincipalID project repo vcs fileList

/-! ## What a sheet is tied to -/

/-- A written sheet comes from a path whose names the template gives, and
is tied to the database `sheetDatabaseID` picks for them. -/
theorem syncFile_databaseID {w : World} {sw : SheetWorld} {projectID currentPrincipalID : Int}
    {project : SheetProject} {repo : SheetRepository} {vcs : VCS} {path : String} {written : SheetWrite}
    (h : syncFile w sw projectID currentPrincipalID project repo vcs path = .ok written) :
    ∃ sheetInfo, sw.parseSheetInfo path repo.sheetPathTemplate = .ok sheetInfo ∧
      sheetDatabaseID w project projectID sheetInfo = .ok written.databaseID := by
  unfold syncFile at h
  split at h
  · cases h
  rename_i sheetInfo hinfo
  refine ⟨sheetInfo, hinfo, ?_⟩
  split_ifs at h
  dsimp only at h
  repeat' split at h
  all_goals cases h <;> assumption

theorem mem_syncFiles {w : World} {sw : SheetWorld} {projectID currentPrincipalID : Int} {project : SheetProject}
    {repo : SheetRepository} {vcs : VCS} {written : SheetWrite} :
    ∀ {paths : List String}, written ∈ (syncFiles w sw projectID currentPrincipalID project repo vcs paths).2 →
      ∃ path ∈ paths, syncFile w sw projectID currentPrincipalID project repo vcs path = .ok written
  | [], h => nomatch h
  | path :: rest, h => by
    simp only [syncFiles] at h
    split at h
    · cases h
    rename_i written' hfile
    rcases List.mem_cons.1 h with rfl | h
    · exact ⟨path, List.mem_cons_self _ _, hfile⟩
    · obtain ⟨p, hp, hf⟩ := mem_syncFiles h
      exact ⟨p, List.mem_cons_of_mem _ hp, hf⟩

/-- **What a synced sheet is tied to.** Every sheet the handler writes
comes from a file of the project's repository whose path gives the names
`sheetInfo`, and is tied to the database `sheetDatabaseID` picks for them. -/
theorem syncSheet_databaseID (w : World) (sw : SheetWorld) (projectIDParam : String) (currentPrincipalID : Int)
    {written : SheetWrite} (h : written ∈ (syncSheet w sw projectIDParam currentPrincipalID).2) :
    ∃ projectID project repo path sheetInfo, atoi projectIDParam = some projectID ∧
      sw.getProjectByID projectID = .ok (some project) ∧ sw.getRepository projectID = .ok (some repo) ∧
      sw.parseSheetInfo path repo.sheetPathTemplate = .ok sheetInfo ∧
      sheetDatabaseID w project projectID sheetInfo = .ok written.databaseID := by
  unfold syncSheet at h
  split at h
  · cases h
  rename_i projectID hparam
  split at h <;> try cases h
  rename_i project hproject
  split_ifs at h
  · cases h
  split at h <;> try cases h
  rename_i repo hrepo
  split at h <;> try cases h
  split at h <;> try cases h
  obtain ⟨path, -, hfile⟩ := mem_syncFiles h
  obtain ⟨sheetInfo, hinfo, hdb⟩ := syncFile_databaseID hfile
  exact ⟨projectID, project, repo, path, sheetInfo, hparam, hproject, hrepo, hinfo, hdb⟩

/-- In a project whose tenant mode is disabled, no synced sheet is tied to a
database. -/
theorem syncSheet_disabled_no_database (w : World) (sw : SheetWorld) (projectIDParam : String)
    (currentPrincipalID : Int) (hdisabled : ∀ projectID project, atoi projectIDParam = some projectID →
      sw.getProjectByID projectID = .ok (some project) → project.tenantMode = .disabled) :
    ∀ written ∈ (syncSheet w sw projectIDParam currentPrincipalID).2, written.databaseID = none := by
  intro written h
  obtain ⟨projectID, project, -, -, sheetInfo, hparam, hproject, -, -, hdb⟩ := syncSheet_databaseID w sw _ _ h
  simp only [sheetDatabaseID, hdisabled projectID project hparam hproject, ne_eq, not_true_eq_false, false_and,
    if_false, Except.ok.injEq] at hdb
  exact hdb.symm

/-- A VCS project whose tenant mode is disabled, its repository, and one
file `prod/shop/report.sql` that is not yet a sheet. -/
def disabledSheetWorld : SheetWorld where
  getProjectByID _ := .ok (some ⟨1, .vcs, .disabled⟩)
  getRepository _ := .ok (some ⟨7, "101", "main", "sheets"⟩)
  getVCSByID _ := .ok (some ⟨.gitLabSelfHost, "", "", ""⟩)
  fetchRepositoryFileList _ _ := .ok ["prod/shop/report.sql"]
  parseSheetInfo _ _ := .ok ⟨"prod", "shop", "report"⟩
  readFileContent _ _ _ := .ok "SELECT 1"
  readFileMeta _ _ _ := .ok ⟨"report.sql", "prod/shop/report.sql", 8, "c1"⟩
  fetchCommitByID _ _ _ := .ok ⟨"c1", ""⟩
  getSheet _ _ _ _ := .ok none
  createSheet _ := .ok ()
  patchSheet _ := .ok ()
  now := 0

/-- A store whose project 1 holds the one database `shop`, in `prod`. -/
def shopStore : World :=
  { World.quiet with findDatabase := fun _ name => .ok (if name = "shop" then [shopDatabase] else []) }

/-- The names `prod/shop` resolve to exactly one database, yet the sheet
synced from that path in a project whose tenant mode is disabled is tied to
none. -/
theorem syncSheet_disabled_ignores_database :
    findProjectDatabases shopStore 1 "shop" "prod" = .ok [shopDatabase] ∧
      (syncSheet shopStore disabledSheetWorld "1" 101).1 = .ok () ∧
      (syncSheet shopStore disabledSheetWorld "1" 101).2.map SheetWrite.databaseID = [none] := by
  decide

end Bytebase.Project
