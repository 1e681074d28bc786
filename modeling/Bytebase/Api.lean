import Bytebase.Go.Basic

/-!
# Api — the records the server code reads and writes

The structs of `api`, `vcs`, `db` and `advisor` that the webhook pipeline,
the SQL review endpoint and the repository handlers touch, with the fields
those functions read or set (the other fields of each Go struct are left
out). A Go pointer field the code checks against `nil` is an `Option`; an
enumeration of string constants is an inductive with one constructor per
constant the code names.

Store records compose their parent as Go does (`Repository.project`), so a
function that reads `repo.Project.TenantMode` reads the same field here.
-/

namespace Bytebase.Api

/-! ## Projects and repositories -/

/-- `api.RowStatus`. -/
inductive RowStatus where
  | normal | archived
  deriving DecidableEq, Repr

/-- `api.ProjectTenantMode`. -/
inductive TenantMode where
  | disabled | tenant
  deriving DecidableEq, Repr

/-- `api.ProjectSchemaChangeType`: imperative migrations or state-based SDL. -/
inductive SchemaChangeType where
  | ddl | sdl
  deriving DecidableEq, Repr

/-- `api.Project`, as composed into a repository. -/
structure Project where
  name : String
  rowStatus : RowStatus
  tenantMode : TenantMode
  dbNameTemplate : String
  schemaChangeType : SchemaChangeType
  deriving DecidableEq, Repr

/-- `vcs.Type`. -/
inductive VCSType where
  | gitLabSelfHost | gitHubCom
  deriving DecidableEq, Repr

/-- `api.VCS`: the provider a repository is linked through. -/
structure VCS where
  type : VCSType
  instanceURL : String
  applicationID : String
  secret : String
  deriving DecidableEq, Repr

/-- `api.Repository`: one project's link to one external repository. -/
structure Repository where
  id : Int
  projectID : Int
  project : Project
  vcs : Option VCS
  webURL : String
  externalID : String
  baseDirectory : String
  branchFilter : String
  filePathTemplate : String
  schemaPathTemplate : String
  webhookEndpointID : String
  webhookSecretToken : String
  enableSQLReviewCI : Bool
  accessToken : String
  refreshToken : String
  deriving DecidableEq, Repr

/-! ## Push events and changed files -/

/-- `vcs.Commit`. -/
structure Commit where
  id : String
  authorEmail : String
  deriving DecidableEq, Repr

/-- `vcs.FileItemType`; `unset` is the zero value `""`, which a file of a
pull request carries. -/
inductive FileItemType where
  | added | modified | deleted | unset
  deriving DecidableEq, Repr

/-- `vcs.DistinctFileItem`: one changed path with the last commit touching it. -/
structure DistinctFileItem where
  fileName : String
  commit : Commit
  itemType : FileItemType
  isYAML : Bool
  deriving DecidableEq, Repr

/-- `vcs.PushEvent`, as carried into issue and activity payloads. -/
structure PushEvent where
  vcsType : VCSType
  baseDirectory : String
  ref : String
  before : String
  after : String
  repositoryID : String
  commitList : List Commit
  deriving DecidableEq, Repr

/-- `vcs.FileDiff`: one entry of the compare API's answer. -/
structure FileDiff where
  path : String
  deriving DecidableEq, Repr

/-! ## Migrations -/

/-- `db.MigrationType`. -/
inductive MigrationType where
  | baseline | migrate | migrateSDL | branch | data
  deriving DecidableEq, Repr

/-- `db.MigrationInfo`: what a file path says about its migration. -/
structure MigrationInfo where
  database : String
  environment : String
  version : String
  type : MigrationType
  deriving DecidableEq, Repr

/-- `api.MigrationFileYAML`: a tenant project's advanced-mode file. -/
structure MigrationFileYAML where
  databases : List String
  statement : String
  deriving DecidableEq, Repr

/-- `api.MigrationDetail`; an unset `DatabaseID` is Go's zero. -/
structure MigrationDetail where
  migrationType : MigrationType
  databaseID : Int
  databaseName : String
  statement : String
  schemaVersion : String
  deriving DecidableEq, Repr

/-- `api.Environment`, as composed into an instance. -/
structure Environment where
  name : String
  deriving DecidableEq, Repr

/-- `api.Instance`, as composed into a database. -/
structure Instance where
  environmentID : Int
  environment : Environment
  engine : String
  deriving DecidableEq, Repr

/-- `api.Database`; its `Instance` field is `inst` (`instance` is a keyword). -/
structure Database where
  id : Int
  name : String
  inst : Instance
  characterSet : String
  collation : String
  deriving DecidableEq, Repr

/-! ## Issues, tasks and activities -/

/-- `api.SystemBotID`. -/
def systemBotID : Int := 1

/-- `api.IssueType`, the two the pipeline creates. -/
inductive IssueType where
  | databaseSchemaUpdate | databaseDataUpdate
  deriving DecidableEq, Repr

/-- `api.MigrationContext`: the issue's creation context. -/
structure MigrationContext where
  vcsPushEvent : PushEvent
  detailList : List MigrationDetail
  deriving DecidableEq, Repr

/-- `api.IssueCreate`. -/
structure IssueCreate where
  creatorID : Int
  projectID : Int
  name : String
  type : IssueType
  description : String
  assigneeID : Int
  assigneeNeedAttention : Bool
  createContext : MigrationContext
  deriving DecidableEq, Repr

/-- `api.Issue`, as returned by issue creation. -/
structure Issue where
  id : Int
  name : String
  deriving DecidableEq, Repr

/-- `api.Task`. -/
structure Task where
  id : Int
  pipelineID : Int
  deriving DecidableEq, Repr

/-- `api.TaskPatch`. -/
structure TaskPatch where
  id : Int
  statement : String
  updaterID : Int
  deriving DecidableEq, Repr

/-- `api.ActivityLevel`. -/
inductive ActivityLevel where
  | info | warn
  deriving DecidableEq, Repr

/-- `api.ActivityProjectRepositoryPushPayload`; an ignored file carries no issue. -/
structure ActivityPayload where
  vcsPushEvent : PushEvent
  issueID : Int
  issueName : String
  deriving DecidableEq, Repr

/-- `api.ActivityCreate` of type `api.ActivityProjectRepositoryPush`, the only
type the pipeline records. -/
structure ActivityCreate where
  creatorID : Int
  containerID : Int
  level : ActivityLevel
  comment : String
  payload : ActivityPayload
  deriving DecidableEq, Repr

/-! ## SQL advice -/

/-- `advisor.Advice`; `Status` is Go's string type `advisor.Status`. -/
structure Advice where
  status : String
  code : Int
  title : String
  content : String
  line : Int
  deriving DecidableEq, Repr

/-- `advisor.Success`. -/
def statusSuccess : String := "SUCCESS"

/-- `advisor.Warn`. -/
def statusWarn : String := "WARN"

/-- `advisor.Error`. -/
def statusError : String := "ERROR"

@[simp] theorem statusError_ne_statusWarn : statusError ≠ statusWarn := by decide
@[simp] theorem statusWarn_ne_statusError : statusWarn ≠ statusError := by decide
@[simp] theorem statusError_ne_statusSuccess : statusError ≠ statusSuccess := by decide
@[simp] theorem statusSuccess_ne_statusError : statusSuccess ≠ statusError := by decide
@[simp] theorem statusWarn_ne_statusSuccess : statusWarn ≠ statusSuccess := by decide
@[simp] theorem statusSuccess_ne_statusWarn : statusSuccess ≠ statusWarn := by decide

/-- `vcs.PullRequestFile`. -/
structure PullRequestFile where
  path : String
  lastCommitID : String
  isDeleted : Bool
  deriving DecidableEq, Repr

/-- `api.SQLReviewPolicy`: its rules, which only the advisor reads. -/
structure SQLReviewPolicy where
  ruleList : List String
  deriving DecidableEq, Repr

/-- `api.Principal`: the user a request acts for. -/
structure Principal where
  id : Int
  name : String
  deriving DecidableEq, Repr

/-- `api.VCSSQLReviewResult`: the body the CI job reads. -/
structure VCSSQLReviewResult where
  status : String
  content : List String
  deriving DecidableEq, Repr

end Bytebase.Api
