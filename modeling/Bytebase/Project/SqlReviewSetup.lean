import Bytebase.Project.Store
import Bytebase.Project.Sheet

/-!
# Project — setting SQL review CI up in the VCS

`setupVCSSQLReviewCI` and its helpers, the VCS requests of the SQL review
CI route. A branch `bytebase-vcs-<Unix seconds>` is cut at the head of the
branch filter; the repository's webhook secret is stored as a CI variable;
the CI files are written to the new branch (GitHub: the SQL review
action; GitLab: `.gitlab-ci.yml`, merged with what is there, then the SQL
review job); and a pull request from the new branch into the branch filter
is opened. The first request that fails ends the setup.

The VCS answers through one `VCSPlugin` per VCS type; the requests that
change the external repository are logged as `VCSWrite`s, in the order
sent, whatever the VCS answered.

The results: the setup writes files only on its own branch and only the CI
files of the VCS type, and its other writes are the branch, the secret and
a pull request from that branch into the branch filter
(`setupVCSSQLReviewCI_writes`). A setup that succeeds has sent exactly the
branch, the secret, one write per CI file and then the pull request
(`setupVCSSQLReviewCI_eq_ok`).
-/

namespace Bytebase.Project

open Bytebase.Go Bytebase.Api

/-! ## The VCS side -/

/-- `common.OauthContext`, without its token refresher. -/
structure OauthContext where
  clientID : String
  clientSecret : String
  accessToken : String
  refreshToken : String
  deriving DecidableEq, Repr

/-- `vcs.BranchInfo`. -/
structure BranchInfo where
  name : String
  lastCommitID : String
  deriving DecidableEq, Repr

/-- `vcs.FileCommitCreate`. -/
structure FileCommitCreate where
  branch : String
  commitMessage : String
  content : String
  lastCommitID : String
  deriving DecidableEq, Repr

/-- `vcs.PullRequestCreate`. -/
structure PullRequestCreate where
  title : String
  body : String
  head : String
  base : String
  removeHeadAfterMerged : Bool
  deriving DecidableEq, Repr

/-- A request that changes the external repository. -/
inductive VCSWrite where
  | createBranch (branch : BranchInfo)
  | upsertEnvironmentVariable (key value : String)
  | createFile (filePath : String) (commit : FileCommitCreate)
  | overwriteFile (filePath : String) (commit : FileCommitCreate)
  | createPullRequest (pullRequest : PullRequestCreate)
  deriving DecidableEq, Repr

/-- The methods of `vcsPlugin.Get(type, …)` the setup calls, as the VCS
answers them. Each takes the OAuth context, the instance URL and the
repository's external ID; `ReadFileMeta` and `ReadFileContent` take a
file path and a ref; `CreatePullRequest` answers the pull request's URL. -/
structure VCSPlugin where
  getBranch : OauthContext → String → String → String → Except GoError BranchInfo
  createBranch : OauthContext → String → String → BranchInfo → Except GoError Unit
  upsertEnvironmentVariable : OauthContext → String → String → String → String → Except GoError Unit
  readFileMeta : OauthContext → String → String → String → String → Except GoError FileMeta
  readFileContent : OauthContext → String → String → String → String → Except GoError String
  createFile : OauthContext → String → String → String → FileCommitCreate → Except GoError Unit
  overwriteFile : OauthContext → String → String → String → FileCommitCreate → Except GoError Unit
  createPullRequest : OauthContext → String → String → PullRequestCreate → Except GoError String

/-- What the setup reads beyond the plugins: the server's external URL,
`common.ErrorCode(err) == common.NotFound`, the CI texts the `github` and
`gitlab` packages generate for an endpoint, `gitlab.SetupGitLabCI` over
the existing `.gitlab-ci.yml` (`none` for an empty map; it fails as
`yaml.Unmarshal` or `SetupGitLabCI` does), and the file paths and the
secret's name those packages define. -/
structure SetupWorld where
  plugin : VCSType → VCSPlugin
  externalURL : String
  isNotFound : GoError → Bool
  githubSetupSQLReviewCI : String → String
  gitlabSetupSQLReviewCI : String → String
  setupGitLabCI : Option String → Except GoError String
  sqlReviewActionFilePath : String
  ciFilePath : String
  sqlReviewCIFilePath : String
  sqlReviewAPISecretName : String

/-! ## Requests in order -/

/-- A run of the setup: the result or the first error, and the writes
sent, in order. -/
structure Sent (α : Type) where
  result : Except GoError α
  writes : List VCSWrite

instance : Monad Sent where
  pure a := ⟨.ok a, []⟩
  bind x f := match x.result with
    | .ok a => ⟨(f a).result, x.writes ++ (f a).writes⟩
    | .error e => ⟨.error e, x.writes⟩

namespace Sent

variable {α β : Type}

/-- A request that changes nothing, with the VCS's answer. -/
def read (answer : Except GoError α) : Sent α := ⟨answer, []⟩

/-- A write request, with the VCS's answer. -/
def send (w : VCSWrite) (answer : Except GoError α) : Sent α := ⟨answer, [w]⟩

@[simp] theorem result_pure (a : α) : (pure a : Sent α).result = .ok a := rfl

@[simp] theorem writes_pure (a : α) : (pure a : Sent α).writes = [] := rfl

@[simp] theorem result_read (answer : Except GoError α) : (read answer).result = answer := rfl

@[simp] theorem writes_read (answer : Except GoError α) : (read answer).writes = [] := rfl

@[simp] theorem result_send (w : VCSWrite) (answer : Except GoError α) : (send w answer).result = answer := rfl

@[simp] theorem writes_send (w : VCSWrite) (answer : Except GoError α) : (send w answer).writes = [w] := rfl

@[simp] theorem result_bind (x : Sent α) (f : α → Sent β) :
    (x >>= f).result = x.result.bind fun a => (f a).result := by
  show (match x.result with
    | .ok a => (⟨(f a).result, x.writes ++ (f a).writes⟩ : Sent β)
    | .error e => ⟨.error e, x.writes⟩).result = _
  cases x.result <;> rfl

@[simp] theorem writes_bind (x : Sent α) (f : α → Sent β) :
    (x >>= f).writes = x.writes ++ (match x.result with
      | .ok a => (f a).writes
      | .error _ => []) := by
  show (match x.result with
    | .ok a => (⟨(f a).result, x.writes ++ (f a).writes⟩ : Sent β)
    | .error e => ⟨.error e, x.writes⟩).writes = _
  cases x.result <;> simp

theorem bind_ok {x : Sent α} {a : α} (h : x.result = .ok a) (f : α → Sent β) :
    x >>= f = ⟨(f a).result, x.writes ++ (f a).writes⟩ := by
  show (match x.result with
    | .ok a => (⟨(f a).result, x.writes ++ (f a).writes⟩ : Sent β)
    | .error e => ⟨.error e, x.writes⟩) = _
  rw [h]

theorem bind_error {x : Sent α} {e : GoError} (h : x.result = .error e) (f : α → Sent β) :
    x >>= f = ⟨.error e, x.writes⟩ := by
  show (match x.result with
    | .ok a => (⟨(f a).result, x.writes ++ (f a).writes⟩ : Sent β)
    | .error e => ⟨.error e, x.writes⟩) = _
  rw [h]

/-- A sequence's writes are its first part's, then those of what follows
the value it returned. -/
theorem mem_writes_bind {x : Sent α} {f : α → Sent β} {w : VCSWrite} (hw : w ∈ (x >>= f).writes) :
    w ∈ x.writes ∨ ∃ a, x.result = .ok a ∧ w ∈ (f a).writes := by
  rcases hx : x.result with e | a
  · exact .inl (by simpa [bind_error hx] using hw)
  · simpa [bind_ok hx, or_iff_not_imp_left] using hw

/-- A sequence that succeeds: its first part returned a value, what
follows succeeded from it, and the writes are those of both parts. -/
theorem bind_eq_ok {x : Sent α} {f : α → Sent β} {b : β} (h : (x >>= f).result = .ok b) :
    ∃ a, x.result = .ok a ∧ (f a).result = .ok b ∧ (x >>= f).writes = x.writes ++ (f a).writes := by
  rcases hx : x.result with e | a
  · rw [bind_error hx] at h
    cases h
  · rw [bind_ok hx] at h
    exact ⟨a, rfl, h, by rw [bind_ok hx]⟩

end Sent

/-! ## The setup -/

/-- `sqlReviewInVCSPRTitle`, also the commit message of every file. -/
def sqlReviewInVCSPRTitle : String := "chore: setup SQL review CI for Bytebase"

/-- The setup's branch at Unix second `now`. -/
def sqlReviewBranchName (now : Int) : String := "bytebase-vcs-" ++ toString now

/-- The OAuth context every request of the setup carries. -/
def oauthContext (repository : RepositoryRow) (vcs : VCS) : OauthContext :=
  ⟨vcs.applicationID, vcs.secret, repository.accessToken, repository.refreshToken⟩

/-- `setupVCSSQLReviewBranch` at Unix second `now`: the branch filter's
head, then a new branch there. -/
def setupVCSSQLReviewBranch (sw : SetupWorld) (now : Int) (repository : RepositoryRow) (vcs : VCS) :
    Sent BranchInfo := do
  let p := sw.plugin vcs.type
  let branch ← Sent.read (p.getBranch (oauthContext repository vcs) vcs.instanceURL repository.externalID
    repository.branchFilter)
  let branchCreate : BranchInfo := ⟨sqlReviewBranchName now, branch.lastCommitID⟩
  Sent.send (.createBranch branchCreate)
    (p.createBranch (oauthContext repository vcs) vcs.instanceURL repository.externalID branchCreate)
  return branchCreate

/-- `setupVCSSQLReviewCIForGitHub`: the action file, created on the branch
over the last commit of what is there; a failed metadata read is only
logged, and the file is then created with no last commit. -/
def setupVCSSQLReviewCIForGitHub (sw : SetupWorld) (repository : RepositoryRow) (vcs : VCS) (branch : BranchInfo)
    (sqlReviewEndpoint : String) : Sent Unit :=
  let p := sw.plugin vcs.type
  let fileLastCommitID :=
    match p.readFileMeta (oauthContext repository vcs) vcs.instanceURL repository.externalID
        sw.sqlReviewActionFilePath branch.name with
    | .ok fileMeta => fileMeta.lastCommitID
    | .error _ => ""
  let commit : FileCommitCreate :=
    ⟨branch.name, sqlReviewInVCSPRTitle, sw.githubSetupSQLReviewCI sqlReviewEndpoint, fileLastCommitID⟩
  Sent.send (.createFile sw.sqlReviewActionFilePath commit)
    (p.createFile (oauthContext repository vcs) vcs.instanceURL repository.externalID sw.sqlReviewActionFilePath commit)

/-- `createOrUpdateVCSSQLReviewFileForGitLab`: a file found on the branch
is overwritten over its last commit, a file not found is created, and any
other failure to read its metadata ends the setup. -/
def createOrUpdateVCSSQLReviewFileForGitLab (sw : SetupWorld) (repository : RepositoryRow) (vcs : VCS)
    (branch : BranchInfo) (fileName : String) (getNewContent : Option FileMeta → Except GoError String) :
    Sent Unit :=
  let p := sw.plugin vcs.type
  match p.readFileMeta (oauthContext repository vcs) vcs.instanceURL repository.externalID fileName branch.name with
  | .ok fileMeta => do
    let newContent ← Sent.read (getNewContent (some fileMeta))
    let commit : FileCommitCreate := ⟨branch.name, sqlReviewInVCSPRTitle, newContent, fileMeta.lastCommitID⟩
    Sent.send (.overwriteFile fileName commit)
      (p.overwriteFile (oauthContext repository vcs) vcs.instanceURL repository.externalID fileName commit)
  | .error err =>
    if sw.isNotFound err then do
      let newContent ← Sent.read (getNewContent none)
      let commit : FileCommitCreate := ⟨branch.name, sqlReviewInVCSPRTitle, newContent, ""⟩
      Sent.send (.createFile fileName commit)
        (p.createFile (oauthContext repository vcs) vcs.instanceURL repository.externalID fileName commit)
    else Sent.read (.error err)

/-- The content closure for `.gitlab-ci.yml`: the file at its last
commit, when there is one, merged by `SetupGitLabCI`. -/
def gitLabCIContent (sw : SetupWorld) (repository : RepositoryRow) (vcs : VCS) :
    Option FileMeta → Except GoError String
  | none => sw.setupGitLabCI none
  | some fileMeta => do
    let ciFileContent ← (sw.plugin vcs.type).readFileContent (oauthContext repository vcs) vcs.instanceURL
      repository.externalID sw.ciFilePath fileMeta.lastCommitID
    sw.setupGitLabCI (some ciFileContent)

/-- `setupVCSSQLReviewCIForGitLab`: `.gitlab-ci.yml`, then the SQL review
job. -/
def setupVCSSQLReviewCIForGitLab (sw : SetupWorld) (repository : RepositoryRow) (vcs : VCS) (branch : BranchInfo)
    (sqlReviewEndpoint : String) : Sent Unit := do
  createOrUpdateVCSSQLReviewFileForGitLab sw repository vcs branch sw.ciFilePath (gitLabCIContent sw repository vcs)
  createOrUpdateVCSSQLReviewFileForGitLab sw repository vcs branch sw.sqlReviewCIFilePath
    fun _ => .ok (sw.gitlabSetupSQLReviewCI sqlReviewEndpoint)

/-- The endpoint the CI calls: `%s/hook/sql-review/%s` of the external URL
and the row's webhook endpoint. -/
def sqlReviewEndpoint (sw : SetupWorld) (repository : RepositoryRow) : String :=
  sw.externalURL ++ "/hook/sql-review/" ++ repository.webhookEndpointID

/-- The pull request the setup opens from the branch `head`. -/
def sqlReviewPullRequest (repository : RepositoryRow) (head : String) : PullRequestCreate :=
  ⟨sqlReviewInVCSPRTitle, "This pull request is auto-generated by Bytebase for GitOps workflow.", head,
    repository.branchFilter, true⟩

/-- The switch on the VCS type in `setupVCSSQLReviewCI`. -/
def setupVCSSQLReviewCIFiles (sw : SetupWorld) (repository : RepositoryRow) (vcs : VCS) (branch : BranchInfo) :
    Sent Unit :=
  match vcs.type with
  | .gitHubCom => setupVCSSQLReviewCIForGitHub sw repository vcs branch (sqlReviewEndpoint sw repository)
  | .gitLabSelfHost => setupVCSSQLReviewCIForGitLab sw repository vcs branch (sqlReviewEndpoint sw repository)

/-- `setupVCSSQLReviewCI` at Unix second `now`; its value is the pull
request's URL. -/
def setupVCSSQLReviewCI (sw : SetupWorld) (now : Int) (repository : RepositoryRow) (vcs : VCS) : Sent String := do
  let branch ← setupVCSSQLReviewBranch sw now repository vcs
  let p := sw.plugin vcs.type
  Sent.send (.upsertEnvironmentVariable sw.sqlReviewAPISecretName repository.webhookSecretToken)
    (p.upsertEnvironmentVariable (oauthContext repository vcs) vcs.instanceURL repository.externalID
      sw.sqlReviewAPISecretName repository.webhookSecretToken)
  setupVCSSQLReviewCIFiles sw repository vcs branch
  Sent.send (.createPullRequest (sqlReviewPullRequest repository branch.name))
    (p.createPullRequest (oauthContext repository vcs) vcs.instanceURL repository.externalID
      (sqlReviewPullRequest repository branch.name))

/-! ## What the setup writes -/

/-- The CI files the setup writes for a VCS type. -/
def ciFilePaths (sw : SetupWorld) : VCSType → List String
  | .gitHubCom => [sw.sqlReviewActionFilePath]
  | .gitLabSelfHost => [sw.ciFilePath, sw.sqlReviewCIFilePath]

/-- What a write of the setup at `now` may be: a branch of the setup's
name; the repository's webhook secret under the SQL review secret's name;
a CI file of the VCS type, on the setup's branch, with the setup's commit
message; or the pull request from the setup's branch into the branch
filter. -/
def SetupWrite (sw : SetupWorld) (now : Int) (repository : RepositoryRow) (type : VCSType) : VCSWrite → Prop
  | .createBranch branch => branch.name = sqlReviewBranchName now
  | .upsertEnvironmentVariable key value => key = sw.sqlReviewAPISecretName ∧ value = repository.webhookSecretToken
  | .createFile filePath commit | .overwriteFile filePath commit =>
    filePath ∈ ciFilePaths sw type ∧ commit.branch = sqlReviewBranchName now ∧
      commit.commitMessage = sqlReviewInVCSPRTitle
  | .createPullRequest pullRequest => pullRequest = sqlReviewPullRequest repository (sqlReviewBranchName now)

/-- `w` writes `content` to `filePath` on `branch` with the setup's commit
message, as GitLab's helper does: a creation with no last commit, or an
overwrite over one. -/
def VCSWrite.Upserts (w : VCSWrite) (filePath branch content : String) : Prop :=
  w = .createFile filePath ⟨branch, sqlReviewInVCSPRTitle, content, ""⟩ ∨
    ∃ lastCommitID, w = .overwriteFile filePath ⟨branch, sqlReviewInVCSPRTitle, content, lastCommitID⟩

/-- The write GitLab's helper made of `fileName` on `branch`, as the file's
metadata on the branch decided: a file found is overwritten over its last
commit, with the content made from its metadata; a file not found is
created, with the content made from nothing. -/
def GitLabFileWritten (sw : SetupWorld) (repository : RepositoryRow) (vcs : VCS) (branch fileName : String)
    (getNewContent : Option FileMeta → Except GoError String) (w : VCSWrite) : Prop :=
  match (sw.plugin vcs.type).readFileMeta (oauthContext repository vcs) vcs.instanceURL repository.externalID fileName
      branch with
  | .ok fileMeta => ∃ content, getNewContent (some fileMeta) = .ok content ∧
    w = .overwriteFile fileName ⟨branch, sqlReviewInVCSPRTitle, content, fileMeta.lastCommitID⟩
  | .error err => sw.isNotFound err = true ∧ ∃ content, getNewContent none = .ok content ∧
    w = .createFile fileName ⟨branch, sqlReviewInVCSPRTitle, content, ""⟩

/-- The CI files a successful setup wrote on `branch`: GitHub's action
file for the endpoint, over the last commit the file's metadata read on
the branch gave, or none when that read failed; GitLab's `.gitlab-ci.yml`
as `SetupGitLabCI` merged it, then its SQL review job for the endpoint,
each as its metadata on the branch decided. -/
def CIFilesWritten (sw : SetupWorld) (repository : RepositoryRow) (vcs : VCS) (branch : String)
    (files : List VCSWrite) : Prop :=
  match vcs.type with
  | .gitHubCom => files = [.createFile sw.sqlReviewActionFilePath
      ⟨branch, sqlReviewInVCSPRTitle, sw.githubSetupSQLReviewCI (sqlReviewEndpoint sw repository),
        match (sw.plugin vcs.type).readFileMeta (oauthContext repository vcs) vcs.instanceURL repository.externalID
            sw.sqlReviewActionFilePath branch with
        | .ok fileMeta => fileMeta.lastCommitID
        | .error _ => ""⟩]
  | .gitLabSelfHost => ∃ ci review, files = [ci, review] ∧
      GitLabFileWritten sw repository vcs branch sw.ciFilePath (gitLabCIContent sw repository vcs) ci ∧
      GitLabFileWritten sw repository vcs branch sw.sqlReviewCIFilePath
        (fun _ => .ok (sw.gitlabSetupSQLReviewCI (sqlReviewEndpoint sw repository))) review

section Helpers

variable {sw : SetupWorld} {now : Int} {repository : RepositoryRow} {vcs : VCS} {branch : BranchInfo}
  {w : VCSWrite}

theorem VCSWrite.Upserts.setupWrite {type : VCSType} {filePath content : String}
    (h : w.Upserts filePath branch.name content) (hpath : filePath ∈ ciFilePaths sw type)
    (hname : branch.name = sqlReviewBranchName now) : SetupWrite sw now repository type w := by
  rcases h with rfl | ⟨_, rfl⟩ <;> exact ⟨hpath, hname, rfl⟩

theorem setupVCSSQLReviewBranch_writes (hw : w ∈ (setupVCSSQLReviewBranch sw now repository vcs).writes) :
    ∃ lastCommitID, w = .createBranch ⟨sqlReviewBranchName now, lastCommitID⟩ := by
  rcases Sent.mem_writes_bind hw with hw | ⟨_, -, hw⟩
  · simp at hw
  rcases Sent.mem_writes_bind hw with hw | ⟨_, -, hw⟩
  · exact ⟨_, List.mem_singleton.1 hw⟩
  · simp at hw

/-- The branch a successful `setupVCSSQLReviewBranch` returns is the one it
created, at the branch filter's head. -/
theorem setupVCSSQLReviewBranch_eq_ok (h : (setupVCSSQLReviewBranch sw now repository vcs).result = .ok branch) :
    ∃ base, (sw.plugin vcs.type).getBranch (oauthContext repository vcs) vcs.instanceURL repository.externalID
        repository.branchFilter = .ok base ∧ branch = ⟨sqlReviewBranchName now, base.lastCommitID⟩ ∧
      (setupVCSSQLReviewBranch sw now repository vcs).writes = [.createBranch branch] := by
  obtain ⟨base, hget, h, -⟩ := Sent.bind_eq_ok h
  obtain ⟨_, hc, h, -⟩ := Sent.bind_eq_ok h
  cases h
  simp only [Sent.result_read] at hget
  simp only [Sent.result_send] at hc
  exact ⟨base, hget, rfl, by simp [setupVCSSQLReviewBranch, hget, hc]⟩

theorem createOrUpdateVCSSQLReviewFileForGitLab_writes {fileName : String}
    {getNewContent : Option FileMeta → Except GoError String}
    (hw : w ∈ (createOrUpdateVCSSQLReviewFileForGitLab sw repository vcs branch fileName getNewContent).writes) :
    ∃ content, w.Upserts fileName branch.name content ∧ ∃ fileMeta, getNewContent fileMeta = .ok content := by
  unfold createOrUpdateVCSSQLReviewFileForGitLab at hw
  dsimp only at hw
  split at hw
  · rcases Sent.mem_writes_bind hw with hw | ⟨content, hc, hw⟩
    · simp at hw
    · exact ⟨content, .inr ⟨_, List.mem_singleton.1 hw⟩, _, hc⟩
  · split at hw
    · rcases Sent.mem_writes_bind hw with hw | ⟨content, hc, hw⟩
      · simp at hw
      · exact ⟨content, .inl (List.mem_singleton.1 hw), _, hc⟩
    · simp at hw

theorem createOrUpdateVCSSQLReviewFileForGitLab_eq_ok {fileName : String}
    {getNewContent : Option FileMeta → Except GoError String}
    (h : (createOrUpdateVCSSQLReviewFileForGitLab sw repository vcs branch fileName getNewContent).result = .ok ()) :
    ∃ w, (createOrUpdateVCSSQLReviewFileForGitLab sw repository vcs branch fileName getNewContent).writes = [w] ∧
      GitLabFileWritten sw repository vcs branch.name fileName getNewContent w := by
  unfold createOrUpdateVCSSQLReviewFileForGitLab at h ⊢
  unfold GitLabFileWritten
  dsimp only at h ⊢
  rcases hm : (sw.plugin vcs.type).readFileMeta (oauthContext repository vcs) vcs.instanceURL repository.externalID
    fileName branch.name with err | fileMeta <;> simp only [hm] at h ⊢
  · by_cases hnf : sw.isNotFound err = true
    · rw [if_pos hnf] at h ⊢
      obtain ⟨content, hc, -, hw⟩ := Sent.bind_eq_ok h
      exact ⟨_, hw, hnf, content, hc, rfl⟩
    · rw [if_neg hnf] at h
      cases h
  · obtain ⟨content, hc, -, hw⟩ := Sent.bind_eq_ok h
    exact ⟨_, hw, content, hc, rfl⟩

theorem setupVCSSQLReviewCIForGitHub_writes (sqlReviewEndpoint : String) :
    ∃ lastCommitID, (setupVCSSQLReviewCIForGitHub sw repository vcs branch sqlReviewEndpoint).writes =
      [.createFile sw.sqlReviewActionFilePath
        ⟨branch.name, sqlReviewInVCSPRTitle, sw.githubSetupSQLReviewCI sqlReviewEndpoint, lastCommitID⟩] :=
  ⟨_, rfl⟩

/-- The CI files are written on the branch the setup made, and only the
VCS type's. -/
theorem setupVCSSQLReviewCIFiles_writes (hname : branch.name = sqlReviewBranchName now)
    (hw : w ∈ (setupVCSSQLReviewCIFiles sw repository vcs branch).writes) : SetupWrite sw now repository vcs.type w := by
  unfold setupVCSSQLReviewCIFiles at hw
  cases ht : vcs.type <;> simp only [ht] at hw
  · rcases Sent.mem_writes_bind hw with hw | ⟨_, -, hw⟩ <;>
      obtain ⟨_, hu, -⟩ := createOrUpdateVCSSQLReviewFileForGitLab_writes hw <;>
      exact hu.setupWrite (by simp [ciFilePaths]) hname
  · obtain ⟨_, hws⟩ := @setupVCSSQLReviewCIForGitHub_writes sw repository vcs branch (sqlReviewEndpoint sw repository)
    rw [hws, List.mem_singleton] at hw
    exact hw ▸ ⟨List.mem_singleton_self _, hname, rfl⟩

theorem setupVCSSQLReviewCIFiles_eq_ok (h : (setupVCSSQLReviewCIFiles sw repository vcs branch).result = .ok ()) :
    CIFilesWritten sw repository vcs branch.name (setupVCSSQLReviewCIFiles sw repository vcs branch).writes := by
  rcases vcs with ⟨_ | _, instanceURL, applicationID, secret⟩
  · obtain ⟨_, hci, hreview, hw⟩ := Sent.bind_eq_ok h
    obtain ⟨ci, hciw, hci⟩ := createOrUpdateVCSSQLReviewFileForGitLab_eq_ok hci
    obtain ⟨review, hreview, hr⟩ := createOrUpdateVCSSQLReviewFileForGitLab_eq_ok hreview
    exact ⟨ci, review, hw.trans (by rw [hciw, hreview]; rfl), hci, hr⟩
  · exact rfl

end Helpers

/-- A VCS that accepts every request, has no CI file yet, and opens pull
request `pull/1`. -/
def acceptingSetupWorld : SetupWorld where
  plugin _ := ⟨fun _ _ _ _ => .ok ⟨"main", "c0"⟩, fun _ _ _ _ => .ok (), fun _ _ _ _ _ => .ok (),
    fun _ _ _ _ _ => .error (.plain "not found"), fun _ _ _ _ _ => .ok "", fun _ _ _ _ _ => .ok (),
    fun _ _ _ _ _ => .ok (), fun _ _ _ _ => .ok "pull/1"⟩
  externalURL := "bytebase"
  isNotFound _ := true
  githubSetupSQLReviewCI _ := "review"
  gitlabSetupSQLReviewCI _ := "review"
  setupGitLabCI _ := .ok "ci"
  sqlReviewActionFilePath := "review.yml"
  ciFilePath := "ci.yml"
  sqlReviewCIFilePath := "review.yml"
  sqlReviewAPISecretName := "secret"

/-- The shop repository's row in project 1, its CI on. -/
def shopCIRow : RepositoryRow :=
  ⟨1, 1, 1, "shop", "gitlab/shop", "7", "bytebase", "main", "bytebase/migration.sql", "", "ws-1000", "s1", 1, true,
    "token", "refresh"⟩

/-! ## The setup's guarantees -/

/-- **The setup writes only on its own branch.** Whatever the VCS
answers, every request of `setupVCSSQLReviewCI` that changes the external
repository is the creation of the branch `bytebase-vcs-<now>`, the
repository's webhook secret stored under the SQL review secret's name, a
write of one of the VCS type's CI files on that branch, or the pull request
from that branch into the branch filter. -/
theorem setupVCSSQLReviewCI_writes (sw : SetupWorld) (now : Int) (repository : RepositoryRow) (vcs : VCS) :
    ∀ w ∈ (setupVCSSQLReviewCI sw now repository vcs).writes, SetupWrite sw now repository vcs.type w := by
  intro w hw
  rcases Sent.mem_writes_bind hw with hw | ⟨branch, hb, hw⟩
  · obtain ⟨_, rfl⟩ := setupVCSSQLReviewBranch_writes hw
    exact rfl
  have hname : branch.name = sqlReviewBranchName now := by
    obtain ⟨_, -, rfl, -⟩ := setupVCSSQLReviewBranch_eq_ok hb
    rfl
  rcases Sent.mem_writes_bind hw with hw | ⟨_, -, hw⟩
  · simp only [Sent.writes_send, List.mem_singleton] at hw
    subst hw
    exact ⟨rfl, rfl⟩
  rcases Sent.mem_writes_bind hw with hw | ⟨_, -, hw⟩
  · exact setupVCSSQLReviewCIFiles_writes hname hw
  · simp only [Sent.writes_send, List.mem_singleton] at hw
    subst hw
    exact congrArg _ hname

/-- On a GitLab VCS that accepts everything and has no CI file, the setup
for the shop row creates the SQL review job on its branch. -/
theorem setupVCSSQLReviewCI_accepting_review_file :
    VCSWrite.createFile "review.yml" ⟨sqlReviewBranchName 1000, sqlReviewInVCSPRTitle, "review", ""⟩ ∈
        (setupVCSSQLReviewCI acceptingSetupWorld 1000 shopCIRow ⟨.gitLabSelfHost, "gitlab", "app", "app-secret"⟩).writes ∧
      SetupWrite acceptingSetupWorld 1000 shopCIRow .gitLabSelfHost
        (.createFile "review.yml" ⟨sqlReviewBranchName 1000, sqlReviewInVCSPRTitle, "review", ""⟩) :=
  have h : VCSWrite.createFile "review.yml" ⟨sqlReviewBranchName 1000, sqlReviewInVCSPRTitle, "review", ""⟩ ∈
      (setupVCSSQLReviewCI acceptingSetupWorld 1000 shopCIRow ⟨.gitLabSelfHost, "gitlab", "app", "app-secret"⟩).writes := by
    decide
  ⟨h, setupVCSSQLReviewCI_writes _ _ _ _ _ h⟩

/-- **What a successful setup sent.** A setup that answers a pull
request's URL read the branch filter's head, and sent, in this order: the
creation of `bytebase-vcs-<now>` at that head, the webhook secret, the CI
files of the VCS type on the new branch, and the pull request from it into
the branch filter, which the VCS answered with that URL. -/
theorem setupVCSSQLReviewCI_eq_ok (sw : SetupWorld) (now : Int) (repository : RepositoryRow) (vcs : VCS)
    {url : String} (h : (setupVCSSQLReviewCI sw now repository vcs).result = .ok url) :
    ∃ base files, (sw.plugin vcs.type).getBranch (oauthContext repository vcs) vcs.instanceURL
        repository.externalID repository.branchFilter = .ok base ∧
      (setupVCSSQLReviewCI sw now repository vcs).writes =
        .createBranch ⟨sqlReviewBranchName now, base.lastCommitID⟩ ::
          .upsertEnvironmentVariable sw.sqlReviewAPISecretName repository.webhookSecretToken ::
            (files ++ [.createPullRequest (sqlReviewPullRequest repository (sqlReviewBranchName now))]) ∧
      CIFilesWritten sw repository vcs (sqlReviewBranchName now) files ∧
      (sw.plugin vcs.type).createPullRequest (oauthContext repository vcs) vcs.instanceURL repository.externalID
        (sqlReviewPullRequest repository (sqlReviewBranchName now)) = .ok url := by
  obtain ⟨branch, hb, h, hw⟩ := Sent.bind_eq_ok h
  obtain ⟨base, hget, rfl, hbw⟩ := setupVCSSQLReviewBranch_eq_ok hb
  obtain ⟨_, -, h, hw'⟩ := Sent.bind_eq_ok h
  obtain ⟨_, hfiles, h, hw''⟩ := Sent.bind_eq_ok h
  refine ⟨base, _, hget, ?_, setupVCSSQLReviewCIFiles_eq_ok hfiles, h⟩
  exact hw.trans (by rw [hbw]; exact congrArg _ (hw'.trans (congrArg _ hw'')))

/-- On a GitLab VCS that accepts everything, the setup for the shop row
creates its branch, stores the secret, creates both CI files and opens
`pull/1`. -/
theorem setupVCSSQLReviewCI_accepting_gitlab :
    (setupVCSSQLReviewCI acceptingSetupWorld 1000 shopCIRow ⟨.gitLabSelfHost, "gitlab", "app", "app-secret"⟩).result =
        .ok "pull/1" ∧
      ∃ base files, (acceptingSetupWorld.plugin VCSType.gitLabSelfHost).getBranch
          (oauthContext shopCIRow ⟨.gitLabSelfHost, "gitlab", "app", "app-secret"⟩) "gitlab" shopCIRow.externalID
          shopCIRow.branchFilter = .ok base ∧
        (setupVCSSQLReviewCI acceptingSetupWorld 1000 shopCIRow ⟨.gitLabSelfHost, "gitlab", "app", "app-secret"⟩).writes =
          .createBranch ⟨sqlReviewBranchName 1000, base.lastCommitID⟩ ::
            .upsertEnvironmentVariable acceptingSetupWorld.sqlReviewAPISecretName shopCIRow.webhookSecretToken ::
              (files ++ [.createPullRequest (sqlReviewPullRequest shopCIRow (sqlReviewBranchName 1000))]) ∧
        CIFilesWritten acceptingSetupWorld shopCIRow ⟨.gitLabSelfHost, "gitlab", "app", "app-secret"⟩
          (sqlReviewBranchName 1000) files ∧
        (acceptingSetupWorld.plugin VCSType.gitLabSelfHost).createPullRequest
          (oauthContext shopCIRow ⟨.gitLabSelfHost, "gitlab", "app", "app-secret"⟩) "gitlab" shopCIRow.externalID
          (sqlReviewPullRequest shopCIRow (sqlReviewBranchName 1000)) = .ok "pull/1" :=
  have h : (setupVCSSQLReviewCI acceptingSetupWorld 1000 shopCIRow
      ⟨.gitLabSelfHost, "gitlab", "app", "app-secret"⟩).result = .ok "pull/1" := rfl
  ⟨h, setupVCSSQLReviewCI_eq_ok _ _ _ _ h⟩

end Bytebase.Project
