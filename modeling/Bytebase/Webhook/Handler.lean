import Bytebase.Webhook.Filter
import Bytebase.Webhook.Push
import Bytebase.Webhook.SqlReview
import Bytebase.Webhook.Report

/-!
# Webhook — the routes

The three routes `registerWebhookRoutes` installs, end to end.

The two push routes share their tail (`handlePushEvent`): `filterRepository`
with the route's filter, a 200 `OK` for a delivery that reaches no
repository, the push converted to a `vcs.PushEvent`, and
`processPushEvent`, whose creation messages, one per line, are the
answer. Before it they differ: the GitLab route refuses a payload whose
`object_kind` is not `push`; the GitHub route answers a `ping` and
refuses any other event than `push`; and only GitLab's conversion can
fail.

The result: a push request writes only inside the projects of the
repositories it authenticated for. Each such repository is registered
under the route's endpoint, is live, has a VCS and is the pushed
repository; the request carries its secret (`X-Gitlab-Token`) or signed
the body with it (`X-Hub-Signature-256`); and its branch filter matches
the pushed ref (`gitlabWebhook_spec`, `githubWebhook_spec`).

The SQL review route reviews a pull request's files for the repositories
whose SQL review CI is on, whose WebURL starts with the request's and
whose secret is the `X-SQL-Review-Token` header; in dev mode the
workspace ID passes as well. A request that authenticates for none of
them is not refused: it is answered as a review that found nothing
(`sqlReviewWebhook_unauthenticated`).

Request bodies are taken as decoded: a body that cannot be read or
parsed is the route's 400 and is not modelled.
-/

namespace Bytebase.Webhook

open Bytebase.Go Bytebase.Api

/-! ## The push routes -/

/-- The tail both push routes share, from `filterRepository` on: the
repositories of the endpoint that are the pushed repository and pass
`filter`; a 200 `OK` when there are none; then the push as `toVCS`
converts it (its error is the answer), handed to `processPushEvent`,
whose creation messages, one per line, are the answer. -/
def handlePushEvent (w : World) (order : RangeOrder) (sortSlice : SortSlice)
    (webhookEndpointID repositoryID : String) (filter : Repository → Except GoError Bool)
    (toVCS : Except GoError PushEvent) : Run (Except GoError String) :=
  match filterRepository w webhookEndpointID repositoryID filter with
  | .error e => pure (.error e)
  | .ok [] => pure (.ok "OK")
  | .ok repositoryList =>
    match toVCS with
    | .error e => pure (.error e)
    | .ok baseVCSPushEvent => do
      match ← processPushEvent w order sortSlice repositoryList baseVCSPushEvent with
      | .error e => return .error e
      | .ok createdMessages => return .ok (join createdMessages "\n")

/-- `gitlab.WebhookPushEvent`: the fields the route reads, and what its
`ToVCS()` makes of the payload, the push with its commits or the
conversion's error. -/
structure GitLabPushEvent where
  objectKind : String
  projectID : Int
  ref : String
  toVCS : Except GoError PushEvent

/-- `gitlab.WebhookPush`. -/
def gitlabWebhookPush : String := "push"

/-- `POST /webhook/gitlab/:id` for the endpoint `id`, with the
`X-Gitlab-Token` header `token`. The repository ID is the GitLab
project's, printed by `%v`. -/
def gitlabWebhook (w : World) (order : RangeOrder) (sortSlice : SortSlice) (id token : String)
    (pushEvent : GitLabPushEvent) : Run (Except GoError String) :=
  if pushEvent.objectKind ≠ gitlabWebhookPush then
    pure (.error (.http 400 ("Invalid webhook event type, got " ++ pushEvent.objectKind ++ ", want push")))
  else
    handlePushEvent w order sortSlice id (toString pushEvent.projectID) (gitlabFilter token pushEvent.ref)
      (pushEvent.toVCS.mapError fun _ => .http 500 "Failed to convert GitLab commits")

/-- `github.WebhookPushEvent`: the fields the route reads, and its
`ToVCS()`, which cannot fail. -/
structure GitHubPushEvent where
  repositoryFullName : String
  ref : String
  toVCS : PushEvent

/-- `github.WebhookPing`. -/
def githubWebhookPing : String := "ping"

/-- `github.WebhookPush`. -/
def githubWebhookPush : String := "push"

/-- `POST /webhook/github/:id` for the endpoint `id`, with the headers
`X-GitHub-Event` (`eventType`) and `X-Hub-Signature-256` (`signature`),
the raw `body`, and the push event decoded from it. -/
def githubWebhook (w : World) (order : RangeOrder) (sortSlice : SortSlice) (hmac : String → String → Except GoError String)
    (id eventType signature body : String) (pushEvent : GitHubPushEvent) : Run (Except GoError String) :=
  if eventType = githubWebhookPing then pure (.ok "OK")
  else if eventType ≠ githubWebhookPush then
    pure (.error (.http 400 ("Invalid webhook event type, got " ++ eventType ++ ", want " ++ githubWebhookPush)))
  else
    handlePushEvent w order sortSlice id pushEvent.repositoryFullName (githubFilter hmac signature body pushEvent.ref)
      (.ok pushEvent.toVCS)

/-! ## What a push route writes -/

/-- The shared tail writes only into the projects of repositories of the
endpoint that reach the filter as the pushed repository and pass it. -/
theorem handlePushEvent_spec (w : World) (order : RangeOrder) (sortSlice : SortSlice) (ep rid : String)
    (filter : Repository → Except GoError Bool) (toVCS : Except GoError PushEvent) :
    (handlePushEvent w order sortSlice ep rid filter toVCS).Spec (fun e => ∃ repos, w.findRepository ep = .ok repos ∧
      ∃ repo ∈ repos, reachesFilter rid repo = true ∧ filter repo = .ok true ∧ e.InProject w repo.projectID)
      fun _ => True := by
  unfold handlePushEvent
  rcases hf : filterRepository w ep rid filter with e | _ | ⟨r, rest⟩
  · exact Run.spec_pure trivial
  · exact Run.spec_pure trivial
  obtain ⟨repos, hrepos, hmem⟩ := filterRepository_eq_ok hf
  rcases toVCS with e | pe
  · exact Run.spec_pure trivial
  refine ((processPushEvent_spec order _).mono (fun e he => ?_) fun _ h => h).bind fun res _ => ?_
  · obtain ⟨repo, hrepo, he⟩ := he
    obtain ⟨hin, hreach, hpass⟩ := hmem repo hrepo
    exact ⟨repos, hrepos, repo, hin, hreach, hpass, he⟩
  · split <;> exact Run.spec_pure trivial

/-- **A GitLab push writes only where it authenticated.** For every world
and every order of the map loops and of `sort.Slice`, every issue,
activity and task patch the GitLab route writes is inside the project of
a repository registered under the endpoint that is live, has a VCS, is
the pushed GitLab project, has the request's `X-Gitlab-Token` as its
secret, and whose branch filter matches the pushed ref. -/
theorem gitlabWebhook_spec (w : World) (order : RangeOrder) (sortSlice : SortSlice) (id token : String)
    (pushEvent : GitLabPushEvent) :
    (gitlabWebhook w order sortSlice id token pushEvent).Spec (fun e => ∃ repos, w.findRepository id = .ok repos ∧
      ∃ repo ∈ repos, reachesFilter (toString pushEvent.projectID) repo = true ∧ repo.webhookSecretToken = token ∧
        isWebhookEventBranch pushEvent.ref repo.branchFilter = .ok true ∧ e.InProject w repo.projectID)
      fun _ => True := by
  unfold gitlabWebhook
  split
  · exact Run.spec_pure trivial
  refine (handlePushEvent_spec w order sortSlice _ _ _ _).mono (fun e he => ?_) fun _ h => h
  obtain ⟨repos, hrepos, repo, hin, hreach, hpass, he⟩ := he
  obtain ⟨htrust, hbranch⟩ := pushFilter_eq_ok_true.1 hpass
  refine ⟨repos, hrepos, repo, hin, hreach, ?_, hbranch, he⟩
  exact (beq_iff_eq.1 (Except.ok.inj htrust)).symm

/-- **A GitHub push writes only where it authenticated.** For every world,
every HMAC and every order of the map loops and of `sort.Slice`, every
issue, activity and task patch the GitHub route writes is inside the
project of a repository registered under the endpoint that is live, has
a VCS, is the pushed GitHub repository, whose secret signs the body with
the request's `X-Hub-Signature-256`, and whose branch filter matches the
pushed ref; a `ping` writes nothing. -/
theorem githubWebhook_spec (w : World) (order : RangeOrder) (sortSlice : SortSlice)
    (hmac : String → String → Except GoError String) (id eventType signature body : String)
    (pushEvent : GitHubPushEvent) :
    (githubWebhook w order sortSlice hmac id eventType signature body pushEvent).Spec
      (fun e => eventType ≠ githubWebhookPing ∧ ∃ repos, w.findRepository id = .ok repos ∧
        ∃ repo ∈ repos, reachesFilter pushEvent.repositoryFullName repo = true ∧
          validateGitHubWebhookSignature256 hmac signature repo.webhookSecretToken body = .ok true ∧
          isWebhookEventBranch pushEvent.ref repo.branchFilter = .ok true ∧ e.InProject w repo.projectID)
      fun _ => True := by
  unfold githubWebhook
  split
  · exact Run.spec_pure trivial
  rename_i hping
  split
  · exact Run.spec_pure trivial
  refine (handlePushEvent_spec w order sortSlice _ _ _ _).mono (fun e he => ?_) fun _ h => h
  obtain ⟨repos, hrepos, repo, hin, hreach, hpass, he⟩ := he
  obtain ⟨htrust, hbranch⟩ := pushFilter_eq_ok_true.1 hpass
  refine ⟨hping, repos, hrepos, repo, hin, hreach, ?_, hbranch, he⟩
  split at htrust <;> simp_all

/-! ## The SQL review route -/

/-- `api.VCSSQLReviewRequest`. -/
structure VCSSQLReviewRequest where
  repositoryID : String
  pullRequestID : String
  webURL : String
  deriving DecidableEq, Repr

/-- What the SQL review route reads of the server beyond the `World`: the
workspace ID, whether it runs in dev mode, and the VCS's
`ListPullRequestFile` through a repository, for an external repository
and a pull request. -/
structure ReviewServer where
  workspaceID : String
  devMode : Bool
  listPullRequestFile : Repository → String → String → Except GoError (List PullRequestFile)

/-- The route's filter, for the `X-SQL-Review-Token` header `token`. -/
def sqlReviewFilter (s : ReviewServer) (token : String) (request : VCSSQLReviewRequest) (repo : Repository) :
    Except GoError Bool :=
  if !repo.enableSQLReviewCI then .ok false
  else if !hasPrefix repo.webURL request.webURL then .ok false
  else if token == s.workspaceID && s.devMode then .ok true
  else .ok (token == repo.webhookSecretToken)

/-- The order `wg.Wait()` sees the goroutines' map writes in: some
permutation of the goroutines. -/
structure WaitOrder where
  order : List FileInfo → List FileInfo
  perm : ∀ l, (order l).Perm l

/-- `POST /webhook/sql-review/:id` for the endpoint `id`, with the
`X-SQL-Review-Token` header `token`: the answer, or the panic that ended
the process. The pull request's files are listed through the first
repository that passed, whose VCS also chooses the answer's format. -/
def sqlReviewWebhook (w : World) (s : ReviewServer) (wait : WaitOrder) (id token : String)
    (request : VCSSQLReviewRequest) : Except String (Except GoError VCSSQLReviewResult) :=
  match filterRepository w id request.repositoryID (sqlReviewFilter s token request) with
  | .error e => .ok (.error e)
  | .ok [] => .ok (.ok ⟨statusSuccess, []⟩)
  | .ok (repo :: rest) =>
    match repo.vcs with
    | none => .error ("runtime error: " ++ nilDereference)
    | some vcs =>
      match s.listPullRequestFile repo request.repositoryID request.pullRequestID with
      | .error _ => .ok (.error (.http 500 "Failed to list pull request file"))
      | .ok prFiles =>
        (adviceMapAfterWait w GoMap.empty (wait.order (reviewTasks w (repo :: rest) prFiles))).map fun sqlCheckAdvice =>
          .ok (match vcs.type with
            | .gitHubCom => convertSQLAdiceToGitHubActionResult sqlCheckAdvice
            | .gitLabSelfHost => convertSQLAdviceToGitLabCIResult sqlCheckAdvice)

/-- The filter never fails; it passes a repository exactly when its SQL
review CI is on, its WebURL starts with the request's, and the token is
its secret or, in dev mode, the workspace ID. -/
theorem sqlReviewFilter_eq (s : ReviewServer) (token : String) (request : VCSSQLReviewRequest) (repo : Repository) :
    sqlReviewFilter s token request repo = .ok (repo.enableSQLReviewCI && hasPrefix repo.webURL request.webURL &&
      (token == s.workspaceID && s.devMode || token == repo.webhookSecretToken)) := by
  unfold sqlReviewFilter
  cases repo.enableSQLReviewCI <;> cases hasPrefix repo.webURL request.webURL <;>
    cases token == s.workspaceID && s.devMode <;> rfl

/-- **An unauthenticated review passes.** When the endpoint has
repositories but, of those that are the requested repository, none has
its SQL review CI on with a WebURL starting with the request's and the
request's token as its secret (nor, in dev mode, the workspace ID as
token), the route does not refuse the request: whatever the VCS would
list, it answers a successful review with no content. -/
theorem sqlReviewWebhook_unauthenticated (w : World) (s : ReviewServer) (wait : WaitOrder) (id token : String)
    (request : VCSSQLReviewRequest) {repos : List Repository} (hrepos : w.findRepository id = .ok repos)
    (hne : repos ≠ [])
    (hnone : ∀ repo ∈ repos, reachesFilter request.repositoryID repo = true → repo.enableSQLReviewCI = true →
      hasPrefix repo.webURL request.webURL = true →
        (s.devMode = true → token ≠ s.workspaceID) ∧ token ≠ repo.webhookSecretToken) :
    sqlReviewWebhook w s wait id token request = .ok (.ok ⟨statusSuccess, []⟩) := by
  have hfilter : filterRepository w id request.repositoryID (sqlReviewFilter s token request) = .ok [] := by
    obtain ⟨r, rest, rfl⟩ := List.exists_cons_of_ne_nil hne
    simp only [filterRepository, hrepos, filterLoop_eq, sqlReviewFilter_eq, errorOf_ok, ite_self,
      List.findSome?_eq_none_iff.2 (fun _ _ => rfl), Except.ok.injEq, List.filter_eq_nil_iff]
    intro repo hrepo
    cases hreach : reachesFilter request.repositoryID repo
    · simp
    cases hci : repo.enableSQLReviewCI
    · simp
    cases hpre : hasPrefix repo.webURL request.webURL
    · simp
    obtain ⟨hdev, hsec⟩ := hnone repo hrepo hreach hci hpre
    cases hd : s.devMode
    · simp [hsec]
    · simp [hsec, hdev hd]
  simp [sqlReviewWebhook, hfilter]

/-- The endpoint `ep` of `reviewRepo`, whose secret is `tok`. -/
def reviewEndpointWorld : World := { reviewWorld with findRepository := fun _ => .ok [reviewRepo] }

/-- A server outside dev mode whose VCS lists one file for every pull
request. -/
def reviewServer : ReviewServer := ⟨"ws", false, fun _ _ _ => .ok [⟨"a.sql", "c1", false⟩]⟩

/-- A request for `reviewRepo` with the wrong token. -/
theorem sqlReviewWebhook_wrong_token :
    reviewEndpointWorld.findRepository "ep" = .ok [reviewRepo] ∧ [reviewRepo] ≠ [] ∧
      (∀ repo ∈ [reviewRepo], reachesFilter "42" repo = true → repo.enableSQLReviewCI = true →
        hasPrefix repo.webURL "" = true →
          (reviewServer.devMode = true → "wrong" ≠ reviewServer.workspaceID) ∧ "wrong" ≠ repo.webhookSecretToken) ∧
      sqlReviewWebhook reviewEndpointWorld reviewServer ⟨id, fun _ => .refl _⟩ "ep" "wrong" ⟨"42", "1", ""⟩ =
        .ok (.ok ⟨statusSuccess, []⟩) := by
  have hnone : ∀ repo ∈ [reviewRepo], reachesFilter "42" repo = true → repo.enableSQLReviewCI = true →
      hasPrefix repo.webURL "" = true →
        (reviewServer.devMode = true → "wrong" ≠ reviewServer.workspaceID) ∧ "wrong" ≠ repo.webhookSecretToken := by
    decide
  exact ⟨rfl, List.cons_ne_nil _ _, hnone,
    sqlReviewWebhook_unauthenticated _ _ _ _ _ ⟨"42", "1", ""⟩ rfl (List.cons_ne_nil _ _) hnone⟩

end Bytebase.Webhook
