import Bytebase.Webhook.World
import Bytebase.Go.Path

/-!
# Webhook — which repositories a delivery is for

`filterRepository` takes the repositories registered under a webhook
endpoint, in store order, and keeps those that are not archived, have a
VCS, are the pushed external repository, and pass the handler's filter.
The two push handlers give it the same shape of filter: the payload's
trust check (the GitLab secret-token header, the GitHub HMAC signature),
then `isWebhookEventBranch` on the repository's branch filter
(`pushFilter`).

A filter error is returned at once: the loop stops there, and the
repositories that would have passed are not returned. Besides the store
lookup and the empty endpoint, that happens when the HMAC cannot be
computed, when the pushed ref is not a branch, and when a repository that
reaches the filter carries a branch filter `filepath.Match` rejects as
malformed.
-/

namespace Bytebase.Webhook

open Bytebase.Go Bytebase.Api

/-! ## Branches -/

/-- The prefix of a branch ref. -/
def headsPrefix : String := "refs/heads/"

/-- `parseBranchNameFromRefs(ref)`: the branch a `refs/heads/` ref names. -/
def parseBranchNameFromRefs (ref : String) : Except GoError String :=
  if !hasPrefix ref headsPrefix || headsPrefix.length == ref.length then
    .error (.plain ("unexpected ref name " ++ quote ref ++ " without prefix " ++ quote headsPrefix))
  else .ok ⟨ref.toList.drop headsPrefix.length⟩

/-- `isWebhookEventBranch(pushEventRef, branchFilter)`. The 400 keeps its
format verb: `echo.NewHTTPError` uses only its first message argument. -/
def isWebhookEventBranch (pushEventRef branchFilter : String) : Except GoError Bool :=
  match parseBranchNameFromRefs pushEventRef with
  | .error _ => .error (.http 400 "Invalid ref: %s")
  | .ok branch =>
    match filepathMatch branchFilter branch with
    | .error () => .error (.plain "failed to match branch filter: syntax error in pattern")
    | .ok matched => .ok matched

/-! ## Branch filters without pattern syntax -/

/-- A ref names a branch exactly when it is `refs/heads/` followed by at
least one more rune, and the branch is that rest. -/
theorem parseBranchNameFromRefs_eq_ok {ref branch : String} :
    parseBranchNameFromRefs ref = .ok branch ↔ ref = headsPrefix ++ branch ∧ branch ≠ "" := by
  obtain ⟨r⟩ := ref
  obtain ⟨b⟩ := branch
  simp only [parseBranchNameFromRefs, String.ext_iff, String.data_append, ne_eq]
  by_cases hpre : headsPrefix.data <+: r
  · obtain ⟨t, rfl⟩ := hpre
    have hhas : hasPrefix ⟨headsPrefix.data ++ t⟩ headsPrefix = true :=
      (hasPrefix_iff _ _).2 (List.prefix_append _ _)
    have hcond : (headsPrefix.length == (⟨headsPrefix.data ++ t⟩ : String).length) = t.isEmpty := by
      show (headsPrefix.data.length == (headsPrefix.data ++ t).length) = t.isEmpty
      cases t <;> simp
    have hd : (⟨headsPrefix.data ++ t⟩ : String).toList.drop headsPrefix.length = t := List.drop_left _ _
    simp only [hhas, hcond, hd, Bool.not_true, Bool.false_or, List.append_cancel_left_eq]
    cases t with
    | nil => simp
    | cons c t =>
      simp only [List.isEmpty_cons, Bool.false_eq_true, if_false, Except.ok.injEq, String.ext_iff]
      exact ⟨fun h => ⟨h, h ▸ List.cons_ne_nil _ _⟩, And.left⟩
  · have hhas : hasPrefix ⟨r⟩ headsPrefix = false := Bool.eq_false_iff.2 fun h => hpre ((hasPrefix_iff _ _).1 h)
    simp only [hhas, Bool.not_false, Bool.true_or, if_true]
    exact ⟨nofun, fun ⟨he, _⟩ => absurd (he ▸ List.prefix_append _ _) hpre⟩

/-- A ref that names no branch is an error, whatever the filter. -/
theorem isWebhookEventBranch_eq_error {ref : String} (branchFilter : String)
    (h : ∀ branch, parseBranchNameFromRefs ref ≠ .ok branch) :
    isWebhookEventBranch ref branchFilter = .error (.http 400 "Invalid ref: %s") := by
  unfold isWebhookEventBranch
  split
  · rfl
  · exact absurd ‹_› (h _)

/-- A ref without the `refs/heads/` prefix, or with nothing after it, names
no branch. -/
theorem parseBranchNameFromRefs_ne_ok {ref : String}
    (hno : hasPrefix ref headsPrefix = false ∨ ref = headsPrefix) :
    ∀ branch, parseBranchNameFromRefs ref ≠ .ok branch := fun branch hp => by
  obtain ⟨rfl, hb⟩ := parseBranchNameFromRefs_eq_ok.1 hp
  rcases hno with hno | hno
  · have hhas : hasPrefix (headsPrefix ++ branch) headsPrefix = true :=
      (hasPrefix_iff _ _).2 (List.prefix_append headsPrefix.data branch.data)
    rw [hhas] at hno; cases hno
  · exact hb (by simpa [String.ext_iff] using hno)

/-- For a filter without pattern syntax, a ref that names a branch matches
exactly when the branch is the filter. -/
theorem isWebhookEventBranch_literal {ref branchFilter branch : String} (hf : hasMeta branchFilter = false)
    (hp : parseBranchNameFromRefs ref = .ok branch) :
    isWebhookEventBranch ref branchFilter = .ok (branchFilter == branch) := by
  simp [isWebhookEventBranch, hp, filepathMatch_of_hasMeta_eq_false hf]

/-- **A filter without pattern syntax matches one branch.** For a filter
with none of the runes `filepath.Match` reads as syntax, a push matches
exactly when its ref is `refs/heads/` followed by the filter, which is not
empty, and a ref that names a branch is never an error. A ref without the
prefix, or with nothing after it, is the 400 whatever the filter. -/
theorem isWebhookEventBranch_of_hasMeta_eq_false (ref : String) :
    (∀ branchFilter, hasMeta branchFilter = false →
      (isWebhookEventBranch ref branchFilter = .ok true ↔ ref = headsPrefix ++ branchFilter ∧ branchFilter ≠ "") ∧
      ∀ branch, ref = headsPrefix ++ branch → branch ≠ "" →
        isWebhookEventBranch ref branchFilter = .ok (branchFilter == branch)) ∧
    (hasPrefix ref headsPrefix = false ∨ ref = headsPrefix →
      ∀ branchFilter, isWebhookEventBranch ref branchFilter = .error (.http 400 "Invalid ref: %s")) := by
  refine ⟨fun branchFilter hf => ⟨⟨fun h => ?_, fun ⟨hr, hb⟩ => ?_⟩, fun branch hr hb => ?_⟩,
    fun hno branchFilter => isWebhookEventBranch_eq_error branchFilter (parseBranchNameFromRefs_ne_ok hno)⟩
  · rcases hp : parseBranchNameFromRefs ref with e | branch
    · rw [isWebhookEventBranch_eq_error _ (fun b hb => by rw [hp] at hb; cases hb)] at h; cases h
    · obtain ⟨hr, hb⟩ := parseBranchNameFromRefs_eq_ok.1 hp
      have : branchFilter = branch := by simpa [isWebhookEventBranch_literal hf hp] using h
      exact ⟨this ▸ hr, this ▸ hb⟩
  · simpa using isWebhookEventBranch_literal hf (parseBranchNameFromRefs_eq_ok.2 ⟨hr, hb⟩)
  · exact isWebhookEventBranch_literal hf (parseBranchNameFromRefs_eq_ok.2 ⟨hr, hb⟩)

theorem isWebhookEventBranch_main_release :
    (hasMeta "main" = false ∧
      (isWebhookEventBranch "refs/heads/release" "main" = .ok true ↔
        "refs/heads/release" = headsPrefix ++ "main" ∧ "main" ≠ "") ∧
      ∀ branch, "refs/heads/release" = headsPrefix ++ branch → branch ≠ "" →
        isWebhookEventBranch "refs/heads/release" "main" = .ok ("main" == branch)) ∧
    (hasPrefix "refs/tags/v1" headsPrefix = false ∧
      ∀ branchFilter, isWebhookEventBranch "refs/tags/v1" branchFilter = .error (.http 400 "Invalid ref: %s")) :=
  ⟨⟨by decide, (isWebhookEventBranch_of_hasMeta_eq_false "refs/heads/release").1 "main" (by decide)⟩,
    by decide, (isWebhookEventBranch_of_hasMeta_eq_false "refs/tags/v1").2 (.inl (by decide))⟩

/-- A filter without a star that `filepath.Match` still reads as a pattern:
"v?" matches the branch "v1". -/
theorem isWebhookEventBranch_question_mark_filter :
    containsRune "v?" '*' = false ∧ isWebhookEventBranch "refs/heads/v1" "v?" = .ok true ∧
      "refs/heads/v1" ≠ headsPrefix ++ "v?" := by
  decide

/-! ## The filters of the push handlers -/

/-- The filter both push handlers build: the payload's trust check, then
the branch filter. -/
def pushFilter (trust : Repository → Except GoError Bool) (ref : String) (repo : Repository) :
    Except GoError Bool :=
  match trust repo with
  | .error e => .error e
  | .ok false => .ok false
  | .ok true => isWebhookEventBranch ref repo.branchFilter

/-- `POST /webhook/gitlab/:id`: the `X-Gitlab-Token` header must be the
repository's secret token. -/
def gitlabFilter (token ref : String) : Repository → Except GoError Bool :=
  pushFilter (fun repo => .ok (token == repo.webhookSecretToken)) ref

/-- `validateGitHubWebhookSignature256(signature, key, body)`, over the
HMAC-SHA256 hex digest `hmac key body`, which fails when writing the body
to the hash fails. -/
def validateGitHubWebhookSignature256 (hmac : String → String → Except GoError String)
    (signature key body : String) : Except GoError Bool :=
  (hmac key body).map fun got => trimPrefix signature "sha256=" == got

/-- `POST /webhook/github/:id`: the `X-Hub-Signature-256` header must sign
the body with the repository's secret token. -/
def githubFilter (hmac : String → String → Except GoError String) (signature body ref : String) :
    Repository → Except GoError Bool :=
  pushFilter (fun repo =>
    match validateGitHubWebhookSignature256 hmac signature repo.webhookSecretToken body with
    | .error _ => .error (.http 500 "Failed to validate GitHub webhook signature")
    | .ok ok => .ok ok) ref

/-! ## `filterRepository` -/

/-- The checks `filterRepository` makes before it calls the filter. -/
def reachesFilter (pushEventRepositoryID : String) (repo : Repository) : Bool :=
  repo.project.rowStatus != .archived && repo.vcs.isSome && pushEventRepositoryID == repo.externalID

/-- The loop of `filterRepository`, in store order. -/
def filterLoop (pushEventRepositoryID : String) (filter : Repository → Except GoError Bool) :
    List Repository → Except GoError (List Repository)
  | [] => .ok []
  | repo :: rest =>
    if repo.project.rowStatus = .archived then filterLoop pushEventRepositoryID filter rest
    else if repo.vcs.isNone then filterLoop pushEventRepositoryID filter rest
    else if pushEventRepositoryID ≠ repo.externalID then filterLoop pushEventRepositoryID filter rest
    else match filter repo with
      | .error e => .error e
      | .ok false => filterLoop pushEventRepositoryID filter rest
      | .ok true => (filterLoop pushEventRepositoryID filter rest).map (repo :: ·)

/-- `filterRepository(ctx, webhookEndpointID, pushEventRepositoryID, filter)`. -/
def filterRepository (w : World) (webhookEndpointID pushEventRepositoryID : String)
    (filter : Repository → Except GoError Bool) : Except GoError (List Repository) :=
  match w.findRepository webhookEndpointID with
  | .error _ => .error (.http 500 ("Failed to respond webhook event for endpoint: " ++ webhookEndpointID))
  | .ok [] => .error (.http 404 ("Repository for webhook endpoint " ++ webhookEndpointID ++ " not found"))
  | .ok repos => filterLoop pushEventRepositoryID filter repos

/-! ## What `filterRepository` returns -/

/-- The error of a failed Go call, if it failed. -/
def errorOf {ε α : Type} : Except ε α → Option ε
  | .error e => some e
  | .ok _ => none

@[simp] theorem errorOf_error {ε α : Type} (e : ε) : errorOf (.error e : Except ε α) = some e := rfl

@[simp] theorem errorOf_ok {ε α : Type} (a : α) : errorOf (.ok a : Except ε α) = none := rfl

theorem filterLoop_cons_reach {rid : String} {filter : Repository → Except GoError Bool}
    {r : Repository} (rest : List Repository) (hr : reachesFilter rid r = true) :
    filterLoop rid filter (r :: rest) = match filter r with
      | .error e => .error e
      | .ok false => filterLoop rid filter rest
      | .ok true => (filterLoop rid filter rest).map (r :: ·) := by
  simp only [reachesFilter, Bool.and_eq_true, bne_iff_ne, ne_eq, beq_iff_eq,
    Option.isSome_iff_ne_none] at hr
  simp [filterLoop, hr.1.1, hr.1.2, hr.2]

theorem filterLoop_cons_skip {rid : String} {filter : Repository → Except GoError Bool}
    {r : Repository} (rest : List Repository) (hr : reachesFilter rid r = false) :
    filterLoop rid filter (r :: rest) = filterLoop rid filter rest := by
  simp only [reachesFilter, Bool.and_eq_false_iff, bne_eq_false_iff_eq, Bool.not_eq_true,
    Option.not_isSome, Option.isNone_iff_eq_none, beq_eq_false_iff_ne, ne_eq] at hr
  rcases hr with (h | h) | h <;> simp [filterLoop, h]

/-- The loop stops at the first repository, in store order, that reaches
the filter and makes it fail; otherwise it keeps exactly the repositories
that reach the filter and pass it. -/
theorem filterLoop_eq (rid : String) (filter : Repository → Except GoError Bool) (repos : List Repository) :
    filterLoop rid filter repos =
      match repos.findSome? (fun r => if reachesFilter rid r then errorOf (filter r) else none) with
      | some e => .error e
      | none => .ok (repos.filter fun r => reachesFilter rid r && filter r == .ok true) := by
  induction repos with
  | nil => rfl
  | cons r rest ih =>
    cases hr : reachesFilter rid r
    · simp [filterLoop_cons_skip rest hr, ih, hr]
    · rw [filterLoop_cons_reach rest hr]
      cases hf : filter r with
      | error e => simp [hf, hr]
      | ok b =>
        cases b
        · simp [ih, hf, hr]
        · simp only [ih, List.findSome?_cons, hf, hr, if_true, errorOf_ok, List.filter_cons]
          generalize List.findSome? (fun r => if reachesFilter rid r then errorOf (filter r) else none) rest = o
          cases o <;> rfl

/-- Why the push filter fails on a repository, if it does: the trust
check fails, or the repository is trusted and the pushed ref is not a
branch, or its branch filter is a malformed pattern. -/
def pushFilterError (trust : Repository → Except GoError Bool) (ref : String) (repo : Repository) :
    Option GoError :=
  match trust repo, parseBranchNameFromRefs ref with
  | .error e, _ => some e
  | .ok false, _ => none
  | .ok true, .error _ => some (.http 400 "Invalid ref: %s")
  | .ok true, .ok branch =>
    if filepathMatch repo.branchFilter branch = .error () then
      some (.plain "failed to match branch filter: syntax error in pattern")
    else none

theorem errorOf_pushFilter (trust : Repository → Except GoError Bool) (ref : String) (repo : Repository) :
    errorOf (pushFilter trust ref repo) = pushFilterError trust ref repo := by
  unfold pushFilter pushFilterError isWebhookEventBranch
  rcases trust repo with e | _ | _
  · rfl
  · rfl
  · rcases parseBranchNameFromRefs ref with _ | b
    · rfl
    · cases h : filepathMatch repo.branchFilter b <;> simp [h]

theorem pushFilter_pass (trust : Repository → Except GoError Bool) (ref : String) (repo : Repository) :
    (pushFilter trust ref repo == .ok true) =
      (trust repo == .ok true && isWebhookEventBranch ref repo.branchFilter == .ok true) := by
  unfold pushFilter
  rcases trust repo with e | _ | _ <;> simp

/-- **`filterRepository` on a push.** The store lookup's failure and an
empty endpoint are errors; otherwise the first repository, in store order,
that reaches the filter and makes it fail ends the request with that
failure (`pushFilterError`), whatever the other repositories are; and
when none does, the result is, in store order, exactly the repositories
that are not archived, have a VCS, are the pushed repository, pass the
trust check and whose branch filter matches the pushed branch. -/
theorem filterRepository_push (w : World) (ep rid ref : String) (trust : Repository → Except GoError Bool) :
    filterRepository w ep rid (pushFilter trust ref) =
      match w.findRepository ep with
      | .error _ => .error (.http 500 ("Failed to respond webhook event for endpoint: " ++ ep))
      | .ok [] => .error (.http 404 ("Repository for webhook endpoint " ++ ep ++ " not found"))
      | .ok repos =>
        match repos.findSome? (fun r => if reachesFilter rid r then pushFilterError trust ref r else none) with
        | some e => .error e
        | none => .ok (repos.filter fun r =>
            reachesFilter rid r && trust r == .ok true && isWebhookEventBranch ref r.branchFilter == .ok true) := by
  unfold filterRepository
  rcases w.findRepository ep with e | _ | ⟨r, rest⟩
  · rfl
  · rfl
  · simp only [filterLoop_eq, errorOf_pushFilter, pushFilter_pass, Bool.and_assoc]

/-- What `filterRepository` returns is drawn from the endpoint's
repositories, each reaching the filter and passing it. -/
theorem filterRepository_eq_ok {w : World} {ep rid : String} {filter : Repository → Except GoError Bool}
    {l : List Repository} (h : filterRepository w ep rid filter = .ok l) :
    ∃ repos, w.findRepository ep = .ok repos ∧ ∀ r ∈ l, r ∈ repos ∧ reachesFilter rid r = true ∧ filter r = .ok true := by
  unfold filterRepository at h
  rcases hf : w.findRepository ep with e | _ | ⟨r0, rest⟩ <;> simp only [hf, reduceCtorEq] at h
  rw [filterLoop_eq] at h
  split at h
  · cases h
  cases h
  refine ⟨_, rfl, fun r hr => ?_⟩
  simp only [List.mem_filter, Bool.and_eq_true, beq_iff_eq] at hr
  exact ⟨hr.1, hr.2.1, hr.2.2⟩

theorem pushFilter_eq_ok_true {trust : Repository → Except GoError Bool} {ref : String} {repo : Repository} :
    pushFilter trust ref repo = .ok true ↔ trust repo = .ok true ∧ isWebhookEventBranch ref repo.branchFilter = .ok true := by
  unfold pushFilter
  rcases trust repo with e | _ | _ <;> simp

/-! ## A malformed sibling starves a valid repository -/

/-- A live, non-tenant, imperative project. -/
def liveProject : Project := ⟨"shop", .normal, .disabled, "", .ddl⟩

/-- Repository `id` on endpoint `ep` for external repository `42`, secret
`tok`, with branch filter `f`. -/
def endpointRepo (id : Int) (f : String) : Repository :=
  { id, projectID := id, project := liveProject, vcs := some ⟨.gitLabSelfHost, "", "", ""⟩,
    webURL := "", externalID := "42", baseDirectory := "", branchFilter := f,
    filePathTemplate := "", schemaPathTemplate := "", webhookEndpointID := "ep",
    webhookSecretToken := "tok", enableSQLReviewCI := false, accessToken := "", refreshToken := "" }

/-- Two repositories share endpoint `ep`; the first carries the wildcard
filter `release-[*` (the link handler takes it: it contains `*`, so no
branch lookup is made). A GitLab push to `main`, with the right token, is
refused with the match error, although the second repository passes every
check. -/
theorem filterRepository_malformed_sibling :
    filterRepository { World.quiet with findRepository := fun _ => .ok [endpointRepo 1 "release-[*", endpointRepo 2 "main"] }
        "ep" "42" (gitlabFilter "tok" "refs/heads/main")
      = .error (.plain "failed to match branch filter: syntax error in pattern") ∧
    reachesFilter "42" (endpointRepo 2 "main") = true ∧
    gitlabFilter "tok" "refs/heads/main" (endpointRepo 2 "main") = .ok true := by
  decide

end Bytebase.Webhook
