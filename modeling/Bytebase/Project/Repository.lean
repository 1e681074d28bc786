import Bytebase.Project.Store
import Bytebase.Go.Path

/-!
# Project — linking, patching and unlinking a repository

The handlers of `POST`, `PATCH` and `DELETE /project/:projectID/repository`
that `registerProjectRoutes` installs, each a `Proc` over the shared store
and VCS: every
store query, store write and VCS call is one step, and the checks between
them are the handler's own computation.

Run alone, one request after another, the handlers keep `Consistent`
(`serial_consistent`): the link handler writes a row only after checking
its branch filter, and copies the webhook of a row with the same WebURL or
provisions a new one when it found none; the patch handler checks the
filter and schema path it will leave on the row it read; the unlink handler
deletes the webhook only when it finds no row of that WebURL left. Each
check and its write are separate steps, so overlapping requests can
invalidate a check before the write it guards.

The payload is taken as decoded: a malformed body, a non-numeric project ID
and a failing store call are not modelled.
-/

namespace Bytebase.Project

open Bytebase.Go Bytebase.Api

/-- The answer of `isBranchNotFound`: the branch exists, is not found, or
the VCS call failed. -/
inductive BranchLookup where
  | found | notFound | failed
  deriving DecidableEq, Repr

/-- What the handlers call that is not among the sources: the template
validators of `api` and `plugin/vcs`, the VCS's branch lookup, whether the
VCS's webhook API answers, and the workspace ID. -/
structure RepositoryWorld where
  workspaceID : String
  isAsterisksInTemplateValid : String → Except GoError Unit
  validateRepositoryFilePathTemplate : String → TenantMode → String → Except GoError Unit
  validateRepositorySchemaPathTemplate : String → TenantMode → Except GoError Unit
  /-- `GetBranch` with the VCS, access and refresh tokens, external ID and
  branch. -/
  getBranch : VCS → String → String → String → String → BranchLookup
  webhookAPIUp : VCS → Bool

/-- `api.RepositoryCreate`: the fields of the link payload. -/
structure RepositoryCreate where
  vcsID : Int
  name : String
  webURL : String
  externalID : String
  baseDirectory : String
  branchFilter : String
  filePathTemplate : String
  schemaPathTemplate : String
  accessToken : String
  refreshToken : String
  deriving DecidableEq, Repr

/-! ## The handlers -/

/-- `isBranchNotFound` and the two errors both handlers return for it, made
only for a filter without a wildcard. -/
def checkBranch (w : RepositoryWorld) (vcs : VCS) (hasWildcard : Bool)
    (accessToken refreshToken externalID branch name : String) : Except GoError Unit :=
  if hasWildcard then .ok ()
  else match w.getBranch vcs accessToken refreshToken externalID branch with
    | .found => .ok ()
    | .notFound => .error (.http 404 ("Branch " ++ quote branch ++ " not found in repository " ++ name ++ "."))
    | .failed => .error (.http 500 ("Failed to get branch " ++ quote branch))

/-- The row the link handler asks `CreateRepository` for; the store sets
its ID. -/
def newRow (projectID : Int) (create : RepositoryCreate) (webhookEndpointID webhookSecretToken : String)
    (externalWebhookID : Nat) : RepositoryRow where
  id := 0
  projectID := projectID
  vcsID := create.vcsID
  name := create.name
  webURL := create.webURL
  externalID := create.externalID
  baseDirectory := trimRune create.baseDirectory '/'
  branchFilter := create.branchFilter
  filePathTemplate := create.filePathTemplate
  schemaPathTemplate := create.schemaPathTemplate
  webhookEndpointID := webhookEndpointID
  webhookSecretToken := webhookSecretToken
  externalWebhookID := externalWebhookID
  enableSQLReviewCI := false
  accessToken := create.accessToken
  refreshToken := create.refreshToken

/-- The link handler's last step: `CreateRepository`. -/
def createRepository (projectID : Int) (row : RepositoryRow) : Proc Shared (Except GoError Unit) :=
  .atomic (·.writeLinks (·.create row)) fun created =>
    .done (if created then .ok () else .error (.http 409 ("Project " ++ toString projectID ++ " has already linked repository")))

/-- The webhook part of the link handler: the first row with the same
WebURL lends its webhook; when there is none, a secret is drawn and the VCS
creates a webhook for the endpoint `workspaceID-unixSeconds`. -/
def linkWebhook (w : RepositoryWorld) (projectID : Int) (create : RepositoryCreate) (vcs : VCS) :
    Proc Shared (Except GoError Unit) :=
  .query (·.links.findByWebURL create.webURL) fun
  | repo :: _ =>
    createRepository projectID
      (newRow projectID create repo.webhookEndpointID repo.webhookSecretToken repo.externalWebhookID)
  | [] =>
    .query (·.clock) fun now =>
    .atomic Shared.randomString fun
    | none => .done (.error (.http 500 "Failed to generate random secret token for VCS"))
    | some secretToken =>
      .atomic (·.createVCSWebhook (w.webhookAPIUp vcs)) fun
      | none => .done (.error (.http 500 ("Failed to create webhook for project ID: " ++ toString projectID)))
      | some webhookID =>
        createRepository projectID (newRow projectID create (w.workspaceID ++ "-" ++ toString now) secretToken webhookID)

/-- `POST /project/:projectID/repository`. -/
def postRepository (w : RepositoryWorld) (projectID : Int) (create : RepositoryCreate) :
    Proc Shared (Except GoError Unit) :=
  if create.branchFilter = "" then .done (.error (.http 400 "Branch must be specified.")) else
  if containsRune create.branchFilter '*' && create.schemaPathTemplate != "" then
    .done (.error (.http 400 "Schema path template is supported only if branch doesn't have wildcard.")) else
  match w.isAsterisksInTemplateValid (pathJoin create.baseDirectory create.filePathTemplate) with
  | .error e =>
    .done (.error (.http 400 (e.wrap (e.wrap "Invalid base directory and filepath template combination").text).text))
  | .ok () =>
    .query (·.getProjectByID projectID) fun
    | none => .done (.error (.http 404 ("Project not found with ID " ++ toString projectID)))
    | some project =>
      match w.validateRepositoryFilePathTemplate create.filePathTemplate project.tenantMode project.dbNameTemplate,
        w.validateRepositorySchemaPathTemplate create.schemaPathTemplate project.tenantMode with
      | .error e, _ => .done (.error (.http 400 ("Malformed create linked repository request: " ++ e.text)))
      | .ok (), .error e => .done (.error (.http 400 ("Malformed create linked repository request: " ++ e.text)))
      | .ok (), .ok () =>
        .query (·.getVCSByID create.vcsID) fun
        | none => .done (.error (.http 404 ("VCS not found with ID: " ++ toString create.vcsID)))
        | some vcs =>
          match checkBranch w vcs (containsRune create.branchFilter '*') create.accessToken create.refreshToken
              create.externalID create.branchFilter create.name with
          | .error e => .done (.error e)
          | .ok () => linkWebhook w projectID create vcs

/-- The patch handler once it has read the project's row: the filter and
schema path the row will have are checked against that row, then only the
patch's own fields are written. -/
def patchRow (w : RepositoryWorld) (projectID : Int) (repoPatch : RepositoryPatch) (repo : RepositoryRow) :
    Proc Shared (Except GoError Unit) :=
  let newSchemaPathTemplate := repoPatch.schemaPathTemplate.getD repo.schemaPathTemplate
  let newBranchFilter := repoPatch.branchFilter.getD repo.branchFilter
  if newBranchFilter = "" then .done (.error (.http 400 "Branch must be specified.")) else
  if containsRune newBranchFilter '*' && newSchemaPathTemplate != "" then
    .done (.error (.http 400 "Schema path template is supported only if branch doesn't have wildcard.")) else
  .query (·.getVCSByID repo.vcsID) fun
  | none => .done (.error (.http 404 ("VCS not found with ID: " ++ toString repo.vcsID)))
  | some vcs =>
    match checkBranch w vcs (containsRune newBranchFilter '*') repo.accessToken repo.refreshToken repo.externalID
        newBranchFilter repo.name with
    | .error e => .done (.error e)
    | .ok () =>
      match w.isAsterisksInTemplateValid (pathJoin (repoPatch.baseDirectory.getD repo.baseDirectory)
          (repoPatch.filePathTemplate.getD repo.filePathTemplate)) with
      | .error e => .done (.error (.http 400 (e.wrap "Invalid base directory and filepath template combination").text))
      | .ok () =>
        let repoPatch := if repoPatch.enableSQLReviewCI == some true && !repo.enableSQLReviewCI then
          { repoPatch with enableSQLReviewCI := some repo.enableSQLReviewCI } else repoPatch
        .atomic (·.writeLinks (·.patch repo.id repoPatch)) fun patched =>
          .done (if patched then .ok ()
            else .error (.http 500 ("Failed to update repository for project ID: " ++ toString projectID)))

/-- `PATCH /project/:projectID/repository`. -/
def patchRepository (w : RepositoryWorld) (projectID : Int) (repoPatch : RepositoryPatch) :
    Proc Shared (Except GoError Unit) :=
  .query (·.getProjectByID projectID) fun
  | none => .done (.error (.http 404 ("Project not found with ID " ++ toString projectID)))
  | some project =>
    match repoPatch.filePathTemplate.map (w.validateRepositoryFilePathTemplate · project.tenantMode project.dbNameTemplate),
      repoPatch.schemaPathTemplate.map (w.validateRepositorySchemaPathTemplate · project.tenantMode) with
    | some (.error e), _ => .done (.error (.http 400 ("Malformed patch linked repository request: " ++ e.text)))
    | _, some (.error e) => .done (.error (.http 400 ("Malformed create linked repository request: " ++ e.text)))
    | _, _ =>
      let repoPatch := { repoPatch with baseDirectory := repoPatch.baseDirectory.map (trimRune · '/') }
      .query (·.links.findByProjectID projectID) fun
      | [] => .done (.error (.http 404 ("Repository not found for project ID: " ++ toString projectID)))
      | [repo] => patchRow w projectID repoPatch repo
      | repoList => .done (.error (.http 500 ("Retrieved " ++ toString repoList.length ++
          " repository list for project ID: " ++ toString projectID ++ ", expect at most 1")))

/-- The unlink handler once it has read the project's row: the row is
deleted, then the webhook too if no row of its WebURL is left. A failed
webhook deletion is only logged. -/
def unlinkRow (w : RepositoryWorld) (projectID : Int) (repo : RepositoryRow) : Proc Shared (Except GoError Unit) :=
  .query (·.getVCSByID repo.vcsID) fun
  | none => .done (.error (.http 404 ("VCS not found with ID: " ++ toString repo.vcsID)))
  | some vcs =>
    .atomic (·.writeLinks fun l => (l.delete projectID, ())) fun _ =>
    .query (·.links.findByWebURL repo.webURL) fun
    | [] => .atomic (·.deleteVCSWebhook (w.webhookAPIUp vcs) repo.externalWebhookID) fun _ => .done (.ok ())
    | _ :: _ => .done (.ok ())

/-- `DELETE /project/:projectID/repository`. -/
def deleteRepository (w : RepositoryWorld) (projectID : Int) : Proc Shared (Except GoError Unit) :=
  .query (·.links.findByProjectID projectID) fun
  | [] => .done (.error (.http 404 ("Repository not found for project ID: " ++ toString projectID)))
  | [repo] => unlinkRow w projectID repo
  | repoList => .done (.error (.http 500 ("Retrieved " ++ toString repoList.length ++
      " repository list for project ID: " ++ toString projectID ++ ", expect at most 1")))

/-- A request to one of the three handlers. -/
inductive RepositoryRequest where
  | link (projectID : Int) (create : RepositoryCreate)
  | patch (projectID : Int) (repoPatch : RepositoryPatch)
  | unlink (projectID : Int)
  deriving DecidableEq, Repr

/-- The handler that serves a request. -/
def handle (w : RepositoryWorld) : RepositoryRequest → Proc Shared (Except GoError Unit)
  | .link projectID create => postRepository w projectID create
  | .patch projectID repoPatch => patchRepository w projectID repoPatch
  | .unlink projectID => deleteRepository w projectID

/-! ## Serial runs keep the invariant -/

@[simp] theorem Links.mem_findByWebURL {l : Links} {u : String} {r : RepositoryRow} :
    r ∈ l.findByWebURL u ↔ r ∈ l.repositories ∧ r.webURL = u := by
  simp [Links.findByWebURL]

@[simp] theorem Links.mem_findByProjectID {l : Links} {p : Int} {r : RepositoryRow} :
    r ∈ l.findByProjectID p ↔ r ∈ l.repositories ∧ r.projectID = p := by
  simp [Links.findByProjectID]

theorem Links.findByWebURL_eq_nil {l : Links} {u : String} (h : l.findByWebURL u = []) :
    ∀ r ∈ l.repositories, r.webURL ≠ u := fun r hr hu =>
  List.not_mem_nil r (h ▸ Links.mem_findByWebURL.2 ⟨hr, hu⟩)

/-- The row a project's lookup found alone is one of the table's. -/
theorem Links.mem_of_findByProjectID_eq {l : Links} {p : Int} {repo : RepositoryRow}
    (h : l.findByProjectID p = [repo]) : repo ∈ l.repositories :=
  (Links.mem_findByProjectID.1 (h ▸ List.mem_singleton_self repo)).1

@[simp] theorem createRepository_links (projectID : Int) (row : RepositoryRow) (s : Shared) :
    ((createRepository projectID row).run s).1.links = (s.links.create row).1 := rfl

theorem branchFilterValid_newRow {p : Int} {c : RepositoryCreate} {e t : String} {n : Nat} :
    BranchFilterValid (newRow p c e t n) ↔
      c.branchFilter ≠ "" ∧ (containsRune c.branchFilter '*' = true → c.schemaPathTemplate = "") := Iff.rfl

section

variable {w : RepositoryWorld} {s : Shared}

theorem linkWebhook_consistent {p : Int} {c : RepositoryCreate} {vcs : VCS} (h : Consistent s.links)
    (hb : c.branchFilter ≠ "" ∧ (containsRune c.branchFilter '*' = true → c.schemaPathTemplate = "")) :
    Consistent ((linkWebhook w p c vcs).run s).1.links := by
  unfold linkWebhook
  simp only [Proc.run_query]
  split
  · rename_i repo rest hfind
    have hrepo : repo ∈ s.links.findByWebURL c.webURL := hfind ▸ List.mem_cons_self _ _
    rw [Links.mem_findByWebURL] at hrepo
    rw [createRepository_links]
    exact h.create (.inl ⟨repo, hrepo.1, hrepo.2.symm, rfl⟩) (branchFilterValid_newRow.2 hb)
  · rename_i hfind
    have hfresh := Links.findByWebURL_eq_nil hfind
    have h1 : Consistent s.randomString.1.links := by rw [Shared.randomString_links]; exact h
    simp only [Proc.run_atomic, Proc.run_query]
    split
    · exact h1
    rw [Proc.run_atomic]
    split
    · rename_i hnone
      simp only [Proc.run_done, Shared.createVCSWebhook_eq_none hnone]
      exact h1
    · rename_i id hsome
      obtain ⟨rfl, hl⟩ := Shared.createVCSWebhook_eq_some hsome
      rw [createRepository_links, hl]
      rw [Shared.randomString_links]
      refine h.createWebhook.create (.inr ⟨?_, fun r hr => ⟨hfresh r hr, fun he => ?_⟩⟩) (branchFilterValid_newRow.2 hb)
      · exact List.mem_append_right _ (List.mem_singleton_self _)
      · have hlt := h.hooks_lt _ (List.mem_append_left _ (h.hook_live r hr))
        exact absurd he (Nat.ne_of_lt hlt)

theorem postRepository_consistent {p : Int} {c : RepositoryCreate} (h : Consistent s.links) :
    Consistent ((postRepository w p c).run s).1.links := by
  unfold postRepository
  split
  · exact h
  split
  · exact h
  rename_i hne hwild
  have hb : c.branchFilter ≠ "" ∧ (containsRune c.branchFilter '*' = true → c.schemaPathTemplate = "") :=
    ⟨hne, fun hc => by simpa [hc] using hwild⟩
  -- every other exit only read the store; the one way on is the webhook part
  repeat' first | exact h | exact linkWebhook_consistent h hb | split | simp only [Proc.run_query]

theorem patchRow_consistent {p : Int} {rp : RepositoryPatch} {repo : RepositoryRow} (h : Consistent s.links)
    (hrepo : repo ∈ s.links.repositories) : Consistent ((patchRow w p rp repo).run s).1.links := by
  unfold patchRow
  dsimp only
  split
  · exact h
  rename_i hne
  split
  · exact h
  rename_i hwild
  simp only [Proc.run_query]
  split
  · exact h
  split
  · exact h
  split
  · exact h
  have hwild' : containsRune (rp.branchFilter.getD repo.branchFilter) '*' = true →
      rp.schemaPathTemplate.getD repo.schemaPathTemplate = "" := by
    intro hc; rw [hc, Bool.true_and] at hwild; simpa using hwild
  refine h.patch fun r hr hid => ?_
  obtain rfl := h.eq_of_id hr hrepo hid
  constructor <;> split
  · exact hne
  · exact hne
  · exact hwild'
  · exact hwild'

theorem patchRepository_consistent {p : Int} {rp : RepositoryPatch} (h : Consistent s.links) :
    Consistent ((patchRepository w p rp).run s).1.links := by
  unfold patchRepository
  -- every exit but the patch of the one row found only read the store
  repeat' first | exact h | exact patchRow_consistent h (Links.mem_of_findByProjectID_eq ‹_›) | split |
    simp only [Proc.run_query]

theorem unlinkRow_consistent {p : Int} {repo : RepositoryRow} (h : Consistent s.links)
    (hrepo : repo ∈ s.links.repositories) : Consistent ((unlinkRow w p repo).run s).1.links := by
  unfold unlinkRow
  simp only [Proc.run_query]
  split
  · exact h
  simp only [Proc.run_atomic, Proc.run_query]
  have hd : Consistent ((s.writeLinks fun l => (l.delete p, ())).1).links := h.delete p
  split
  · rename_i hfind
    simp only [Proc.run_atomic, Proc.run_done, Shared.deleteVCSWebhook_links]
    split
    · refine hd.deleteWebhook fun r hr he => ?_
      have hr0 : r ∈ s.links.repositories := List.mem_of_mem_filter hr
      exact Links.findByWebURL_eq_nil hfind r hr ((h.agree r hr0 repo hrepo).2 he)
    · exact hd
  · exact hd

theorem deleteRepository_consistent {p : Int} (h : Consistent s.links) :
    Consistent ((deleteRepository w p).run s).1.links := by
  unfold deleteRepository
  -- every exit but the unlink of the one row found only read the store
  repeat' first | exact h | exact unlinkRow_consistent h (Links.mem_of_findByProjectID_eq ‹_›) | split |
    simp only [Proc.run_query]

/-- Each handler, run alone, keeps the invariant. -/
theorem handle_consistent (req : RepositoryRequest) (h : Consistent s.links) :
    Consistent ((handle w req).run s).1.links := by
  cases req with
  | link p c => exact postRepository_consistent h
  | patch p rp => exact patchRepository_consistent h
  | unlink p => exact deleteRepository_consistent h

/-- **Serial runs keep the invariant**: requests that run one after another
leave a consistent store consistent. -/
theorem serial_consistent (w : RepositoryWorld) (reqs : List RepositoryRequest) :
    ∀ s : Shared, Consistent s.links → Consistent (serial s (reqs.map (handle w))).links := by
  induction reqs with
  | nil => exact fun _ h => h
  | cons req reqs ih => exact fun s h => ih _ (handle_consistent req h)

end

/-! ## What serial runs guarantee, and what interleavings break -/

/-- Requests that run one after another, from a consistent store, leave the
rows of one WebURL on one webhook and no row on a deleted webhook. -/
theorem serial_webhooksShared (w : RepositoryWorld) (reqs : List RepositoryRequest) (s : Shared)
    (h : Consistent s.links) : WebhooksShared (serial s (reqs.map (handle w))).links :=
  (serial_consistent w reqs s h).webhooksShared

/-- Requests that run one after another, from a consistent store, leave
every branch filter set, and no wildcard filter with a schema path
template. -/
theorem serial_branchFiltersValid (w : RepositoryWorld) (reqs : List RepositoryRequest) (s : Shared)
    (h : Consistent s.links) : BranchFiltersValid (serial s (reqs.map (handle w))).links :=
  (serial_consistent w reqs s h).branch

/-- A world whose validators accept every template, whose VCS has every
branch and answers webhook calls. -/
def acceptingWorld : RepositoryWorld where
  workspaceID := "ws"
  isAsterisksInTemplateValid _ := .ok ()
  validateRepositoryFilePathTemplate _ _ _ := .ok ()
  validateRepositorySchemaPathTemplate _ _ := .ok ()
  getBranch _ _ _ _ _ := .found
  webhookAPIUp _ := true

/-- A store with projects 1 and 2, one GitLab VCS, no linked repository,
at second 1000, with two random strings to draw. -/
def twoProjects : Shared where
  projects := [(1, ⟨"shop", .normal, .disabled, "", .ddl⟩), (2, ⟨"billing", .normal, .disabled, "", .ddl⟩)]
  vcsList := [(1, ⟨.gitLabSelfHost, "gitlab", "app", "app-secret"⟩)]
  links := Links.empty
  clock := 1000
  entropy := ["s1", "s2"]

/-- A link of the repository `gitlab/shop` on branch `main`. -/
def linkShop (projectID : Int) : RepositoryRequest :=
  .link projectID ⟨1, "shop", "gitlab/shop", "7", "bytebase", "main", "bytebase/migration.sql", "", "token", "refresh"⟩

/-- Two interleavings from the empty store. Projects 1 and 2 link
`gitlab/shop` and both query it before either writes: each provisions its
own webhook. Project 1 links it, project 2's link copies its webhook, and
project 1's unlink, finding no other row yet, deletes that webhook before
project 2's row is written. -/
theorem interleaved_links_split_webhooks :
    ¬WebhooksShared (interleave twoProjects ([linkShop 1, linkShop 2].map (handle acceptingWorld))
        [0, 0, 0, 1, 1, 1, 0, 0, 0, 0, 1, 1, 1, 1]).1.links ∧
      ¬WebhooksShared (interleave twoProjects ([linkShop 1, linkShop 2, .unlink 1].map (handle acceptingWorld))
        [0, 0, 0, 0, 0, 0, 0, 1, 1, 1, 2, 2, 2, 2, 2, 1]).1.links := by
  decide

/-- Project 1 links `gitlab/shop` on `main`; then two patches each read the
row before either writes. One sets the filter `release-*`, which its check
passes against the row's empty schema path template; the other sets a
schema path template, which its check passes against the row's `main`. -/
theorem interleaved_patches_combine :
    ¬BranchFiltersValid (interleave twoProjects ([linkShop 1, .patch 1 ⟨none, some "release-*", none, none, none⟩,
        .patch 1 ⟨none, none, none, some "bytebase/schema.sql", none⟩].map (handle acceptingWorld))
        [0, 0, 0, 0, 0, 0, 0, 1, 1, 2, 2, 1, 1, 2, 2]).1.links := by
  decide

end Bytebase.Project
