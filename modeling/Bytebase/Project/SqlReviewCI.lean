import Bytebase.Project.Repository
import Bytebase.Project.SqlReviewSetup

/-!
# Project — turning SQL review CI on

`POST /project/:projectID/repository/:repositoryID/sql-review-ci` sets up
SQL review CI on the VCS (a branch, the CI files and a pull request, in
`setupVCSSQLReviewCI`) and then marks the repository row
`EnableSQLReviewCI`. The patch handler refuses to turn the flag on: a
patch that asks for it on a row found with the flag off is rewritten to
keep the flag off. The link handler creates rows with the flag off.

So the flag is only ever turned on by this route after a successful setup
(`interleave_sqlReviewCI`). This holds under every interleaving: a patch
rewrites its request against the row it read, and when it keeps a
request to turn the flag on, the row it read had it on already, so it had
been turned on before.

The setup runs at the shared clock's second, read after the checks as
`time.Now()` is; what it creates on the VCS is outside the shared state,
and `SqlReviewSetup` says what it sends.
-/

namespace Bytebase.Project

open Bytebase.Go Bytebase.Api

/-- What the SQL review CI route reads beyond the repository handlers'
world: the license of the VCS SQL review workflow, and what the VCS setup
reads. -/
structure CIWorld extends RepositoryWorld where
  vcsSQLReviewWorkflow : Bool
  setup : SetupWorld

/-- The patch the route writes: only the flag, on. -/
def enableCIPatch : RepositoryPatch := ⟨none, none, none, none, some true⟩

/-- `POST /project/:projectID/repository/:repositoryID/sql-review-ci`: the
store's `GetRepository` by ID and project (composed with its project and
VCS), the checks, the setup, then the patch; the answer is the pull
request's URL. The 403's text is defined outside these sources. -/
def enableSQLReviewCI (w : CIWorld) (projectID repositoryID : Int) : Proc Shared (Except GoError String) :=
  .query (fun s => (s.links.repositories.find? fun r => r.id == repositoryID && r.projectID == projectID).map
      fun r => (r, s.getProjectByID r.projectID, s.getVCSByID r.vcsID)) fun
  | none =>
    .done (.error (.http 404 ("Cannot found repository " ++ toString repositoryID ++ " in project " ++
      toString projectID)))
  | some (repository, some project, some vcs) =>
    if project.rowStatus = .archived then .done (.error (.http 400 ("Project " ++ toString projectID ++ " is archived")))
    else if !w.vcsSQLReviewWorkflow then
      .done (.error (.http 403 "api.FeatureVCSSQLReviewWorkflow.AccessErrorMessage()"))
    else if repository.enableSQLReviewCI then .done (.error (.http 400 "SQL review CI is already enabled"))
    else .query (·.clock) fun now =>
      match (setupVCSSQLReviewCI w.setup now repository vcs).result with
      | .error _ => .done (.error (.http 500 "Failed to create SQL review CI"))
      | .ok pullRequestURL =>
        .atomic (·.writeLinks (·.patch repository.id enableCIPatch)) fun patched =>
          .done (if patched then .ok pullRequestURL
            else .error (.http 500 ("Failed to update repository: " ++ toString repository.id)))
  | some _ =>
    .done (.error (.http 500 ("Failed to find repository " ++ toString repositoryID ++ " in project " ++
      toString projectID)))

/-- A request to one of the repository routes of `registerProjectRoutes`. -/
inductive ProjectRequest where
  | repository (req : RepositoryRequest)
  | enableSQLReviewCI (projectID repositoryID : Int)
  deriving DecidableEq, Repr

/-- The handler that serves a request; a success answers the pull
request's URL for the CI route and nothing for the others. -/
def serve (w : CIWorld) : ProjectRequest → Proc Shared (Except GoError (Option String))
  | .repository req => (handle w.toRepositoryWorld req).map fun r => r.map fun () => none
  | .enableSQLReviewCI projectID repositoryID => (enableSQLReviewCI w projectID repositoryID).map fun r => r.map some

/-- A world whose validators accept every template, whose VCS has every
branch, answers webhook calls and accepts the SQL review setup, with the
feature licensed. -/
def acceptingCIWorld : CIWorld := { acceptingWorld with vcsSQLReviewWorkflow := true, setup := acceptingSetupWorld }

/-! ## The flag's invariant -/

/-- Every row with SQL review CI on has an ID that `E` allows. -/
def CIWithin (E : Int → Prop) (l : Links) : Prop := ∀ r ∈ l.repositories, r.enableSQLReviewCI = true → E r.id

section

variable {E : Int → Prop} {l : Links}

theorem CIWithin.of_repositories_eq {l' : Links} (h : CIWithin E l) (he : l'.repositories = l.repositories) :
    CIWithin E l' :=
  fun r hr => h r (he ▸ hr)

theorem CIWithin.create (h : CIWithin E l) {row : RepositoryRow} (hrow : row.enableSQLReviewCI = false) :
    CIWithin E (l.create row).1 := by
  unfold Links.create
  split
  · exact h
  intro r hr hci
  rcases List.mem_append.1 hr with hr | hr
  · exact h r hr hci
  · rw [List.mem_singleton.1 hr] at hci
    exact absurd (hrow ▸ hci) Bool.false_ne_true

/-- A patch keeps the invariant when it turns the flag on only for an ID
`E` allows. -/
theorem CIWithin.patch (h : CIWithin E l) {id : Int} {p : RepositoryPatch}
    (hp : p.enableSQLReviewCI = some true → E id) : CIWithin E (l.patch id p).1 := by
  unfold Links.patch
  split
  swap
  · exact h
  intro x hx hci
  obtain ⟨r, hr, rfl⟩ := List.mem_map.1 hx
  by_cases hid : r.id = id
  · rw [if_pos hid] at hci ⊢
    change E r.id
    rcases hpci : p.enableSQLReviewCI with _ | _ | _ <;>
      simp only [RepositoryRow.applyPatch, hpci, Option.getD_none, Option.getD_some] at hci
    · exact h r hr hci
    · exact absurd hci Bool.false_ne_true
    · exact hid ▸ hp hpci
  · rw [if_neg hid] at hci ⊢
    exact h r hr hci

theorem CIWithin.delete (h : CIWithin E l) (projectID : Int) : CIWithin E (l.delete projectID) :=
  fun r hr => h r (List.mem_of_mem_filter hr)

end

@[simp] theorem Shared.createVCSWebhook_repositories (s : Shared) (up : Bool) :
    (s.createVCSWebhook up).1.links.repositories = s.links.repositories := by
  rw [Shared.createVCSWebhook_links]; split <;> rfl

@[simp] theorem Shared.deleteVCSWebhook_repositories (s : Shared) (up : Bool) (id : Nat) :
    (s.deleteVCSWebhook up id).1.links.repositories = s.links.repositories := by
  rw [Shared.deleteVCSWebhook_links]
  split
  · unfold Links.deleteWebhook; split <;> rfl
  · rfl

/-! ## Each handler keeps it -/

section

variable {E : Int → Prop} {w : CIWorld}

/-- The invariant on the shared state. -/
def CIFlagWithin (E : Int → Prop) (s : Shared) : Prop := CIWithin E s.links

theorem createRepository_ciFlag (projectID : Int) {row : RepositoryRow} (hrow : row.enableSQLReviewCI = false) :
    Guards (CIFlagWithin E) (fun _ => True) (createRepository projectID row) :=
  .atomic (fun _ hs => CIWithin.create hs hrow) fun _ _ => .done trivial

theorem linkWebhook_ciFlag (projectID : Int) (create : RepositoryCreate) (vcs : VCS) :
    Guards (CIFlagWithin E) (fun _ => True) (linkWebhook w.toRepositoryWorld projectID create vcs) := by
  unfold linkWebhook
  refine .query fun s _ => ?_
  split
  · exact createRepository_ciFlag _ rfl
  refine .query fun _ _ => .atomic (fun s hs => hs.of_repositories_eq (by simp)) fun s _ => ?_
  split
  · exact .done trivial
  refine .atomic (fun s hs => hs.of_repositories_eq (Shared.createVCSWebhook_repositories ..)) fun s _ => ?_
  split
  · exact .done trivial
  · exact createRepository_ciFlag _ rfl

theorem postRepository_ciFlag (projectID : Int) (create : RepositoryCreate) :
    Guards (CIFlagWithin E) (fun _ => True) (postRepository w.toRepositoryWorld projectID create) := by
  unfold postRepository
  repeat' first
    | exact .done trivial
    | exact linkWebhook_ciFlag _ _ _
    | refine .query fun _ _ => ?_
    | split

/-- The patch a patch handler writes turns the flag on only when the row
it read had it on. -/
theorem patchRow_enableSQLReviewCI (repoPatch : RepositoryPatch) (repo : RepositoryRow)
    (h : (if repoPatch.enableSQLReviewCI == some true && !repo.enableSQLReviewCI then
      { repoPatch with enableSQLReviewCI := some repo.enableSQLReviewCI } else repoPatch).enableSQLReviewCI = some true) :
    repo.enableSQLReviewCI = true := by
  split at h
  · exact Option.some.inj h
  · rename_i hc
    simp_all

theorem patchRow_ciFlag (projectID : Int) (repoPatch : RepositoryPatch) {repo : RepositoryRow}
    (hrepo : repo.enableSQLReviewCI = true → E repo.id) :
    Guards (CIFlagWithin E) (fun _ => True) (patchRow w.toRepositoryWorld projectID repoPatch repo) := by
  unfold patchRow
  dsimp only
  repeat' first
    | exact .done trivial
    | exact .atomic (fun _ hs => CIWithin.patch hs fun h => hrepo (patchRow_enableSQLReviewCI _ _ h))
        fun _ _ => .done trivial
    | refine .query fun _ _ => ?_
    | split

theorem patchRepository_ciFlag (projectID : Int) (repoPatch : RepositoryPatch) :
    Guards (CIFlagWithin E) (fun _ => True) (patchRepository w.toRepositoryWorld projectID repoPatch) := by
  unfold patchRepository
  repeat' first
    | exact .done trivial
    | refine .query fun s hs => ?_
    | exact patchRow_ciFlag _ _ (hs _ (Links.mem_of_findByProjectID_eq ‹_›))
    | split

theorem deleteRepository_ciFlag (projectID : Int) :
    Guards (CIFlagWithin E) (fun _ => True) (deleteRepository w.toRepositoryWorld projectID) := by
  unfold deleteRepository unlinkRow
  repeat' first
    | exact .done trivial
    | refine .query fun _ _ => ?_
    | refine .atomic (fun _ hs => CIWithin.delete hs projectID) fun _ _ => ?_
    | refine .atomic (fun s hs => hs.of_repositories_eq (Shared.deleteVCSWebhook_repositories ..)) fun _ _ => ?_
    | split

/-- The route turns the flag on only for a row it found under the
requested ID and project, after the setup succeeded for that row. -/
theorem enableSQLReviewCI_ciFlag {projectID repositoryID : Int}
    (hE : ∀ row vcs now url, row.id = repositoryID → row.projectID = projectID →
      (setupVCSSQLReviewCI w.setup now row vcs).result = .ok url → E repositoryID) :
    Guards (CIFlagWithin E) (fun _ => True) (enableSQLReviewCI w projectID repositoryID) := by
  unfold enableSQLReviewCI
  refine .query fun s _ => ?_
  rcases hfind : s.links.repositories.find? (fun r => r.id == repositoryID && r.projectID == projectID)
    with _ | repository
  · simp only [hfind, Option.map_none']
    exact .done trivial
  have hkey := List.find?_some hfind
  simp only [Bool.and_eq_true, beq_iff_eq] at hkey
  simp only [hfind, Option.map_some']
  generalize s.getProjectByID repository.projectID = project?
  generalize s.getVCSByID repository.vcsID = vcs?
  rcases project? with _ | project <;> rcases vcs? with _ | vcs
  any_goals exact .done trivial
  dsimp only
  repeat' first
    | exact .done trivial
    | exact .atomic (fun _ hs => CIWithin.patch hs fun _ => hkey.1 ▸ hE _ _ _ _ hkey.1 hkey.2 ‹_›)
        fun _ _ => .done trivial
    | refine .query fun _ _ => ?_
    | split

theorem serve_ciFlag {req : ProjectRequest}
    (hE : ∀ projectID repositoryID, req = .enableSQLReviewCI projectID repositoryID →
      ∀ row vcs now url, row.id = repositoryID → row.projectID = projectID →
        (setupVCSSQLReviewCI w.setup now row vcs).result = .ok url → E repositoryID) :
    Guards (CIFlagWithin E) (fun _ => True) (serve w req) := by
  cases req with
  | repository req =>
    refine Guards.map (Q := fun _ => True) ?_ fun _ _ => trivial
    cases req with
    | link p c => exact postRepository_ciFlag p c
    | patch p rp => exact patchRepository_ciFlag p rp
    | unlink p => exact deleteRepository_ciFlag p
  | enableSQLReviewCI p r => exact (enableSQLReviewCI_ciFlag (hE p r rfl)).map fun _ _ => trivial

end

/-! ## Every interleaving -/

/-- **SQL review CI is turned on only by its route.** For every list of
link, patch, unlink and SQL review CI requests started together, and every
schedule, every row with SQL review CI on had it on, under the same ID,
before the requests started, or was turned on by one of the SQL review
CI requests for its ID, whose VCS setup succeeded, at some second, for a
row of that ID and project. -/
theorem interleave_sqlReviewCI (w : CIWorld) (reqs : List ProjectRequest) (s : Shared) (sched : List Nat) :
    ∀ r ∈ (interleave s (reqs.map (serve w)) sched).1.links.repositories, r.enableSQLReviewCI = true →
      (∃ r0 ∈ s.links.repositories, r0.id = r.id ∧ r0.enableSQLReviewCI = true) ∨
      ∃ projectID, .enableSQLReviewCI projectID r.id ∈ reqs ∧
        ∃ row vcs now url, row.id = r.id ∧ row.projectID = projectID ∧
          (setupVCSSQLReviewCI w.setup now row vcs).result = .ok url := by
  let E : Int → Prop := fun id => (∃ r0 ∈ s.links.repositories, r0.id = id ∧ r0.enableSQLReviewCI = true) ∨
    ∃ projectID, .enableSQLReviewCI projectID id ∈ reqs ∧
      ∃ row vcs now url, row.id = id ∧ row.projectID = projectID ∧
        (setupVCSSQLReviewCI w.setup now row vcs).result = .ok url
  refine (interleave_guards (I := CIFlagWithin E) (Q := fun _ => True) sched s (reqs.map (serve w))
    (fun r0 hr0 hci => .inl ⟨r0, hr0, rfl, hci⟩) fun p hp => ?_).1
  obtain ⟨req, hreq, rfl⟩ := List.mem_map.1 hp
  refine serve_ciFlag fun projectID repositoryID he row vcs now url hid hproj hsetup => .inr ?_
  exact ⟨projectID, he ▸ hreq, row, vcs, now, url, hid, hproj, hsetup⟩

/-- A link of the shop repository to project 1, then SQL review CI on for
its row. -/
def linkThenEnableCI : List ProjectRequest := [.repository (linkShop 1), .enableSQLReviewCI 1 1]

/-- After the link and the CI request, run one after the other, the row's
flag is on, and the CI request for it is why. -/
theorem interleave_sqlReviewCI_link_enable :
    shopCIRow ∈ (interleave twoProjects (linkThenEnableCI.map (serve acceptingCIWorld))
        [0, 0, 0, 0, 0, 0, 0, 1, 1, 1]).1.links.repositories ∧ shopCIRow.enableSQLReviewCI = true ∧
      ((∃ r0 ∈ twoProjects.links.repositories, r0.id = shopCIRow.id ∧ r0.enableSQLReviewCI = true) ∨
        ∃ projectID, .enableSQLReviewCI projectID shopCIRow.id ∈ linkThenEnableCI ∧
          ∃ row vcs now url, row.id = shopCIRow.id ∧ row.projectID = projectID ∧
            (setupVCSSQLReviewCI acceptingCIWorld.setup now row vcs).result = .ok url) := by
  have hmem : shopCIRow ∈ (interleave twoProjects (linkThenEnableCI.map (serve acceptingCIWorld))
      [0, 0, 0, 0, 0, 0, 0, 1, 1, 1]).1.links.repositories := by decide
  exact ⟨hmem, rfl, interleave_sqlReviewCI _ _ _ _ _ hmem rfl⟩

end Bytebase.Project
