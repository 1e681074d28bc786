import Bytebase.Api
import Bytebase.Go.Proc

/-!
# Project — linked repositories and their webhooks

What the repository handlers of `registerProjectRoutes` share: the rows of the
`repository` table, which link a project to a VCS repository, and the
webhooks the VCS holds for those repositories. All projects that link one
VCS repository are meant to share its one webhook: the link handler copies
the webhook of a row with the same WebURL, and the unlink handler deletes
the webhook only when no row of that WebURL is left.

Each store call and each VCS call is one atomic operation here. The store's
`repository` table gives every row a fresh ID and holds at most one row per
project (its `UNIQUE` constraint on `project_id`); the VCS numbers its
webhooks, and Go keeps that number as a string.

`Consistent` is the invariant serial runs keep (`Bytebase.Project.Repository`
proves it); each store and VCS operation below has its lemma saying under
what condition it keeps `Consistent`.
-/

namespace Bytebase.Project

open Bytebase.Go Bytebase.Api

/-- A row of the `repository` table: the fields the handlers read or
write. -/
structure RepositoryRow where
  id : Int
  projectID : Int
  vcsID : Int
  name : String
  webURL : String
  externalID : String
  baseDirectory : String
  branchFilter : String
  filePathTemplate : String
  schemaPathTemplate : String
  webhookEndpointID : String
  webhookSecretToken : String
  externalWebhookID : Nat
  enableSQLReviewCI : Bool
  accessToken : String
  refreshToken : String
  deriving DecidableEq, Repr

/-- The webhook a row is served through: its endpoint, its secret and the
VCS's ID for it. -/
def RepositoryRow.webhook (r : RepositoryRow) : String × String × Nat :=
  (r.webhookEndpointID, r.webhookSecretToken, r.externalWebhookID)

/-- `api.RepositoryPatch`: the fields a patch request may set. -/
structure RepositoryPatch where
  baseDirectory : Option String
  branchFilter : Option String
  filePathTemplate : Option String
  schemaPathTemplate : Option String
  enableSQLReviewCI : Option Bool
  deriving DecidableEq, Repr

/-- A row with a patch's set fields written over it. -/
def RepositoryRow.applyPatch (r : RepositoryRow) (patch : RepositoryPatch) : RepositoryRow :=
  { r with
    baseDirectory := patch.baseDirectory.getD r.baseDirectory
    branchFilter := patch.branchFilter.getD r.branchFilter
    filePathTemplate := patch.filePathTemplate.getD r.filePathTemplate
    schemaPathTemplate := patch.schemaPathTemplate.getD r.schemaPathTemplate
    enableSQLReviewCI := patch.enableSQLReviewCI.getD r.enableSQLReviewCI }

/-- The rows of the `repository` table and the VCS's webhooks: the live
ones, the ones an unlink has deleted, and the next number. -/
structure Links where
  repositories : List RepositoryRow
  nextRepositoryID : Int
  hooks : List Nat
  deletedHooks : List Nat
  nextHookID : Nat
  deriving DecidableEq, Repr

/-- Everything concurrent requests share: the store's projects, VCS
configurations and repository rows, the VCS's webhooks, the clock and the
random source. -/
structure Shared where
  projects : List (Int × Project)
  vcsList : List (Int × VCS)
  links : Links
  clock : Int
  entropy : List String
  deriving DecidableEq, Repr

/-! ## Store and VCS operations -/

namespace Links

/-- `FindRepository` by WebURL, in row order. -/
def findByWebURL (l : Links) (webURL : String) : List RepositoryRow :=
  l.repositories.filter (·.webURL == webURL)

/-- `FindRepository` by project. -/
def findByProjectID (l : Links) (projectID : Int) : List RepositoryRow :=
  l.repositories.filter (·.projectID == projectID)

/-- `CreateRepository`: the row under a fresh ID; `false` (a conflict) when
its project already has a row. -/
def create (l : Links) (row : RepositoryRow) : Links × Bool :=
  if l.repositories.any (·.projectID == row.projectID) then (l, false)
  else ({ l with repositories := l.repositories ++ [{ row with id := l.nextRepositoryID }],
                 nextRepositoryID := l.nextRepositoryID + 1 }, true)

/-- `PatchRepository`: the patch written over the row of that ID; `false`
when there is none. -/
def patch (l : Links) (id : Int) (p : RepositoryPatch) : Links × Bool :=
  if l.repositories.any (·.id == id) then
    ({ l with repositories := l.repositories.map fun r => if r.id = id then r.applyPatch p else r }, true)
  else (l, false)

/-- `DeleteRepository`: the project's rows removed. -/
def delete (l : Links) (projectID : Int) : Links :=
  { l with repositories := l.repositories.filter (·.projectID != projectID) }

/-- The VCS creates a webhook under its next number. -/
def createWebhook (l : Links) : Links × Nat :=
  ({ l with hooks := l.hooks ++ [l.nextHookID], nextHookID := l.nextHookID + 1 }, l.nextHookID)

/-- The VCS deletes a live webhook; `false` when there is none of that
number. -/
def deleteWebhook (l : Links) (id : Nat) : Links × Bool :=
  if id ∈ l.hooks then ({ l with hooks := l.hooks.filter (· != id), deletedHooks := l.deletedHooks ++ [id] }, true)
  else (l, false)

end Links

namespace Shared

/-- `GetProjectByID`. -/
def getProjectByID (s : Shared) (id : Int) : Option Project := s.projects.lookup id

/-- `GetVCSByID`. -/
def getVCSByID (s : Shared) (id : Int) : Option VCS := s.vcsList.lookup id

/-- `common.RandomString`: the next random string, or an error when the
random source fails. -/
def randomString (s : Shared) : Shared × Option String :=
  match s.entropy with
  | r :: rest => ({ s with entropy := rest }, some r)
  | [] => (s, none)

/-- The VCS's create-webhook call, which fails when its API is not
reachable (`up = false`). -/
def createVCSWebhook (s : Shared) (up : Bool) : Shared × Option Nat :=
  if up then ({ s with links := s.links.createWebhook.1 }, some s.links.createWebhook.2) else (s, none)

/-- The VCS's delete-webhook call; `false` on any failure. -/
def deleteVCSWebhook (s : Shared) (up : Bool) (id : Nat) : Shared × Bool :=
  if up then ({ s with links := (s.links.deleteWebhook id).1 }, (s.links.deleteWebhook id).2) else (s, false)

/-- A store write on the repository rows. -/
def writeLinks (s : Shared) (f : Links → Links × β) : Shared × β :=
  ({ s with links := (f s.links).1 }, (f s.links).2)

@[simp] theorem randomString_links (s : Shared) : s.randomString.1.links = s.links := by
  unfold randomString; split <;> rfl

@[simp] theorem createVCSWebhook_links (s : Shared) (up : Bool) :
    (s.createVCSWebhook up).1.links = if up then s.links.createWebhook.1 else s.links := by
  unfold createVCSWebhook; split <;> rfl

theorem createVCSWebhook_eq_some {s : Shared} {up : Bool} {id : Nat} (h : (s.createVCSWebhook up).2 = some id) :
    id = s.links.nextHookID ∧ (s.createVCSWebhook up).1.links = s.links.createWebhook.1 := by
  cases up
  · cases h
  · exact ⟨(Option.some.inj h).symm, rfl⟩

theorem createVCSWebhook_eq_none {s : Shared} {up : Bool} (h : (s.createVCSWebhook up).2 = none) :
    (s.createVCSWebhook up).1.links = s.links := by
  cases up
  · rfl
  · cases h

@[simp] theorem deleteVCSWebhook_links (s : Shared) (up : Bool) (id : Nat) :
    (s.deleteVCSWebhook up id).1.links = if up then (s.links.deleteWebhook id).1 else s.links := by
  unfold deleteVCSWebhook; split <;> rfl

@[simp] theorem writeLinks_links (s : Shared) (f : Links → Links × β) : (s.writeLinks f).1.links = (f s.links).1 := rfl

end Shared

/-! ## The invariant -/

/-- Two rows agree on their webhook: one WebURL means one webhook, and one
VCS webhook one WebURL. -/
def Agree (r r' : RepositoryRow) : Prop :=
  (r.webURL = r'.webURL → r.webhook = r'.webhook) ∧ (r.externalWebhookID = r'.externalWebhookID → r.webURL = r'.webURL)

/-- A branch filter is set, and a wildcard one comes without a schema path
template (the link and patch handlers' checks). -/
def BranchFilterValid (r : RepositoryRow) : Prop :=
  r.branchFilter ≠ "" ∧ (containsRune r.branchFilter '*' = true → r.schemaPathTemplate = "")

instance : DecidablePred BranchFilterValid := fun r =>
  inferInstanceAs (Decidable (r.branchFilter ≠ "" ∧ (containsRune r.branchFilter '*' = true → r.schemaPathTemplate = "")))

/-- Every row's branch filter is valid. -/
def BranchFiltersValid (l : Links) : Prop := ∀ r ∈ l.repositories, BranchFilterValid r

instance : DecidablePred BranchFiltersValid := fun l =>
  inferInstanceAs (Decidable (∀ r ∈ l.repositories, BranchFilterValid r))

/-- The rows of one WebURL share one webhook, and no row names a webhook
an unlink has deleted. -/
def WebhooksShared (l : Links) : Prop :=
  (∀ r ∈ l.repositories, ∀ r' ∈ l.repositories, r.webURL = r'.webURL → r.webhook = r'.webhook) ∧
    ∀ r ∈ l.repositories, r.externalWebhookID ∉ l.deletedHooks

instance : DecidablePred WebhooksShared := fun l =>
  inferInstanceAs (Decidable ((∀ r ∈ l.repositories, ∀ r' ∈ l.repositories, r.webURL = r'.webURL → r.webhook = r'.webhook) ∧
    ∀ r ∈ l.repositories, r.externalWebhookID ∉ l.deletedHooks))

/-- What serial runs keep: fresh, distinct row IDs; webhook numbers below
the next one, live ones never deleted; every row's webhook live; rows agree
on their webhooks; branch filters valid. -/
structure Consistent (l : Links) : Prop where
  ids_lt : ∀ r ∈ l.repositories, r.id < l.nextRepositoryID
  ids_nodup : (l.repositories.map (·.id)).Nodup
  hooks_lt : ∀ h ∈ l.hooks ++ l.deletedHooks, h < l.nextHookID
  live_not_deleted : ∀ h ∈ l.hooks, h ∉ l.deletedHooks
  hook_live : ∀ r ∈ l.repositories, r.externalWebhookID ∈ l.hooks
  agree : ∀ r ∈ l.repositories, ∀ r' ∈ l.repositories, Agree r r'
  branch : BranchFiltersValid l

/-- No row and no webhook yet. -/
def Links.empty : Links := ⟨[], 1, [], [], 1⟩

theorem consistent_empty : Consistent Links.empty :=
  ⟨nofun, List.nodup_nil, nofun, nofun, nofun, nofun, nofun⟩

theorem Agree.refl (r : RepositoryRow) : Agree r r := ⟨fun _ => rfl, fun _ => rfl⟩

theorem Agree.symm {r r' : RepositoryRow} (h : Agree r r') : Agree r' r :=
  ⟨fun hu => (h.1 hu.symm).symm, fun hw => (h.2 hw.symm).symm⟩

/-- Rows with the WebURLs and webhooks of two agreeing rows agree. -/
theorem Agree.congr {r r' x y : RepositoryRow} (h : Agree r r') (hu : x.webURL = r.webURL)
    (hw : x.webhook = r.webhook) (hu' : y.webURL = r'.webURL) (hw' : y.webhook = r'.webhook) : Agree x y := by
  have hid : x.externalWebhookID = r.externalWebhookID := congrArg (·.2.2) hw
  have hid' : y.externalWebhookID = r'.externalWebhookID := congrArg (·.2.2) hw'
  constructor
  · intro e; rw [hw, hw']; exact h.1 (by rw [← hu, ← hu', e])
  · intro e; rw [hu, hu']; exact h.2 (by rw [← hid, ← hid', e])

theorem Consistent.eq_of_id {l : Links} (h : Consistent l) {r r' : RepositoryRow} (hr : r ∈ l.repositories)
    (hr' : r' ∈ l.repositories) (hid : r.id = r'.id) : r = r' :=
  List.inj_on_of_nodup_map h.ids_nodup hr hr' hid

theorem Consistent.webhooksShared {l : Links} (h : Consistent l) : WebhooksShared l :=
  ⟨fun r hr r' hr' => (h.agree r hr r' hr').1, fun r hr => h.live_not_deleted _ (h.hook_live r hr)⟩

/-! ## Each operation keeps the invariant -/

section

variable {l : Links}

theorem Consistent.createWebhook (h : Consistent l) : Consistent l.createWebhook.1 where
  ids_lt := h.ids_lt
  ids_nodup := h.ids_nodup
  hooks_lt := by
    simp only [Links.createWebhook, List.append_assoc, List.mem_append, List.mem_singleton]
    rintro x (hx | rfl | hx)
    · exact Nat.lt_succ_of_lt (h.hooks_lt x (List.mem_append_left _ hx))
    · exact Nat.lt_succ_self _
    · exact Nat.lt_succ_of_lt (h.hooks_lt x (List.mem_append_right _ hx))
  live_not_deleted := by
    simp only [Links.createWebhook, List.mem_append, List.mem_singleton]
    rintro x (hx | rfl) hd
    · exact h.live_not_deleted x hx hd
    · exact Nat.lt_irrefl _ (h.hooks_lt _ (List.mem_append_right _ hd))
  hook_live r hr := List.mem_append_left _ (h.hook_live r hr)
  agree := h.agree
  branch := h.branch

/-- A new row may take its webhook from a row of the same WebURL, or a live
webhook no row uses for a WebURL no row has. -/
def WebhookFits (l : Links) (row : RepositoryRow) : Prop :=
  (∃ r0 ∈ l.repositories, row.webURL = r0.webURL ∧ row.webhook = r0.webhook) ∨
    (row.externalWebhookID ∈ l.hooks ∧ ∀ r ∈ l.repositories, r.webURL ≠ row.webURL ∧ r.externalWebhookID ≠ row.externalWebhookID)

theorem WebhookFits.agree (h : Consistent l) {row : RepositoryRow} (hf : WebhookFits l row) :
    ∀ r ∈ l.repositories, Agree r row := by
  rcases hf with ⟨r0, hr0, hu, hw⟩ | ⟨-, hfresh⟩
  · exact fun r hr => (h.agree r hr r0 hr0).congr rfl rfl hu hw
  · exact fun r hr => ⟨fun e => absurd e (hfresh r hr).1, fun e => absurd e (hfresh r hr).2⟩

theorem WebhookFits.live (h : Consistent l) {row : RepositoryRow} (hf : WebhookFits l row) :
    row.externalWebhookID ∈ l.hooks := by
  rcases hf with ⟨r0, hr0, -, hw⟩ | ⟨hlive, -⟩
  · have hid : row.externalWebhookID = r0.externalWebhookID := congrArg (fun w => w.2.2) hw
    rw [hid]
    exact h.hook_live r0 hr0
  · exact hlive

theorem Consistent.create (h : Consistent l) {row : RepositoryRow} (hf : WebhookFits l row)
    (hb : BranchFilterValid row) : Consistent (l.create row).1 := by
  unfold Links.create
  split
  · exact h
  have hagree := WebhookFits.agree h hf
  have hmem : ∀ r ∈ l.repositories ++ [{ row with id := l.nextRepositoryID }],
      r ∈ l.repositories ∨ r = { row with id := l.nextRepositoryID } := fun r hr => by simpa using hr
  refine ⟨fun r hr => ?_, ?_, h.hooks_lt, h.live_not_deleted, fun r hr => ?_, fun r hr r' hr' => ?_, fun r hr => ?_⟩
  · rcases hmem r hr with hr | rfl
    · exact lt_trans (h.ids_lt r hr) (Int.lt_succ _)
    · exact Int.lt_succ _
  · rw [List.map_append]
    refine h.ids_nodup.append (List.nodup_singleton _) (List.disjoint_singleton.2 fun hm => ?_)
    obtain ⟨r, hr, he⟩ := List.mem_map.1 hm
    exact absurd (h.ids_lt r hr) (he ▸ lt_irrefl _)
  · rcases hmem r hr with hr | rfl
    · exact h.hook_live r hr
    · exact WebhookFits.live h hf
  · rcases hmem r hr with hr | rfl <;> rcases hmem r' hr' with hr' | rfl
    · exact h.agree r hr r' hr'
    · exact hagree r hr
    · exact (hagree r' hr').symm
    · exact Agree.refl _
  · rcases hmem r hr with hr | rfl
    · exact h.branch r hr
    · exact hb

theorem Consistent.patch (h : Consistent l) {id : Int} {p : RepositoryPatch}
    (hb : ∀ r ∈ l.repositories, r.id = id → BranchFilterValid (r.applyPatch p)) : Consistent (l.patch id p).1 := by
  unfold Links.patch
  split
  swap
  · exact h
  have hmem : ∀ x ∈ l.repositories.map (fun r => if r.id = id then r.applyPatch p else r),
      ∃ r ∈ l.repositories, x.id = r.id ∧ x.webURL = r.webURL ∧ x.webhook = r.webhook ∧ BranchFilterValid x := by
    intro x hx
    obtain ⟨r, hr, rfl⟩ := List.mem_map.1 hx
    split
    · exact ⟨r, hr, rfl, rfl, rfl, hb r hr ‹_›⟩
    · exact ⟨r, hr, rfl, rfl, rfl, h.branch r hr⟩
  have hids : (l.repositories.map fun r => if r.id = id then r.applyPatch p else r).map (·.id) =
      l.repositories.map (·.id) := by
    rw [List.map_map]; congr 1; funext r; simp only [Function.comp]; split <;> rfl
  refine ⟨?_, hids ▸ h.ids_nodup, h.hooks_lt, h.live_not_deleted, ?_, ?_, ?_⟩
  · intro x hx
    obtain ⟨r, hr, hid, -⟩ := hmem x hx
    exact hid ▸ h.ids_lt r hr
  · intro x hx
    obtain ⟨r, hr, -, -, hw, -⟩ := hmem x hx
    exact (congrArg (·.2.2) hw : x.externalWebhookID = r.externalWebhookID) ▸ h.hook_live r hr
  · intro x hx y hy
    obtain ⟨r, hr, -, hu, hw, -⟩ := hmem x hx
    obtain ⟨r', hr', -, hu', hw', -⟩ := hmem y hy
    exact (h.agree r hr r' hr').congr hu hw hu' hw'
  · intro x hx
    obtain ⟨-, -, -, -, -, hx⟩ := hmem x hx
    exact hx

theorem Consistent.delete (h : Consistent l) (projectID : Int) : Consistent (l.delete projectID) where
  ids_lt r hr := h.ids_lt r (List.mem_of_mem_filter hr)
  ids_nodup := ((List.filter_sublist _).map _).nodup h.ids_nodup
  hooks_lt := h.hooks_lt
  live_not_deleted := h.live_not_deleted
  hook_live r hr := h.hook_live r (List.mem_of_mem_filter hr)
  agree r hr r' hr' := h.agree r (List.mem_of_mem_filter hr) r' (List.mem_of_mem_filter hr')
  branch r hr := h.branch r (List.mem_of_mem_filter hr)

theorem Consistent.deleteWebhook (h : Consistent l) {id : Nat}
    (hunused : ∀ r ∈ l.repositories, r.externalWebhookID ≠ id) : Consistent (l.deleteWebhook id).1 := by
  unfold Links.deleteWebhook
  split
  · rename_i hid
    refine ⟨h.ids_lt, h.ids_nodup, ?_, ?_, ?_, h.agree, h.branch⟩ <;>
      simp only [List.mem_append, List.mem_filter, List.mem_singleton, bne_iff_ne, ne_eq]
    · rintro x (⟨hx, -⟩ | hx | rfl)
      · exact h.hooks_lt x (List.mem_append_left _ hx)
      · exact h.hooks_lt x (List.mem_append_right _ hx)
      · exact h.hooks_lt x (List.mem_append_left _ hid)
    · rintro x ⟨hx, hne⟩ (hd | rfl)
      · exact h.live_not_deleted x hx hd
      · exact hne rfl
    · intro r hr
      exact ⟨h.hook_live r hr, hunused r hr⟩
  · exact h

end

end Bytebase.Project
