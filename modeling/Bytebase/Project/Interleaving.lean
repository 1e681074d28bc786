import Bytebase.Project.SqlReviewCI

/-!
# Project — what every interleaving keeps

The serial invariant `Consistent` does not survive overlapping requests
(`interleaved_links_split_webhooks`, `interleaved_patches_combine`): the
link, patch and unlink handlers check the store in one step and write it
in a later one, and so does the SQL review CI route. What the store and the VCS guarantee by themselves does
survive, since each of their operations is one step (`StoreSound`): row
IDs are fresh and distinct, no project has two rows (the `UNIQUE`
constraint on `project_id`, which `CreateRepository` checks in the step
that inserts), webhook numbers are fresh, and a deleted webhook is never
live again.

So for every set of requests and every schedule the store stays sound
(`interleave_storeSound`), and the defensive 500 "expect at most 1" that
the patch, unlink and GET handlers return for a project with several rows
is never answered: their lookup by project finds at most one row,
whatever ran before it.
-/

namespace Bytebase.Project

open Bytebase.Go Bytebase.Api

/-- What the store and the VCS keep by themselves: fresh, distinct row
IDs; at most one row per project; webhook numbers below the next one; no
webhook both live and deleted. -/
structure StoreSound (l : Links) : Prop where
  ids_lt : ∀ r ∈ l.repositories, r.id < l.nextRepositoryID
  ids_nodup : (l.repositories.map (·.id)).Nodup
  projects_nodup : (l.repositories.map (·.projectID)).Nodup
  hooks_lt : ∀ h ∈ l.hooks ++ l.deletedHooks, h < l.nextHookID
  live_not_deleted : ∀ h ∈ l.hooks, h ∉ l.deletedHooks

theorem storeSound_empty : StoreSound Links.empty := ⟨nofun, List.nodup_nil, List.nodup_nil, nofun, nofun⟩

/-! ## Each store and VCS operation keeps it -/

section

variable {l : Links}

theorem StoreSound.create (h : StoreSound l) (row : RepositoryRow) : StoreSound (l.create row).1 := by
  unfold Links.create
  split
  · exact h
  rename_i hany
  have hmem : ∀ r ∈ l.repositories ++ [{ row with id := l.nextRepositoryID }],
      r ∈ l.repositories ∨ r = { row with id := l.nextRepositoryID } := fun r hr => by simpa using hr
  refine ⟨fun r hr => ?_, ?_, ?_, h.hooks_lt, h.live_not_deleted⟩
  · rcases hmem r hr with hr | rfl
    · exact lt_trans (h.ids_lt r hr) (Int.lt_succ _)
    · exact Int.lt_succ _
  · rw [List.map_append]
    refine h.ids_nodup.append (List.nodup_singleton _) (List.disjoint_singleton.2 fun hm => ?_)
    obtain ⟨r, hr, he⟩ := List.mem_map.1 hm
    exact absurd (h.ids_lt r hr) (he ▸ lt_irrefl _)
  · rw [List.map_append]
    refine h.projects_nodup.append (List.nodup_singleton _) (List.disjoint_singleton.2 fun hm => hany ?_)
    obtain ⟨r, hr, he⟩ := List.mem_map.1 hm
    exact List.any_eq_true.2 ⟨r, hr, by simpa using he⟩

theorem StoreSound.patch (h : StoreSound l) (id : Int) (p : RepositoryPatch) : StoreSound (l.patch id p).1 := by
  unfold Links.patch
  split
  swap
  · exact h
  have hmap : ∀ f : RepositoryRow → Int, (∀ r : RepositoryRow, f (r.applyPatch p) = f r) →
      (l.repositories.map fun r => if r.id = id then r.applyPatch p else r).map f = l.repositories.map f :=
    fun f hf => by rw [List.map_map]; congr 1; funext r; simp only [Function.comp]; split <;> simp [hf]
  refine ⟨fun x hx => ?_, (hmap (·.id) fun _ => rfl) ▸ h.ids_nodup,
    (hmap (·.projectID) fun _ => rfl) ▸ h.projects_nodup,
    h.hooks_lt, h.live_not_deleted⟩
  obtain ⟨r, hr, rfl⟩ := List.mem_map.1 hx
  split <;> exact h.ids_lt r hr

theorem StoreSound.delete (h : StoreSound l) (projectID : Int) : StoreSound (l.delete projectID) where
  ids_lt r hr := h.ids_lt r (List.mem_of_mem_filter hr)
  ids_nodup := ((List.filter_sublist _).map _).nodup h.ids_nodup
  projects_nodup := ((List.filter_sublist _).map _).nodup h.projects_nodup
  hooks_lt := h.hooks_lt
  live_not_deleted := h.live_not_deleted

theorem StoreSound.createWebhook (h : StoreSound l) : StoreSound l.createWebhook.1 where
  ids_lt := h.ids_lt
  ids_nodup := h.ids_nodup
  projects_nodup := h.projects_nodup
  hooks_lt := by
    simp only [Links.createWebhook, List.append_assoc, List.mem_append, List.mem_singleton]
    rintro x (hx | rfl | hx)
    · exact Nat.lt_succ_of_lt (h.hooks_lt x (List.mem_append_left _ hx))
    · exact Nat.lt_succ_self _
    · exact Nat.lt_succ_of_lt (h.hooks_lt x (List.mem_append_right _ hx))
  live_not_deleted := by
    simp only [Links.createWebhook, List.mem_append, List.mem_singleton]
    rintro x (hx | rfl) hd
    · exact h.live_not_deleted x hx hd
    · exact Nat.lt_irrefl _ (h.hooks_lt _ (List.mem_append_right _ hd))

theorem StoreSound.deleteWebhook (h : StoreSound l) (id : Nat) : StoreSound (l.deleteWebhook id).1 := by
  unfold Links.deleteWebhook
  split
  · rename_i hid
    refine ⟨h.ids_lt, h.ids_nodup, h.projects_nodup, ?_, ?_⟩ <;>
      simp only [List.mem_append, List.mem_filter, List.mem_singleton, bne_iff_ne, ne_eq]
    · rintro x (⟨hx, -⟩ | hx | rfl)
      · exact h.hooks_lt x (List.mem_append_left _ hx)
      · exact h.hooks_lt x (List.mem_append_right _ hx)
      · exact h.hooks_lt x (List.mem_append_left _ hid)
    · rintro x ⟨hx, hne⟩ (hd | rfl)
      · exact h.live_not_deleted x hx hd
      · exact hne rfl
  · exact h

/-- A project's lookup in a sound store finds no row or one. -/
theorem StoreSound.findByProjectID (h : StoreSound l) (projectID : Int) :
    l.findByProjectID projectID = [] ∨ ∃ r, l.findByProjectID projectID = [r] := by
  have hnd : ((l.findByProjectID projectID).map (·.projectID)).Nodup :=
    ((List.filter_sublist _).map _).nodup h.projects_nodup
  have hrep : (l.findByProjectID projectID).map (·.projectID) =
      List.replicate (l.findByProjectID projectID).length projectID := by
    refine List.eq_replicate_iff.2 ⟨List.length_map _ _, fun b hb => ?_⟩
    obtain ⟨r, hr, rfl⟩ := List.mem_map.1 hb
    exact (Links.mem_findByProjectID.1 hr).2
  rw [hrep, List.nodup_replicate] at hnd
  match hl : l.findByProjectID projectID, hnd with
  | [], _ => exact .inl rfl
  | [r], _ => exact .inr ⟨r, rfl⟩
  | _ :: _ :: _, hnd => simp [hl] at hnd

end

/-! ## Each handler keeps it -/

/-- The defensive 500 of the patch, unlink and GET handlers, for a
project found with `n` rows. -/
def expectAtMostOne (n : Nat) (projectID : Int) : GoError :=
  .http 500 ("Retrieved " ++ toString n ++ " repository list for project ID: " ++ toString projectID ++
    ", expect at most 1")

/-- An answer that is not the defensive 500. -/
def NotDefensive {β : Type} (r : Except GoError β) : Prop := ∀ n projectID, r ≠ .error (expectAtMostOne n projectID)

/-- The invariant on the shared state. -/
def Sound (s : Shared) : Prop := StoreSound s.links

@[simp] theorem notDefensive_ok {β : Type} (b : β) : NotDefensive (.ok b : Except GoError β) := fun _ _ => nofun

theorem notDefensive_http {β : Type} {code : Nat} {m : String} (h : code ≠ 500 ∨ ¬"Retrieved ".data <+: m.data) :
    NotDefensive (.error (.http code m) : Except GoError β) := by
  rintro n p he
  simp only [expectAtMostOne, Except.error.injEq, GoError.http.injEq] at he
  rcases h with h | h
  · exact h he.1
  · exact h (he.2 ▸ by simp [String.data_append])

theorem notDefensive_checkBranch {w : RepositoryWorld} {vcs : VCS} {b : Bool} {a r x br n : String} {e : GoError}
    (h : checkBranch w vcs b a r x br n = .error e) : NotDefensive (.error e : Except GoError Unit) := by
  unfold checkBranch at h
  split at h
  · cases h
  split at h <;> cases h <;> exact notDefensive_http (by simp)

section

variable {w : RepositoryWorld}

theorem createRepository_guards (projectID : Int) (row : RepositoryRow) :
    Guards Sound NotDefensive (createRepository projectID row) :=
  .atomic (fun _ hs => StoreSound.create hs row) fun _ _ => .done (by split <;> simp [notDefensive_http])

theorem linkWebhook_guards (projectID : Int) (create : RepositoryCreate) (vcs : VCS) :
    Guards Sound NotDefensive (linkWebhook w projectID create vcs) := by
  unfold linkWebhook
  refine .query fun s _ => ?_
  split
  · exact createRepository_guards _ _
  refine .query fun _ _ => .atomic (fun s hs => by simpa [Sound] using hs) fun s _ => ?_
  split
  · exact .done (notDefensive_http (by simp))
  refine .atomic (fun s hs => ?_) fun s _ => ?_
  · unfold Sound at hs ⊢
    rw [Shared.createVCSWebhook_links]
    split
    · exact hs.createWebhook
    · exact hs
  split
  · exact .done (notDefensive_http (by simp))
  · exact createRepository_guards _ _

theorem postRepository_guards (projectID : Int) (create : RepositoryCreate) :
    Guards Sound NotDefensive (postRepository w projectID create) := by
  unfold postRepository
  repeat' first
    | exact .done (notDefensive_http (by simp))
    | exact .done (notDefensive_checkBranch ‹_›)
    | exact linkWebhook_guards _ _ _
    | refine .query fun _ _ => ?_
    | split

theorem patchRow_guards (projectID : Int) (repoPatch : RepositoryPatch) (repo : RepositoryRow) :
    Guards Sound NotDefensive (patchRow w projectID repoPatch repo) := by
  unfold patchRow
  dsimp only
  repeat' first
    | exact .done (notDefensive_http (by simp))
    | exact .done (notDefensive_checkBranch ‹_›)
    | exact notDefensive_ok _
    | exact notDefensive_http (by simp)
    | refine .atomic (fun _ hs => StoreSound.patch hs _ _) fun _ _ => .done ?_
    | refine .query fun _ _ => ?_
    | split

theorem patchRepository_guards (projectID : Int) (repoPatch : RepositoryPatch) :
    Guards Sound NotDefensive (patchRepository w projectID repoPatch) := by
  unfold patchRepository
  refine .query fun _ _ => ?_
  split
  · exact .done (notDefensive_http (by simp))
  split
  · exact .done (notDefensive_http (by simp))
  · exact .done (notDefensive_http (by simp))
  -- the lookup by project, in a sound store, finds no row or one
  refine .query fun s hs => ?_
  rcases StoreSound.findByProjectID hs projectID with h | ⟨r, h⟩ <;> rw [h]
  · exact .done (notDefensive_http (by simp))
  · exact patchRow_guards _ _ _

theorem unlinkRow_guards (projectID : Int) (repo : RepositoryRow) :
    Guards Sound NotDefensive (unlinkRow w projectID repo) := by
  unfold unlinkRow
  refine .query fun _ _ => ?_
  split
  · exact .done (notDefensive_http (by simp))
  refine .atomic (fun _ hs => StoreSound.delete hs projectID) fun _ _ => .query fun _ _ => ?_
  split
  · refine .atomic (fun s hs => ?_) fun _ _ => .done (notDefensive_ok ())
    unfold Sound at hs ⊢
    rw [Shared.deleteVCSWebhook_links]
    split
    · exact hs.deleteWebhook _
    · exact hs
  · exact .done (notDefensive_ok ())

theorem deleteRepository_guards (projectID : Int) : Guards Sound NotDefensive (deleteRepository w projectID) := by
  unfold deleteRepository
  refine .query fun s hs => ?_
  rcases StoreSound.findByProjectID hs projectID with h | ⟨r, h⟩ <;> rw [h]
  · exact .done (notDefensive_http (by simp))
  · exact unlinkRow_guards _ _

theorem handle_guards (req : RepositoryRequest) : Guards Sound NotDefensive (handle w req) := by
  cases req with
  | link p c => exact postRepository_guards p c
  | patch p rp => exact patchRepository_guards p rp
  | unlink p => exact deleteRepository_guards p

end

theorem NotDefensive.map {β γ : Type} {r : Except GoError β} (h : NotDefensive r) (f : β → γ) :
    NotDefensive (r.map f) := by
  rintro n p he
  cases r with
  | error e => exact h n p (congrArg Except.error (Except.error.inj he))
  | ok b => cases he

theorem enableSQLReviewCI_guards (w : CIWorld) (projectID repositoryID : Int) :
    Guards Sound NotDefensive (enableSQLReviewCI w projectID repositoryID) := by
  unfold enableSQLReviewCI
  refine .query fun _ _ => ?_
  repeat' first
    | exact .done (notDefensive_http (by simp))
    | exact notDefensive_ok _
    | exact notDefensive_http (by simp)
    | refine .atomic (fun _ hs => StoreSound.patch hs _ _) fun _ _ => .done ?_
    | refine .query fun _ _ => ?_
    | split

theorem serve_guards (w : CIWorld) (req : ProjectRequest) : Guards Sound NotDefensive (serve w req) := by
  cases req with
  | repository req => exact (handle_guards (w := w.toRepositoryWorld) req).map fun r h => h.map _
  | enableSQLReviewCI p r => exact (enableSQLReviewCI_guards w p r).map fun r h => h.map _

/-! ## Every interleaving -/

/-- `GET /project/:projectID/repository`: the project's rows, or the
defensive 500 when there are more than one. -/
def getRepository (projectID : Int) : Proc Shared (Except GoError (List RepositoryRow)) :=
  .query (·.links.findByProjectID projectID) fun repoList =>
    .done (if repoList.length > 1 then
      .error (.http 500 ("Retrieved " ++ toString repoList.length ++ " repository list for project ID: " ++
        toString projectID ++ ", expect at most 1"))
    else .ok repoList)

/-- **Every interleaving keeps the store sound, and the defensive 500 is
never answered.** For every list of link, patch, unlink and SQL review CI
requests started together on a sound store, and every schedule, the store
stays sound; no handler that has finished answered "Retrieved n
repository list for project ID: p, expect at most 1"; and a GET of any
project's repository served at that point answers the project's rows, of
which there is at most one. -/
theorem interleave_storeSound (w : CIWorld) (reqs : List ProjectRequest) (s : Shared)
    (hs : StoreSound s.links) (sched : List Nat) :
    StoreSound (interleave s (reqs.map (serve w)) sched).1.links ∧
      (∀ r, .done r ∈ (interleave s (reqs.map (serve w)) sched).2 → NotDefensive r) ∧
      ∀ projectID, ((getRepository projectID).run (interleave s (reqs.map (serve w)) sched).1).2 =
          .ok ((interleave s (reqs.map (serve w)) sched).1.links.findByProjectID projectID) ∧
        ((interleave s (reqs.map (serve w)) sched).1.links.findByProjectID projectID).length ≤ 1 := by
  obtain ⟨hs', hps⟩ := interleave_guards (I := Sound) (Q := NotDefensive) sched s (reqs.map (serve w)) hs
    fun p hp => by
      obtain ⟨req, -, rfl⟩ := List.mem_map.1 hp
      exact serve_guards w req
  refine ⟨hs', fun r hr => Guards.done_iff.1 (hps _ hr), fun projectID => ?_⟩
  rcases StoreSound.findByProjectID hs' projectID with h | ⟨r, h⟩ <;> simp [getRepository, h]

/-- The requests of `interleaved_links_split_webhooks`: two links of one
repository and an unlink. -/
def splitWebhookRequests : List ProjectRequest := [.repository (linkShop 1), .repository (linkShop 2), .repository (.unlink 1)]

/-- The interleaving of two links and an unlink that leaves a row on a
deleted webhook keeps the store sound. -/
theorem interleave_storeSound_split_webhooks :
    StoreSound twoProjects.links ∧
      (StoreSound (interleave twoProjects (splitWebhookRequests.map (serve acceptingCIWorld))
          [0, 0, 0, 0, 0, 0, 0, 1, 1, 1, 2, 2, 2, 2, 2, 1]).1.links ∧
        (∀ r, .done r ∈ (interleave twoProjects (splitWebhookRequests.map (serve acceptingCIWorld))
          [0, 0, 0, 0, 0, 0, 0, 1, 1, 1, 2, 2, 2, 2, 2, 1]).2 → NotDefensive r) ∧
        ∀ projectID, ((getRepository projectID).run (interleave twoProjects
            (splitWebhookRequests.map (serve acceptingCIWorld)) [0, 0, 0, 0, 0, 0, 0, 1, 1, 1, 2, 2, 2, 2, 2, 1]).1).2 =
            .ok ((interleave twoProjects (splitWebhookRequests.map (serve acceptingCIWorld))
              [0, 0, 0, 0, 0, 0, 0, 1, 1, 1, 2, 2, 2, 2, 2, 1]).1.links.findByProjectID projectID) ∧
          ((interleave twoProjects (splitWebhookRequests.map (serve acceptingCIWorld))
            [0, 0, 0, 0, 0, 0, 0, 1, 1, 1, 2, 2, 2, 2, 2, 1]).1.links.findByProjectID projectID).length ≤ 1) :=
  ⟨storeSound_empty, interleave_storeSound acceptingCIWorld _ twoProjects storeSound_empty _⟩

end Bytebase.Project
