import Bytebase.Webhook.World
import Bytebase.Go.Path
import Bytebase.Go.Sort.Pdqsort

/-!
# Webhook — which project a changed file belongs to

The first half of the push pipeline: the changed files the compare API
confirms (`filterFilesByCommitsDiff`), each matched against every
repository sharing the push (`getFileInfo`), then grouped by repository
and, inside a repository, by database (`groupFileInfoByRepo`,
`groupFileInfoByDatabase`), each group sorted by schema version.

`getFileInfo` keeps, for every repository that accepts the file, the
migration information and file type that repository produced. Go keeps
only the last pair in two variables and returns it with
`fileRepositoryList[0]` when exactly one repository matched; a pair is
assigned exactly when its repository is appended, so the pair returned is
the one repository's own, and it is never nil.

`sort.Slice` is a parameter: Go promises a permutation ordered by the
less function, not a stable one, and not which one.
-/

namespace Bytebase.Webhook

open Bytebase.Go Bytebase.Api

/-- `fileType`. -/
inductive FileType where
  | unknown | migration | schema
  deriving DecidableEq, Repr

/-- `fileInfo`: a changed file, what its path says, and its repository. -/
structure FileInfo where
  item : DistinctFileItem
  migrationInfo : MigrationInfo
  fType : FileType
  repository : Repository
  deriving DecidableEq, Repr

/-- `repo.VCS`, dereferenced: a nil VCS panics. -/
def vcsOf (repo : Repository) : Run VCS :=
  match repo.vcs with
  | some v => pure v
  | none => Run.panic "invalid memory address or nil pointer dereference"

/-! ## The compare API -/

/-- The inner loop of `filterFilesByCommitsDiff` for one file: the first
diff entry with the file's path appends the file, and the `break` ends the
loop there. -/
def filterDiffLoop (file : DistinctFileItem) (filteredDistinctFileList : List DistinctFileItem) :
    List FileDiff → List DistinctFileItem
  | [] => filteredDistinctFileList
  | diff :: rest =>
    if file.fileName == diff.path then filteredDistinctFileList ++ [file]
    else filterDiffLoop file filteredDistinctFileList rest

/-- The outer loop of `filterFilesByCommitsDiff`, file after file. -/
def filterFilesLoop (fileDiffList : List FileDiff) :
    List DistinctFileItem → List DistinctFileItem → List DistinctFileItem
  | filteredDistinctFileList, [] => filteredDistinctFileList
  | filteredDistinctFileList, file :: rest =>
    filterFilesLoop fileDiffList (filterDiffLoop file filteredDistinctFileList fileDiffList) rest

/-- `filterFilesByCommitsDiff(repo, distinctFileList, before, after)`. -/
def filterFilesByCommitsDiff (w : World) (repo : Repository) (distinctFileList : List DistinctFileItem)
    (beforeCommit afterCommit : String) : Run (Except GoError (List DistinctFileItem)) := do
  let _ ← vcsOf repo
  match w.getDiffFileList repo beforeCommit afterCommit with
  | .error e => pure (.error (e.wrap ("failed to get file diff list for repository " ++ repo.externalID)))
  | .ok fileDiffList => pure (.ok (filterFilesLoop fileDiffList [] distinctFileList))

@[simp] theorem vcsOf_writes (repo : Repository) : (vcsOf repo).writes = [] := by
  unfold vcsOf; split <;> rfl

@[simp] theorem filterFilesByCommitsDiff_writes (w : World) (repo : Repository) (files : List DistinctFileItem)
    (before after : String) : (filterFilesByCommitsDiff w repo files before after).writes = [] := by
  simp only [filterFilesByCommitsDiff, Run.writes_bind, vcsOf_writes, List.nil_append]
  split
  · split <;> rfl
  · rfl

/-- What Go's run time reports for a nil dereference. -/
def nilDereference : String := "invalid memory address or nil pointer dereference"

theorem vcsOf_panicsOnlyWith (repo : Repository) : (vcsOf repo).PanicsOnlyWith nilDereference := by
  unfold vcsOf; split
  · exact Run.panicsOnlyWith_pure _ _
  · exact Run.panicsOnlyWith_panic _

theorem filterFilesByCommitsDiff_panicsOnlyWith (w : World) (repo : Repository) (files : List DistinctFileItem)
    (before after : String) : (filterFilesByCommitsDiff w repo files before after).PanicsOnlyWith nilDereference :=
  (vcsOf_panicsOnlyWith repo).bind fun _ _ => by split <;> exact Run.panicsOnlyWith_pure _ _

/-- The inner loop appends the file once if some entry has its path, however
many do. -/
theorem filterDiffLoop_eq (file : DistinctFileItem) (acc : List DistinctFileItem) (diffs : List FileDiff) :
    filterDiffLoop file acc diffs = if ∃ d ∈ diffs, d.path = file.fileName then acc ++ [file] else acc := by
  induction diffs with
  | nil => simp [filterDiffLoop]
  | cons d rest ih =>
    by_cases h : d.path = file.fileName
    · simp [filterDiffLoop, h]
    · simp [filterDiffLoop, Ne.symm h, ih, h]

theorem filterFilesLoop_eq (diffs : List FileDiff) (acc files : List DistinctFileItem) :
    filterFilesLoop diffs acc files = acc ++ files.filter fun f => ∃ d ∈ diffs, d.path = f.fileName := by
  induction files generalizing acc with
  | nil => simp [filterFilesLoop]
  | cons f rest ih => by_cases h : ∃ d ∈ diffs, d.path = f.fileName <;> simp [filterFilesLoop, filterDiffLoop_eq, ih, h]

/-- **What the compare API keeps.** When the repository has a VCS and the
compare API answers with `diffs`, `filterFilesByCommitsDiff` returns the
files of the list whose name is the path of some entry, in list order;
each is kept as often as the list has it, however often `diffs` lists its
path. -/
theorem filterFilesByCommitsDiff_eq (w : World) (repo : Repository) (distinctFileList : List DistinctFileItem)
    (before after : String) (diffs : List FileDiff) (hvcs : repo.vcs ≠ none)
    (hdiff : w.getDiffFileList repo before after = .ok diffs) :
    (filterFilesByCommitsDiff w repo distinctFileList before after).result =
        .ok (.ok (distinctFileList.filter fun f => ∃ d ∈ diffs, d.path = f.fileName)) ∧
      ∀ f, (distinctFileList.filter fun f => ∃ d ∈ diffs, d.path = f.fileName).count f =
        if ∃ d ∈ diffs, d.path = f.fileName then distinctFileList.count f else 0 := by
  obtain ⟨v, hv⟩ := Option.ne_none_iff_exists'.1 hvcs
  refine ⟨by simp [filterFilesByCommitsDiff, vcsOf, hv, hdiff, filterFilesLoop_eq], fun f => ?_⟩
  split_ifs with h
  · exact List.count_filter (by simpa using h)
  · exact List.count_eq_zero.2 fun hm => h (by simpa using (List.mem_filter.1 hm).2)

/-- A repository of project `name` at the root of the repository. -/
def rootRepo (id : Int) (name : String) : Repository :=
  { id, projectID := id, project := ⟨name, .normal, .disabled, "", .ddl⟩, vcs := none, webURL := "",
    externalID := "", baseDirectory := "", branchFilter := "", filePathTemplate := "", schemaPathTemplate := "",
    webhookEndpointID := "", webhookSecretToken := "", enableSQLReviewCI := false, accessToken := "",
    refreshToken := "" }

/-- A repository with a VCS, and a compare API that lists `a.sql` twice. -/
def diffRepo : Repository := { rootRepo 1 "shop" with vcs := some ⟨.gitLabSelfHost, "", "", ""⟩ }

def twiceDiffWorld : World := { World.quiet with getDiffFileList := fun _ _ _ => .ok [⟨"a.sql"⟩, ⟨"a.sql"⟩] }

theorem filterFilesByCommitsDiff_eq_twice :
    diffRepo.vcs ≠ none ∧ twiceDiffWorld.getDiffFileList diffRepo "b" "a" = .ok [⟨"a.sql"⟩, ⟨"a.sql"⟩] ∧
      (filterFilesByCommitsDiff twiceDiffWorld diffRepo [⟨"a.sql", ⟨"a", ""⟩, .added, false⟩] "b" "a").result =
        .ok (.ok [⟨"a.sql", ⟨"a", ""⟩, .added, false⟩]) :=
  ⟨by decide, rfl, (filterFilesByCommitsDiff_eq twiceDiffWorld diffRepo _ "b" "a" _ (by decide) rfl).1.trans (by decide)⟩

/-! ## `getFileInfo` -/

/-- The template and the `allowOmitDatabaseName` policy `getFileInfo` matches
a file against for one repository: a tenant project's YAML file matches the
`.yml` variant and needs no database name, as does any file of a tenant
project with an empty database name template. -/
def migrationTemplate (fileItem : DistinctFileItem) (repository : Repository) : String × Bool :=
  let filePathTemplate := pathJoin repository.baseDirectory repository.filePathTemplate
  if repository.project.tenantMode = .tenant then
    if fileItem.isYAML then (replaceOnce filePathTemplate ".sql" ".yml", true)
    else (filePathTemplate, repository.project.dbNameTemplate.isEmpty)
  else (filePathTemplate, false)

/-- One repository's turn in `getFileInfo`'s loop: the file is outside the
base directory or matches nothing (`none`), is a migration or a schema
file of it, or is a YAML file whose migration is not DML (an error that
ends the loop). -/
def classifyFile (w : World) (fileItem : DistinctFileItem) (repository : Repository) :
    Except GoError (Option (MigrationInfo × FileType)) :=
  if !hasPrefix fileItem.fileName repository.baseDirectory then .ok none
  else
    let (template, allowOmitDatabaseName) := migrationTemplate fileItem repository
    match w.parseMigrationInfo fileItem.fileName template allowOmitDatabaseName with
    | .error _ => .ok none
    | .ok (some mi) =>
      if fileItem.isYAML && mi.type != .data then
        .error (.plain "only DML is allowed for YAML files in a tenant project")
      else .ok (some (mi, .migration))
    | .ok none =>
      match w.parseSchemaFileInfo repository.baseDirectory repository.schemaPathTemplate fileItem.fileName with
      | .ok (some si) => .ok (some (si, .schema))
      | _ => .ok none

/-- The loop of `getFileInfo`: every repository that accepts the file, in
list order, with what it made of it. -/
def getFileInfoLoop (w : World) (fileItem : DistinctFileItem) :
    List Repository → Except GoError (List (Repository × MigrationInfo × FileType))
  | [] => .ok []
  | repository :: rest =>
    match classifyFile w fileItem repository with
    | .error e => .error e
    | .ok none => getFileInfoLoop w fileItem rest
    | .ok (some (mi, t)) => (getFileInfoLoop w fileItem rest).map ((repository, mi, t) :: ·)

/-- `getFileInfo(fileItem, repositoryList)`: the one repository the file
belongs to, with its migration information and file type. -/
def getFileInfo (w : World) (fileItem : DistinctFileItem) (repositoryList : List Repository) :
    Except GoError (MigrationInfo × FileType × Repository) :=
  match getFileInfoLoop w fileItem repositoryList with
  | .error e => .error e
  | .ok [] => .error (.plain "file change is not associated with any project")
  | .ok [(repository, mi, t)] => .ok (mi, t, repository)
  | .ok matched =>
    .error (.plain ("file change should be associated with exactly one project but found " ++
      join (matched.map fun m => m.1.project.name) ", "))

theorem getFileInfoLoop_mem {w : World} {item : DistinctFileItem} {repos : List Repository}
    {matched : List (Repository × MigrationInfo × FileType)} (h : getFileInfoLoop w item repos = .ok matched) :
    ∀ m ∈ matched, m.1 ∈ repos := by
  induction repos generalizing matched with
  | nil => cases h; simp
  | cons r rest ih =>
    simp only [getFileInfoLoop] at h
    split at h
    · cases h
    · exact fun m hm => List.mem_cons_of_mem r (ih h m hm)
    · rcases hl : getFileInfoLoop w item rest with e | l <;> rw [hl] at h <;> cases h
      simp only [List.mem_cons, forall_eq_or_imp, true_or, true_and]
      exact fun m hm => .inr (ih hl m hm)

/-- The repository `getFileInfo` assigns is one of the list. -/
theorem getFileInfo_mem {w : World} {item : DistinctFileItem} {repos : List Repository} {mi : MigrationInfo}
    {t : FileType} {repo : Repository} (h : getFileInfo w item repos = .ok (mi, t, repo)) : repo ∈ repos := by
  unfold getFileInfo at h
  split at h
  · cases h
  · cases h
  · rename_i hl; cases h; exact getFileInfoLoop_mem hl (repo, mi, t) (by simp)
  · cases h

/-! ## What `getFileInfo` decides -/

/-- Repository `repository` accepts the file with `(mi, t)`: its base
directory prefixes the path, and the migration parser gives `mi` (not the
non-DML migration of a YAML file), or it gives nothing without error and
the schema parser gives `mi`. -/
def Accepts (w : World) (fileItem : DistinctFileItem) (repository : Repository) (mi : MigrationInfo)
    (t : FileType) : Prop :=
  hasPrefix fileItem.fileName repository.baseDirectory = true ∧
    ((w.parseMigrationInfo fileItem.fileName (migrationTemplate fileItem repository).1
        (migrationTemplate fileItem repository).2 = .ok (some mi) ∧ ¬(fileItem.isYAML = true ∧ mi.type ≠ .data) ∧
        t = .migration) ∨
      (w.parseMigrationInfo fileItem.fileName (migrationTemplate fileItem repository).1
        (migrationTemplate fileItem repository).2 = .ok none ∧
        w.parseSchemaFileInfo repository.baseDirectory repository.schemaPathTemplate fileItem.fileName = .ok (some mi) ∧
        t = .schema))

/-- Repository `repository` gives the YAML file a migration that is not
DML, which ends `getFileInfo` with an error. -/
def YieldsNonDataYAML (w : World) (fileItem : DistinctFileItem) (repository : Repository) : Prop :=
  hasPrefix fileItem.fileName repository.baseDirectory = true ∧ fileItem.isYAML = true ∧
    ∃ mi, w.parseMigrationInfo fileItem.fileName (migrationTemplate fileItem repository).1
      (migrationTemplate fileItem repository).2 = .ok (some mi) ∧ mi.type ≠ .data

/-- What one repository adds to `fileRepositoryList`, with the migration
information and file type assigned with it. -/
def acceptedBy (w : World) (fileItem : DistinctFileItem) (repository : Repository) :
    Option (Repository × MigrationInfo × FileType) :=
  match classifyFile w fileItem repository with
  | .ok (some (mi, t)) => some (repository, mi, t)
  | _ => none

section

variable {w : World} {item : DistinctFileItem} {r : Repository}

theorem classifyFile_eq_ok_some_iff {mi : MigrationInfo} {t : FileType} :
    classifyFile w item r = .ok (some (mi, t)) ↔ Accepts w item r mi t := by
  unfold classifyFile Accepts
  rcases migrationTemplate item r with ⟨template, allow⟩
  cases hp : hasPrefix item.fileName r.baseDirectory
  · simp
  · rcases hm : w.parseMigrationInfo item.fileName template allow with e | _ | mi'
    · simp [hm]
    · rcases hs : w.parseSchemaFileInfo r.baseDirectory r.schemaPathTemplate item.fileName with e | _ | si <;>
        simp [hm, hs, @eq_comm FileType .schema]
    · by_cases hy : item.isYAML = true ∧ mi'.type ≠ .data
      · simp only [hm, Bool.not_true, Bool.false_eq_true, if_false, hp, true_and]
        rw [if_pos (by simpa using hy)]
        simp only [reduceCtorEq, false_iff, not_or, not_and, Except.ok.injEq, Option.some.injEq]
        exact ⟨fun he hn => absurd (he ▸ hy.2) (hn hy.1), fun h => h.elim⟩
      · simp only [hm, Bool.not_true, Bool.false_eq_true, if_false, hp, true_and]
        rw [if_neg (by simpa using hy)]
        simp only [Except.ok.injEq, Option.some.injEq, Prod.mk.injEq, reduceCtorEq, false_and, and_false, or_false]
        constructor
        · rintro ⟨rfl, rfl⟩; exact ⟨rfl, hy, rfl⟩
        · rintro ⟨rfl, -, rfl⟩; exact ⟨rfl, rfl⟩

theorem classifyFile_eq_error_iff : (∃ e, classifyFile w item r = .error e) ↔ YieldsNonDataYAML w item r := by
  unfold classifyFile YieldsNonDataYAML
  rcases migrationTemplate item r with ⟨template, allow⟩
  cases hp : hasPrefix item.fileName r.baseDirectory
  · simp
  · rcases hm : w.parseMigrationInfo item.fileName template allow with e | _ | mi'
    · simp [hm]
    · rcases hs : w.parseSchemaFileInfo r.baseDirectory r.schemaPathTemplate item.fileName with e | _ | si <;>
        simp [hm, hs]
    · simp only [hm, Bool.not_true, Bool.false_eq_true, if_false, hp, true_and]
      by_cases hy : item.isYAML = true ∧ mi'.type ≠ .data
      · rw [if_pos (by simpa using hy)]; exact ⟨fun _ => ⟨hy.1, mi', rfl, hy.2⟩, fun _ => ⟨_, rfl⟩⟩
      · rw [if_neg (by simpa using hy)]
        simp only [reduceCtorEq, exists_false, false_iff, not_and, not_exists]
        rintro hyaml _ ⟨⟩ ht; exact hy ⟨hyaml, ht⟩

theorem acceptedBy_eq_some_iff {repo : Repository} {mi : MigrationInfo} {t : FileType} :
    acceptedBy w item r = some (repo, mi, t) ↔ r = repo ∧ Accepts w item r mi t := by
  rw [← classifyFile_eq_ok_some_iff, acceptedBy]
  split <;> rename_i h
  · rw [h]; simp [and_comm, @eq_comm _ r]
  · simp only [reduceCtorEq, false_iff, not_and]
    rintro rfl hc; exact h _ _ hc

theorem acceptedBy_eq_none_iff : acceptedBy w item r = none ↔ ∀ mi t, ¬Accepts w item r mi t := by
  simp only [← classifyFile_eq_ok_some_iff, acceptedBy]
  split <;> rename_i h
  · simp only [reduceCtorEq, false_iff, not_forall, not_not]; exact ⟨_, _, h⟩
  · exact ⟨fun _ mi t => h mi t, fun _ => rfl⟩

/-- `getFileInfo`'s loop runs to the end exactly when no repository yields
a non-DML YAML migration, and then collects every repository that accepts
the file, in list order. -/
theorem getFileInfoLoop_eq_ok_iff {R : List Repository} {matched : List (Repository × MigrationInfo × FileType)} :
    getFileInfoLoop w item R = .ok matched ↔
      (∀ r ∈ R, ¬YieldsNonDataYAML w item r) ∧ matched = R.filterMap (acceptedBy w item) := by
  induction R generalizing matched with
  | nil => simp [getFileInfoLoop, eq_comm]
  | cons r rest ih =>
    have hok : ∀ c, classifyFile w item r = .ok c → ¬YieldsNonDataYAML w item r := fun c hc hy => by
      obtain ⟨e, he⟩ := classifyFile_eq_error_iff.2 hy
      rw [hc] at he; cases he
    simp only [getFileInfoLoop, List.forall_mem_cons, List.filterMap_cons, acceptedBy]
    rcases hc : classifyFile w item r with e | _ | ⟨mi, t⟩
    · simp only [reduceCtorEq, false_iff, not_and]
      exact fun hy => absurd (classifyFile_eq_error_iff.1 ⟨e, hc⟩) hy.1
    · simp only [ih, hok _ hc, not_false_eq_true, true_and]
    · rcases hl : getFileInfoLoop w item rest with e | m'
      · have hbad : ¬∀ r ∈ rest, ¬YieldsNonDataYAML w item r := fun hall => by
          have := ih.2 ⟨hall, rfl⟩; rw [hl] at this; cases this
        simp only [Except.map, reduceCtorEq, false_iff, not_and]
        exact fun hy _ => hbad hy.2
      · obtain ⟨hall, rfl⟩ := ih.1 hl
        simp only [Except.map, Except.ok.injEq]
        exact ⟨fun h => ⟨⟨hok _ hc, hall⟩, h.symm⟩, fun h => h.2.symm⟩

theorem getFileInfo_eq_ok_iff_loop {R : List Repository} {mi : MigrationInfo} {t : FileType} {repo : Repository} :
    getFileInfo w item R = .ok (mi, t, repo) ↔ getFileInfoLoop w item R = .ok [(repo, mi, t)] := by
  unfold getFileInfo
  split <;> rename_i h <;> rw [h]
  · simp
  · simp
  · simp [and_comm, and_left_comm, @eq_comm _ repo, @eq_comm _ mi, @eq_comm _ t]
  · rename_i hnil hone
    simp only [reduceCtorEq, Except.ok.injEq, false_iff]
    rintro rfl; exact hone _ _ _ rfl

/-- The match list is one repository exactly when one position of the list
holds a repository that accepts the file. -/
theorem filterMap_acceptedBy_eq_singleton {R : List Repository} {repo : Repository} {mi : MigrationInfo}
    {t : FileType} :
    R.filterMap (acceptedBy w item) = [(repo, mi, t)] ↔
      ∃ pre post, R = pre ++ repo :: post ∧ Accepts w item repo mi t ∧
        ∀ r ∈ pre ++ post, ∀ mi' t', ¬Accepts w item r mi' t' := by
  rw [List.filterMap_eq_cons_iff]
  constructor
  · rintro ⟨pre, a, post, rfl, hpre, ha, hpost⟩
    obtain ⟨rfl, hacc⟩ := acceptedBy_eq_some_iff.1 ha
    refine ⟨pre, post, rfl, hacc, fun r hr => ?_⟩
    rcases List.mem_append.1 hr with h | h
    · exact acceptedBy_eq_none_iff.1 (hpre r h)
    · exact acceptedBy_eq_none_iff.1 (List.filterMap_eq_nil_iff.1 hpost r h)
  · rintro ⟨pre, post, rfl, hacc, hothers⟩
    exact ⟨pre, repo, post, rfl, fun r hr => acceptedBy_eq_none_iff.2 (hothers r (List.mem_append_left _ hr)),
      acceptedBy_eq_some_iff.2 ⟨rfl, hacc⟩,
      List.filterMap_eq_nil_iff.2 fun r hr => acceptedBy_eq_none_iff.2 (hothers r (List.mem_append_right _ hr))⟩

theorem getFileInfo_perm {R R' : List Repository} (h : R.Perm R') (x : MigrationInfo × FileType × Repository) :
    getFileInfo w item R = .ok x ↔ getFileInfo w item R' = .ok x := by
  obtain ⟨mi, t, repo⟩ := x
  simp only [getFileInfo_eq_ok_iff_loop, getFileInfoLoop_eq_ok_iff, h.mem_iff]
  have hp := h.filterMap (acceptedBy w item)
  constructor <;> rintro ⟨hy, he⟩ <;> refine ⟨hy, ?_⟩
  · exact List.singleton_perm.1 (by rw [he]; exact hp)
  · exact List.singleton_perm.1 (by rw [he]; exact hp.symm)

end

/-- **What `getFileInfo` decides.** It returns a repository without error
exactly when no repository yields a non-DML YAML migration and one
position of the list holds a repository that accepts the file; it returns
that repository with what it made of the file. Whether it succeeds, and
with what, does not depend on the order of the list. -/
theorem getFileInfo_eq_ok_iff (w : World) (fileItem : DistinctFileItem) (repositoryList : List Repository)
    (mi : MigrationInfo) (t : FileType) (repository : Repository) :
    (getFileInfo w fileItem repositoryList = .ok (mi, t, repository) ↔
      (∀ r ∈ repositoryList, ¬YieldsNonDataYAML w fileItem r) ∧
        ∃ pre post, repositoryList = pre ++ repository :: post ∧ Accepts w fileItem repository mi t ∧
          ∀ r ∈ pre ++ post, ∀ mi' t', ¬Accepts w fileItem r mi' t') ∧
    ∀ repositoryList', repositoryList.Perm repositoryList' →
      (getFileInfo w fileItem repositoryList = .ok (mi, t, repository) ↔
        getFileInfo w fileItem repositoryList' = .ok (mi, t, repository)) := by
  refine ⟨?_, fun _ h => getFileInfo_perm h _⟩
  rw [getFileInfo_eq_ok_iff_loop, getFileInfoLoop_eq_ok_iff, eq_comm, filterMap_acceptedBy_eq_singleton]

/-- A migration of database `shop`. -/
def shopInfo : MigrationInfo := ⟨"shop", "", "0001", .migrate⟩

/-- A file added at `shop/schema.sql`. -/
def shopFile : DistinctFileItem := ⟨"shop/schema.sql", ⟨"a", ""⟩, .added, false⟩

/-- A world whose migration parser fails on every path and whose schema
parser recognises every path. -/
def schemaAfterErrorWorld : World :=
  { World.quiet with
    parseMigrationInfo := fun _ _ _ => .error (.plain "invalid file path template")
    parseSchemaFileInfo := fun _ _ _ => .ok (some shopInfo) }

/-- A world whose migration parser recognises every path. -/
def migrationWorld : World := { World.quiet with parseMigrationInfo := fun _ _ _ => .ok (some shopInfo) }

/-- The schema parser recognises the file under the repository's base
directory, yet a failing migration parser skips it and nothing matches;
and with two matching repositories the error names them in list order. -/
theorem getFileInfo_schema_after_parse_error :
    (hasPrefix shopFile.fileName (rootRepo 1 "shop").baseDirectory = true ∧
      schemaAfterErrorWorld.parseSchemaFileInfo "" "" shopFile.fileName = .ok (some shopInfo) ∧
      getFileInfo schemaAfterErrorWorld shopFile [rootRepo 1 "shop"] =
        .error (.plain "file change is not associated with any project")) ∧
    getFileInfo migrationWorld shopFile [rootRepo 1 "a", rootRepo 2 "b"] =
      .error (.plain "file change should be associated with exactly one project but found a, b") ∧
    getFileInfo migrationWorld shopFile [rootRepo 2 "b", rootRepo 1 "a"] =
      .error (.plain "file change should be associated with exactly one project but found b, a") := by
  decide

/-! ## Grouping and ordering -/

/-- `groupFileInfoByRepo(distinctFileList, repositoryList)`: the files
`getFileInfo` places, keyed by their repository's ID. -/
def groupFileInfoByRepo (w : World) (distinctFileList : List DistinctFileItem)
    (repositoryList : List Repository) : GoMap Int (List FileInfo) :=
  distinctFileList.foldl (fun m item =>
    match getFileInfo w item repositoryList with
    | .error _ => m
    | .ok (mi, t, repository) => m.appendAt repository.id ⟨item, mi, t, repository⟩) GoMap.empty

theorem mem_values_foldl_group (w : World) (repos : List Repository) (items : List DistinctFileItem)
    (m : GoMap Int (List FileInfo)) (f : FileInfo) :
    f ∈ (items.foldl (fun m item =>
      match getFileInfo w item repos with
      | .error _ => m
      | .ok (mi, t, repository) => m.appendAt repository.id ⟨item, mi, t, repository⟩) m).values ↔
      f ∈ m.values ∨ (f.item ∈ items ∧ getFileInfo w f.item repos = .ok (f.migrationInfo, f.fType, f.repository)) := by
  induction items generalizing m with
  | nil => simp
  | cons item rest ih =>
    rw [List.foldl_cons, ih]
    obtain ⟨fi, fmi, ft, fr⟩ := f
    by_cases hi : fi = item
    · subst hi
      rcases hg : getFileInfo w fi repos with e | ⟨mi, t, r⟩
      · simp [hg]
      · simp only [hg, GoMap.mem_values_appendAt, FileInfo.mk.injEq, List.mem_cons, Except.ok.injEq,
          Prod.mk.injEq, true_and, true_or]
        tauto
    · rcases getFileInfo w item repos with e | ⟨mi, t, r⟩ <;> simp [hi]

/-- **The files `groupFileInfoByRepo` places** are exactly the items
`getFileInfo` assigns a repository, each with what that repository made
of it. -/
theorem mem_values_groupFileInfoByRepo (w : World) (items : List DistinctFileItem) (repos : List Repository)
    (f : FileInfo) :
    f ∈ (groupFileInfoByRepo w items repos).values ↔
      f.item ∈ items ∧ getFileInfo w f.item repos = .ok (f.migrationInfo, f.fType, f.repository) := by
  simpa using mem_values_foldl_group w repos items GoMap.empty f

/-- `groupFileInfoByDatabase(fileInfoList)`. -/
def groupFileInfoByDatabase (fileInfoList : List FileInfo) : GoMap String (List FileInfo) :=
  GoMap.groupBy (fun f => f.migrationInfo.database) fileInfoList

/-! ## The groups of a push -/

/-- The files `getFileInfo` places, each with what its repository made of
it, in list order. -/
def placedFileInfos (w : World) (distinctFileList : List DistinctFileItem) (repositoryList : List Repository) :
    List FileInfo :=
  distinctFileList.filterMap fun item =>
    match getFileInfo w item repositoryList with
    | .error _ => none
    | .ok (mi, t, repository) => some ⟨item, mi, t, repository⟩

theorem foldl_group_eq_foldl_appendAt (w : World) (repos : List Repository) (items : List DistinctFileItem)
    (m : GoMap Int (List FileInfo)) :
    items.foldl (fun m item =>
      match getFileInfo w item repos with
      | .error _ => m
      | .ok (mi, t, repository) => m.appendAt repository.id ⟨item, mi, t, repository⟩) m =
      (placedFileInfos w items repos).foldl (fun m f => m.appendAt f.repository.id f) m := by
  induction items generalizing m with
  | nil => rfl
  | cons item rest ih =>
    rw [List.foldl_cons, ih]
    rcases hg : getFileInfo w item repos with e | ⟨mi, t, r⟩ <;> simp [placedFileInfos, hg]

/-- `groupFileInfoByRepo` groups the placed files by repository ID. -/
theorem groupFileInfoByRepo_eq_groupBy (w : World) (items : List DistinctFileItem) (repos : List Repository) :
    groupFileInfoByRepo w items repos = GoMap.groupBy (·.repository.id) (placedFileInfos w items repos) :=
  foldl_group_eq_foldl_appendAt w repos items GoMap.empty

/-- **The groups of a push.** The repository groups `groupFileInfoByRepo`
builds and, inside each, the database groups `groupFileInfoByDatabase`
builds are exactly the non-empty sublists of the placed files with one
repository ID, and with one repository ID and one database name, in list
order. -/
theorem groupFileInfo_partition (w : World) (distinctFileList : List DistinctFileItem)
    (repositoryList : List Repository) (repoID : Int) (fileInfoListInRepo : List FileInfo) :
    ((repoID, fileInfoListInRepo) ∈ (groupFileInfoByRepo w distinctFileList repositoryList).entries ↔
      fileInfoListInRepo ≠ [] ∧
        fileInfoListInRepo = (placedFileInfos w distinctFileList repositoryList).filter (·.repository.id = repoID)) ∧
    ((repoID, fileInfoListInRepo) ∈ (groupFileInfoByRepo w distinctFileList repositoryList).entries →
      ∀ database fileInfoListInDB,
        (database, fileInfoListInDB) ∈ (groupFileInfoByDatabase fileInfoListInRepo).entries ↔
          fileInfoListInDB ≠ [] ∧ fileInfoListInDB = (placedFileInfos w distinctFileList repositoryList).filter
            fun f => f.repository.id = repoID ∧ f.migrationInfo.database = database) := by
  have hrepo := GoMap.mem_entries_groupBy (fun f : FileInfo => f.repository.id)
    (placedFileInfos w distinctFileList repositoryList) repoID fileInfoListInRepo
  rw [← groupFileInfoByRepo_eq_groupBy] at hrepo
  refine ⟨hrepo, fun h database fileInfoListInDB => ?_⟩
  obtain ⟨-, rfl⟩ := hrepo.1 h
  rw [groupFileInfoByDatabase, GoMap.mem_entries_groupBy, List.filter_filter]
  simp only [Bool.decide_and, Bool.and_comm]

/-! ## Sorting by schema version

Go's `sort.Slice` is not stable: `sortFilesBySchemaVersion` keeps files
of one database and version in their order only while the slice is short
enough for insertion sort alone. -/

/-- The less function of `sortFilesBySchemaVersion`: by database name, then
by version, both in string order. -/
def schemaVersionLess (a b : FileInfo) : Bool :=
  stringLess a.migrationInfo.database b.migrationInfo.database ||
    (a.migrationInfo.database == b.migrationInfo.database &&
      stringLess a.migrationInfo.version b.migrationInfo.version)

/-- `sortFilesBySchemaVersion(fileInfoList)`, with `sort.Slice` given. -/
def sortFilesBySchemaVersion (sortSlice : (FileInfo → FileInfo → Bool) → List FileInfo → List FileInfo)
    (fileInfoList : List FileInfo) : List FileInfo :=
  sortSlice schemaVersionLess fileInfoList

/-- `schemaVersionLess` is the order of `(database, version)`, each a
`String` in its own order, compared in turn. -/
theorem schemaVersionLess_iff (f g : FileInfo) :
    schemaVersionLess f g = true ↔
      toLex (f.migrationInfo.database, f.migrationInfo.version) <
        toLex (g.migrationInfo.database, g.migrationInfo.version) := by
  simp only [schemaVersionLess, Bool.or_eq_true, Bool.and_eq_true, beq_iff_eq, stringLess_iff,
    Prod.Lex.lt_iff]

theorem strictWeakOrder_schemaVersionLess : StrictWeakOrder schemaVersionLess :=
  .of_key _ schemaVersionLess_iff

/-- `sortFilesBySchemaVersion` with Go's `sort.Slice` returns a permutation of
the files, in ascending `(database, version)`, and on at most twelve files
it keeps the files of one `(database, version)` in their input order. -/
theorem sortFilesBySchemaVersion_spec (fileInfoList : List FileInfo) :
    (sortFilesBySchemaVersion Go.sortSlice fileInfoList).Perm fileInfoList ∧
    (sortFilesBySchemaVersion Go.sortSlice fileInfoList).Sorted (fun f g =>
      f.migrationInfo.database < g.migrationInfo.database ∨
        f.migrationInfo.database = g.migrationInfo.database ∧ f.migrationInfo.version ≤ g.migrationInfo.version) ∧
    (fileInfoList.length ≤ 12 → ∀ f : FileInfo,
      (sortFilesBySchemaVersion Go.sortSlice fileInfoList).filter (fun g =>
          g.migrationInfo.database = f.migrationInfo.database ∧ g.migrationInfo.version = f.migrationInfo.version) =
        fileInfoList.filter (fun g =>
          g.migrationInfo.database = f.migrationInfo.database ∧ g.migrationInfo.version = f.migrationInfo.version)) := by
  have o := strictWeakOrder_schemaVersionLess
  refine ⟨sortSlice_perm _ _, (sortSlice_sorted o _).imp fun h =>
    (Prod.Lex.le_iff _ _).1 ((lt_eq_false_iff_of_key _ schemaVersionLess_iff).1 h), fun hl f => ?_⟩
  have hp : (fun g : FileInfo => decide (g.migrationInfo.database = f.migrationInfo.database ∧
      g.migrationInfo.version = f.migrationInfo.version)) = tie schemaVersionLess f := by
    funext g
    rw [Bool.eq_iff_iff, decide_eq_true_iff, tie_iff_of_key _ schemaVersionLess_iff, toLex_inj,
      Prod.mk.injEq, eq_comm, @eq_comm _ g.migrationInfo.version]
  rw [hp]
  exact sortSlice_filter_tie o fileInfoList hl f

/-- The migration file of database `shop` at `version` in environment
directory `env`. -/
def environmentFile (env version : String) : FileInfo :=
  ⟨⟨env ++ "/shop/" ++ version ++ ".sql", ⟨"a", ""⟩, .added, false⟩, ⟨"shop", env, version, .migrate⟩,
    .migration, rootRepo 1 "shop"⟩

/-- Thirteen files of `shop`: version `0002` in `env0` to `env11`, then
version `0001` in `env12`. -/
def environmentFiles : List FileInfo :=
  (List.range 12).map (fun k => environmentFile ("env" ++ Nat.repr k) "0002") ++ [environmentFile "env12" "0001"]

/-- Past twelve files `sort.Slice` partitions, and the files of `0002`
come out of their input order. -/
theorem sortFilesBySchemaVersion_reorders_ties :
    (environmentFiles.filter fun g => g.migrationInfo.version = "0002").map (·.migrationInfo.environment) =
      ["env0", "env1", "env2", "env3", "env4", "env5", "env6", "env7", "env8", "env9", "env10", "env11"] ∧
    ((sortFilesBySchemaVersion Go.sortSlice environmentFiles).filter fun g =>
        g.migrationInfo.version = "0002").map (·.migrationInfo.environment) =
      ["env6", "env2", "env3", "env4", "env5", "env0", "env7", "env8", "env9", "env10", "env11", "env1"] := by
  decide

end Bytebase.Webhook
