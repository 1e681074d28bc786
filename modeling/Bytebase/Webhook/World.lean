import Bytebase.Api
import Bytebase.Go.Map

/-!
# Webhook — the world a request runs against

The push pipeline and the SQL review endpoint call out to the store, the
VCS provider, the license service and the issue engine (spec §6: external
collaborators). `World` is what one request sees of them: every call is a
function of its arguments, answering a value or an error, so a statement
quantified over every `World` covers every outcome of every call. Reads
answer from the state the request starts in; the issue engine's own
writes (pipelines, tasks) are outside this core.

The parsers of other packages that the pipeline calls but that are not in
this repository's sources (`db.ParseMigrationInfo`,
`db.ParseSchemaFileInfo`, `yaml.Unmarshal`, `PushEvent.GetDistinctFileList`)
are fields of the world too: the pipeline is modelled for every behaviour
of theirs.

`Run` is the pipeline's computation: the value returned, or the panic that
ended the call (an index out of range, a nil dereference), together with
the store writes made on the way, which a panic or an error return does
not undo.
-/

namespace Bytebase.Webhook

open Bytebase.Go Bytebase.Api

/-- The external collaborators of one request. -/
structure World where
  /-- `store.FindRepository` by webhook endpoint. -/
  findRepository : String → Except GoError (List Repository)
  /-- The VCS compare API, `GetDiffFileList(repo, before, after)`. -/
  getDiffFileList : Repository → String → String → Except GoError (List FileDiff)
  /-- The VCS `ReadFileContent(repo, path, ref)`, through the repository's token. -/
  readFile : Repository → String → String → Except GoError String
  /-- `store.FindDatabase` by project and database name. -/
  findDatabase : Int → String → Except GoError (List Database)
  /-- `store.GetPrincipalByEmail`: the principal's ID, if there is one. -/
  getPrincipalByEmail : String → Except GoError (Option Int)
  /-- `store.FindTask` for the pending-approval or failed schema or data update
  tasks of a database with a schema version. -/
  findTask : Int → String → Except GoError (List Task)
  /-- `store.GetIssueByPipelineID`. -/
  getIssueByPipelineID : Int → Except GoError (Option Issue)
  /-- The task engine's `patchTask`. -/
  patchTask : Task → TaskPatch → Issue → Except GoError Unit
  /-- The issue engine's `createIssue`. -/
  createIssue : IssueCreate → Except GoError Issue
  /-- `ActivityManager.CreateActivity`. -/
  createActivity : ActivityCreate → Except GoError Unit
  /-- `licenseService.IsFeatureEnabled(api.FeatureMultiTenancy)`. -/
  multiTenancy : Bool
  /-- `db.ParseMigrationInfo(file, template, allowOmitDatabaseName)`. -/
  parseMigrationInfo : String → String → Bool → Except GoError (Option MigrationInfo)
  /-- `db.ParseSchemaFileInfo(baseDirectory, schemaPathTemplate, file)`. -/
  parseSchemaFileInfo : String → String → String → Except GoError (Option MigrationInfo)
  /-- `yaml.Unmarshal` into `api.MigrationFileYAML`. -/
  parseMigrationFileYAML : String → Except GoError MigrationFileYAML
  /-- `PushEvent.GetDistinctFileList`. -/
  getDistinctFileList : PushEvent → List DistinctFileItem
  /-- `store.GetNormalSQLReviewPolicy` for an environment; a `NotFound`
  error is `.ok none`. -/
  getNormalSQLReviewPolicy : Int → Except GoError (Option SQLReviewPolicy)
  /-- `advisorDB.ConvertToAdvisorDBType(engine)`. -/
  convertToAdvisorDBType : String → Except GoError String
  /-- `store.NewCatalog(database, engine)`. -/
  newCatalog : Int → String → Except GoError Unit
  /-- `dbFactory.GetReadOnlyDatabaseDriver(instance, database)`: the driver's
  identity. -/
  getReadOnlyDatabaseDriver : Instance → String → Except GoError Nat
  /-- `driver.GetDBConnection(database)`. -/
  getDBConnection : Nat → String → Except GoError Unit
  /-- `advisor.SQLReviewCheck(statement, rules, context)`; `none` is a nil
  list. -/
  sqlReviewCheck : String → SQLReviewPolicy → Database → String → Except GoError (Option (List Advice))
  /-- `profile.ExternalURL`. -/
  externalURL : String
  /-- `advisor.Unsupported` and `advisor.NotFound`, codes defined outside
  these sources. -/
  adviceUnsupported : Int
  adviceNotFound : Int
  /-- `unicode.SimpleFold`, the case-folding table of Go's standard library. -/
  simpleFold : Char → Char

/-- A world whose store and VCS hold nothing (no repository, database,
task, principal or diff; every file reads as empty), whose parsers
recognise no file, whose case folding pairs no runes past ASCII, and which
accepts every write: the background a counterexample changes a few
answers of. -/
def World.quiet : World where
  findRepository _ := .ok []
  getDiffFileList _ _ _ := .ok []
  readFile _ _ _ := .ok ""
  findDatabase _ _ := .ok []
  getPrincipalByEmail _ := .ok none
  findTask _ _ := .ok []
  getIssueByPipelineID _ := .ok none
  patchTask _ _ _ := .ok ()
  createIssue c := .ok ⟨1, c.name⟩
  createActivity _ := .ok ()
  multiTenancy := true
  parseMigrationInfo _ _ _ := .ok none
  parseSchemaFileInfo _ _ _ := .ok none
  parseMigrationFileYAML _ := .ok ⟨[], ""⟩
  getDistinctFileList _ := []
  getNormalSQLReviewPolicy _ := .ok none
  convertToAdvisorDBType e := .ok e
  newCatalog _ _ := .ok ()
  getReadOnlyDatabaseDriver _ _ := .ok 0
  getDBConnection _ _ := .ok ()
  sqlReviewCheck _ _ _ _ := .ok (some [])
  externalURL := ""
  adviceUnsupported := 1
  adviceNotFound := 2
  simpleFold := id

/-- A store write the pipeline made, the record as it was accepted, or a
database driver it obtained or closed. -/
inductive Effect where
  | issueCreated (c : IssueCreate) (issue : Issue)
  | activityCreated (a : ActivityCreate)
  | taskPatched (t : Task) (p : TaskPatch)
  | driverOpened (driver : Nat)
  | driverClosed (driver : Nat)
  deriving DecidableEq, Repr

/-- The issues a list of writes created. -/
def Effect.issues : List Effect → List IssueCreate
  | [] => []
  | .issueCreated c _ :: rest => c :: Effect.issues rest
  | _ :: rest => Effect.issues rest

/-- The activities a list of writes recorded. -/
def Effect.activities : List Effect → List ActivityCreate
  | [] => []
  | .activityCreated a :: rest => a :: Effect.activities rest
  | _ :: rest => Effect.activities rest

@[simp] theorem Effect.issues_nil : Effect.issues [] = [] := rfl

@[simp] theorem Effect.issues_issueCreated (c : IssueCreate) (i : Issue) (rest : List Effect) :
    Effect.issues (.issueCreated c i :: rest) = c :: Effect.issues rest := rfl

@[simp] theorem Effect.issues_activityCreated (a : ActivityCreate) (rest : List Effect) :
    Effect.issues (.activityCreated a :: rest) = Effect.issues rest := rfl

@[simp] theorem Effect.issues_taskPatched (t : Task) (p : TaskPatch) (rest : List Effect) :
    Effect.issues (.taskPatched t p :: rest) = Effect.issues rest := rfl

@[simp] theorem Effect.activities_nil : Effect.activities [] = [] := rfl

@[simp] theorem Effect.activities_issueCreated (c : IssueCreate) (i : Issue) (rest : List Effect) :
    Effect.activities (.issueCreated c i :: rest) = Effect.activities rest := rfl

@[simp] theorem Effect.activities_activityCreated (a : ActivityCreate) (rest : List Effect) :
    Effect.activities (.activityCreated a :: rest) = a :: Effect.activities rest := rfl

@[simp] theorem Effect.activities_taskPatched (t : Task) (p : TaskPatch) (rest : List Effect) :
    Effect.activities (.taskPatched t p :: rest) = Effect.activities rest := rfl

@[simp] theorem Effect.issues_append (l l' : List Effect) :
    Effect.issues (l ++ l') = Effect.issues l ++ Effect.issues l' := by
  induction l with
  | nil => rfl
  | cons e rest ih => cases e <;> simp [Effect.issues, ih]

@[simp] theorem Effect.activities_append (l l' : List Effect) :
    Effect.activities (l ++ l') = Effect.activities l ++ Effect.activities l' := by
  induction l with
  | nil => rfl
  | cons e rest ih => cases e <;> simp [Effect.activities, ih]

theorem Effect.issues_flatMap {α : Type} (l : List α) (f : α → List Effect) :
    Effect.issues (l.flatMap f) = l.flatMap fun a => Effect.issues (f a) := by
  induction l with
  | nil => rfl
  | cons a rest ih => simp [ih]

/-- A database the store finds in project `projectID`, under some name. -/
def World.FindsIn (w : World) (projectID : Int) (database : Database) : Prop :=
  ∃ dbName found, w.findDatabase projectID dbName = .ok found ∧ database ∈ found

/-- A write that stays inside project `projectID`: an issue of the
project, an activity on it, or a patch of the one pending task the store
lists for a database it finds in the project. Drivers belong to no
project. -/
def Effect.InProject (w : World) (projectID : Int) : Effect → Prop
  | .issueCreated c _ => c.projectID = projectID
  | .activityCreated a => a.containerID = projectID
  | .taskPatched t _ => ∃ d, w.FindsIn projectID d ∧ ∃ schemaVersion, w.findTask d.id schemaVersion = .ok [t]
  | .driverOpened _ | .driverClosed _ => False

/-! ## The pipeline's computations -/

/-- A computation of the pipeline: the value returned (or the message of
the panic that ended it) and the store writes it made, in order. -/
structure Run (α : Type) where
  result : Except String α
  writes : List Effect

instance : Monad Run where
  pure a := ⟨.ok a, []⟩
  bind x f := match x.result with
    | .ok a => ⟨(f a).result, x.writes ++ (f a).writes⟩
    | .error e => ⟨.error e, x.writes⟩

namespace Run

variable {α β : Type}

/-- One store write that the store accepted. -/
def write (e : Effect) : Run Unit := ⟨.ok (), [e]⟩

/-- A Go run-time panic. -/
def panic (what : String) : Run α := ⟨.error ("runtime error: " ++ what), []⟩

@[simp] theorem result_pure (a : α) : (pure a : Run α).result = .ok a := rfl

@[simp] theorem writes_pure (a : α) : (pure a : Run α).writes = [] := rfl

@[simp] theorem result_bind (x : Run α) (f : α → Run β) :
    (x >>= f).result = x.result.bind fun a => (f a).result := by
  show (match x.result with
    | .ok a => (⟨(f a).result, x.writes ++ (f a).writes⟩ : Run β)
    | .error e => ⟨.error e, x.writes⟩).result = _
  cases x.result <;> rfl

@[simp] theorem writes_bind (x : Run α) (f : α → Run β) :
    (x >>= f).writes = x.writes ++ (match x.result with
      | .ok a => (f a).writes
      | .error _ => []) := by
  show (match x.result with
    | .ok a => (⟨(f a).result, x.writes ++ (f a).writes⟩ : Run β)
    | .error e => ⟨.error e, x.writes⟩).writes = _
  cases x.result <;> simp

theorem pure_bind (a : α) (f : α → Run β) : (pure a >>= f) = f a := rfl

/-- A sequence that returns: its first part returned a value, what follows
returned from it, and the writes are those of both parts. -/
theorem bind_eq_ok {x : Run α} {f : α → Run β} {b : β} (h : (x >>= f).result = .ok b) :
    ∃ a, x.result = .ok a ∧ (f a).result = .ok b ∧ (x >>= f).writes = x.writes ++ (f a).writes := by
  rw [result_bind] at h
  rcases hx : x.result with e | a <;> rw [hx] at h
  · cases h
  · exact ⟨a, rfl, h, by rw [writes_bind, hx]⟩

@[simp] theorem except_ok_bind {ε : Type} (a : α) (f : α → Except ε β) :
    (Except.ok a : Except ε α).bind f = f a := rfl

@[simp] theorem except_error_bind {ε : Type} (e : ε) (f : α → Except ε β) :
    (Except.error e : Except ε α).bind f = .error e := rfl

@[simp] theorem result_write (e : Effect) : (write e).result = .ok () := rfl

@[simp] theorem writes_write (e : Effect) : (write e).writes = [e] := rfl

@[simp] theorem result_panic (w : String) : (panic w : Run α).result = .error ("runtime error: " ++ w) := rfl

@[simp] theorem writes_panic (w : String) : (panic w : Run α).writes = [] := rfl

/-- A run that ends in no panic but `what`: it returns, or it panics with
`what`. -/
def PanicsOnlyWith (what : String) (r : Run α) : Prop := ∀ p, r.result = .error p → p = "runtime error: " ++ what

theorem panicsOnlyWith_pure (what : String) (a : α) : (pure a : Run α).PanicsOnlyWith what := fun _ h => nomatch h

theorem panicsOnlyWith_write (what : String) (e : Effect) : (write e).PanicsOnlyWith what := fun _ h => nomatch h

theorem panicsOnlyWith_panic (what : String) : (panic what : Run α).PanicsOnlyWith what :=
  fun _ h => (Except.error.inj h).symm

/-- A sequence panics only with `what` when its first part does, and so
does what follows every value the first part returns. -/
theorem PanicsOnlyWith.bind {what : String} {x : Run α} {f : α → Run β} (hx : x.PanicsOnlyWith what)
    (hf : ∀ a, x.result = .ok a → (f a).PanicsOnlyWith what) : (x >>= f).PanicsOnlyWith what := by
  intro p h
  rw [result_bind] at h
  rcases hr : x.result with e | a <;> rw [hr] at h
  · exact hx p (hr.trans (by simpa using h))
  · exact hf a hr p h

/-! ### Specifications

`r.Spec P Q`: every write of `r` satisfies `P`, and a value `r` returns
satisfies `Q`. The rules follow the shape of a `do` block, so the
specification of a function is proved from those of the functions it
calls, never by unfolding them. -/

/-- Every write satisfies `P`, and a returned value satisfies `Q`. -/
structure Spec (P : Effect → Prop) (Q : α → Prop) (r : Run α) : Prop where
  writes : ∀ e ∈ r.writes, P e
  result : ∀ a, r.result = .ok a → Q a

section Spec

variable {P P' : Effect → Prop} {Q Q' : α → Prop}

theorem spec_pure {a : α} (h : Q a) : (pure a : Run α).Spec P Q :=
  ⟨nofun, fun _ e => Except.ok.inj e ▸ h⟩

theorem spec_write {e : Effect} (h : P e) : (write e).Spec P fun _ => True :=
  ⟨fun _ he => List.mem_singleton.1 he ▸ h, fun _ _ => trivial⟩

theorem spec_panic (what : String) : (panic what : Run α).Spec P Q := ⟨nofun, fun _ h => nomatch h⟩

/-- A run that writes nothing meets every `P`. -/
theorem spec_of_writes_eq_nil {r : Run α} (hw : r.writes = []) (hq : ∀ a, r.result = .ok a → Q a) : r.Spec P Q :=
  ⟨fun _ he => absurd (hw ▸ he) (List.not_mem_nil _), hq⟩

/-- A sequence meets `P` when its first part does, and so does what
follows every value the first part may return. -/
theorem Spec.bind {R : β → Prop} {x : Run α} {f : α → Run β} (hx : x.Spec P Q) (hf : ∀ a, Q a → (f a).Spec P R) :
    (x >>= f).Spec P R := by
  constructor
  · intro e he
    rw [writes_bind] at he
    rcases List.mem_append.1 he with he | he
    · exact hx.writes e he
    rcases hr : x.result with err | a <;> rw [hr] at he
    · cases he
    · exact (hf a (hx.result a hr)).writes e he
  · intro b hb
    obtain ⟨a, ha, hfa, -⟩ := bind_eq_ok hb
    exact (hf a (hx.result a ha)).result b hfa

theorem Spec.mono {r : Run α} (h : r.Spec P Q) (hP : ∀ e, P e → P' e) (hQ : ∀ a, Q a → Q' a) : r.Spec P' Q' :=
  ⟨fun e he => hP e (h.writes e he), fun a ha => hQ a (h.result a ha)⟩

end Spec

end Run

end Bytebase.Webhook
