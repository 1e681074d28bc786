import Bytebase.Go.Map
import Bytebase.Api
import Bytebase.Xml
import Bytebase.WorkflowCommand

/-!
# Webhook — the SQL review reports

The two formatters the `/sql-review` endpoint answers with: a JUnit XML
document for GitLab CI (`convertSQLAdviceToGitLabCIResult`) and GitHub
Actions workflow commands (`convertSQLAdiceToGitHubActionResult`). Both
visit the files in `sort.Strings` order, skip the advices with code `0`,
and fold a status over the rest; GitHub also skips `SUCCESS` advices, and
the two update their status by different branches.

The aggregate status is the same in both, and is the most severe status
reported (`convertSQLAdvice_status`), as long as every status is one of
the advisor's three; the proof is one fold invariant per formatter
(`foldl_gitLabStatus`, `foldl_gitHubStatus`) over the advices in visiting
order, and the visiting order then drops out because the statement only
asks which statuses occur.

The GitLab document is built by `fmt.Sprintf` with no escaping, so a
title, path or content holding markup characters reaches the XML as
markup (`convertSQLAdviceToGitLabCIResult_unescaped`). The GitHub lines
escape only newlines: each is the workflow command of its advice
(`adviceCommand`) with the newlines escaped, so the runner reads it as
one line holding that command when nothing else in it needs an escape
(`convertSQLAdiceToGitHubActionResult_commands`); a comma in a title, a
title that starts with `=`, a `%` in a content, or a carriage return,
which ends the line, is read otherwise.
-/

namespace Bytebase.Webhook

open Bytebase.Go Bytebase.Api WorkflowCommand

/-- `sqlReviewDocs`. -/
def sqlReviewDocs : String := "https://www.bytebase.com/docs/reference/error-code/advisor"

/-- The line both formatters print: the advice's, and `1` when it is not
positive. -/
def adviceLine (advice : Advice) : Int := if advice.line ≤ 0 then 1 else advice.line

/-- The files of the map in the order both formatters visit them: the
keys collected by a `range` and sorted by `sort.Strings`, which is the
same list whatever order the `range` took. -/
def sortedFileList (adviceMap : GoMap String (List Advice)) : List String := sortStrings adviceMap.keys

/-- `adviceMap[filePath]`: `nil` for a path with no entry. -/
def advicesOf (adviceMap : GoMap String (List Advice)) (filePath : String) : List Advice :=
  (adviceMap.get? filePath).getD []

/-! ## GitLab CI -/

/-- The status update of `convertSQLAdviceToGitLabCIResult` for a reported
advice. -/
def gitLabStatus (status : String) (advice : Advice) : String :=
  if advice.status = statusError then advice.status
  else if advice.status = statusWarn ∧ status ≠ statusError then advice.status
  else status

/-- The failure text of an advice's test case. -/
def gitLabFailure (advice : Advice) : String :=
  "Error: " ++ advice.content ++ ".\nYou can check the docs at " ++ sqlReviewDocs ++ "#" ++ toString advice.code

/-- The `testcase` element of an advice. -/
def gitLabTestcase (filePath : String) (advice : Advice) : String :=
  "<testcase name=\"" ++ advice.title ++ "\" classname=\"" ++ filePath ++ "\" file=\"" ++ filePath ++ "#L" ++
    toString (adviceLine advice) ++ "\">\n<failure>\n" ++ gitLabFailure advice ++ "\n</failure>\n</testcase>"

/-- The advice loop of one file: the status so far and the file's test
cases. -/
def gitLabAdviceLoop (filePath : String) : String × List String → List Advice → String × List String
  | acc, [] => acc
  | (status, testcaseList), advice :: rest =>
    if advice.code = 0 then gitLabAdviceLoop filePath (status, testcaseList) rest
    else gitLabAdviceLoop filePath (gitLabStatus status advice, testcaseList ++ [gitLabTestcase filePath advice]) rest

/-- The `testsuite` element of a file with test cases. -/
def gitLabTestsuite (filePath : String) (testcaseList : List String) : String :=
  "<testsuite name=\"" ++ filePath ++ "\">\n" ++ join testcaseList "\n" ++ "\n</testsuite>"

/-- The file loop: the status so far and the test suites. -/
def gitLabFileLoop (adviceMap : GoMap String (List Advice)) : String × List String → List String → String × List String
  | acc, [] => acc
  | (status, testsuiteList), filePath :: rest =>
    let (status, testcaseList) := gitLabAdviceLoop filePath (status, []) (advicesOf adviceMap filePath)
    let testsuiteList :=
      if testcaseList.isEmpty then testsuiteList else testsuiteList ++ [gitLabTestsuite filePath testcaseList]
    gitLabFileLoop adviceMap (status, testsuiteList) rest

/-- `convertSQLAdviceToGitLabCIResult(adviceMap)`. -/
def convertSQLAdviceToGitLabCIResult (adviceMap : GoMap String (List Advice)) : VCSSQLReviewResult :=
  let (status, testsuiteList) := gitLabFileLoop adviceMap (statusSuccess, []) (sortedFileList adviceMap)
  ⟨status, ["<?xml version=\"1.0\" encoding=\"UTF-8\"?>\n<testsuites name=\"SQL Review\">\n" ++
    join testsuiteList "\n" ++ "\n</testsuites>"]⟩

/-! ## GitHub Actions -/

/-- The status update of `convertSQLAdiceToGitHubActionResult` for a
reported advice. -/
def gitHubStatus (status : String) (advice : Advice) : String :=
  if advice.status = statusError then advice.status
  else if status ≠ statusError then advice.status
  else status

/-- The workflow command of a reported advice, its newlines escaped. -/
def gitHubMessage (filePath : String) (advice : Advice) : String :=
  let kind := if advice.status = statusError then "error" else "warning"
  replaceAllRune ("::" ++ kind ++ " file=" ++ filePath ++ ",line=" ++ toString (adviceLine advice) ++
    ",col=1,endColumn=2,title=" ++ advice.title ++ " (" ++ toString advice.code ++ ")::" ++ advice.content ++
    "\nDoc: " ++ sqlReviewDocs ++ "#" ++ toString advice.code) '\n' "%0A"

/-- The advice loop of one file: the status so far and the messages. -/
def gitHubAdviceLoop (filePath : String) : String × List String → List Advice → String × List String
  | acc, [] => acc
  | (status, messageList), advice :: rest =>
    if advice.code = 0 ∨ advice.status = statusSuccess then gitHubAdviceLoop filePath (status, messageList) rest
    else gitHubAdviceLoop filePath (gitHubStatus status advice, messageList ++ [gitHubMessage filePath advice]) rest

/-- The file loop. -/
def gitHubFileLoop (adviceMap : GoMap String (List Advice)) : String × List String → List String → String × List String
  | acc, [] => acc
  | acc, filePath :: rest =>
    gitHubFileLoop adviceMap (gitHubAdviceLoop filePath acc (advicesOf adviceMap filePath)) rest

/-- `convertSQLAdiceToGitHubActionResult(adviceMap)`. -/
def convertSQLAdiceToGitHubActionResult (adviceMap : GoMap String (List Advice)) : VCSSQLReviewResult :=
  let (status, messageList) := gitHubFileLoop adviceMap (statusSuccess, []) (sortedFileList adviceMap)
  ⟨status, messageList⟩

/-! ## The aggregate status -/

/-- One of the advisor's three statuses. -/
def ValidStatus (s : String) : Prop := s = statusSuccess ∨ s = statusWarn ∨ s = statusError

instance : DecidablePred ValidStatus := fun _ => inferInstanceAs (Decidable (_ ∨ _ ∨ _))

/-- The aggregate status a report should carry: the most severe status,
`ERROR` before `WARN`, among the advices with a non-zero code; `SUCCESS`
when there is none. -/
def mostSevere (advices : List Advice) : String :=
  if ∃ a ∈ advices, a.code ≠ 0 ∧ a.status = statusError then statusError
  else if ∃ a ∈ advices, a.code ≠ 0 ∧ a.status = statusWarn then statusWarn
  else statusSuccess

/-- Where a status fold over reported advices ends, from `status`. -/
def severest (status : String) (advices : List Advice) : String :=
  if status = statusError ∨ ∃ a ∈ advices, a.status = statusError then statusError
  else if status = statusWarn ∨ ∃ a ∈ advices, a.status = statusWarn then statusWarn
  else statusSuccess

theorem severest_gitLabStatus {status : String} (hs : ValidStatus status) {a : Advice} (ha : ValidStatus a.status)
    (l : List Advice) : severest (gitLabStatus status a) l = severest status (a :: l) := by
  unfold ValidStatus at hs ha
  rcases hs with rfl | rfl | rfl <;> rcases ha with ha | ha | ha <;> simp [severest, gitLabStatus, ha]

theorem severest_gitHubStatus {status : String} (hs : ValidStatus status) {a : Advice}
    (ha : a.status = statusWarn ∨ a.status = statusError) (l : List Advice) :
    severest (gitHubStatus status a) l = severest status (a :: l) := by
  unfold ValidStatus at hs
  rcases hs with rfl | rfl | rfl <;> rcases ha with ha | ha <;> simp [severest, gitHubStatus, ha]

theorem validStatus_gitLabStatus {status : String} (hs : ValidStatus status) {a : Advice} (ha : ValidStatus a.status) :
    ValidStatus (gitLabStatus status a) := by
  unfold gitLabStatus; split_ifs <;> assumption

theorem validStatus_gitHubStatus {status : String} (hs : ValidStatus status) {a : Advice} (ha : ValidStatus a.status) :
    ValidStatus (gitHubStatus status a) := by
  unfold gitHubStatus; split_ifs <;> assumption

/-- **The GitLab status fold**: over reported advices with valid statuses,
it ends at the most severe status met. -/
theorem foldl_gitLabStatus {status : String} (hs : ValidStatus status) {l : List Advice}
    (hl : ∀ a ∈ l, ValidStatus a.status) : l.foldl gitLabStatus status = severest status l := by
  induction l generalizing status with
  | nil => unfold ValidStatus at hs; rcases hs with rfl | rfl | rfl <;> simp [severest]
  | cons a rest ih =>
    have ha := hl a (by simp)
    rw [List.foldl_cons, ih (validStatus_gitLabStatus hs ha) fun b hb => hl b (by simp [hb]),
      severest_gitLabStatus hs ha]

/-- **The GitHub status fold**: over advices it reports (`WARN` or `ERROR`),
it ends at the most severe status met. -/
theorem foldl_gitHubStatus {status : String} (hs : ValidStatus status) {l : List Advice}
    (hl : ∀ a ∈ l, a.status = statusWarn ∨ a.status = statusError) :
    l.foldl gitHubStatus status = severest status l := by
  induction l generalizing status with
  | nil => unfold ValidStatus at hs; rcases hs with rfl | rfl | rfl <;> simp [severest]
  | cons a rest ih =>
    have ha := hl a (by simp)
    have hv : ValidStatus a.status := by unfold ValidStatus; tauto
    rw [List.foldl_cons, ih (validStatus_gitHubStatus hs hv) fun b hb => hl b (by simp [hb]),
      severest_gitHubStatus hs ha]

/-- The status a GitLab advice loop ends with is the fold of the update
over the advices with a non-zero code. -/
theorem gitLabAdviceLoop_status (filePath status : String) (testcaseList : List String) (advices : List Advice) :
    (gitLabAdviceLoop filePath (status, testcaseList) advices).1 =
      (advices.filter (·.code ≠ 0)).foldl gitLabStatus status := by
  induction advices generalizing status testcaseList with
  | nil => rfl
  | cons a rest ih => by_cases h : a.code = 0 <;> simp [gitLabAdviceLoop, h, ih]

theorem gitLabFileLoop_status (adviceMap : GoMap String (List Advice)) (status : String)
    (testsuiteList : List String) (files : List String) :
    (gitLabFileLoop adviceMap (status, testsuiteList) files).1 =
      ((files.flatMap (advicesOf adviceMap)).filter (·.code ≠ 0)).foldl gitLabStatus status := by
  induction files generalizing status testsuiteList with
  | nil => rfl
  | cons f rest ih => simp [gitLabFileLoop, ih, gitLabAdviceLoop_status, List.filter_append]

/-- The status a GitHub advice loop ends with is the fold of the update
over the advices with a non-zero code and a status other than `SUCCESS`. -/
theorem gitHubAdviceLoop_status (filePath status : String) (messageList : List String) (advices : List Advice) :
    (gitHubAdviceLoop filePath (status, messageList) advices).1 =
      (advices.filter fun a => a.code ≠ 0 ∧ a.status ≠ statusSuccess).foldl gitHubStatus status := by
  induction advices generalizing status messageList with
  | nil => rfl
  | cons a rest ih =>
    by_cases h : a.code = 0 ∨ a.status = statusSuccess
    · simp only [gitHubAdviceLoop, if_pos h, ih]
      simp [List.filter_cons, not_and_or.mpr (by tauto : ¬ a.code ≠ 0 ∨ ¬ a.status ≠ statusSuccess)]
    · simp only [gitHubAdviceLoop, if_neg h, ih]
      simp [List.filter_cons, not_or.mp h]

theorem gitHubFileLoop_status (adviceMap : GoMap String (List Advice)) (status : String)
    (messageList : List String) (files : List String) :
    (gitHubFileLoop adviceMap (status, messageList) files).1 =
      ((files.flatMap (advicesOf adviceMap)).filter fun a => a.code ≠ 0 ∧ a.status ≠ statusSuccess).foldl
        gitHubStatus status := by
  induction files generalizing status messageList with
  | nil => rfl
  | cons f rest ih =>
    simp only [gitHubFileLoop]
    rw [ih, gitHubAdviceLoop_status]
    simp [List.filter_append]

theorem severest_success {l' l : List Advice}
    (hE : (∃ a ∈ l', a.status = statusError) ↔ ∃ a ∈ l, a.code ≠ 0 ∧ a.status = statusError)
    (hW : (∃ a ∈ l', a.status = statusWarn) ↔ ∃ a ∈ l, a.code ≠ 0 ∧ a.status = statusWarn) :
    severest statusSuccess l' = mostSevere l := by
  simp only [severest, mostSevere, hE, hW, statusSuccess_ne_statusError, statusSuccess_ne_statusWarn, false_or]

/-- **Both reports carry the most severe status.** For every advice map
whose statuses are the advisor's three, the GitLab and the GitHub
formatters return the same status: the most severe status among the
advices with a non-zero code, `SUCCESS` when there is none. -/
theorem convertSQLAdvice_status (adviceMap : GoMap String (List Advice))
    (h : ∀ e ∈ adviceMap.entries, ∀ a ∈ e.2, ValidStatus a.status) :
    (convertSQLAdviceToGitLabCIResult adviceMap).status = mostSevere (adviceMap.entries.flatMap (·.2)) ∧
    (convertSQLAdiceToGitHubActionResult adviceMap).status = mostSevere (adviceMap.entries.flatMap (·.2)) := by
  have hmem := adviceMap.mem_flatMap_get? (sortStrings_perm adviceMap.keys)
  have hvalid : ∀ a ∈ (sortedFileList adviceMap).flatMap (advicesOf adviceMap), ValidStatus a.status := by
    intro a ha
    obtain ⟨e, he, hae⟩ := List.mem_flatMap.1 ((hmem a).1 ha)
    exact h e he a hae
  constructor
  · show (gitLabFileLoop adviceMap (statusSuccess, []) (sortedFileList adviceMap)).1 = _
    rw [gitLabFileLoop_status, foldl_gitLabStatus (.inl rfl) fun a ha => hvalid a (List.mem_filter.1 ha).1]
    apply severest_success <;> simp [advicesOf, sortedFileList, ← hmem, and_assoc]
  · show (gitHubFileLoop adviceMap (statusSuccess, []) (sortedFileList adviceMap)).1 = _
    rw [gitHubFileLoop_status, foldl_gitHubStatus (.inl rfl) fun a ha => ?_]
    · have reported : ∀ {s t : String}, t ≠ statusSuccess → ((¬s = statusSuccess ∧ s = t) ↔ s = t) :=
        fun ht => ⟨And.right, fun h => ⟨h ▸ ht, h⟩⟩
      apply severest_success <;>
        simp [advicesOf, sortedFileList, ← hmem, and_assoc, reported statusError_ne_statusSuccess,
          reported statusWarn_ne_statusSuccess]
    · obtain ⟨ha, hq⟩ := List.mem_filter.1 ha
      have hs : a.status ≠ statusSuccess := (of_decide_eq_true hq).2
      rcases hvalid a ha with h | h | h
      · exact absurd h hs
      · exact .inl h
      · exact .inr h

/-- Two files, visited as `a.sql` then `b.sql`: a warning and an
error-marked advice of code `0` in `a.sql`, a success in `b.sql`. -/
def twoFileAdvice : GoMap String (List Advice) :=
  ⟨[("b.sql", [⟨statusSuccess, 201, "t", "c", 3⟩]),
    ("a.sql", [⟨statusWarn, 101, "t", "c", 0⟩, ⟨statusError, 0, "t", "c", 1⟩])], by decide⟩

theorem convertSQLAdvice_status_twoFiles :
    (∀ e ∈ twoFileAdvice.entries, ∀ a ∈ e.2, ValidStatus a.status) ∧
    (convertSQLAdviceToGitLabCIResult twoFileAdvice).status = mostSevere (twoFileAdvice.entries.flatMap (·.2)) ∧
    (convertSQLAdiceToGitHubActionResult twoFileAdvice).status = mostSevere (twoFileAdvice.entries.flatMap (·.2)) :=
  ⟨by decide, convertSQLAdvice_status twoFileAdvice (by decide)⟩

example : mostSevere (twoFileAdvice.entries.flatMap (·.2)) = statusWarn := by decide

/-! ## The GitLab document -/

/-- One warning whose content quotes a statement with `<`, as advisor
contents quote the offending statement. -/
def lessThanAdvice : GoMap String (List Advice) :=
  ⟨[("migration/1__delete.sql",
    [⟨statusWarn, 202, "statement.where.require", "\"DELETE FROM t WHERE a < 1\" deletes rows", 1⟩])], by decide⟩

/-- The same warning about a statement with `=`. -/
def equalsAdvice : GoMap String (List Advice) :=
  ⟨[("migration/1__delete.sql",
    [⟨statusWarn, 202, "statement.where.require", "\"DELETE FROM t WHERE a = 1\" deletes rows", 1⟩])], by decide⟩

set_option maxRecDepth 20000 in
/-- The `<` of the quoted statement lands in the `failure` element as the
start of a tag with no name, and the document is refused there; the same
report about a statement without `<` is well-formed. -/
theorem convertSQLAdviceToGitLabCIResult_unescaped :
    (convertSQLAdviceToGitLabCIResult lessThanAdvice).content.map (fun c => Xml.document c.toList) =
      [.error (.malformed "name")] ∧
    (convertSQLAdviceToGitLabCIResult equalsAdvice).content.map (fun c => Xml.document c.toList) = [.ok ()] := by
  decide

/-! ## The GitHub lines -/

/-- The workflow command an advice should reach GitHub as: its severity,
its file and line, and its title, code and content. -/
def adviceCommand (filePath : String) (advice : Advice) : Command :=
  ⟨if advice.status = statusError then "error" else "warning",
    [("file", filePath), ("line", toString (max advice.line 1)), ("col", "1"), ("endColumn", "2"),
      ("title", advice.title ++ " (" ++ toString advice.code ++ ")")],
    advice.content ++ "\nDoc: " ++ sqlReviewDocs ++ "#" ++ toString advice.code⟩

theorem adviceLine_eq_max (advice : Advice) : adviceLine advice = max advice.line 1 := by
  unfold adviceLine; split_ifs <;> omega

/-- A GitHub line is the advice's workflow command with its newlines
escaped. -/
theorem gitHubMessage_eq_render (filePath : String) (advice : Advice) :
    gitHubMessage filePath advice = replaceAllRune ⟨render (adviceCommand filePath advice)⟩ '\n' "%0A" := by
  rw [gitHubMessage, adviceLine_eq_max]
  refine congrArg (fun s => replaceAllRune s '\n' "%0A") (String.ext ?_)
  have hone (a : List Char) : [','].intercalate [a] = a := by simp [List.intercalate]
  simp only [String.data_append, List.append_assoc, render, adviceCommand, String.toList, List.map_cons, List.map_nil,
    intercalate_comma_cons_cons, hone, List.cons_append, List.nil_append]

theorem plainValue_toString (i : Int) : PlainValue (toString i) := by
  refine ⟨toString_int_ne_nil i, fun hh => ?_, fun c hc => ?_⟩
  · rcases mem_toString_int (List.mem_of_mem_head? hh) with h | h <;> exact absurd h (by decide)
  · rcases mem_toString_int hc with rfl | hd
    · decide
    · refine ⟨?_, ?_, ?_, ?_⟩ <;> rintro rfl <;> exact absurd hd (by decide)

theorem toList_title (title : String) (code : Int) :
    (title ++ " (" ++ toString code ++ ")").toList = title.toList ++ ' ' :: '(' :: ((toString code).toList ++ [')']) := by
  simp only [String.toList, String.data_append, List.append_assoc]
  rfl

/-- The title property of an advice, its title and then its code in
parentheses, is a plain value when the title is plain text that does not
start with `=`. -/
theorem plainValue_title {title : String} (code : Int) (ht : PlainText title)
    (hhead : title.toList.head? ≠ some '=') : PlainValue (title ++ " (" ++ toString code ++ ")") := by
  rw [PlainValue, toList_title]
  refine ⟨by simp, ?_, fun c hc => ?_⟩
  · rcases htl : title.toList with _ | ⟨d, ds⟩
    · simp
    · rw [htl] at hhead
      simpa using hhead
  · rw [toList_title] at hc
    simp only [List.mem_append, List.mem_cons, List.mem_singleton, List.not_mem_nil, or_false] at hc
    rcases hc with hc | rfl | rfl | hc | rfl
    · exact ht c hc
    · decide
    · decide
    · exact (plainValue_toString code).2.2 c hc
    · decide

/-- An advice whose path is a plain value, whose title is plain text not
starting with `=`, and whose content has no `%` or carriage return has a
command GitHub reads back. -/
theorem renderable_adviceCommand {filePath : String} {advice : Advice} (hpath : PlainValue filePath)
    (htitle : PlainText advice.title) (hhead : advice.title.toList.head? ≠ some '=')
    (hpercent : '%' ∉ advice.content.toList) (hcr : '\r' ∉ advice.content.toList) :
    Renderable (adviceCommand filePath advice) where
  name_ne := by unfold adviceCommand; split <;> dsimp only <;> decide
  name := by unfold adviceCommand; split <;> dsimp only <;> decide
  key := by
    simp only [adviceCommand, List.mem_cons, List.mem_singleton, List.not_mem_nil, or_false]
    rintro p (rfl | rfl | rfl | rfl | rfl) <;> dsimp only <;> decide
  value := by
    simp only [adviceCommand, List.mem_cons, List.mem_singleton, List.not_mem_nil, or_false]
    rintro p (rfl | rfl | rfl | rfl | rfl)
    · exact hpath
    · exact plainValue_toString _
    · decide
    · decide
    · exact plainValue_title _ htitle hhead
  last := by
    intro p hp c hc
    obtain rfl : ("title", advice.title ++ " (" ++ toString advice.code ++ ")") = p := Option.some.inj hp
    rw [toList_title, show advice.title.toList ++ ' ' :: '(' :: ((toString advice.code).toList ++ [')']) =
      (advice.title.toList ++ ' ' :: '(' :: (toString advice.code).toList) ++ [')'] by simp, List.getLast?_concat] at hc
    obtain rfl : ')' = c := Option.some.inj hc
    decide
  data := by
    intro c hc
    simp only [adviceCommand, String.toList, String.data_append, List.mem_append] at hc
    rcases hc with (((hc | hc) | hc) | hc) | hc
    · exact ⟨fun h => hpercent (h ▸ hc), fun h => hcr (h ▸ hc)⟩
    · revert c; decide
    · revert c; decide
    · revert c; decide
    · exact ⟨((plainValue_toString _).2.2 c hc).2.2.1, ((plainValue_toString _).2.2 c hc).2.2.2⟩

/-- The messages a GitHub advice loop adds: one per advice with a non-zero
code and a status other than `SUCCESS`, in order. -/
theorem gitHubAdviceLoop_messages (filePath status : String) (messageList : List String) (advices : List Advice) :
    (gitHubAdviceLoop filePath (status, messageList) advices).2 =
      messageList ++ (advices.filter fun a => a.code ≠ 0 ∧ a.status ≠ statusSuccess).map (gitHubMessage filePath) := by
  induction advices generalizing status messageList with
  | nil => simp [gitHubAdviceLoop]
  | cons a rest ih =>
    by_cases h : a.code = 0 ∨ a.status = statusSuccess
    · simp only [gitHubAdviceLoop, if_pos h, ih]
      simp [List.filter_cons, not_and_or.mpr (by tauto : ¬ a.code ≠ 0 ∨ ¬ a.status ≠ statusSuccess)]
    · simp only [gitHubAdviceLoop, if_neg h, ih]
      simp [List.filter_cons, not_or.mp h]

theorem gitHubFileLoop_messages (adviceMap : GoMap String (List Advice)) (status : String)
    (messageList : List String) (files : List String) :
    (gitHubFileLoop adviceMap (status, messageList) files).2 =
      messageList ++ files.flatMap fun filePath =>
        ((advicesOf adviceMap filePath).filter fun a => a.code ≠ 0 ∧ a.status ≠ statusSuccess).map
          (gitHubMessage filePath) := by
  induction files generalizing status messageList with
  | nil => simp [gitHubFileLoop]
  | cons f rest ih =>
    simp only [gitHubFileLoop]
    rw [← Prod.mk.eta (p := gitHubAdviceLoop f (status, messageList) (advicesOf adviceMap f)), ih,
      gitHubAdviceLoop_messages]
    simp

/-- `sort.Strings` leaves the paths in ascending order, each once. -/
theorem sortedFileList_sorted (adviceMap : GoMap String (List Advice)) :
    (sortedFileList adviceMap).Sorted (· < ·) := by
  have hle : ∀ a b, (stringLess b a = false ↔ a ≤ b) := fun a b => by
    rw [← not_lt, ← stringLess_iff, Bool.not_eq_true]
  haveI : IsTotal String fun a b => stringLess b a = false := ⟨fun a b => by simp only [hle]; exact le_total a b⟩
  haveI : IsTrans String fun a b => stringLess b a = false := ⟨fun a b c => by simp only [hle]; exact le_trans⟩
  exact List.Sorted.lt_of_le ((List.sorted_insertionSort _ adviceMap.keys).imp fun h => (hle _ _).1 h)
    ((sortStrings_perm _).nodup_iff.2 adviceMap.nodup)

/-- **What the GitHub formatter prints.** For every advice map, one
workflow command per advice with a non-zero code and a status other than
`SUCCESS`, the files in ascending path order; and each is read, by
GitHub's rules, as one line holding the advice's severity, file, line (at
least `1`), title, code and content, when the path is a plain value, the
title plain text that does not start with `=`, and the content has no `%`
and no carriage return. -/
theorem convertSQLAdiceToGitHubActionResult_commands (adviceMap : GoMap String (List Advice)) :
    (convertSQLAdiceToGitHubActionResult adviceMap).content =
        (sortedFileList adviceMap).flatMap (fun filePath =>
          ((advicesOf adviceMap filePath).filter fun a => a.code ≠ 0 ∧ a.status ≠ statusSuccess).map
            (gitHubMessage filePath)) ∧
      (sortedFileList adviceMap).Sorted (· < ·) ∧
      ∀ filePath advice, PlainValue filePath → PlainText advice.title → advice.title.toList.head? ≠ some '=' →
        '%' ∉ advice.content.toList → '\r' ∉ advice.content.toList →
        (lines (gitHubMessage filePath advice).toList).map parse = [some (adviceCommand filePath advice)] := by
  refine ⟨?_, sortedFileList_sorted adviceMap, fun filePath advice hpath htitle hhead hpercent hcr => ?_⟩
  · show (gitHubFileLoop adviceMap (statusSuccess, []) (sortedFileList adviceMap)).2 = _
    rw [gitHubFileLoop_messages, List.nil_append]
  · rw [gitHubMessage_eq_render]
    exact parse_render _ (renderable_adviceCommand hpath htitle hhead hpercent hcr)

theorem convertSQLAdiceToGitHubActionResult_commands_twoFiles :
    PlainValue "a.sql" ∧ PlainText "t" ∧ "t".toList.head? ≠ some '=' ∧ '%' ∉ "c".toList ∧ '\r' ∉ "c".toList ∧
      (lines (gitHubMessage "a.sql" ⟨statusWarn, 101, "t", "c", 0⟩).toList).map parse =
        [some (adviceCommand "a.sql" ⟨statusWarn, 101, "t", "c", 0⟩)] :=
  ⟨by decide, by decide, by decide, by decide, by decide,
    (convertSQLAdiceToGitHubActionResult_commands twoFileAdvice).2.2 _ _ (by decide) (by decide) (by decide)
      (by decide) (by decide)⟩

/-- A warning whose title holds a comma, one whose title starts with `=`,
one whose content quotes `LIKE '100%25'`, and one whose content holds a
carriage return. -/
def misreadAdvice : GoMap String (List Advice) :=
  ⟨[("a.sql", [⟨statusWarn, 101, "Avoid a, b", "c", 1⟩, ⟨statusWarn, 101, "= NULL", "c", 1⟩,
    ⟨statusWarn, 101, "t", "LIKE '100%25'", 1⟩, ⟨statusWarn, 101, "t", "c\rd", 1⟩])], by decide⟩

set_option maxRecDepth 20000 in
/-- The four warnings are printed, and GitHub reads the first title only
up to its comma, the second without its leading `=`, the third content's
`%25` as `%`, and the fourth message as two lines: a command whose content
ends at the carriage return, and a line that is no command. -/
theorem convertSQLAdiceToGitHubActionResult_misread :
    ((convertSQLAdiceToGitHubActionResult misreadAdvice).content.map fun message =>
        (lines message.toList).map fun line =>
          (parse line).map fun cmd => (cmd.properties.lookup "title", cmd.data.toList.takeWhile (· != '\n'))) =
      [[some (some "Avoid a", "c".toList)], [some (some " NULL (101)", "c".toList)],
        [some (some "t (101)", "LIKE '100%'".toList)], [some (some "t (101)", "c".toList), none]] := by
  decide

end Bytebase.Webhook
