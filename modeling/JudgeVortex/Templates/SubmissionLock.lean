import JudgeVortex.Foundation.InsertionMap
import JudgeVortex.Foundation.Tasks
import Mathlib.Data.PNat.Basic

/-!
# The submission lock of the student workspace

The Run and Submit handlers of `workspace.html`, the pollers and the websocket, with what they
share: the run that is active, the questions with a pending submission, the evaluations and the
table of pollers.  A handler or a poller goes on when the answer that it awaits arrives.
-/

namespace JudgeVortex.Templates

open JudgeVortex.Foundation

/-- Keys of the database start at 1, so that none is falsy. -/
abbrev Key := ℕ+

structure UpperCase where
  toUpperCase : String → String
  idem : ∀ text, toUpperCase (toUpperCase text) = toUpperCase text
  capitals : ∀ text, text.toList.all Char.isUpper → toUpperCase text = text

theorem toUpper_of_not_lower {c : Char} (h : ¬ ('a'.val ≤ c.val ∧ c.val ≤ 'z'.val)) :
    c.toUpper = c :=
  dif_neg h

theorem toUpper_of_isUpper (c : Char) (h : c.isUpper) : c.toUpper = c := by
  have hupper : c.val ≥ 'A'.val ∧ c.val ≤ 'Z'.val := of_decide_eq_true h
  exact toUpper_of_not_lower fun hlower =>
    absurd (UInt32.le_trans hlower.1 hupper.2) (by decide)

theorem val_toUpper {c : Char} (h : 'a'.val ≤ c.val ∧ c.val ≤ 'z'.val) :
    c.toUpper.val = c.val + ('A'.val - 'a'.val) := by
  delta Char.toUpper
  rw [dif_pos h]

theorem toUpper_toUpper (c : Char) : c.toUpper.toUpper = c.toUpper := by
  by_cases hlower : 'a'.val ≤ c.val ∧ c.val ≤ 'z'.val
  · have hval := val_toUpper hlower
    refine toUpper_of_not_lower ?_
    have ha : 'a'.val.toNat = 97 := rfl
    have hz : 'z'.val.toNat = 122 := rfl
    have hshift : ('A'.val - 'a'.val).toNat = 4294967264 := rfl
    rw [hval]
    simp only [UInt32.le_iff_toNat_le, UInt32.toNat_add, ha, hz, hshift] at hlower ⊢
    omega
  · rw [toUpper_of_not_lower hlower, toUpper_of_not_lower hlower]

def UpperCase.ascii : UpperCase where
  toUpperCase text := .ofList (text.toList.map Char.toUpper)
  idem text := by
    rw [String.toList_ofList, List.map_map]
    congr 2
    exact funext toUpper_toUpper
  capitals text h := by
    have hsame : text.toList.map Char.toUpper = text.toList.map id :=
      List.map_congr_left fun c hc => toUpper_of_isUpper c (List.all_eq_true.mp h c hc)
    rw [hsame, List.map_id, String.ofList_toList]

/-- What the page reads of a submission; a field that is absent is none. -/
structure SubmissionData where
  id : Option Key
  questionId : Option Key
  status : Option String
  deriving DecidableEq

def SubmissionData.unreadable : SubmissionData := ⟨none, none, none⟩

structure Server where
  questionOf : Key → Option Key

def Server.submission (server : Server) (id : Key) (status : String) : SubmissionData :=
  ⟨id, server.questionOf id, status⟩

section Statuses

variable (js : UpperCase)

def isPendingSubmissionStatus (status : Option String) : Bool :=
  js.toUpperCase (status.getD "") ∈ ["PENDING", "PROCESSING"]

def isTerminalSubmissionStatus (status : Option String) : Bool :=
  ! isPendingSubmissionStatus js status

def normalizeVerdictStatus (status : String) : String :=
  let normalized := js.toUpperCase status
  if normalized = "SUCCESS" then "PASSED" else normalized

def isSolvedVerdict (status : Option String) : Bool :=
  normalizeVerdictStatus js (status.getD "") = "PASSED"

end Statuses

/-! ## What the handlers share -/

/-- `activeRunSubmissionId`: absent, `__request__` or an id. -/
inductive ActiveRun where
  | free
  | request
  | submission (id : Key)
  deriving DecidableEq

inductive PollerPhase where
  | requested
  | scheduled
  | stopped
  deriving DecidableEq

/-- The closure of a `beginSubmissionTracking`.  `scheduled`: its timer is set. -/
structure Poller where
  submissionId : Key
  attempts : ℕ
  phase : PollerPhase
  deriving DecidableEq

def Poller.cancel (poller : Poller) : Poller :=
  if poller.phase = .scheduled then { poller with phase := .stopped } else poller

/-- A poller has one timer at a time, which the table names by the number of the poller. -/
structure Locks where
  activeRunSubmissionId : ActiveRun
  pendingExamQuestionSubmissions : Finset Key
  pendingEvaluations : InsertionMap Key (Option Key)
  questionVerdicts : InsertionMap Key String
  submissionPollers : InsertionMap Key (Option ℕ)
  pollers : List Poller

def clearTimeout (pollers : List Poller) (timerId : Option ℕ) : List Poller :=
  match timerId with
  | none => pollers
  | some k => pollers.modify k Poller.cancel

namespace Locks

variable (js : UpperCase) (locks : Locks)

def isAnySubmissionPending : Bool :=
  locks.activeRunSubmissionId ≠ .free ∨ locks.pendingExamQuestionSubmissions ≠ ∅

def markRunSubmissionPending (run : ActiveRun) : Locks :=
  { locks with activeRunSubmissionId := run }

def clearRunSubmissionPending (submissionId : Option Key) : Locks :=
  if submissionId = none ∨ locks.activeRunSubmissionId = .request ∨
      ∃ id ∈ submissionId, locks.activeRunSubmissionId = .submission id then
    { locks with activeRunSubmissionId := .free }
  else locks

def markExamQuestionSubmissionPending (questionId : Option Key) : Locks :=
  match questionId with
  | none => locks
  | some question =>
      { locks with
        pendingExamQuestionSubmissions := insert question locks.pendingExamQuestionSubmissions }

def clearExamQuestionSubmissionPending (questionId : Option Key) : Locks :=
  match questionId with
  | none => locks
  | some question =>
      { locks with
        pendingExamQuestionSubmissions := locks.pendingExamQuestionSubmissions.erase question }

def applyQuestionVerdict (questionId : Option Key) (status : String) : Locks :=
  match questionId with
  | none => locks
  | some question =>
      let normalizedStatus := normalizeVerdictStatus js status
      if isSolvedVerdict js (locks.questionVerdicts.get? question) ∧
          normalizedStatus ≠ "PASSED" then
        locks
      else
        { locks with questionVerdicts := locks.questionVerdicts.set question normalizedStatus }

def clearSubmissionTracking (submissionId : Key) : Locks :=
  match locks.submissionPollers.get? submissionId with
  | none => locks
  | some timerId =>
      { locks with
        pollers := clearTimeout locks.pollers timerId
        submissionPollers := locks.submissionPollers.delete submissionId }

def clearAllSubmissionTracking : Locks :=
  { locks with
    pollers := locks.submissionPollers.values.foldl clearTimeout locks.pollers
    submissionPollers := .empty
    activeRunSubmissionId := .free
    pendingExamQuestionSubmissions := ∅ }

def clearExamSession : Locks :=
  { locks with
    questionVerdicts := .empty
    pendingEvaluations := .empty }.clearAllSubmissionTracking

def releaseSubmission (submissionId : Key) (questionId : Option Key) : Locks :=
  match questionId with
  | some question => locks.clearExamQuestionSubmissionPending question
  | none => locks.clearRunSubmissionPending (some submissionId)

def handleSubmissionResolution (submission : SubmissionData) : Locks :=
  match submission.id with
  | none => locks
  | some submissionId =>
      let normalizedStatus := normalizeVerdictStatus js
        ((submission.status.filter fun status => status ≠ "").getD "PENDING")
      let questionId :=
        submission.questionId.or (locks.pendingEvaluations.get? submissionId).join
      if isTerminalSubmissionStatus js (some normalizedStatus) then
        let locks :=
          if (locks.pendingEvaluations.get? submissionId).isSome ∧ questionId.isSome then
            let judged := locks.applyQuestionVerdict js questionId normalizedStatus
            { judged with pendingEvaluations := judged.pendingEvaluations.delete submissionId }
          else locks
        (locks.clearSubmissionTracking submissionId).releaseSubmission submissionId questionId
      else locks

/-- The first poll is sent at once. -/
def beginSubmissionTracking (submissionId : Key) (questionId : Option Key) : Locks :=
  let locks := match questionId with
    | none => locks
    | some question =>
        { locks with
          pendingEvaluations := locks.pendingEvaluations.set submissionId (some question) }
  let locks := locks.clearSubmissionTracking submissionId
  { locks with
    submissionPollers := locks.submissionPollers.set submissionId none
    pollers := locks.pollers ++ [⟨submissionId, 1, .requested⟩] }

/-! ## Pollers -/

def setPhase (k : ℕ) (phase : PollerPhase) : Locks :=
  { locks with pollers := locks.pollers.modify k fun poller => { poller with phase := phase } }

def poll (k : ℕ) : Locks :=
  { locks with
    pollers := locks.pollers.modify k fun poller =>
      if poller.phase = .scheduled then
        { poller with attempts := poller.attempts + 1, phase := .requested }
      else poller }

/-- The `finally` of a poll that is not resolved. -/
def scheduleNextPoll (k : ℕ) (submissionId : Key) : Locks :=
  if (locks.submissionPollers.get? submissionId).isSome then
    { locks.setPhase k .scheduled with
      submissionPollers := locks.submissionPollers.set submissionId (some k) }
  else locks.setPhase k .stopped

def giveUp (submissionId : Key) : Locks :=
  let locks := locks.clearSubmissionTracking submissionId
  match locks.pendingEvaluations.get? submissionId with
  | some questionId =>
      let locks := { locks with
        pendingEvaluations := locks.pendingEvaluations.delete submissionId }
      (locks.applyQuestionVerdict js questionId "ERROR").clearExamQuestionSubmissionPending
        questionId
  | none => locks.clearRunSubmissionPending (some submissionId)

def maxAttempts : ℕ := 40

/-- What `fetchSubmissionStatus` meets: it raises, it is answered with an error, or with a
body, whose status is absent where the body is not JSON. -/
inductive PollAnswer where
  | failed
  | refused
  | accepted (status : Option String)
  deriving DecidableEq

def PollAnswer.submission (server : Server) (id : Key) : Option String → SubmissionData
  | none => .unreadable
  | some status => server.submission id status

def continuePolling (k : ℕ) (poller : Poller) : Locks :=
  if maxAttempts ≤ poller.attempts then (locks.giveUp js poller.submissionId).setPhase k .stopped
  else locks.scheduleNextPoll k poller.submissionId

def polled (server : Server) (k : ℕ) (poller : Poller) : PollAnswer → Locks
  | .failed =>
      if maxAttempts ≤ poller.attempts then
        (locks.clearSubmissionTracking poller.submissionId).setPhase k .stopped
      else locks.scheduleNextPoll k poller.submissionId
  | .refused => locks.continuePolling js k poller
  | .accepted status =>
      let locks := locks.handleSubmissionResolution js
        (PollAnswer.submission server poller.submissionId status)
      if isTerminalSubmissionStatus js status then locks.setPhase k .stopped
      else locks.continuePolling js k poller

/-! ## The lock of a submission that the server still holds -/

def markPendingSubmission (submissionId : Key) : Option Key → Locks
  | some question =>
      let free :=
        if locks.activeRunSubmissionId = .request then locks.markRunSubmissionPending .free
        else locks
      let marked := free.markExamQuestionSubmissionPending question
      { marked with
        pendingEvaluations := marked.pendingEvaluations.set submissionId (some question) }
  | none => locks.markRunSubmissionPending (.submission submissionId)

def restorePendingSubmissionLock (pendingSubmission : Option SubmissionData) : Bool × Locks :=
  match pendingSubmission with
  | none => (false, locks)
  | some submission =>
      match submission.id with
      | none => (false, locks)
      | some submissionId =>
          if ! isPendingSubmissionStatus js submission.status then (false, locks)
          else
            let marked := locks.markPendingSubmission submissionId submission.questionId
            if (marked.submissionPollers.get? submissionId).isSome then (true, marked)
            else (true, marked.beginSubmissionTracking submissionId submission.questionId)

end Locks

/-! ## Handlers -/

/-- What a handler awaits: the snapshot of the workspace, the answer to the submission that it
sent for this question, or the list of submissions. -/
inductive Awaited where
  | snapshot
  | response (questionId : Option Key)
  | pendingList
  | finished
  deriving DecidableEq

/-- Who awaits: the Run button, the Submit button with the question that was active and its
verdict, or the start of the page. -/
inductive Caller where
  | run
  | submit (questionId : Key) (previousQuestionVerdict : String)
  | bootstrap
  deriving DecidableEq

structure Handler where
  caller : Caller
  awaited : Awaited
  deriving DecidableEq

inductive Mode where
  | practice
  | exam
  deriving DecidableEq

structure Page extends Locks where
  currentMode : Mode
  isExamActive : Bool
  activeExamRoomId : Option Key
  activeExamQuestionId : Option Key
  handlers : List Handler

/-- What a `POST` to `/api/submissions/submit/` meets: it raises, it is answered with an error
status, or with a submission, which is absent where the body gives no id. -/
inductive PostAnswer where
  | failed
  | refused (status : ℕ)
  | accepted (created : Option (Key × String))
  deriving DecidableEq

inductive ListAnswer where
  | failed
  | refused
  | accepted (submissions : List (Key × String))

def ListAnswer.latestPending (js : UpperCase) (server : Server) :
    ListAnswer → Option SubmissionData
  | .failed | .refused => none
  | .accepted submissions =>
      (submissions.map fun entry => server.submission entry.1 entry.2).find? fun submission =>
        isPendingSubmissionStatus js submission.status

inductive Event where
  | clickRun
  | clickSubmit
  | setActiveQuestion (questionId : Key) (roomId : Option Key)
  | snapshotSynced (handler : ℕ)
  | responded (handler : ℕ) (answer : PostAnswer)
  | listed (handler : ℕ) (answer : ListAnswer)
  | timer (poller : ℕ)
  | polled (poller : ℕ) (answer : Locks.PollAnswer)
  | message (submissionId : Key) (status : String)
  | kicked (roomId : Option Key)

namespace Page

variable (js : UpperCase) (server : Server) (page : Page)

def await (k : ℕ) (awaited : Awaited) : Page :=
  { page with
    handlers := page.handlers.modify k fun handler => { handler with awaited := awaited } }

def start (handler : Handler) : Page := { page with handlers := page.handlers ++ [handler] }

def finish (k : ℕ) (locks : Locks) : Page := { page with toLocks := locks }.await k .finished

def clickRun : Page :=
  if page.isAnySubmissionPending then page
  else
    { page with toLocks := page.markRunSubmissionPending .request }.start
      ⟨.run, .response none⟩

def clickSubmit : Page :=
  match page.currentMode, page.activeExamQuestionId with
  | .exam, some questionId =>
      if page.isAnySubmissionPending then page
      else
        let previousQuestionVerdict := (page.questionVerdicts.get? questionId).getD ""
        let locks := (page.applyQuestionVerdict js questionId "EVALUATING")
          |>.markExamQuestionSubmissionPending questionId
        { page with toLocks := locks }.start
          ⟨.submit questionId previousQuestionVerdict, .snapshot⟩
  | _, _ => page

def runResponded (k : ℕ) : PostAnswer → Page
  | .failed => page.finish k (page.clearRunSubmissionPending none)
  | .refused status =>
      if status = 429 then page.await k .pendingList
      else page.finish k (page.clearRunSubmissionPending none)
  | .accepted none => page.finish k (page.clearRunSubmissionPending none)
  | .accepted (some (id, status)) =>
      let locks := page.markRunSubmissionPending (.submission id)
      page.finish k <|
        if isTerminalSubmissionStatus js (some status) then
          locks.handleSubmissionResolution js (server.submission id status)
        else locks.beginSubmissionTracking id none

/-- The Submit handler ends with an error: the question that is active then gets it. -/
def submitFailed : Locks :=
  (page.clearExamQuestionSubmissionPending page.activeExamQuestionId).applyQuestionVerdict js
    page.activeExamQuestionId "ERROR"

def submitResponded (k : ℕ) : PostAnswer → Page
  | .failed => page.finish k (page.submitFailed js)
  | .refused status =>
      if status = 429 then
        { page with
          toLocks := page.clearExamQuestionSubmissionPending page.activeExamQuestionId }.await k
            .pendingList
      else page.finish k (page.submitFailed js)
  | .accepted none => page.finish k (page.submitFailed js)
  | .accepted (some (id, status)) =>
      page.finish k <|
        if isTerminalSubmissionStatus js (some status) then
          { page.toLocks with
            pendingEvaluations := page.pendingEvaluations.set id page.activeExamQuestionId
          }.handleSubmissionResolution js (server.submission id status)
        else page.beginSubmissionTracking id page.activeExamQuestionId

def runListed (k : ℕ) (answer : ListAnswer) : Page :=
  let (recovered, locks) :=
    page.restorePendingSubmissionLock js (answer.latestPending js server)
  page.finish k (if recovered then locks else locks.clearRunSubmissionPending none)

def submitListed (k : ℕ) (previousQuestionVerdict : String) (answer : ListAnswer) : Page :=
  match answer with
  | .failed => page.finish k (page.submitFailed js)
  | .refused | .accepted _ =>
      let (recovered, locks) :=
        page.restorePendingSubmissionLock js (answer.latestPending js server)
      page.finish k <|
        locks.applyQuestionVerdict js page.activeExamQuestionId
          (if recovered then previousQuestionVerdict else "ERROR")

def bootstrapListed (k : ℕ) (answer : ListAnswer) : Page :=
  page.finish k (page.restorePendingSubmissionLock js (answer.latestPending js server)).2

def Answers (questionId : Option Key) : PostAnswer → Prop
  | .accepted (some (id, _)) => server.questionOf id = questionId
  | _ => True

instance (questionId : Option Key) : DecidablePred (Answers server questionId)
  | .accepted (some _) => inferInstanceAs (Decidable (_ = _))
  | .failed | .refused _ | .accepted none => .isTrue trivial

def kicked (roomId : Option Key) : Page :=
  if page.isExamActive ∧ page.activeExamRoomId.isSome ∧
      (roomId = none ∨ page.activeExamRoomId = roomId) then
    { page with
      toLocks := page.clearExamSession
      isExamActive := false
      activeExamRoomId := none
      activeExamQuestionId := none }
  else page

/-- An answer that nothing awaits, or that the server does not give, changes nothing. -/
def step : Event → Page
  | .clickRun => page.clickRun
  | .clickSubmit => page.clickSubmit js
  | .setActiveQuestion questionId roomId =>
      { page with
        activeExamQuestionId := some questionId
        activeExamRoomId := roomId.or page.activeExamRoomId }
  | .snapshotSynced k =>
      match page.handlers[k]? with
      | some ⟨.submit _ _, .snapshot⟩ => page.await k (.response page.activeExamQuestionId)
      | _ => page
  | .responded k answer =>
      match page.handlers[k]? with
      | some ⟨.run, .response questionId⟩ =>
          if Answers server questionId answer then page.runResponded js server k answer else page
      | some ⟨.submit _ _, .response questionId⟩ =>
          if Answers server questionId answer then page.submitResponded js server k answer
          else page
      | _ => page
  | .listed k answer =>
      match page.handlers[k]? with
      | some ⟨.run, .pendingList⟩ => page.runListed js server k answer
      | some ⟨.submit _ previousQuestionVerdict, .pendingList⟩ =>
          page.submitListed js server k previousQuestionVerdict answer
      | some ⟨.bootstrap, .pendingList⟩ => page.bootstrapListed js server k answer
      | _ => page
  | .timer k => { page with toLocks := page.poll k }
  | .polled k answer =>
      match page.pollers[k]? with
      | some ⟨submissionId, attempts, .requested⟩ =>
          { page with
            toLocks := page.polled js server k ⟨submissionId, attempts, .requested⟩ answer }
      | _ => page
  | .message submissionId status =>
      { page with
        toLocks := page.handleSubmissionResolution js (server.submission submissionId status) }
  | .kicked roomId => page.kicked roomId

end Page

end JudgeVortex.Templates
