import JudgeVortex.Templates.SavedWorkspaces

/-!
# The focus guard

How `workspace.html` watches a student in an exam: the countdown that starts when the page
loses the focus, the disqualification at its end, and what else starts or ends an exam on
the page.
-/

namespace JudgeVortex.Templates

open JudgeVortex.Foundation JudgeVortex.Python

inductive GuardRequest where
  | lock (roomId : Int)
  -- `DISQUALIFIED_AUTO_SUBMIT`: the text of the open file.
  | autoSubmit (code language : String) (roomId questionId : Int)
  deriving DecidableEq, Repr

structure ExamPage where
  session : Session
  cheatTimer : Option Nat
  cheatCountdown : Int
  intervals : List Nat
  /-- What `setInterval` returns next; a reloaded page goes on with fresh numbers. -/
  nextTimer : Nat
  antiCheatModal : Bool
  examStateRefreshInFlight : Bool
  refreshing : List Int
  /-- How many calls of `disqualifyStudent` wait for the answer to each of their requests. -/
  locking : Nat
  submitting : Nat
  sent : List GuardRequest

def enforces (s : Session) : Bool := s.isExamActive && s.inExamMode && !s.isDisqualified

def shouldEnforceExamFocusRestriction (s : ExamPage) : Bool := enforces s.session

def startCheatTimer (s : ExamPage) : ExamPage :=
  if s.cheatTimer.isSome then s
  else
    { s with
      antiCheatModal := true
      cheatCountdown := 10
      cheatTimer := some s.nextTimer
      intervals := s.intervals ++ [s.nextTimer]
      nextTimer := s.nextTimer + 1 }

def stopCheatTimer (s : ExamPage) : ExamPage :=
  match s.cheatTimer with
  | none => { s with antiCheatModal := false }
  | some timer =>
      { s with
        intervals := s.intervals.filter (· ≠ timer)
        cheatTimer := none
        antiCheatModal := false }

def handleExamFocusLoss (s : ExamPage) : ExamPage :=
  if shouldEnforceExamFocusRestriction s then startCheatTimer s else s

def handleExamFocusReturn (hidden hasFocus : Bool) (s : ExamPage) : ExamPage :=
  if shouldEnforceExamFocusRestriction s ∧ !hidden ∧ hasFocus then stopCheatTimer s else s

def clearExamSession (s : ExamPage) : ExamPage :=
  { s with
    session := { s.session with assignedQuestionBank := [] }
    examStateRefreshInFlight := false }

def finishDisqualification (s : ExamPage) : ExamPage :=
  clearExamSession { s with antiCheatModal := false }

def autoSubmit (s : ExamPage) : ExamPage :=
  match activeKey s.session with
  | none => finishDisqualification s
  | some (roomId, questionId) =>
      { s with
        sent := s.sent ++
          [.autoSubmit s.session.editor.doc s.session.editor.language roomId questionId]
        submitting := s.submitting + 1 }

def disqualifyStudent (s : ExamPage) : ExamPage :=
  let s := { s with session := { s.session with isDisqualified := true } }
  match truthyId s.session.activeExamRoomId with
  | some roomId => { s with sent := s.sent ++ [.lock roomId], locking := s.locking + 1 }
  | none => autoSubmit s

def cheatTick (timer : Nat) (s : ExamPage) : ExamPage :=
  if timer ∉ s.intervals then s
  else
    let s := { s with cheatCountdown := s.cheatCountdown - 1 }
    if s.cheatCountdown ≤ 0 then
      disqualifyStudent { s with intervals := s.intervals.filter (some · ≠ s.cheatTimer) }
    else s

def endExam (s : ExamPage) : ExamPage :=
  let s := stopCheatTimer s
  { s with session := leaveRoom s.session, examStateRefreshInFlight := false }

def triggerTimeUp (s : ExamPage) : ExamPage :=
  clearExamSession (stopCheatTimer { s with session := { s.session with isExamActive := false } })

def startRefresh (s : ExamPage) : ExamPage :=
  match truthyId s.session.activeExamRoomId with
  | none => s
  | some roomId =>
      if s.examStateRefreshInFlight ∨ !s.session.inExamMode ∨ s.session.isDisqualified then s
      else { s with examStateRefreshInFlight := true, refreshing := s.refreshing ++ [roomId] }

inductive RefreshAnswer where
  | refused
  | failed
  | state (assigned : List Int) (changed stores : Bool)
  deriving DecidableEq, Repr

def finishRefresh (roomId : Int) (answer : RefreshAnswer) (s : ExamPage) : ExamPage :=
  if roomId ∉ s.refreshing then s
  else
    let s := { s with refreshing := s.refreshing.erase roomId }
    let s :=
      match answer with
      | .refused =>
          if s.session.inExamMode ∧ s.session.activeExamRoomId = some roomId then endExam s else s
      | .failed => s
      | .state assigned changed stores =>
          if s.session.activeExamRoomId = some roomId ∧ changed then
            { s with session := renderExamMode roomId assigned true stores s.session }
          else s
    { s with examStateRefreshInFlight := false }

/-- An event says what `document.hidden` and `document.hasFocus()` are when it is handled. -/
inductive GuardEvent where
  | visibilitychange (hidden hasFocus : Bool)
  | blur (hidden : Bool)
  | focus (hidden hasFocus : Bool)
  | pagehide
  | pageshow (hidden hasFocus : Bool)
  | tick (timer : Nat)
  | lockAnswered
  | submitAnswered
  | kicked (roomId : Option Int)
  | refresh
  | refreshed (roomId : Int) (answer : RefreshAnswer)
  -- Joining a room, or resuming the one that `localStorage` names.
  | joined (resumes : Bool) (roomId : Int) (assigned : List Int) (stores : Bool)
  | timeUp
  | edit (e : EditorEvent)
  | persist (stores : Bool)
  | openQuestion (qId : Int) (roomId : Option Int) (stores : Bool)
  | loadPastCode (sub : PastSubmission) (stores : Bool)
  | safeExitRoom
  deriving DecidableEq, Repr

section Step

variable (view : TextComponent) (initialLang : String)

def loadedPage (session : Session) (s : ExamPage) : ExamPage :=
  { s with
    session := session
    cheatTimer := none
    cheatCountdown := 10
    intervals := []
    antiCheatModal := false
    examStateRefreshInFlight := false
    refreshing := []
    locking := 0
    submitting := 0 }

def initialPage (stored : InsertionMap String SavedWorkspace) : ExamPage where
  session := initialSession view initialLang stored
  cheatTimer := none
  cheatCountdown := 10
  intervals := []
  nextTimer := 1
  antiCheatModal := false
  examStateRefreshInFlight := false
  refreshing := []
  locking := 0
  submitting := 0
  sent := []

def guardStep (s : ExamPage) : GuardEvent → ExamPage
  | .visibilitychange hidden hasFocus =>
      if hidden then handleExamFocusLoss s else handleExamFocusReturn hidden hasFocus s
  | .blur hidden => if hidden then s else handleExamFocusLoss s
  | .focus hidden hasFocus => handleExamFocusReturn hidden hasFocus s
  | .pagehide => handleExamFocusLoss { s with session := syncActiveExamSnapshot s.session }
  | .pageshow hidden hasFocus => handleExamFocusReturn hidden hasFocus s
  | .tick timer => cheatTick timer s
  | .lockAnswered =>
      if s.locking = 0 then s else autoSubmit { s with locking := s.locking - 1 }
  | .submitAnswered =>
      if s.submitting = 0 then s
      else finishDisqualification { s with submitting := s.submitting - 1 }
  | .kicked roomId =>
      if s.session.isExamActive ∧ (truthyId s.session.activeExamRoomId).isSome ∧
          (truthyId roomId = none ∨ s.session.activeExamRoomId = roomId) then endExam s
      else s
  | .refresh => startRefresh s
  | .refreshed roomId answer => finishRefresh roomId answer s
  | .joined resumes roomId assigned stores =>
      let s := if resumes then s else clearExamSession s
      { s with session := renderExamMode roomId assigned false stores s.session }
  | .timeUp => triggerTimeUp s
  | .edit e => { s with session := sessionStep view initialLang s.session (.edit e) }
  | .persist stores => { s with session := persistCurrentCode stores s.session }
  | .openQuestion qId roomId stores =>
      { s with session := setActiveQuestion view initialLang qId roomId stores s.session }
  | .loadPastCode sub stores =>
      { s with session := loadPastCode view initialLang sub stores s.session }
  | .safeExitRoom =>
      loadedPage (initialSession view initialLang s.session.stored) s

end Step

end JudgeVortex.Templates
