import JudgeVortex.Foundation.Runs
import JudgeVortex.Templates.BackedLocks

/-!
# Runs of the student workspace

In a run in which a Submit handler finds the question that it was started for wherever it reads
it again, and no answer ends a poller that a mark needs, no mark is ever orphaned and every failed
submit is settled on its own question.
-/

namespace JudgeVortex.Templates

open JudgeVortex.Foundation

/-! ## Requests in flight -/

def Awaited.isResponse : Awaited → Bool
  | .response _ => true
  | .snapshot | .pendingList | .finished => false

def PostAnswer.created : PostAnswer → Option (Key × String)
  | .accepted created => created
  | .failed | .refused _ => none

def Caller.submits : Caller → Option Key
  | .submit questionId _ => some questionId
  | .run | .bootstrap => none

def Handler.submits (handler : Handler) : Option Key :=
  match handler.caller, handler.awaited with
  | .submit questionId _, .snapshot => some questionId
  | .submit _ _, .response questionId => questionId
  | _, _ => none

def Handler.Runs (handler : Handler) : Prop :=
  handler.caller = .run ∧ handler.awaited ≠ .finished

instance (handler : Handler) : Decidable handler.Runs :=
  inferInstanceAs (Decidable (_ ∧ _))

def Handler.Faithful (handler : Handler) : Prop :=
  ∀ questionId, handler.awaited = .response questionId →
    match handler.caller with
    | .run => questionId = none
    | .submit question _ => questionId = some question
    | .bootstrap => True

namespace Page

def Asked (page : Page) (question : Key) : Prop :=
  ∃ handler ∈ page.handlers, handler.submits = some question

instance (page : Page) (question : Key) : Decidable (page.Asked question) :=
  inferInstanceAs (Decidable (∃ _ ∈ _, _))

def Running (page : Page) : Prop := ∃ handler ∈ page.handlers, handler.Runs

/-- Every mark has a request in flight or a live poller, of that question or that run. -/
structure LocksHeld (server : Server) (page : Page) : Prop where
  question : ∀ question ∈ page.pendingExamQuestionSubmissions, page.Asked question ∨
    ∃ poller ∈ page.pollers, poller.Live ∧ server.questionOf poller.submissionId = some question
  request : page.activeRunSubmissionId = .request → page.Running
  run : ∀ id, page.activeRunSubmissionId = .submission id →
    ∃ poller ∈ page.pollers, poller.Live ∧ poller.submissionId = id

structure Guarded (server : Server) (page : Page) : Prop where
  sound : Locks.Sound server page.Asked page.Running page.toLocks
  faithful : ∀ handler ∈ page.handlers, handler.Faithful

variable (js : UpperCase) {server : Server} {page : Page}

theorem Guarded.locksHeld (h : page.Guarded server) : page.LocksHeld server := by
  have hlive : ∀ id, (page.submissionPollers.get? id).isSome →
      ∃ poller ∈ page.pollers, poller.submissionId = id ∧ poller.Live := h.sound.tracked.live
  refine ⟨fun question hmem => ?_, h.sound.backed.runRequest, fun id hid => ?_⟩
  · refine (h.sound.backed.question question hmem).imp_right ?_
    rintro ⟨id, hquestion, hhand | htable⟩
    · cases hhand
    · obtain ⟨poller, hpoller, rfl, hlive⟩ := hlive id htable
      exact ⟨poller, hpoller, hlive, hquestion⟩
  · obtain ⟨-, hhand | htable⟩ := h.sound.backed.runSubmission id hid
    · cases hhand
    · obtain ⟨poller, hpoller, howner, hlive⟩ := hlive id htable
      exact ⟨poller, hpoller, hlive, howner⟩

/-! ## Handlers that start, go on and end -/

theorem guarded_start (h : page.Guarded server) {locks : Locks} {handler : Handler}
    (hfaithful : handler.Faithful)
    (hsound : Locks.Sound server
      (fun question => page.Asked question ∨ handler.submits = some question)
      (page.Running ∨ handler.Runs) locks) :
    (Page.start { page with toLocks := locks } handler).Guarded server := by
  refine ⟨hsound.mono ?_ ?_, ?_⟩
  · rintro question (⟨other, hmem, hother⟩ | hhandler)
    · exact ⟨other, List.mem_append_left _ hmem, hother⟩
    · exact ⟨handler, List.mem_append_right _ (List.mem_singleton.mpr rfl), hhandler⟩
  · rintro (⟨other, hmem, hother⟩ | hhandler)
    · exact ⟨other, List.mem_append_left _ hmem, hother⟩
    · exact ⟨handler, List.mem_append_right _ (List.mem_singleton.mpr rfl), hhandler⟩
  · intro other hmem
    obtain hmem | hmem := List.mem_append.mp hmem
    · exact h.faithful other hmem
    · exact List.mem_singleton.mp hmem ▸ hfaithful

variable {k : ℕ} {handler : Handler}

theorem guarded_await (h : page.Guarded server) (hget : page.handlers[k]? = some handler)
    {awaited : Awaited} (hfaithful : Handler.Faithful ⟨handler.caller, awaited⟩) {locks : Locks}
    (hsound : Locks.Sound server
      (fun question => page.Asked question ∧
        (handler.submits = some question →
          Handler.submits ⟨handler.caller, awaited⟩ = some question))
      (page.Running ∧ (handler.Runs → Handler.Runs ⟨handler.caller, awaited⟩)) locks) :
    (Page.await { page with toLocks := locks } k awaited).Guarded server := by
  refine ⟨hsound.mono ?_ ?_, ?_⟩
  · rintro question ⟨hasked, hkept⟩
    refine exists_mem_modify hasked fun other hother hsubmits => ?_
    cases hget.symm.trans hother
    exact hkept hsubmits
  · rintro ⟨hrunning, hkept⟩
    refine exists_mem_modify hrunning fun other hother hruns => ?_
    cases hget.symm.trans hother
    exact hkept hruns
  · refine forall_mem_modify h.faithful fun other hother _ => ?_
    cases hget.symm.trans hother
    exact hfaithful

theorem guarded_finish (h : page.Guarded server) (hget : page.handlers[k]? = some handler)
    {locks : Locks}
    (hsound : Locks.Sound server
      (fun question => page.Asked question ∧ handler.submits ≠ some question)
      (page.Running ∧ ¬ handler.Runs) locks) :
    (page.finish k locks).Guarded server := by
  refine guarded_await h hget (fun questionId hresponse => ?_) (hsound.mono ?_ ?_)
  · cases hresponse
  · exact fun question hasked => hasked.imp_right fun hother hsubmits => absurd hsubmits hother
  · exact fun hrunning => hrunning.imp_right fun hother hruns => absurd hruns hother

/-- A Submit handler that goes on finds its own question active. -/
def Undistracted (page : Page) (k : ℕ) (awaits : Awaited → Bool) : Prop :=
  ∀ handler ∈ page.handlers[k]?, awaits handler.awaited → ∀ question ∈ handler.caller.submits,
    page.activeExamQuestionId = some question

instance (page : Page) (k : ℕ) (awaits : Awaited → Bool) :
    Decidable (page.Undistracted k awaits) :=
  inferInstanceAs (Decidable (∀ _ ∈ page.handlers[k]?, _))

/-- A Submit handler that reads the active question again finds its own, unless it only tracks
the submission that it is given; no answer leaves a mark without its poller. -/
def Undisturbed (js : UpperCase) (server : Server) (page : Page) : Event → Prop
  | .snapshotSynced k => page.Undistracted k (· = .snapshot)
  | .responded k answer =>
      (answer.created = none → page.Undistracted k Awaited.isResponse) ∧
        ∀ created ∈ answer.created, created.2 ≠ ""
  | .listed k answer =>
      answer.latestPending js server = none → page.Undistracted k (· = .pendingList)
  | .polled k answer => ∀ poller ∈ page.pollers[k]?, poller.phase = .requested →
      page.Resolvable js server poller answer
  | .clickRun | .clickSubmit | .setActiveQuestion _ _ | .timer _ | .message _ _ | .kicked _ =>
      True

instance (js : UpperCase) (server : Server) (page : Page) :
    DecidablePred (page.Undisturbed js server)
  | .snapshotSynced k => inferInstanceAs (Decidable (page.Undistracted k (· = .snapshot)))
  | .responded _ _ => inferInstanceAs (Decidable (_ ∧ _))
  | .listed _ _ => inferInstanceAs (Decidable (_ = none → _))
  | .polled k _ => inferInstanceAs (Decidable (∀ _ ∈ page.pollers[k]?, _))
  | .clickRun | .clickSubmit | .setActiveQuestion _ _ | .timer _ | .message _ _ | .kicked _ =>
      .isTrue trivial

theorem guarded_clickRun (h : page.Guarded server) : page.clickRun.Guarded server := by
  rw [clickRun]
  split
  next => exact h
  next =>
    refine guarded_start h ?_ ⟨⟨fun _ => .inr ?_, fun id hid => ?_, fun question hmem => ?_⟩, ?_⟩
    · rintro questionId ⟨⟩
      rfl
    · decide
    · cases hid
    · exact (h.sound.backed.question question hmem).imp_left .inl
    · exact h.sound.tracked.congr rfl rfl rfl

theorem guarded_clickSubmit (h : page.Guarded server) : (page.clickSubmit js).Guarded server := by
  unfold clickSubmit
  split
  next questionId _ _ =>
    split
    next => exact h
    next =>
      have hverdict := h.sound.applyQuestionVerdict js questionId "EVALUATING"
      refine guarded_start h (fun _ hresponse => by cases hresponse)
        ⟨⟨fun hrequest => .inl (hverdict.backed.runRequest hrequest),
          hverdict.backed.runSubmission, fun question hmem => ?_⟩, ?_⟩
      · obtain rfl | hmem := Finset.mem_insert.mp hmem
        · exact .inl (.inr rfl)
        · exact (hverdict.backed.question question hmem).imp_left .inl
      · exact hverdict.tracked.congr rfl rfl rfl
  next => exact h

theorem guarded_snapshotSynced (h : page.Guarded server) {question : Key} {previous : String}
    (hget : page.handlers[k]? = some ⟨.submit question previous, .snapshot⟩)
    (hactive : page.activeExamQuestionId = some question) :
    (page.await k (.response page.activeExamQuestionId)).Guarded server := by
  have hfaithful : Handler.Faithful ⟨.submit question previous, .response (some question)⟩ := by
    rintro questionId ⟨⟩
    rfl
  rw [hactive]
  exact guarded_await h hget hfaithful (h.sound.mono (fun other hasked => ⟨hasked, id⟩)
    fun hrunning => ⟨hrunning, fun hruns => by cases hruns.1⟩)

section Answered

variable {k : ℕ}

theorem guarded_finishRun (h : page.Guarded server) {awaited : Awaited}
    (hget : page.handlers[k]? = some ⟨.run, awaited⟩) {locks : Locks}
    (hsound : Locks.Sound server page.Asked False locks) :
    (page.finish k locks).Guarded server := by
  refine guarded_finish h hget (hsound.mono (fun question hasked => ⟨hasked, ?_⟩) False.elim)
  intro hsubmits
  cases hsubmits

theorem guarded_runResponded (h : page.Guarded server) {sent : Option Key}
    (hget : page.handlers[k]? = some ⟨.run, .response sent⟩) {answer : PostAnswer}
    (hanswers : Answers server sent answer) (hstatus : ∀ created ∈ answer.created, created.2 ≠ "") :
    (page.runResponded js server k answer).Guarded server := by
  have hcleared := guarded_finishRun h hget h.sound.clearRun
  cases answer with
  | failed => exact hcleared
  | refused status =>
      rw [runResponded]
      split
      next =>
        refine guarded_await h hget (fun _ hresponse => by cases hresponse)
          (h.sound.mono (fun question hasked => ⟨hasked, fun hsubmits => ?_⟩)
            fun hrunning => ⟨hrunning, fun _ => ⟨rfl, fun heq => by cases heq⟩⟩)
        cases hsubmits
      next => exact hcleared
  | accepted created =>
      cases created with
      | none => exact hcleared
      | some created =>
          obtain ⟨id, status⟩ := created
          have hsent : sent = none :=
            h.faithful ⟨.run, .response sent⟩ (List.mem_of_getElem? hget) sent rfl
          have hquestion : server.questionOf id = none := hsent ▸ hanswers
          exact guarded_finishRun h hget (h.sound.beginRun js hquestion (hstatus _ rfl))

theorem guarded_finishSubmit (h : page.Guarded server) {question : Key} {previous : String}
    {awaited : Awaited} (hget : page.handlers[k]? = some ⟨.submit question previous, awaited⟩)
    (hawaited : Handler.submits ⟨.submit question previous, awaited⟩ = some question)
    {locks : Locks}
    (hsound : Locks.Sound server (fun other => page.Asked other ∧ other ≠ question) page.Running
      locks) : (page.finish k locks).Guarded server := by
  refine guarded_finish h hget (hsound.mono ?_ fun hrunning => ⟨hrunning, fun hruns => ?_⟩)
  · rintro other ⟨hasked, hne⟩
    exact ⟨hasked, fun hsubmits => hne (Option.some.inj (hsubmits.symm.trans hawaited))⟩
  · cases hruns.1

theorem sound_submitFailed (h : page.Guarded server) {question : Key}
    (hactive : page.activeExamQuestionId = some question) :
    Locks.Sound server (fun other => page.Asked other ∧ other ≠ question) page.Running
      (page.submitFailed js) := by
  rw [submitFailed, hactive]
  exact (h.sound.clearQuestion question).applyQuestionVerdict js _ _

theorem guarded_submitResponded (h : page.Guarded server) {question : Key} {previous : String}
    {sent : Option Key}
    (hget : page.handlers[k]? = some ⟨.submit question previous, .response sent⟩)
    {answer : PostAnswer}
    (hactive : answer.created = none → page.activeExamQuestionId = some question)
    (hanswers : Answers server sent answer) (hstatus : ∀ created ∈ answer.created, created.2 ≠ "") :
    (page.submitResponded js server k answer).Guarded server := by
  have hsent : sent = some question :=
    h.faithful ⟨.submit question previous, .response sent⟩ (List.mem_of_getElem? hget) sent rfl
  have hsubmits : Handler.submits ⟨.submit question previous, .response sent⟩ = some question :=
    hsent
  have hfailed := fun hactive =>
    guarded_finishSubmit h hget hsubmits (sound_submitFailed js h hactive)
  cases answer with
  | failed => exact hfailed (hactive rfl)
  | refused status =>
      rw [submitResponded]
      split
      next =>
        have hfaithful : Handler.Faithful ⟨.submit question previous, .pendingList⟩ :=
          fun _ hresponse => by cases hresponse
        have hcleared := h.sound.clearQuestion question
        rw [← hactive rfl] at hcleared
        refine guarded_await h hget hfaithful (hcleared.mono ?_ ?_)
        · rintro other ⟨hasked, hne⟩
          refine ⟨hasked, fun hother => absurd ?_ hne⟩
          exact Option.some.inj (hother.symm.trans hsubmits)
        · exact fun hrunning => ⟨hrunning, fun hruns => by cases hruns.1⟩
      next => exact hfailed (hactive rfl)
  | accepted created =>
      cases created with
      | none => exact hfailed (hactive rfl)
      | some created =>
          obtain ⟨id, status⟩ := created
          have hquestion : server.questionOf id = some question := hsent ▸ hanswers
          exact guarded_finishSubmit h hget hsubmits
            (h.sound.beginSubmit js hquestion page.activeExamQuestionId (hstatus _ rfl))

theorem latestPending_server (answer : ListAnswer) :
    ∀ submission ∈ answer.latestPending js server, ∃ id status,
      submission = server.submission id status := by
  intro submission hfound
  cases answer with
  | failed => cases hfound
  | refused => cases hfound
  | accepted submissions =>
      obtain ⟨entry, -, heq⟩ := List.mem_map.mp (List.mem_of_find?_eq_some hfound)
      exact ⟨entry.1, entry.2, heq.symm⟩

theorem guarded_runListed (h : page.Guarded server)
    (hget : page.handlers[k]? = some ⟨.run, .pendingList⟩) (answer : ListAnswer) :
    (page.runListed js server k answer).Guarded server := by
  rw [runListed]
  obtain heq | ⟨hrecovered, hsound⟩ :=
    h.sound.restorePendingSubmissionLock js (latestPending_server js answer)
  · simp only [heq]
    exact guarded_finishRun h hget h.sound.clearRun
  · simp only [hrecovered, if_true]
    exact guarded_finishRun h hget hsound

theorem guarded_finishListed (h : page.Guarded server) {caller : Caller} (hcaller : caller ≠ .run)
    (hget : page.handlers[k]? = some ⟨caller, .pendingList⟩) {locks : Locks}
    (hsound : Locks.Sound server page.Asked page.Running locks) :
    (page.finish k locks).Guarded server := by
  refine guarded_finish h hget (hsound.mono (fun question hasked => ⟨hasked, ?_⟩)
    fun hrunning => ⟨hrunning, fun hruns => hcaller hruns.1⟩)
  intro hsubmits
  cases caller <;> cases hsubmits

theorem sound_restored (h : page.Guarded server) (answer : ListAnswer) :
    Locks.Sound server page.Asked page.Running
      (page.restorePendingSubmissionLock js (answer.latestPending js server)).2 := by
  obtain heq | ⟨-, hsound⟩ :=
    h.sound.restorePendingSubmissionLock js (latestPending_server js answer)
  · rw [heq]
    exact h.sound
  · exact hsound.mono (fun _ hasked => hasked) False.elim

theorem guarded_submitListed (h : page.Guarded server) {question : Key} {previous : String}
    (hget : page.handlers[k]? = some ⟨.submit question previous, .pendingList⟩)
    (answer : ListAnswer) : (page.submitListed js server k previous answer).Guarded server := by
  have hfinish := fun {locks : Locks}
      (hsound : Locks.Sound server page.Asked page.Running locks) =>
    guarded_finishListed h (fun heq => by cases heq) hget hsound
  have hrestored := fun status : String =>
    (sound_restored js h answer).applyQuestionVerdict js page.activeExamQuestionId status
  cases answer with
  | failed =>
      have hcleared := h.sound.clearExamQuestion page.activeExamQuestionId
      exact hfinish (hcleared.applyQuestionVerdict js page.activeExamQuestionId "ERROR")
  | refused => exact hfinish (hrestored _)
  | accepted submissions => exact hfinish (hrestored _)

/-! ## Steps -/

theorem guarded_step (h : page.Guarded server) (event : Event)
    (hundisturbed : page.Undisturbed js server event) :
    (page.step js server event).Guarded server := by
  cases event with
  | clickRun => exact guarded_clickRun h
  | clickSubmit => exact guarded_clickSubmit js h
  | setActiveQuestion questionId roomId => exact ⟨h.sound, h.faithful⟩
  | snapshotSynced k =>
      rw [step]
      split
      next question previous hget =>
        exact guarded_snapshotSynced h hget (hundisturbed _ hget rfl question rfl)
      next => exact h
  | responded k answer =>
      rw [step]
      split
      next sent hget =>
        split
        next hanswers => exact guarded_runResponded js h hget hanswers hundisturbed.2
        next => exact h
      next question previous sent hget =>
        split
        next hanswers =>
          have hactive := fun hnone => hundisturbed.1 hnone _ hget rfl question rfl
          exact guarded_submitResponded js h hget hactive hanswers hundisturbed.2
        next => exact h
      next => exact h
  | listed k answer =>
      rw [step]
      split
      next hget => exact guarded_runListed js h hget answer
      next hget => exact guarded_submitListed js h hget answer
      next hget =>
        exact guarded_finishListed h (fun heq => by cases heq) hget (sound_restored js h answer)
      next => exact h
  | timer k => exact ⟨h.sound.poll k, h.faithful⟩
  | polled k answer =>
      rw [step]
      split
      next submissionId attempts hget =>
        exact ⟨h.sound.polled js hget (hundisturbed _ hget rfl), h.faithful⟩
      next => exact h
  | message submissionId status =>
      exact ⟨h.sound.handleSubmissionResolution js submissionId status, h.faithful⟩
  | kicked roomId =>
      rw [step, kicked]
      split
      next =>
        have htracked := Locks.tracked_clearExamSession server page.toLocks
        exact ⟨Locks.sound_of_free htracked rfl rfl, h.faithful⟩
      next => exact h

/-! ## Failed submits -/

/-- A solved question keeps its verdict, any other gets `ERROR`. -/
def errorVerdicts (js : UpperCase) (verdicts : InsertionMap Key String) (question : Key) :
    InsertionMap Key String :=
  if isSolvedVerdict js (verdicts.get? question) then verdicts else verdicts.set question "ERROR"

theorem questionVerdicts_applyError (locks : Locks) (question : Key) :
    (locks.applyQuestionVerdict js question "ERROR").questionVerdicts =
      errorVerdicts js locks.questionVerdicts question := by
  have herror : normalizeVerdictStatus js "ERROR" = "ERROR" := by
    rw [normalizeVerdictStatus, js.capitals "ERROR" (by decide)]
    rfl
  rw [Locks.applyQuestionVerdict, herror, errorVerdicts]
  by_cases hsolved : isSolvedVerdict js (locks.questionVerdicts.get? question)
  · rw [if_pos ⟨hsolved, by decide⟩, if_pos hsolved]
  · rw [if_neg fun h => hsolved h.1, if_neg hsolved]

variable (page) in
/-- The answer to a submission for the question brings no submission. -/
inductive SubmitRefused (question : Key) : Event → Prop where
  | response {k : ℕ} {previous : String} {sent : Option Key} {answer : PostAnswer}
      (awaits : page.handlers[k]? = some ⟨.submit question previous, .response sent⟩)
      (fails : ∀ created, answer ≠ .accepted (some created)) :
      SubmitRefused question (.responded k answer)

variable (server page) in
/-- The Submit handler for the question ends with an error: its submission is refused for another
reason than the limit, or the server holds no other one. -/
inductive SubmitFails (question : Key) : Event → Prop where
  | response {k : ℕ} {previous : String} {sent : Option Key} {answer : PostAnswer}
      (awaits : page.handlers[k]? = some ⟨.submit question previous, .response sent⟩)
      (fails : ∀ created, answer ≠ .accepted (some created)) (unlimited : answer ≠ .refused 429) :
      SubmitFails question (.responded k answer)
  | list {k : ℕ} {previous : String} {answer : ListAnswer}
      (awaits : page.handlers[k]? = some ⟨.submit question previous, .pendingList⟩)
      (nothing : answer.latestPending js server = none) : SubmitFails question (.listed k answer)

/-- A failed submit takes the mark of the question that was submitted and gives it the error. -/
structure FailuresHandled (js : UpperCase) (server : Server) (page : Page) (event : Event) :
    Prop where
  mark : ∀ question, page.SubmitRefused question event →
    question ∉ (page.step js server event).pendingExamQuestionSubmissions
  verdict : ∀ question, page.SubmitFails js server question event →
    (page.step js server event).questionVerdicts =
      errorVerdicts js page.questionVerdicts question

theorem submitFailed_spec (page : Page) {question : Key}
    (hactive : page.activeExamQuestionId = some question) :
    question ∉ (page.submitFailed js).pendingExamQuestionSubmissions ∧
      (page.submitFailed js).questionVerdicts =
        errorVerdicts js page.questionVerdicts question := by
  rw [submitFailed, hactive]
  constructor
  · rw [Locks.pending_applyQuestionVerdict]
    exact Finset.notMem_erase question _
  · exact questionVerdicts_applyError js _ question

theorem created_eq_none {answer : PostAnswer}
    (hfails : ∀ created, answer ≠ .accepted (some created)) : answer.created = none := by
  cases answer with
  | failed => rfl
  | refused status => rfl
  | accepted created =>
      cases created with
      | none => rfl
      | some created => exact absurd rfl (hfails created)

theorem step_responded {question : Key} {previous : String} {sent : Option Key}
    {answer : PostAnswer}
    (hget : page.handlers[k]? = some ⟨.submit question previous, .response sent⟩)
    (hfails : ∀ created, answer ≠ .accepted (some created)) :
    page.step js server (.responded k answer) = page.submitResponded js server k answer := by
  have hanswers : Answers server sent answer := by
    cases answer with
    | failed => trivial
    | refused status => trivial
    | accepted created =>
        cases created_eq_none hfails
        trivial
  rw [step, hget]
  exact if_pos hanswers

theorem submitResponded_failed (page : Page) (k : ℕ) {question : Key}
    (hactive : page.activeExamQuestionId = some question) {answer : PostAnswer}
    (hnone : answer.created = none) :
    let responded := page.submitResponded js server k answer
    question ∉ responded.pendingExamQuestionSubmissions ∧
      (answer ≠ .refused 429 →
        responded.questionVerdicts = errorVerdicts js page.questionVerdicts question) := by
  have hfailed := submitFailed_spec js page hactive
  cases answer with
  | failed => exact hfailed.imp_right fun hverdicts _ => hverdicts
  | refused status =>
      dsimp only
      rw [submitResponded]
      split
      next hlimit =>
        refine ⟨?_, fun hother => absurd (congrArg PostAnswer.refused hlimit) hother⟩
        rw [hactive]
        exact Finset.notMem_erase question _
      next => exact hfailed.imp_right fun hverdicts _ => hverdicts
  | accepted created =>
      cases hnone
      exact hfailed.imp_right fun hverdicts _ => hverdicts

theorem submitListed_failed (page : Page) (k : ℕ) {question : Key} (previous : String)
    (hactive : page.activeExamQuestionId = some question) {answer : ListAnswer}
    (hnothing : answer.latestPending js server = none) :
    (page.submitListed js server k previous answer).questionVerdicts =
      errorVerdicts js page.questionVerdicts question := by
  have hrestored : (page.restorePendingSubmissionLock js
      (answer.latestPending js server)) = (false, page.toLocks) := by
    rw [hnothing]
    rfl
  cases answer with
  | failed => exact (submitFailed_spec js page hactive).2
  | refused =>
      rw [submitListed, hrestored, hactive]
      exact questionVerdicts_applyError js page.toLocks question
  | accepted submissions =>
      rw [submitListed, hrestored, hactive]
      exact questionVerdicts_applyError js page.toLocks question

theorem failuresHandled_step (page : Page) (event : Event)
    (h : page.Undisturbed js server event) : page.FailuresHandled js server event := by
  constructor
  · rintro question ⟨hget, hfails⟩
    rw [step_responded js hget hfails]
    have hnone := created_eq_none hfails
    exact (submitResponded_failed js page _ (h.1 hnone _ hget rfl question rfl) hnone).1
  · rintro question (⟨hget, hfails, hunlimited⟩ | ⟨hget, hnothing⟩)
    · rw [step_responded js hget hfails]
      have hnone := created_eq_none hfails
      have hactive := h.1 hnone _ hget rfl question rfl
      exact (submitResponded_failed js page _ hactive hnone).2 hunlimited
    · rw [step, hget]
      exact submitListed_failed js page _ _ (h hnothing _ hget rfl question rfl) hnothing

end Answered

/-! ## Runs -/

def opened (currentMode : Mode) (isExamActive : Bool) (activeExamRoomId : Option Key)
    (activeExamQuestionId : Option Key) (questionVerdicts : InsertionMap Key String) : Page where
  activeRunSubmissionId := .free
  pendingExamQuestionSubmissions := ∅
  pendingEvaluations := .empty
  questionVerdicts := questionVerdicts
  submissionPollers := .empty
  pollers := []
  currentMode := currentMode
  isExamActive := isExamActive
  activeExamRoomId := activeExamRoomId
  activeExamQuestionId := activeExamQuestionId
  handlers := [⟨.bootstrap, .pendingList⟩]

theorem guarded_opened (server : Server) (currentMode : Mode) (isExamActive : Bool)
    (roomId questionId : Option Key) (verdicts : InsertionMap Key String) :
    (opened currentMode isExamActive roomId questionId verdicts).Guarded server := by
  have htracked : Locks.Tracked server
      (opened currentMode isExamActive roomId questionId verdicts).toLocks := by
    refine ⟨fun id hid => ?_, fun id k hid => ?_, fun id hid => ?_⟩ <;> cases hid
  refine ⟨Locks.sound_of_free htracked rfl rfl, fun handler hmem => ?_⟩
  rw [List.mem_singleton.mp hmem]
  intro questionId hresponse
  cases hresponse

variable (server) in
/-- In a run in which no resuming Submit handler finds another question and no answer strands the
lock, no mark is orphaned and every failed submit is settled on its own question. -/
theorem submission_lock_held (currentMode : Mode) (isExamActive : Bool)
    (roomId questionId : Option Key) (verdicts : InsertionMap Key String) (events : List Event)
    (hrun : ∀ p ∈ transitions (step js server)
      (opened currentMode isExamActive roomId questionId verdicts) events,
      p.1.Undisturbed js server p.2) :
    (opened currentMode isExamActive roomId questionId verdicts).LocksHeld server ∧
      ∀ p ∈ transitions (step js server)
          (opened currentMode isExamActive roomId questionId verdicts) events,
        (p.1.step js server p.2).LocksHeld server ∧ p.1.FailuresHandled js server p.2 := by
  have hopened := guarded_opened server currentMode isExamActive roomId questionId verdicts
  have hstep : ∀ page event, Guarded server page → Undisturbed js server page event →
      Guarded server (step js server page event) :=
    fun page event h hundisturbed => guarded_step js h event hundisturbed
  have hguarded := transitions_invariant_of (step js server) hstep hopened events hrun
  refine ⟨hopened.locksHeld, fun p hp => ⟨?_, failuresHandled_step js p.1 p.2 (hrun p hp)⟩⟩
  exact (guarded_step js (hguarded p hp) p.2 (hrun p hp)).locksHeld

def sampleServer : Server := ⟨fun id => if id = 1 then some 7 else none⟩

/-- A submission for question 7 while question 8 is opened, then a run that is refused. -/
def sampleEvents : List Event :=
  [.listed 0 (.accepted []), .clickSubmit, .snapshotSynced 1, .setActiveQuestion 8 none,
    .responded 1 (.accepted (some (1, "PENDING"))), .polled 0 .failed, .timer 0,
    .polled 0 (.accepted (some "processing")), .message 1 "SUCCESS", .clickRun,
    .responded 2 (.refused 500)]

theorem submission_lock_held_sample :
    (opened .exam true (some 1) (some 7) .empty).LocksHeld sampleServer ∧
      ∀ p ∈ transitions (step .ascii sampleServer)
          (opened .exam true (some 1) (some 7) .empty) sampleEvents,
        (p.1.step .ascii sampleServer p.2).LocksHeld sampleServer ∧
          p.1.FailuresHandled .ascii sampleServer p.2 :=
  submission_lock_held .ascii sampleServer .exam true (some 1) (some 7) .empty sampleEvents
    (by decide +kernel)

def switchedEvents : List Event :=
  [.clickSubmit, .snapshotSynced 1, .setActiveQuestion 8 none, .responded 1 .failed]

def exhaustedEvents : List Event :=
  [.clickRun, .responded 1 (.accepted (some (2, "PENDING")))] ++
    (List.replicate 39 [Event.polled 0 .failed, .timer 0]).flatten ++ [.polled 0 .failed]

/-- The failed submit leaves question 7 marked, and the last poll leaves the run active, with no
request and no poller. -/
theorem submission_lock_orphaned :
    (∃ p ∈ transitions (step .ascii sampleServer)
        (opened .exam true (some 1) (some 7) .empty) switchedEvents,
      ¬ (p.1.step .ascii sampleServer p.2).LocksHeld sampleServer ∧
        ¬ p.1.FailuresHandled .ascii sampleServer p.2) ∧
      ∃ p ∈ transitions (step .ascii sampleServer)
          (opened .exam true (some 1) (some 7) .empty) exhaustedEvents,
        ¬ (p.1.step .ascii sampleServer p.2).LocksHeld sampleServer := by
  constructor
  · refine ⟨_, List.mem_of_getElem? (i := 3) rfl, fun h => ?_, fun h => ?_⟩
    · have hmarked := h.question 7 (by decide +kernel)
      exact absurd hmarked (by decide +kernel)
    · have hcleared := h.mark 7 ⟨rfl, fun _ heq => by cases heq⟩
      exact absurd hcleared (by decide +kernel)
  · refine ⟨_, List.mem_of_getElem? (i := 80) rfl, fun h => ?_⟩
    have hpolled := h.run 2 (by decide +kernel)
    exact absurd hpolled (by decide +kernel)

end Page

end JudgeVortex.Templates
