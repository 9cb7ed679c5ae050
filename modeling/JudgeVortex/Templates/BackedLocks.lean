import JudgeVortex.Templates.TrackedSubmissions

/-!
# Backed locks

Every mark of the lock is backed, by a request that is in flight or by a submission with a live
poller, and the operations of the handlers, the pollers and the websocket keep it so.
-/

namespace JudgeVortex.Templates

open JudgeVortex.Foundation

namespace Locks

/-- Each mark is backed by a request, by a tracked submission, or by the submission that a
handler has in hand. -/
structure Backed (server : Server) (asked : Key → Prop) (running : Prop) (inHand : Option Key)
    (locks : Locks) : Prop where
  runRequest : locks.activeRunSubmissionId = .request → running
  runSubmission : ∀ id, locks.activeRunSubmissionId = .submission id →
    server.questionOf id = none ∧
      (inHand = some id ∨ (locks.submissionPollers.get? id).isSome)
  question : ∀ question ∈ locks.pendingExamQuestionSubmissions, asked question ∨
    ∃ id, server.questionOf id = some question ∧
      (inHand = some id ∨ (locks.submissionPollers.get? id).isSome)

variable (js : UpperCase) {server : Server} {asked : Key → Prop} {running : Prop}
variable {inHand : Option Key} {locks : Locks} {id question : Key}

theorem Backed.mono (h : Backed server asked running inHand locks) {asked' : Key → Prop}
    {running' : Prop} (hasked : ∀ question, asked question → asked' question)
    (hrunning : running → running') : Backed server asked' running' inHand locks :=
  ⟨fun hrequest => hrunning (h.runRequest hrequest), h.runSubmission,
    fun question hmem => (h.question question hmem).imp_left (hasked question)⟩

theorem Backed.congr {other : Locks} (h : Backed server asked running inHand locks)
    (hactive : other.activeRunSubmissionId = locks.activeRunSubmissionId)
    (hpending : other.pendingExamQuestionSubmissions = locks.pendingExamQuestionSubmissions)
    (htable : other.submissionPollers = locks.submissionPollers) :
    Backed server asked running inHand other := by
  constructor
  · rw [hactive]
    exact h.runRequest
  · rw [hactive, htable]
    exact h.runSubmission
  · rw [hpending, htable]
    exact h.question

theorem Backed.applyQuestionVerdict (h : Backed server asked running inHand locks)
    (questionId : Option Key) (status : String) :
    Backed server asked running inHand (locks.applyQuestionVerdict js questionId status) := by
  rw [applyQuestionVerdict_eq]
  exact h.congr rfl rfl rfl

theorem Backed.clearQuestion (h : Backed server asked running inHand locks) (question : Key) :
    Backed server (fun other => asked other ∧ other ≠ question) running inHand
      (locks.clearExamQuestionSubmissionPending question) := by
  refine ⟨h.runRequest, h.runSubmission, fun other hother => ?_⟩
  obtain ⟨hne, hmem⟩ := Finset.mem_erase.mp hother
  exact (h.question other hmem).imp_left fun hasked => ⟨hasked, hne⟩

theorem Backed.clearExamQuestion (h : Backed server asked running inHand locks)
    (questionId : Option Key) :
    Backed server asked running inHand
      (locks.clearExamQuestionSubmissionPending questionId) := by
  cases questionId with
  | none => exact h
  | some question => exact (h.clearQuestion question).mono (fun _ hasked => hasked.1) id

theorem Backed.clearRun (h : Backed server asked running inHand locks) :
    Backed server asked False inHand (locks.clearRunSubmissionPending none) := by
  rw [clearRunSubmissionPending, if_pos (.inl rfl)]
  refine ⟨fun hrequest => ?_, fun id hid => ?_, h.question⟩
  · cases hrequest
  · cases hid

/-! ## The submission in hand -/

theorem Backed.take (h : Backed server asked running none locks) (id : Key) :
    Backed server asked running (some id) locks := by
  refine ⟨h.runRequest, fun other hother => ?_, fun other hmem => ?_⟩
  · obtain ⟨hquestion, hhand | htracked⟩ := h.runSubmission other hother
    · cases hhand
    · exact ⟨hquestion, .inr htracked⟩
  · refine (h.question other hmem).imp_right ?_
    rintro ⟨submission, hsubmission, hhand | htracked⟩
    · cases hhand
    · exact ⟨submission, hsubmission, .inr htracked⟩

theorem Backed.markRun (h : Backed server asked running none locks)
    (hquestion : server.questionOf id = none) :
    Backed server asked False (some id) (locks.markRunSubmissionPending (.submission id)) := by
  refine ⟨fun hrequest => ?_, fun other hother => ?_, (h.take id).question⟩
  · cases hrequest
  · cases hother
    exact ⟨hquestion, .inl rfl⟩

theorem Backed.handOver (h : Backed server asked running none locks)
    (hquestion : server.questionOf id = some question) :
    Backed server (fun other => asked other ∧ other ≠ question) running (some id) locks := by
  have htaken := h.take id
  refine ⟨htaken.runRequest, htaken.runSubmission, fun other hmem => ?_⟩
  by_cases hne : other = question
  · exact .inr ⟨id, hne ▸ hquestion, .inl rfl⟩
  · exact (htaken.question other hmem).imp_left fun hasked => ⟨hasked, hne⟩

theorem Backed.settle (h : Backed server asked running (some id) locks)
    (htable : (locks.submissionPollers.get? id).isSome) :
    Backed server asked running none locks := by
  have hbacked : ∀ other, some id = some other ∨ (locks.submissionPollers.get? other).isSome →
      (locks.submissionPollers.get? other).isSome := by
    rintro other (heq | htracked)
    · cases heq
      exact htable
    · exact htracked
  refine ⟨h.runRequest, fun other hother => ?_, fun question hmem => ?_⟩
  · exact (h.runSubmission other hother).imp_right fun hhand => .inr (hbacked other hhand)
  · refine (h.question question hmem).imp_right ?_
    rintro ⟨other, hquestion, hhand⟩
    exact ⟨other, hquestion, .inr (hbacked other hhand)⟩

theorem Backed.freeRequest (h : Backed server asked running none locks) :
    Backed server asked False none
      (if locks.activeRunSubmissionId = .request then locks.markRunSubmissionPending .free
      else locks) := by
  split
  next =>
    refine ⟨fun hrequest => ?_, fun other hother => ?_, h.question⟩
    · cases hrequest
    · cases hother
  next hother => exact ⟨hother, h.runSubmission, h.question⟩

theorem Backed.markQuestion (h : Backed server asked running none locks)
    (hquestion : server.questionOf id = some question) :
    Backed server asked running (some id)
      (locks.markExamQuestionSubmissionPending question) := by
  have htaken := h.take id
  refine ⟨htaken.runRequest, htaken.runSubmission, fun other hmem => ?_⟩
  obtain rfl | hmem := Finset.mem_insert.mp hmem
  · exact .inr ⟨id, hquestion, .inl rfl⟩
  · exact htaken.question other hmem

theorem Backed.release {after : Locks} (h : Backed server asked running inHand locks)
    (hreleased : Released server id locks after) (hhand : ∀ other ∈ inHand, other = id)
    (hmark : ∀ question ∈ after.pendingExamQuestionSubmissions,
      server.questionOf id = some question →
        inHand = none ∧ locks.submissionPollers.get? id = none) :
    Backed server asked running none after := by
  have hbacked : ∀ other, other ≠ id →
      inHand = some other ∨ (locks.submissionPollers.get? other).isSome →
        (after.submissionPollers.get? other).isSome := by
    intro other hne hother
    rw [hreleased.table, if_neg hne]
    exact hother.resolve_left fun heq => hne (hhand other heq)
  refine ⟨fun hrequest => ?_, fun other hother => ?_, fun question hmem => ?_⟩
  · obtain hsame | hfree := hreleased.activeRun
    · exact h.runRequest (hsame ▸ hrequest)
    · rw [hfree] at hrequest
      cases hrequest
  · obtain hsame | hfree := hreleased.activeRun
    · obtain ⟨hquestion, hother'⟩ := h.runSubmission other (hsame ▸ hother)
      have hne : other ≠ id := by
        rintro rfl
        exact hreleased.notRun hquestion hother
      exact ⟨hquestion, .inr (hbacked other hne hother')⟩
    · rw [hfree] at hother
      cases hother
  · refine (h.question question (hreleased.pending hmem)).imp_right ?_
    rintro ⟨other, hquestion, hother⟩
    have hne : other ≠ id := by
      rintro rfl
      obtain ⟨hnone, hgone⟩ := hmark question hmem hquestion
      rw [hnone, hgone] at hother
      obtain hhand | htable := hother
      · cases hhand
      · cases htable
    exact ⟨other, hquestion, .inr (hbacked other hne hother)⟩

theorem get?_beginSubmissionTracking (locks : Locks) (id : Key) (questionId : Option Key)
    (other : Key) :
    (locks.beginSubmissionTracking id questionId).submissionPollers.get? other =
      if other = id then some none else locks.submissionPollers.get? other := by
  unfold beginSubmissionTracking
  dsimp only
  rw [InsertionMap.get?_set, get?_clearSubmissionTracking]
  by_cases hother : other = id
  · rw [if_pos hother, if_pos hother]
  · rw [if_neg hother, if_neg hother, if_neg hother]
    cases questionId <;> rfl

theorem Backed.beginSubmissionTracking (h : Backed server asked running inHand locks)
    (hhand : ∀ other ∈ inHand, other = id) (questionId : Option Key) :
    Backed server asked running none (locks.beginSubmissionTracking id questionId) := by
  have hactive : (locks.beginSubmissionTracking id questionId).activeRunSubmissionId =
      locks.activeRunSubmissionId := by
    unfold Locks.beginSubmissionTracking
    cases questionId <;> exact activeRun_clearSubmissionTracking _ _
  have hpending :
      (locks.beginSubmissionTracking id questionId).pendingExamQuestionSubmissions =
        locks.pendingExamQuestionSubmissions := by
    unfold Locks.beginSubmissionTracking
    cases questionId <;> exact pending_clearSubmissionTracking _ _
  have hbacked : ∀ other, inHand = some other ∨ (locks.submissionPollers.get? other).isSome →
      ((locks.beginSubmissionTracking id questionId).submissionPollers.get? other).isSome := by
    intro other hother
    rw [get?_beginSubmissionTracking]
    split
    next => rfl
    next hne => exact hother.resolve_left fun heq => hne (hhand other heq)
  refine ⟨hactive ▸ h.runRequest, fun other hother => ?_, fun question hmem => ?_⟩
  · rw [hactive] at hother
    exact (h.runSubmission other hother).imp_right fun hhand => .inr (hbacked other hhand)
  · rw [hpending] at hmem
    refine (h.question question hmem).imp_right ?_
    rintro ⟨other, hquestion, hhand⟩
    exact ⟨other, hquestion, .inr (hbacked other hhand)⟩

/-! ## Operations on a sound lock -/

structure Sound (server : Server) (asked : Key → Prop) (running : Prop) (locks : Locks) :
    Prop where
  backed : Backed server asked running none locks
  tracked : Tracked server locks

theorem sound_of_free (htracked : Tracked server locks)
    (hactive : locks.activeRunSubmissionId = .free)
    (hpending : locks.pendingExamQuestionSubmissions = ∅) : Sound server asked running locks := by
  refine ⟨⟨fun hrequest => ?_, fun id hid => ?_, fun question hmem => ?_⟩, htracked⟩
  · rw [hactive] at hrequest
    cases hrequest
  · rw [hactive] at hid
    cases hid
  · rw [hpending] at hmem
    exact absurd hmem (Finset.notMem_empty question)

theorem Sound.mono (h : Sound server asked running locks) {asked' : Key → Prop}
    {running' : Prop} (hasked : ∀ question, asked question → asked' question)
    (hrunning : running → running') : Sound server asked' running' locks :=
  ⟨h.backed.mono hasked hrunning, h.tracked⟩

theorem Sound.applyQuestionVerdict (h : Sound server asked running locks)
    (questionId : Option Key) (status : String) :
    Sound server asked running (locks.applyQuestionVerdict js questionId status) :=
  ⟨h.backed.applyQuestionVerdict js questionId status,
    h.tracked.applyQuestionVerdict js questionId status⟩

theorem Sound.clearRun (h : Sound server asked running locks) :
    Sound server asked False (locks.clearRunSubmissionPending none) :=
  ⟨h.backed.clearRun, h.tracked.clearRun none⟩

theorem Sound.clearQuestion (h : Sound server asked running locks) (question : Key) :
    Sound server (fun other => asked other ∧ other ≠ question) running
      (locks.clearExamQuestionSubmissionPending question) :=
  ⟨h.backed.clearQuestion question, h.tracked.clearExamQuestion question⟩

theorem Sound.clearExamQuestion (h : Sound server asked running locks) (questionId : Option Key) :
    Sound server asked running (locks.clearExamQuestionSubmissionPending questionId) :=
  ⟨h.backed.clearExamQuestion questionId, h.tracked.clearExamQuestion questionId⟩

theorem Sound.handleSubmissionResolution (h : Sound server asked running locks) (id : Key)
    (status : String) :
    Sound server asked running
      (locks.handleSubmissionResolution js (server.submission id status)) := by
  cases hterminal : isTerminalSubmissionStatus js (some (resolvedStatus js status)) with
  | false =>
      rw [handleSubmissionResolution_of_pending js locks server id hterminal]
      exact h
  | true =>
      obtain ⟨hreleased, hmark⟩ := h.tracked.handleSubmissionResolution js id hterminal
      refine ⟨h.backed.release hreleased (fun _ hhand => by cases hhand) ?_, hreleased.tracked⟩
      exact fun question hmem hquestion => absurd hquestion (hmark question hmem)

theorem sound_resolved (hbacked : Backed server asked running (some id) locks)
    (htracked : Tracked server locks) {status : String} (hstatus : status ≠ "")
    (hterminal : isTerminalSubmissionStatus js (some status) = true) :
    Sound server asked running
      (locks.handleSubmissionResolution js (server.submission id status)) := by
  rw [← isTerminal_resolvedStatus js hstatus] at hterminal
  obtain ⟨hreleased, hmark⟩ := htracked.handleSubmissionResolution js id hterminal
  refine ⟨hbacked.release hreleased ?_ ?_, hreleased.tracked⟩
  · rintro other ⟨⟩
    rfl
  · exact fun question hmem hquestion => absurd hquestion (hmark question hmem)

theorem sound_begun (hbacked : Backed server asked running (some id) locks)
    (htracked : Tracked server locks) {questionId : Option Key}
    (hquestion : questionId.isSome → (server.questionOf id).isSome) :
    Sound server asked running (locks.beginSubmissionTracking id questionId) := by
  refine ⟨hbacked.beginSubmissionTracking ?_ questionId,
    htracked.beginSubmissionTracking hquestion⟩
  rintro other ⟨⟩
  rfl

theorem Sound.beginRun (h : Sound server asked running locks)
    (hquestion : server.questionOf id = none) {status : String} (hstatus : status ≠ "") :
    let marked := locks.markRunSubmissionPending (.submission id)
    Sound server asked False
      (if isTerminalSubmissionStatus js (some status) then
        marked.handleSubmissionResolution js (server.submission id status)
      else marked.beginSubmissionTracking id none) := by
  intro marked
  have hbacked : Backed server asked False (some id) marked := h.backed.markRun hquestion
  have htracked : Tracked server marked := h.tracked.congr rfl rfl rfl
  split
  next hterminal => exact sound_resolved js hbacked htracked hstatus hterminal
  next => exact sound_begun hbacked htracked fun hsome => by cases hsome

/-- Whichever question the evaluation names, the submission backs the mark of its own. -/
theorem Sound.beginSubmit (h : Sound server asked running locks)
    (hquestion : server.questionOf id = some question) (active : Option Key) {status : String}
    (hstatus : status ≠ "") :
    Sound server (fun other => asked other ∧ other ≠ question) running
      (if isTerminalSubmissionStatus js (some status) then
        { locks with
          pendingEvaluations := locks.pendingEvaluations.set id active
        }.handleSubmissionResolution js (server.submission id status)
      else locks.beginSubmissionTracking id active) := by
  have hbacked := h.backed.handOver hquestion
  have hsome : (server.questionOf id).isSome := by
    rw [hquestion]
    rfl
  split
  next hterminal =>
    refine sound_resolved js ?_ (h.tracked.setEvaluation hsome active) hstatus hterminal
    exact hbacked.congr rfl rfl rfl
  next => exact sound_begun hbacked h.tracked fun _ => hsome

theorem Sound.markPendingSubmission (h : Sound server asked running locks) (id : Key) :
    let marked := locks.markPendingSubmission id (server.questionOf id)
    Backed server asked False (some id) marked ∧ Tracked server marked := by
  cases hquestion : server.questionOf id with
  | none => exact ⟨h.backed.markRun hquestion, h.tracked.congr rfl rfl rfl⟩
  | some question =>
      let free := if locks.activeRunSubmissionId = .request then
          locks.markRunSubmissionPending .free
        else locks
      have hfree : Backed server asked False none free := h.backed.freeRequest
      have htracked : Tracked server free := by
        change Tracked server (if _ then _ else _)
        split
        next => exact h.tracked.congr rfl rfl rfl
        next => exact h.tracked
      have hbacked := hfree.markQuestion hquestion
      have hmarked : Tracked server (free.markExamQuestionSubmissionPending question) :=
        htracked.congr rfl rfl rfl
      refine ⟨hbacked.congr rfl rfl rfl, hmarked.setEvaluation ?_ (some question)⟩
      rw [hquestion]
      rfl

theorem restorePendingSubmissionLock_submission (locks : Locks) (id : Key) (status : String) :
    locks.restorePendingSubmissionLock js (some (server.submission id status)) =
      if ! isPendingSubmissionStatus js (some status) then (false, locks)
      else
        let marked := locks.markPendingSubmission id (server.questionOf id)
        if (marked.submissionPollers.get? id).isSome then (true, marked)
        else (true, marked.beginSubmissionTracking id (server.questionOf id)) :=
  rfl

/-- What the list of the server gives: no lock changes, or the one of a run whose request is in
flight is taken over. -/
theorem Sound.restorePendingSubmissionLock (h : Sound server asked running locks)
    {pendingSubmission : Option SubmissionData}
    (hserver : ∀ submission ∈ pendingSubmission, ∃ id status,
      submission = server.submission id status) :
    let restored := locks.restorePendingSubmissionLock js pendingSubmission
    restored = (false, locks) ∨ restored.1 = true ∧ Sound server asked False restored.2 := by
  cases pendingSubmission with
  | none => exact .inl rfl
  | some submission =>
      obtain ⟨id, status, rfl⟩ := hserver submission rfl
      dsimp only
      rw [restorePendingSubmissionLock_submission]
      split
      next => exact .inl rfl
      next =>
        obtain ⟨hbacked, htracked⟩ := h.markPendingSubmission id
        dsimp only
        split
        next htable => exact .inr ⟨rfl, hbacked.settle htable, htracked⟩
        next => exact .inr ⟨rfl, sound_begun hbacked htracked fun hsome => hsome⟩

/-! ## Polls -/

theorem Sound.poll (h : Sound server asked running locks) (k : ℕ) :
    Sound server asked running (locks.poll k) :=
  ⟨h.backed.congr rfl rfl rfl, h.tracked.poll k⟩

variable {k : ℕ} {poller : Poller}

theorem Sound.stop (h : Sound server asked running locks)
    (howner : (locks.pollers[k]?).map Poller.submissionId = some id)
    (hgone : locks.submissionPollers.get? id = none) :
    Sound server asked running (locks.setPhase k .stopped) := by
  refine ⟨h.backed.congr rfl rfl rfl, h.tracked.setPhase k _ (.inr fun other hother => ?_)⟩
  cases howner.symm.trans hother
  exact hgone

theorem Sound.scheduleNextPoll (h : Sound server asked running locks)
    (howner : (locks.pollers[k]?).map Poller.submissionId = some id) :
    Sound server asked running (locks.scheduleNextPoll k id) := by
  refine ⟨?_, h.tracked.scheduleNextPoll howner⟩
  rw [Locks.scheduleNextPoll]
  split
  next htracked =>
    have htable : ∀ other, (locks.submissionPollers.get? other).isSome →
        ((locks.submissionPollers.set id (some k)).get? other).isSome := by
      intro other hother
      rw [InsertionMap.get?_set]
      split
      next => rfl
      next => exact hother
    refine ⟨h.backed.runRequest, fun other hother => ?_, fun question hmem => ?_⟩
    · exact (h.backed.runSubmission other hother).imp_right fun hbacked =>
        hbacked.imp_right (htable other)
    · refine (h.backed.question question hmem).imp_right ?_
      rintro ⟨other, hquestion, hbacked⟩
      exact ⟨other, hquestion, hbacked.imp_right (htable other)⟩
  next => exact h.backed.congr rfl rfl rfl

def Marked (server : Server) (locks : Locks) (id : Key) : Prop :=
  (locks.submissionPollers.get? id).isSome ∧
    (locks.activeRunSubmissionId = .submission id ∨
      ∃ question ∈ locks.pendingExamQuestionSubmissions, server.questionOf id = some question)

/-- Where a submission of the table holds the mark of its question, its evaluation names it. -/
def Recorded (server : Server) (locks : Locks) (id : Key) : Prop :=
  (locks.submissionPollers.get? id).isSome →
    ∀ question ∈ locks.pendingExamQuestionSubmissions, server.questionOf id = some question →
      locks.pendingEvaluations.get? id = some (some question)

instance (server : Server) (locks : Locks) (id : Key) : Decidable (Marked server locks id) :=
  inferInstanceAs (Decidable (_ ∧ _))

instance (server : Server) (locks : Locks) (id : Key) : Decidable (Recorded server locks id) :=
  inferInstanceAs (Decidable (_ → _))

theorem Sound.giveUp (h : Sound server asked running locks)
    (hrecorded : Recorded server locks id) : Sound server asked running (locks.giveUp js id) := by
  obtain ⟨hreleased, hmark⟩ := h.tracked.giveUp js id
  refine ⟨h.backed.release hreleased (fun _ hhand => by cases hhand) ?_, hreleased.tracked⟩
  intro question hmem hquestion
  refine ⟨rfl, Option.not_isSome_iff_eq_none.mp fun htable => ?_⟩
  exact hmark question hmem (hrecorded htable question (hreleased.pending hmem) hquestion)

theorem Sound.continuePolling (h : Sound server asked running locks)
    (howner : (locks.pollers[k]?).map Poller.submissionId = some poller.submissionId)
    (hrecorded : maxAttempts ≤ poller.attempts → Recorded server locks poller.submissionId) :
    Sound server asked running (locks.continuePolling js k poller) := by
  rw [Locks.continuePolling]
  split
  next hexhausted =>
    obtain ⟨hreleased, -⟩ := h.tracked.giveUp js poller.submissionId
    refine (h.giveUp js (hrecorded hexhausted)).stop ((hreleased.owner k).trans howner) ?_
    rw [hreleased.table, if_pos rfl]
  next => exact h.scheduleNextPoll howner

theorem Sound.clearSubmissionTracking (h : Sound server asked running locks)
    (hmarked : ¬ Marked server locks id) :
    Sound server asked running (locks.clearSubmissionTracking id) := by
  have htracked := h.tracked.clearSubmissionTracking id
  have hactive := activeRun_clearSubmissionTracking locks id
  have hpending := pending_clearSubmissionTracking locks id
  have hreleased : Released server id locks (locks.clearSubmissionTracking id) := by
    refine released_of_cleared htracked (.inl hactive) (fun _ hrun => ?_) hpending.subset rfl rfl
    rw [hactive] at hrun
    obtain ⟨-, hhand | htable⟩ := h.backed.runSubmission id hrun
    · cases hhand
    · exact hmarked ⟨htable, .inl hrun⟩
  refine ⟨h.backed.release hreleased (fun _ hhand => by cases hhand) ?_, htracked⟩
  intro question hmem hquestion
  refine ⟨rfl, Option.not_isSome_iff_eq_none.mp fun htable => ?_⟩
  exact hmarked ⟨htable, .inr ⟨question, hpending ▸ hmem, hquestion⟩⟩

/-- A poll that raises is not the last one for a mark, one that gives up finds the marked question
recorded, and a body for a submission of the table has a status. -/
def Resolvable (server : Server) (locks : Locks) (poller : Poller) : PollAnswer → Prop
  | .failed =>
      poller.attempts < maxAttempts ∨ ¬ Marked server locks poller.submissionId
  | .refused => maxAttempts ≤ poller.attempts → Recorded server locks poller.submissionId
  | .accepted status =>
      ((locks.submissionPollers.get? poller.submissionId).isSome →
        ∃ text ∈ status, text ≠ "") ∧
      (isTerminalSubmissionStatus js status = false → maxAttempts ≤ poller.attempts →
        Recorded server locks poller.submissionId)

instance (server : Server) (locks : Locks) (poller : Poller) :
    DecidablePred (Resolvable js server locks poller)
  | .failed => inferInstanceAs (Decidable (_ ∨ _))
  | .refused => inferInstanceAs (Decidable (_ → _))
  | .accepted _ => inferInstanceAs (Decidable (_ ∧ _))

theorem isTerminal_of_absent {status : Option String} (h : ¬ ∃ text ∈ status, text ≠ "") :
    isTerminalSubmissionStatus js status = true := by
  have hempty : status.getD "" = "" := by
    cases status with
    | none => rfl
    | some text => exact not_not.mp fun hne => h ⟨text, rfl, hne⟩
  rw [isTerminalSubmissionStatus, isPendingSubmissionStatus, hempty, js.capitals "" (by decide)]
  decide

theorem handleSubmissionResolution_of_absent (locks : Locks) (server : Server) (id : Key)
    {status : Option String} (h : ¬ ∃ text ∈ status, text ≠ "") :
    locks.handleSubmissionResolution js (PollAnswer.submission server id status) = locks := by
  cases status with
  | none => rfl
  | some text =>
      cases not_not.mp fun hne => h ⟨text, rfl, hne⟩
      refine handleSubmissionResolution_of_pending js locks server id ?_
      change isTerminalSubmissionStatus js (some (normalizeVerdictStatus js "PENDING")) = false
      rw [isTerminal_normalize, isTerminalSubmissionStatus, isPendingSubmissionStatus,
        Option.getD_some, js.capitals "PENDING" (by decide)]
      decide

theorem Sound.polled (h : Sound server asked running locks)
    (hpoller : locks.pollers[k]? = some poller) {answer : PollAnswer}
    (hanswer : Resolvable js server locks poller answer) :
    Sound server asked running (locks.polled js server k poller answer) := by
  have howner : (locks.pollers[k]?).map Poller.submissionId = some poller.submissionId := by
    rw [hpoller, Option.map_some]
  cases answer with
  | failed =>
      rw [Locks.polled]
      split
      next hexhausted =>
        have hcleared := h.clearSubmissionTracking (hanswer.resolve_left hexhausted.not_gt)
        refine hcleared.stop ((owner_clearSubmissionTracking locks _ k).trans howner) ?_
        rw [get?_clearSubmissionTracking, if_pos rfl]
      next => exact h.scheduleNextPoll howner
  | refused => exact h.continuePolling js howner hanswer
  | accepted status =>
      obtain ⟨hstatus, hrecorded⟩ := hanswer
      rw [Locks.polled]
      by_cases htext : ∃ text ∈ status, text ≠ ""
      · obtain ⟨text, rfl, hne⟩ := htext
        have hresolved := isTerminal_resolvedStatus js hne
        cases hterminal : isTerminalSubmissionStatus js (some text) with
        | true =>
            rw [hterminal] at hresolved
            obtain ⟨hreleased, -⟩ :=
              h.tracked.handleSubmissionResolution js poller.submissionId hresolved
            refine (h.handleSubmissionResolution js poller.submissionId text).stop
              ((hreleased.owner k).trans howner) ?_
            rw [hreleased.table, if_pos rfl]
        | false =>
            rw [hterminal] at hresolved
            have hsame := handleSubmissionResolution_of_pending js locks server
              poller.submissionId hresolved
            rw [PollAnswer.submission, hsame]
            exact h.continuePolling js howner (hrecorded hterminal)
      · -- only a poller whose submission has left the table may end so
        have hgone := Option.not_isSome_iff_eq_none.mp fun htable => htext (hstatus htable)
        rw [handleSubmissionResolution_of_absent js locks server _ htext,
          isTerminal_of_absent js htext]
        exact h.stop howner hgone

end Locks

end JudgeVortex.Templates
