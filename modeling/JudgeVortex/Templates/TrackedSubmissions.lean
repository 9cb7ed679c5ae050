import JudgeVortex.Templates.SubmissionLock

/-!
# Tracked submissions

What the table of pollers and the evaluations say of the pollers and of the server, and that
every operation of the page keeps it.
-/

namespace JudgeVortex.Templates

open JudgeVortex.Foundation

def Poller.Live (poller : Poller) : Prop := poller.phase ≠ .stopped

instance (poller : Poller) : Decidable poller.Live := inferInstanceAs (Decidable (_ ≠ _))

theorem Poller.live_requested {id : Key} {attempts : ℕ} :
    Poller.Live ⟨id, attempts, .requested⟩ := by
  change PollerPhase.requested ≠ .stopped
  decide

@[simp] theorem Poller.cancel_submissionId (poller : Poller) :
    poller.cancel.submissionId = poller.submissionId := by
  rw [cancel]
  split <;> rfl

namespace Locks

/-- A submission of the table has a live poller, and its timer is one of its own pollers'; only
a submission for a question has an evaluation. -/
structure Tracked (server : Server) (locks : Locks) : Prop where
  live : ∀ id, (locks.submissionPollers.get? id).isSome →
    ∃ poller ∈ locks.pollers, poller.submissionId = id ∧ poller.Live
  timer : ∀ id k, locks.submissionPollers.get? id = some (some k) →
    (locks.pollers[k]?).map Poller.submissionId = some id
  evaluation : ∀ id, (locks.pendingEvaluations.get? id).isSome → (server.questionOf id).isSome

variable (js : UpperCase) {server : Server} {locks : Locks}

/-! ## The fields that an operation leaves -/

section Fields

variable (locks) (id : Key) (questionId : Option Key) (status : String)

@[simp] theorem activeRun_clearSubmissionTracking :
    (locks.clearSubmissionTracking id).activeRunSubmissionId = locks.activeRunSubmissionId := by
  rw [clearSubmissionTracking]
  split <;> rfl

@[simp] theorem pending_clearSubmissionTracking :
    (locks.clearSubmissionTracking id).pendingExamQuestionSubmissions =
      locks.pendingExamQuestionSubmissions := by
  rw [clearSubmissionTracking]
  split <;> rfl

@[simp] theorem evaluations_clearSubmissionTracking :
    (locks.clearSubmissionTracking id).pendingEvaluations = locks.pendingEvaluations := by
  rw [clearSubmissionTracking]
  split <;> rfl

@[simp] theorem get?_clearSubmissionTracking (other : Key) :
    (locks.clearSubmissionTracking id).submissionPollers.get? other =
      if other = id then none else locks.submissionPollers.get? other := by
  rw [clearSubmissionTracking]
  split
  next hnone =>
    split
    next heq => rw [heq, hnone]
    next => rfl
  next => rw [InsertionMap.get?_delete]

theorem applyQuestionVerdict_eq :
    locks.applyQuestionVerdict js questionId status =
      { locks with
        questionVerdicts := (locks.applyQuestionVerdict js questionId status).questionVerdicts
      } := by
  cases questionId with
  | none => rfl
  | some question =>
      unfold applyQuestionVerdict
      dsimp only
      split <;> rfl

@[simp] theorem activeRun_applyQuestionVerdict :
    (locks.applyQuestionVerdict js questionId status).activeRunSubmissionId =
      locks.activeRunSubmissionId := by
  rw [applyQuestionVerdict_eq]

@[simp] theorem pending_applyQuestionVerdict :
    (locks.applyQuestionVerdict js questionId status).pendingExamQuestionSubmissions =
      locks.pendingExamQuestionSubmissions := by
  rw [applyQuestionVerdict_eq]

@[simp] theorem table_applyQuestionVerdict :
    (locks.applyQuestionVerdict js questionId status).submissionPollers =
      locks.submissionPollers := by
  rw [applyQuestionVerdict_eq]

@[simp] theorem pollers_applyQuestionVerdict :
    (locks.applyQuestionVerdict js questionId status).pollers = locks.pollers := by
  rw [applyQuestionVerdict_eq]

theorem clearRunSubmissionPending_eq :
    locks.clearRunSubmissionPending questionId =
      { locks with
        activeRunSubmissionId :=
          (locks.clearRunSubmissionPending questionId).activeRunSubmissionId } := by
  rw [clearRunSubmissionPending]
  split <;> rfl

theorem clearExamQuestionSubmissionPending_eq :
    locks.clearExamQuestionSubmissionPending questionId =
      { locks with
        pendingExamQuestionSubmissions :=
          (locks.clearExamQuestionSubmissionPending questionId).pendingExamQuestionSubmissions
      } := by
  cases questionId <;> rfl

end Fields

theorem pending_clearExamQuestion_subset (locks : Locks) (questionId : Option Key) :
    (locks.clearExamQuestionSubmissionPending questionId).pendingExamQuestionSubmissions ⊆
      locks.pendingExamQuestionSubmissions := by
  cases questionId with
  | none => exact Finset.Subset.refl _
  | some question => exact Finset.erase_subset _ _

/-! ## Tracking -/

theorem Tracked.congr {other : Locks} (h : Tracked server locks)
    (hpollers : other.pollers = locks.pollers)
    (htable : other.submissionPollers = locks.submissionPollers)
    (hevaluations : other.pendingEvaluations = locks.pendingEvaluations) :
    Tracked server other := by
  constructor
  · rw [hpollers, htable]
    exact h.live
  · rw [hpollers, htable]
    exact h.timer
  · rw [hevaluations]
    exact h.evaluation

theorem Tracked.questionOf (h : Tracked server locks) (id : Key) :
    (server.questionOf id).or (locks.pendingEvaluations.get? id).join = server.questionOf id := by
  cases hquestion : server.questionOf id with
  | some question => rfl
  | none =>
      cases hget : locks.pendingEvaluations.get? id with
      | none => rfl
      | some questionId =>
          have hsome := h.evaluation id (by rw [hget]; rfl)
          rw [hquestion] at hsome
          cases hsome

@[simp] theorem owner_clearSubmissionTracking (locks : Locks) (id : Key) (k : ℕ) :
    ((locks.clearSubmissionTracking id).pollers[k]?).map Poller.submissionId =
      (locks.pollers[k]?).map Poller.submissionId := by
  rw [Locks.clearSubmissionTracking]
  split
  next => rfl
  next timerId _ =>
    cases timerId with
    | none => rfl
    | some i => exact map_getElem?_modify Poller.cancel_submissionId _ _ _

theorem Tracked.clearSubmissionTracking (h : Tracked server locks) (id : Key) :
    Tracked server (locks.clearSubmissionTracking id) := by
  constructor
  · intro other hother
    rw [get?_clearSubmissionTracking] at hother
    split at hother
    next => cases hother
    next hne =>
      have hlive := h.live other hother
      rw [Locks.clearSubmissionTracking]
      split
      next => exact hlive
      next timerId htimer =>
        cases timerId with
        | none => exact hlive
        | some k =>
            refine exists_mem_modify hlive fun poller hpoller hP => absurd hP.1 ?_
            have howner := h.timer id k htimer
            rw [hpoller, Option.map_some, Option.some.injEq] at howner
            exact fun heq => hne (heq.symm.trans howner)
  · intro other k hother
    rw [get?_clearSubmissionTracking] at hother
    split at hother
    next => cases hother
    next => rw [owner_clearSubmissionTracking, h.timer other k hother]
  · rw [evaluations_clearSubmissionTracking]
    exact h.evaluation

theorem Tracked.setEvaluation (h : Tracked server locks) {id : Key}
    (hquestion : (server.questionOf id).isSome) (questionId : Option Key) :
    Tracked server { locks with
      pendingEvaluations := locks.pendingEvaluations.set id questionId } := by
  refine ⟨h.live, h.timer, fun other hother => ?_⟩
  rw [InsertionMap.get?_set] at hother
  split at hother
  next heq => rwa [heq]
  next => exact h.evaluation other hother

theorem Tracked.deleteEvaluation (h : Tracked server locks) (id : Key) :
    Tracked server { locks with
      pendingEvaluations := locks.pendingEvaluations.delete id } := by
  refine ⟨h.live, h.timer, fun other hother => ?_⟩
  rw [InsertionMap.get?_delete] at hother
  split at hother
  next => cases hother
  next => exact h.evaluation other hother

theorem Tracked.append (h : Tracked server locks) (id : Key) :
    Tracked server { locks with
      submissionPollers := locks.submissionPollers.set id none
      pollers := locks.pollers ++ [⟨id, 1, .requested⟩] } := by
  refine ⟨fun other hother => ?_, fun other k hother => ?_, h.evaluation⟩
  · rw [InsertionMap.get?_set] at hother
    split at hother
    next heq =>
      exact ⟨_, List.mem_append_right _ (List.mem_singleton.mpr rfl), heq.symm,
        Poller.live_requested⟩
    next =>
      obtain ⟨poller, hmem, hpoller⟩ := h.live other hother
      exact ⟨poller, List.mem_append_left _ hmem, hpoller⟩
  · rw [InsertionMap.get?_set] at hother
    split at hother
    next => cases hother
    next =>
      have howner := h.timer other k hother
      obtain ⟨poller, hpoller, -⟩ := Option.map_eq_some_iff.mp howner
      obtain ⟨hlt, -⟩ := List.getElem?_eq_some_iff.mp hpoller
      rw [← howner, List.getElem?_append_left hlt]

theorem Tracked.beginSubmissionTracking (h : Tracked server locks) {id : Key}
    {questionId : Option Key} (hquestion : questionId.isSome → (server.questionOf id).isSome) :
    Tracked server (locks.beginSubmissionTracking id questionId) := by
  unfold Locks.beginSubmissionTracking
  cases questionId with
  | none => exact (h.clearSubmissionTracking id).append id
  | some question =>
      have hevaluated := h.setEvaluation (hquestion rfl) (some question)
      exact (hevaluated.clearSubmissionTracking id).append id

theorem Tracked.applyQuestionVerdict (h : Tracked server locks) (questionId : Option Key)
    (status : String) : Tracked server (locks.applyQuestionVerdict js questionId status) := by
  rw [applyQuestionVerdict_eq]
  exact h.congr rfl rfl rfl

theorem Tracked.clearRun (h : Tracked server locks) (submissionId : Option Key) :
    Tracked server (locks.clearRunSubmissionPending submissionId) := by
  rw [clearRunSubmissionPending_eq]
  exact h.congr rfl rfl rfl

theorem Tracked.clearExamQuestion (h : Tracked server locks) (questionId : Option Key) :
    Tracked server (locks.clearExamQuestionSubmissionPending questionId) := by
  rw [clearExamQuestionSubmissionPending_eq]
  exact h.congr rfl rfl rfl

theorem tracked_clearExamSession (server : Server) (locks : Locks) :
    Tracked server locks.clearExamSession := by
  constructor
  · intro id hid
    cases hid
  · intro id k hid
    cases hid
  · intro id hid
    cases hid

/-! ## What ends a submission -/

/-- After the end of a submission nothing is left of it but, at most, its evaluation and the mark
of its question. -/
structure Released (server : Server) (id : Key) (before after : Locks) : Prop where
  tracked : Tracked server after
  activeRun : after.activeRunSubmissionId = before.activeRunSubmissionId ∨
    after.activeRunSubmissionId = .free
  notRun : server.questionOf id = none → after.activeRunSubmissionId ≠ .submission id
  pending : after.pendingExamQuestionSubmissions ⊆ before.pendingExamQuestionSubmissions
  table : ∀ other, after.submissionPollers.get? other =
    if other = id then none else before.submissionPollers.get? other
  owner : ∀ k : ℕ, (after.pollers[k]?).map Poller.submissionId =
    (before.pollers[k]?).map Poller.submissionId

theorem activeRun_clearRun (locks : Locks) (id : Key) :
    (locks.clearRunSubmissionPending (some id)).activeRunSubmissionId ≠ .submission id ∧
      ((locks.clearRunSubmissionPending (some id)).activeRunSubmissionId =
          locks.activeRunSubmissionId ∨
        (locks.clearRunSubmissionPending (some id)).activeRunSubmissionId = .free) := by
  rw [clearRunSubmissionPending]
  split
  next => exact ⟨by simp, .inr rfl⟩
  next hother =>
    refine ⟨fun heq => hother (.inr (.inr ⟨id, rfl, heq⟩)), .inl rfl⟩

theorem released_of_cleared {id : Key} {after : Locks} (htracked : Tracked server after)
    (hactive : after.activeRunSubmissionId = locks.activeRunSubmissionId ∨
      after.activeRunSubmissionId = .free)
    (hnotRun : server.questionOf id = none → after.activeRunSubmissionId ≠ .submission id)
    (hpending : after.pendingExamQuestionSubmissions ⊆ locks.pendingExamQuestionSubmissions)
    (htable : after.submissionPollers = (locks.clearSubmissionTracking id).submissionPollers)
    (hpollers : after.pollers = (locks.clearSubmissionTracking id).pollers) :
    Released server id locks after := by
  refine ⟨htracked, hactive, hnotRun, hpending, ?_, ?_⟩
  · rw [htable]
    exact get?_clearSubmissionTracking locks id
  · rw [hpollers]
    exact owner_clearSubmissionTracking locks id

theorem Tracked.released_clearRun (h : Tracked server locks) (id : Key) :
    Released server id locks
      ((locks.clearSubmissionTracking id).clearRunSubmissionPending (some id)) := by
  have hcleared := (h.clearSubmissionTracking id).clearRun (some id)
  have heq := clearRunSubmissionPending_eq (locks.clearSubmissionTracking id) (some id)
  obtain ⟨hnotRun, hactive⟩ := activeRun_clearRun (locks.clearSubmissionTracking id) id
  rw [activeRun_clearSubmissionTracking] at hactive
  refine released_of_cleared hcleared hactive (fun _ => hnotRun) ?_ ?_ ?_ <;> rw [heq]
  rw [pending_clearSubmissionTracking]

theorem Tracked.released_releaseSubmission (h : Tracked server locks) (id : Key) :
    Released server id locks
      ((locks.clearSubmissionTracking id).releaseSubmission id (server.questionOf id)) := by
  cases hquestion : server.questionOf id with
  | none => exact h.released_clearRun id
  | some question =>
      have hcleared := (h.clearSubmissionTracking id).clearExamQuestion (some question)
      refine released_of_cleared hcleared (.inl ?_) (fun hnone => ?_) ?_ rfl rfl
      · exact activeRun_clearSubmissionTracking locks id
      · rw [hquestion] at hnone
        cases hnone
      · refine (Finset.erase_subset _ _).trans ?_
        rw [pending_clearSubmissionTracking]

theorem Tracked.released_judged (h : Tracked server locks) (id : Key) (status : String) :
    let judged := locks.applyQuestionVerdict js (server.questionOf id) status
    let settled := { judged with
      pendingEvaluations := judged.pendingEvaluations.delete id }
    Released server id locks
      ((settled.clearSubmissionTracking id).releaseSubmission id (server.questionOf id)) := by
  intro judged settled
  have hsettled : Tracked server settled :=
    (h.applyQuestionVerdict js (server.questionOf id) status).deleteEvaluation id
  have hreleased := hsettled.released_releaseSubmission id
  have hactive : settled.activeRunSubmissionId = locks.activeRunSubmissionId :=
    activeRun_applyQuestionVerdict js locks _ _
  have hpending : settled.pendingExamQuestionSubmissions = locks.pendingExamQuestionSubmissions :=
    pending_applyQuestionVerdict js locks _ _
  have htable : settled.submissionPollers = locks.submissionPollers :=
    table_applyQuestionVerdict js locks _ _
  have hpollers : settled.pollers = locks.pollers := pollers_applyQuestionVerdict js locks _ _
  exact ⟨hreleased.tracked, hactive ▸ hreleased.activeRun, hreleased.notRun,
    hpending ▸ hreleased.pending, htable ▸ hreleased.table, hpollers ▸ hreleased.owner⟩

theorem pending_releaseSubmission {id question : Key}
    (hquestion : server.questionOf id = some question) :
    question ∉ ((locks.clearSubmissionTracking id).releaseSubmission id
      (server.questionOf id)).pendingExamQuestionSubmissions := by
  rw [hquestion, releaseSubmission]
  exact Finset.notMem_erase question _

section Statuses

theorem isTerminal_normalize (status : String) :
    isTerminalSubmissionStatus js (some (normalizeVerdictStatus js status)) =
      isTerminalSubmissionStatus js (some status) := by
  rw [normalizeVerdictStatus]
  split
  next hsuccess =>
    have hpassed : js.toUpperCase "PASSED" = "PASSED" := js.capitals _ (by decide)
    simp [isTerminalSubmissionStatus, isPendingSubmissionStatus, hsuccess, hpassed]
  next =>
    simp only [isTerminalSubmissionStatus, isPendingSubmissionStatus, Option.getD_some, js.idem]

end Statuses

/-- The status that a resolution reads: an empty one counts as `PENDING`. -/
def resolvedStatus (js : UpperCase) (status : String) : String :=
  normalizeVerdictStatus js (((some status).filter fun status => status ≠ "").getD "PENDING")

theorem isTerminal_resolvedStatus {status : String} (h : status ≠ "") :
    isTerminalSubmissionStatus js (some (resolvedStatus js status)) =
      isTerminalSubmissionStatus js (some status) := by
  rw [resolvedStatus, Option.filter_some_pos (by simpa using h), Option.getD_some,
    isTerminal_normalize]

theorem handleSubmissionResolution_of_pending (locks : Locks) (server : Server) (id : Key)
    {status : String}
    (h : isTerminalSubmissionStatus js (some (resolvedStatus js status)) = false) :
    locks.handleSubmissionResolution js (server.submission id status) = locks := by
  rw [Locks.handleSubmissionResolution, Server.submission]
  exact if_neg (by rw [← Bool.not_eq_true] at h; exact h)

/-- A terminal status ends the submission and takes the mark of its question. -/
theorem Tracked.handleSubmissionResolution (h : Tracked server locks) (id : Key) {status : String}
    (hterminal : isTerminalSubmissionStatus js (some (resolvedStatus js status)) = true) :
    let handled := locks.handleSubmissionResolution js (server.submission id status)
    Released server id locks handled ∧
      ∀ question ∈ handled.pendingExamQuestionSubmissions,
        server.questionOf id ≠ some question := by
  intro handled
  have hhandled : handled = locks.handleSubmissionResolution js (server.submission id status) := rfl
  rw [Locks.handleSubmissionResolution, Server.submission] at hhandled
  dsimp only at hhandled
  rw [h.questionOf id, ← resolvedStatus, if_pos hterminal] at hhandled
  split at hhandled
  next =>
    rw [hhandled]
    refine ⟨h.released_judged js id _, ?_⟩
    intro question hmem hquestion
    exact pending_releaseSubmission hquestion hmem
  next =>
    rw [hhandled]
    refine ⟨h.released_releaseSubmission id, ?_⟩
    intro question hmem hquestion
    exact pending_releaseSubmission hquestion hmem

theorem Tracked.giveUp (h : Tracked server locks) (id : Key) :
    Released server id locks (locks.giveUp js id) ∧
      ∀ question ∈ (locks.giveUp js id).pendingExamQuestionSubmissions,
        locks.pendingEvaluations.get? id ≠ some (some question) := by
  have hevaluation := evaluations_clearSubmissionTracking locks id
  cases hget : locks.pendingEvaluations.get? id with
  | none =>
      have hgiveUp : locks.giveUp js id =
          (locks.clearSubmissionTracking id).clearRunSubmissionPending (some id) := by
        rw [Locks.giveUp]
        simp only [hevaluation, hget]
      rw [hgiveUp]
      exact ⟨h.released_clearRun id, fun _ _ hsome => by cases hsome⟩
  | some questionId =>
      let deleted := { locks.clearSubmissionTracking id with
        pendingEvaluations := locks.pendingEvaluations.delete id }
      have hgiveUp : locks.giveUp js id =
          (deleted.applyQuestionVerdict js questionId "ERROR").clearExamQuestionSubmissionPending
            questionId := by
        rw [Locks.giveUp]
        simp only [hevaluation, hget]
        rfl
      have hdeleted : Tracked server deleted := by
        have hdelete := (h.clearSubmissionTracking id).deleteEvaluation id
        rwa [hevaluation] at hdelete
      have heq := clearExamQuestionSubmissionPending_eq
        (deleted.applyQuestionVerdict js questionId "ERROR") questionId
      rw [hgiveUp]
      refine ⟨released_of_cleared
        ((hdeleted.applyQuestionVerdict js questionId "ERROR").clearExamQuestion questionId)
        (.inl ?_) (fun hnone => ?_) ?_ ?_ ?_, ?_⟩
      · rw [heq]
        exact (activeRun_applyQuestionVerdict js deleted _ _).trans
          (activeRun_clearSubmissionTracking locks id)
      · have hsome := h.evaluation id (by rw [hget]; rfl)
        rw [hnone] at hsome
        cases hsome
      · refine (pending_clearExamQuestion_subset _ _).trans ?_
        rw [pending_applyQuestionVerdict]
        exact (pending_clearSubmissionTracking locks id).subset
      · rw [heq]
        exact table_applyQuestionVerdict js deleted _ _
      · rw [heq]
        exact pollers_applyQuestionVerdict js deleted _ _
      · rintro question hmem heq
        cases heq
        exact absurd hmem (Finset.notMem_erase question _)

/-! ## Pollers -/

@[simp] theorem owner_setPhase (locks : Locks) (k : ℕ) (phase : PollerPhase) (i : ℕ) :
    ((locks.setPhase k phase).pollers[i]?).map Poller.submissionId =
      (locks.pollers[i]?).map Poller.submissionId := by
  have howner : ∀ poller : Poller,
      Poller.submissionId { poller with phase := phase } = poller.submissionId := fun _ => rfl
  exact map_getElem?_modify howner _ _ _

theorem Tracked.setPhase (h : Tracked server locks) (k : ℕ) (phase : PollerPhase)
    (hkept : phase ≠ .stopped ∨ ∀ id, (locks.pollers[k]?).map Poller.submissionId = some id →
      locks.submissionPollers.get? id = none) :
    Tracked server (locks.setPhase k phase) := by
  refine ⟨fun id hid => ?_, fun id i hid => ?_, h.evaluation⟩
  · refine exists_mem_modify (h.live id hid) fun poller hpoller hlive => ⟨hlive.1, ?_⟩
    refine hkept.resolve_right fun hgone => ?_
    have hnone : locks.submissionPollers.get? id = none :=
      hgone id (by rw [hpoller, Option.map_some, hlive.1])
    have hsome : (locks.submissionPollers.get? id).isSome := hid
    rw [hnone] at hsome
    cases hsome
  · rw [owner_setPhase, h.timer id i hid]

theorem Tracked.poll (h : Tracked server locks) (k : ℕ) : Tracked server (locks.poll k) := by
  have howner : ∀ poller : Poller,
      (if poller.phase = .scheduled then
        { poller with attempts := poller.attempts + 1, phase := .requested }
      else poller).submissionId = poller.submissionId := by
    intro poller
    split <;> rfl
  refine ⟨fun id hid => ?_, fun id i hid => ?_, h.evaluation⟩
  · refine exists_mem_modify (h.live id hid) fun poller _ hlive => ⟨?_, ?_⟩
    · rw [howner, hlive.1]
    · split
      next => exact Poller.live_requested
      next => exact hlive.2
  · rw [← h.timer id i hid]
    exact map_getElem?_modify howner _ _ _

theorem Tracked.scheduleNextPoll (h : Tracked server locks) {k : ℕ} {id : Key}
    (howner : (locks.pollers[k]?).map Poller.submissionId = some id) :
    Tracked server (locks.scheduleNextPoll k id) := by
  rw [Locks.scheduleNextPoll]
  split
  next htracked =>
    have hphase : Tracked server (locks.setPhase k .scheduled) := h.setPhase k _ (.inl (by decide))
    refine ⟨fun other hother => ?_, fun other i hother => ?_, hphase.evaluation⟩
    · rw [InsertionMap.get?_set] at hother
      split at hother
      next heq => exact hphase.live other (heq ▸ htracked)
      next => exact hphase.live other hother
    · rw [InsertionMap.get?_set] at hother
      split at hother
      next heq =>
        cases hother
        exact (owner_setPhase locks k .scheduled k).trans (heq ▸ howner)
      next => exact hphase.timer other i hother
  next hgone =>
    refine h.setPhase k _ (.inr fun other hother => ?_)
    cases howner.symm.trans hother
    exact Option.not_isSome_iff_eq_none.mp hgone

end Locks

end JudgeVortex.Templates
