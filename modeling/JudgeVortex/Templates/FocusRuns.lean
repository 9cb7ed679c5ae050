import JudgeVortex.Templates.FocusGuard

/-!
# Runs of the focus guard

No student is disqualified who comes back within ten ticks of the countdown, and who stays
away for these is, unless the countdown of an earlier disqualification is still in the way.
-/

namespace JudgeVortex.Templates

open JudgeVortex.CoreApi JudgeVortex.Foundation JudgeVortex.Python

/-! ## What a step does to the countdown -/

def timers (s : ExamPage) : Option Nat × Int × List Nat × Nat :=
  (s.cheatTimer, s.cheatCountdown, s.intervals, s.nextTimer)

def Returned : GuardEvent → Bool
  | .visibilitychange hidden hasFocus | .focus hidden hasFocus | .pageshow hidden hasFocus =>
      !hidden && hasFocus
  | _ => false

def Loss : GuardEvent → Bool
  | .visibilitychange hidden _ => hidden
  | .blur hidden => !hidden
  | .pagehide => true
  | _ => false

/-- The step ends a countdown for another reason than its last tick. -/
def Stops (s : ExamPage) : GuardEvent → Prop
  | .kicked roomId => s.session.isExamActive ∧ (truthyId s.session.activeExamRoomId).isSome ∧
      (truthyId roomId = none ∨ s.session.activeExamRoomId = roomId)
  | .refreshed roomId .refused => roomId ∈ s.refreshing ∧ s.session.inExamMode ∧
      s.session.activeExamRoomId = some roomId
  | .timeUp | .safeExitRoom => True
  | e => enforces s.session ∧ Returned e

def Fires (s : ExamPage) : GuardEvent → Prop
  | .tick timer => timer ∈ s.intervals
  | _ => False

/-- Two sessions in the same exam, if in one at all. -/
structure SameExam (s t : Session) : Prop where
  isExamActive : t.isExamActive = s.isExamActive
  inExamMode : t.inExamMode = s.inExamMode
  isDisqualified : t.isDisqualified = s.isDisqualified
  room : (truthyId s.activeExamRoomId).isSome → (truthyId t.activeExamRoomId).isSome

theorem SameExam.refl (s : Session) : SameExam s s := ⟨rfl, rfl, rfl, id⟩

theorem SameExam.trans {s t u : Session} (h : SameExam s t) (h' : SameExam t u) :
    SameExam s u :=
  ⟨h'.isExamActive.trans h.isExamActive, h'.inExamMode.trans h.inExamMode,
    h'.isDisqualified.trans h.isDisqualified, fun hroom => h'.room (h.room hroom)⟩

theorem SameExam.enforces {s t : Session} (h : SameExam s t) : enforces t = enforces s := by
  rw [Templates.enforces, h.isExamActive, h.inExamMode, h.isDisqualified, Templates.enforces]

section Sessions

variable {view : TextComponent} {initialLang : String}

theorem sameExam_syncActiveExamSnapshot (s : Session) :
    SameExam s (syncActiveExamSnapshot s) := by
  unfold syncActiveExamSnapshot
  split
  next => exact .refl s
  next => exact ⟨rfl, rfl, rfl, id⟩

theorem sameExam_persistCurrentCode (stores : Bool) (s : Session) :
    SameExam s (persistCurrentCode stores s) := by
  unfold persistCurrentCode
  split
  next => exact .refl s
  next =>
    refine .trans ?_ (sameExam_syncActiveExamSnapshot _)
    exact ⟨rfl, rfl, rfl, id⟩

theorem truthyId_or {a b : Option Int} (h : (truthyId b).isSome) :
    (truthyId ((truthyId a).or b)).isSome := by
  cases htruthy : truthyId a with
  | none => exact h
  | some id =>
      have hid := (Option.filter_eq_some_iff.mp htruthy).2
      rw [Option.some_or, truthyId, Option.filter_some, if_pos hid]
      rfl

theorem sameExam_setActiveQuestion (qId : Int) (roomId : Option Int) (stores : Bool)
    (s : Session) : SameExam s (setActiveQuestion view initialLang qId roomId stores s) := by
  have hsaved := sameExam_persistCurrentCode stores s
  unfold setActiveQuestion restoreSavedCode
  refine (hsaved.trans ?_).trans (sameExam_syncActiveExamSnapshot _)
  split
  next restored hrestored =>
    obtain ⟨saved, -, rfl⟩ := Option.map_eq_some_iff.mp hrestored
    exact ⟨rfl, rfl, rfl, truthyId_or⟩
  next => exact ⟨rfl, rfl, rfl, truthyId_or⟩

theorem sameExam_loadPastCode (sub : PastSubmission) (stores : Bool) (s : Session) :
    SameExam s (loadPastCode view initialLang sub stores s) := by
  unfold loadPastCode
  split
  next => exact .refl s
  next =>
    have hopened : SameExam s (openPastQuestion view initialLang sub.questionId stores s) := by
      obtain h | ⟨qId, roomId, h⟩ :=
        openPastQuestion_cases view initialLang sub.questionId stores s
      · rw [h]
        exact .refl s
      · rw [h]
        exact sameExam_setActiveQuestion _ _ _ _
    exact ⟨hopened.isExamActive, hopened.inExamMode, hopened.isDisqualified, hopened.room⟩

end Sessions

/-! ## Steps -/

section Steps

variable (view : TextComponent) (initialLang : String) {s : ExamPage} {e : GuardEvent}

structure GuardSound (s : ExamPage) : Prop where
  running : ∀ timer ∈ s.intervals,
    s.cheatTimer = some timer ∧ enforces s.session ∧ 1 ≤ s.cheatCountdown ∧ s.cheatCountdown ≤ 10
  room : s.session.isExamActive → (truthyId s.session.activeExamRoomId).isSome
  refreshing : ∀ roomId ∈ s.refreshing, roomId ≠ 0

theorem autoSubmit_cases (s : ExamPage) :
    timers (autoSubmit s) = timers s ∧ SameExam s.session (autoSubmit s).session := by
  unfold autoSubmit
  split
  next => exact ⟨rfl, rfl, rfl, rfl, id⟩
  next => exact ⟨rfl, .refl _⟩

theorem disqualifyStudent_cases (s : ExamPage) :
    timers (disqualifyStudent s) = timers s ∧
      SameExam { s.session with isDisqualified := true } (disqualifyStudent s).session := by
  unfold disqualifyStudent
  dsimp only
  split
  next => exact ⟨rfl, .refl _⟩
  next => exact autoSubmit_cases _

theorem stopCheatTimer_timers (hrunning : ∀ timer ∈ s.intervals, s.cheatTimer = some timer) :
    (stopCheatTimer s).cheatTimer = none ∧ (stopCheatTimer s).intervals = [] := by
  unfold stopCheatTimer
  split
  next hnone =>
    refine ⟨hnone, List.eq_nil_iff_forall_not_mem.mpr fun timer hmem => ?_⟩
    rw [hrunning timer hmem] at hnone
    cases hnone
  next timer hsome =>
    refine ⟨rfl, List.filter_eq_nil_iff.mpr fun other hother => ?_⟩
    have hsame := hrunning other hother
    rw [hsome] at hsame
    simp [Option.some.inj hsame]

theorem handleExamFocusReturn_of_returned (henforces : enforces s.session) :
    handleExamFocusReturn false true s = stopCheatTimer s :=
  if_pos ⟨henforces, rfl, rfl⟩

theorem timers_of_stops (h : GuardSound s) (hstops : Stops s e) :
    (guardStep view initialLang s e).cheatTimer = none ∧
      (guardStep view initialLang s e).intervals = [] := by
  have hrunning : ∀ timer ∈ s.intervals, s.cheatTimer = some timer := fun timer hmem =>
    (h.running timer hmem).1
  have hstopped := stopCheatTimer_timers hrunning
  cases e with
  | visibilitychange hidden hasFocus =>
      obtain ⟨henforces, hreturned⟩ := hstops
      obtain ⟨rfl, rfl⟩ : hidden = false ∧ hasFocus = true := by simpa [Returned] using hreturned
      have hstep := handleExamFocusReturn_of_returned henforces
      rw [← hstep] at hstopped
      exact hstopped
  | focus hidden hasFocus | pageshow hidden hasFocus =>
      obtain ⟨henforces, hreturned⟩ := hstops
      obtain ⟨rfl, rfl⟩ : hidden = false ∧ hasFocus = true := by simpa [Returned] using hreturned
      have hstep := handleExamFocusReturn_of_returned henforces
      rw [← hstep] at hstopped
      exact hstopped
  | kicked roomId =>
      have hkicked : s.session.isExamActive ∧ (truthyId s.session.activeExamRoomId).isSome ∧
          (truthyId roomId = none ∨ s.session.activeExamRoomId = roomId) := hstops
      rw [guardStep, if_pos hkicked]
      exact hstopped
  | refreshed roomId answer =>
      cases answer with
      | refused =>
          obtain ⟨hawaited, hhere⟩ := hstops
          rw [guardStep, finishRefresh, if_neg (not_not.mpr hawaited)]
          dsimp only
          rw [if_pos hhere]
          exact stopCheatTimer_timers hrunning
      | failed => exact absurd hstops.2 (by simp [Returned])
      | state assigned changed stores => exact absurd hstops.2 (by simp [Returned])
  | timeUp => exact stopCheatTimer_timers hrunning
  | safeExitRoom => exact ⟨rfl, rfl⟩
  | _ => exact absurd hstops.2 (by simp [Returned])

theorem timers_of_loss (hloss : Loss e) (henforces : enforces s.session) :
    timers (guardStep view initialLang s e) = timers (startCheatTimer s) := by
  cases e with
  | visibilitychange hidden hasFocus =>
      obtain rfl : hidden = true := hloss
      exact congrArg timers (if_pos henforces)
  | blur hidden =>
      obtain rfl : hidden = false := by simpa [Loss] using hloss
      exact congrArg timers (if_pos henforces)
  | pagehide =>
      have hsame := (sameExam_syncActiveExamSnapshot s.session).enforces.trans henforces
      rw [guardStep, handleExamFocusLoss, shouldEnforceExamFocusRestriction, if_pos hsame]
      unfold startCheatTimer
      split <;> rfl
  | _ => cases hloss

theorem timers_of_tick {timer : Nat} (hrunning : timer ∈ s.intervals) :
    timers (guardStep view initialLang s (.tick timer)) =
      (s.cheatTimer, s.cheatCountdown - 1,
        if s.cheatCountdown ≤ 1 then s.intervals.filter (some · ≠ s.cheatTimer) else s.intervals,
        s.nextTimer) := by
  rw [guardStep, cheatTick, if_neg (not_not.mpr hrunning)]
  by_cases hlast : s.cheatCountdown ≤ 1
  · rw [if_pos hlast, if_pos (by dsimp only; omega), (disqualifyStudent_cases _).1]
    rfl
  · rw [if_neg hlast, if_neg (by dsimp only; omega)]
    rfl

theorem handleExamFocusReturn_of_not_stops {hidden hasFocus : Bool}
    (hstops : ¬ (enforces s.session ∧ !hidden && hasFocus)) :
    handleExamFocusReturn hidden hasFocus s = s := by
  refine if_neg fun hreturned => hstops ⟨hreturned.1, ?_⟩
  rw [Bool.and_eq_true]
  exact hreturned.2

theorem timers_of_idle (hstops : ¬ Stops s e) (hfires : ¬ Fires s e)
    (hloss : ¬ (enforces s.session ∧ Loss e)) :
    timers (guardStep view initialLang s e) = timers s := by
  cases e with
  | visibilitychange hidden hasFocus =>
      rw [guardStep]
      split
      next hhidden =>
        exact congrArg timers (if_neg fun henforces => hloss ⟨henforces, hhidden⟩)
      next => rw [handleExamFocusReturn_of_not_stops hstops]
  | blur hidden =>
      rw [guardStep]
      split
      next => rfl
      next hvisible =>
        have hkept : ¬ enforces s.session := fun henforces =>
          hloss ⟨henforces, by simpa [Loss] using hvisible⟩
        exact congrArg timers (if_neg hkept)
  | focus hidden hasFocus | pageshow hidden hasFocus =>
      rw [guardStep, handleExamFocusReturn_of_not_stops hstops]
  | pagehide =>
      have hsame := (sameExam_syncActiveExamSnapshot s.session).enforces
      have hnot : ¬ enforces (syncActiveExamSnapshot s.session) := by
        rw [hsame]
        exact fun henforces => hloss ⟨henforces, rfl⟩
      rw [guardStep, handleExamFocusLoss, shouldEnforceExamFocusRestriction, if_neg hnot]
      rfl
  | tick timer => exact congrArg timers (if_pos hfires)
  | lockAnswered =>
      rw [guardStep]
      split
      next => rfl
      next => exact (autoSubmit_cases _).1
  | submitAnswered =>
      rw [guardStep]
      split <;> rfl
  | kicked roomId => exact congrArg timers (if_neg hstops)
  | refresh =>
      rw [guardStep, startRefresh]
      split
      next => rfl
      next => split <;> rfl
  | refreshed roomId answer =>
      rw [guardStep, finishRefresh]
      split
      next => rfl
      next hawaited =>
        cases answer with
        | refused =>
            dsimp only
            rw [if_neg fun hhere => hstops ⟨not_not.mp hawaited, hhere⟩]
            rfl
        | failed => rfl
        | state assigned changed stores =>
            dsimp only
            split <;> rfl
  | joined resumes roomId assigned stores =>
      rw [guardStep]
      cases resumes <;> rfl
  | timeUp | safeExitRoom => exact absurd trivial hstops
  | edit | persist | openQuestion | loadPastCode => rfl

/-! ### What a step does to the exam -/

def Enters (s : ExamPage) (roomId : Int) : GuardEvent → Prop
  | .joined _ joinedId _ _ => joinedId = roomId
  | .refreshed refreshedId (.state _ _ _) => refreshedId = roomId ∧ roomId ∈ s.refreshing
  | _ => False

def LastTick (s : ExamPage) : GuardEvent → Prop
  | .tick timer => timer ∈ s.intervals ∧ s.cheatCountdown ≤ 1
  | _ => False

theorem session_handleExamFocusLoss (s : ExamPage) :
    (handleExamFocusLoss s).session = s.session := by
  unfold handleExamFocusLoss startCheatTimer
  split
  next => split <;> rfl
  next => rfl

theorem session_stopCheatTimer (s : ExamPage) : (stopCheatTimer s).session = s.session := by
  unfold stopCheatTimer
  split <;> rfl

theorem session_handleExamFocusReturn (hidden hasFocus : Bool) (s : ExamPage) :
    (handleExamFocusReturn hidden hasFocus s).session = s.session := by
  unfold handleExamFocusReturn
  split
  next => exact session_stopCheatTimer s
  next => rfl

theorem session_guardStep (s : ExamPage) (e : GuardEvent) :
    SameExam s.session (guardStep view initialLang s e).session ∨
      (Stops s e ∧ (guardStep view initialLang s e).session.isExamActive = false ∧
        ((guardStep view initialLang s e).session.isDisqualified →
          s.session.isDisqualified)) ∨
      (∃ roomId, Enters s roomId e ∧
        (guardStep view initialLang s e).session.activeExamRoomId = some roomId ∧
        enforces (guardStep view initialLang s e).session) ∨
      LastTick s e ∧ SameExam { s.session with isDisqualified := true }
        (guardStep view initialLang s e).session := by
  cases e with
  | visibilitychange hidden hasFocus =>
      left
      rw [guardStep]
      split
      next => rw [session_handleExamFocusLoss]; exact .refl _
      next => rw [session_handleExamFocusReturn]; exact .refl _
  | blur hidden =>
      left
      rw [guardStep]
      split
      next => exact .refl _
      next => rw [session_handleExamFocusLoss]; exact .refl _
  | focus hidden hasFocus | pageshow hidden hasFocus =>
      left
      rw [guardStep, session_handleExamFocusReturn]
      exact .refl _
  | pagehide =>
      left
      rw [guardStep, session_handleExamFocusLoss]
      exact sameExam_syncActiveExamSnapshot _
  | tick timer =>
      rw [guardStep, cheatTick]
      split
      next => exact .inl (.refl _)
      next hrunning =>
        dsimp only
        split
        next hlast =>
          have hend := (disqualifyStudent_cases { s with
            cheatCountdown := s.cheatCountdown - 1
            intervals := s.intervals.filter (some · ≠ s.cheatTimer) }).2
          exact .inr (.inr (.inr ⟨⟨not_not.mp hrunning, by omega⟩, hend⟩))
        next => exact .inl (.refl _)
  | lockAnswered =>
      left
      rw [guardStep]
      split
      next => exact .refl _
      next => exact (autoSubmit_cases { s with locking := s.locking - 1 }).2
  | submitAnswered =>
      left
      rw [guardStep]
      split
      next => exact .refl _
      next => exact ⟨rfl, rfl, rfl, id⟩
  | kicked roomId =>
      rw [guardStep]
      split
      next hkicked =>
        refine .inr (.inl ⟨hkicked, rfl, fun hdisqualified => ?_⟩)
        rw [← session_stopCheatTimer s]
        exact hdisqualified
      next => exact .inl (.refl _)
  | refresh =>
      left
      rw [guardStep, startRefresh]
      split
      next => exact .refl _
      next => split <;> exact .refl _
  | refreshed roomId answer =>
      rw [guardStep, finishRefresh]
      split
      next => exact .inl (.refl _)
      next hawaited =>
        rw [not_not] at hawaited
        cases answer with
        | refused =>
            dsimp only
            split
            next hhere =>
              refine .inr (.inl ⟨⟨hawaited, hhere⟩, rfl, fun hdisqualified => ?_⟩)
              have hsame := session_stopCheatTimer
                { s with refreshing := s.refreshing.erase roomId }
              rw [← (congrArg Session.isDisqualified hsame)]
              exact hdisqualified
            next => exact .inl (.refl _)
        | failed => exact .inl (.refl _)
        | state assigned changed stores =>
            dsimp only
            split
            next => exact .inr (.inr (.inl ⟨roomId, ⟨rfl, hawaited⟩, rfl, rfl⟩))
            next => exact .inl (.refl _)
  | joined resumes roomId assigned stores =>
      exact .inr (.inr (.inl ⟨roomId, rfl, rfl, rfl⟩))
  | timeUp =>
      refine .inr (.inl ⟨trivial, ?_, ?_⟩)
      · rw [guardStep, triggerTimeUp, clearExamSession, session_stopCheatTimer]
      · rw [guardStep, triggerTimeUp, clearExamSession, session_stopCheatTimer]
        exact id
  | safeExitRoom => exact .inr (.inl ⟨trivial, rfl, fun h => by cases h⟩)
  | edit e => exact .inl ⟨rfl, rfl, rfl, id⟩
  | persist stores => exact .inl (sameExam_persistCurrentCode _ _)
  | openQuestion qId roomId stores => exact .inl (sameExam_setActiveQuestion _ _ _ _)
  | loadPastCode sub stores => exact .inl (sameExam_loadPastCode _ _ _)

def RealRoom : GuardEvent → Prop
  | .joined _ roomId _ _ => roomId ≠ 0
  | _ => True

theorem enforces_of_not_stops (henforces : enforces s.session) (hstops : ¬ Stops s e)
    (hlast : ¬ LastTick s e) : enforces (guardStep view initialLang s e).session := by
  obtain hsame | ⟨hstopped, -⟩ | ⟨roomId, -, -, hentered⟩ | ⟨htick, -⟩ :=
    session_guardStep view initialLang s e
  · rw [hsame.enforces, henforces]
  · exact absurd hstopped hstops
  · exact hentered
  · exact absurd htick hlast

/-- A countdown that runs after a step has just started, or ran before and was not stopped. -/
theorem running_guardStep (h : GuardSound s) {timer : Nat}
    (hmem : timer ∈ (guardStep view initialLang s e).intervals) :
    ¬ Stops s e ∧ ¬ LastTick s e ∧ (guardStep view initialLang s e).cheatTimer = some timer ∧
      ((timer ∈ s.intervals ∧ (guardStep view initialLang s e).cheatCountdown =
          s.cheatCountdown - if e = .tick timer then 1 else 0) ∨
        Loss e ∧ enforces s.session ∧ s.cheatTimer = none ∧
          (guardStep view initialLang s e).cheatCountdown = 10) := by
  have hstops : ¬ Stops s e := by
    intro hstops
    rw [(timers_of_stops view initialLang h hstops).2] at hmem
    cases hmem
  by_cases hfires : Fires s e
  · cases e with
    | tick fired =>
        have hfired := (h.running fired hfires).1
        have htimers := timers_of_tick view initialLang hfires
        simp only [timers, Prod.mk.injEq] at htimers
        obtain ⟨htimer, hcountdown, hintervals, -⟩ := htimers
        by_cases hlast : s.cheatCountdown ≤ 1
        · rw [hintervals, if_pos hlast, List.mem_filter, decide_eq_true_eq] at hmem
          exact absurd (h.running timer hmem.1).1.symm hmem.2
        · rw [hintervals, if_neg hlast] at hmem
          have hsame : fired = timer :=
            Option.some.inj (hfired.symm.trans (h.running timer hmem).1)
          subst hsame
          refine ⟨hstops, fun hlastTick => hlast hlastTick.2, htimer.trans hfired, .inl ⟨hmem, ?_⟩⟩
          rw [hcountdown, if_pos rfl]
    | _ => exact hfires.elim
  have hlast : ¬ LastTick s e := by
    cases e with
    | tick fired => exact fun hlast => hfires hlast.1
    | _ => exact id
  by_cases hloss : enforces s.session ∧ Loss e
  · have htimers := timers_of_loss view initialLang hloss.2 hloss.1
    have hne : e ≠ .tick timer := by
      rintro rfl
      cases hloss.2
    simp only [timers, Prod.mk.injEq] at htimers
    obtain ⟨htimer, hcountdown, hintervals, -⟩ := htimers
    rw [hintervals] at hmem
    unfold startCheatTimer at htimer hcountdown hmem
    split at hmem
    next hsome =>
      rw [if_pos hsome] at htimer hcountdown
      refine ⟨hstops, hlast, htimer.trans (h.running timer hmem).1, .inl ⟨hmem, ?_⟩⟩
      rw [hcountdown, if_neg hne, sub_zero]
    next hnone =>
      rw [if_neg hnone] at htimer hcountdown
      obtain hold | hnew := List.mem_append.mp hmem
      · rw [(h.running timer hold).1] at hnone
        exact absurd rfl hnone
      · obtain rfl := List.mem_singleton.mp hnew
        exact ⟨hstops, hlast, htimer,
          .inr ⟨hloss.2, hloss.1, Option.not_isSome_iff_eq_none.mp hnone, hcountdown⟩⟩
  · have htimers := timers_of_idle view initialLang hstops hfires hloss
    have hne : e ≠ .tick timer ∨ timer ∉ s.intervals := by
      rw [or_iff_not_imp_left, not_not]
      rintro rfl
      exact hfires
    simp only [timers, Prod.mk.injEq] at htimers
    obtain ⟨htimer, hcountdown, hintervals, -⟩ := htimers
    rw [hintervals] at hmem
    refine ⟨hstops, hlast, htimer.trans (h.running timer hmem).1, .inl ⟨hmem, ?_⟩⟩
    rw [hcountdown, if_neg (hne.resolve_right (not_not.mpr hmem)), sub_zero]

@[simp] theorem refreshing_stopCheatTimer (s : ExamPage) :
    (stopCheatTimer s).refreshing = s.refreshing := by
  unfold stopCheatTimer
  split <;> rfl

@[simp] theorem refreshing_handleExamFocusLoss (s : ExamPage) :
    (handleExamFocusLoss s).refreshing = s.refreshing := by
  unfold handleExamFocusLoss startCheatTimer
  split
  next => split <;> rfl
  next => rfl

@[simp] theorem refreshing_handleExamFocusReturn (hidden hasFocus : Bool) (s : ExamPage) :
    (handleExamFocusReturn hidden hasFocus s).refreshing = s.refreshing := by
  unfold handleExamFocusReturn
  split
  next => exact refreshing_stopCheatTimer s
  next => rfl

@[simp] theorem refreshing_autoSubmit (s : ExamPage) :
    (autoSubmit s).refreshing = s.refreshing := by
  unfold autoSubmit
  split <;> rfl

@[simp] theorem refreshing_cheatTick (timer : Nat) (s : ExamPage) :
    (cheatTick timer s).refreshing = s.refreshing := by
  unfold cheatTick disqualifyStudent
  split
  next => rfl
  next =>
    dsimp only
    split
    next => split <;> simp
    next => rfl

@[simp] theorem refreshing_endExam (s : ExamPage) : (endExam s).refreshing = s.refreshing :=
  refreshing_stopCheatTimer s

@[simp] theorem refreshing_triggerTimeUp (s : ExamPage) :
    (triggerTimeUp s).refreshing = s.refreshing :=
  refreshing_stopCheatTimer _

theorem refreshing_startRefresh {roomId : Int} (h : roomId ∈ (startRefresh s).refreshing) :
    roomId ∈ s.refreshing ∨ roomId ≠ 0 := by
  rw [startRefresh] at h
  split at h
  next => exact .inl h
  next started hstarted =>
    split at h
    next => exact .inl h
    next =>
      obtain hold | hnew := List.mem_append.mp h
      · exact .inl hold
      · obtain rfl := List.mem_singleton.mp hnew
        exact .inr (by simpa using (Option.filter_eq_some_iff.mp hstarted).2)

theorem refreshing_finishRefresh {roomId refreshedId : Int} {answer : RefreshAnswer}
    (h : roomId ∈ (finishRefresh refreshedId answer s).refreshing) : roomId ∈ s.refreshing := by
  rw [finishRefresh] at h
  split at h
  next => exact h
  next =>
    refine List.mem_of_mem_erase (b := refreshedId) ?_
    cases answer with
    | refused =>
        dsimp only at h
        split at h
        next => rwa [refreshing_endExam] at h
        next => exact h
    | failed => exact h
    | state assigned changed stores =>
        dsimp only at h
        split at h <;> exact h

theorem refreshing_guardStep {roomId : Int}
    (h : roomId ∈ (guardStep view initialLang s e).refreshing) :
    roomId ∈ s.refreshing ∨ roomId ≠ 0 := by
  cases e with
  | refresh => exact refreshing_startRefresh h
  | refreshed refreshedId answer => exact .inl (refreshing_finishRefresh h)
  | safeExitRoom => cases h
  | joined resumes joinedId assigned stores => cases resumes <;> exact .inl h
  | visibilitychange hidden hasFocus | blur hidden | lockAnswered | kicked kickedId =>
      rw [guardStep] at h
      split at h <;> exact .inl (by simpa using h)
  | submitAnswered =>
      rw [guardStep] at h
      split at h <;> exact .inl h
  | focus | pageshow | pagehide | tick | timeUp => exact .inl (by simpa [guardStep] using h)
  | edit | persist | openQuestion | loadPastCode => exact .inl h

theorem guardStep_sound (h : GuardSound s) (hreal : RealRoom e) :
    GuardSound (guardStep view initialLang s e) := by
  refine ⟨fun timer hmem => ?_, fun hactive => ?_, fun roomId hroom => ?_⟩
  · obtain ⟨hstops, hlast, htimer, hcases⟩ := running_guardStep view initialLang h hmem
    have henforces : enforces s.session := by
      obtain ⟨hrunning, -⟩ | ⟨-, henforces, -, -⟩ := hcases
      · exact (h.running timer hrunning).2.1
      · exact henforces
    refine ⟨htimer, enforces_of_not_stops view initialLang henforces hstops hlast, ?_⟩
    obtain ⟨hrunning, hcountdown⟩ | ⟨-, -, -, hcountdown⟩ := hcases
    · obtain ⟨-, -, hlow, hhigh⟩ := h.running timer hrunning
      rw [hcountdown]
      split
      next hfired =>
        subst hfired
        have hmore : ¬ s.cheatCountdown ≤ 1 := fun hle => hlast ⟨hrunning, hle⟩
        omega
      next => omega
    · rw [hcountdown]
      decide
  · obtain hsame | ⟨-, hended, -⟩ | ⟨roomId, henters, hroom, -⟩ | ⟨-, hsame⟩ :=
      session_guardStep view initialLang s e
    · exact hsame.room (h.room (hsame.isExamActive ▸ hactive))
    · rw [hended] at hactive
      cases hactive
    · have hne : roomId ≠ 0 := by
        cases e with
        | joined resumes joinedId assigned stores =>
            obtain rfl : joinedId = roomId := henters
            exact hreal
        | refreshed refreshedId answer =>
            cases answer with
            | state assigned changed stores => exact h.refreshing roomId henters.2
            | _ => exact henters.elim
        | _ => exact henters.elim
      rw [hroom, truthyId, Option.filter_some, if_pos (by simpa using hne)]
      rfl
    · exact hsame.room (h.room (hsame.isExamActive ▸ hactive))
  · exact (refreshing_guardStep view initialLang hroom).elim (h.refreshing roomId) id

theorem stops_of_returned (henforces : enforces s.session) (hreturned : Returned e) :
    Stops s e := by
  cases e with
  | visibilitychange | focus | pageshow => exact ⟨henforces, hreturned⟩
  | _ => cases hreturned

theorem lastTick_disqualifies (h : GuardSound s) (hlast : LastTick s e) :
    s.session.isDisqualified = false ∧
      (guardStep view initialLang s e).session.isDisqualified ∧
      ∃ roomId, truthyId s.session.activeExamRoomId = some roomId ∧
        (guardStep view initialLang s e).sent = s.sent ++ [.lock roomId] := by
  cases e with
  | tick timer =>
      obtain ⟨hrunning, hcountdown⟩ := hlast
      have henforces := (h.running timer hrunning).2.1
      simp only [enforces, Bool.and_eq_true, Bool.not_eq_true'] at henforces
      obtain ⟨roomId, hroom⟩ := Option.isSome_iff_exists.mp (h.room henforces.1.1)
      have hzero : s.cheatCountdown - 1 ≤ 0 := by omega
      rw [guardStep, cheatTick, if_neg (not_not.mpr hrunning)]
      dsimp only
      rw [if_pos hzero]
      unfold disqualifyStudent
      simp only [hroom]
      exact ⟨henforces.2, trivial, roomId, rfl, rfl⟩
  | _ => exact hlast.elim

theorem lastTick_of_disqualified (hbefore : s.session.isDisqualified = false)
    (hafter : (guardStep view initialLang s e).session.isDisqualified) : LastTick s e := by
  obtain hsame | ⟨-, -, hkept⟩ | ⟨roomId, -, -, hentered⟩ | ⟨hlast, -⟩ :=
    session_guardStep view initialLang s e
  · rw [hsame.isDisqualified, hbefore] at hafter
    cases hafter
  · rw [hkept hafter] at hbefore
    cases hbefore
  · simp [enforces, hafter] at hentered
  · exact hlast

theorem not_lastTick_of_stops (hstops : Stops s e) : ¬ LastTick s e := by
  cases e with
  | tick timer => cases hstops.2
  | _ => exact id

/-- The countdown of an earlier disqualification; `startCheatTimer` takes it for a running
one. -/
def Stale (s : ExamPage) : Prop := s.cheatTimer.isSome ∧ s.intervals = []

theorem stale_guardStep_iff (h : GuardSound s) :
    Stale (guardStep view initialLang s e) ↔ LastTick s e ∨ Stale s ∧ ¬ Stops s e := by
  by_cases hstops : Stops s e
  · have hlast := not_lastTick_of_stops hstops
    have hnone := (timers_of_stops view initialLang h hstops).1
    refine iff_of_false (fun hstale => ?_) (by simp [hlast, hstops])
    rw [Stale, hnone] at hstale
    cases hstale.1
  rw [and_iff_left hstops]
  by_cases hfires : Fires s e
  · cases e with
    | tick fired =>
        have hrunning : fired ∈ s.intervals := hfires
        have hnotStale : ¬ Stale s := fun hstale => List.ne_nil_of_mem hrunning hstale.2
        have htimers := timers_of_tick view initialLang hrunning
        simp only [timers, Prod.mk.injEq] at htimers
        obtain ⟨htimer, -, hintervals, -⟩ := htimers
        rw [or_iff_left hnotStale, Stale, htimer, hintervals, (h.running fired hrunning).1]
        by_cases hlast : s.cheatCountdown ≤ 1
        · refine iff_of_true ⟨rfl, ?_⟩ ⟨hrunning, hlast⟩
          rw [if_pos hlast, List.filter_eq_nil_iff]
          intro other hother
          have hsame := (h.running other hother).1.symm.trans (h.running fired hrunning).1
          simpa using hsame
        · rw [if_neg hlast]
          exact iff_of_false (fun hstale => List.ne_nil_of_mem hrunning hstale.2)
            fun hlastTick => hlast hlastTick.2
    | _ => exact hfires.elim
  have hlast : ¬ LastTick s e := by
    cases e with
    | tick fired => exact fun hlast => hfires hlast.1
    | _ => exact id
  rw [or_iff_right hlast]
  by_cases hloss : enforces s.session ∧ Loss e
  · have htimers := timers_of_loss view initialLang hloss.2 hloss.1
    simp only [timers, Prod.mk.injEq] at htimers
    obtain ⟨htimer, -, hintervals, -⟩ := htimers
    rw [Stale, htimer, hintervals, startCheatTimer]
    split
    next => rfl
    next hnone => simp [Stale, hnone]
  · have htimers := timers_of_idle view initialLang hstops hfires hloss
    simp only [timers, Prod.mk.injEq] at htimers
    rw [Stale, htimers.1, htimers.2.2.1, Stale]

theorem running_goes_on (h : GuardSound s) {timer : Nat} (hrunning : timer ∈ s.intervals)
    (hstops : ¬ Stops s e) (hlast : ¬ LastTick s e) :
    timer ∈ (guardStep view initialLang s e).intervals := by
  have hsome := (h.running timer hrunning).1
  by_cases hfires : Fires s e
  · cases e with
    | tick fired =>
        have hmore : ¬ s.cheatCountdown ≤ 1 := fun hle => hlast ⟨hfires, hle⟩
        have htimers := timers_of_tick view initialLang hfires
        simp only [timers, Prod.mk.injEq, if_neg hmore] at htimers
        exact htimers.2.2.1 ▸ hrunning
    | _ => exact hfires.elim
  by_cases hloss : enforces s.session ∧ Loss e
  · have htimers := timers_of_loss view initialLang hloss.2 hloss.1
    rw [startCheatTimer, if_pos (by rw [hsome]; rfl)] at htimers
    simp only [timers, Prod.mk.injEq] at htimers
    exact htimers.2.2.1 ▸ hrunning
  · have htimers := timers_of_idle view initialLang hstops hfires hloss
    simp only [timers, Prod.mk.injEq] at htimers
    exact htimers.2.2.1 ▸ hrunning

theorem running_of_loss_iff (hloss : Loss e) (henforces : enforces s.session) :
    (guardStep view initialLang s e).intervals ≠ [] ↔ ¬ Stale s := by
  have htimers := timers_of_loss view initialLang hloss henforces
  simp only [timers, Prod.mk.injEq] at htimers
  rw [htimers.2.2.1, startCheatTimer, Stale]
  split
  next hsome => rw [and_iff_right hsome]
  next hnone => simp [hnone]

theorem countdown_runs_out {timer : Nat} (h : GuardSound s) (hrunning : timer ∈ s.intervals)
    (during : List GuardEvent) (hreal : ∀ e ∈ during, RealRoom e)
    (haway : ∀ p ∈ transitions (guardStep view initialLang) s during, ¬ Stops p.1 p.2)
    (hticks : s.cheatCountdown ≤ during.count (.tick timer)) :
    ∃ p ∈ transitions (guardStep view initialLang) s during, GuardSound p.1 ∧
      LastTick p.1 p.2 := by
  induction during generalizing s with
  | nil =>
      have hlow := (h.running timer hrunning).2.2.1
      rw [List.count_nil] at hticks
      omega
  | cons e during ih =>
      rw [List.forall_mem_cons] at hreal
      rw [transitions_cons, List.forall_mem_cons] at haway
      by_cases hlast : LastTick s e
      · exact ⟨(s, e), List.mem_cons_self, h, hlast⟩
      · have hstill := running_goes_on view initialLang h hrunning haway.1 hlast
        obtain ⟨-, -, -, hcases⟩ := running_guardStep view initialLang h hstill
        have hnext : (guardStep view initialLang s e).cheatCountdown ≤
            during.count (.tick timer) := by
          obtain ⟨-, hcountdown⟩ | ⟨-, -, hnone, -⟩ := hcases
          · rw [List.count_cons] at hticks
            simp only [beq_iff_eq] at hticks
            rw [hcountdown]
            by_cases htick : e = .tick timer
            · rw [if_pos htick] at hticks ⊢
              omega
            · rw [if_neg htick] at hticks ⊢
              omega
          · rw [(h.running timer hrunning).1] at hnone
            cases hnone
        obtain ⟨p, hp, hfound⟩ := ih (guardStep_sound view initialLang h hreal.1) hstill
          hreal.2 haway.2 hnext
        exact ⟨p, List.mem_cons_of_mem _ hp, hfound⟩

end Steps

/-! ## Runs -/

section Runs

variable (view : TextComponent) (initialLang : String)
  (stored : InsertionMap String SavedWorkspace)

def examPageAt (events : List GuardEvent) : ExamPage :=
  events.foldl (guardStep view initialLang) (initialPage view initialLang stored)

theorem examPageAt_concat (events : List GuardEvent) (e : GuardEvent) :
    examPageAt view initialLang stored (events ++ [e]) =
      guardStep view initialLang (examPageAt view initialLang stored events) e := by
  rw [examPageAt, List.foldl_append]
  rfl

theorem initialPage_sound : GuardSound (initialPage view initialLang stored) :=
  ⟨by simp [initialPage], by simp [initialPage, initialSession], by simp [initialPage]⟩

theorem examPageAt_sound {events : List GuardEvent} (hreal : ∀ e ∈ events, RealRoom e) :
    GuardSound (examPageAt view initialLang stored events) :=
  foldl_invariant_of (guardStep view initialLang) (G := fun _ e => RealRoom e)
    (fun _ _ h he => guardStep_sound view initialLang h he)
    (initialPage_sound view initialLang stored) events
    (fun _ hp => hreal _ (label_mem_of_mem_transitions _ hp))

/-- What a running countdown has seen since it started. -/
theorem countdown_since_loss {events : List GuardEvent} (hreal : ∀ e ∈ events, RealRoom e)
    {timer : Nat} (hrunning : timer ∈ (examPageAt view initialLang stored events).intervals) :
    ∃ before loss during, events = before ++ loss :: during ∧ Loss loss ∧
      enforces (examPageAt view initialLang stored before).session ∧
      (∀ e ∈ during, ¬ Returned e) ∧
      (examPageAt view initialLang stored events).cheatCountdown =
        10 - during.count (.tick timer) := by
  induction events using List.reverseRecOn with
  | nil => simp [examPageAt, initialPage] at hrunning
  | append_singleton events e ih =>
      rw [List.forall_mem_append, List.forall_mem_singleton] at hreal
      have hsound := examPageAt_sound view initialLang stored hreal.1
      rw [examPageAt_concat] at hrunning ⊢
      obtain ⟨hstops, -, -, hcases⟩ := running_guardStep view initialLang hsound hrunning
      obtain ⟨hbefore, hcountdown⟩ | ⟨hloss, henforces, -, hcountdown⟩ := hcases
      · obtain ⟨before, loss, during, rfl, hloss, henforces, hduring, hcount⟩ := ih hreal.1 hbefore
        refine ⟨before, loss, during ++ [e], by simp, hloss, henforces, ?_, ?_⟩
        · rw [List.forall_mem_append, List.forall_mem_singleton]
          exact ⟨hduring, fun hreturned =>
            hstops (stops_of_returned (hsound.running timer hbefore).2.1 hreturned)⟩
        · rw [hcountdown, hcount, List.count_append, List.count_singleton]
          simp only [beq_iff_eq]
          split <;> push_cast <;> omega
      · exact ⟨events, e, [], rfl, hloss, henforces, by simp, by simpa using hcountdown⟩

/--
No run disqualifies a student who comes back in time: before a disqualification the exam
was watched when the page lost the focus, the page has not had it again since, and this is
the tenth tick.  The server is asked to lock the student out of the room.
-/
theorem disqualified_after_ten_ticks (events : List GuardEvent) (e : GuardEvent)
    (hreal : ∀ e ∈ events, RealRoom e)
    (hbefore : (examPageAt view initialLang stored events).session.isDisqualified = false)
    (hafter :
      (examPageAt view initialLang stored (events ++ [e])).session.isDisqualified = true) :
    ∃ before loss during timer, events = before ++ loss :: during ∧ Loss loss ∧
      enforces (examPageAt view initialLang stored before).session ∧
      (∀ e ∈ during, ¬ Returned e) ∧ e = .tick timer ∧ during.count (.tick timer) = 9 ∧
      ∃ roomId,
        truthyId (examPageAt view initialLang stored events).session.activeExamRoomId =
          some roomId ∧
        (examPageAt view initialLang stored (events ++ [e])).sent =
          (examPageAt view initialLang stored events).sent ++ [.lock roomId] := by
  have hsound := examPageAt_sound view initialLang stored hreal
  rw [examPageAt_concat] at hafter ⊢
  have hlast := lastTick_of_disqualified view initialLang hbefore hafter
  obtain ⟨-, -, hlock⟩ := lastTick_disqualifies view initialLang hsound hlast
  cases e with
  | tick timer =>
      obtain ⟨hrunning, hle⟩ := hlast
      obtain ⟨before, loss, during, hevents, hloss, henforces, hduring, hcount⟩ :=
        countdown_since_loss view initialLang stored hreal hrunning
      have hlow := (hsound.running timer hrunning).2.2.1
      exact ⟨before, loss, during, timer, hevents, hloss, henforces, hduring, rfl, by omega, hlock⟩
  | _ => exact hlast.elim

def awayInExam : List GuardEvent :=
  [.joined false 7 [1, 2] true, .openQuestion 1 (some 7) true, .blur false] ++
    List.replicate 9 (.tick 1)

theorem disqualified_after_blur :
    ∃ before loss during timer, awayInExam = before ++ loss :: during ∧ Loss loss ∧
      enforces (examPageAt lineComponent "python" .empty before).session ∧
      (∀ e ∈ during, ¬ Returned e) ∧ GuardEvent.tick 1 = .tick timer ∧
      during.count (.tick timer) = 9 ∧
      ∃ roomId,
        truthyId (examPageAt lineComponent "python" .empty
          awayInExam).session.activeExamRoomId = some roomId ∧
        (examPageAt lineComponent "python" .empty (awayInExam ++ [.tick 1])).sent =
          (examPageAt lineComponent "python" .empty awayInExam).sent ++ [.lock roomId] :=
  disqualified_after_ten_ticks lineComponent "python" .empty awayInExam (.tick 1)
    (by simp [awayInExam, RealRoom]) (by decide +kernel) (by decide +kernel)

theorem stale_examPageAt_iff {events : List GuardEvent} (hreal : ∀ e ∈ events, RealRoom e) :
    Stale (examPageAt view initialLang stored events) ↔
      Since (guardStep view initialLang) LastTick (fun s e => ¬ Stops s e)
        (initialPage view initialLang stored) events :=
  reached_iff_since (guardStep view initialLang) (G := fun _ e => RealRoom e)
    (fun _ _ h he => guardStep_sound view initialLang h he)
    (fun _ _ h _ => stale_guardStep_iff view initialLang h)
    (initialPage_sound view initialLang stored) (by simp [Stale, initialPage]) events
    (fun _ hp => hreal _ (label_mem_of_mem_transitions _ hp))

/-- After the focus is lost in an exam a countdown runs, unless the last one ended in a
disqualification and nothing has stopped it since. -/
theorem loss_starts_countdown_iff (events : List GuardEvent) (loss : GuardEvent)
    (hreal : ∀ e ∈ events, RealRoom e) (hloss : Loss loss)
    (henforces : enforces (examPageAt view initialLang stored events).session) :
    (examPageAt view initialLang stored (events ++ [loss])).intervals ≠ [] ↔
      ¬ Since (guardStep view initialLang) LastTick (fun s e => ¬ Stops s e)
        (initialPage view initialLang stored) events := by
  rw [examPageAt_concat, running_of_loss_iff view initialLang hloss henforces,
    stale_examPageAt_iff view initialLang stored hreal]

theorem blur_starts_countdown :
    (examPageAt lineComponent "python" .empty
        ([.joined false 7 [1, 2] true] ++ [.blur false])).intervals ≠ [] ↔
      ¬ Since (guardStep lineComponent "python") LastTick (fun s e => ¬ Stops s e)
        (initialPage lineComponent "python" .empty) [.joined false 7 [1, 2] true] :=
  loss_starts_countdown_iff lineComponent "python" .empty [.joined false 7 [1, 2] true]
    (.blur false) (by simp [RealRoom]) rfl (by decide +kernel)

/-- Who is let in again without a reload can leave unnoticed the first time. -/
example :
    (examPageAt lineComponent "python" .empty
      (awayInExam ++ [.tick 1, .joined false 7 [1, 2] true, .blur false])).intervals = [] := by
  decide +kernel

/--
Who loses the focus in an exam and stays away is disqualified by the tenth tick, and the
server is asked for the lock, whatever else happens on the page in the meantime.
-/
theorem staying_away_disqualifies (events : List GuardEvent) (loss : GuardEvent)
    (hreal : ∀ e ∈ events, RealRoom e) (hloss : Loss loss)
    (henforces : enforces (examPageAt view initialLang stored events).session)
    (hfresh : ¬ Since (guardStep view initialLang) LastTick (fun s e => ¬ Stops s e)
      (initialPage view initialLang stored) events) :
    ∃ timer ∈ (examPageAt view initialLang stored (events ++ [loss])).intervals,
      ∀ during : List GuardEvent, (∀ e ∈ during, RealRoom e) →
        (∀ p ∈ transitions (guardStep view initialLang)
          (examPageAt view initialLang stored (events ++ [loss])) during, ¬ Stops p.1 p.2) →
        10 ≤ during.count (.tick timer) →
        ∃ p ∈ transitions (guardStep view initialLang)
            (examPageAt view initialLang stored (events ++ [loss])) during,
          p.1.session.isDisqualified = false ∧
          (guardStep view initialLang p.1 p.2).session.isDisqualified ∧
          ∃ roomId, truthyId p.1.session.activeExamRoomId = some roomId ∧
            (guardStep view initialLang p.1 p.2).sent = p.1.sent ++ [.lock roomId] := by
  have hlossReal : ∀ e ∈ events ++ [loss], RealRoom e := by
    rw [List.forall_mem_append, List.forall_mem_singleton]
    refine ⟨hreal, ?_⟩
    cases loss with
    | joined => cases hloss
    | _ => trivial
  have hsound := examPageAt_sound view initialLang stored hlossReal
  rw [← stale_examPageAt_iff view initialLang stored hreal,
    ← running_of_loss_iff view initialLang hloss henforces, ← examPageAt_concat] at hfresh
  obtain ⟨timer, hrunning⟩ := List.exists_mem_of_ne_nil _ hfresh
  refine ⟨timer, hrunning, fun during hduring haway hticks => ?_⟩
  have hhigh := (hsound.running timer hrunning).2.2.2
  obtain ⟨p, hp, hpSound, hlast⟩ := countdown_runs_out view initialLang hsound hrunning during
    hduring haway (by omega)
  exact ⟨p, hp, lastTick_disqualifies view initialLang hpSound hlast⟩

theorem blur_disqualifies :
    ∃ timer ∈ (examPageAt lineComponent "python" .empty
        ([.joined false 7 [1, 2] true] ++ [.blur false])).intervals,
      ∀ during : List GuardEvent, (∀ e ∈ during, RealRoom e) →
        (∀ p ∈ transitions (guardStep lineComponent "python")
          (examPageAt lineComponent "python" .empty
            ([.joined false 7 [1, 2] true] ++ [.blur false])) during, ¬ Stops p.1 p.2) →
        10 ≤ during.count (.tick timer) →
        ∃ p ∈ transitions (guardStep lineComponent "python")
            (examPageAt lineComponent "python" .empty
              ([.joined false 7 [1, 2] true] ++ [.blur false])) during,
          p.1.session.isDisqualified = false ∧
          (guardStep lineComponent "python" p.1 p.2).session.isDisqualified ∧
          ∃ roomId, truthyId p.1.session.activeExamRoomId = some roomId ∧
            (guardStep lineComponent "python" p.1 p.2).sent = p.1.sent ++ [.lock roomId] :=
  staying_away_disqualifies lineComponent "python" .empty [.joined false 7 [1, 2] true]
    (.blur false) (by simp [RealRoom]) rfl (by decide +kernel) (by
      rw [← stale_examPageAt_iff lineComponent "python" .empty (by simp [RealRoom])]
      exact fun hstale => absurd hstale.1 (by decide +kernel))

end Runs

end JudgeVortex.Templates
