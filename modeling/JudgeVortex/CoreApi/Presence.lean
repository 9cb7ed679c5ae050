import JudgeVortex.CoreApi.ParticipantLock

/-!
# The presence of a participant

`lock_participant_access`, `mark_participant_present` and the unlock of a teacher, one after
another on the row of one participant.  A mark within five seconds of the stored one is
dropped, whichever of the two is later, so that the stored time can lie on either side of
the last mark.
-/

namespace JudgeVortex.CoreApi

open JudgeVortex.Python

def unlockParticipant (participant : ParticipantRow) : Save where
  participant := { participant with
    accessLocked := false
    accessLockedAt := none
    lastPresenceAt := none }
  updateFields := [.accessLocked, .accessLockedAt, .lastPresenceAt]

inductive PresenceOperation where
  | lock (now : Time)
  | unlock
  | mark (now : Time)
  deriving DecidableEq, Repr

namespace PresenceOperation

def IsMark : PresenceOperation → Prop
  | mark _ => True
  | lock _ | unlock => False

def save? : PresenceOperation → ParticipantRow → Option Save
  | lock now, participant => lockParticipantAccess now participant
  | unlock, participant => some (unlockParticipant participant)
  | mark now, participant => markParticipantPresent now participant

end PresenceOperation

def ParticipantRow.operate (row : ParticipantRow) (operation : PresenceOperation) :
    ParticipantRow :=
  match operation.save? row with
  | none => row
  | some save => row.save save

section Steps

variable (row : ParticipantRow) (now : Time)

theorem accessLocked_operate_lock : (row.operate (.lock now)).accessLocked = true := by
  cases hsave : lockParticipantAccess now row with
  | none =>
      rw [ParticipantRow.operate, PresenceOperation.save?, hsave]
      exact lockParticipantAccess_eq_none_iff.mp hsave
  | some save =>
      rw [ParticipantRow.operate, PresenceOperation.save?, hsave]
      simp only [save_lockParticipantAccess hsave]

theorem operate_unlock : row.operate .unlock = ⟨false, none, none⟩ := rfl

theorem operate_mark_cases :
    (∃ last, row.lastPresenceAt = some last ∧ (now - last).natAbs < 5 * 1000000 ∧
        row.operate (.mark now) = row) ∨
      row.operate (.mark now) = { row with lastPresenceAt := some now } := by
  cases hsave : markParticipantPresent now row with
  | none =>
      left
      have hany : row.lastPresenceAt.any fun last => (now - last).natAbs < 5 * 1000000 := by
        rw [markParticipantPresent] at hsave
        split at hsave
        next h => exact h
        next => cases hsave
      obtain ⟨last, hlast, hclose⟩ := (Option.any_eq_true _ _).mp hany
      exact ⟨last, hlast, of_decide_eq_true hclose, by
        rw [ParticipantRow.operate, PresenceOperation.save?, hsave]⟩
  | some save =>
      right
      rw [ParticipantRow.operate, PresenceOperation.save?, hsave]
      exact save_markParticipantPresent hsave

theorem accessLocked_operate_mark :
    (row.operate (.mark now)).accessLocked = row.accessLocked := by
  obtain ⟨last, -, -, hsame⟩ | hmarked := operate_mark_cases row now
  · rw [hsame]
  · rw [hmarked]

theorem lastPresenceAt_operate_mark :
    ∃ last, (row.operate (.mark now)).lastPresenceAt = some last ∧
      (now - last).natAbs < 5 * 1000000 := by
  obtain ⟨last, hlast, hclose, hsame⟩ | hmarked := operate_mark_cases row now
  · exact ⟨last, by rw [hsame, hlast], hclose⟩
  · exact ⟨now, by rw [hmarked], by simp⟩

end Steps

theorem participantIsActive_iff {windowSeconds : Nat} {now : Time} {row : ParticipantRow} :
    participantIsActive windowSeconds now (some row) = true ↔
      row.accessLocked = false ∧
        ∃ last, row.lastPresenceAt = some last ∧ now - last ≤ windowSeconds * 1000000 := by
  rw [participantIsActive]
  split
  next hlocked => simp [hlocked]
  next hopen => cases row.lastPresenceAt <;> simp [hopen]

/-- The time of an unlocked participant is that of a mark after which only marks came. -/
def TracksMark (operations : List PresenceOperation) (row : ParticipantRow) : Prop :=
  row.accessLocked = false → ∀ last, row.lastPresenceAt = some last →
    ∃ before after, operations = before ++ .mark last :: after ∧
      ∀ operation ∈ after, operation.IsMark

theorem TracksMark.operate {operations : List PresenceOperation} {row : ParticipantRow}
    (h : TracksMark operations row) (operation : PresenceOperation) :
    TracksMark (operations ++ [operation]) (row.operate operation) := by
  intro hopen last hlast
  cases operation with
  | lock now =>
      rw [accessLocked_operate_lock] at hopen
      cases hopen
  | unlock =>
      rw [operate_unlock] at hlast
      cases hlast
  | mark now =>
      rw [accessLocked_operate_mark] at hopen
      obtain ⟨_, -, -, hsame⟩ | hmarked := operate_mark_cases row now
      · rw [hsame] at hlast
        obtain ⟨before, after, rfl, hafter⟩ := h hopen last hlast
        refine ⟨before, after ++ [.mark now], by simp, fun operation hmem => ?_⟩
        rcases List.mem_append.mp hmem with hmem | hmem
        · exact hafter operation hmem
        · rw [List.mem_singleton.mp hmem]
          trivial
      · rw [hmarked] at hlast
        cases hlast
        exact ⟨operations, [], rfl, by simp⟩

theorem tracksMark_foldl {row : ParticipantRow} (hrow : row.lastPresenceAt = none)
    (operations : List PresenceOperation) :
    TracksMark operations (operations.foldl ParticipantRow.operate row) := by
  induction operations using List.reverseRecOn with
  | nil =>
      intro _ last hlast
      rw [List.foldl_nil, hrow] at hlast
      cases hlast
  | append_singleton operations operation ih =>
      rw [List.foldl_append]
      exact ih.operate operation

/-- What the activity of a participant tells about the marks, and the marks about it. -/
structure PresenceAccurate (windowSeconds : Nat) (row : ParticipantRow)
    (operations : List PresenceOperation) : Prop where
  present : ∀ before marked, operations = before ++ [.mark marked] →
    (before.foldl ParticipantRow.operate row).accessLocked = false →
    ∀ now, marked ≤ now → now ≤ marked + ((windowSeconds : Int) - 5) * 1000000 →
      participantIsActive windowSeconds now
        (some (operations.foldl ParticipantRow.operate row)) = true
  recent : ∀ now, participantIsActive windowSeconds now
      (some (operations.foldl ParticipantRow.operate row)) = true →
    (operations.foldl ParticipantRow.operate row).accessLocked = false ∧
      ∃ before marked after, operations = before ++ .mark marked :: after ∧
        now - windowSeconds * 1000000 ≤ marked ∧ ∀ operation ∈ after, operation.IsMark

theorem presence_accurate (windowSeconds : Nat) (row : ParticipantRow)
    (hrow : row.lastPresenceAt = none) (operations : List PresenceOperation) :
    PresenceAccurate windowSeconds row operations where
  present := by
    rintro before marked rfl hopen now hle hlate
    rw [List.foldl_append, List.foldl_cons, List.foldl_nil, participantIsActive_iff]
    obtain ⟨last, hlast, hclose⟩ :=
      lastPresenceAt_operate_mark (before.foldl ParticipantRow.operate row) marked
    refine ⟨by rw [accessLocked_operate_mark, hopen], last, hlast, ?_⟩
    have hlag : marked - last < 5 * 1000000 := Int.le_natAbs.trans_lt (by exact_mod_cast hclose)
    change (now : Int) - last ≤ windowSeconds * 1000000
    omega
  recent := by
    intro now hactive
    obtain ⟨hopen, last, hlast, hwindow⟩ := participantIsActive_iff.mp hactive
    obtain ⟨before, after, hsplit, hafter⟩ := tracksMark_foldl hrow operations hopen last hlast
    exact ⟨hopen, before, last, after, hsplit, sub_le_comm.mp hwindow, hafter⟩

/-- The second mark is dropped although it is later, the clock steps back before the third. -/
theorem presence_accurate_sample :
    let operations : List PresenceOperation :=
      [.lock 0, .unlock, .mark 10000000, .mark 14000000, .mark 13000000]
    participantIsActive 25 33000000
        (some (operations.foldl ParticipantRow.operate .fresh)) = true ∧
      ∃ before, ∃ marked : Time, ∃ after, operations = before ++ .mark marked :: after ∧
        33000000 - (25 : Nat) * 1000000 ≤ marked ∧ ∀ operation ∈ after, operation.IsMark := by
  have h := presence_accurate 25 .fresh rfl
    [.lock 0, .unlock, .mark 10000000, .mark 14000000, .mark 13000000]
  have hactive := h.present [.lock 0, .unlock, .mark 10000000, .mark 14000000] 13000000 rfl
    (by decide) 33000000 (by decide) (by decide)
  exact ⟨hactive, (h.recent 33000000 hactive).2⟩

end JudgeVortex.CoreApi
