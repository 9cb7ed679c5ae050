import JudgeVortex.CoreApi.Locking
import JudgeVortex.Foundation.Interleaving

/-!
# The lock of a participant

The requests that read the row of a participant and write some of its fields back
later, each step of them between any steps of the others.  `Save` is a
`participant.save(update_fields=[…])` of `core_api/views.py`: the fields that it names are
taken from the object that the request loaded.
-/

namespace JudgeVortex.CoreApi

open JudgeVortex.Foundation JudgeVortex.Python

structure ParticipantRow where
  accessLocked : Bool
  accessLockedAt : Option Time
  lastPresenceAt : Option Time
  deriving DecidableEq, Repr

inductive ParticipantField where
  | accessLocked
  | accessLockedAt
  | lastPresenceAt
  deriving DecidableEq, Repr

structure Save where
  participant : ParticipantRow
  updateFields : List ParticipantField

def ParticipantRow.save (row : ParticipantRow) (save : Save) : ParticipantRow where
  accessLocked :=
    if .accessLocked ∈ save.updateFields then save.participant.accessLocked
    else row.accessLocked
  accessLockedAt :=
    if .accessLockedAt ∈ save.updateFields then save.participant.accessLockedAt
    else row.accessLockedAt
  lastPresenceAt :=
    if .lastPresenceAt ∈ save.updateFields then save.participant.lastPresenceAt
    else row.lastPresenceAt

def ParticipantRow.fresh : ParticipantRow := ⟨false, none, none⟩

def lockParticipantAccess (now : Time) (participant : ParticipantRow) : Option Save :=
  if participant.accessLocked then none
  else some
    { participant := { participant with
        accessLocked := true
        accessLockedAt := some now
        lastPresenceAt := none }
      updateFields := [.accessLocked, .accessLockedAt, .lastPresenceAt] }

def markParticipantPresent (now : Time) (participant : ParticipantRow) : Option Save :=
  if participant.lastPresenceAt.any fun last => (now - last).natAbs < 5 * 1000000 then none
  else some
    { participant := { participant with lastPresenceAt := some now }
      updateFields := [.lastPresenceAt] }

/-- `participant_is_active`; the window is `PARTICIPANT_ACTIVE_WINDOW_SECONDS`. -/
def participantIsActive (windowSeconds : Nat) (now : Time) :
    Option ParticipantRow → Bool
  | none => false
  | some participant =>
      if participant.accessLocked then false
      else participant.lastPresenceAt.any fun last => now - last ≤ windowSeconds * 1000000

/-! ## The requests -/

inductive ParticipantRequest where
  | join (user roomId : Int)
  | roomState (user roomId : Int)
  | workspaceSnapshot (user roomId : Int)
  | submit (user roomId : Int) (userInput : Json)
  | lockSelf (user roomId : Int)
  | teacherDelete (user roomId studentId : Int)
  | teacherPatch (user roomId studentId : Int) (accessLocked : Json)

namespace ParticipantRequest

def key : ParticipantRequest → Int × Int
  | join user roomId | roomState user roomId | workspaceSnapshot user roomId
  | submit user roomId _ | lockSelf user roomId => (roomId, user)
  | teacherDelete _ roomId studentId | teacherPatch _ roomId studentId _ => (roomId, studentId)

def Permitted (teacherOf : Int → Option Int) : ParticipantRequest → Prop
  | teacherDelete user roomId _ | teacherPatch user roomId _ _ => teacherOf roomId = some user
  | _ => True

instance (teacherOf : Int → Option Int) :
    (request : ParticipantRequest) → Decidable (request.Permitted teacherOf)
  | teacherDelete .. | teacherPatch .. => inferInstanceAs (Decidable (_ = _))
  | join .. | roomState .. | workspaceSnapshot .. | submit .. | lockSelf .. =>
      inferInstanceAs (Decidable True)

end ParticipantRequest

section Handlers

/-- `join_room_view` of a participant, `StudentRoomStateView` and
`StudentWorkspaceSnapshotView` -/
def presentUnlessLocked (now : Time) (participant : ParticipantRow) : Option Save :=
  if participant.accessLocked then none else markParticipantPresent now participant

def submitParticipant (userInput : Json) (now : Time) (participant : ParticipantRow) :
    Option Save :=
  let isAutoDisqualification := userInput = .str autoDisqualifySentinel
  if participant.accessLocked ∧ ¬ isAutoDisqualification then none
  else if isAutoDisqualification then lockParticipantAccess now participant
  else markParticipantPresent now participant

def patchParticipant [PythonRuntime] (accessLocked : Json) (now : Time)
    (participant : ParticipantRow) : Option Save :=
  if shouldLock accessLocked then lockParticipantAccess now participant
  else some
    { participant := { participant with
        accessLocked := false
        accessLockedAt := none
        lastPresenceAt := none }
      updateFields := [.accessLocked, .accessLockedAt, .lastPresenceAt] }

def ParticipantRequest.save? [PythonRuntime] : ParticipantRequest → Time → ParticipantRow →
    Option Save
  | join .. | roomState .. | workspaceSnapshot .. => presentUnlessLocked
  | submit _ _ userInput => submitParticipant userInput
  | lockSelf .. | teacherDelete .. => lockParticipantAccess
  | teacherPatch _ _ _ accessLocked => patchParticipant accessLocked

end Handlers

/-! ## Their steps -/

/-- Where a request is: before it reads the row, before it creates one, or with the
object that it loaded. -/
inductive ParticipantPoint where
  | reading
  | creating
  | loaded (participant : ParticipantRow)

/-- A request goes on, at the time that it takes for `timezone.now()`, or one of its other
checks or statements ends it. -/
inductive ParticipantInput where
  | proceed (now : Time)
  | stop

abbrev ParticipantTable := Int × Int → Option ParticipantRow

abbrev ParticipantThread := ParticipantRequest × ParticipantPoint

/-- The row is gone from the object that is saved if it is gone from the table. -/
def ParticipantTable.save (rows : ParticipantTable) (key : Int × Int) (save : Save) :
    ParticipantTable :=
  Function.update rows key ((rows key).map fun row => row.save save)

section Steps

variable [PythonRuntime] (teacherOf : Int → Option Int)

def readParticipant (rows : ParticipantTable) (request : ParticipantRequest) :
    Option ParticipantPoint :=
  if request.Permitted teacherOf then
    match rows request.key with
    | some participant => some (.loaded participant)
    | none =>
        match request with
        | .join .. => some .creating
        | _ => none
  else none

/-- A second row for the room and the student is refused. -/
def createParticipant (rows : ParticipantTable) (key : Int × Int) :
    ParticipantTable × Option ParticipantPoint :=
  match rows key with
  | some _ => (rows, none)
  | none => (Function.update rows key (some .fresh), some (.loaded .fresh))

def participantAct (rows : ParticipantTable) (thread : ParticipantThread) :
    ParticipantInput → ParticipantTable × Option ParticipantThread
  | .stop => (rows, none)
  | .proceed now =>
      match thread.2 with
      | .reading => (rows, (readParticipant teacherOf rows thread.1).map (Prod.mk thread.1))
      | .creating =>
          let (rows, point) := createParticipant rows thread.1.key
          (rows, point.map (Prod.mk thread.1))
      | .loaded participant =>
          match thread.1.save? now participant with
          | none => (rows, none)
          | some save => (ParticipantTable.save rows thread.1.key save, none)

def participantService :
    Service ParticipantTable ParticipantThread ParticipantRequest ParticipantInput where
  begin request := (request, .reading)
  act rows _ thread input := participantAct teacherOf rows thread input

end Steps

/-! ## What a save does to the row -/

section Rows

variable [PythonRuntime] {now : Time} {participant row : ParticipantRow} {save : Save}

omit [PythonRuntime] in
theorem lockParticipantAccess_eq_none_iff :
    lockParticipantAccess now participant = none ↔ participant.accessLocked = true := by
  rw [lockParticipantAccess]
  split
  next hlocked => simp [hlocked]
  next hopen => simp [hopen]

omit [PythonRuntime] in
theorem save_lockParticipantAccess (h : lockParticipantAccess now participant = some save) :
    row.save save = ⟨true, some now, none⟩ := by
  rw [lockParticipantAccess] at h
  split at h
  · cases h
  · cases h
    rfl

omit [PythonRuntime] in
theorem save_markParticipantPresent (h : markParticipantPresent now participant = some save) :
    row.save save = { row with lastPresenceAt := some now } := by
  rw [markParticipantPresent] at h
  split at h
  · cases h
  · cases h
    rfl

/-- The row is locked, or only its last presence changes, or a teacher unblocks it; what
the request had loaded does not matter. -/
theorem save_cases {request : ParticipantRequest}
    (h : request.save? now participant = some save) (row : ParticipantRow) :
    row.save save = ⟨true, some now, none⟩ ∨
      row.save save = { row with lastPresenceAt := some now } ∨
      (∃ user roomId studentId accessLocked,
        request = .teacherPatch user roomId studentId accessLocked ∧ ¬ shouldLock accessLocked) ∧
        row.save save = ⟨false, none, none⟩ := by
  have hpresent : presentUnlessLocked now participant = some save →
      row.save save = { row with lastPresenceAt := some now } := by
    intro h
    rw [presentUnlessLocked] at h
    split at h
    · cases h
    · exact save_markParticipantPresent h
  cases request with
  | join user roomId => exact .inr (.inl (hpresent h))
  | roomState user roomId => exact .inr (.inl (hpresent h))
  | workspaceSnapshot user roomId => exact .inr (.inl (hpresent h))
  | submit user roomId userInput =>
      change submitParticipant userInput now participant = some save at h
      rw [submitParticipant] at h
      split at h
      · cases h
      split at h
      · exact .inl (save_lockParticipantAccess h)
      · exact .inr (.inl (save_markParticipantPresent h))
  | lockSelf user roomId => exact .inl (save_lockParticipantAccess h)
  | teacherDelete user roomId studentId => exact .inl (save_lockParticipantAccess h)
  | teacherPatch user roomId studentId accessLocked =>
      change patchParticipant accessLocked now participant = some save at h
      rw [patchParticipant] at h
      split at h
      · exact .inl (save_lockParticipantAccess h)
      next hunblock =>
        cases h
        exact .inr (.inr ⟨⟨user, roomId, studentId, accessLocked, rfl, hunblock⟩, rfl⟩)

end Rows

/-! ## What a step does to the table -/

section Table

variable [PythonRuntime] {teacherOf : Int → Option Int} {rows : ParticipantTable}

def ParticipantRow.LockDated (row : ParticipantRow) : Prop :=
  row.accessLocked = true ↔ row.accessLockedAt.isSome = true

def LocksDated (rows : ParticipantTable) : Prop :=
  ∀ key row, rows key = some row → row.LockDated

variable (teacherOf rows) in
theorem participantAct_cases (thread : ParticipantThread) (input : ParticipantInput) :
    (participantAct teacherOf rows thread input).1 = rows ∨
      (rows thread.1.key = none ∧ (participantAct teacherOf rows thread input).1 =
        Function.update rows thread.1.key (some .fresh)) ∨
      ∃ now participant save, input = .proceed now ∧ thread.2 = .loaded participant ∧
        thread.1.save? now participant = some save ∧
        (participantAct teacherOf rows thread input).1 = rows.save thread.1.key save := by
  obtain ⟨request, point⟩ := thread
  cases input with
  | stop => exact .inl rfl
  | proceed now =>
      cases point with
      | reading => exact .inl rfl
      | creating =>
          cases hrow : rows request.key with
          | some row =>
              left
              simp [participantAct, createParticipant, hrow]
          | none =>
              right; left
              simp [participantAct, createParticipant, hrow]
      | loaded participant =>
          cases hsave : request.save? now participant with
          | none =>
              left
              simp [participantAct, hsave]
          | some save =>
              right; right
              exact ⟨now, participant, save, rfl, rfl, hsave, by simp [participantAct, hsave]⟩

theorem LocksDated.act (hrows : LocksDated rows) (thread : ParticipantThread)
    (input : ParticipantInput) : LocksDated (participantAct teacherOf rows thread input).1 := by
  obtain hsame | ⟨-, hfresh⟩ | ⟨now, participant, save, -, -, hsave, hsaved⟩ :=
    participantAct_cases teacherOf rows thread input
  · rwa [hsame]
  · rw [hfresh]
    intro key row hrow
    by_cases hkey : key = thread.1.key
    · subst hkey
      rw [Function.update_self] at hrow
      cases hrow
      simp [ParticipantRow.LockDated, ParticipantRow.fresh]
    · rw [Function.update_of_ne hkey] at hrow
      exact hrows key row hrow
  · rw [hsaved]
    intro key row hrow
    rw [ParticipantTable.save] at hrow
    by_cases hkey : key = thread.1.key
    · subst hkey
      rw [Function.update_self] at hrow
      obtain ⟨old, hold, rfl⟩ := Option.map_eq_some_iff.mp hrow
      have hdated := hrows _ old hold
      rcases save_cases hsave old with hlocked | hpresent | ⟨-, hopen⟩
      · simp [ParticipantRow.LockDated, hlocked]
      · rw [hpresent]
        exact hdated
      · simp [ParticipantRow.LockDated, hopen]
    · rw [Function.update_of_ne hkey] at hrow
      exact hrows key row hrow

def Admitted (teacherOf : Int → Option Int) (thread : ParticipantThread) : Prop :=
  thread.2 = .reading ∨ thread.1.Permitted teacherOf

theorem Admitted.act {thread next : ParticipantThread} (h : Admitted teacherOf thread)
    {input : ParticipantInput} (hnext : next ∈ (participantAct teacherOf rows thread input).2) :
    Admitted teacherOf next := by
  obtain ⟨request, point⟩ := thread
  cases input with
  | stop => cases hnext
  | proceed now =>
      cases point with
      | reading =>
          simp only [participantAct, readParticipant] at hnext
          split at hnext
          next hpermitted =>
            obtain ⟨point, -, rfl⟩ := Option.map_eq_some_iff.mp hnext
            exact .inr hpermitted
          next => cases hnext
      | creating =>
          obtain ⟨point, -, rfl⟩ := Option.map_eq_some_iff.mp hnext
          exact .inr (h.resolve_left nofun)
      | loaded participant =>
          simp only [participantAct] at hnext
          split at hnext <;> cases hnext

theorem participantService_rules : (participantService teacherOf).Rules (fun _ _ _ => True)
    LocksDated (fun _ _ thread => Admitted teacherOf thread) (fun _ _ => False)
    (fun _ => True) where
  begin _ _ _ _ _ := .inl rfl
  act _ _ thread input hrows hadmitted _ _ :=
    ⟨hrows.act thread input, fun _ hnext => hadmitted.act hnext, False.elim⟩
  others _ _ _ _ _ _ _ _ _ _ := ⟨fun _ h => h, False.elim⟩

def Unblocks (teacherOf : Int → Option Int) (s : Serving ParticipantTable ParticipantThread)
    (e : ServiceEvent ParticipantRequest ParticipantInput) (key : Int × Int) : Prop :=
  ∃ id now user accessLocked participant, e = .act id (.proceed now) ∧
    s.requests id = .running (.teacherPatch user key.1 key.2 accessLocked, .loaded participant) ∧
    teacherOf key.1 = some user ∧ ¬ shouldLock accessLocked

theorem row_step {s : Serving ParticipantTable ParticipantThread}
    (hs : Service.Upheld LocksDated (fun _ _ thread => Admitted teacherOf thread)
      (fun _ _ => False) (fun _ => True) s)
    (e : ServiceEvent ParticipantRequest ParticipantInput) {key : Int × Int}
    {row : ParticipantRow} (hrow : s.shared key = some row) :
    ∃ after, ((participantService teacherOf).step s e).shared key = some after ∧
      (row.accessLocked = true → after.accessLocked = true ∨ Unblocks teacherOf s e key) := by
  obtain hsame | ⟨id, request, -, -, hstep⟩ | ⟨id, input, thread, rfl, ht, hstep⟩ :=
    (participantService teacherOf).step_cases s e
  · exact ⟨row, by rw [hsame, hrow], .inl⟩
  · exact ⟨row, by rw [hstep, Serving.shared_put, hrow], .inl⟩
  have hadmitted := hs.holds id thread ht
  rw [hstep, Serving.shared_put]
  change ∃ after, (participantAct teacherOf s.shared thread input).1 key = some after ∧ _
  obtain hsame | ⟨hnone, hfresh⟩ | ⟨now, participant, save, rfl, hpoint, hsave, hsaved⟩ :=
    participantAct_cases teacherOf s.shared thread input
  · exact ⟨row, by rw [hsame, hrow], .inl⟩
  · have hkey : key ≠ thread.1.key := by
      rintro rfl
      rw [hrow] at hnone
      cases hnone
    exact ⟨row, by rw [hfresh, Function.update_of_ne hkey, hrow], .inl⟩
  · by_cases hkey : key = thread.1.key
    swap
    · exact ⟨row, by rw [hsaved, ParticipantTable.save, Function.update_of_ne hkey, hrow], .inl⟩
    refine ⟨row.save save, ?_, fun hlocked => ?_⟩
    · rw [hsaved, ParticipantTable.save, hkey, Function.update_self, ← hkey, hrow]
      rfl
    rcases save_cases hsave row with hlock | hpresent |
      ⟨⟨user, roomId, studentId, accessLocked, hrequest, hunblock⟩, -⟩
    · exact .inl (by rw [hlock])
    · exact .inl (by rw [hpresent]; exact hlocked)
    · right
      obtain ⟨request, point⟩ := thread
      obtain rfl : request = _ := hrequest
      obtain rfl : point = _ := hpoint
      subst hkey
      exact ⟨id, now, user, accessLocked, participant, rfl, ht, hadmitted.resolve_left nofun,
        hunblock⟩

/-- What holds of a step: afterwards the locks are dated, a row that was locked is locked
unless the step is a teacher's write that unblocks the student, and no locked row is
active at any time. -/
structure LockConsistent (teacherOf : Int → Option Int)
    (s : Serving ParticipantTable ParticipantThread)
    (e : ServiceEvent ParticipantRequest ParticipantInput) : Prop where
  dated : LocksDated ((participantService teacherOf).step s e).shared
  kept : ∀ key row, s.shared key = some row →
    ∃ after, ((participantService teacherOf).step s e).shared key = some after ∧
      (row.accessLocked = true → after.accessLocked = true ∨ Unblocks teacherOf s e key)
  inactive : ∀ key row windowSeconds now,
    ((participantService teacherOf).step s e).shared key = some row →
      row.accessLocked = true → participantIsActive windowSeconds now (some row) = false

theorem participant_lock_consistent (teacherOf : Int → Option Int) (rows : ParticipantTable)
    (hrows : LocksDated rows)
    (events : List (ServiceEvent ParticipantRequest ParticipantInput)) :
    ∀ p ∈ transitions (participantService teacherOf).step (.initial rows) events,
      LockConsistent teacherOf p.1 p.2 := by
  intro p hp
  obtain ⟨hbefore, hafter⟩ := participantService_rules.run
    (Service.upheld_initial hrows (by simp)) (by simp [Service.Allowed]) p hp
  refine ⟨hafter.shared, fun key row hrow => row_step hbefore p.2 hrow, ?_⟩
  intro key row windowSeconds now _ hlocked
  rw [participantIsActive, if_pos hlocked]

end Table

/-- A request for the room state loads the row, the teacher locks it, and the first
request then saves its presence. -/
def latePresence : List (ServiceEvent ParticipantRequest ParticipantInput) :=
  [.start 0 (.roomState 3 1), .act 0 (.proceed 0), .start 1 (.teacherDelete 9 1 3),
    .act 1 (.proceed 0), .act 1 (.proceed 10), .act 0 (.proceed 20)]

theorem participant_lock_consistent_late_presence :
    letI := plainRuntime
    (latePresence.foldl (participantService fun _ => some 9).step
        (.initial fun key => if key = (1, 3) then some .fresh else none)).shared (1, 3) =
          some ⟨true, some 10, some 20⟩ ∧
      ∀ p ∈ transitions (participantService fun _ => some 9).step
          (.initial fun key => if key = (1, 3) then some .fresh else none) latePresence,
        LockConsistent (fun _ => some 9) p.1 p.2 := by
  let := plainRuntime
  refine ⟨by decide, ?_⟩
  apply participant_lock_consistent
  intro key row hrow
  simp only at hrow
  split at hrow
  · cases hrow
    simp [ParticipantRow.LockDated, ParticipantRow.fresh]
  · cases hrow

end JudgeVortex.CoreApi
