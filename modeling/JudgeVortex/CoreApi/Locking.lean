import JudgeVortex.CoreApi.Admission
import JudgeVortex.Foundation.Runs

/-!
# Locked participants

Runs of the requests that change who is locked out of a room, together with the submit
requests.  Three endpoints lock: the teacher's, the student client's own, and a submit
with the auto-disqualification sentinel; only the teacher unlocks.
-/

namespace JudgeVortex.CoreApi

open JudgeVortex.Foundation JudgeVortex.Python

def RoomParticipant.setLocked (roomId user : Int) (locked : Bool)
    (participant : RoomParticipant) : RoomParticipant :=
  if participant.roomId = roomId ∧ participant.studentId = user then
    { participant with accessLocked := locked }
  else participant

def Catalogue.setLocked (catalogue : Catalogue) (roomId user : Int) (locked : Bool) :
    Catalogue :=
  { catalogue with
    participants := catalogue.participants.map (.setLocked roomId user locked) }

def Catalogue.locked (catalogue : Catalogue) (roomId user : Int) : Bool :=
  (catalogue.participant? roomId user).any RoomParticipant.accessLocked

/--
`sinceLock` holds the bodies of the submissions for a room that were accepted from a
participant since the lock, the newest first; it is empty while there is no lock.
-/
structure Exam where
  catalogue : Catalogue
  nextId : Int
  sinceLock : Int × Int → List Dict

def Exam.initial (catalogue : Catalogue) (nextId : Int) : Exam :=
  ⟨catalogue, nextId, fun _ => []⟩

/-- `edit` is any change of rooms and questions. -/
inductive RoomRequest where
  | submit (env : SubmitEnv) (user : Int) (body : Dict)
  | teacherDelete (roomId studentId : Int)
  | teacherPatch (roomId studentId : Int) (accessLocked : Json)
  | lockSelf (user roomId : Int)
  | join (user roomId : Int) (assigned : List Int)
  | edit (catalogue : Catalogue)

def Exam.lock (s : Exam) (roomId user : Int) : Exam :=
  { s with catalogue := s.catalogue.setLocked roomId user true }

def Exam.unlock (s : Exam) (roomId user : Int) : Exam :=
  { s with
    catalogue := s.catalogue.setLocked roomId user false
    sinceLock := Function.update s.sinceLock (roomId, user) [] }

def Exam.committed (s : Exam) (roomId user : Int) (body : Dict) (run : SubmitRun) : Exam :=
  let catalogue := if run.locksAccess then s.catalogue.setLocked roomId user true
    else s.catalogue
  { catalogue := catalogue
    nextId := s.nextId + 1
    sinceLock :=
      if catalogue.locked roomId user ∧ run.dispatch.row.isSome then
        Function.update s.sinceLock (roomId, user) (body :: s.sinceLock (roomId, user))
      else s.sinceLock }

def Exam.submitted (s : Exam) (user : Int) (body : Dict) (run : SubmitRun) : Exam :=
  match run.created with
  | none => s
  | some row =>
      match row.roomId with
      | none => { s with nextId := s.nextId + 1 }
      | some roomId => s.committed roomId user body run

section Requests

variable [PythonRuntime]

/-- `str(raw_value).lower() in {'1', 'true', 'yes', 'on'}` -/
def shouldLock (accessLocked : Json) : Prop :=
  lower accessLocked.toText ∈ ["1", "true", "yes", "on"]

instance (accessLocked : Json) : Decidable (shouldLock accessLocked) :=
  inferInstanceAs (Decidable (_ ∈ _))

def Exam.step (s : Exam) : RoomRequest → Exam
  | .submit env user body =>
      s.submitted user body (performCreate s.catalogue env s.nextId user body)
  | .teacherDelete roomId studentId => s.lock roomId studentId
  | .teacherPatch roomId studentId accessLocked =>
      if shouldLock accessLocked then s.lock roomId studentId else s.unlock roomId studentId
  | .lockSelf user roomId => s.lock roomId user
  | .join user roomId assigned =>
      match s.catalogue.participant? roomId user with
      | some _ => s
      | none =>
          { s with catalogue := { s.catalogue with
              participants := s.catalogue.participants ++ [⟨roomId, user, false, assigned⟩] } }
  | .edit catalogue =>
      { s with catalogue := { catalogue with participants := s.catalogue.participants } }

def LockHolds (s : Exam) : Prop :=
  ∀ roomId user, (s.sinceLock (roomId, user)).length ≤ 1 ∧
    ∀ body ∈ s.sinceLock (roomId, user), AutoDisqualifies body

def ResolvesRoom (catalogue : Catalogue) (body : Dict) (roomId : Int) : Prop :=
  ∃ requested questionId resolved,
    parseIdentifier (fieldD body "room_id" .null) = .ok requested ∧
    parseIdentifier (fieldD body "question_id" .null) = .ok questionId ∧
    resolveQuestion catalogue requested questionId body = .ok resolved ∧
    resolved.roomId = some roomId

/--
The lock check lets the sentinel of a locked participant through a second time: a
submission of the participant was accepted since the lock already.
-/
def ReusesExemption (s : Exam) : RoomRequest → Prop
  | .submit _ user body =>
      AutoDisqualifies body ∧ ∃ roomId, ResolvesRoom s.catalogue body roomId ∧
        s.catalogue.locked roomId user ∧ s.sinceLock (roomId, user) ≠ []
  | _ => False

/-! ## Locks of the participants -/

omit [PythonRuntime] in
theorem participant?_setLocked (catalogue : Catalogue) (roomId user r u : Int)
    (locked : Bool) :
    (catalogue.setLocked roomId user locked).participant? r u =
      (catalogue.participant? r u).map (.setLocked roomId user locked) := by
  have hsame : (fun p : RoomParticipant => decide (p.roomId = r ∧ p.studentId = u)) ∘
      RoomParticipant.setLocked roomId user locked =
        fun p => decide (p.roomId = r ∧ p.studentId = u) := by
    funext p
    simp only [Function.comp, RoomParticipant.setLocked]
    split <;> rfl
  rw [Catalogue.participant?, Catalogue.setLocked, List.find?_map, hsame]
  rfl

omit [PythonRuntime] in
theorem locked_setLocked_self {catalogue : Catalogue} {roomId user : Int} {locked : Bool} :
    (catalogue.setLocked roomId user locked).locked roomId user =
      ((catalogue.participant? roomId user).isSome && locked) := by
  rw [Catalogue.locked, participant?_setLocked]
  cases hfound : catalogue.participant? roomId user with
  | none => rfl
  | some participant =>
      have hkey := List.find?_some hfound
      simp only [decide_eq_true_eq] at hkey
      simp [RoomParticipant.setLocked, hkey]

omit [PythonRuntime] in
theorem locked_setLocked_other {catalogue : Catalogue} {roomId user r u : Int}
    {locked : Bool} (h : (r, u) ≠ (roomId, user)) :
    (catalogue.setLocked roomId user locked).locked r u = catalogue.locked r u := by
  rw [Catalogue.locked, participant?_setLocked, Catalogue.locked]
  cases hfound : catalogue.participant? r u with
  | none => rfl
  | some participant =>
      have hkey := List.find?_some hfound
      simp only [decide_eq_true_eq] at hkey
      have hother : ¬ (participant.roomId = roomId ∧ participant.studentId = user) := by
        rintro ⟨rfl, rfl⟩
        exact h (by rw [hkey.1, hkey.2])
      simp [RoomParticipant.setLocked, hother]

omit [PythonRuntime] in
theorem locked_of_setLocked_true {catalogue : Catalogue} {roomId user r u : Int}
    (h : catalogue.locked r u = true) :
    (catalogue.setLocked roomId user true).locked r u = true := by
  by_cases hkey : (r, u) = (roomId, user)
  · cases hkey
    rw [locked_setLocked_self]
    rw [Catalogue.locked] at h
    cases hfound : catalogue.participant? roomId user with
    | none => simp [hfound] at h
    | some participant => rfl
  · rw [locked_setLocked_other hkey]
    exact h

/-! ## One request -/

structure Consistent (s : Exam) : Prop where
  holds : LockHolds s
  unlocked : ∀ roomId user, s.catalogue.locked roomId user = false →
    s.sinceLock (roomId, user) = []

omit [PythonRuntime] in
theorem initial_consistent (catalogue : Catalogue) (nextId : Int) :
    Consistent (.initial catalogue nextId) where
  holds := by simp [LockHolds, Exam.initial]
  unlocked := by simp [Exam.initial]

omit [PythonRuntime] in
/-- A request that unlocks nobody and adds no submission. -/
theorem Consistent.of_locks_kept {s s' : Exam} (hs : Consistent s)
    (hsame : s'.sinceLock = s.sinceLock)
    (hkept : ∀ roomId user, s.catalogue.locked roomId user = true →
      s'.catalogue.locked roomId user = true) : Consistent s' := by
  constructor
  · intro roomId user
    rw [hsame]
    exact hs.holds roomId user
  · intro roomId user hopen
    rw [hsame]
    refine hs.unlocked roomId user ?_
    by_contra hlocked
    rw [Bool.not_eq_false] at hlocked
    rw [hkept roomId user hlocked] at hopen
    cases hopen

omit [PythonRuntime] in
theorem Consistent.lock {s : Exam} (hs : Consistent s) (roomId user : Int) :
    Consistent (s.lock roomId user) :=
  hs.of_locks_kept rfl fun _ _ => locked_of_setLocked_true

omit [PythonRuntime] in
theorem Consistent.unlock {s : Exam} (hs : Consistent s) (roomId user : Int) :
    Consistent (s.unlock roomId user) := by
  have hsince : ∀ r u, (s.unlock roomId user).sinceLock (r, u) =
      if (r, u) = (roomId, user) then [] else s.sinceLock (r, u) := by
    intro r u
    exact Function.update_apply ..
  constructor
  · intro r u
    rw [hsince]
    split
    · simp
    · exact hs.holds r u
  · intro r u hopen
    rw [hsince]
    split
    · rfl
    next hkey =>
      refine hs.unlocked r u ?_
      rw [← hopen]
      exact (locked_setLocked_other hkey).symm

omit [PythonRuntime] in
theorem Consistent.join {s : Exam} (hs : Consistent s) (participants : List RoomParticipant) :
    Consistent { s with catalogue := { s.catalogue with
      participants := s.catalogue.participants ++ participants } } := by
  refine hs.of_locks_kept rfl fun roomId user hlocked => ?_
  rw [Catalogue.locked, Catalogue.participant?] at hlocked ⊢
  rw [List.find?_append]
  cases hfound : s.catalogue.participants.find? fun p =>
      decide (p.roomId = roomId ∧ p.studentId = user) with
  | none =>
      rw [hfound] at hlocked
      cases hlocked
  | some participant =>
      rw [hfound] at hlocked
      exact hlocked

section Submit

variable {catalogue : Catalogue} {env : SubmitEnv} {nextId user : Int} {body : Dict}

theorem performCreate_locksAccess
    (h : (performCreate catalogue env nextId user body).locksAccess = true) :
    AutoDisqualifies body := by
  unfold performCreate at h
  split at h
  · cases h
  next prepared hprepared =>
    simp only at h
    split at h
    · cases h
    · rw [Bool.and_eq_true] at h
      exact (checked_of_prepareSubmission hprepared).sentinel.mp h.2

theorem resolvesRoom_of_prepareSubmission {prepared : PreparedSubmission}
    (h : prepareSubmission catalogue env user body = .ok prepared) {roomId : Int}
    (hroom : prepared.roomId = some roomId) : ResolvesRoom catalogue body roomId := by
  simp only [prepareSubmission, bind_eq_ok_iff] at h
  obtain ⟨_, -, requested, hrequested, questionId, hquestion, resolved, hresolved, _, -, _, -,
    _, -, _, -, _, -, h⟩ := h
  cases h
  exact ⟨requested, questionId, resolved, hrequested, hquestion, hresolved, hroom⟩

theorem admitted_of_created {row : Submission} {roomId : Int}
    (h : (performCreate catalogue env nextId user body).created = some row)
    (hroom : row.roomId = some roomId) :
    ResolvesRoom catalogue body roomId ∧
      (catalogue.locked roomId user = true → AutoDisqualifies body) := by
  obtain ⟨prepared, hprepared, rfl, hrefers, -⟩ := performCreate_created h
  refine ⟨resolvesRoom_of_prepareSubmission hprepared hroom, fun hlocked => ?_⟩
  have hchecked := checked_of_prepareSubmission hprepared
  obtain ⟨participant, -, hadmitted⟩ := hchecked.admitted_of_refers hrefers hroom
  rw [Catalogue.locked, hadmitted.found] at hlocked
  exact hadmitted.unlocked hlocked

end Submit

omit [PythonRuntime] in
theorem Consistent.committed {s : Exam} (hs : Consistent s) {roomId user : Int}
    {body : Dict} {run : SubmitRun}
    (hlocks : run.locksAccess = true → AutoDisqualifies body)
    (hsentinel : s.catalogue.locked roomId user = true →
      AutoDisqualifies body ∧ s.sinceLock (roomId, user) = []) :
    Consistent (s.committed roomId user body run) := by
  have hkept : ∀ r u, s.catalogue.locked r u = true →
      (s.committed roomId user body run).catalogue.locked r u = true := by
    intro r u hlocked
    unfold Exam.committed
    dsimp only
    split
    · exact locked_of_setLocked_true hlocked
    · exact hlocked
  by_cases hadds : (s.committed roomId user body run).catalogue.locked roomId user = true ∧
      run.dispatch.row.isSome = true
  swap
  · exact hs.of_locks_kept (if_neg hadds) hkept
  have hsince : (s.committed roomId user body run).sinceLock =
      Function.update s.sinceLock (roomId, user) (body :: s.sinceLock (roomId, user)) :=
    if_pos hadds
  have hold : s.sinceLock (roomId, user) = [] := by
    by_cases hlocked : s.catalogue.locked roomId user = true
    · exact (hsentinel hlocked).2
    · exact hs.unlocked roomId user (Bool.not_eq_true _ ▸ hlocked)
  have hauto : AutoDisqualifies body := by
    by_cases hlocked : s.catalogue.locked roomId user = true
    · exact (hsentinel hlocked).1
    · -- The participant was not locked before, so this submission locks.
      refine hlocks ?_
      by_contra hnot
      have hsame : (s.committed roomId user body run).catalogue = s.catalogue := if_neg hnot
      rw [hsame] at hadds
      exact hlocked hadds.1
  constructor
  · intro r u
    rw [hsince, Function.update_apply, hold]
    split
    · exact ⟨le_rfl, by simpa using hauto⟩
    · exact hs.holds r u
  · intro r u hopen
    rw [hsince, Function.update_apply]
    split
    next hkey =>
      cases hkey
      rw [hadds.1] at hopen
      cases hopen
    next =>
      refine hs.unlocked r u ?_
      by_contra hlocked
      rw [Bool.not_eq_false] at hlocked
      rw [hkept r u hlocked] at hopen
      cases hopen

theorem Consistent.submit {s : Exam} (hs : Consistent s) (env : SubmitEnv) (user : Int)
    (body : Dict) (hfresh : ¬ ReusesExemption s (.submit env user body)) :
    Consistent (s.step (.submit env user body)) := by
  have hstep : s.step (.submit env user body) =
      s.submitted user body (performCreate s.catalogue env s.nextId user body) := rfl
  rw [hstep]
  unfold Exam.submitted
  cases hcreated : (performCreate s.catalogue env s.nextId user body).created with
  | none => exact hs
  | some row =>
      simp only
      cases hroom : row.roomId with
      | none => exact hs.of_locks_kept rfl fun _ _ h => h
      | some roomId =>
          obtain ⟨hresolves, hsentinel⟩ := admitted_of_created hcreated hroom
          refine hs.committed performCreate_locksAccess fun hlocked => ?_
          refine ⟨hsentinel hlocked, ?_⟩
          by_contra hspent
          exact hfresh ⟨hsentinel hlocked, roomId, hresolves, hlocked, hspent⟩

theorem Consistent.step {s : Exam} (hs : Consistent s) (request : RoomRequest)
    (hfresh : ¬ ReusesExemption s request) : Consistent (s.step request) := by
  cases request with
  | submit env user body => exact hs.submit env user body hfresh
  | teacherDelete roomId studentId => exact hs.lock roomId studentId
  | teacherPatch roomId studentId accessLocked =>
      have hstep : s.step (.teacherPatch roomId studentId accessLocked) =
          if shouldLock accessLocked then s.lock roomId studentId
          else s.unlock roomId studentId := rfl
      rw [hstep]
      split
      · exact hs.lock roomId studentId
      · exact hs.unlock roomId studentId
  | lockSelf user roomId => exact hs.lock roomId user
  | join user roomId assigned =>
      unfold Exam.step
      dsimp only
      cases s.catalogue.participant? roomId user with
      | some participant => exact hs
      | none => exact hs.join _
  | edit catalogue => exact hs.of_locks_kept rfl fun _ _ h => h

/--
In every run in which no participant uses the sentinel's exemption again, at most one
submission is accepted between a lock and the teacher's unlock, and it is the sentinel's.
-/
theorem lock_stops_submissions (catalogue : Catalogue) (nextId : Int)
    (requests : List RoomRequest)
    (hfresh : ∀ p ∈ transitions Exam.step (.initial catalogue nextId) requests,
      ¬ ReusesExemption p.1 p.2) :
    ∀ p ∈ transitions Exam.step (.initial catalogue nextId) requests,
      LockHolds (p.1.step p.2) := by
  have hconsistent := transitions_invariant_of Exam.step (I := Consistent)
    (G := fun s request => ¬ ReusesExemption s request)
    (fun s request hs hfresh => hs.step request hfresh)
    (initial_consistent catalogue nextId) requests hfresh
  intro p hp
  exact ((hconsistent p hp).step p.2 (hfresh p hp)).holds

end Requests

/-! ## Two sentinel submissions of a locked participant -/

def sentinelBody : Dict := examBody ++ [("user_input", .str "DISQUALIFIED_AUTO_SUBMIT")]

def disqualifiedRun : List RoomRequest :=
  [.lockSelf 3 1, .submit (envRaising []) 3 sentinelBody]

theorem lock_stops_submissions_disqualified :
    letI := plainRuntime
    LockHolds (disqualifiedRun.foldl Exam.step (.initial examCatalogue 7)) := by
  let := plainRuntime
  have hholds := lock_stops_submissions examCatalogue 7 disqualifiedRun
    (by simp [disqualifiedRun, ReusesExemption, Exam.initial, Exam.step, Exam.lock])
  exact hholds _ (List.getElem_mem (n := 1) (by simp [disqualifiedRun]))

theorem locked_participant_submits_again :
    letI := plainRuntime
    ¬ ∀ (catalogue : Catalogue) (nextId : Int) (requests : List RoomRequest),
      ∀ p ∈ transitions Exam.step (.initial catalogue nextId) requests,
        LockHolds (p.1.step p.2) := by
  let := plainRuntime
  intro h
  have hlast := h examCatalogue 7
    (disqualifiedRun ++ [.submit (envRaising []) 3 sentinelBody]) _
    (List.getElem_mem (n := 2) (by simp [disqualifiedRun]))
  have hcount := (hlast 1 3).1
  revert hcount
  decide +kernel

end JudgeVortex.CoreApi
