import JudgeVortex.CoreApi.Suspicion
import JudgeVortex.Foundation.Tallies
import JudgeVortex.System.ExamRuns

/-!
# The audit trail of a lock

The requests that lock a participant out of a room or unblock one, over the tables of the
exam, and when the events that they record agree with the changes of the lock.
-/

namespace JudgeVortex.System

open JudgeVortex.CoreApi JudgeVortex.Foundation JudgeVortex.Python

/-! ## The requests -/

def lockSelf (env : ManagementEnv) (user : Int) (db : ExamTables) (roomId : Int) : View :=
  match db.rooms.get? roomId, db.participant? roomId user with
  | some room, some participant =>
      let db :=
        match lockParticipantAccess env.now participant.row with
        | none => db
        | some save => (db.saveParticipant roomId user save).recordExamEvent env
            (participantEvent env user "participant.locked" "warning" "locked out of"
              "self_lock_endpoint" room user)
      (db, message "Exam room access locked.")
  | _, _ => (db, notFound "RoomParticipant")

structure ExamContext where
  username : String
  now : Time
  serializerError : Dict → Option (String × String)
  sendError : String
  limits : PatternLimits
  sha256 : String → String
  burstClock : PatternClock
  reuseClock : PatternClock
  failureClock : PatternClock
  submissions : List TimedSubmission
  events : List TimedEvent
  resultSubmissions : List TimedSubmission
  resultEvents : List TimedEvent

def ExamContext.submitContext (context : ExamContext) : SubmitContext where
  username := context.username
  now := context.now
  serializerError := context.serializerError
  submissionPatterns row :=
    (detectSuspiciousSubmissionPatterns context.limits context.username context.sha256
      context.burstClock context.reuseClock context.submissions context.events row).map
        TimedEvent.toExamEvent
  resultPatterns row :=
    (detectSuspiciousResultPatterns context.limits context.username context.failureClock
      context.resultSubmissions context.resultEvents row).map TimedEvent.toExamEvent
  sendError := context.sendError

def eventDraft (event : ExamEvent) : EventDraft where
  eventType := event.eventType
  message := event.message
  severity := event.severity
  roomId := event.roomId
  questionId := event.questionId
  submissionId := event.submissionId
  actorId := event.actorId
  participantId := event.participantId
  metadata := event.metadata

def studentWrite (env : ManagementEnv) : SubmitWrite → StudentWrite
  | .saveParticipant roomId studentId save => .saveParticipant roomId studentId save
  | .insertSubmission row => .createSubmission row env.now
  | .updateSubmission row => .saveSubmission row
  | .deleteSubmission id => .deleteSubmission id
  | .upsertSnapshot roomId studentId questionId snapshot =>
      .upsertSnapshot roomId studentId questionId snapshot env.now
  | .recordEvent event => .recordEvent env (eventDraft event)

/-- The event is of this type and about this student in this room. -/
def EventDraft.Tells (event : EventDraft) (eventType : String) (roomId studentId : Int) : Prop :=
  event.eventType = eventType ∧ event.roomId = some roomId ∧ event.participantId = some studentId

instance (event : EventDraft) (eventType : String) (roomId studentId : Int) :
    Decidable (event.Tells eventType roomId studentId) :=
  inferInstanceAs (Decidable (_ ∧ _ ∧ _))

theorem EventDraft.Tells.not_of_ne {event : EventDraft} {eventType other : String}
    {roomId studentId : Int} (h : event.Tells eventType roomId studentId)
    (hne : eventType ≠ other) : ¬ event.Tells other roomId studentId :=
  fun hother => hne (h.1.symm.trans hother.1)

inductive AccessRequest where
  | lockSelf (env : ManagementEnv) (user roomId : Int)
  | submit (env : ManagementEnv) (context : ExamContext) (submitEnv : SubmitEnv) (user : Int)
      (body : Dict)
  | kick (env : ManagementEnv) (user roomId studentId : Int)
  | patch (env : ManagementEnv) (user roomId studentId : Int) (body : Json)

namespace ExamTables

/-- The tables as a submit request reads them; only the detectors read the events. -/
def examStore (db : ExamTables) : ExamStore where
  rooms := db.rooms.rows.map RoomRow.id
  questions := db.questions.rows.map DescribedQuestion.toExamQuestion
  participants := db.participants.map EnrolledParticipant.toStoredParticipant
  submissions := db.submissions.rows.map TimedSubmission.toSubmission
  snapshots key := (db.snapshots.rows.find? fun row =>
    (row.roomId, row.studentId, row.questionId) = key).map SnapshotRow.toWorkspaceSnapshot
  events := []
  room_pos := db.catalogue.room_pos
  question_pos := db.catalogue.question_pos

def submit [PythonRuntime] (db : ExamTables) (env : ManagementEnv) (context : ExamContext)
    (submitEnv : SubmitEnv) (user : Int) (body : Dict) : ExamTables :=
  (submitScript context.submitContext db.examStore submitEnv db.submissions.next user
    body).log.foldl (fun db write => db.write (studentWrite env write)) db

def serve [PythonRuntime] (db : ExamTables) : AccessRequest → ExamTables
  | .lockSelf env user roomId => (System.lockSelf env user db roomId).1
  | .submit env context submitEnv user body => db.submit env context submitEnv user body
  | .kick env user roomId studentId => (kickParticipant env user db roomId studentId).1
  | .patch env user roomId studentId body =>
      (patchParticipantView env user db roomId studentId body).1

end ExamTables

/-! ## The trail of a student in a room -/

structure Trail where
  locked : Bool
  lockedEvents : ℕ
  unlockedEvents : ℕ
  deriving DecidableEq, Repr

/-- What a request is to one student in one room: a lock that an earlier one makes needless,
a lock that is recorded at any rate, an unlock, or none of them. -/
inductive Move where
  | stay
  | lock
  | block
  | unblock
  deriving DecidableEq, Repr

namespace Trail

variable (trail : Trail)

def move : Move → Trail
  | .stay => trail
  | .lock => if trail.locked then trail else ⟨true, trail.lockedEvents + 1, trail.unlockedEvents⟩
  | .block => ⟨true, trail.lockedEvents + 1, trail.unlockedEvents⟩
  | .unblock => ⟨false, trail.lockedEvents, trail.unlockedEvents + 1⟩

/-- The student is blocked once more, or unblocked without being locked. -/
def Repeats : Move → Prop
  | .stay | .lock => False
  | .block => trail.locked = true
  | .unblock => trail.locked = false

instance : (move : Move) → Decidable (trail.Repeats move)
  | .stay | .lock => inferInstanceAs (Decidable False)
  | .block | .unblock => inferInstanceAs (Decidable (_ = _))

theorem lockedEvents_le_move (move : Move) :
    trail.lockedEvents + (!trail.locked && (trail.move move).locked).toNat ≤
      (trail.move move).lockedEvents := by
  obtain ⟨locked, lockedEvents, unlockedEvents⟩ := trail
  cases move <;> cases locked <;> simp [Trail.move]

theorem unlockedEvents_le_move (move : Move) :
    trail.unlockedEvents + (trail.locked && !(trail.move move).locked).toNat ≤
      (trail.move move).unlockedEvents := by
  obtain ⟨locked, lockedEvents, unlockedEvents⟩ := trail
  cases move <;> cases locked <;> simp [Trail.move]

/-- A move records exactly the changes of the lock unless it repeats an earlier one. -/
theorem move_recorded_iff (move : Move) :
    ((trail.move move).lockedEvents =
        trail.lockedEvents + (!trail.locked && (trail.move move).locked).toNat ∧
      (trail.move move).unlockedEvents =
        trail.unlockedEvents + (trail.locked && !(trail.move move).locked).toNat) ↔
      ¬ trail.Repeats move := by
  obtain ⟨locked, lockedEvents, unlockedEvents⟩ := trail
  cases move <;> cases locked <;> simp [Trail.move, Trail.Repeats]

end Trail

namespace ExamTables

section Trails

variable (db : ExamTables)

def locked (roomId studentId : Int) : Bool :=
  (db.participant? roomId studentId).any fun participant => participant.accessLocked

def recorded (eventType : String) (roomId studentId : Int) : ℕ :=
  db.events.rows.countP fun event => event.Tells eventType roomId studentId

def trail (roomId studentId : Int) : Trail where
  locked := db.locked roomId studentId
  lockedEvents := db.recorded "participant.locked" roomId studentId
  unlockedEvents := db.recorded "participant.unlocked" roomId studentId

/-- The room that a submit request locks its user out of: it is the sentinel's, it passes the
checks, and its row is saved. -/
def disqualifiedRoom [PythonRuntime] (context : ExamContext) (submitEnv : SubmitEnv) (user : Int)
    (body : Dict) : Option Int :=
  match context.serializerError body,
      prepareSubmission db.catalogue submitEnv user body with
  | none, .ok prepared =>
      if prepared.autoDisqualified ∧ ¬ submitEnv.raises .saveSubmission ∧
          db.catalogue.Refers (prepared.row db.submissions.next user) then prepared.roomId
      else none
  | _, _ => none

def Manages (user roomId studentId : Int) : Prop :=
  (db.room? user roomId).isSome ∧ (db.participant? roomId studentId).isSome

instance (user roomId studentId : Int) : Decidable (db.Manages user roomId studentId) :=
  inferInstanceAs (Decidable (_ ∧ _))

def moveOf [PythonRuntime] (roomId studentId : Int) : AccessRequest → Move
  | .lockSelf _ user room =>
      if room = roomId ∧ user = studentId ∧ (db.rooms.get? roomId).isSome ∧
          (db.participant? roomId studentId).isSome then .lock
      else .stay
  | .submit _ context submitEnv user body =>
      if db.disqualifiedRoom context submitEnv user body = some roomId ∧ user = studentId then
        .block
      else .stay
  | .kick _ user room student =>
      if room = roomId ∧ student = studentId ∧ db.Manages user roomId studentId then .lock
      else .stay
  | .patch _ user room student body =>
      match body with
      | .obj fields =>
          if room = roomId ∧ student = studentId ∧ db.Manages user roomId studentId then
            if shouldLock (fieldD fields "access_locked" .null) then .block else .unblock
          else .stay
      | _ => .stay

end Trails

/-! ### Writes -/

section Writes

variable {db : ExamTables} {env : ManagementEnv} {roomId studentId : Int}

theorem participant?_eq_some {participant : EnrolledParticipant}
    (h : db.participant? roomId studentId = some participant) :
    participant.roomId = roomId ∧ participant.studentId = studentId := by
  have hkey := List.find?_some h
  exact of_decide_eq_true hkey

theorem participant?_saveParticipant (room student : Int) (save : Save) :
    (db.saveParticipant room student save).participant? roomId studentId =
      (db.participant? roomId studentId).map fun participant =>
        if participant.roomId = room ∧ participant.studentId = student then
          { participant with
            toStoredParticipant := participant.withRow (participant.row.save save) }
        else participant := by
  rw [participant?, saveParticipant, List.find?_map, participant?]
  congr 2
  funext participant
  simp only [Function.comp]
  split <;> rfl

theorem locked_saveParticipant (room student : Int) (save : Save) :
    (db.saveParticipant room student save).locked roomId studentId =
      if room = roomId ∧ student = studentId ∧ .accessLocked ∈ save.updateFields then
        (db.participant? roomId studentId).isSome && save.participant.accessLocked
      else db.locked roomId studentId := by
  rw [locked, participant?_saveParticipant, locked]
  cases hfound : db.participant? roomId studentId with
  | none => simp
  | some participant =>
      obtain ⟨hroom, hstudent⟩ := participant?_eq_some hfound
      simp only [Option.map_some, Option.any_some, Option.isSome_some, Bool.true_and, hroom,
        hstudent, eq_comm (a := roomId), eq_comm (a := studentId)]
      by_cases hkey : room = roomId ∧ student = studentId
      · rw [if_pos hkey]
        simp [StoredParticipant.withRow, StoredParticipant.row, ParticipantRow.save, hkey]
      · rw [if_neg hkey, if_neg fun h => hkey ⟨h.1, h.2.1⟩]

theorem recorded_recordExamEvent (event : EventDraft) (eventType : String) :
    (db.recordExamEvent env event).recorded eventType roomId studentId =
      db.recorded eventType roomId studentId +
        if event.Tells eventType roomId studentId then 1 else 0 := by
  rw [recorded, recordExamEvent, Table.insert, List.countP_append, List.countP_singleton,
    recorded]
  simp only [decide_eq_true_eq]

theorem locked_recordExamEvent (event : EventDraft) :
    (db.recordExamEvent env event).locked roomId studentId = db.locked roomId studentId := rfl

theorem events_saveIfSome (room student : Int) (save? : Option Save) :
    (db.saveIfSome room student save?).events = db.events := by
  cases save? <;> rfl

theorem not_tells_of_ne {event : EventDraft} {eventType : String} {room student : Int}
    (h : event.Tells eventType room student) (hne : ¬ (room = roomId ∧ student = studentId))
    (other : String) : ¬ event.Tells other roomId studentId := by
  rintro ⟨-, hroom, hstudent⟩
  rw [h.2.1] at hroom
  rw [h.2.2] at hstudent
  exact hne ⟨Option.some.inj hroom, Option.some.inj hstudent⟩

theorem trail_set {mid : ExamTables} {room student : Int} {event : EventDraft} (value : Bool)
    (hlocked : mid.locked roomId studentId =
      if room = roomId ∧ student = studentId then value else db.locked roomId studentId)
    (hevents : mid.events = db.events)
    (htells : event.Tells (if value then "participant.locked" else "participant.unlocked") room
      student) :
    (mid.recordExamEvent env event).trail roomId studentId =
      (db.trail roomId studentId).move
        (if room = roomId ∧ student = studentId then if value then .block else .unblock
        else .stay) := by
  have hrecorded : ∀ eventType, mid.recorded eventType roomId studentId =
      db.recorded eventType roomId studentId := fun _ => by rw [recorded, hevents, recorded]
  simp only [trail, locked_recordExamEvent, recorded_recordExamEvent, hlocked, hrecorded]
  by_cases hkey : room = roomId ∧ student = studentId
  · simp only [if_pos hkey]
    obtain ⟨rfl, rfl⟩ := hkey
    cases value with
    | true =>
        have htells : event.Tells "participant.locked" room student := htells
        rw [if_pos htells, if_neg (htells.not_of_ne (by decide))]
        rfl
    | false =>
        have htells : event.Tells "participant.unlocked" room student := htells
        rw [if_pos htells, if_neg (htells.not_of_ne (by decide))]
        rfl
  · simp only [if_neg hkey, if_neg (not_tells_of_ne htells hkey _)]
    rfl

theorem trail_block {room student : Int} {participant : EnrolledParticipant} {event : EventDraft}
    (hfound : db.participant? room student = some participant)
    (htells : event.Tells "participant.locked" room student) (now : Time) :
    ((db.saveIfSome room student (lockParticipantAccess now participant.row)).recordExamEvent env
        event).trail roomId studentId =
      (db.trail roomId studentId).move
        (if room = roomId ∧ student = studentId then .block else .stay) := by
  have hlocked : db.locked room student = participant.row.accessLocked := by
    rw [locked, hfound, Option.any_some]
    rfl
  refine trail_set true ?_ (events_saveIfSome ..) htells
  rw [lockParticipantAccess]
  split
  next hbefore =>
    split
    next hkey =>
      obtain ⟨rfl, rfl⟩ := hkey
      exact hlocked.trans hbefore
    next => rfl
  next =>
    rw [saveIfSome, locked_saveParticipant]
    by_cases hkey : room = roomId ∧ student = studentId
    · obtain ⟨rfl, rfl⟩ := hkey
      simp [hfound]
    · rw [if_neg fun h => hkey ⟨h.1, h.2.1⟩, if_neg hkey]

theorem trail_unblock [PythonRuntime] {room student : Int} {participant : EnrolledParticipant}
    {event : EventDraft} {accessLocked : Json} (h : ¬ shouldLock accessLocked)
    (htells : event.Tells "participant.unlocked" room student) (now : Time) :
    ((db.saveIfSome room student
        (patchParticipant accessLocked now participant.row)).recordExamEvent env event).trail
          roomId studentId =
      (db.trail roomId studentId).move
        (if room = roomId ∧ student = studentId then .unblock else .stay) := by
  refine trail_set false ?_ (events_saveIfSome ..) htells
  rw [patchParticipant, if_neg h, saveIfSome, locked_saveParticipant]
  by_cases hkey : room = roomId ∧ student = studentId
  · rw [if_pos (by simpa using hkey), if_pos hkey, Bool.and_false]
  · rw [if_neg fun h => hkey ⟨h.1, h.2.1⟩, if_neg hkey]

theorem trail_lock {room student : Int} {participant : EnrolledParticipant} {event : EventDraft}
    (hfound : db.participant? room student = some participant)
    (htells : event.Tells "participant.locked" room student) :
    (match lockParticipantAccess env.now participant.row with
      | none => db
      | some save => (db.saveParticipant room student save).recordExamEvent env event).trail
        roomId studentId =
      (db.trail roomId studentId).move
        (if room = roomId ∧ student = studentId then .lock else .stay) := by
  have hlocked : db.locked room student = participant.accessLocked := by
    rw [locked, hfound, Option.any_some]
  have htrail : (db.trail room student).locked = participant.row.accessLocked := hlocked
  split
  next hnone =>
    rw [lockParticipantAccess_eq_none_iff] at hnone
    split
    next hkey =>
      obtain ⟨rfl, rfl⟩ := hkey
      rw [Trail.move, if_pos (htrail.trans hnone)]
    next => rfl
  next save hsave =>
    have hopen : ¬ participant.row.accessLocked = true := by
      intro hbefore
      rw [lockParticipantAccess_eq_none_iff.mpr hbefore] at hsave
      cases hsave
    calc ((db.saveParticipant room student save).recordExamEvent env event).trail roomId studentId
      _ = ((db.saveIfSome room student
            (lockParticipantAccess env.now participant.row)).recordExamEvent env event).trail
              roomId studentId := by rw [hsave, saveIfSome]
      _ = (db.trail roomId studentId).move
            (if room = roomId ∧ student = studentId then .block else .stay) :=
          trail_block hfound htells env.now
      _ = _ := by
          split
          next hkey =>
            obtain ⟨rfl, rfl⟩ := hkey
            rw [Trail.move, Trail.move, if_neg (htrail ▸ hopen)]
          next => rfl

end Writes

/-! ### What a request is to a student -/

section Views

variable {db : ExamTables} {env : ManagementEnv} {roomId studentId user room student : Int}

theorem onParticipant_elim {P : ExamTables → Prop} {view : RoomRow → EnrolledParticipant → View}
    (h : ¬ db.Manages user room student → P db)
    (hview : ∀ found participant, found.id = room →
      db.participant? room student = some participant → db.Manages user room student →
        P (view found participant).1) :
    P (onParticipant user db room student view).1 := by
  unfold onParticipant inRoom
  cases hroom : db.room? user room with
  | none =>
      refine h ?_
      rintro ⟨hisSome, -⟩
      rw [hroom] at hisSome
      cases hisSome
  | some found =>
      obtain ⟨-, rfl, -⟩ := room?_eq_some hroom
      cases hparticipant : db.participant? found.id student with
      | none =>
          simp only [hparticipant]
          refine h ?_
          rintro ⟨-, hisSome⟩
          rw [hparticipant] at hisSome
          cases hisSome
      | some participant =>
          simp only [hparticipant]
          refine hview found participant rfl hparticipant ⟨?_, ?_⟩
          · rw [hroom, Option.isSome_some]
          · rw [hparticipant, Option.isSome_some]

theorem manages_key_iff (h : db.Manages user room student) :
    (room = roomId ∧ student = studentId ∧ db.Manages user roomId studentId) ↔
      room = roomId ∧ student = studentId := by
  constructor
  · rintro ⟨rfl, rfl, -⟩
    exact ⟨rfl, rfl⟩
  · rintro ⟨rfl, rfl⟩
    exact ⟨rfl, rfl, h⟩

theorem not_manages_key (h : ¬ db.Manages user room student) :
    ¬ (room = roomId ∧ student = studentId ∧ db.Manages user roomId studentId) := by
  rintro ⟨rfl, rfl, hmanages⟩
  exact h hmanages

variable [PythonRuntime]

theorem trail_kick : (kickParticipant env user db room student).1.trail roomId studentId =
    (db.trail roomId studentId).move
      (db.moveOf roomId studentId (.kick env user room student)) := by
  rw [moveOf]
  refine onParticipant_elim (P := fun after => after.trail roomId studentId = _) ?_ ?_
  · intro hmanages
    rw [if_neg (not_manages_key hmanages), Trail.move]
  · rintro found participant rfl hfound hmanages
    simp only [manages_key_iff hmanages]
    exact trail_lock hfound ⟨rfl, rfl, rfl⟩

theorem trail_patch (body : Json) :
    (patchParticipantView env user db room student body).1.trail roomId studentId =
      (db.trail roomId studentId).move
        (db.moveOf roomId studentId (.patch env user room student body)) := by
  refine onParticipant_elim (P := fun after => after.trail roomId studentId = _) ?_ ?_
  · intro hmanages
    cases body with
    | obj fields =>
        simp only [moveOf, if_neg (not_manages_key hmanages)]
        rfl
    | _ => rfl
  · rintro found participant rfl hfound hmanages
    cases body with
    | obj fields =>
        simp only [moveOf, manages_key_iff hmanages]
        by_cases hlock : shouldLock (fieldD fields "access_locked" .null)
        · simp only [if_pos hlock, patchParticipant]
          exact trail_block hfound ⟨rfl, rfl, rfl⟩ env.now
        · simp only [if_neg hlock]
          exact trail_unblock hlock ⟨rfl, rfl, rfl⟩ env.now
    | _ => rfl

theorem trail_lockSelf : (lockSelf env user db room).1.trail roomId studentId =
    (db.trail roomId studentId).move
      (db.moveOf roomId studentId (.lockSelf env user room)) := by
  rw [lockSelf, moveOf]
  cases hroom : db.rooms.get? room with
  | none =>
      rw [if_neg]
      · rfl
      rintro ⟨rfl, -, hisSome, -⟩
      rw [hroom] at hisSome
      cases hisSome
  | some found =>
      cases hparticipant : db.participant? room user with
      | none =>
          rw [if_neg]
          · rfl
          rintro ⟨rfl, rfl, -, hisSome⟩
          rw [hparticipant] at hisSome
          cases hisSome
      | some participant =>
          have hkey : (room = roomId ∧ user = studentId ∧ (db.rooms.get? roomId).isSome ∧
              (db.participant? roomId studentId).isSome) ↔
                room = roomId ∧ user = studentId := by
            constructor
            · rintro ⟨rfl, rfl, -⟩
              exact ⟨rfl, rfl⟩
            · rintro ⟨rfl, rfl⟩
              rw [hroom, hparticipant]
              exact ⟨rfl, rfl, rfl, rfl⟩
          have hid : found.id = room := by
            have hkey := List.find?_some hroom
            exact of_decide_eq_true hkey
          simp only [hkey]
          exact trail_lock hparticipant ⟨rfl, congrArg some hid, rfl⟩

end Views

/-! ### What a submit request is to a student -/

section Submit

variable {db : ExamTables} {env : ManagementEnv} {roomId studentId : Int}

theorem examStore_catalogue : db.examStore.catalogue = db.catalogue := by
  simp only [ExamStore.catalogue, examStore, catalogue, List.map_map, Function.comp_def]

theorem find?_examStore (room student : Int) :
    (db.examStore.participants.find? fun stored =>
      stored.roomId = room ∧ stored.studentId = student) =
        (db.participant? room student).map EnrolledParticipant.toStoredParticipant := by
  rw [examStore, List.find?_map]
  rfl

def lockEvents : List String := ["participant.locked", "participant.unlocked"]

def LeavesTrails : SubmitWrite → Prop
  | .saveParticipant _ _ save => .accessLocked ∉ save.updateFields
  | .recordEvent event => event.eventType ∉ lockEvents
  | _ => True

theorem trail_write {write : SubmitWrite} (h : LeavesTrails write) :
    (db.write (studentWrite env write)).trail roomId studentId = db.trail roomId studentId := by
  cases write with
  | saveParticipant room student save =>
      have hlocked : (db.saveParticipant room student save).locked roomId studentId =
          db.locked roomId studentId := by
        rw [locked_saveParticipant, if_neg fun hsave => h hsave.2.2]
      simp only [studentWrite, ExamTables.write, trail, hlocked]
      rfl
  | recordEvent event =>
      have hother : ∀ eventType ∈ lockEvents,
          ¬ (eventDraft event).Tells eventType roomId studentId := by
        rintro _ htype ⟨rfl, -⟩
        exact h htype
      simp only [studentWrite, ExamTables.write, trail, locked_recordExamEvent,
        recorded_recordExamEvent, if_neg (hother "participant.locked" (by decide)),
        if_neg (hother "participant.unlocked" (by decide)), Nat.add_zero]
  | deleteSubmission id =>
      simp only [studentWrite, ExamTables.write, trail, locked, recorded, deleteSubmission,
        Table.modify, List.countP_map]
      rfl
  | upsertSnapshot room student question snapshot =>
      simp only [studentWrite, ExamTables.write, upsertSnapshot]
      split <;> rfl
  | insertSubmission row => rfl
  | updateSubmission row => rfl

theorem trail_foldl_write {log : List SubmitWrite} (h : ∀ write ∈ log, LeavesTrails write) :
    (log.foldl (fun db write => db.write (studentWrite env write)) db).trail roomId studentId =
      db.trail roomId studentId := by
  induction log generalizing db with
  | nil => rfl
  | cons write log ih =>
      rw [List.forall_mem_cons] at h
      rw [List.foldl_cons, ih h.2, trail_write h.1]

theorem leavesTrails_of_isPresence {write : SubmitWrite} (h : IsPresence write) :
    LeavesTrails write := by
  cases write with
  | saveParticipant room student save =>
      have hfields : save.updateFields = [.lastPresenceAt] := h
      rw [LeavesTrails, hfields]
      decide
  | _ => cases h

section Logs

variable {context : ExamContext} {submitEnv : SubmitEnv} {user : Int}
  {prepared : PreparedSubmission} {row : Submission}

theorem log_patternsScript :
    ∀ write ∈ (patternsScript context.submitContext submitEnv row).log, LeavesTrails write := by
  rw [patternsScript]
  split
  · apply forall_log_attempt
    intro write hwrite
    obtain ⟨event, hevent, rfl⟩ := List.mem_map.mp hwrite
    obtain ⟨detected, hdetected, rfl⟩ := List.mem_map.mp hevent
    rw [LeavesTrails]
    rcases eventType_of_submissionPatterns hdetected with htype | htype <;> rw [htype] <;> decide
  · simp

theorem log_bookkeepingScript :
    ∀ write ∈ (bookkeepingScript context.submitContext submitEnv user prepared row).log,
      LeavesTrails write := by
  refine Script.forall_log_bind ?_ fun _ _ =>
    Script.forall_log_bind (forall_log_attempt ?_ _) fun _ _ => log_patternsScript
  · rw [snapshotScript]
    split
    · exact forall_log_attempt (by simp [LeavesTrails]) _
    · simp
  · simp [LeavesTrails, receivedEvent, submissionEvent, lockEvents]

theorem log_inlineScript [PythonRuntime] :
    ∀ write ∈ (inlineScript context.submitContext submitEnv prepared row).log,
      LeavesTrails write := by
  refine Script.forall_log_bind (by simp) fun report _ =>
    Script.forall_log_bind (forall_log_attempt (by simp) _) fun _ _ =>
    Script.forall_log_bind (forall_log_attempt (by simp [LeavesTrails]) _) fun _ _ =>
    Script.forall_log_bind (forall_log_attempt ?_ _) fun _ _ => by simp
  rw [List.forall_mem_cons]
  refine ⟨by simp [LeavesTrails, updatedEvent, submissionEvent, lockEvents], ?_⟩
  intro write hwrite
  obtain ⟨event, hevent, rfl⟩ := List.mem_map.mp hwrite
  obtain ⟨detected, hdetected, rfl⟩ := List.mem_map.mp hevent
  rw [LeavesTrails, eventType_of_resultPatterns hdetected]
  decide

theorem log_queueScript :
    ∀ write ∈ (queueScript context.submitContext submitEnv row).log, LeavesTrails write := by
  refine Script.forall_log_bind (forall_log_attempt (by simp) _) fun _ _ => ?_
  split
  · exact Script.forall_log_bind (forall_log_attempt (by simp [LeavesTrails]) _)
      fun _ _ => by simp
  rw [sendScript]
  split
  · refine Script.forall_log_bind (forall_log_attempt (by simp [LeavesTrails]) _) fun _ _ =>
      Script.forall_log_bind (forall_log_attempt ?_ _) fun _ _ => by simp
    simp [LeavesTrails, failedEvent, submissionEvent, lockEvents]
  · refine Script.forall_log_bind (forall_log_attempt ?_ _) fun _ _ => by simp
    simp [LeavesTrails, queuedEvent, submissionEvent, lockEvents]

theorem log_afterScript [PythonRuntime] :
    ∀ write ∈ (afterScript context.submitContext submitEnv user prepared row).log,
      LeavesTrails write := by
  refine Script.forall_log_bind log_bookkeepingScript fun _ _ => ?_
  split
  · exact log_inlineScript
  · exact log_queueScript

end Logs

section Disqualified

variable [PythonRuntime] {context : ExamContext} {submitEnv : SubmitEnv} {user : Int}
  {body : Dict} {prepared : PreparedSubmission}

theorem log_prepareScript_of_autoDisqualifies {context : SubmitContext} {store : ExamStore}
    (h : AutoDisqualifies body) : (prepareScript context store submitEnv user body).log = [] := by
  have hsilent : ∀ {β : Type} (result : Except RequestError β),
      ∀ write ∈ (Script.ofExcept result : SubmitScript β).log, False := by
    simp
  have hnone : ∀ write ∈ (prepareScript context store submitEnv user body).log, False := by
    unfold prepareScript
    refine Script.forall_log_bind (hsilent _) fun _ _ => ?_
    refine Script.forall_log_bind (hsilent _) fun _ _ => ?_
    refine Script.forall_log_bind (hsilent _) fun _ _ => ?_
    refine Script.forall_log_bind (hsilent _) fun _ _ => ?_
    refine Script.forall_log_bind (hsilent _) fun _ _ => ?_
    refine Script.forall_log_bind (hsilent _) fun _ _ => ?_
    refine Script.forall_log_bind ?_ fun _ _ => ?_
    · rw [savePresent, if_neg fun hopen => hopen.2 (decide_eq_true h)]
      simp
    refine Script.forall_log_bind (hsilent _) fun _ _ => ?_
    refine Script.forall_log_bind (hsilent _) fun _ _ => ?_
    simp
  exact List.eq_nil_iff_forall_not_mem.mpr hnone

theorem participant_of_saved (h : CoreApi.Checked db.catalogue user body prepared)
    (hrefers : db.catalogue.Refers (prepared.row db.submissions.next user)) :
    prepared.roomId = none ∧ prepared.participant = none ∨
      ∃ room stored, prepared.roomId = some room ∧ db.participant? room user = some stored ∧
        prepared.participant = some stored.toRoomParticipant := by
  cases hroom : prepared.roomId with
  | none =>
      have hadmitted := h.admitted
      rw [hroom] at hadmitted
      exact .inl ⟨rfl, (Except.ok.inj hadmitted).symm⟩
  | some room =>
      obtain ⟨participant, hparticipant, hfound, -⟩ := h.admitted_of_refers hrefers hroom
      rw [Catalogue.participant?, catalogue, List.find?_map] at hfound
      obtain ⟨stored, hstored, rfl⟩ := Option.map_eq_some_iff.mp hfound
      exact .inr ⟨room, stored, rfl, hstored, hparticipant⟩

omit [PythonRuntime] in
theorem foldl_lockWrites (room student : Int) (save? : Option Save) (event : ExamEvent) :
    ((save?.map fun save => SubmitWrite.saveParticipant room student save).toList ++
        [SubmitWrite.recordEvent event]).foldl
          (fun db write => db.write (studentWrite env write)) db =
      (db.saveIfSome room student save?).recordExamEvent env (eventDraft event) := by
  cases save? <;> rfl

omit [PythonRuntime] in
theorem log_saveScript_of_open {context : SubmitContext} {store : ExamStore} {row : Submission}
    (h : prepared.autoDisqualified = false) :
    ∀ write ∈ (saveScript context store submitEnv prepared row).log, LeavesTrails write := by
  rw [saveScript, h, Bool.and_false]
  split <;> simp [LeavesTrails]

theorem trail_saveScript (h : CoreApi.Checked db.catalogue user body prepared)
    (hauto : prepared.autoDisqualified = true) (hsaved : ¬ submitEnv.raises .saveSubmission)
    (hrefers : db.catalogue.Refers (prepared.row db.submissions.next user)) :
    ((saveScript context.submitContext db.examStore submitEnv prepared
        (prepared.row db.submissions.next user)).log.foldl
          (fun db write => db.write (studentWrite env write)) db).trail roomId studentId =
      (db.trail roomId studentId).move
        (if prepared.roomId = some roomId ∧ user = studentId then .block else .stay) := by
  rw [saveScript, examStore_catalogue, if_neg (by simp [hsaved, hrefers]), hauto, Bool.and_true]
  obtain ⟨hroom, hparticipant⟩ | ⟨room, stored, hroom, hstored, hparticipant⟩ :=
    participant_of_saved h hrefers
  · rw [hroom, hparticipant]
    simp only [Option.isSome_none, Bool.false_eq_true, if_false, reduceCtorEq, false_and]
    rfl
  · obtain ⟨rfl, rfl⟩ := participant?_eq_some hstored
    have hcreated : (db.write (studentWrite env (.insertSubmission
        (prepared.row db.submissions.next stored.studentId)))).participant? stored.roomId
          stored.studentId = some stored := hstored
    have htells : (eventDraft (lockedEvent context.submitContext
        (prepared.row db.submissions.next stored.studentId))).Tells "participant.locked"
          stored.roomId stored.studentId := ⟨rfl, hroom, rfl⟩
    rw [hroom, hparticipant]
    simp only [Option.isSome_some, if_true, participantWrites, find?_examStore, hstored,
      Option.map_some, List.foldl_cons, foldl_lockWrites, Option.some.injEq]
    exact trail_block hcreated htells context.now

theorem trail_savedAfter (h : CoreApi.Checked db.catalogue user body prepared)
    (hauto : prepared.autoDisqualified = true) :
    (((saveScript context.submitContext db.examStore submitEnv prepared
        (prepared.row db.submissions.next user)) >>= fun _ =>
          afterScript context.submitContext submitEnv user prepared
            (prepared.row db.submissions.next user)).log.foldl
              (fun db write => db.write (studentWrite env write)) db).trail roomId studentId =
      (db.trail roomId studentId).move
        (if (if ¬ submitEnv.raises .saveSubmission ∧
            db.catalogue.Refers (prepared.row db.submissions.next user) then prepared.roomId
          else none) = some roomId ∧ user = studentId then .block else .stay) := by
  by_cases hsaved : ¬ submitEnv.raises .saveSubmission ∧
      db.catalogue.Refers (prepared.row db.submissions.next user)
  · have hresult : (saveScript context.submitContext db.examStore submitEnv prepared
        (prepared.row db.submissions.next user)).result = .ok () := by
      rw [result_saveScript, examStore_catalogue, if_neg (by simpa using hsaved)]
    rw [Script.bind_of_ok hresult, List.foldl_append, trail_foldl_write log_afterScript,
      trail_saveScript h hauto hsaved.1 hsaved.2, if_pos hsaved]
  · rw [if_neg hsaved, saveScript, examStore_catalogue, if_pos (by tauto),
      Script.bind_of_error (Script.result_fail _)]
    simp only [reduceCtorEq, false_and, if_false]
    rfl

theorem trail_submit : (db.submit env context submitEnv user body).trail roomId studentId =
    (db.trail roomId studentId).move
      (db.moveOf roomId studentId (.submit env context submitEnv user body)) := by
  have hpresence : ∀ write ∈ (prepareScript context.submitContext db.examStore submitEnv user
      body).log, LeavesTrails write :=
    fun write hwrite => leavesTrails_of_isPresence (log_prepareScript write hwrite)
  have hresult : (prepareScript context.submitContext db.examStore submitEnv user
      body).result = prepareSubmission db.catalogue submitEnv user body := by
    rw [result_prepareScript, examStore_catalogue]
  rw [submit, submitScript, moveOf, disqualifiedRoom]
  cases hserializer : context.serializerError body with
  | some error =>
      rw [show context.submitContext.serializerError body = some error from hserializer]
      rfl
  | none =>
      rw [show context.submitContext.serializerError body = none from hserializer, createScript]
      cases hprepared : prepareSubmission db.catalogue submitEnv user body with
      | error error =>
          rw [Script.bind_of_error (hresult.trans hprepared)]
          exact trail_foldl_write hpresence
      | ok prepared =>
          have hchecked := checked_of_prepareSubmission hprepared
          rw [Script.bind_of_ok (hresult.trans hprepared)]
          cases hauto : prepared.autoDisqualified with
          | false =>
              have hrest : ∀ write ∈ (saveScript context.submitContext db.examStore submitEnv
                  prepared (prepared.row db.submissions.next user) >>= fun _ =>
                    afterScript context.submitContext submitEnv user prepared
                      (prepared.row db.submissions.next user)).log, LeavesTrails write :=
                Script.forall_log_bind (log_saveScript_of_open hauto) fun _ _ => log_afterScript
              simp only [hauto, Bool.false_eq_true, false_and, if_false, reduceCtorEq]
              exact trail_foldl_write (List.forall_mem_append.mpr ⟨hpresence, hrest⟩)
          | true =>
              rw [log_prepareScript_of_autoDisqualifies (hchecked.sentinel.mp hauto)]
              simp only [hauto, true_and]
              exact trail_savedAfter hchecked hauto

end Disqualified

end Submit

/-! ## Runs -/

section Runs

variable [PythonRuntime] (db : ExamTables) (roomId studentId : Int)

theorem trail_serve (request : AccessRequest) :
    (db.serve request).trail roomId studentId =
      (db.trail roomId studentId).move (db.moveOf roomId studentId request) := by
  cases request with
  | lockSelf env user room => exact trail_lockSelf
  | submit env context submitEnv user body => exact trail_submit
  | kick env user room student => exact trail_kick
  | patch env user room student body => exact trail_patch body

def Locks (request : AccessRequest) : Bool :=
  !db.locked roomId studentId && (db.serve request).locked roomId studentId

def Unlocks (request : AccessRequest) : Bool :=
  db.locked roomId studentId && !(db.serve request).locked roomId studentId

/-- The request blocks a student who is locked already, by the teacher's switch or by the
sentinel, or unblocks one who is not. -/
def Repeats (request : AccessRequest) : Prop :=
  (db.trail roomId studentId).Repeats (db.moveOf roomId studentId request)

/-- The run records one event for each change of the student's lock. -/
structure TrailMatches (requests : List AccessRequest) : Prop where
  locked : (requests.foldl serve db).recorded "participant.locked" roomId studentId =
    db.recorded "participant.locked" roomId studentId +
      occurrences serve (fun db => db.Locks roomId studentId) db requests
  unlocked : (requests.foldl serve db).recorded "participant.unlocked" roomId studentId =
    db.recorded "participant.unlocked" roomId studentId +
      occurrences serve (fun db => db.Unlocks roomId studentId) db requests

theorem neverMisses_locked : NeverMisses serve (fun db => db.Locks roomId studentId)
    fun db => db.recorded "participant.locked" roomId studentId := by
  intro db request
  have hle := (db.trail roomId studentId).lockedEvents_le_move (db.moveOf roomId studentId request)
  rw [← trail_serve] at hle
  exact hle

theorem neverMisses_unlocked : NeverMisses serve (fun db => db.Unlocks roomId studentId)
    fun db => db.recorded "participant.unlocked" roomId studentId := by
  intro db request
  have hle :=
    (db.trail roomId studentId).unlockedEvents_le_move (db.moveOf roomId studentId request)
  rw [← trail_serve] at hle
  exact hle

theorem countsRight_iff (request : AccessRequest) :
    (CountsRight serve (fun db => db.Locks roomId studentId)
        (fun db => db.recorded "participant.locked" roomId studentId) db request ∧
      CountsRight serve (fun db => db.Unlocks roomId studentId)
        (fun db => db.recorded "participant.unlocked" roomId studentId) db request) ↔
      ¬ db.Repeats roomId studentId request := by
  have hiff :=
    (db.trail roomId studentId).move_recorded_iff (db.moveOf roomId studentId request)
  rw [← trail_serve] at hiff
  exact hiff

/--
The events of a run tell every change of a student's lock, and nothing else exactly if no
request of the run blocks a locked student or unblocks an open one.
-/
theorem trailMatches_iff (requests : List AccessRequest) :
    db.TrailMatches roomId studentId requests ↔
      ∀ p ∈ transitions serve db requests, ¬ p.1.Repeats roomId studentId p.2 := by
  have hlocked := (neverMisses_locked roomId studentId).tally_foldl_eq_iff db requests
  have hunlocked := (neverMisses_unlocked roomId studentId).tally_foldl_eq_iff db requests
  constructor
  · intro h p hp
    rw [← countsRight_iff]
    exact ⟨hlocked.mp h.locked p hp, hunlocked.mp h.unlocked p hp⟩
  · intro h
    constructor
    · exact hlocked.mpr fun p hp => ((countsRight_iff p.1 roomId studentId p.2).mpr (h p hp)).1
    · exact hunlocked.mpr fun p hp => ((countsRight_iff p.1 roomId studentId p.2).mpr (h p hp)).2

end Runs

end ExamTables

/-! ### A student who is blocked twice -/

def auditEnv : ManagementEnv where
  now := 5
  codes _ := "AAAAAA"
  username id := if id = 1 then "teacher" else "ada"
  sortsBefore _ _ := true
  isoformat _ := "2026-01-01T00:00:00+00:00"
  apiTime _ := "2026-01-01T00:00:00Z"
  activeWindow := 20
  parseRoom _ := .ok ⟨"Final", none, none, 9⟩
  parseRoomPatch body := .error body
  parseQuestion body := .error body
  parseQuestionPatch body := .error body

def joinedRoom : ExamTables :=
  let := plainRuntime
  (ExamTables.empty.manage auditEnv 1 (.createRoom .null)).1.write (.enroll 1 3 0)

def blockRequest : AccessRequest := .patch auditEnv 1 1 3 (.obj [("access_locked", .bool true)])

/-- The second event tells of no change. -/
theorem blocked_twice :
    letI := plainRuntime
    ¬ ∀ (db : ExamTables) (roomId studentId : Int) (requests : List AccessRequest),
      ExamTables.Reachable db → db.TrailMatches roomId studentId requests := by
  let := plainRuntime
  intro h
  have hjoined : (ExamTables.empty.manage auditEnv 1 (.createRoom .null)).1.Checked
      (.enroll 1 3 0) := trivial
  have hreachable : ExamTables.Reachable joinedRoom :=
    .write hjoined (.manage auditEnv 1 (.createRoom .null) .empty)
  have hmatches := (h joinedRoom 1 3 [blockRequest, blockRequest] hreachable).locked
  have hrecorded : ([blockRequest, blockRequest].foldl ExamTables.serve joinedRoom).recorded
      "participant.locked" 1 3 = 2 := by
    decide +kernel
  have hchanges : joinedRoom.recorded "participant.locked" 1 3 + occurrences ExamTables.serve
      (fun db => db.Locks 1 3) joinedRoom [blockRequest, blockRequest] = 1 := by
    decide +kernel
  rw [hrecorded, hchanges] at hmatches
  exact absurd hmatches (by decide)

def auditContext : ExamContext where
  username := "ada"
  now := 5
  serializerError _ := none
  sendError := ""
  limits := defaultPatternLimits
  sha256 := sampleSha256
  burstClock := sampleClock
  reuseClock := sampleClock
  failureClock := sampleClock
  submissions := []
  events := []
  resultSubmissions := []
  resultEvents := []

def sentinelRequest : AccessRequest :=
  .submit auditEnv auditContext (envRaising []) 3 [("room_id", .int 1), ("language", .str "python"),
    ("code", .str "print(1)"), ("user_input", .str "DISQUALIFIED_AUTO_SUBMIT")]

example :
    letI := plainRuntime
    ([.kick auditEnv 1 1 3, .lockSelf auditEnv 3 1, sentinelRequest,
      .patch auditEnv 1 1 3 (.obj [])].foldl ExamTables.serve joinedRoom).trail 1 3 =
        ⟨false, 2, 1⟩ := by
  decide +kernel

end JudgeVortex.System
