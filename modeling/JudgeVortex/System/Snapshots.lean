import JudgeVortex.Foundation.Runs
import JudgeVortex.System.ExamRuns

/-!
# The workspaces that a teacher sees

`StudentWorkspaceSnapshotView` of `core_api/views.py` among all other requests: what the page
saves of a student's workspace, and what `RoomWorkspaceSnapshotListView` shows of it.
-/

namespace JudgeVortex.System

open JudgeVortex.CoreApi JudgeVortex.Foundation JudgeVortex.Python

/-! ## The request -/

def refusal : RequestError → Response
  | .validation field text => ⟨400, .obj [(field, .str text)]⟩
  | .notFound => ⟨404, .obj [("detail", .str "Not found.")]⟩
  | .unavailable detail => ⟨503, .obj [("detail", .str detail)]⟩
  | .raised => raised

section Request

variable [PythonRuntime]

def bodyWorkspace (fields : Dict) : Except RequestError WorkspaceSnapshot := do
  let workspace ← normalizeSubmissionFiles (fieldD fields "language" .null)
    (fieldD fields "code" (.str "")) (fieldD fields "files" .null)
    ((fieldD fields "entry_file" .null).orElse (.str ""))
  let language ← validateSubmissionLanguage
    ((fieldD fields "language" .null).orElse (.str "python")) workspace.entryFile
  pure ⟨language, workspace.code, workspace.files, workspace.entryFile⟩

def checkSnapshot (user : Int) (db : ExamTables) (roomId questionId : Int) (body : Json) :
    Except Response (EnrolledParticipant × WorkspaceSnapshot) :=
  match db.rooms.get? roomId, db.participant? roomId user with
  | some _, some participant =>
      if participant.accessLocked then
        .error ⟨403, .obj [("error",
          .str "Your access to this exam room has been locked.")]⟩
      else
        let question? := db.questions.rows.find? fun question =>
          question.id = questionId ∧ question.roomId = roomId
        match question? with
        | none => .error (notFound "ExamQuestion")
        | some question =>
            if question.id ∈ participant.assignedQuestions then
              match body with
              | .obj fields =>
                  match bodyWorkspace fields with
                  | .ok snapshot => .ok (participant, snapshot)
                  | .error error => .error (refusal error)
              | _ => .error raised
            else
              .error ⟨403, .obj [("error",
                .str "This question is not assigned to you for this exam.")]⟩
  | _, _ => .error (notFound "RoomParticipant")

/-- `StudentWorkspaceSnapshotView.post`; a write that the database refuses raises, and leaves the
writes before it. -/
def postSnapshot (env : ManagementEnv) (raises : SubmitStep → Bool) (user : Int)
    (db : ExamTables) (roomId questionId : Int) (body : Json) : View :=
  match checkSnapshot user db roomId questionId body with
  | .error response => (db, response)
  | .ok (participant, snapshot) =>
      if raises .upsertSnapshot then (db, raised)
      else
        let saved := db.upsertSnapshot roomId user questionId snapshot env.now
        if raises .markPresent then (saved, raised)
        else
          let row? := saved.snapshots.rows.find? fun row =>
            row.roomId = roomId ∧ row.studentId = user ∧ row.questionId = questionId
          (saved.saveIfSome roomId user (markParticipantPresent env.now participant.row),
            ⟨200, .obj [("id", countValue (row?.map SnapshotRow.id)),
              ("updated_at", .str (env.isoformat env.now))]⟩)

end Request

/-! ## The runs -/

/-- A managing request, a write of another request, or a workspace that a page saves. -/
inductive ExamStep where
  | manage (env : ManagementEnv) (user : Int) (request : ManagementRequest)
  | write (write : StudentWrite)
  | snapshot (env : ManagementEnv) (raises : SubmitStep → Bool) (user roomId questionId : Int)
      (body : Json)

def examStep [PythonRuntime] (db : ExamTables) : ExamStep → ExamTables
  | .manage env user request => (db.manage env user request).1
  | .write write => db.write write
  | .snapshot env raises user roomId questionId body =>
      (postSnapshot env raises user db roomId questionId body).1

def ExamStep.Meets (db : ExamTables) : ExamStep → Prop
  | .write made => db.Checked made
  | _ => True

def SnapshotRow.key (row : SnapshotRow) : Int × Int × Int :=
  (row.roomId, row.studentId, row.questionId)

/-- The workspace that the step saves, and when. -/
def ExamStep.saves? [PythonRuntime] (db : ExamTables) :
    ExamStep → Option ((Int × Int × Int) × WorkspaceSnapshot × Time)
  | .manage .. => none
  | .write (.upsertSnapshot roomId studentId questionId saved updatedAt) =>
      some ((roomId, studentId, questionId), saved, updatedAt)
  | .write _ => none
  | .snapshot env raises user roomId questionId body =>
      match checkSnapshot user db roomId questionId body with
      | .error _ => none
      | .ok (_, saved) =>
          if raises .upsertSnapshot then none
          else some ((roomId, user, questionId), saved, env.now)

def Saves [PythonRuntime] (key : Int × Int × Int) (saved : WorkspaceSnapshot × Time)
    (db : ExamTables) (e : ExamStep) : Prop :=
  e.saves? db = some (key, saved)

/-- The step saves no workspace in the place of this one, and its question stays in its room. -/
def Spared [PythonRuntime] (key : Int × Int × Int) (db : ExamTables) (e : ExamStep) : Prop :=
  (∀ saved, e.saves? db ≠ some (key, saved)) ∧
    (examStep db e).HasQuestion key.2.2 (some key.1)

namespace ExamTables

/-! ## The rows of workspaces -/

def UniqueSnapshots (db : ExamTables) : Prop := (db.snapshots.rows.map SnapshotRow.key).Nodup

def Holds (db : ExamTables) (key : Int × Int × Int) (saved : WorkspaceSnapshot × Time) : Prop :=
  ∃ row ∈ db.snapshots.rows,
    row.key = key ∧ (row.toWorkspaceSnapshot, row.updatedAt) = saved

section Upsert

variable {db : ExamTables} {roomId studentId questionId : Int} {snapshot : WorkspaceSnapshot}
  {updatedAt : Time}

theorem find?_key_eq_some {row : SnapshotRow}
    (h : db.snapshots.rows.find? (fun row => row.roomId = roomId ∧ row.studentId = studentId ∧
      row.questionId = questionId) = some row) :
    row ∈ db.snapshots.rows ∧ row.key = (roomId, studentId, questionId) := by
  have hkey := List.find?_some h
  simp only [decide_eq_true_eq] at hkey
  obtain ⟨rfl, rfl, rfl⟩ := hkey
  exact ⟨List.mem_of_find?_eq_some h, rfl⟩

theorem find?_key_eq_none
    (h : db.snapshots.rows.find? (fun row => row.roomId = roomId ∧ row.studentId = studentId ∧
      row.questionId = questionId) = none) :
    ∀ row ∈ db.snapshots.rows, row.key ≠ (roomId, studentId, questionId) := by
  intro row hrow hkey
  obtain ⟨rfl, rfl, rfl⟩ : row.roomId = roomId ∧ row.studentId = studentId ∧
      row.questionId = questionId := by simpa [SnapshotRow.key] using hkey
  simpa using List.find?_eq_none.mp h row hrow

theorem mem_upsertSnapshot (hunique : db.UniqueSnapshots) (row : SnapshotRow) :
    row ∈ (db.upsertSnapshot roomId studentId questionId snapshot updatedAt).snapshots.rows →
      row.key = (roomId, studentId, questionId) ∧
          (row.toWorkspaceSnapshot, row.updatedAt) = (snapshot, updatedAt) ∨
        row ∈ db.snapshots.rows ∧ row.key ≠ (roomId, studentId, questionId) := by
  unfold upsertSnapshot
  dsimp only
  split
  next found hfound =>
    obtain ⟨hmem, hkey⟩ := find?_key_eq_some hfound
    intro hrow
    obtain ⟨old, hold, rfl⟩ := List.mem_map.mp hrow
    split
    next => exact .inl ⟨hkey, rfl⟩
    next hid =>
      refine .inr ⟨hold, fun hsame => hid ?_⟩
      rw [List.inj_on_of_nodup_map hunique hold hmem (hsame.trans hkey.symm)]
  next hnone =>
    intro hrow
    rcases List.mem_append.mp hrow with hrow | hrow
    · exact .inr ⟨hrow, find?_key_eq_none hnone row hrow⟩
    · rw [List.mem_singleton.mp hrow]
      exact .inl ⟨rfl, rfl⟩

theorem saved_mem_upsertSnapshot :
    ∃ row ∈ (db.upsertSnapshot roomId studentId questionId snapshot updatedAt).snapshots.rows,
      row.key = (roomId, studentId, questionId) ∧
        (row.toWorkspaceSnapshot, row.updatedAt) = (snapshot, updatedAt) := by
  unfold upsertSnapshot
  dsimp only
  split
  next found hfound =>
    obtain ⟨hmem, hkey⟩ := find?_key_eq_some hfound
    exact ⟨_, Table.mem_replace_self hmem rfl, hkey, rfl⟩
  next => exact ⟨_, List.mem_append_right _ (.head _), rfl, rfl⟩

theorem mem_upsertSnapshot_of_ne {row : SnapshotRow} (h : row ∈ db.snapshots.rows)
    (hne : row.key ≠ (roomId, studentId, questionId)) :
    row ∈ (db.upsertSnapshot roomId studentId questionId snapshot updatedAt).snapshots.rows := by
  unfold upsertSnapshot
  dsimp only
  split
  next found hfound =>
    obtain ⟨hmem, hkey⟩ := find?_key_eq_some hfound
    apply Table.mem_replace_of_ne h
    intro hid
    rw [db.snapshots.eq_of_key h hmem hid] at hne
    exact hne hkey
  next => exact List.mem_append_left _ h

theorem holds_upsertSnapshot (hunique : db.UniqueSnapshots) (key : Int × Int × Int)
    (saved : WorkspaceSnapshot × Time) :
    (db.upsertSnapshot roomId studentId questionId snapshot updatedAt).Holds key saved ↔
      (key = (roomId, studentId, questionId) ∧ saved = (snapshot, updatedAt)) ∨
        db.Holds key saved ∧ key ≠ (roomId, studentId, questionId) := by
  constructor
  · rintro ⟨row, hrow, rfl, rfl⟩
    obtain hsaved | ⟨hmem, hne⟩ := mem_upsertSnapshot hunique row hrow
    · exact .inl hsaved
    · exact .inr ⟨⟨row, hmem, rfl, rfl⟩, hne⟩
  · rintro (⟨rfl, rfl⟩ | ⟨⟨row, hrow, rfl, rfl⟩, hne⟩)
    · exact saved_mem_upsertSnapshot
    · exact ⟨row, mem_upsertSnapshot_of_ne hrow hne, rfl, rfl⟩

theorem UniqueSnapshots.upsert (h : db.UniqueSnapshots) :
    (db.upsertSnapshot roomId studentId questionId snapshot updatedAt).UniqueSnapshots := by
  unfold UniqueSnapshots upsertSnapshot
  dsimp only
  split
  next found hfound =>
    obtain ⟨hmem, -⟩ := find?_key_eq_some hfound
    have hkeys : ((db.snapshots.replace { found with toWorkspaceSnapshot := snapshot
                                                     updatedAt }).rows.map SnapshotRow.key) =
        db.snapshots.rows.map SnapshotRow.key := by
      refine (List.map_map ..).trans (List.map_congr_left fun old hold => ?_)
      rw [Function.comp_apply]
      split
      next hid => rw [db.snapshots.eq_of_key hold hmem hid]; rfl
      next => rfl
    rw [hkeys]
    exact h
  next hnone =>
    refine (List.map_append ..).symm ▸ List.nodup_append.mpr ⟨h, List.nodup_singleton _, ?_⟩
    intro key hkey other hother heq
    obtain ⟨row, hrow, rfl⟩ := List.mem_map.mp hkey
    rw [List.map_singleton, List.mem_singleton] at hother
    exact find?_key_eq_none hnone row hrow (heq.trans hother)

end Upsert

/-! ## The steps -/

/-- The workspaces are as they were, or those of rooms and questions that go are gone. -/
def SnapshotsStay (db after : ExamTables) : Prop :=
  after.snapshots = db.snapshots ∨
    ∃ mid gone, mid.snapshots = db.snapshots ∧ Gone.Closed mid gone ∧ after = mid.cascade gone

section Steps

variable {db after : ExamTables} {key : Int × Int × Int} {saved : WorkspaceSnapshot × Time}

theorem SnapshotsStay.sublist (h : db.SnapshotsStay after) :
    after.snapshots.rows.Sublist db.snapshots.rows := by
  obtain heq | ⟨mid, gone, heq, -, rfl⟩ := h
  · rw [heq]
  · rw [← heq]
    exact List.filter_sublist

theorem SnapshotsStay.mem_iff (h : db.SnapshotsStay after) (hconsistent : after.Consistent)
    (row : SnapshotRow) :
    row ∈ after.snapshots.rows ↔
      row ∈ db.snapshots.rows ∧ after.HasQuestion row.questionId (some row.roomId) := by
  constructor
  · intro hrow
    exact ⟨h.sublist.subset hrow, hconsistent.snapshot row hrow⟩
  · rintro ⟨hrow, question, hquestion, hid, hroom⟩
    obtain heq | ⟨mid, gone, heq, hclosed, rfl⟩ := h
    · rw [heq]
      exact hrow
    · obtain ⟨hmem, hstays⟩ := List.mem_filter.mp hquestion
      have hquestionStays : gone.question question.id = false := by simpa using hstays
      rw [← heq] at hrow
      refine List.mem_filter.mpr ⟨hrow, decide_eq_true ?_⟩
      rintro (hgone | hgone)
      · rw [Option.some.inj hroom] at hgone
        rw [hclosed question hmem hgone] at hquestionStays
        cases hquestionStays
      · rw [← hid, hquestionStays] at hgone
        cases hgone

theorem SnapshotsStay.holds_iff (h : db.SnapshotsStay after) (hconsistent : after.Consistent) :
    after.Holds key saved ↔
      db.Holds key saved ∧ after.HasQuestion key.2.2 (some key.1) := by
  constructor
  · rintro ⟨row, hrow, rfl, rfl⟩
    obtain ⟨hmem, hquestion⟩ := (h.mem_iff hconsistent row).mp hrow
    exact ⟨⟨row, hmem, rfl, rfl⟩, hquestion⟩
  · rintro ⟨⟨row, hrow, rfl, rfl⟩, hquestion⟩
    exact ⟨row, (h.mem_iff hconsistent row).mpr ⟨hrow, hquestion⟩, rfl, rfl⟩

theorem Consistent.holds_question (h : db.Consistent) (hholds : db.Holds key saved) :
    db.HasQuestion key.2.2 (some key.1) := by
  obtain ⟨row, hrow, rfl, -⟩ := hholds
  exact h.snapshot row hrow

section Manage

variable {env : ManagementEnv} {user : Int}

theorem saveNewRoom_snapshots (draft : RoomRow) (attempts draw : ℕ) (db : ExamTables) :
    (System.saveNewRoom env draft attempts draw db).1.snapshots = db.snapshots := by
  induction attempts generalizing draw db with
  | zero => rfl
  | succ attempts ih =>
      rw [System.saveNewRoom]
      split
      next => exact ih _ _
      next => rfl

theorem snapshotsStay_createRoom (body : Json) :
    db.SnapshotsStay (createRoom env user db body).1 := by
  unfold createRoom
  split
  next => exact .inl rfl
  next fields _ =>
    split
    next => exact .inl rfl
    next =>
      have hsaved : (System.saveNewRoom env (fields.draft env user)
          maxRoomCodeGenerationAttempts 0 db).1.snapshots = db.snapshots :=
        saveNewRoom_snapshots _ _ _ _
      split
      next heq =>
        rw [heq] at hsaved
        exact .inl hsaved
      next heq =>
        rw [heq] at hsaved
        exact .inl hsaved

theorem snapshotsStay_inRoom (roomId : Int) (view : RoomRow → View)
    (h : ∀ room, db.SnapshotsStay (view room).1) :
    db.SnapshotsStay (inRoom user db roomId view).1 :=
  inRoom_tables (.inl rfl) fun room _ _ => h room

theorem saveIfSome_snapshots (roomId studentId : Int) (save? : Option Save) :
    (db.saveIfSome roomId studentId save?).snapshots = db.snapshots := by
  cases save? with
  | none => rfl
  | some save => rfl

theorem snapshotsStay_manage [PythonRuntime] (request : ManagementRequest) :
    db.SnapshotsStay (db.manage env user request).1 := by
  cases request with
  | listRooms => exact .inl rfl
  | createRoom body => exact snapshotsStay_createRoom body
  | roomDetail pk => exact snapshotsStay_inRoom pk _ fun _ => .inl rfl
  | patchRoom pk body =>
      refine snapshotsStay_inRoom pk _ fun room => ?_
      split
      next => exact .inl rfl
      next =>
        split
        next => exact .inl rfl
        next => exact .inl rfl
  | deleteRoom pk =>
      exact snapshotsStay_inRoom pk _ fun room =>
        .inr ⟨db.recordExamEvent env (roomDeletedEvent user room), _, rfl,
          closed_goneWithRoom room.id, rfl⟩
  | listQuestions roomId => exact .inl rfl
  | createQuestion roomId body =>
      change db.SnapshotsStay (createQuestion env user db roomId body).1
      unfold createQuestion
      split
      next => exact .inl rfl
      next =>
        split
        next => exact .inl rfl
        next => exact .inl rfl
  | patchQuestion roomId questionId body =>
      refine onQuestion_tables (.inl rfl) fun question _ _ => ?_
      split
      next => exact .inl rfl
      next => exact .inl rfl
  | deleteQuestion roomId questionId =>
      exact onQuestion_tables (.inl rfl) fun question _ _ =>
        .inr ⟨db.recordExamEvent env (questionEvent user "question.deleted" "deleted" [] question),
          _, rfl, closed_goneWithQuestion question.id, rfl⟩
  | listParticipants roomId => exact snapshotsStay_inRoom roomId _ fun _ => .inl rfl
  | kickParticipant roomId studentId =>
      refine onParticipant_tables (.inl rfl) fun room _ _ participant => ?_
      dsimp only
      split
      next => exact .inl rfl
      next => exact .inl rfl
  | patchParticipant roomId studentId body =>
      refine onParticipant_tables (.inl rfl) fun room _ _ participant => ?_
      split
      next =>
        dsimp only
        split
        next => exact .inl (saveIfSome_snapshots ..)
        next => exact .inl (saveIfSome_snapshots ..)
      next => exact .inl rfl
  | listSubmissions roomId => exact snapshotsStay_inRoom roomId _ fun _ => .inl rfl
  | listWorkspaces roomId => exact snapshotsStay_inRoom roomId _ fun _ => .inl rfl
  | listEvents roomId => exact snapshotsStay_inRoom roomId _ fun _ => .inl rfl

end Manage

section Run

variable [PythonRuntime] {env : ManagementEnv} {user roomId questionId : Int} {body : Json}

omit [PythonRuntime] in
theorem hasQuestion_iff_find? :
    db.HasQuestion questionId (some roomId) ↔
      (db.questions.rows.find? fun question =>
        question.id = questionId ∧ question.roomId = roomId).isSome := by
  rw [List.find?_isSome]
  constructor
  · rintro ⟨question, hquestion, hid, hroom⟩
    exact ⟨question, hquestion, decide_eq_true ⟨hid, (Option.some.inj hroom).symm⟩⟩
  · rintro ⟨question, hquestion, hkey⟩
    obtain ⟨hid, hroom⟩ := of_decide_eq_true hkey
    exact ⟨question, hquestion, hid, by rw [hroom]⟩

theorem checkSnapshot_eq_ok_iff {participant : EnrolledParticipant}
    {snapshot : WorkspaceSnapshot} :
    checkSnapshot user db roomId questionId body = .ok (participant, snapshot) ↔
      (db.rooms.get? roomId).isSome ∧ db.participant? roomId user = some participant ∧
        participant.accessLocked = false ∧ db.HasQuestion questionId (some roomId) ∧
        questionId ∈ participant.assignedQuestions ∧
        ∃ fields, body = .obj fields ∧ bodyWorkspace fields = .ok snapshot := by
  unfold checkSnapshot
  cases hroom : db.rooms.get? roomId with
  | none => simp
  | some room =>
      cases hfound : db.participant? roomId user with
      | none => simp
      | some found =>
          rw [hasQuestion_iff_find?]
          cases hlocked : found.accessLocked with
          | true =>
              simp only [if_pos hlocked, reduceCtorEq, false_iff]
              rintro ⟨-, hsame, hunlocked, -⟩
              rw [← Option.some.inj hsame, hlocked] at hunlocked
              cases hunlocked
          | false =>
              simp only [hlocked, Bool.false_eq_true, if_false]
              cases hquestion : db.questions.rows.find? fun question =>
                  question.id = questionId ∧ question.roomId = roomId with
              | none => simp
              | some question =>
                  have hkey := List.find?_some hquestion
                  have hid : question.id = questionId := (of_decide_eq_true hkey).1
                  by_cases hassigned : question.id ∈ found.assignedQuestions
                  · simp only [if_pos hassigned]
                    cases body with
                    | obj fields =>
                        cases hread : bodyWorkspace fields with
                        | ok read =>
                            simp only [hread, Except.ok.injEq, Prod.mk.injEq,
                              Option.some.injEq, Json.obj.injEq, Option.isSome_some, true_and]
                            constructor
                            · rintro ⟨rfl, rfl⟩
                              exact ⟨rfl, hlocked, hid ▸ hassigned, fields, rfl, hread⟩
                            · rintro ⟨hsame, -, -, _, rfl, hsnapshot⟩
                              rw [hread] at hsnapshot
                              exact ⟨hsame, Except.ok.inj hsnapshot⟩
                        | error error => simp [hread]
                    | _ => simp
                  · simp only [if_neg hassigned, reduceCtorEq, false_iff]
                    rintro ⟨-, hsame, -, -, hmem, -⟩
                    rw [← Option.some.inj hsame, ← hid] at hmem
                    exact hassigned hmem

theorem snapshots_of_saves {e : ExamStep} (h : e.saves? db = some (key, saved)) :
    (examStep db e).snapshots =
      (db.upsertSnapshot key.1 key.2.1 key.2.2 saved.1 saved.2).snapshots := by
  cases e with
  | manage env user request => cases h
  | write made =>
      cases made with
      | upsertSnapshot roomId studentId questionId snapshot updatedAt =>
          cases h
          rfl
      | _ => cases h
  | snapshot env raises user roomId questionId body =>
      rw [ExamStep.saves?] at h
      rw [examStep, postSnapshot]
      split at h
      next => cases h
      next participant snapshot _ =>
        split at h
        next => cases h
        next hstored =>
          cases h
          dsimp only
          rw [if_neg hstored]
          split
          next => rfl
          next => exact saveIfSome_snapshots ..

theorem snapshotsStay_of_no_save {e : ExamStep} (h : e.saves? db = none) :
    db.SnapshotsStay (examStep db e) := by
  cases e with
  | manage env user request => exact snapshotsStay_manage request
  | write made =>
      cases made with
      | upsertSnapshot roomId studentId questionId snapshot updatedAt => cases h
      | _ => exact .inl rfl
  | snapshot env raises user roomId questionId body =>
      rw [ExamStep.saves?] at h
      rw [examStep, postSnapshot]
      split at h
      next => exact .inl rfl
      next participant snapshot _ =>
        split at h
        next hraises =>
          dsimp only
          rw [if_pos hraises]
          exact .inl rfl
        next => cases h

/-! ## Every state of a run -/

structure SnapshotsSound (db : ExamTables) : Prop where
  consistent : db.Consistent
  unique : db.UniqueSnapshots

theorem consistent_postSnapshot (h : db.Consistent) (env : ManagementEnv)
    (raises : SubmitStep → Bool) :
    (postSnapshot env raises user db roomId questionId body).1.Consistent := by
  rw [postSnapshot]
  split
  next => exact h
  next participant snapshot hchecked =>
    have hquestion := (checkSnapshot_eq_ok_iff.mp hchecked).2.2.2.1
    have hsaved := h.upsertSnapshot user snapshot env.now hquestion
    split
    next => exact h
    next =>
      dsimp only
      split
      next => exact hsaved
      next =>
        cases markParticipantPresent env.now participant.row with
        | none => exact hsaved
        | some save => exact hsaved.saveParticipant roomId user save

theorem examStep_sound {e : ExamStep} (h : db.SnapshotsSound) (hmeets : e.Meets db) :
    (examStep db e).SnapshotsSound := by
  constructor
  · cases e with
    | manage env user request => exact (managed_manage h.consistent request).consistent
    | write made => exact h.consistent.write hmeets
    | snapshot env raises user roomId questionId body =>
        exact consistent_postSnapshot h.consistent env raises
  · cases hsaves : e.saves? db with
    | none => exact ((snapshotsStay_of_no_save hsaves).sublist.map _).nodup h.unique
    | some saved =>
        obtain ⟨key, saved⟩ := saved
        rw [UniqueSnapshots, snapshots_of_saves hsaves]
        exact h.unique.upsert

theorem holds_examStep {e : ExamStep} (h : db.SnapshotsSound) (hmeets : e.Meets db) :
    (examStep db e).Holds key saved ↔
      Saves key saved db e ∨ db.Holds key saved ∧ Spared key db e := by
  have hafter := examStep_sound h hmeets
  cases hsaves : e.saves? db with
  | none =>
      rw [(snapshotsStay_of_no_save hsaves).holds_iff hafter.consistent, Saves, Spared, hsaves]
      simp
  | some other =>
      obtain ⟨otherKey, other⟩ := other
      have hholds : (examStep db e).Holds key saved ↔
          (key = otherKey ∧ saved = other) ∨ db.Holds key saved ∧ key ≠ otherKey := by
        rw [Holds, snapshots_of_saves hsaves]
        exact holds_upsertSnapshot h.unique key saved
      rw [Saves, Spared, hsaves, hholds]
      constructor
      · rintro (⟨rfl, rfl⟩ | ⟨hheld, hne⟩)
        · exact .inl rfl
        · refine .inr ⟨hheld, ?_, hafter.consistent.holds_question (hholds.mpr (.inr ⟨hheld, hne⟩))⟩
          intro _ heq
          exact hne (Prod.mk.inj (Option.some.inj heq)).1.symm
      · rintro (heq | ⟨hheld, hne, -⟩)
        · obtain ⟨rfl, rfl⟩ := Prod.mk.inj (Option.some.inj heq)
          exact .inl ⟨rfl, rfl⟩
        · exact .inr ⟨hheld, fun heq => hne other (by rw [heq])⟩

omit [PythonRuntime] in
theorem snapshotsSound_empty : empty.SnapshotsSound := ⟨consistent_empty, .nil⟩

end Run

end Steps

end ExamTables

/-! ## The teacher's list -/

def examAt [PythonRuntime] (events : List ExamStep) : ExamTables := events.foldl examStep .empty

theorem examAt_sound [PythonRuntime] {events : List ExamStep}
    (hmeets : ∀ p ∈ transitions examStep .empty events, p.2.Meets p.1) :
    (examAt events).SnapshotsSound :=
  foldl_invariant_of examStep (I := ExamTables.SnapshotsSound) (G := fun db e => e.Meets db)
    (fun _ _ h hmeets => ExamTables.examStep_sound h hmeets) ExamTables.snapshotsSound_empty events
    hmeets

theorem holds_examAt_iff [PythonRuntime] {events : List ExamStep}
    (hmeets : ∀ p ∈ transitions examStep .empty events, p.2.Meets p.1) (key : Int × Int × Int)
    (saved : WorkspaceSnapshot × Time) :
    (examAt events).Holds key saved ↔
      Since examStep (Saves key saved) (Spared key) .empty events := by
  refine reached_iff_since examStep (I := ExamTables.SnapshotsSound)
    (J := fun db => db.Holds key saved) (G := fun db e => e.Meets db)
    (fun _ _ h hmeets => ExamTables.examStep_sound h hmeets)
    (fun _ _ h hmeets => ExamTables.holds_examStep h hmeets) ExamTables.snapshotsSound_empty ?_
    events hmeets
  rintro ⟨row, hrow, -⟩
  cases hrow

def workspaceRows (db : ExamTables) (roomId : Int) : List SnapshotRow :=
  newestFirst SnapshotRow.updatedAt (db.snapshots.rows.filter fun row => row.roomId = roomId)

theorem mem_workspaceRows {db : ExamTables} {roomId : Int} {row : SnapshotRow} :
    row ∈ workspaceRows db roomId ↔ row ∈ db.snapshots.rows ∧ row.roomId = roomId := by
  rw [workspaceRows, newestFirst, (List.perm_insertionSort _ _).mem_iff, List.mem_filter,
    decide_eq_true_eq]

theorem holds_iff_workspaceRows {db : ExamTables} {roomId studentId questionId : Int}
    {saved : WorkspaceSnapshot × Time} :
    db.Holds (roomId, studentId, questionId) saved ↔
      ∃ row ∈ workspaceRows db roomId, row.studentId = studentId ∧ row.questionId = questionId ∧
        (row.toWorkspaceSnapshot, row.updatedAt) = saved := by
  constructor
  · rintro ⟨row, hmem, hkey, rfl⟩
    obtain ⟨hroom, hstudent, hquestion⟩ : row.roomId = roomId ∧ row.studentId = studentId ∧
        row.questionId = questionId := by simpa [SnapshotRow.key] using hkey
    exact ⟨row, mem_workspaceRows.mpr ⟨hmem, hroom⟩, hstudent, hquestion, rfl⟩
  · rintro ⟨row, hrow, rfl, rfl, rfl⟩
    obtain ⟨hmem, hroom⟩ := mem_workspaceRows.mp hrow
    exact ⟨row, hmem, by rw [SnapshotRow.key, hroom], rfl⟩

theorem workspaceRows_nodup {db : ExamTables} (h : db.UniqueSnapshots) (roomId : Int) :
    ((workspaceRows db roomId).map fun row => (row.studentId, row.questionId)).Nodup := by
  have hfiltered := (List.filter_sublist (p := fun row : SnapshotRow => row.roomId = roomId)).map
    SnapshotRow.key |>.nodup h
  have hperm := (List.perm_insertionSort (fun a b : SnapshotRow => b.updatedAt ≤ a.updatedAt)
    (db.snapshots.rows.filter fun row => row.roomId = roomId)).map SnapshotRow.key
  have hkeys : ((workspaceRows db roomId).map SnapshotRow.key).Nodup :=
    hperm.nodup_iff.mpr hfiltered
  refine List.Nodup.of_map (fun pair : Int × Int => (roomId, pair)) ?_
  rw [List.map_map]
  convert hkeys using 1
  refine List.map_congr_left fun row hrow => ?_
  rw [Function.comp_apply, SnapshotRow.key, (mem_workspaceRows.mp hrow).2]

/-- The rows show for a student and a question the workspace that was saved last, with the time of
that save, unless the question has gone since. -/
structure ShowsLast [PythonRuntime] (events : List ExamStep) (roomId : Int)
    (rows : List SnapshotRow) : Prop where
  one : (rows.map fun row => (row.studentId, row.questionId)).Nodup
  newest : rows.Pairwise fun a b => b.updatedAt ≤ a.updatedAt
  inside : ∀ row ∈ rows,
    row.roomId = roomId ∧ (examAt events).HasQuestion row.questionId (some roomId)
  last : ∀ studentId questionId saved,
    (∃ row ∈ rows, row.studentId = studentId ∧ row.questionId = questionId ∧
        (row.toWorkspaceSnapshot, row.updatedAt) = saved) ↔
      Since examStep (Saves (roomId, studentId, questionId) saved)
        (Spared (roomId, studentId, questionId)) .empty events

theorem showsLast [PythonRuntime] {events : List ExamStep}
    (hmeets : ∀ p ∈ transitions examStep .empty events, p.2.Meets p.1) (roomId : Int) :
    ShowsLast events roomId (workspaceRows (examAt events) roomId) where
  one := workspaceRows_nodup (examAt_sound hmeets).unique roomId
  newest := List.pairwise_insertionSort _ _
  inside row hrow := by
    obtain ⟨hmem, rfl⟩ := mem_workspaceRows.mp hrow
    exact ⟨rfl, (examAt_sound hmeets).consistent.snapshot row hmem⟩
  last studentId questionId saved := by
    rw [← holds_examAt_iff hmeets, holds_iff_workspaceRows]

/-- The list of a room shows its teacher the last workspaces, after every run of requests. -/
theorem teacher_sees_last_workspace [PythonRuntime] (events : List ExamStep)
    (hmeets : ∀ p ∈ transitions examStep .empty events, p.2.Meets p.1) (env : ManagementEnv)
    (teacher roomId : Int) (hteaches : (examAt events).Teaches teacher roomId) :
    let db := examAt events
    ∃ rows, ShowsLast events roomId rows ∧
      listWorkspaces env teacher db roomId = (db, ⟨200, .arr (rows.map fun row =>
        snapshotData env (db.questionTitle row.questionId) row)⟩) := by
  obtain ⟨room, hroom, hkey⟩ := hteaches
  have hsome : ((examAt events).room? teacher roomId).isSome :=
    List.find?_isSome.mpr ⟨room, hroom, decide_eq_true hkey⟩
  obtain ⟨found, hfound⟩ := Option.isSome_iff_exists.mp hsome
  obtain ⟨-, rfl, -⟩ := ExamTables.room?_eq_some hfound
  refine ⟨_, showsLast hmeets found.id, ?_⟩
  rw [listWorkspaces, inRoom, hfound]
  rfl

/-! ### A workspace that is saved twice -/

def lessonEnv (now : Time) : ManagementEnv where
  now := now
  codes _ := "AAAAAA"
  username id := if id = 1 then "teacher" else "ada"
  sortsBefore _ _ := true
  isoformat _ := "2026-01-01T00:00:00+00:00"
  apiTime _ := "2026-01-01T00:00:00Z"
  activeWindow := 20
  parseRoom _ := .ok ⟨"Final", none, none, 9⟩
  parseRoomPatch body := .error body
  parseQuestion _ := .ok ⟨"Sum", "Add.", none, none, none, "3", none⟩
  parseQuestionPatch body := .error body

def savedTwice : List ExamStep :=
  [.manage (lessonEnv 1) 1 (.createRoom .null), .manage (lessonEnv 1) 1 (.createQuestion 1 .null),
    .write (.enroll 1 3 2), .write (.assignQuestions 1 3 [1]),
    .snapshot (lessonEnv 3) (fun _ => false) 3 1 1 (.obj [("code", .str "print(1)")]),
    .snapshot (lessonEnv 4) (fun _ => false) 3 1 1 (.obj [("code", .str "print(2)")])]

example :
    letI := plainRuntime
    (workspaceRows (examAt savedTwice) 1).map (fun row => (row.studentId, row.code)) =
      [(3, "print(2)")] := by
  decide +kernel

theorem savedTwice_meets :
    letI := plainRuntime
    ∀ p ∈ transitions examStep .empty savedTwice, p.2.Meets p.1 := by
  let := plainRuntime
  have hquestion : (examAt (savedTwice.take 3)).HasQuestion 1 (some 1) := by
    unfold ExamTables.HasQuestion
    decide +kernel
  intro p hp
  simp only [savedTwice, transitions_cons, transitions_nil, List.mem_cons, List.not_mem_nil,
    or_false] at hp
  obtain rfl | rfl | rfl | rfl | rfl | rfl := hp
  case inr.inr.inr.inl =>
    intro id hid
    rw [List.mem_singleton.mp hid]
    exact hquestion
  all_goals trivial

theorem teacher_sees_second_save :
    letI := plainRuntime
    ∃ rows, ShowsLast savedTwice 1 rows ∧
      listWorkspaces (lessonEnv 5) 1 (examAt savedTwice) 1 = (examAt savedTwice, ⟨200,
        .arr (rows.map fun row =>
          snapshotData (lessonEnv 5) ((examAt savedTwice).questionTitle row.questionId) row)⟩) :=
  let := plainRuntime
  teacher_sees_last_workspace savedTwice savedTwice_meets (lessonEnv 5) 1 1 (by decide +kernel)

end JudgeVortex.System
