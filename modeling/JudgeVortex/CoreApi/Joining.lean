import JudgeVortex.Foundation.Interleaving
import Mathlib.Data.List.Perm.Subperm
import Mathlib.Data.List.Nodup

/-!
# Joining a room

`join_room_view` of `core_api/views.py`, one database statement a step: any number of
joins run at once, and any statement can fail.  A join that created a participant gives
it its questions in a statement of its own.
-/

namespace JudgeVortex.CoreApi

open JudgeVortex.Foundation

structure JoinableRoom where
  id : Int
  roomCode : String
  isActive : Bool
  joinDeadline : Int
  questionsToAssign : Int
  questions : List Int
  questions_nodup : questions.Nodup

/-- `random.sample`; a number tells the draws apart. -/
class RandomSample where
  sample : ℕ → List Int → ℕ → List Int
  length_sample : ∀ draw xs k, k ≤ xs.length → (sample draw xs k).length = k
  sample_subperm : ∀ draw xs k, k ≤ xs.length → (sample draw xs k).Subperm xs

/-- A participant; each question stands with the join that gave it, and `createdBy` is the
join that inserted the row. -/
structure JoinedRow where
  roomId : Int
  studentId : Int
  accessLocked : Bool
  assigned : List (Int × ℕ)
  createdBy : ℕ

abbrev JoinedRow.key (row : JoinedRow) : Int × Int := (row.roomId, row.studentId)

structure JoinRequest where
  user : Int
  roomCode : Option String

/-- The next statement of a join.  The last three are those of a participant who resumes
too; they leave rows and questions alone. -/
inductive JoinPoint where
  | findRoom
  | findParticipant (room : JoinableRoom)
  | checkJoined (room : JoinableRoom)
  | readQuestions (room : JoinableRoom)
  | create (room : JoinableRoom) (assigned : List Int)
  | assign (room : JoinableRoom) (assigned : List Int)
  | markPresent
  | recordEvent
  | readAnswer

/-- The statement fails, or the join goes on at this time and with this draw. -/
inductive JoinInput where
  | fails
  | proceeds (now : Int) (draw : ℕ)

abbrev JoinThread := JoinRequest × JoinPoint

def joined? (rows : List JoinedRow) (key : Int × Int) : Option JoinedRow :=
  rows.find? fun row => row.key = key

def giveQuestions (id : ℕ) (key : Int × Int) (assigned : List Int) (row : JoinedRow) :
    JoinedRow :=
  if row.key = key then { row with assigned := assigned.map fun question => (question, id) }
  else row

section Steps

variable [RandomSample] (rooms : List JoinableRoom)

def joinStatement (rows : List JoinedRow) (id : ℕ) (request : JoinRequest) (now : Int)
    (draw : ℕ) : JoinPoint → List JoinedRow × Option JoinPoint
  | .findRoom =>
      (rows, (rooms.find? fun room => some room.roomCode = request.roomCode ∧ room.isActive).map
        .findParticipant)
  | .findParticipant room =>
      match joined? rows (room.id, request.user) with
      | some participant =>
          (rows, if participant.accessLocked then none else some .markPresent)
      | none => (rows, if now > room.joinDeadline then none else some (.checkJoined room))
  | .checkJoined room =>
      (rows, if (joined? rows (room.id, request.user)).isSome then none
        else some (.readQuestions room))
  | .readQuestions room =>
      -- A negative number passes the test of the length, and `random.sample` raises.
      (rows, if (room.questions.length : Int) < room.questionsToAssign ∨
          room.questionsToAssign < 0 then none
        else some (.create room
          (RandomSample.sample draw room.questions room.questionsToAssign.toNat)))
  | .create room assigned =>
      -- The constraint on the room and the student refuses a second row.
      if (joined? rows (room.id, request.user)).isSome then (rows, none)
      else (rows ++ [⟨room.id, request.user, false, [], id⟩], some (.assign room assigned))
  | .assign room assigned =>
      (rows.map (giveQuestions id (room.id, request.user) assigned), some .markPresent)
  | .markPresent => (rows, some .recordEvent)
  | .recordEvent => (rows, some .readAnswer)
  | .readAnswer => (rows, none)

def joinAct (rows : List JoinedRow) (id : ℕ) (thread : JoinThread) :
    JoinInput → List JoinedRow × Option JoinThread
  | .fails => (rows, none)
  | .proceeds now draw =>
      let (rows, next) := joinStatement rooms rows id thread.1 now draw thread.2
      (rows, next.map (Prod.mk thread.1))

def joinService : Service (List JoinedRow) JoinThread JoinRequest JoinInput where
  begin request := (request, .findRoom)
  act := joinAct rooms

end Steps

/-! ## What is left behind -/

structure Drawn (rooms : List JoinableRoom) (room : JoinableRoom) (assigned : List Int) :
    Prop where
  room_mem : room ∈ rooms
  length_eq : (assigned.length : Int) = room.questionsToAssign
  nodup : assigned.Nodup
  of_room : ∀ question ∈ assigned, question ∈ room.questions

/-- The join that created the participant gave it all its questions, and these are as the
room wants them. -/
structure JoinedRow.Complete (rooms : List JoinableRoom) (row : JoinedRow) : Prop where
  drawn : ∃ room, room.id = row.roomId ∧ Drawn rooms room (row.assigned.map Prod.fst)
  by_creator : ∀ entry ∈ row.assigned, entry.2 = row.createdBy

def KeysNodup (rows : List JoinedRow) : Prop := (rows.map JoinedRow.key).Nodup

section Rows

variable {rooms : List JoinableRoom} {rows : List JoinedRow} {id : ℕ}
  {room : JoinableRoom} {user : Int} {assigned : List Int}

def Unfinished (rooms : List JoinableRoom) (rows : List JoinedRow) (id : ℕ) : Prop :=
  ∃ row ∈ rows, row.createdBy = id ∧ ¬ row.Complete rooms

theorem drawn_sample [RandomSample] (hroom : room ∈ rooms) (draw : ℕ)
    (henough : ¬ (room.questions.length : Int) < room.questionsToAssign)
    (hnonneg : ¬ room.questionsToAssign < 0) :
    Drawn rooms room
      (RandomSample.sample draw room.questions room.questionsToAssign.toNat) := by
  have hle : room.questionsToAssign.toNat ≤ room.questions.length := by omega
  have hsub := RandomSample.sample_subperm draw room.questions _ hle
  refine ⟨hroom, ?_, ?_, fun question hq => hsub.subset hq⟩
  · rw [RandomSample.length_sample draw room.questions _ hle]
    omega
  · obtain ⟨sub, hperm, hsublist⟩ := hsub
    exact hperm.nodup_iff.mp (room.questions_nodup.sublist hsublist)

theorem joined?_isNone_iff {key : Int × Int} :
    (joined? rows key).isSome = false ↔ key ∉ rows.map JoinedRow.key := by
  simp [joined?, List.mem_map]

theorem giveQuestions_key (key : Int × Int) (row : JoinedRow) :
    (giveQuestions id key assigned row).key = row.key := by
  rw [giveQuestions]
  split <;> rfl

theorem giveQuestions_createdBy (key : Int × Int) (row : JoinedRow) :
    (giveQuestions id key assigned row).createdBy = row.createdBy := by
  rw [giveQuestions]
  split <;> rfl

theorem KeysNodup.eq_of_key (h : KeysNodup rows) {a b : JoinedRow} (ha : a ∈ rows)
    (hb : b ∈ rows) (hkey : a.key = b.key) : a = b :=
  List.inj_on_of_nodup_map h ha hb hkey

theorem KeysNodup.append (h : KeysNodup rows) {row : JoinedRow}
    (hnew : row.key ∉ rows.map JoinedRow.key) : KeysNodup (rows ++ [row]) := by
  rw [KeysNodup, List.map_append, List.map_singleton, List.nodup_append]
  refine ⟨h, List.nodup_singleton _, ?_⟩
  intro key hkey other hother
  rw [List.mem_singleton.mp hother]
  rintro rfl
  exact hnew hkey

theorem KeysNodup.give (h : KeysNodup rows) (key : Int × Int) :
    KeysNodup (rows.map (giveQuestions id key assigned)) := by
  have hkeys : (rows.map (giveQuestions id key assigned)).map JoinedRow.key =
      rows.map JoinedRow.key := by
    rw [List.map_map]
    exact List.map_congr_left fun row _ => giveQuestions_key key row
  rw [KeysNodup, hkeys]
  exact h

/-! ### Between the two statements of a join -/

structure Awaits (rooms : List JoinableRoom) (rows : List JoinedRow) (id : ℕ) (user : Int)
    (room : JoinableRoom) (assigned : List Int) : Prop where
  drawn : Drawn rooms room assigned
  created : ∃ row ∈ rows, row.key = (room.id, user) ∧ row.createdBy = id ∧ row.assigned = []
  only : ∀ row ∈ rows, row.createdBy = id → ¬ row.Complete rooms → row.key = (room.id, user)

theorem awaits_create (hdrawn : Drawn rooms room assigned)
    (hnone : ¬ Unfinished rooms rows id) :
    Awaits rooms (rows ++ [⟨room.id, user, false, [], id⟩]) id user room assigned where
  drawn := hdrawn
  created := ⟨_, List.mem_append_right _ (List.mem_singleton_self _), rfl, rfl, rfl⟩
  only row hrow hid hincomplete := by
    rcases List.mem_append.mp hrow with hold | hnew
    · exact absurd ⟨row, hold, hid, hincomplete⟩ hnone
    · rw [List.mem_singleton.mp hnew]

namespace Awaits

variable (h : Awaits rooms rows id user room assigned)

include h

theorem createdBy_of_key (hnodup : KeysNodup rows) {row : JoinedRow} (hrow : row ∈ rows)
    (hkey : row.key = (room.id, user)) : row.createdBy = id ∧ row.assigned = [] := by
  obtain ⟨created, hmem, hcreated, hid, hempty⟩ := h.created
  rw [hnodup.eq_of_key hrow hmem (hkey.trans hcreated.symm)]
  exact ⟨hid, hempty⟩

theorem give_of_ne (hnodup : KeysNodup rows) {row : JoinedRow} (hrow : row ∈ rows)
    (hother : row.createdBy ≠ id) : giveQuestions id (room.id, user) assigned row = row := by
  rw [giveQuestions, if_neg]
  exact fun hkey => hother (h.createdBy_of_key hnodup hrow hkey).1

theorem finished :
    ¬ Unfinished rooms (rows.map (giveQuestions id (room.id, user) assigned)) id := by
  rintro ⟨given, hgiven, hid, hincomplete⟩
  obtain ⟨row, hrow, rfl⟩ := List.mem_map.mp hgiven
  rw [giveQuestions_createdBy] at hid
  by_cases hkey : row.key = (room.id, user)
  · apply hincomplete
    rw [giveQuestions, if_pos hkey]
    constructor
    · refine ⟨room, (Prod.mk.inj hkey).1.symm, ?_⟩
      have hfst : (assigned.map fun question => (question, id)).map Prod.fst = assigned := by
        rw [List.map_map]
        exact List.map_id assigned
      rw [hfst]
      exact h.drawn
    · intro entry hentry
      obtain ⟨question, -, rfl⟩ := List.mem_map.mp hentry
      exact hid.symm
  · have hsame : giveQuestions id (room.id, user) assigned row = row := if_neg hkey
    rw [hsame] at hincomplete
    exact hkey (h.only row hrow hid hincomplete)

theorem finished_of_nil (hnodup : KeysNodup rows) (hnil : assigned = []) :
    ¬ Unfinished rooms rows id := by
  subst hnil
  rintro ⟨row, hrow, hid, hincomplete⟩
  have hkey := h.only row hrow hid hincomplete
  obtain ⟨-, hempty⟩ := h.createdBy_of_key hnodup hrow hkey
  apply hincomplete
  refine ⟨⟨room, (Prod.mk.inj hkey).1.symm, ?_⟩, by simp [hempty]⟩
  rw [hempty]
  exact h.drawn

end Awaits

section Others

variable {other : ℕ} {otherUser : Int} {otherRoom : JoinableRoom} {otherAssigned : List Int}

theorem Awaits.of_create (h : Awaits rooms rows other otherUser otherRoom otherAssigned)
    (hother : other ≠ id) {row : JoinedRow} (hrow : row.createdBy = id) :
    Awaits rooms (rows ++ [row]) other otherUser otherRoom otherAssigned where
  drawn := h.drawn
  created := by
    obtain ⟨created, hmem, hcreated⟩ := h.created
    exact ⟨created, List.mem_append_left _ hmem, hcreated⟩
  only := by
    intro r hr hid hincomplete
    rcases List.mem_append.mp hr with hold | hnew
    · exact h.only r hold hid hincomplete
    · rw [List.mem_singleton.mp hnew, hrow] at hid
      exact absurd hid.symm hother

theorem Awaits.of_give (h : Awaits rooms rows other otherUser otherRoom otherAssigned)
    (hid : Awaits rooms rows id user room assigned) (hnodup : KeysNodup rows)
    (hother : other ≠ id) :
    Awaits rooms (rows.map (giveQuestions id (room.id, user) assigned)) other otherUser
      otherRoom otherAssigned where
  drawn := h.drawn
  created := by
    obtain ⟨created, hmem, hkey, hcreated, hempty⟩ := h.created
    refine ⟨created, List.mem_map.mpr ⟨created, hmem, ?_⟩, hkey, hcreated, hempty⟩
    exact hid.give_of_ne hnodup hmem (by rwa [hcreated])
  only := by
    intro given hgiven hcreated hincomplete
    obtain ⟨row, hrow, rfl⟩ := List.mem_map.mp hgiven
    rw [giveQuestions_createdBy] at hcreated
    rw [hid.give_of_ne hnodup hrow (by rwa [hcreated])] at hincomplete ⊢
    exact h.only row hrow hcreated hincomplete

theorem unfinished_of_create (hother : other ≠ id) {row : JoinedRow} (hrow : row.createdBy = id)
    (h : Unfinished rooms (rows ++ [row]) other) : Unfinished rooms rows other := by
  obtain ⟨r, hr, hcreated, hincomplete⟩ := h
  rcases List.mem_append.mp hr with hold | hnew
  · exact ⟨r, hold, hcreated, hincomplete⟩
  · rw [List.mem_singleton.mp hnew, hrow] at hcreated
    exact absurd hcreated.symm hother

theorem unfinished_of_give (hid : Awaits rooms rows id user room assigned)
    (hnodup : KeysNodup rows) (hother : other ≠ id)
    (h : Unfinished rooms (rows.map (giveQuestions id (room.id, user) assigned)) other) :
    Unfinished rooms rows other := by
  obtain ⟨given, hgiven, hcreated, hincomplete⟩ := h
  obtain ⟨row, hrow, rfl⟩ := List.mem_map.mp hgiven
  rw [giveQuestions_createdBy] at hcreated
  rw [hid.give_of_ne hnodup hrow (by rwa [hcreated])] at hincomplete
  exact ⟨row, hrow, hcreated, hincomplete⟩

end Others

end Rows

/-! ## One statement -/

section Statement

variable {rooms : List JoinableRoom} {rows : List JoinedRow} {id : ℕ}

def JoinHolds (rooms : List JoinableRoom) (rows : List JoinedRow) (id : ℕ) :
    JoinThread → Prop
  | (_, .findParticipant room) | (_, .checkJoined room) | (_, .readQuestions room) =>
      room ∈ rooms
  | (_, .create room assigned) => Drawn rooms room assigned
  | (request, .assign room assigned) => Awaits rooms rows id request.user room assigned
  | _ => True

def GivesQuestions (thread : JoinThread) : Prop :=
  ∃ room assigned, thread.2 = .assign room assigned

/-- The statement that gives a new participant its questions does not fail. -/
def QuestionsGiven (_ : List JoinedRow) (thread : JoinThread) (input : JoinInput) : Prop :=
  ∀ room assigned, thread.2 = .assign room assigned → assigned ≠ [] → input ≠ .fails

/-- What a statement does: it fails, it leaves the rows alone, it creates the participant,
or it gives the questions. -/
inductive JoinEffect (rooms : List JoinableRoom) (rows : List JoinedRow) (id : ℕ) :
    JoinThread → JoinInput → List JoinedRow → Option JoinThread → Prop where
  | failed (thread : JoinThread) : JoinEffect rooms rows id thread .fails rows none
  | kept (thread : JoinThread) (input : JoinInput) (next : Option JoinThread)
      (hpoint : ¬ GivesQuestions thread)
      (hnext : ∀ u ∈ next, JoinHolds rooms rows id u) :
      JoinEffect rooms rows id thread input rows next
  | created (request : JoinRequest) (room : JoinableRoom) (assigned : List Int)
      (input : JoinInput) (hdrawn : Drawn rooms room assigned)
      (hnew : (room.id, request.user) ∉ rows.map JoinedRow.key) :
      JoinEffect rooms rows id (request, .create room assigned) input
        (rows ++ [⟨room.id, request.user, false, [], id⟩])
        (some (request, .assign room assigned))
  | gave (request : JoinRequest) (room : JoinableRoom) (assigned : List Int)
      (input : JoinInput) (hawaits : Awaits rooms rows id request.user room assigned) :
      JoinEffect rooms rows id (request, .assign room assigned) input
        (rows.map (giveQuestions id (room.id, request.user) assigned))
        (some (request, .markPresent))

theorem joinEffect [RandomSample] (thread : JoinThread) (input : JoinInput)
    (h : JoinHolds rooms rows id thread) :
    JoinEffect rooms rows id thread input (joinAct rooms rows id thread input).1
      (joinAct rooms rows id thread input).2 := by
  obtain ⟨request, point⟩ := thread
  cases input with
  | fails => exact .failed _
  | proceeds now draw =>
      cases point with
      | findRoom =>
          refine .kept _ _ _ (by simp [GivesQuestions]) ?_
          intro u hu
          simp only [joinAct, joinStatement, Option.map_map, Option.mem_def,
            Option.map_eq_some_iff] at hu
          obtain ⟨room, hroom, rfl⟩ := hu
          exact List.mem_of_find?_eq_some hroom
      | findParticipant room =>
          simp only [joinAct, joinStatement]
          cases joined? rows (room.id, request.user) with
          | some participant =>
              refine .kept _ _ _ (by simp [GivesQuestions]) ?_
              simp only
              split <;> simp [JoinHolds]
          | none =>
              refine .kept _ _ _ (by simp [GivesQuestions]) ?_
              simp only
              split
              · simp
              · rintro u ⟨⟩
                exact h
      | checkJoined room =>
          refine .kept _ _ _ (by simp [GivesQuestions]) ?_
          simp only [joinAct, joinStatement]
          split
          · simp
          · rintro u ⟨⟩
            exact h
      | readQuestions room =>
          refine .kept _ _ _ (by simp [GivesQuestions]) ?_
          simp only [joinAct, joinStatement]
          split
          · simp
          next henough =>
            rw [not_or] at henough
            rintro u ⟨⟩
            exact drawn_sample h draw henough.1 henough.2
      | create room assigned =>
          simp only [joinAct, joinStatement]
          split
          next => exact .kept _ _ _ (by simp [GivesQuestions]) (by simp)
          next hfree =>
            rw [Bool.not_eq_true, joined?_isNone_iff] at hfree
            exact .created request room assigned _ h hfree
      | assign room assigned => exact .gave request room assigned _ h
      | markPresent | recordEvent | readAnswer =>
          refine .kept _ _ _ (by simp [GivesQuestions]) ?_
          simp [joinAct, joinStatement, JoinHolds]

theorem JoinEffect.self {thread : JoinThread} {input : JoinInput} {after : List JoinedRow}
    {next : Option JoinThread} (heffect : JoinEffect rooms rows id thread input after next)
    (hnodup : KeysNodup rows) (hholds : JoinHolds rooms rows id thread)
    (howes : Unfinished rooms rows id → GivesQuestions thread)
    (hallowed : QuestionsGiven rows thread input) :
    KeysNodup after ∧ (∀ u ∈ next, JoinHolds rooms after id u) ∧
      (Unfinished rooms after id → ∃ u ∈ next, GivesQuestions u) := by
  cases heffect with
  | failed =>
      refine ⟨hnodup, by simp, fun hunfinished => ?_⟩
      obtain ⟨room, assigned, hpoint⟩ := howes hunfinished
      obtain ⟨request, point⟩ := thread
      obtain rfl : point = .assign room assigned := hpoint
      have hawaits : Awaits rooms rows id request.user room assigned := hholds
      have hnil : assigned = [] := by
        by_contra hne
        exact hallowed room assigned rfl hne rfl
      exact absurd hunfinished (hawaits.finished_of_nil hnodup hnil)
  | kept _ _ _ hpoint hnext =>
      exact ⟨hnodup, hnext, fun hunfinished => absurd (howes hunfinished) hpoint⟩
  | created request room assigned _ hdrawn hnew =>
      have hnone : ¬ Unfinished rooms rows id := by
        intro hunfinished
        obtain ⟨r, a, hpoint⟩ := howes hunfinished
        cases hpoint
      refine ⟨hnodup.append hnew, ?_, fun _ => ⟨_, rfl, room, assigned, rfl⟩⟩
      rintro u ⟨⟩
      exact awaits_create hdrawn hnone
  | gave request room assigned _ hawaits =>
      refine ⟨hnodup.give _, ?_, fun hunfinished => absurd hunfinished hawaits.finished⟩
      rintro u ⟨⟩
      trivial

theorem JoinHolds.of_awaits {other : ℕ} {after : List JoinedRow} {u : JoinThread}
    (h : JoinHolds rooms rows other u)
    (hawaits : ∀ user room assigned, Awaits rooms rows other user room assigned →
      Awaits rooms after other user room assigned) : JoinHolds rooms after other u := by
  obtain ⟨request, point⟩ := u
  cases point with
  | assign room assigned => exact hawaits _ _ _ h
  | _ => exact h

theorem JoinEffect.others {thread : JoinThread} {input : JoinInput} {after : List JoinedRow}
    {next : Option JoinThread} (heffect : JoinEffect rooms rows id thread input after next)
    (hnodup : KeysNodup rows) {other : ℕ} (hother : other ≠ id) :
    (∀ u, JoinHolds rooms rows other u → JoinHolds rooms after other u) ∧
      (Unfinished rooms after other → Unfinished rooms rows other) := by
  cases heffect with
  | failed => exact ⟨fun _ h => h, fun h => h⟩
  | kept => exact ⟨fun _ h => h, fun h => h⟩
  | created =>
      exact ⟨fun u h => h.of_awaits fun _ _ _ hawaits => hawaits.of_create hother rfl,
        unfinished_of_create hother rfl⟩
  | gave request room assigned _ hid =>
      exact ⟨fun u h => h.of_awaits fun _ _ _ hawaits => hawaits.of_give hid hnodup hother,
        unfinished_of_give hid hnodup hother⟩

theorem joinService_rules [RandomSample] : (joinService rooms).Rules QuestionsGiven KeysNodup
    (JoinHolds rooms) (Unfinished rooms) GivesQuestions where
  begin _ _ _ _ _ := trivial
  act _ _ thread input hnodup hholds howes hallowed :=
    (joinEffect thread input hholds).self hnodup hholds howes hallowed
  others _ _ thread input _ hnodup hholds _ _ hother :=
    (joinEffect thread input hholds).others hnodup hother

end Statement

/--
In every run of joins in which no statement fails that gives a new participant its
questions, every participant left behind when no join runs is complete, and a student has
at most one row for a room at any time.
-/
theorem joins_complete [RandomSample] (rooms : List JoinableRoom)
    (events : List (ServiceEvent JoinRequest JoinInput))
    (hgiven : ∀ p ∈ transitions (joinService rooms).step (.initial []) events,
      Service.Allowed QuestionsGiven p.1 p.2) :
    ∀ p ∈ transitions (joinService rooms).step (.initial []) events,
      (((joinService rooms).step p.1 p.2).Quiet →
        ∀ row ∈ ((joinService rooms).step p.1 p.2).shared, row.Complete rooms) ∧
      KeysNodup ((joinService rooms).step p.1 p.2).shared := by
  intro p hp
  obtain ⟨-, hafter⟩ := joinService_rules.run
    (Service.upheld_initial (by simp [KeysNodup]) (by simp [Unfinished])) hgiven p hp
  refine ⟨fun hquiet row hrow => ?_, hafter.shared⟩
  by_contra hincomplete
  exact hafter.not_owed hquiet row.createdBy ⟨row, hrow, rfl, hincomplete⟩

/-! ## A join that fails between its two statements -/

abbrev firstOnes : RandomSample where
  sample _ xs k := xs.take k
  length_sample _ xs k h := by rw [List.length_take, Nat.min_eq_left h]
  sample_subperm _ xs k _ := (List.take_sublist k xs).subperm

def quizRoom : JoinableRoom := ⟨1, "QUIZ", true, 100, 1, [5], by decide⟩

def createdJoin : List (ServiceEvent JoinRequest JoinInput) :=
  .start 0 ⟨3, some "QUIZ"⟩ :: List.replicate 5 (.act 0 (.proceeds 0 0))

def twoJoins : List (ServiceEvent JoinRequest JoinInput) :=
  createdJoin ++ [.start 1 ⟨4, some "QUIZ"⟩, .act 1 (.proceeds 0 0), .act 0 (.proceeds 0 0)]

theorem joins_complete_two_students :
    letI := firstOnes
    (twoJoins.foldl (joinService [quizRoom]).step (.initial [])).shared =
        [⟨1, 3, false, [(5, 0)], 0⟩] ∧
      ∀ p ∈ transitions (joinService [quizRoom]).step (.initial []) twoJoins,
        (((joinService [quizRoom]).step p.1 p.2).Quiet →
          ∀ row ∈ ((joinService [quizRoom]).step p.1 p.2).shared, row.Complete [quizRoom]) ∧
        KeysNodup ((joinService [quizRoom]).step p.1 p.2).shared := by
  let := firstOnes
  refine ⟨rfl, ?_⟩
  apply joins_complete
  intro p hp id input t heq hrunning room assigned hpoint hne hfails
  subst hfails
  have hevent := label_mem_of_mem_transitions _ hp
  rw [heq] at hevent
  simp [twoJoins, createdJoin] at hevent

theorem join_left_without_questions :
    letI := firstOnes
    ¬ ∀ (rooms : List JoinableRoom) (events : List (ServiceEvent JoinRequest JoinInput)),
      ∀ p ∈ transitions (joinService rooms).step (.initial []) events,
        ((joinService rooms).step p.1 p.2).Quiet →
          ∀ row ∈ ((joinService rooms).step p.1 p.2).shared, row.Complete rooms := by
  let := firstOnes
  intro h
  let events := createdJoin ++ [.act 0 .fails]
  let run := transitions (joinService [quizRoom]).step (.initial []) events
  have hlength : 6 < run.length := by simp [run, events, createdJoin]
  have hquiet : ((joinService [quizRoom]).step run[6].1 run[6].2).Quiet := by
    intro id t ht
    by_cases hid : id = 0
    · subst hid
      cases ht
    · rw [Service.idle_of_not_started _ rfl (by simp [events, createdJoin, hid]) run[6]
        (List.getElem_mem hlength)] at ht
      cases ht
  have hcomplete := h [quizRoom] events run[6] (List.getElem_mem hlength) hquiet
    ⟨1, 3, false, [], 0⟩ (List.mem_singleton_self _)
  obtain ⟨⟨room, -, hdrawn⟩, -⟩ := hcomplete
  have hlength := hdrawn.length_eq
  rw [List.mem_singleton.mp hdrawn.room_mem] at hlength
  simp [quizRoom] at hlength

end JudgeVortex.CoreApi
