import JudgeVortex.System.Management

/-!
# The code of a new room

`ExamRoom.save` of a room that has no key yet: the loop over the codes, with a savepoint
around each insertion.  The database is a parameter: it accepts a row or reports an
integrity error, whose text decides whether another code is tried.
-/

namespace JudgeVortex.System

open JudgeVortex.CoreApi JudgeVortex.Foundation JudgeVortex.Python

def codeSymbols : List Char := "ABCDEFGHIJKLMNOPQRSTUVWXYZ0123456789".toList

def generateRoomCode (choices : Fin 6 → Fin codeSymbols.length) : String :=
  .ofList (List.ofFn fun i => codeSymbols.get (choices i))

theorem generateRoomCode_ne_empty (choices : Fin 6 → Fin codeSymbols.length) :
    generateRoomCode choices ≠ "" := by
  intro h
  have hlength := congrArg (fun text => text.toList.length) h
  simp [generateRoomCode] at hlength

def NamesRoomCode (text : String) : Prop :=
  containsText "room_code".toList (lower text).toList = true

instance (text : String) : Decidable (NamesRoomCode text) :=
  inferInstanceAs (Decidable (_ = _))

/-- The rooms after a save, the row or the text of the error that it raises, and the codes
that it tried. -/
structure RoomSave where
  rooms : Table RoomRow RoomRow.id
  outcome : Except String RoomRow
  tried : List String

section Save

variable (draft : RoomRow) (integrityError : RoomRow → Option String)

def RoomSave.after (code : String) (rest : RoomSave) : RoomSave :=
  { rest with tried := code :: rest.tried }

/-- One insertion of the draft with this code, in a savepoint of its own; a refused one has
used up a key.  `retry` goes on with the error. -/
def insertRoom (rooms : Table RoomRow RoomRow.id) (code : String)
    (retry : Table RoomRow RoomRow.id → String → RoomSave) : RoomSave :=
  let make (id : Int) : RoomRow := { draft with id := id, roomCode := code }
  match integrityError (make rooms.next) with
  | none => ⟨rooms.insert make fun _ => rfl, .ok (make rooms.next), [code]⟩
  | some text =>
      if NamesRoomCode text then (retry rooms.skip text).after code
      else ⟨rooms.skip, .error text, [code]⟩

/-- The loop; `generated` are the codes that `generate_room_code` is going to return. -/
def saveAttempts : (attempts : ℕ) → (roomCode : String) → (generated : ℕ → String) →
    Table RoomRow RoomRow.id → (lastError : Option String) → RoomSave
  | 0, _, _, rooms, lastError =>
      ⟨rooms, .error (lastError.getD "Unable to generate a unique room code."), []⟩
  | attempts + 1, roomCode, generated, rooms, _ =>
      if roomCode = "" then
        insertRoom draft integrityError rooms (generated 0) fun rooms text =>
          saveAttempts attempts (generated 1) (fun n => generated (n + 2)) rooms (some text)
      else
        insertRoom draft integrityError rooms roomCode fun rooms text =>
          saveAttempts attempts (generated 0) (fun n => generated (n + 1)) rooms (some text)

def saveRoom (roomCode : String) (generated : ℕ → String) (rooms : Table RoomRow RoomRow.id) :
    RoomSave :=
  saveAttempts draft integrityError maxRoomCodeGenerationAttempts roomCode generated rooms none

/-! ## The loop over a list of codes -/

def tryCodes : List String → Table RoomRow RoomRow.id → (lastError : Option String) → RoomSave
  | [], rooms, lastError =>
      ⟨rooms, .error (lastError.getD "Unable to generate a unique room code."), []⟩
  | code :: codes, rooms, _ =>
      insertRoom draft integrityError rooms code fun rooms text => tryCodes codes rooms (some text)

/-- The codes in the order in which they are tried: the one that the room has, if it has one,
and then the generated ones. -/
def candidateCode (roomCode : String) (generated : ℕ → String) : ℕ → String
  | 0 => if roomCode = "" then generated 0 else roomCode
  | n + 1 => if roomCode = "" then generated (n + 1) else generated n

def candidateCodes (attempts : ℕ) (roomCode : String) (generated : ℕ → String) : List String :=
  (List.range attempts).map (candidateCode roomCode generated)

theorem candidateCodes_succ {generated : ℕ → String} (hgenerated : ∀ n, generated n ≠ "")
    (attempts : ℕ) (roomCode : String) :
    candidateCodes (attempts + 1) roomCode generated =
      if roomCode = "" then
        generated 0 :: candidateCodes attempts (generated 1) fun n => generated (n + 2)
      else roomCode :: candidateCodes attempts (generated 0) fun n => generated (n + 1) := by
  rw [candidateCodes, List.range_succ_eq_map, List.map_cons, List.map_map]
  by_cases hempty : roomCode = ""
  · rw [if_pos hempty, candidateCode, if_pos hempty]
    refine congrArg _ (List.map_congr_left fun n _ => ?_)
    cases n <;> simp [candidateCode, hempty, hgenerated]
  · rw [if_neg hempty, candidateCode, if_neg hempty]
    refine congrArg _ (List.map_congr_left fun n _ => ?_)
    cases n <;> simp [candidateCode, hempty, hgenerated]

theorem saveAttempts_eq_tryCodes {generated : ℕ → String}
    (hgenerated : ∀ n, generated n ≠ "") (attempts : ℕ) (roomCode : String)
    (rooms : Table RoomRow RoomRow.id) (lastError : Option String) :
    saveAttempts draft integrityError attempts roomCode generated rooms lastError =
      tryCodes draft integrityError (candidateCodes attempts roomCode generated) rooms
        lastError := by
  induction attempts generalizing roomCode generated rooms lastError with
  | zero => rfl
  | succ attempts ih =>
      rw [saveAttempts, candidateCodes_succ hgenerated]
      split
      · rw [tryCodes]
        exact congrArg _ (funext₂ fun rooms text => ih (fun n => hgenerated _) _ rooms (some text))
      · rw [tryCodes]
        exact congrArg _ (funext₂ fun rooms text => ih (fun n => hgenerated _) _ rooms (some text))

end Save

/-! ## Which code is stored -/

def Taken (rows : List RoomRow) (code : String) : Prop := ∃ other ∈ rows, other.roomCode = code

instance (rows : List RoomRow) (code : String) : Decidable (Taken rows code) :=
  inferInstanceAs (Decidable (∃ other ∈ rows, _))

/-- The database refuses a code that a room has, and what it says of another error does not
name the column. -/
structure RejectsDuplicates (integrityError : RoomRow → Option String) (rows : List RoomRow) :
    Prop where
  refused : ∀ row, Taken rows row.roomCode → integrityError row ≠ none
  named : ∀ row text, integrityError row = some text → NamesRoomCode text →
    Taken rows row.roomCode

section Exact

variable (draft : RoomRow) (integrityError : RoomRow → Option String)

def attemptRow (rooms : Table RoomRow RoomRow.id) (before : List String) (code : String) :
    RoomRow :=
  { draft with id := rooms.next + before.length, roomCode := code }

def ReportsOther (rooms : Table RoomRow RoomRow.id) (codes before : List String)
    (code text : String) : Prop :=
  (∃ after, codes = before ++ code :: after) ∧ (∀ other ∈ before, Taken rooms.rows other) ∧
    integrityError (attemptRow draft rooms before code) = some text ∧ ¬ NamesRoomCode text

/-- The save stores one row with the first unused code, or raises and stores nothing: it
raises exactly if all codes are taken or another error is reported. -/
structure SavesFirstUnused (rooms : Table RoomRow RoomRow.id) (codes : List String)
    (save : RoomSave) : Prop where
  stored : ∀ room, save.outcome = .ok room → ∃ before after,
    codes = before ++ room.roomCode :: after ∧ (∀ code ∈ before, Taken rooms.rows code) ∧
      ¬ Taken rooms.rows room.roomCode ∧ room = attemptRow draft rooms before room.roomCode ∧
      save.rooms.rows = rooms.rows ++ [room] ∧ save.tried = before ++ [room.roomCode]
  raised : ∀ text, save.outcome = .error text → save.rooms.rows = rooms.rows ∧
    ((∀ code ∈ codes, Taken rooms.rows code) ∧ save.tried = codes ∨
      ∃ before code, ReportsOther draft integrityError rooms codes before code text ∧
        save.tried = before ++ [code])
  raises : ((∀ code ∈ codes, Taken rooms.rows code) ∨
      ∃ before code text, ReportsOther draft integrityError rooms codes before code text) →
    ∃ text, save.outcome = .error text

variable {draft integrityError} {rooms : Table RoomRow RoomRow.id}

variable (draft integrityError) in
theorem insertRoom_cases (rooms : Table RoomRow RoomRow.id) (code : String)
    (retry : Table RoomRow RoomRow.id → String → RoomSave) :
    (integrityError (attemptRow draft rooms [] code) = none ∧
        insertRoom draft integrityError rooms code retry =
          ⟨rooms.insert (fun id => { draft with id := id, roomCode := code }) fun _ => rfl,
            .ok (attemptRow draft rooms [] code), [code]⟩) ∨
      ∃ text, integrityError (attemptRow draft rooms [] code) = some text ∧
        (¬ NamesRoomCode text ∧
            insertRoom draft integrityError rooms code retry =
              ⟨rooms.skip, .error text, [code]⟩ ∨
          NamesRoomCode text ∧
            insertRoom draft integrityError rooms code retry =
              (retry rooms.skip text).after code) := by
  have hrow : attemptRow draft rooms [] code =
      { draft with id := rooms.next, roomCode := code } := by
    rw [attemptRow, List.length_nil, Int.natCast_zero, Int.add_zero]
  rw [hrow, insertRoom]
  cases integrityError { draft with id := rooms.next, roomCode := code } with
  | none => exact .inl ⟨rfl, rfl⟩
  | some text =>
      refine .inr ⟨text, rfl, ?_⟩
      by_cases hnames : NamesRoomCode text
      · exact .inr ⟨hnames, if_pos hnames⟩
      · exact .inl ⟨hnames, if_neg hnames⟩

theorem attemptRow_cons (rooms : Table RoomRow RoomRow.id) (first : String)
    (before : List String) (code : String) :
    attemptRow draft rooms (first :: before) code = attemptRow draft rooms.skip before code := by
  rw [attemptRow, attemptRow, List.length_cons, Table.skip]
  congr 1
  push_cast
  omega

theorem reportsOther_cons_iff {first : String} {codes : List String}
    (hfirst : Taken rooms.rows first) (before : List String) (code text : String) :
    ReportsOther draft integrityError rooms (first :: codes) (first :: before) code text ↔
      ReportsOther draft integrityError rooms.skip codes before code text := by
  simp only [ReportsOther, attemptRow_cons, List.cons_append, List.cons.injEq, true_and,
    List.forall_mem_cons, hfirst]
  rfl

theorem SavesFirstUnused.after {first : String} {codes : List String} {save : RoomSave}
    (h : SavesFirstUnused draft integrityError rooms.skip codes save)
    (hfirst : Taken rooms.rows first) {refusal : String}
    (hrefused : integrityError (attemptRow draft rooms [] first) = some refusal)
    (hnames : NamesRoomCode refusal) :
    SavesFirstUnused draft integrityError rooms (first :: codes) (save.after first) where
  stored room hok := by
    obtain ⟨before, after, rfl, hbefore, hunused, hroom, hrows, htried⟩ := h.stored room hok
    refine ⟨first :: before, after, rfl, List.forall_mem_cons.mpr ⟨hfirst, hbefore⟩, hunused,
      by rwa [attemptRow_cons], hrows, ?_⟩
    rw [RoomSave.after, htried, List.cons_append]
  raised text herror := by
    obtain ⟨hrows, hwhy⟩ := h.raised text herror
    refine ⟨hrows, ?_⟩
    rcases hwhy with ⟨hall, htried⟩ | ⟨before, code, hother, htried⟩
    · exact .inl ⟨List.forall_mem_cons.mpr ⟨hfirst, hall⟩, by rw [RoomSave.after, htried]⟩
    · exact .inr ⟨first :: before, code, (reportsOther_cons_iff hfirst _ _ _).mpr hother, by
        rw [RoomSave.after, htried, List.cons_append]⟩
  raises hwhy := by
    apply h.raises
    rcases hwhy with hall | ⟨before, code, text, hother⟩
    · exact .inl (List.forall_mem_cons.mp hall).2
    right
    cases before with
    | nil =>
        -- The first attempt reports an error that names the column.
        obtain ⟨⟨after, hcodes⟩, -, herror, hnot⟩ := hother
        obtain rfl : first = code := (List.cons.inj hcodes).1
        rw [hrefused] at herror
        cases herror
        exact absurd hnames hnot
    | cons other before =>
        obtain ⟨after, hcodes⟩ := hother.1
        obtain rfl : first = other := (List.cons.inj hcodes).1
        exact ⟨before, code, text, (reportsOther_cons_iff hfirst _ _ _).mp hother⟩

theorem savesFirstUnused_accepted {first : String} {codes : List String}
    (hunused : ¬ Taken rooms.rows first)
    (haccepted : integrityError (attemptRow draft rooms [] first) = none) :
    SavesFirstUnused draft integrityError rooms (first :: codes)
      ⟨rooms.insert (fun id => { draft with id := id, roomCode := first }) fun _ => rfl,
        .ok (attemptRow draft rooms [] first), [first]⟩ where
  stored room hok := by
    obtain rfl := Except.ok.inj hok
    refine ⟨[], codes, rfl, by simp, hunused, rfl, ?_, rfl⟩
    simp [Table.insert, attemptRow]
  raised := nofun
  raises hwhy := by
    rcases hwhy with hall | ⟨before, code, text, ⟨after, hcodes⟩, hbefore, herror, hnot⟩
    · exact absurd (hall first (.head _)) hunused
    · cases before with
      | nil =>
          obtain rfl : first = code := (List.cons.inj hcodes).1
          rw [haccepted] at herror
          cases herror
      | cons other before =>
          obtain rfl : first = other := (List.cons.inj hcodes).1
          exact absurd (hbefore first (.head _)) hunused

theorem savesFirstUnused_other {first text : String} {codes : List String}
    (hrefused : integrityError (attemptRow draft rooms [] first) = some text)
    (hnot : ¬ NamesRoomCode text) :
    SavesFirstUnused draft integrityError rooms (first :: codes)
      ⟨rooms.skip, .error text, [first]⟩ where
  stored := nofun
  raised _ herror := by
    obtain rfl := Except.error.inj herror
    exact ⟨rfl, .inr ⟨[], first, ⟨⟨codes, rfl⟩, by simp, hrefused, hnot⟩, rfl⟩⟩
  raises _ := ⟨text, rfl⟩

theorem savesFirstUnused_tryCodes (hdb : RejectsDuplicates integrityError rooms.rows)
    (codes : List String) (lastError : Option String) :
    SavesFirstUnused draft integrityError rooms codes
      (tryCodes draft integrityError codes rooms lastError) := by
  induction codes generalizing rooms lastError with
  | nil => exact ⟨nofun, fun text _ => ⟨rfl, .inl ⟨by simp, rfl⟩⟩, fun _ => ⟨_, rfl⟩⟩
  | cons first codes ih =>
      rw [tryCodes]
      obtain ⟨haccepted, hsave⟩ | ⟨text, hrefused, ⟨hnot, hsave⟩ | ⟨hnames, hsave⟩⟩ :=
        insertRoom_cases draft integrityError rooms first fun rooms text =>
          tryCodes draft integrityError codes rooms (some text)
      · rw [hsave]
        exact savesFirstUnused_accepted (fun htaken => hdb.refused _ htaken haccepted) haccepted
      · rw [hsave]
        exact savesFirstUnused_other hrefused hnot
      · have hskipped : RejectsDuplicates integrityError rooms.skip.rows := hdb
        have hrest := ih hskipped (some text)
        rw [hsave]
        exact hrest.after (hdb.named _ text hrefused hnames) hrefused hnames

theorem SavesFirstUnused.nodup {codes : List String} {save : RoomSave}
    (h : SavesFirstUnused draft integrityError rooms codes save)
    (hrooms : (rooms.rows.map RoomRow.roomCode).Nodup) :
    (save.rooms.rows.map RoomRow.roomCode).Nodup := by
  cases hsave : save.outcome with
  | error text => rwa [(h.raised text hsave).1]
  | ok room =>
      obtain ⟨-, -, -, -, hunused, -, hrows, -⟩ := h.stored room hsave
      rw [hrows, List.map_append, List.map_singleton, List.nodup_append]
      refine ⟨hrooms, List.nodup_singleton _, fun code hcode other hother heq => hunused ?_⟩
      obtain ⟨row, hrow, rfl⟩ := List.mem_map.mp hcode
      exact ⟨row, hrow, heq.trans (List.mem_singleton.mp hother)⟩

theorem room_code_exact (hdb : RejectsDuplicates integrityError rooms.rows) (roomCode : String)
    (choices : ℕ → Fin 6 → Fin codeSymbols.length) :
    let generated := fun n => generateRoomCode (choices n)
    let save := saveRoom draft integrityError roomCode generated rooms
    SavesFirstUnused draft integrityError rooms
        (candidateCodes maxRoomCodeGenerationAttempts roomCode generated) save ∧
      ((rooms.rows.map RoomRow.roomCode).Nodup → (save.rooms.rows.map RoomRow.roomCode).Nodup) := by
  intro generated save
  have hexact : SavesFirstUnused draft integrityError rooms
      (candidateCodes maxRoomCodeGenerationAttempts roomCode generated) save := by
    change SavesFirstUnused _ _ _ _ (saveAttempts ..)
    rw [saveAttempts_eq_tryCodes draft integrityError
      (fun n => generateRoomCode_ne_empty (choices n))]
    exact savesFirstUnused_tryCodes hdb _ none
  exact ⟨hexact, hexact.nodup⟩

end Exact

/-! ## A database with no other errors -/

def duplicateCode (rows : List RoomRow) (row : RoomRow) : Option String :=
  if Taken rows row.roomCode then some "UNIQUE constraint failed: core_api_examroom.room_code"
  else none

theorem rejectsDuplicates_duplicateCode (rows : List RoomRow) :
    RejectsDuplicates (duplicateCode rows) rows where
  refused row htaken := by
    rw [duplicateCode, if_pos htaken]
    exact nofun
  named row text htext _ := by
    unfold duplicateCode at htext
    split at htext
    next htaken => exact htaken
    next => cases htext

theorem insertRoom_duplicateCode (draft : RoomRow) (rows : List RoomRow)
    (rooms : Table RoomRow RoomRow.id) (code : String)
    (retry : Table RoomRow RoomRow.id → String → RoomSave) :
    insertRoom draft (duplicateCode rows) rooms code retry =
      if Taken rows code then
        (retry rooms.skip "UNIQUE constraint failed: core_api_examroom.room_code").after code
      else
        ⟨rooms.insert (fun id => { draft with id := id, roomCode := code }) fun _ => rfl,
          .ok { draft with id := rooms.next, roomCode := code }, [code]⟩ := by
  unfold insertRoom duplicateCode
  by_cases htaken : Taken rows code
  · simp only [if_pos htaken]
    exact if_pos (by decide)
  · simp only [if_neg htaken]

/-- The creation of a room by a teacher is this save. -/
theorem saveNewRoom_eq_saveAttempts {env : ManagementEnv} (hcodes : ∀ n, env.codes n ≠ "")
    (draft : RoomRow) (attempts draw : ℕ) (db : ExamTables) (lastError : Option String) :
    saveNewRoom env draft attempts draw db =
      (fun save : RoomSave => ({ db with rooms := save.rooms }, save.outcome.toOption))
        (saveAttempts draft (duplicateCode db.rooms.rows) attempts (env.codes draw)
          (fun n => env.codes (draw + 1 + n)) db.rooms lastError) := by
  induction attempts generalizing draw db lastError with
  | zero => rfl
  | succ attempts ih =>
      rw [saveNewRoom, saveAttempts, if_neg (hcodes draw), insertRoom_duplicateCode]
      by_cases htaken : Taken db.rooms.rows (env.codes draw)
      · have hgenerated : (fun n => env.codes (draw + 1 + (n + 1))) =
            fun n => env.codes (draw + 1 + 1 + n) :=
          funext fun n => congrArg env.codes (by omega)
        rw [if_pos htaken, hgenerated]
        exact (if_pos htaken).trans (ih (draw + 1) { db with rooms := db.rooms.skip } _)
      · rw [if_neg htaken]
        exact if_neg htaken

def takenRooms : Table RoomRow RoomRow.id :=
  .insert .empty (fun id => ⟨id, 2, "AAAAAA", "Existing Room", none, 9, 1, 0⟩) fun _ => rfl

theorem room_code_exact_second :
    let draft : RoomRow := ⟨0, 2, "", "New Room", none, 9, 1, 0⟩
    let generated := fun _ : ℕ => generateRoomCode fun _ => ⟨1, by decide⟩
    let save := saveRoom draft (duplicateCode takenRooms.rows) "AAAAAA" generated takenRooms
    (save.rooms.rows.map RoomRow.roomCode, save.tried) =
        (["AAAAAA", "BBBBBB"], ["AAAAAA", "BBBBBB"]) ∧
      SavesFirstUnused draft (duplicateCode takenRooms.rows) takenRooms
        (candidateCodes maxRoomCodeGenerationAttempts "AAAAAA" generated) save :=
  ⟨by decide, (room_code_exact (rejectsDuplicates_duplicateCode _) "AAAAAA"
    fun _ _ => ⟨1, by decide⟩).1⟩

end JudgeVortex.System
