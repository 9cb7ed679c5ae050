import JudgeVortex.Foundation.InsertionMap
import JudgeVortex.System.Isolation
import Mathlib

/-!
# The leaderboard of a room

`fetchSubmissions` of `teacher-dashboard.html`: one pass over the submissions of a room that
fills the figures of each student, and the sorted rows.  Marks are 32-bit integers, so that
the numbers of the page are exact.
-/

namespace JudgeVortex.Templates

open JudgeVortex.CoreApi JudgeVortex.Foundation JudgeVortex.Python JudgeVortex.System

/-- What the page reads of an entry of the response; a field that is absent or `null` is
none. -/
structure SubmissionEntry where
  id : Option Int
  studentName : Option String
  username : Option String
  userUsername : Option String
  studentId : Option Int
  questionId : Option Int
  question : Option Int
  status : Option String
  totalScore : Option Int
  score : Option Int
  marks : Option Int
  submittedAt : Option String
  createdAt : Option String

def textField (fields : Dict) (key : String) : Option String :=
  match field? fields key with
  | some (.str text) => some text
  | _ => none

def numberField (fields : Dict) (key : String) : Option Int :=
  match field? fields key with
  | some (.int n) => some n
  | _ => none

def readEntry (fields : Dict) : SubmissionEntry where
  id := numberField fields "id"
  studentName := textField fields "student_name"
  username := textField fields "username"
  userUsername :=
    match field? fields "user" with
    | some (.obj user) => textField user "username"
    | _ => none
  studentId := numberField fields "student_id"
  questionId := numberField fields "question_id"
  question := numberField fields "question"
  status := textField fields "status"
  totalScore := numberField fields "total_score"
  score := numberField fields "score"
  marks := numberField fields "marks"
  submittedAt := textField fields "submitted_at"
  createdAt := textField fields "created_at"

/-- Functions of the browser; `getTime` is that of `new Date(text)`, absent for `NaN`. -/
structure BrowserText where
  toUpperCase : String → String
  getTime : String → Option Int

def truthyNumber (n : Option Int) : Option Int := n.filter fun n => n ≠ 0

def truthyText (text : Option String) : Option String := text.filter fun text => text ≠ ""

namespace SubmissionEntry

variable (js : BrowserText) (sub : SubmissionEntry)

def name : String :=
  (((truthyText sub.studentName).or (truthyText sub.username)).or
    (truthyText sub.userUsername)).getD "Unknown Student"

def studentKey : String := (truthyNumber sub.studentId).elim sub.name toString

def questionNumber : Option Int := (truthyNumber sub.questionId).or (truthyNumber sub.question)

def statusRaw : String := js.toUpperCase ((truthyText sub.status).getD "PENDING")

def earnedScore : Int :=
  (((truthyNumber sub.totalScore).or (truthyNumber sub.score)).or (truthyNumber sub.marks)).getD 0

def solvedQuestion : Option Int :=
  if sub.statusRaw js ∈ ["PASSED", "ACCEPTED"] then sub.questionNumber else none

def normalizeQuestionLookupKey : String :=
  match sub.questionNumber with
  | some question => "question-" ++ toString question
  | none => "submission-" ++ sub.id.elim "undefined" toString

def time : Option Int :=
  match (truthyText sub.submittedAt).or (truthyText sub.createdAt) with
  | some text => js.getTime text
  | none => some 0

/-- `subTime >= previousSubTime`, which `NaN` is not. -/
def NotBefore (previous : SubmissionEntry) : Prop :=
  ∃ time ∈ sub.time js, ∃ previousTime ∈ previous.time js, previousTime ≤ time

instance (previous : SubmissionEntry) : Decidable (sub.NotBefore js previous) :=
  inferInstanceAs (Decidable (∃ time ∈ sub.time js, ∃ previousTime ∈ previous.time js, _))

end SubmissionEntry

/-! ## The figures of a student -/

structure StudentStats where
  studentKey : String
  name : String
  solvedQuestions : InsertionMap Int Unit
  questionScores : InsertionMap Int Int
  questionAttempts : InsertionMap String ℕ
  questionLatestSubmissions : InsertionMap String SubmissionEntry
  latestTime : Int
  latestStatus : String
  latestSubmission : Option SubmissionEntry

def StudentStats.fresh (sub : SubmissionEntry) : StudentStats where
  studentKey := sub.studentKey
  name := sub.name
  solvedQuestions := .empty
  questionScores := .empty
  questionAttempts := .empty
  questionLatestSubmissions := .empty
  latestTime := 0
  latestStatus := "PENDING"
  latestSubmission := none

namespace StudentStats

variable (js : BrowserText)

def addScore (stats : StudentStats) (sub : SubmissionEntry) : StudentStats :=
  match sub.solvedQuestion js with
  | none => stats
  | some question =>
      { stats with
        solvedQuestions := stats.solvedQuestions.set question ()
        questionScores := stats.questionScores.set question
          (max ((stats.questionScores.get? question).getD 0) sub.earnedScore) }

def addAttempt (stats : StudentStats) (sub : SubmissionEntry) : StudentStats :=
  let key := sub.normalizeQuestionLookupKey
  let stats := { stats with
    questionAttempts :=
      stats.questionAttempts.set key ((stats.questionAttempts.get? key).getD 0 + 1) }
  if ∀ previous ∈ stats.questionLatestSubmissions.get? key, sub.NotBefore js previous then
    { stats with
      questionLatestSubmissions := stats.questionLatestSubmissions.set key sub }
  else stats

def addLatest (stats : StudentStats) (sub : SubmissionEntry) : StudentStats :=
  match sub.time js with
  | none => stats
  | some time =>
      if stats.latestTime < time then
        { stats with
          latestTime := time
          latestStatus := sub.statusRaw js
          latestSubmission := some sub }
      else stats

def add (stats : StudentStats) (sub : SubmissionEntry) : StudentStats :=
  ((stats.addScore js sub).addAttempt js sub).addLatest js sub

end StudentStats

def studentStats (js : BrowserText) (submissions : List SubmissionEntry) :
    InsertionMap String StudentStats :=
  submissions.foldl
    (.update SubmissionEntry.studentKey fun stats sub => (stats.getD (.fresh sub)).add js sub)
    .empty

/-! ## The rows -/

structure LeaderboardRow extends StudentStats where
  questionsSolved : ℕ
  totalScore : Int

def StudentStats.row (stats : StudentStats) : LeaderboardRow :=
  { stats with
    questionsSolved := stats.solvedQuestions.keys.length
    totalScore := stats.questionScores.values.foldl (· + ·) 0 }

def LeaderboardRow.Ranks (a b : LeaderboardRow) : Prop :=
  b.questionsSolved < a.questionsSolved ∨
    a.questionsSolved = b.questionsSolved ∧ b.totalScore ≤ a.totalScore

instance : DecidableRel LeaderboardRow.Ranks :=
  fun _ _ => inferInstanceAs (Decidable (_ < _ ∨ _ = _ ∧ _ ≤ _))

def arrayIndex? (key : String) : Option ℕ :=
  key.toNat?.filter fun n => toString n = key ∧ n < 4294967295

/-- `Object.values`: array indices come first, in ascending order. -/
def objectValues {α : Type} (properties : InsertionMap String α) : List α :=
  let indexed := properties.entries.filter fun entry => (arrayIndex? entry.1).isSome
  let named := properties.entries.filter fun entry => ! (arrayIndex? entry.1).isSome
  ((indexed.insertionSort fun a b =>
    (arrayIndex? a.1).getD 0 ≤ (arrayIndex? b.1).getD 0) ++ named).map Prod.snd

/-- The names under which every object has a value. -/
def objectPrototypeNames : List String :=
  ["constructor", "__defineGetter__", "__defineSetter__", "hasOwnProperty", "__lookupGetter__",
    "__lookupSetter__", "isPrototypeOf", "propertyIsEnumerable", "toString", "valueOf",
    "__proto__", "toLocaleString"]

/-- The sorted rows.  A student key that every object has raises a `TypeError`. -/
def leaderboard (js : BrowserText) (submissions : List SubmissionEntry) :
    Option (List LeaderboardRow) :=
  if ∃ sub ∈ submissions, sub.studentKey ∈ objectPrototypeNames then none
  else some (((objectValues (studentStats js submissions)).map StudentStats.row).insertionSort
    LeaderboardRow.Ranks)

/-! ## What the pass keeps of one student -/

namespace StudentStats

variable (js : BrowserText)

def scores (submissions : List SubmissionEntry) : List (Int × Int) :=
  submissions.filterMap fun sub =>
    (sub.solvedQuestion js).map fun question => (question, sub.earnedScore)

def keepScore (held : Option Int) (score : Int × Int) : Int := max (held.getD 0) score.2

theorem add_spec (stats : StudentStats) (sub : SubmissionEntry) :
    (stats.add js sub).studentKey = stats.studentKey ∧
      (stats.add js sub).solvedQuestions = (stats.addScore js sub).solvedQuestions ∧
      (stats.add js sub).questionScores = (stats.addScore js sub).questionScores := by
  have hattempt : ∀ stats : StudentStats,
      (stats.addAttempt js sub).studentKey = stats.studentKey ∧
        (stats.addAttempt js sub).solvedQuestions = stats.solvedQuestions ∧
        (stats.addAttempt js sub).questionScores = stats.questionScores := by
    intro stats
    unfold addAttempt
    dsimp only
    split <;> exact ⟨rfl, rfl, rfl⟩
  have hlatest : ∀ stats : StudentStats,
      (stats.addLatest js sub).studentKey = stats.studentKey ∧
        (stats.addLatest js sub).solvedQuestions = stats.solvedQuestions ∧
        (stats.addLatest js sub).questionScores = stats.questionScores := by
    intro stats
    unfold addLatest
    split
    next => exact ⟨rfl, rfl, rfl⟩
    next => split <;> exact ⟨rfl, rfl, rfl⟩
  have hkey : (stats.addScore js sub).studentKey = stats.studentKey := by
    unfold addScore
    split <;> rfl
  obtain ⟨hkey₁, hsolved₁, hscores₁⟩ := hattempt (stats.addScore js sub)
  obtain ⟨hkey₂, hsolved₂, hscores₂⟩ := hlatest ((stats.addScore js sub).addAttempt js sub)
  exact ⟨hkey₂.trans (hkey₁.trans hkey), hsolved₂.trans hsolved₁, hscores₂.trans hscores₁⟩

theorem studentKey_foldl_add (stats : StudentStats) (submissions : List SubmissionEntry) :
    (submissions.foldl (add js) stats).studentKey = stats.studentKey := by
  induction submissions generalizing stats with
  | nil => rfl
  | cons sub submissions ih => rw [List.foldl_cons, ih, (add_spec js stats sub).1]

theorem scores_foldl_add (stats : StudentStats) (submissions : List SubmissionEntry) :
    (submissions.foldl (add js) stats).solvedQuestions =
        (scores js submissions).foldl (.update Prod.fst fun _ _ => ()) stats.solvedQuestions ∧
      (submissions.foldl (add js) stats).questionScores =
        (scores js submissions).foldl (.update Prod.fst keepScore) stats.questionScores := by
  induction submissions generalizing stats with
  | nil => exact ⟨rfl, rfl⟩
  | cons sub submissions ih =>
      obtain ⟨-, hsolved, hscores⟩ := add_spec js stats sub
      obtain ⟨hsolved', hscores'⟩ := ih (stats.add js sub)
      rw [List.foldl_cons, hsolved', hscores', hsolved, hscores, scores, scores, addScore]
      cases hquestion : sub.solvedQuestion js with
      | none =>
          rw [List.filterMap_cons_none (by rw [hquestion, Option.map_none])]
          exact ⟨rfl, rfl⟩
      | some question =>
          rw [List.filterMap_cons_some (by rw [hquestion, Option.map_some]), List.foldl_cons,
            List.foldl_cons]
          exact ⟨rfl, rfl⟩

end StudentStats

/-! ## The figures of a row -/

def solved (scores : List (Int × Int)) : Finset Int := (scores.map Prod.fst).toFinset

def best (scores : List (Int × Int)) (question : Int) : Int :=
  ((scores.filter fun score => score.1 = question).map Prod.snd).foldl max 0

theorem getD_foldl_keepScore (held : Option Int) (scores : List (Int × Int)) :
    (scores.foldl (fun held score => some (StudentStats.keepScore held score)) held).getD 0 =
      (scores.map Prod.snd).foldl max (held.getD 0) := by
  induction scores generalizing held with
  | nil => rfl
  | cons score scores ih =>
      rw [List.foldl_cons, ih, List.map_cons, List.foldl_cons]
      rfl

theorem figures_row (js : BrowserText) (first : SubmissionEntry) (group : List SubmissionEntry) :
    let row := (group.foldl (StudentStats.add js) (.fresh first)).row
    let scores := StudentStats.scores js group
    row.questionsSolved = (solved scores).card ∧
      row.totalScore = ∑ question ∈ solved scores, best scores question := by
  intro row scores
  obtain ⟨hsolved, hscores⟩ := StudentStats.scores_foldl_add js (.fresh first) group
  constructor
  · change (group.foldl (StudentStats.add js) (.fresh first)).solvedQuestions.keys.length = _
    rw [hsolved, InsertionMap.length_keys]
    exact congrArg Finset.card (InsertionMap.keys_foldl_update _ _ scores)
  · change (group.foldl (StudentStats.add js) (.fresh first)).questionScores.values.foldl
      (· + ·) 0 = _
    rw [hscores, ← List.sum_eq_foldl, InsertionMap.sum_values]
    refine Finset.sum_congr (InsertionMap.keys_foldl_update _ _ scores) fun question _ => ?_
    rw [InsertionMap.get?_foldl_update]
    exact getD_foldl_keepScore none _

/-! ## The board -/

section Board

variable (js : BrowserText) (submissions : List SubmissionEntry)

def ofStudent (key : String) : List SubmissionEntry :=
  submissions.filter fun sub => sub.studentKey = key

theorem get?_studentStats (key : String) :
    (studentStats js submissions).get? key =
      (ofStudent submissions key).head?.map fun first =>
        (ofStudent submissions key).foldl (StudentStats.add js) (.fresh first) := by
  rw [studentStats, InsertionMap.get?_foldl_update, ← ofStudent, InsertionMap.get?_empty]
  cases ofStudent submissions key with
  | nil => rfl
  | cons first rest =>
      rw [List.foldl_cons, InsertionMap.foldl_some]
      rfl

theorem studentKey_of_get? {key : String} {stats : StudentStats}
    (h : (studentStats js submissions).get? key = some stats) : stats.studentKey = key := by
  rw [get?_studentStats, Option.map_eq_some_iff] at h
  obtain ⟨first, hfirst, rfl⟩ := h
  rw [StudentStats.studentKey_foldl_add]
  have hmem := List.mem_filter.mp (List.mem_of_mem_head? hfirst)
  exact of_decide_eq_true hmem.2

theorem objectValues_perm {α : Type} (properties : InsertionMap String α) :
    (objectValues properties).Perm properties.values := by
  refine List.Perm.map Prod.snd (((List.perm_insertionSort _ _).append_right _).trans ?_)
  exact List.filter_append_perm _ _

instance : Std.Total LeaderboardRow.Ranks where
  total a b := by
    unfold LeaderboardRow.Ranks
    omega

instance : IsTrans LeaderboardRow LeaderboardRow.Ranks where
  trans a b c hab hbc := by
    unfold LeaderboardRow.Ranks at *
    omega

variable {submissions}

theorem leaderboard_eq (h : ∀ sub ∈ submissions, sub.studentKey ∉ objectPrototypeNames) :
    leaderboard js submissions =
      some (((objectValues (studentStats js submissions)).map StudentStats.row).insertionSort
        LeaderboardRow.Ranks) :=
  if_neg fun ⟨sub, hsub, hmem⟩ => h sub hsub hmem

variable {js} {board : List LeaderboardRow}

theorem leaderboard_spec (h : leaderboard js submissions = some board) :
    board.Pairwise LeaderboardRow.Ranks ∧
      board.Perm ((studentStats js submissions).values.map StudentStats.row) := by
  rw [leaderboard] at h
  split at h
  next => cases h
  next =>
    cases h
    exact ⟨List.pairwise_insertionSort _ _,
      (List.perm_insertionSort _ _).trans ((objectValues_perm _).map _)⟩

theorem keys_leaderboard (h : leaderboard js submissions = some board) :
    (board.map fun row => row.studentKey).Perm (studentStats js submissions).keys := by
  refine ((leaderboard_spec h).2.map _).trans (.of_eq ?_)
  rw [InsertionMap.values, InsertionMap.keys, List.map_map, List.map_map]
  exact List.map_congr_left fun entry hentry =>
    studentKey_of_get? js submissions (InsertionMap.mem_entries_iff.mp hentry)

theorem nodup_leaderboard (h : leaderboard js submissions = some board) :
    (board.map fun row => row.studentKey).Nodup :=
  (keys_leaderboard h).nodup_iff.mpr (InsertionMap.nodup _)

theorem find?_leaderboard (h : leaderboard js submissions = some board) (key : String) :
    (board.find? fun row => row.studentKey = key) =
      ((studentStats js submissions).get? key).map StudentStats.row := by
  cases hget : (studentStats js submissions).get? key with
  | none =>
      rw [Option.map_none, List.find?_eq_none]
      intro row hrow hkey
      have hmem := (keys_leaderboard h).subset (List.mem_map_of_mem hrow)
      exact InsertionMap.get?_eq_none_iff.mp hget (of_decide_eq_true hkey ▸ hmem)
  | some stats =>
      have hrow : stats.row ∈ board :=
        (leaderboard_spec h).2.symm.subset (List.mem_map_of_mem (List.mem_map.mpr
          ⟨_, InsertionMap.mem_entries_iff.mpr hget, rfl⟩))
      exact (find?_eq_some_iff_of_nodup (nodup_leaderboard h)).mpr
        ⟨hrow, studentKey_of_get? js submissions hget⟩

def figures (board : List LeaderboardRow) (student : Int) : ℕ × Int :=
  ((board.find? fun row => row.studentKey = toString student).map fun row =>
    (row.questionsSolved, row.totalScore)).getD (0, 0)

theorem figures_leaderboard (h : leaderboard js submissions = some board) (student : Int) :
    let scores := StudentStats.scores js (ofStudent submissions (toString student))
    figures board student =
      ((solved scores).card, ∑ question ∈ solved scores, best scores question) := by
  intro scores
  rw [figures, find?_leaderboard h, get?_studentStats]
  cases hgroup : ofStudent submissions (toString student) with
  | nil =>
      have hscores : scores = [] := congrArg (StudentStats.scores js) hgroup
      rw [hscores]
      rfl
  | cons first rest =>
      have hscores : scores = StudentStats.scores js (first :: rest) :=
        congrArg (StudentStats.scores js) hgroup
      obtain ⟨hsolved, htotal⟩ := figures_row js first (first :: rest)
      rw [hscores, ← hsolved, ← htotal]
      rfl

end Board

/-! ## The submissions of the server -/

def roomSubmissionEntry (env : ManagementEnv) (questionTitle : Int → Option String)
    (row : TimedSubmission) : SubmissionEntry :=
  match roomSubmissionData env (row.questionId.bind questionTitle) row with
  | .obj fields => readEntry fields
  | _ => readEntry []

def Counted (js : BrowserText) (student : Int) (row : TimedSubmission) : Prop :=
  row.userId = student ∧
    js.toUpperCase (if row.status = "" then "PENDING" else row.status) ∈ ["PASSED", "ACCEPTED"]

instance (js : BrowserText) (student : Int) (row : TimedSubmission) :
    Decidable (Counted js student row) :=
  inferInstanceAs (Decidable (_ ∧ _))

section Server

variable (js : BrowserText) (env : ManagementEnv) (questionTitle : Int → Option String)
variable (student : Int) (rows : List TimedSubmission)

def solvedBy : Finset Int :=
  ((rows.filter fun row => Counted js student row).filterMap fun row =>
    row.questionId.filter fun question => question ≠ 0).toFinset

def bestMark (question : Int) : Int :=
  ((rows.filter fun row => Counted js student row ∧ row.questionId = some question).map
    fun row => row.awardedMarks).foldl max 0

theorem toString_not_mem_prototype (n : Int) : toString n ∉ objectPrototypeNames := by
  have hsymbols : ∀ c ∈ (toString n).toList, c.isDigit ∨ c = '-' := by
    have hdigits : ∀ m : ℕ, ∀ c ∈ m.repr.toList, c.isDigit := by
      intro m c hc
      rw [Nat.toList_repr] at hc
      exact Nat.isDigit_of_mem_toDigits (by decide) (by decide) hc
    intro c hc
    cases n with
    | ofNat m => exact .inl (hdigits m c hc)
    | negSucc m =>
        change c ∈ ("-" ++ (m + 1).repr).toList at hc
        rw [String.toList_append, List.mem_append] at hc
        exact hc.symm.imp (hdigits _ c) (by simp)
  have hletters : ∀ name ∈ objectPrototypeNames, name.toList.any Char.isAlpha := by decide
  intro hmem
  obtain ⟨c, hc, hletter⟩ := List.any_eq_true.mp (hletters _ hmem)
  obtain hdigit | rfl := hsymbols c hc
  · grind [Char.isDigit, Char.isAlpha, Char.isUpper, Char.isLower]
  · exact absurd hletter (by decide)

variable {rows}

theorem studentKey_entry {row : TimedSubmission} (hid : row.userId ≠ 0) :
    (roomSubmissionEntry env questionTitle row).studentKey = toString row.userId := by
  have hread : (roomSubmissionEntry env questionTitle row).studentId = some row.userId := rfl
  rw [SubmissionEntry.studentKey, hread, truthyNumber, Option.filter_some_pos (by simpa using hid)]
  rfl

theorem solvedQuestion_entry (row : TimedSubmission) :
    (roomSubmissionEntry env questionTitle row).solvedQuestion js =
      if js.toUpperCase (if row.status = "" then "PENDING" else row.status) ∈
          ["PASSED", "ACCEPTED"] then
        row.questionId.filter fun question => question ≠ 0
      else none := by
  have hstatus : (roomSubmissionEntry env questionTitle row).statusRaw js =
      js.toUpperCase (if row.status = "" then "PENDING" else row.status) := by
    have hread : (roomSubmissionEntry env questionTitle row).status = some row.status := rfl
    rw [SubmissionEntry.statusRaw, hread, truthyText, Option.filter_some]
    congr 1
    by_cases hempty : row.status = "" <;> simp [hempty]
  have hquestion : (roomSubmissionEntry env questionTitle row).questionNumber =
      row.questionId.filter fun question => question ≠ 0 := by
    have hread : (roomSubmissionEntry env questionTitle row).questionId = row.questionId := by
      change numberField _ _ = _
      cases hid : row.questionId <;> simp [numberField, field?, countValue]
    have hother : (roomSubmissionEntry env questionTitle row).question = none := rfl
    rw [SubmissionEntry.questionNumber, hread, hother]
    exact Option.or_none
  rw [SubmissionEntry.solvedQuestion, hstatus, hquestion]

theorem earnedScore_entry (row : TimedSubmission) :
    (roomSubmissionEntry env questionTitle row).earnedScore = row.awardedMarks := by
  have hread : (roomSubmissionEntry env questionTitle row).totalScore = some row.awardedMarks :=
    rfl
  have hscore : (roomSubmissionEntry env questionTitle row).score = none := rfl
  have hmarks : (roomSubmissionEntry env questionTitle row).marks = none := rfl
  rw [SubmissionEntry.earnedScore, hread, hscore, hmarks, truthyNumber, Option.filter_some]
  by_cases hzero : row.awardedMarks = 0 <;> simp [hzero, truthyNumber]

theorem scores_ofStudent (hids : ∀ row ∈ rows, row.userId ≠ 0) :
    StudentStats.scores js
        (ofStudent (rows.map (roomSubmissionEntry env questionTitle)) (toString student)) =
      (rows.filter fun row => Counted js student row).filterMap fun row =>
        (row.questionId.filter fun question => question ≠ 0).map fun question =>
          (question, row.awardedMarks) := by
  rw [StudentStats.scores, ofStudent, List.filter_map, List.filterMap_map,
    List.filterMap_filter, List.filterMap_filter]
  refine List.filterMap_congr fun row hrow => ?_
  have hkey : (roomSubmissionEntry env questionTitle row).studentKey = toString student ↔
      row.userId = student := by
    rw [studentKey_entry env questionTitle (hids row hrow)]
    exact Int.repr_inj
  simp only [Function.comp_apply, hkey, solvedQuestion_entry, earnedScore_entry, Counted,
    decide_eq_true_eq]
  by_cases hstudent : row.userId = student
  · by_cases hstatus : js.toUpperCase (if row.status = "" then "PENDING" else row.status) ∈
        ["PASSED", "ACCEPTED"] <;> simp [hstudent, hstatus]
  · simp [hstudent]

theorem figures_eq (hids : ∀ row ∈ rows, row.userId ≠ 0) {board : List LeaderboardRow}
    (h : leaderboard js (rows.map (roomSubmissionEntry env questionTitle)) = some board) :
    figures board student =
      ((solvedBy js student rows).card,
        ∑ question ∈ solvedBy js student rows, bestMark js student rows question) := by
  have hscores := scores_ofStudent js env questionTitle student hids
  have hsolved : solved (StudentStats.scores js
      (ofStudent (rows.map (roomSubmissionEntry env questionTitle)) (toString student))) =
        solvedBy js student rows := by
    rw [hscores, solved, solvedBy, List.map_filterMap]
    congr 1
    refine List.filterMap_congr fun row _ => ?_
    rw [Option.map_map]
    exact Option.map_id'
  rw [figures_leaderboard h, hsolved]
  refine congrArg (Prod.mk _) (Finset.sum_congr rfl fun question hquestion => ?_)
  have hne : question ≠ 0 := by
    obtain ⟨row, -, hid⟩ := List.mem_filterMap.mp (List.mem_toFinset.mp hquestion)
    simpa using (Option.filter_eq_some_iff.mp hid).2
  rw [hscores, best, bestMark, List.filter_filterMap, List.map_filterMap, List.filterMap_filter,
    ← List.filterMap_eq_map, List.filterMap_filter]
  congr 1
  refine List.filterMap_congr fun row _ => ?_
  by_cases hcounted : Counted js student row
  · by_cases hid : row.questionId = some question
    · simp [hcounted, hid, hne]
    · rw [if_pos (by simpa using hcounted), if_neg (by simp [hid])]
      cases hrow : row.questionId with
      | none => rfl
      | some other =>
          have hother : other ≠ question := fun heq => hid (heq ▸ hrow)
          by_cases hzero : other = 0 <;> simp [hother, hzero]
  · simp [hcounted]

theorem students_leaderboard (hids : ∀ row ∈ rows, row.userId ≠ 0) {board : List LeaderboardRow}
    (h : leaderboard js (rows.map (roomSubmissionEntry env questionTitle)) = some board) :
    (board.map fun row => row.studentKey).Perm
      ((rows.map fun row => row.userId).dedup.map toString) := by
  have hinjective : Function.Injective (toString : Int → String) := fun _ _ => Int.repr_inj.mp
  have hnodup := (List.nodup_dedup (rows.map fun row => row.userId)).map hinjective
  refine (List.perm_ext_iff_of_nodup (nodup_leaderboard h) hnodup).mpr fun key => ?_
  rw [(keys_leaderboard h).mem_iff, studentStats, InsertionMap.mem_keys_foldl_update,
    InsertionMap.keys_empty, or_iff_right List.not_mem_nil, List.map_map, List.mem_map,
    List.mem_map]
  constructor
  · rintro ⟨row, hrow, rfl⟩
    exact ⟨row.userId, List.mem_dedup.mpr (List.mem_map_of_mem hrow),
      (studentKey_entry env questionTitle (hids row hrow)).symm⟩
  · rintro ⟨id, hid, rfl⟩
    obtain ⟨row, hrow, rfl⟩ := List.mem_map.mp (List.mem_dedup.mp hid)
    exact ⟨row, hrow, studentKey_entry env questionTitle (hids row hrow)⟩

/-- The figures depend on the submissions that count for the student, in any order. -/
theorem figures_congr {rows' : List TimedSubmission}
    (h : (rows.filter fun row => Counted js student row).Perm
      (rows'.filter fun row => Counted js student row)) :
    solvedBy js student rows = solvedBy js student rows' ∧
      bestMark js student rows = bestMark js student rows' := by
  constructor
  · exact List.toFinset_eq_of_perm _ _ (h.filterMap _)
  · funext question
    have hfilter : ∀ rows : List TimedSubmission,
        (rows.filter fun row => Counted js student row ∧ row.questionId = some question) =
          (rows.filter fun row => Counted js student row).filter
            fun row => row.questionId = some question := by
      intro rows
      rw [List.filter_filter]
      exact List.filter_congr fun row _ => by simp [and_comm]
    rw [bestMark, bestMark, hfilter, hfilter]
    exact ((h.filter _).map _).foldl_eq 0

variable (rows)

/-- The board shows, for each student, the number of questions that its counted submissions
solve and the sum of their best marks; a submission of another student or of another status
changes nothing, and the order of the submissions neither. -/
theorem leaderboard_counts_once (hids : ∀ row ∈ rows, row.userId ≠ 0) :
    ∃ board,
      leaderboard js (rows.map (roomSubmissionEntry env questionTitle)) = some board ∧
        (board.map fun row => row.studentKey).Perm
          ((rows.map fun row => row.userId).dedup.map toString) ∧
        (∀ student, figures board student =
          ((solvedBy js student rows).card,
            ∑ question ∈ solvedBy js student rows, bestMark js student rows question)) ∧
        board.Pairwise LeaderboardRow.Ranks ∧
        ∀ rows' : List TimedSubmission, (∀ row ∈ rows', row.userId ≠ 0) →
          ∀ board', leaderboard js (rows'.map (roomSubmissionEntry env questionTitle)) =
              some board' →
            ∀ student, (rows.filter fun row => Counted js student row).Perm
                (rows'.filter fun row => Counted js student row) →
              figures board' student = figures board student := by
  have hkeys : ∀ sub ∈ rows.map (roomSubmissionEntry env questionTitle),
      sub.studentKey ∉ objectPrototypeNames := by
    intro sub hsub
    obtain ⟨row, hrow, rfl⟩ := List.mem_map.mp hsub
    rw [studentKey_entry env questionTitle (hids row hrow)]
    exact toString_not_mem_prototype _
  have hboard := leaderboard_eq js hkeys
  refine ⟨_, hboard, students_leaderboard js env questionTitle hids hboard,
    fun student => figures_eq js env questionTitle student hids hboard,
    (leaderboard_spec hboard).1, ?_⟩
  intro rows' hids' board' hboard' student hperm
  obtain ⟨hsolved, hmarks⟩ := figures_congr js student hperm
  rw [figures_eq js env questionTitle student hids' hboard',
    figures_eq js env questionTitle student hids hboard, hsolved, hmarks]

end Server

def asciiText : BrowserText where
  toUpperCase text := .ofList (text.toList.map Char.toUpper)
  getTime _ := some 0

def classRow (id student question marks : Int) (status : String) : TimedSubmission where
  id := id
  userId := student
  roomId := some 1
  questionId := some question
  awardedMarks := marks
  passedTestcases := 0
  totalTestcases := 1
  output := none
  code := "print(1)"
  files := []
  entryFile := ""
  language := "python"
  status := status
  executionTimeMs := none
  submittedAt := 1

theorem leaderboard_counts_once_class :
    let rows := [classRow 1 1 7 3 "PASSED", classRow 2 2 7 5 "PASSED", classRow 3 1 8 4 "PASSED",
      classRow 4 1 7 5 "PASSED", classRow 5 1 9 0 "WRONG_ANSWER"]
    ∃ board,
      leaderboard asciiText
          (rows.map (roomSubmissionEntry (drawing fun _ => "AAAAAA") fun _ => none)) =
        some board ∧ figures board 1 = (2, 9) ∧ figures board 2 = (1, 5) := by
  intro rows
  obtain ⟨board, hboard, -, hfigures, -⟩ := leaderboard_counts_once asciiText
    (drawing fun _ => "AAAAAA") (fun _ => none) rows (by decide)
  refine ⟨board, hboard, (hfigures 1).trans ?_, (hfigures 2).trans ?_⟩
  · decide
  · decide

theorem leaderboard_counts_accepted :
    let rows := [classRow 1 1 7 5 "ACCEPTED"]
    ∃ board,
      leaderboard asciiText
          (rows.map (roomSubmissionEntry (drawing fun _ => "AAAAAA") fun _ => none)) =
        some board ∧ figures board 1 = (1, 5) ∧
      (rows.filter fun row => row.userId = 1 ∧ row.status = "PASSED") = [] := by
  intro rows
  have hkeys : ∀ sub ∈ rows.map
      (roomSubmissionEntry (drawing fun _ => "AAAAAA") fun _ => none),
      sub.studentKey ∉ objectPrototypeNames := by
    decide
  have hboard := leaderboard_eq asciiText hkeys
  refine ⟨_, hboard, ?_, by decide⟩
  rw [figures_eq asciiText _ _ 1 (by decide) hboard]
  decide

end JudgeVortex.Templates
