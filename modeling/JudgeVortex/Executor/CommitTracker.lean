import JudgeVortex.Foundation.Contiguous
import JudgeVortex.Foundation.Runs
import Mathlib.Logic.Function.Basic

/-!
# The offset tracker of one executor

`CommitTracker` of `executor_service/main.py`.  `mark_completed` holds the
tracker's lock across its commit, so calls are atomic with respect to each other
and one call is one function here.  What the broker answers to
`consumer.committed` and `consumer.commit` is an argument of the call.
-/

namespace JudgeVortex.Executor

open JudgeVortex.Foundation

structure TopicPartition where
  topic : String
  partition : Int
  deriving DecidableEq, Repr

/--
What becomes of one `consumer.commit`.  It may raise although the broker stored
the offset, when only the reply is lost.
-/
inductive CommitReply where
  | acknowledged
  | lost (error : String)
  | refused (error : String)
  deriving DecidableEq, Repr

def CommitReply.stored : CommitReply → Bool
  | .acknowledged | .lost _ => true
  | .refused _ => false

def CommitReply.result : CommitReply → Except String Unit
  | .acknowledged => .ok ()
  | .lost error | .refused error => .error error

structure BrokerReplies where
  committed : Except String (Option Int)
  commit : CommitReply

structure CommitTracker where
  nextCommitOffsets : TopicPartition → Option Int
  completedOffsets : TopicPartition → Finset Int

def CommitTracker.new : CommitTracker :=
  ⟨fun _ => none, fun _ => ∅⟩

def baseOffset (messageOffset : Int) : Option Int → Int
  | none => messageOffset
  | some committed => if committed < 0 then messageOffset else committed

def getNextCommitOffset (tracker : CommitTracker) (tp : TopicPartition)
    (messageOffset : Int) (committed : Except String (Option Int)) :
    Except String (Int × CommitTracker) :=
  match tracker.nextCommitOffsets tp with
  | some nextOffset => .ok (nextOffset, tracker)
  | none =>
      match committed with
      | .error error => .error error
      | .ok reported =>
          let base := baseOffset messageOffset reported
          .ok (base, { tracker with
            nextCommitOffsets :=
              Function.update tracker.nextCommitOffsets tp (some base) })

structure MarkOutcome where
  tracker : CommitTracker
  committed : Option Int
  result : Except String Unit

def CommitTracker.addCompleted (tracker : CommitTracker) (tp : TopicPartition)
    (messageOffset : Int) : CommitTracker :=
  { tracker with
    completedOffsets := Function.update tracker.completedOffsets tp
      (insert messageOffset (tracker.completedOffsets tp)) }

def CommitTracker.moveTo (tracker : CommitTracker) (tp : TopicPartition)
    (nextOffset candidate : Int) : CommitTracker :=
  { nextCommitOffsets :=
      Function.update tracker.nextCommitOffsets tp (some candidate)
    completedOffsets := Function.update tracker.completedOffsets tp
      ((tracker.completedOffsets tp).filter
        fun offset => ¬(nextOffset ≤ offset ∧ offset < candidate)) }

def markCompleted (tracker : CommitTracker) (tp : TopicPartition)
    (messageOffset : Int) (broker : BrokerReplies) : MarkOutcome :=
  match getNextCommitOffset tracker tp messageOffset broker.committed with
  | .error error => ⟨tracker, none, .error error⟩
  | .ok (nextOffset, tracker) =>
      if messageOffset < nextOffset then ⟨tracker, none, .ok ()⟩
      else
        let tracker := tracker.addCompleted tp messageOffset
        let candidate := advance (tracker.completedOffsets tp) nextOffset
        if candidate = nextOffset then ⟨tracker, none, .ok ()⟩
        else
          let committed := if broker.commit.stored then some candidate else none
          match broker.commit.result with
          | .error error => ⟨tracker, committed, .error error⟩
          | .ok () => ⟨tracker.moveTo tp nextOffset candidate, committed, .ok ()⟩

@[simp] theorem addCompleted_completedOffsets_self (tracker : CommitTracker)
    (tp : TopicPartition) (offset : Int) :
    (tracker.addCompleted tp offset).completedOffsets tp =
      insert offset (tracker.completedOffsets tp) := by
  simp [CommitTracker.addCompleted]

@[simp] theorem addCompleted_completedOffsets_ne (tracker : CommitTracker)
    {tp other : TopicPartition} (h : other ≠ tp) (offset : Int) :
    (tracker.addCompleted tp offset).completedOffsets other =
      tracker.completedOffsets other := by
  simp [CommitTracker.addCompleted, h]

@[simp] theorem addCompleted_nextCommitOffsets (tracker : CommitTracker)
    (tp : TopicPartition) (offset : Int) :
    (tracker.addCompleted tp offset).nextCommitOffsets =
      tracker.nextCommitOffsets := rfl

theorem getNextCommitOffset_completedOffsets {tracker tracker' : CommitTracker}
    {tp : TopicPartition} {messageOffset nextOffset : Int}
    {committed : Except String (Option Int)}
    (h : getNextCommitOffset tracker tp messageOffset committed =
      .ok (nextOffset, tracker')) :
    tracker'.completedOffsets = tracker.completedOffsets := by
  unfold getNextCommitOffset at h
  split at h
  · cases h
    rfl
  · split at h
    · cases h
    · cases h
      rfl

theorem getNextCommitOffset_nextCommitOffsets {tracker tracker' : CommitTracker}
    {tp : TopicPartition} {messageOffset nextOffset : Int}
    {committed : Except String (Option Int)}
    (h : getNextCommitOffset tracker tp messageOffset committed =
      .ok (nextOffset, tracker')) :
    tracker'.nextCommitOffsets =
      Function.update tracker.nextCommitOffsets tp (some nextOffset) := by
  unfold getNextCommitOffset at h
  split at h
  next heq =>
    cases h
    rw [← heq, Function.update_eq_self]
  next =>
    split at h
    · cases h
    · cases h
      rfl

/-- Everything one `mark_completed` can do. -/
theorem markCompleted_cases (tracker : CommitTracker) (tp : TopicPartition)
    (messageOffset : Int) (broker : BrokerReplies) :
    (∃ error,
      getNextCommitOffset tracker tp messageOffset broker.committed = .error error ∧
      markCompleted tracker tp messageOffset broker =
        ⟨tracker, none, .error error⟩) ∨
    ∃ nextOffset tracker',
      getNextCommitOffset tracker tp messageOffset broker.committed =
        .ok (nextOffset, tracker') ∧
      ((messageOffset < nextOffset ∧
        markCompleted tracker tp messageOffset broker = ⟨tracker', none, .ok ()⟩) ∨
      (nextOffset ≤ messageOffset ∧
        nextOffset ∉ insert messageOffset (tracker.completedOffsets tp) ∧
        markCompleted tracker tp messageOffset broker =
          ⟨tracker'.addCompleted tp messageOffset, none, .ok ()⟩) ∨
      (nextOffset ≤ messageOffset ∧
        nextOffset ∈ insert messageOffset (tracker.completedOffsets tp) ∧
        (markCompleted tracker tp messageOffset broker).committed =
          (if broker.commit.stored then
            some (advance (insert messageOffset (tracker.completedOffsets tp))
              nextOffset) else none) ∧
        (markCompleted tracker tp messageOffset broker).result =
          broker.commit.result ∧
        (markCompleted tracker tp messageOffset broker).tracker =
          (if broker.commit = .acknowledged then
            (tracker'.addCompleted tp messageOffset).moveTo tp nextOffset
              (advance (insert messageOffset (tracker.completedOffsets tp))
                nextOffset)
          else tracker'.addCompleted tp messageOffset))) := by
  cases hlookup : getNextCommitOffset tracker tp messageOffset broker.committed with
  | error error =>
      exact .inl ⟨error, rfl, by simp only [markCompleted, hlookup]⟩
  | ok found =>
      obtain ⟨nextOffset, tracker'⟩ := found
      have hsame := getNextCommitOffset_completedOffsets hlookup
      refine .inr ⟨nextOffset, tracker', rfl, ?_⟩
      simp only [markCompleted, hlookup, addCompleted_completedOffsets_self, hsame]
      by_cases hstale : messageOffset < nextOffset
      · exact .inl ⟨hstale, by rw [if_pos hstale]⟩
      rw [if_neg hstale]
      by_cases hmem : nextOffset ∈ insert messageOffset (tracker.completedOffsets tp)
      · have hmoves := lt_advance_iff.mpr hmem
        rw [if_neg (ne_of_gt hmoves)]
        refine .inr (.inr ⟨by omega, hmem, ?_⟩)
        cases broker.commit <;>
          simp [CommitReply.result, CommitReply.stored]
      · rw [if_pos (advance_of_not_mem hmem)]
        exact .inr (.inl ⟨by omega, hmem, rfl⟩)

theorem markCompleted_other (tracker : CommitTracker) {tp other : TopicPartition}
    (h : other ≠ tp) (messageOffset : Int) (broker : BrokerReplies) :
    (markCompleted tracker tp messageOffset broker).tracker.nextCommitOffsets other =
        tracker.nextCommitOffsets other ∧
      (markCompleted tracker tp messageOffset broker).tracker.completedOffsets other =
        tracker.completedOffsets other := by
  rcases markCompleted_cases tracker tp messageOffset broker with
    ⟨error, -, hmark⟩ | ⟨nextOffset, tracker', hlookup, hrest⟩
  · rw [hmark]
    exact ⟨rfl, rfl⟩
  have hcached : tracker'.nextCommitOffsets other = tracker.nextCommitOffsets other := by
    rw [getNextCommitOffset_nextCommitOffsets hlookup, Function.update_of_ne h]
  have hcompleted := getNextCommitOffset_completedOffsets hlookup
  rcases hrest with ⟨-, hmark⟩ | ⟨-, -, hmark⟩ | ⟨-, -, -, -, htracker⟩
  · rw [hmark]
    exact ⟨hcached, congrFun hcompleted other⟩
  · rw [hmark, addCompleted_completedOffsets_ne tracker' h]
    exact ⟨hcached, congrFun hcompleted other⟩
  rw [htracker]
  split
  · simp [CommitTracker.moveTo, h, hcached, hcompleted]
  · rw [addCompleted_completedOffsets_ne tracker' h]
    exact ⟨hcached, congrFun hcompleted other⟩

/-! ## Marked offsets -/

/-- The offset is pending in the tracker, or the tracker has moved past it. -/
def OffsetMarked (tracker : CommitTracker) (tp : TopicPartition) (offset : Int) : Prop :=
  offset ∈ tracker.completedOffsets tp ∨
    ∃ next, tracker.nextCommitOffsets tp = some next ∧ offset < next

def LookupAnswers (tracker : CommitTracker) (tp : TopicPartition)
    (committed : Except String (Option Int)) : Prop :=
  tracker.nextCommitOffsets tp ≠ none ∨ ∃ reported, committed = .ok reported

theorem lookupAnswers_iff (tracker : CommitTracker) (tp : TopicPartition)
    (messageOffset : Int) (committed : Except String (Option Int)) :
    LookupAnswers tracker tp committed ↔
      ∃ found, getNextCommitOffset tracker tp messageOffset committed = .ok found := by
  unfold LookupAnswers getNextCommitOffset
  cases tracker.nextCommitOffsets tp with
  | some next => simp
  | none => cases committed <;> simp

theorem markCompleted_returns_iff (tracker : CommitTracker) (tp : TopicPartition)
    (messageOffset : Int) {broker : BrokerReplies} (h : broker.commit = .acknowledged) :
    (markCompleted tracker tp messageOffset broker).result = .ok () ↔
      LookupAnswers tracker tp broker.committed := by
  rw [lookupAnswers_iff tracker tp messageOffset]
  rcases markCompleted_cases tracker tp messageOffset broker with
    ⟨error, hlookup, houtcome⟩ | ⟨nextOffset, tracker', hlookup, hcases⟩
  · simp [hlookup, houtcome]
  · refine iff_of_true ?_ ⟨_, hlookup⟩
    rcases hcases with ⟨-, houtcome⟩ | ⟨-, -, houtcome⟩ | ⟨-, -, -, hresult, -⟩
    · rw [houtcome]
    · rw [houtcome]
    · rw [hresult, h]
      rfl

theorem offsetMarked_of_returns {tracker : CommitTracker} {tp : TopicPartition}
    {messageOffset : Int} {broker : BrokerReplies}
    (h : (markCompleted tracker tp messageOffset broker).result = .ok ()) :
    OffsetMarked (markCompleted tracker tp messageOffset broker).tracker tp
      messageOffset := by
  rcases markCompleted_cases tracker tp messageOffset broker with
    ⟨error, -, houtcome⟩ | ⟨nextOffset, tracker', hlookup, hcases⟩
  · simp [houtcome] at h
  · rcases hcases with ⟨hstale, houtcome⟩ | ⟨-, -, houtcome⟩ |
      ⟨hle, hmem, -, hresult, htracker⟩
    · refine .inr ⟨nextOffset, ?_, hstale⟩
      rw [houtcome, getNextCommitOffset_nextCommitOffsets hlookup]
      simp
    · refine .inl ?_
      rw [houtcome]
      simp
    · have hack : broker.commit = .acknowledged := by
        cases hcommit : broker.commit <;> simp_all [CommitReply.result]
      rw [htracker, if_pos hack]
      -- Either the gap closed up to the offset, or the offset waits for it.
      let candidate := advance (insert messageOffset (tracker.completedOffsets tp))
        nextOffset
      by_cases hpassed : messageOffset < candidate
      · exact .inr ⟨candidate, by simp [CommitTracker.moveTo, candidate], hpassed⟩
      · refine .inl ?_
        simp only [CommitTracker.moveTo, Function.update_self, Finset.mem_filter,
          addCompleted_completedOffsets_self, Finset.mem_insert_self, true_and]
        exact fun hbetween => hpassed hbetween.2

end JudgeVortex.Executor
