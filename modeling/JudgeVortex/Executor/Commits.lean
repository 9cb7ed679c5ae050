import JudgeVortex.Executor.Delivery

/-!
# What one executor commits

Runs of `mark_completed` calls on one `CommitTracker`, on any partitions and in any
order.  Beside the tracker the state records which offsets were marked, which calls
returned and what the broker stored.
-/

namespace JudgeVortex.Executor

open JudgeVortex.Foundation

structure MarkCall where
  tp : TopicPartition
  offset : Int
  broker : BrokerReplies

/-- `committed` lists what the broker stored for a partition, oldest first. -/
structure CommitLog where
  tracker : CommitTracker
  marked : TopicPartition → Finset Int
  returned : TopicPartition → Finset Int
  committed : TopicPartition → List Int

def CommitLog.initial : CommitLog :=
  ⟨.new, fun _ => ∅, fun _ => ∅, fun _ => []⟩

def MarkCall.outcome (call : MarkCall) (tracker : CommitTracker) : MarkOutcome :=
  markCompleted tracker call.tp call.offset call.broker

def CommitLog.call (s : CommitLog) (call : MarkCall) : CommitLog :=
  let outcome := call.outcome s.tracker
  { tracker := outcome.tracker
    marked := recordOffset s.marked call.tp call.offset
    returned :=
      match outcome.result with
      | .ok () => recordOffset s.returned call.tp call.offset
      | .error _ => s.returned
    committed := Function.update s.committed call.tp
      (s.committed call.tp ++ outcome.committed.toList) }

def CommitLog.after (calls : List MarkCall) : CommitLog :=
  calls.foldl CommitLog.call .initial

theorem CommitLog.after_concat (calls : List MarkCall) (call : MarkCall) :
    CommitLog.after (calls ++ [call]) = (CommitLog.after calls).call call := by
  rw [after, after, List.foldl_concat]

def CommitLog.last (s : CommitLog) (tp : TopicPartition) (first : Int) : Int :=
  (s.committed tp).getLast?.getD first

def MarkCall.Reports (first : Int) (call : MarkCall) : Prop :=
  call.broker.committed = .ok (some first)

/-- A commit that raises was not applied. -/
def MarkCall.CommitTells (call : MarkCall) : Prop :=
  ∀ error, call.broker.commit ≠ .lost error

def CommitTracker.nextFrom (tracker : CommitTracker) (tp : TopicPartition) (first : Int) :
    Int :=
  (tracker.nextCommitOffsets tp).getD first

/--
Below the last committed offset everything from `first` on is marked; from the offset
that the tracker counts from on, the marked offsets are the pending ones.
-/
structure Counting (tp : TopicPartition) (first : Int) (s : CommitLog) : Prop where
  first_le : first ≤ s.tracker.nextFrom tp first
  le_last : s.tracker.nextFrom tp first ≤ s.last tp first
  below : ∀ offset, first ≤ offset → offset < s.last tp first → offset ∈ s.marked tp
  pending : ∀ offset, s.tracker.nextFrom tp first ≤ offset →
    (offset ∈ s.marked tp ↔ offset ∈ s.tracker.completedOffsets tp)
  returned_marked : s.returned tp ⊆ s.marked tp
  returned : s.tracker.nextFrom tp first ∉ s.returned tp

structure InStep (tp : TopicPartition) (first : Int) (s : CommitLog) : Prop where
  last_eq : s.last tp first = s.tracker.nextFrom tp first
  increasing : (first :: s.committed tp).IsChain (· < ·)

theorem initial_counting (tp : TopicPartition) (first : Int) :
    Counting tp first .initial where
  first_le := le_rfl
  le_last := le_rfl
  below := by
    intro offset hle hlt
    exact absurd hlt (not_lt.mpr hle)
  pending := by simp [CommitLog.initial, CommitTracker.new]
  returned_marked := Finset.Subset.refl _
  returned := by simp [CommitLog.initial]

theorem initial_inStep (tp : TopicPartition) (first : Int) : InStep tp first .initial where
  last_eq := rfl
  increasing := by simp [CommitLog.initial]

/-! ## One call -/

theorem MarkCall.Reports.lookup {call : MarkCall} {first : Int} (hfirst : 0 ≤ first)
    (hreports : call.Reports first) (tracker : CommitTracker) :
    ∃ tracker', getNextCommitOffset tracker call.tp call.offset call.broker.committed =
      .ok (tracker.nextFrom call.tp first, tracker') := by
  unfold getNextCommitOffset CommitTracker.nextFrom
  cases tracker.nextCommitOffsets call.tp with
  | some next => exact ⟨tracker, rfl⟩
  | none =>
      rw [hreports]
      simp [baseOffset, not_lt.mpr hfirst]

theorem MarkCall.outcome_cases {call : MarkCall} {first : Int} (hfirst : 0 ≤ first)
    (hreports : call.Reports first) (tracker : CommitTracker) :
    let next := tracker.nextFrom call.tp first
    let pending := insert call.offset (tracker.completedOffsets call.tp)
    let outcome := call.outcome tracker
    (call.offset < next ∧ outcome.committed = none ∧ outcome.result = .ok () ∧
      outcome.tracker.nextFrom call.tp first = next ∧
      outcome.tracker.completedOffsets call.tp = tracker.completedOffsets call.tp) ∨
    (next ≤ call.offset ∧ next ∉ pending ∧ outcome.committed = none ∧
      outcome.result = .ok () ∧ outcome.tracker.nextFrom call.tp first = next ∧
      outcome.tracker.completedOffsets call.tp = pending) ∨
    (next ≤ call.offset ∧ next ∈ pending ∧
      (outcome.committed = none ∨
        ¬ call.CommitTells ∧ outcome.committed = some (advance pending next)) ∧
      outcome.result ≠ .ok () ∧ outcome.tracker.nextFrom call.tp first = next ∧
      outcome.tracker.completedOffsets call.tp = pending) ∨
    (next ≤ call.offset ∧ next ∈ pending ∧
      outcome.committed = some (advance pending next) ∧ outcome.result = .ok () ∧
      outcome.tracker.nextFrom call.tp first = advance pending next ∧
      outcome.tracker.completedOffsets call.tp =
        pending.filter fun offset => ¬ (next ≤ offset ∧ offset < advance pending next)) := by
  simp only
  obtain ⟨tracker', hlookup⟩ := hreports.lookup hfirst tracker
  have hsame := getNextCommitOffset_completedOffsets hlookup
  have hcached : tracker'.nextFrom call.tp first = tracker.nextFrom call.tp first := by
    rw [CommitTracker.nextFrom, getNextCommitOffset_nextCommitOffsets hlookup]
    simp
  rcases markCompleted_cases tracker call.tp call.offset call.broker with
    ⟨error, hfails, -⟩ | ⟨next, found, hfound, hcases⟩
  · rw [hlookup] at hfails
    cases hfails
  rw [hlookup] at hfound
  cases hfound
  rcases hcases with ⟨hstale, houtcome⟩ | ⟨hle, hgap, houtcome⟩ |
    ⟨hle, hmem, hcommitted, hresult, htracker⟩
  · rw [MarkCall.outcome, houtcome]
    exact .inl ⟨hstale, rfl, rfl, hcached, by rw [hsame]⟩
  · rw [MarkCall.outcome, houtcome]
    exact .inr (.inl ⟨hle, hgap, rfl, rfl, hcached, by simp [hsame]⟩)
  · refine .inr (.inr ?_)
    rw [MarkCall.outcome, hcommitted, hresult, htracker]
    cases hcommit : call.broker.commit with
    | acknowledged =>
        refine .inr ⟨hle, hmem, rfl, rfl, ?_, ?_⟩
        · simp [CommitTracker.moveTo, CommitTracker.nextFrom]
        · simp [CommitTracker.moveTo, hsame]
    | lost error =>
        have hlost : ¬ call.CommitTells := fun htells => htells error hcommit
        exact .inl ⟨hle, hmem, .inr ⟨hlost, rfl⟩, by simp [CommitReply.result], hcached,
          by simp [hsame]⟩
    | refused error =>
        exact .inl ⟨hle, hmem, .inl rfl, by simp [CommitReply.result], hcached,
          by simp [hsame]⟩

theorem MarkCall.outcome_other {call : MarkCall} {tp : TopicPartition} (h : tp ≠ call.tp)
    (tracker : CommitTracker) :
    (call.outcome tracker).tracker.nextCommitOffsets tp = tracker.nextCommitOffsets tp ∧
      (call.outcome tracker).tracker.completedOffsets tp =
        tracker.completedOffsets tp := by
  rw [MarkCall.outcome]
  rcases markCompleted_cases tracker call.tp call.offset call.broker with
    ⟨error, -, houtcome⟩ | ⟨next, tracker', hlookup, hcases⟩
  · rw [houtcome]
    exact ⟨rfl, rfl⟩
  have hnext : tracker'.nextCommitOffsets tp = tracker.nextCommitOffsets tp := by
    rw [getNextCommitOffset_nextCommitOffsets hlookup, Function.update_of_ne h]
  have hpending := congrFun (getNextCommitOffset_completedOffsets hlookup) tp
  rcases hcases with ⟨-, houtcome⟩ | ⟨-, -, houtcome⟩ | ⟨-, -, -, -, htracker⟩
  · rw [houtcome]
    exact ⟨hnext, hpending⟩
  · rw [houtcome, addCompleted_completedOffsets_ne _ h]
    exact ⟨hnext, hpending⟩
  · rw [htracker]
    split
    · simp [CommitTracker.moveTo, h, hnext, hpending]
    · rw [addCompleted_completedOffsets_ne _ h]
      exact ⟨hnext, hpending⟩

theorem CommitLog.call_other {tp : TopicPartition} {call : MarkCall} (h : tp ≠ call.tp)
    (s : CommitLog) (first : Int) :
    (s.call call).tracker.nextFrom tp first = s.tracker.nextFrom tp first ∧
      (s.call call).tracker.completedOffsets tp = s.tracker.completedOffsets tp ∧
      (s.call call).marked tp = s.marked tp ∧ (s.call call).returned tp = s.returned tp ∧
      (s.call call).committed tp = s.committed tp := by
  obtain ⟨hnext, hcompleted⟩ := MarkCall.outcome_other h s.tracker
  refine ⟨?_, hcompleted, Function.update_of_ne h _ _, ?_, Function.update_of_ne h _ _⟩
  · rw [CommitTracker.nextFrom, CommitTracker.nextFrom, ← hnext]
    rfl
  · simp only [CommitLog.call]
    cases (call.outcome s.tracker).result with
    | ok u => exact Function.update_of_ne h _ _
    | error error => rfl

theorem Counting.call_other {tp : TopicPartition} {first : Int} {s : CommitLog}
    (hs : Counting tp first s) {call : MarkCall} (h : tp ≠ call.tp) :
    Counting tp first (s.call call) := by
  obtain ⟨hnext, hcompleted, hmarked, hreturned, hcommitted⟩ := s.call_other h first
  have hlast : (s.call call).last tp first = s.last tp first := by
    rw [CommitLog.last, hcommitted, CommitLog.last]
  constructor
  · rw [hnext]
    exact hs.first_le
  · rw [hnext, hlast]
    exact hs.le_last
  · rw [hlast, hmarked]
    exact hs.below
  · rw [hnext, hmarked, hcompleted]
    exact hs.pending
  · rw [hmarked, hreturned]
    exact hs.returned_marked
  · rw [hnext, hreturned]
    exact hs.returned

theorem InStep.call_other {tp : TopicPartition} {first : Int} {s : CommitLog}
    (hs : InStep tp first s) {call : MarkCall} (h : tp ≠ call.tp) :
    InStep tp first (s.call call) := by
  obtain ⟨hnext, -, -, -, hcommitted⟩ := s.call_other h first
  constructor
  · rw [hnext, CommitLog.last, hcommitted]
    exact hs.last_eq
  · rw [hcommitted]
    exact hs.increasing

section Call

variable {tp : TopicPartition} {first : Int} {s : CommitLog} {call : MarkCall}

theorem CommitLog.marked_call (s : CommitLog) (call : MarkCall) :
    (s.call call).marked call.tp = insert call.offset (s.marked call.tp) :=
  Function.update_self ..

theorem CommitLog.committed_call (s : CommitLog) (call : MarkCall) :
    (s.call call).committed call.tp =
      s.committed call.tp ++ (call.outcome s.tracker).committed.toList :=
  Function.update_self ..

theorem CommitLog.returned_call (s : CommitLog) (call : MarkCall) :
    (s.call call).returned call.tp =
      if (call.outcome s.tracker).result = .ok () then
        insert call.offset (s.returned call.tp) else s.returned call.tp := by
  simp only [CommitLog.call]
  cases (call.outcome s.tracker).result with
  | ok u => exact Function.update_self ..
  | error error => simp

theorem CommitLog.tracker_call (s : CommitLog) (call : MarkCall) :
    (s.call call).tracker = (call.outcome s.tracker).tracker := rfl

theorem CommitLog.last_call_none (h : (call.outcome s.tracker).committed = none)
    (first : Int) : (s.call call).last call.tp first = s.last call.tp first := by
  rw [CommitLog.last, CommitLog.committed_call, h, Option.toList_none, List.append_nil,
    CommitLog.last]

theorem CommitLog.last_call_some {candidate : Int}
    (h : (call.outcome s.tracker).committed = some candidate) (first : Int) :
    (s.call call).last call.tp first = candidate := by
  rw [CommitLog.last, CommitLog.committed_call, h, Option.toList_some,
    List.getLast?_concat, Option.getD_some]

theorem Counting.returned_call_subset (hs : Counting call.tp first s) :
    (s.call call).returned call.tp ⊆ (s.call call).marked call.tp := by
  rw [CommitLog.marked_call, CommitLog.returned_call]
  split
  · exact Finset.insert_subset_insert _ hs.returned_marked
  · exact hs.returned_marked.trans (Finset.subset_insert _ _)

private theorem Counting.stay (hs : Counting call.tp first s)
    (hnext : (s.call call).tracker.nextFrom call.tp first =
      s.tracker.nextFrom call.tp first)
    (hlast : (s.call call).last call.tp first = s.last call.tp first)
    (hpending : ∀ offset, s.tracker.nextFrom call.tp first ≤ offset →
      (offset ∈ (s.call call).tracker.completedOffsets call.tp ↔
        offset = call.offset ∨ offset ∈ s.tracker.completedOffsets call.tp))
    (hreturned : s.tracker.nextFrom call.tp first ∉ (s.call call).returned call.tp) :
    Counting call.tp first (s.call call) := by
  constructor
  · rw [hnext]
    exact hs.first_le
  · rw [hnext, hlast]
    exact hs.le_last
  · intro offset hle hlt
    rw [hlast] at hlt
    rw [CommitLog.marked_call]
    exact Finset.mem_insert_of_mem (hs.below offset hle hlt)
  · intro offset hle
    rw [hnext] at hle
    rw [CommitLog.marked_call, Finset.mem_insert, hs.pending offset hle,
      hpending offset hle]
  · exact hs.returned_call_subset
  · rw [hnext]
    exact hreturned

private theorem Counting.move (hs : Counting call.tp first s)
    (hnext : s.tracker.nextFrom call.tp first ≤
      (s.call call).tracker.nextFrom call.tp first)
    (hlast : (s.call call).tracker.nextFrom call.tp first ≤
      (s.call call).last call.tp first)
    (hrun : ∀ offset, s.tracker.nextFrom call.tp first ≤ offset →
      offset < (s.call call).last call.tp first → offset ∈ (s.call call).marked call.tp)
    (hpending : ∀ offset, (s.call call).tracker.nextFrom call.tp first ≤ offset →
      (offset ∈ (s.call call).tracker.completedOffsets call.tp ↔
        offset = call.offset ∨ offset ∈ s.tracker.completedOffsets call.tp))
    (hreturned : (s.call call).tracker.nextFrom call.tp first ∉
      (s.call call).returned call.tp) :
    Counting call.tp first (s.call call) := by
  constructor
  · exact hs.first_le.trans hnext
  · exact hlast
  · intro offset hle hlt
    by_cases h : offset < s.tracker.nextFrom call.tp first
    · rw [CommitLog.marked_call]
      exact Finset.mem_insert_of_mem (hs.below offset hle (h.trans_le hs.le_last))
    · exact hrun offset (not_lt.mp h) hlt
  · intro offset hle
    rw [CommitLog.marked_call, Finset.mem_insert, hs.pending offset (hnext.trans hle),
      hpending offset hle]
  · exact hs.returned_call_subset
  · exact hreturned

private theorem Counting.marked_iff (hs : Counting call.tp first s) {offset : Int}
    (h : s.tracker.nextFrom call.tp first ≤ offset) :
    offset ∈ (s.call call).marked call.tp ↔
      offset ∈ insert call.offset (s.tracker.completedOffsets call.tp) := by
  rw [CommitLog.marked_call, Finset.mem_insert, Finset.mem_insert, hs.pending offset h]

theorem Counting.call_self (hs : Counting call.tp first s) (hfirst : 0 ≤ first)
    (hreports : call.Reports first) : Counting call.tp first (s.call call) := by
  have hold := hs.returned
  rcases call.outcome_cases hfirst hreports s.tracker with
    ⟨hstale, hcommitted, hresult, hnext, hcompleted⟩ |
    ⟨hle, hgap, hcommitted, hresult, hnext, hcompleted⟩ |
    ⟨hle, hmem, hcommitted, hresult, hnext, hcompleted⟩ |
    ⟨hle, hmem, hcommitted, hresult, hnext, hcompleted⟩
  · refine hs.stay hnext (CommitLog.last_call_none hcommitted _) (fun offset hoffset => ?_) ?_
    · rw [CommitLog.tracker_call, hcompleted]
      have hne : offset ≠ call.offset := by omega
      simp [hne]
    · rw [CommitLog.returned_call, if_pos hresult, Finset.mem_insert, not_or]
      exact ⟨by omega, hold⟩
  · refine hs.stay hnext (CommitLog.last_call_none hcommitted _) (fun offset hoffset => ?_) ?_
    · rw [CommitLog.tracker_call, hcompleted, Finset.mem_insert]
    · rw [CommitLog.returned_call, if_pos hresult, Finset.mem_insert, not_or]
      exact ⟨fun heq => hgap (heq ▸ Finset.mem_insert_self _ _), hold⟩
  · have hpending : ∀ offset, s.tracker.nextFrom call.tp first ≤ offset →
        (offset ∈ (s.call call).tracker.completedOffsets call.tp ↔
          offset = call.offset ∨ offset ∈ s.tracker.completedOffsets call.tp) := by
      intro offset _
      rw [CommitLog.tracker_call, hcompleted, Finset.mem_insert]
    have hunreturned : s.tracker.nextFrom call.tp first ∉ (s.call call).returned call.tp := by
      rw [CommitLog.returned_call, if_neg hresult]
      exact hold
    rcases hcommitted with hnone | ⟨-, hsome⟩
    · exact hs.stay hnext (CommitLog.last_call_none hnone _) hpending hunreturned
    · -- The broker stored the offset, the tracker does not know it.
      have hlast := CommitLog.last_call_some hsome first
      rw [← CommitLog.tracker_call] at hnext
      refine hs.move hnext.ge ?_ (fun offset hoffset hlt => ?_) ?_ ?_
      · rw [hnext, hlast]
        exact le_advance _ _
      · rw [hlast] at hlt
        exact (hs.marked_iff hoffset).mpr (mem_of_lt_advance hoffset hlt)
      · rw [hnext]
        exact hpending
      · rw [hnext]
        exact hunreturned
  · have hlast := CommitLog.last_call_some hcommitted first
    rw [← CommitLog.tracker_call] at hnext
    refine hs.move ?_ ?_ (fun offset hoffset hlt => ?_) (fun offset hoffset => ?_) ?_
    · rw [hnext]
      exact le_advance _ _
    · rw [hnext, hlast]
    · rw [hlast] at hlt
      exact (hs.marked_iff hoffset).mpr (mem_of_lt_advance hoffset hlt)
    · rw [hnext] at hoffset
      rw [CommitLog.tracker_call, hcompleted, Finset.mem_filter, Finset.mem_insert]
      exact and_iff_left fun hbetween => absurd hbetween.2 (not_lt.mpr hoffset)
    · rw [hnext]
      intro hmem
      have hpending := (hs.marked_iff (le_advance _ _)).mp (hs.returned_call_subset hmem)
      exact advance_not_mem _ _ hpending

theorem InStep.call_self (hs : InStep call.tp first s) (hfirst : 0 ≤ first)
    (hreports : call.Reports first) (htells : call.CommitTells) :
    InStep call.tp first (s.call call) := by
  have hstay : (call.outcome s.tracker).committed = none →
      (call.outcome s.tracker).tracker.nextFrom call.tp first =
        s.tracker.nextFrom call.tp first → InStep call.tp first (s.call call) := by
    intro hcommitted hnext
    constructor
    · rw [CommitLog.last_call_none hcommitted, CommitLog.tracker_call, hnext]
      exact hs.last_eq
    · rw [CommitLog.committed_call, hcommitted, Option.toList_none, List.append_nil]
      exact hs.increasing
  rcases call.outcome_cases hfirst hreports s.tracker with
    ⟨-, hcommitted, -, hnext, -⟩ | ⟨-, -, hcommitted, -, hnext, -⟩ |
    ⟨-, -, hcommitted, -, hnext, -⟩ | ⟨-, hmem, hcommitted, -, hnext, -⟩
  · exact hstay hcommitted hnext
  · exact hstay hcommitted hnext
  · rcases hcommitted with hnone | ⟨hlost, -⟩
    · exact hstay hnone hnext
    · exact absurd htells hlost
  · constructor
    · rw [CommitLog.last_call_some hcommitted, CommitLog.tracker_call, hnext]
    · rw [CommitLog.committed_call, hcommitted, Option.toList_some, ← List.cons_append,
        List.isChain_append]
      refine ⟨hs.increasing, .singleton _, ?_⟩
      intro last hlast next hhead
      rw [List.head?_cons, Option.mem_some_iff] at hhead
      have hlastEq : last = s.last call.tp first := by
        rw [CommitLog.last, ← Option.some_inj, ← hlast, List.getLast?_cons]
      rw [hlastEq, hs.last_eq, ← hhead]
      exact lt_advance_iff.mpr hmem

theorem Counting.after_call (hs : Counting tp first s) (hfirst : 0 ≤ first)
    (hreports : call.tp = tp → call.Reports first) : Counting tp first (s.call call) := by
  by_cases h : call.tp = tp
  · subst h
    exact hs.call_self hfirst (hreports rfl)
  · exact hs.call_other (Ne.symm h)

theorem InStep.after_call (hs : InStep tp first s) (hfirst : 0 ≤ first)
    (hreports : call.tp = tp → call.Reports first) (htells : call.tp = tp → call.CommitTells) :
    InStep tp first (s.call call) := by
  by_cases h : call.tp = tp
  · subst h
    exact hs.call_self hfirst (hreports rfl) (htells rfl)
  · exact hs.call_other (Ne.symm h)

theorem Counting.next_unmarked (hs : Counting call.tp first s) (hfirst : 0 ≤ first)
    (hreports : call.Reports first)
    (hle : s.tracker.nextFrom call.tp first ≤ call.offset)
    (hreturns : (call.outcome s.tracker).result = .ok ()) :
    (s.call call).tracker.nextFrom call.tp first ∉ (s.call call).marked call.tp := by
  have hafter := hs.call_self hfirst hreports
  rw [hafter.pending _ le_rfl, CommitLog.tracker_call]
  rcases call.outcome_cases hfirst hreports s.tracker with
    ⟨hstale, -⟩ | ⟨-, hgap, -, -, hnext, hcompleted⟩ | ⟨-, -, -, hfails, -⟩ |
    ⟨-, -, -, -, hnext, hcompleted⟩
  · omega
  · rw [hnext, hcompleted]
    exact hgap
  · exact absurd hreturns hfails
  · rw [hnext, hcompleted, Finset.mem_filter, not_and_or]
    exact .inl (advance_not_mem _ _)

end Call

/-! ## Runs of calls -/

def MarkedBy (calls : List MarkCall) (tp : TopicPartition) (offset : Int) : Prop :=
  ∃ call ∈ calls, call.tp = tp ∧ call.offset = offset

def ReportedOn (tp : TopicPartition) (first : Int) (calls : List MarkCall) : Prop :=
  ∀ call ∈ calls, call.tp = tp → call.Reports first

def CommitsTellOn (tp : TopicPartition) (calls : List MarkCall) : Prop :=
  ∀ call ∈ calls, call.tp = tp → call.CommitTells

theorem mem_marked_after (calls : List MarkCall) (tp : TopicPartition) (offset : Int) :
    offset ∈ (CommitLog.after calls).marked tp ↔ MarkedBy calls tp offset := by
  induction calls using List.reverseRecOn with
  | nil => simp [CommitLog.after, CommitLog.initial, MarkedBy]
  | append_singleton calls call ih =>
      have hmarked : (CommitLog.after (calls ++ [call])).marked =
          recordOffset (CommitLog.after calls).marked call.tp call.offset := by
        rw [CommitLog.after_concat]
        rfl
      rw [hmarked, mem_recordOffset, ih]
      constructor
      · rintro (⟨rfl, rfl⟩ | ⟨earlier, hmem, heq⟩)
        · exact ⟨call, by simp, rfl, rfl⟩
        · exact ⟨earlier, by simp [hmem], heq⟩
      · rintro ⟨marking, hmem, htp, hoffset⟩
        rcases List.mem_append.mp hmem with hmem | hmem
        · exact .inr ⟨marking, hmem, htp, hoffset⟩
        · rw [List.mem_singleton] at hmem
          subst hmem
          exact .inl ⟨htp.symm, hoffset.symm⟩

theorem counting_after {tp : TopicPartition} {first : Int} (hfirst : 0 ≤ first)
    {calls : List MarkCall} (hreports : ReportedOn tp first calls) :
    Counting tp first (CommitLog.after calls) := by
  induction calls using List.reverseRecOn with
  | nil => exact initial_counting tp first
  | append_singleton calls call ih =>
      rw [CommitLog.after_concat]
      have hearlier := ih fun earlier hmem => hreports earlier (by simp [hmem])
      exact hearlier.after_call hfirst (hreports call (by simp))

theorem inStep_after {tp : TopicPartition} {first : Int} (hfirst : 0 ≤ first)
    {calls : List MarkCall} (hreports : ReportedOn tp first calls)
    (htells : CommitsTellOn tp calls) : InStep tp first (CommitLog.after calls) := by
  induction calls using List.reverseRecOn with
  | nil => exact initial_inStep tp first
  | append_singleton calls call ih =>
      rw [CommitLog.after_concat]
      have hearlier := ih (fun earlier hmem => hreports earlier (by simp [hmem]))
        (fun earlier hmem => htells earlier (by simp [hmem]))
      exact hearlier.after_call hfirst (hreports call (by simp)) (htells call (by simp))

def MarkCall.Settles (first : Int) (s : CommitLog) (call : MarkCall) : Prop :=
  s.tracker.nextFrom call.tp first ≤ call.offset ∧
    (call.outcome s.tracker).result = .ok ()

theorem least_unmarked {first : Int} (hfirst : 0 ≤ first) {calls : List MarkCall}
    {call : MarkCall} (hreports : ReportedOn call.tp first (calls ++ [call]))
    (htells : CommitsTellOn call.tp (calls ++ [call]))
    (hsettles : call.Settles first (CommitLog.after calls)) :
    IsLeast {offset | first ≤ offset ∧ ¬ MarkedBy (calls ++ [call]) call.tp offset}
      ((CommitLog.after (calls ++ [call])).last call.tp first) := by
  have hearlier : ReportedOn call.tp first calls := fun earlier hmem =>
    hreports earlier (by simp [hmem])
  have hs := counting_after hfirst hearlier
  have hafter := counting_after hfirst hreports
  have hlast := (inStep_after hfirst hreports htells).last_eq
  have hnext := hs.next_unmarked hfirst (hreports call (by simp) rfl) hsettles.1 hsettles.2
  rw [← CommitLog.after_concat, ← hlast] at hnext
  simp only [← mem_marked_after]
  refine ⟨⟨hafter.first_le.trans hafter.le_last, hnext⟩, ?_⟩
  rintro offset ⟨hle, hunmarked⟩
  by_contra hlt
  exact hunmarked (hafter.below offset hle (not_le.mp hlt))

/--
The offsets committed for a partition rise from the reported one and skip nothing;
after a settling call the last is the least offset not marked, so two runs that
marked the same offsets agree on it.
-/
theorem commits_exact (tp : TopicPartition) (first : Int) (hfirst : 0 ≤ first)
    (calls : List MarkCall) (hreports : ReportedOn tp first calls)
    (htells : CommitsTellOn tp calls) :
    (first :: (CommitLog.after calls).committed tp).IsChain (· < ·) ∧
    (∀ offset, first ≤ offset → offset < (CommitLog.after calls).last tp first →
      MarkedBy calls tp offset) ∧
    ∀ earlier call, calls = earlier ++ [call] → call.tp = tp →
      call.Settles first (CommitLog.after earlier) →
      IsLeast {offset | first ≤ offset ∧ ¬ MarkedBy calls tp offset}
        ((CommitLog.after calls).last tp first) ∧
      ∀ earlier' call', ReportedOn tp first (earlier' ++ [call']) →
        CommitsTellOn tp (earlier' ++ [call']) → call'.tp = tp →
        call'.Settles first (CommitLog.after earlier') →
        (∀ offset, MarkedBy (earlier' ++ [call']) tp offset ↔ MarkedBy calls tp offset) →
        (CommitLog.after (earlier' ++ [call'])).last tp first =
          (CommitLog.after calls).last tp first := by
  have hs := counting_after hfirst hreports
  refine ⟨(inStep_after hfirst hreports htells).increasing, ?_, ?_⟩
  · intro offset hle hlt
    exact (mem_marked_after calls tp offset).mp (hs.below offset hle hlt)
  · rintro earlier call rfl rfl hsettles
    have hleast := least_unmarked hfirst hreports htells hsettles
    refine ⟨hleast, ?_⟩
    intro earlier' call' hreports' htells' htp hsettles' hsame
    rw [← htp] at hreports' htells'
    have hleast' := least_unmarked hfirst hreports' htells' hsettles'
    simp only [htp, hsame] at hleast'
    exact hleast'.unique hleast

def outOfOrderCalls : List MarkCall :=
  [⟨freshPartition, 2, ⟨.ok (some 1), .acknowledged⟩⟩,
   ⟨freshPartition, 1, ⟨.ok (some 1), .refused "CommitFailedError"⟩⟩]

def lastOutOfOrderCall : MarkCall :=
  ⟨freshPartition, 1, ⟨.ok (some 1), .acknowledged⟩⟩

theorem commits_exact_out_of_order :
    (CommitLog.after (outOfOrderCalls ++ [lastOutOfOrderCall])).last freshPartition 1 = 3 ∧
    IsLeast {offset | 1 ≤ offset ∧
        ¬ MarkedBy (outOfOrderCalls ++ [lastOutOfOrderCall]) freshPartition offset}
      ((CommitLog.after (outOfOrderCalls ++ [lastOutOfOrderCall])).last freshPartition 1) := by
  have hreports : ReportedOn freshPartition 1 (outOfOrderCalls ++ [lastOutOfOrderCall]) := by
    simp [ReportedOn, outOfOrderCalls, lastOutOfOrderCall, MarkCall.Reports]
  have htells : CommitsTellOn freshPartition (outOfOrderCalls ++ [lastOutOfOrderCall]) := by
    simp [CommitsTellOn, outOfOrderCalls, lastOutOfOrderCall, MarkCall.CommitTells]
  have hexact := commits_exact freshPartition 1 (by decide) _ hreports htells
  refine ⟨by decide, ?_⟩
  refine (hexact.2.2 outOfOrderCalls lastOutOfOrderCall rfl rfl ?_).1
  exact ⟨by decide, by rfl⟩

/-! ## Gaps in the delivered offsets -/

/-- The run marked what was delivered on the partition, and each offset of it returned. -/
structure AllCompleted (tp : TopicPartition) (first : Int) (delivered : List Int)
    (calls : List MarkCall) : Prop where
  reports : ReportedOn tp first calls
  increasing : delivered.Pairwise (· < ·)
  from_first : ∀ offset ∈ delivered, first ≤ offset
  only : ∀ call ∈ calls, call.tp = tp → call.offset ∈ delivered
  completed : ∀ offset ∈ delivered, offset ∈ (CommitLog.after calls).returned tp

/--
Once everything delivered is completed, the last committed offset is one past the
greatest delivered one exactly when nothing from the reported offset up to it is missing.
-/
theorem commits_keep_up_iff (tp : TopicPartition) (first : Int) (hfirst : 0 ≤ first)
    (delivered : List Int) (hne : delivered ≠ []) (calls : List MarkCall)
    (h : AllCompleted tp first delivered calls) :
    ((CommitLog.after calls).committed tp).getLast? = some (delivered.getLast hne + 1) ↔
      ∀ offset, first ≤ offset → offset ≤ delivered.getLast hne → offset ∈ delivered := by
  have hs := counting_after hfirst h.reports
  have hmarked : ∀ offset ∈ (CommitLog.after calls).marked tp, offset ∈ delivered := by
    intro offset hmem
    obtain ⟨call, hcall, htp, rfl⟩ := (mem_marked_after calls tp offset).mp hmem
    exact h.only call hcall htp
  constructor
  · intro hlast offset hle hgreatest
    have hlt : offset < (CommitLog.after calls).last tp first := by
      rw [CommitLog.last, hlast, Option.getD_some]
      omega
    exact hmarked offset (hs.below offset hle hlt)
  · intro hcontiguous
    -- The tracker cannot stop at a delivered offset: that call has returned.
    have hpast : delivered.getLast hne < (CommitLog.after calls).last tp first := by
      refine lt_of_lt_of_le ?_ hs.le_last
      by_contra hstops
      exact hs.returned
        (h.completed _ (hcontiguous _ hs.first_le (not_lt.mp hstops)))
    have hreached : (CommitLog.after calls).last tp first ≤ delivered.getLast hne + 1 := by
      by_contra hbeyond
      have hmem := hmarked _ (hs.below (delivered.getLast hne + 1)
        (by have := h.from_first _ (List.getLast_mem hne); omega) (not_le.mp hbeyond))
      have := (h.increasing.imp le_of_lt).rel_getLast hmem
      omega
    have hfirstLast := h.from_first _ (List.getLast_mem hne)
    unfold CommitLog.last at hpast hreached
    cases hcommitted : ((CommitLog.after calls).committed tp).getLast? with
    | none =>
        simp only [hcommitted, Option.getD_none] at hpast
        omega
    | some last =>
        simp only [hcommitted, Option.getD_some] at hpast hreached
        rw [Option.some_inj]
        omega

/-- The broker reports 1, retention has removed 1 to 4, and 5 is delivered. -/
def afterRetention : List MarkCall :=
  [⟨freshPartition, 5, ⟨.ok (some 1), .acknowledged⟩⟩]

theorem afterRetention_completed : AllCompleted freshPartition 1 [5] afterRetention := by
  constructor
  · simp [ReportedOn, afterRetention, MarkCall.Reports]
  · simp
  · simp
  · simp [afterRetention]
  · decide

theorem commits_keep_up_after_retention :
    ((CommitLog.after afterRetention).committed freshPartition).getLast? = some 6 ↔
      ∀ offset, 1 ≤ offset → offset ≤ 5 → offset ∈ [(5 : Int)] :=
  commits_keep_up_iff freshPartition 1 (by decide) [5] (by simp) afterRetention
    afterRetention_completed

theorem gap_stalls_commits :
    ¬ ∀ (tp : TopicPartition) (first : Int) (delivered : List Int) (hne : delivered ≠ [])
      (calls : List MarkCall), 0 ≤ first → AllCompleted tp first delivered calls →
      ((CommitLog.after calls).committed tp).getLast? =
        some (delivered.getLast hne + 1) := by
  intro h
  have hlast := h freshPartition 1 [5] (by simp) afterRetention (by decide)
    afterRetention_completed
  revert hlast
  decide

end JudgeVortex.Executor
