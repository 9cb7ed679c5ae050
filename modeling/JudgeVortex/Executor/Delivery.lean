import JudgeVortex.Executor.CommitTracker

/-!
# Deliveries, completions and commits of one executor

A run interleaves deliveries of messages with calls of `mark_completed`, in any
order and with any answers of the broker.  Next to the tracker the state records
which offsets were delivered and which calls the tracker has taken in; neither
record is read by the tracker.
-/

namespace JudgeVortex.Executor

open JudgeVortex.Foundation

structure DeliveryState where
  tracker : CommitTracker
  delivered : TopicPartition → Finset Int
  marked : TopicPartition → Finset Int

def DeliveryState.initial : DeliveryState :=
  ⟨.new, fun _ => ∅, fun _ => ∅⟩

inductive DeliveryEvent where
  | deliver (tp : TopicPartition) (offset : Int)
  | complete (tp : TopicPartition) (offset : Int) (broker : BrokerReplies)

def recordOffset (sets : TopicPartition → Finset Int) (tp : TopicPartition)
    (offset : Int) : TopicPartition → Finset Int :=
  Function.update sets tp (insert offset (sets tp))

@[simp] theorem mem_recordOffset {sets : TopicPartition → Finset Int}
    {tp other : TopicPartition} {offset recorded : Int} :
    offset ∈ recordOffset sets tp recorded other ↔
      (other = tp ∧ offset = recorded) ∨ offset ∈ sets other := by
  by_cases h : other = tp
  · subst h
    simp [recordOffset]
  · simp [recordOffset, h]

/--
A call whose offset lookup raises leaves `mark_completed` before the tracker has
taken its offset in, so it does not count as a marked completion.
-/
def deliveryStep (s : DeliveryState) : DeliveryEvent → DeliveryState
  | .deliver tp offset => { s with delivered := recordOffset s.delivered tp offset }
  | .complete tp offset broker =>
      { s with
        tracker := (markCompleted s.tracker tp offset broker).tracker
        marked :=
          match getNextCommitOffset s.tracker tp offset broker.committed with
          | .error _ => s.marked
          | .ok _ => recordOffset s.marked tp offset }

def CommitSkipsNothing (s : DeliveryState) : DeliveryEvent → Prop
  | .deliver _ _ => True
  | .complete tp offset broker =>
      ∀ committed,
        (markCompleted s.tracker tp offset broker).committed = some committed →
        ∀ skipped ∈ s.delivered tp, skipped < committed →
          skipped ∈ (deliveryStep s (.complete tp offset broker)).marked tp

/--
The step counts from finished work: if the call closes the gap at the offset the
tracker counts from and the broker takes the commit, then every delivered offset
below the one counted from is marked completed already.
-/
def CountsFromFinished (s : DeliveryState) : DeliveryEvent → Prop
  | .deliver _ _ => True
  | .complete tp offset broker =>
      ∀ nextOffset tracker',
        getNextCommitOffset s.tracker tp offset broker.committed =
          .ok (nextOffset, tracker') →
        nextOffset ≤ offset →
        nextOffset ∈ insert offset (s.tracker.completedOffsets tp) →
        broker.commit.stored →
        ∀ skipped ∈ s.delivered tp, skipped < nextOffset → skipped ∈ s.marked tp

def PendingMarked (s : DeliveryState) : Prop :=
  ∀ tp, s.tracker.completedOffsets tp ⊆ s.marked tp

theorem initial_pendingMarked : PendingMarked .initial := by
  intro tp
  simp [DeliveryState.initial, CommitTracker.new]

theorem moveTo_completedOffsets_subset (tracker : CommitTracker)
    (tp other : TopicPartition) (nextOffset candidate : Int) :
    (tracker.moveTo tp nextOffset candidate).completedOffsets other ⊆
      tracker.completedOffsets other := by
  by_cases h : other = tp
  · subst h
    simp [CommitTracker.moveTo, Finset.filter_subset]
  · simp [CommitTracker.moveTo, h]

private theorem addCompleted_subset_record {s : DeliveryState}
    (hs : PendingMarked s) {tracker' : CommitTracker}
    (hsame : tracker'.completedOffsets = s.tracker.completedOffsets)
    (tp other : TopicPartition) (offset : Int) :
    (tracker'.addCompleted tp offset).completedOffsets other ⊆
      recordOffset s.marked tp offset other := by
  intro pending hpending
  rw [mem_recordOffset]
  by_cases h : other = tp
  · subst h
    rw [addCompleted_completedOffsets_self, Finset.mem_insert, hsame] at hpending
    exact hpending.imp (fun heq => ⟨rfl, heq⟩) (fun hmem => hs other hmem)
  · rw [addCompleted_completedOffsets_ne tracker' h, hsame] at hpending
    exact .inr (hs other hpending)

theorem deliveryStep_pendingMarked (s : DeliveryState) (e : DeliveryEvent)
    (hs : PendingMarked s) : PendingMarked (deliveryStep s e) := by
  cases e with
  | deliver tp offset => exact hs
  | complete tp offset broker =>
      intro other
      rcases markCompleted_cases s.tracker tp offset broker with
        ⟨error, hlookup, hmark⟩ |
        ⟨nextOffset, tracker', hlookup, hrest⟩
      · simpa only [deliveryStep, hlookup, hmark] using hs other
      have hsame := getNextCommitOffset_completedOffsets hlookup
      have hadded := addCompleted_subset_record hs hsame tp other offset
      simp only [deliveryStep, hlookup]
      rcases hrest with ⟨-, hmark⟩ | ⟨-, -, hmark⟩ | ⟨-, -, -, -, htracker⟩
      · rw [hmark, hsame]
        intro pending hpending
        exact mem_recordOffset.mpr (.inr (hs other hpending))
      · rw [hmark]
        exact hadded
      · rw [htracker]
        split
        · exact (moveTo_completedOffsets_subset _ tp other _ _).trans hadded
        · exact hadded

theorem commitSkipsNothing_iff (s : DeliveryState) (e : DeliveryEvent)
    (hs : PendingMarked s) : CommitSkipsNothing s e ↔ CountsFromFinished s e := by
  cases e with
  | deliver tp offset => exact Iff.rfl
  | complete tp offset broker =>
      rcases markCompleted_cases s.tracker tp offset broker with
        ⟨error, hlookup, hmark⟩ |
        ⟨nextOffset, tracker', hlookup, hrest⟩
      · simp [CommitSkipsNothing, CountsFromFinished, hlookup, hmark]
      have hmarked : (deliveryStep s (.complete tp offset broker)).marked =
          recordOffset s.marked tp offset := by
        simp only [deliveryStep, hlookup]
      simp only [CommitSkipsNothing, CountsFromFinished, hlookup, hmarked,
        Except.ok.injEq, Prod.mk.injEq]
      rcases hrest with ⟨hstale, hmark⟩ | ⟨hle, hgap, hmark⟩ |
        ⟨hle, hmem, hcommitted, -, -⟩
      · simp only [hmark, reduceCtorEq, false_implies, implies_true, true_iff]
        rintro _ _ ⟨rfl, rfl⟩ hle
        omega
      · simp only [hmark, reduceCtorEq, false_implies, implies_true, true_iff]
        rintro _ _ ⟨rfl, rfl⟩ - hmem
        exact absurd hmem hgap
      constructor
      · rintro h _ _ ⟨rfl, rfl⟩ - - hstored skipped hdelivered hlt
        rw [hcommitted, if_pos hstored] at h
        have hmoves := le_advance
          (insert offset (s.tracker.completedOffsets tp)) nextOffset
        rcases mem_recordOffset.mp
          (h _ rfl skipped hdelivered (by omega)) with ⟨-, heq⟩ | hdone
        · omega
        · exact hdone
      · intro h committed hsome skipped hdelivered hlt
        rw [hcommitted] at hsome
        split at hsome
        next hstored =>
          cases hsome
          rw [mem_recordOffset]
          by_cases hbelow : skipped < nextOffset
          · exact .inr (h _ _ ⟨rfl, rfl⟩ hle hmem hstored skipped hdelivered hbelow)
          · have hpending := mem_of_lt_advance (by omega) hlt
            rcases Finset.mem_insert.mp hpending with rfl | hpending
            · exact .inl ⟨rfl, rfl⟩
            · exact .inr (hs tp hpending)
        next => cases hsome

/--
In every run, no commit skips an unfinished message exactly when every commit
counts from finished work.
-/
theorem commits_skip_nothing_iff (events : List DeliveryEvent) :
    (∀ p ∈ transitions deliveryStep .initial events,
      CommitSkipsNothing p.1 p.2) ↔
    ∀ p ∈ transitions deliveryStep .initial events, CountsFromFinished p.1 p.2 :=
  transitions_forall_iff deliveryStep deliveryStep_pendingMarked
    commitSkipsNothing_iff initial_pendingMarked events

/-! ## A fresh group that finishes out of order -/

def freshPartition : TopicPartition := ⟨"code_submissions_core", 0⟩

def freshGroupRun : List DeliveryEvent :=
  [.deliver freshPartition 0, .deliver freshPartition 1,
   .complete freshPartition 1 ⟨.ok none, .acknowledged⟩]

theorem fresh_group_skips_unfinished :
    ¬ ∀ events : List DeliveryEvent,
      ∀ p ∈ transitions deliveryStep .initial events,
        CommitSkipsNothing p.1 p.2 := by
  intro h
  have hlast := h freshGroupRun _
    (List.mem_cons_of_mem _ (List.mem_cons_of_mem _ List.mem_cons_self))
  have hskip := hlast 2 (by decide) 0 (by decide) (by decide)
  revert hskip
  decide

/-! ## Kafka's delivery order -/

/--
What a consumer that keeps its partitions sees of Kafka: offsets rise, start at
the committed offset if there is one, and every lookup reports that offset.
-/
def KafkaOrder (start : TopicPartition → Option Int) (s : DeliveryState) :
    DeliveryEvent → Prop
  | .deliver tp offset =>
      (∀ earlier ∈ s.delivered tp, earlier < offset) ∧
        ∀ committed, start tp = some committed → committed ≤ offset
  | .complete tp offset broker =>
      offset ∈ s.delivered tp ∧
        ∀ reported, broker.committed = .ok reported → reported = start tp

def OldestFinishesFirst (start : TopicPartition → Option Int)
    (s : DeliveryState) : DeliveryEvent → Prop
  | .deliver _ _ => True
  | .complete tp offset _ =>
      s.tracker.nextCommitOffsets tp = none →
        (∀ committed, start tp = some committed → committed < 0) →
        ∀ other ∈ s.delivered tp, offset ≤ other

structure CountedInOrder (start : TopicPartition → Option Int)
    (s : DeliveryState) : Prop where
  pending : PendingMarked s
  marked : ∀ tp, s.marked tp ⊆ s.delivered tp
  started : ∀ tp committed, start tp = some committed →
    ∀ offset ∈ s.delivered tp, committed ≤ offset
  finished : ∀ tp nextOffset, s.tracker.nextCommitOffsets tp = some nextOffset →
    ∀ offset ∈ s.delivered tp, offset < nextOffset → offset ∈ s.marked tp
  reached : ∀ tp nextOffset, s.tracker.nextCommitOffsets tp = some nextOffset →
    start tp = some nextOffset ∨ ∃ offset ∈ s.delivered tp, nextOffset ≤ offset + 1

theorem initial_countedInOrder (start : TopicPartition → Option Int) :
    CountedInOrder start .initial := by
  constructor
  · exact initial_pendingMarked
  · intro tp
    simp [DeliveryState.initial]
  · intro tp committed _ offset hoffset
    simp [DeliveryState.initial] at hoffset
  · intro tp nextOffset hnext
    simp [DeliveryState.initial, CommitTracker.new] at hnext
  · intro tp nextOffset hnext
    simp [DeliveryState.initial, CommitTracker.new] at hnext

private theorem lookup_inOrder {start : TopicPartition → Option Int}
    {s : DeliveryState} (hs : CountedInOrder start s) {tp : TopicPartition}
    {offset : Int} {broker : BrokerReplies}
    (hkafka : KafkaOrder start s (.complete tp offset broker))
    (hfirst : OldestFinishesFirst start s (.complete tp offset broker))
    {nextOffset : Int} {tracker' : CommitTracker}
    (hlookup : getNextCommitOffset s.tracker tp offset broker.committed =
      .ok (nextOffset, tracker')) :
    (∀ other ∈ s.delivered tp, other < nextOffset → other ∈ s.marked tp) ∧
      (start tp = some nextOffset ∨
        ∃ other ∈ s.delivered tp, nextOffset ≤ other + 1) := by
  obtain ⟨hdelivered, hreport⟩ := hkafka
  unfold getNextCommitOffset at hlookup
  split at hlookup
  next cached hcached =>
    cases hlookup
    exact ⟨hs.finished tp _ hcached, hs.reached tp _ hcached⟩
  next huncached =>
    split at hlookup
    · cases hlookup
    next reported hreported =>
      cases hlookup
      rw [hreport reported hreported]
      have hoffset : ∃ other ∈ s.delivered tp, offset ≤ other + 1 :=
        ⟨offset, hdelivered, by omega⟩
      cases hstart : start tp with
      | none =>
          have hold := hfirst huncached (by simp [hstart])
          refine ⟨fun other hother hlt => ?_, .inr hoffset⟩
          exact absurd (hold other hother) (by simpa [baseOffset] using hlt)
      | some committed =>
          simp only [baseOffset]
          split
          next hneg =>
            have hold := hfirst huncached (by simp [hstart, hneg])
            refine ⟨fun other hother hlt => ?_, .inr hoffset⟩
            exact absurd (hold other hother) (not_le.mpr hlt)
          next =>
            refine ⟨fun other hother hlt => ?_, .inl rfl⟩
            exact absurd (hs.started tp committed hstart other hother)
              (not_le.mpr hlt)

theorem countedInOrder_deliver {start : TopicPartition → Option Int}
    {s : DeliveryState} (hs : CountedInOrder start s) (tp : TopicPartition)
    (offset : Int) (hkafka : KafkaOrder start s (.deliver tp offset)) :
    CountedInOrder start (deliveryStep s (.deliver tp offset)) := by
  obtain ⟨hrising, hstart⟩ := hkafka
  constructor
  · exact hs.pending
  · intro other marked hmarked
    exact mem_recordOffset.mpr (.inr (hs.marked other hmarked))
  · intro other committed hcommitted delivered hdelivered
    rcases mem_recordOffset.mp hdelivered with ⟨rfl, rfl⟩ | hdelivered
    · exact hstart committed hcommitted
    · exact hs.started other committed hcommitted delivered hdelivered
  · intro other nextOffset hnext delivered hdelivered hlt
    rcases mem_recordOffset.mp hdelivered with ⟨rfl, rfl⟩ | hdelivered
    · -- A new offset lies above all earlier ones, so not below the next one.
      rcases hs.reached other nextOffset hnext with hbase | ⟨earlier, hearlier, hle⟩
      · have := hstart nextOffset hbase
        omega
      · have := hrising earlier hearlier
        omega
    · exact hs.finished other nextOffset hnext delivered hdelivered hlt
  · intro other nextOffset hnext
    exact (hs.reached other nextOffset hnext).imp_right
      fun ⟨earlier, hearlier, hle⟩ =>
        ⟨earlier, mem_recordOffset.mpr (.inr hearlier), hle⟩

/-- After a mark, counting from `reached` is in order, whichever offset the call ends on. -/
private theorem CountedInOrder.countFrom {start : TopicPartition → Option Int}
    {s : DeliveryState} (hs : CountedInOrder start s) {tp : TopicPartition}
    {offset reached : Int} (hdelivered : offset ∈ s.delivered tp)
    {tracker : CommitTracker}
    (hpending : PendingMarked
      { s with tracker := tracker, marked := recordOffset s.marked tp offset })
    (hnext : tracker.nextCommitOffsets =
      Function.update s.tracker.nextCommitOffsets tp (some reached))
    (hdone : ∀ other ∈ s.delivered tp, other < reached →
      other ∈ recordOffset s.marked tp offset tp)
    (hbase : start tp = some reached ∨
      ∃ other ∈ s.delivered tp, reached ≤ other + 1) :
    CountedInOrder start
      { s with tracker := tracker, marked := recordOffset s.marked tp offset } := by
  constructor
  · exact hpending
  · intro other marked hmarked
    rcases mem_recordOffset.mp hmarked with ⟨rfl, rfl⟩ | hmarked
    · exact hdelivered
    · exact hs.marked other hmarked
  · exact hs.started
  · intro other next hother delivered hmem hlt
    simp only [hnext] at hother
    by_cases h : other = tp
    · subst h
      rw [Function.update_self] at hother
      cases hother
      exact hdone delivered hmem hlt
    · rw [Function.update_of_ne h] at hother
      exact mem_recordOffset.mpr
        (.inr (hs.finished other next hother delivered hmem hlt))
  · intro other next hother
    simp only [hnext] at hother
    by_cases h : other = tp
    · subst h
      rw [Function.update_self] at hother
      cases hother
      exact hbase
    · rw [Function.update_of_ne h] at hother
      exact hs.reached other next hother

theorem countedInOrder_complete {start : TopicPartition → Option Int}
    {s : DeliveryState} (hs : CountedInOrder start s) (tp : TopicPartition)
    (offset : Int) (broker : BrokerReplies)
    (hkafka : KafkaOrder start s (.complete tp offset broker))
    (hfirst : OldestFinishesFirst start s (.complete tp offset broker)) :
    CountedInOrder start (deliveryStep s (.complete tp offset broker)) := by
  have hpending := deliveryStep_pendingMarked s (.complete tp offset broker) hs.pending
  rcases markCompleted_cases s.tracker tp offset broker with
    ⟨error, hlookup, hmark⟩ |
    ⟨nextOffset, tracker', hlookup, hrest⟩
  · have hsame : deliveryStep s (.complete tp offset broker) = s := by
      simp only [deliveryStep, hlookup, hmark]
    rwa [hsame]
  obtain ⟨hbelow, hreach⟩ := lookup_inOrder hs hkafka hfirst hlookup
  have hcached := getNextCommitOffset_nextCommitOffsets hlookup
  have hmoved : ∀ reached,
      (markCompleted s.tracker tp offset broker).tracker.nextCommitOffsets =
        Function.update s.tracker.nextCommitOffsets tp (some reached) →
      (∀ other ∈ s.delivered tp, other < reached →
        other ∈ recordOffset s.marked tp offset tp) →
      (start tp = some reached ∨
        ∃ other ∈ s.delivered tp, reached ≤ other + 1) →
      CountedInOrder start (deliveryStep s (.complete tp offset broker)) := by
    intro reached hnext hdone hbase
    simp only [deliveryStep, hlookup] at hpending ⊢
    exact hs.countFrom hkafka.1 hpending hnext hdone hbase
  have hkept : ∀ other ∈ s.delivered tp, other < nextOffset →
      other ∈ recordOffset s.marked tp offset tp := by
    intro other hother hlt
    exact mem_recordOffset.mpr (.inr (hbelow other hother hlt))
  rcases hrest with ⟨-, hmark⟩ | ⟨-, -, hmark⟩ | ⟨hle, hmem, -, -, htracker⟩
  · exact hmoved nextOffset (by rw [hmark]; exact hcached) hkept hreach
  · exact hmoved nextOffset (by rw [hmark]; exact hcached) hkept hreach
  split at htracker
  · -- The commit succeeded: everything up to the candidate is marked.
    have hclosed : ∀ other, nextOffset ≤ other →
        other < advance (insert offset (s.tracker.completedOffsets tp)) nextOffset →
        other ∈ recordOffset s.marked tp offset tp := by
      intro other hother hlt
      rw [mem_recordOffset]
      rcases Finset.mem_insert.mp (mem_of_lt_advance hother hlt) with rfl | hdone
      · exact .inl ⟨rfl, rfl⟩
      · exact .inr (hs.pending tp hdone)
    refine hmoved (advance (insert offset (s.tracker.completedOffsets tp))
      nextOffset) ?_ ?_ ?_
    · rw [htracker]
      simp only [CommitTracker.moveTo, addCompleted_nextCommitOffsets, hcached,
        Function.update_idem]
    · intro other hother hlt
      by_cases h : other < nextOffset
      · exact hkept other hother h
      · exact hclosed other (by omega) hlt
    · have hmoves := lt_advance_iff.mpr hmem
      have hlast := hclosed _ (Int.le_sub_one_of_lt hmoves) (by omega)
      rcases mem_recordOffset.mp hlast with ⟨-, heq⟩ | hdone
      · exact .inr ⟨offset, hkafka.1, by omega⟩
      · exact .inr ⟨_, hs.marked tp hdone, by omega⟩
  · exact hmoved nextOffset (by rw [htracker]; exact hcached) hkept hreach

/--
A consumer that keeps its partitions counts from finished work in every run in
which, on each partition without a committed offset, the oldest delivered
message is the first to finish.
-/
theorem kafka_order_counts_from_finished (start : TopicPartition → Option Int)
    (events : List DeliveryEvent)
    (hrun : ∀ p ∈ transitions deliveryStep .initial events,
      KafkaOrder start p.1 p.2 ∧ OldestFinishesFirst start p.1 p.2) :
    ∀ p ∈ transitions deliveryStep .initial events, CountsFromFinished p.1 p.2 := by
  have hinv := transitions_invariant_of deliveryStep
    (I := CountedInOrder start)
    (G := fun s e => KafkaOrder start s e ∧ OldestFinishesFirst start s e)
    (fun s e hs h => by
      cases e with
      | deliver tp offset => exact countedInOrder_deliver hs tp offset h.1
      | complete tp offset broker =>
          exact countedInOrder_complete hs tp offset broker h.1 h.2)
    (initial_countedInOrder start) events hrun
  rintro ⟨s, e⟩ hp
  cases e with
  | deliver tp offset => trivial
  | complete tp offset broker =>
      intro nextOffset tracker' hlookup _ _ _
      obtain ⟨hkafka, hfirst⟩ := hrun _ hp
      exact (lookup_inOrder (hinv _ hp) hkafka hfirst hlookup).1

end JudgeVortex.Executor
