import JudgeVortex.Foundation.Runs
import Mathlib.Data.Finset.SDiff

/-!
# The worker loop

`start_worker` of `executor_service/main.py`: the consumer's partitions, the set of
active tasks, and the flag that remembers whether the consumer was paused.  Tasks end
and partitions change hands between two rounds of the loop.
-/

namespace JudgeVortex.Executor

open JudgeVortex.Foundation

/-- The consumer's partitions; a partition that is taken away is no longer paused. -/
structure KafkaConsumer (π : Type*) where
  assignment : Finset π
  paused : Finset π
  paused_subset : paused ⊆ assignment

namespace KafkaConsumer

variable {π : Type*} [DecidableEq π] (consumer : KafkaConsumer π)

def start : KafkaConsumer π := ⟨∅, ∅, le_rfl⟩

def pauseAll : KafkaConsumer π := ⟨consumer.assignment, consumer.assignment, le_rfl⟩

def resumeAll : KafkaConsumer π := ⟨consumer.assignment, ∅, Finset.empty_subset _⟩

/-- A rebalance; the partitions in `fresh` are assigned anew even if they were held. -/
def rebalance (assignment fresh : Finset π) : KafkaConsumer π where
  assignment := assignment
  paused := (consumer.paused ∩ assignment) \ fresh
  paused_subset := Finset.sdiff_subset.trans Finset.inter_subset_right

def poll (maxRecords : Nat) (ready : List (π × Int)) : List (π × Int) :=
  (ready.filter fun record =>
    record.1 ∈ consumer.assignment ∧ record.1 ∉ consumer.paused).take maxRecords

theorem poll_length_le (maxRecords : Nat) (ready : List (π × Int)) :
    (consumer.poll maxRecords ready).length ≤ maxRecords :=
  List.length_take_le ..

theorem poll_of_all_paused (h : ∀ p ∈ consumer.assignment, p ∈ consumer.paused)
    (maxRecords : Nat) (ready : List (π × Int)) : consumer.poll maxRecords ready = [] := by
  rw [poll, List.filter_eq_nil_iff.mpr, List.take_nil]
  rintro record - hfetched
  rw [decide_eq_true_eq] at hfetched
  exact hfetched.2 (h _ hfetched.1)

end KafkaConsumer

/-- `MAX_CONCURRENT_EXECUTIONS` is read with `max(2, …)`. -/
structure WorkerConfig where
  maxConcurrentExecutions : Nat
  two_le : 2 ≤ maxConcurrentExecutions

/-- A task of the set; one that has ended stays until its callback discards it. -/
structure WorkerTask (π : Type*) where
  topicPartition : π
  offset : Int
  finished : Bool

structure Worker (π : Type*) where
  consumer : KafkaConsumer π
  activeTasks : List (WorkerTask π)
  isPaused : Bool

/-- `round` is one round of the loop with the records that are ready when it polls. -/
inductive WorkerEvent (π : Type*) where
  | round (ready : List (π × Int))
  | rebalance (assignment fresh : Finset π)
  | finish (index : Nat)
  | discard (index : Nat)

namespace Worker

variable {π : Type*} [DecidableEq π] (config : WorkerConfig)

def start : Worker π := ⟨.start, [], false⟩

def backpressure (s : Worker π) : Worker π :=
  if config.maxConcurrentExecutions ≤ s.activeTasks.length ∧ s.consumer.assignment ≠ ∅ ∧
      ¬ s.isPaused then
    { s with consumer := s.consumer.pauseAll, isPaused := true }
  else if s.activeTasks.length < config.maxConcurrentExecutions ∧ s.isPaused then
    { s with consumer := s.consumer.resumeAll, isPaused := false }
  else s

def round (s : Worker π) (ready : List (π × Int)) : Worker π :=
  let s := s.backpressure config
  let messages := s.consumer.poll config.maxConcurrentExecutions ready
  { s with activeTasks := s.activeTasks ++ messages.map fun record =>
      ⟨record.1, record.2, false⟩ }

def step (s : Worker π) : WorkerEvent π → Worker π
  | .round ready => s.round config ready
  | .rebalance assignment fresh =>
      { s with consumer := s.consumer.rebalance assignment fresh }
  | .finish index =>
      { s with activeTasks := s.activeTasks.modify index fun task =>
          { task with finished := true } }
  | .discard index =>
      match s.activeTasks[index]? with
      | some ⟨_, _, true⟩ => { s with activeTasks := s.activeTasks.eraseIdx index }
      | _ => s

def unfinishedTasks (s : Worker π) : List (WorkerTask π) :=
  s.activeTasks.filter fun task => !task.finished

def BacklogBounded (s : Worker π) : Prop :=
  s.unfinishedTasks.length ≤ 2 * config.maxConcurrentExecutions - 1

instance (s : Worker π) : Decidable (s.BacklogBounded config) :=
  inferInstanceAs (Decidable (_ ≤ _))

/-- A round begins with the flag set and no place for a task, while a partition that was
assigned after the pause is not paused. -/
def FetchesWhilePaused (s : Worker π) : WorkerEvent π → Prop
  | .round _ => s.isPaused = true ∧
      config.maxConcurrentExecutions ≤ s.activeTasks.length ∧
      ∃ p ∈ s.consumer.assignment, p ∉ s.consumer.paused
  | _ => False

/-! ## One round -/

@[simp] theorem activeTasks_backpressure (s : Worker π) :
    (s.backpressure config).activeTasks = s.activeTasks := by
  unfold backpressure
  split
  · rfl
  · split <;> rfl

theorem all_paused_of_full {s : Worker π} {ready : List (π × Int)}
    (hfull : config.maxConcurrentExecutions ≤ s.activeTasks.length)
    (h : ¬ s.FetchesWhilePaused config (.round ready)) :
    ∀ p ∈ (s.backpressure config).consumer.assignment,
      p ∈ (s.backpressure config).consumer.paused := by
  unfold backpressure
  split
  case isTrue => exact fun p hp => hp
  case isFalse hopen =>
      rw [if_neg (by omega)]
      intro p hp
      by_contra hnot
      cases hpaused : s.isPaused with
      | true => exact h ⟨hpaused, hfull, p, hp, hnot⟩
      | false =>
          refine hopen ⟨hfull, ?_, by simp [hpaused]⟩
          exact Finset.ne_empty_of_mem hp

theorem length_round_le {s : Worker π} {ready : List (π × Int)}
    (hs : s.activeTasks.length ≤ 2 * config.maxConcurrentExecutions - 1)
    (h : ¬ s.FetchesWhilePaused config (.round ready)) :
    (s.round config ready).activeTasks.length ≤
      2 * config.maxConcurrentExecutions - 1 := by
  have hlength : (s.round config ready).activeTasks.length = s.activeTasks.length +
      ((s.backpressure config).consumer.poll config.maxConcurrentExecutions ready).length := by
    simp [round]
  rw [hlength]
  by_cases hfull : config.maxConcurrentExecutions ≤ s.activeTasks.length
  · rw [KafkaConsumer.poll_of_all_paused _ (all_paused_of_full config hfull h)]
    exact hs
  · have hpoll := (s.backpressure config).consumer.poll_length_le
      config.maxConcurrentExecutions ready
    omega

theorem length_step_le {s : Worker π} {event : WorkerEvent π}
    (hs : s.activeTasks.length ≤ 2 * config.maxConcurrentExecutions - 1)
    (h : ¬ s.FetchesWhilePaused config event) :
    (s.step config event).activeTasks.length ≤
      2 * config.maxConcurrentExecutions - 1 := by
  cases event with
  | round ready => exact length_round_le config hs h
  | rebalance assignment fresh => exact hs
  | finish index => simpa [step] using hs
  | discard index =>
      unfold step
      dsimp only
      split
      · exact (List.length_eraseIdx_le ..).trans hs
      · exact hs

theorem round_of_fetchesWhilePaused {s : Worker π} {ready : List (π × Int)}
    (h : s.FetchesWhilePaused config (.round ready)) :
    s.round config ready = { s with
      activeTasks := s.activeTasks ++
        (s.consumer.poll config.maxConcurrentExecutions ready).map fun record =>
          ⟨record.1, record.2, false⟩ } := by
  obtain ⟨hpaused, hfull, -⟩ := h
  have hsame : s.backpressure config = s := by
    unfold backpressure
    rw [if_neg (by simp [hpaused]), if_neg (by omega)]
  rw [round, hsame]

theorem fetchesWhilePaused_round {s : Worker π} {ready : List (π × Int)}
    (h : s.FetchesWhilePaused config (.round ready)) :
    (s.round config ready).FetchesWhilePaused config (.round ready) := by
  rw [round_of_fetchesWhilePaused config h]
  obtain ⟨hpaused, hfull, hopen⟩ := h
  refine ⟨hpaused, ?_, hopen⟩
  rw [List.length_append]
  omega

/-- Where a round fetches while paused, it and the next one can start too many tasks, even
if every task of the set has ended. -/
theorem overfull_of_fetchesWhilePaused {s : Worker π} {ready : List (π × Int)}
    (h : s.FetchesWhilePaused config (.round ready)) :
    ∃ ready, ¬ ((s.round config ready).round config ready).BacklogBounded config := by
  obtain ⟨p, hassigned, hopen⟩ := h.2.2
  let many := List.replicate config.maxConcurrentExecutions (p, (0 : Int))
  have hpolled : s.consumer.poll config.maxConcurrentExecutions many = many := by
    simp [many, KafkaConsumer.poll, hassigned, hopen]
  have hfirst : s.FetchesWhilePaused config (.round many) := h
  have hsecond := fetchesWhilePaused_round config hfirst
  refine ⟨many, ?_⟩
  rw [BacklogBounded, round_of_fetchesWhilePaused config hsecond,
    round_of_fetchesWhilePaused config hfirst]
  have htwo := config.two_le
  simp [unfinishedTasks, hpolled, many]
  omega

/-! ## Runs -/

/-- In every run whose rounds never fetch while paused the backlog stays bounded. -/
theorem backlog_bounded (events : List (WorkerEvent π))
    (h : ∀ p ∈ transitions (step config) start events,
      ¬ p.1.FetchesWhilePaused config p.2) :
    ∀ p ∈ transitions (step config) start events, (p.1.step config p.2).BacklogBounded config := by
  have hlength := transitions_invariant_of (step config)
    (I := fun s : Worker π =>
      s.activeTasks.length ≤ 2 * config.maxConcurrentExecutions - 1)
    (G := fun s event => ¬ s.FetchesWhilePaused config event)
    (fun s event hs hevent => length_step_le config hs hevent) (by simp [start]) events h
  intro p hp
  exact (List.length_filter_le ..).trans (length_step_le config (hlength p hp) (h p hp))

end Worker

/-! ## A partition that comes back -/

private def twoSlots : WorkerConfig := ⟨2, le_rfl⟩

private def filledRun : List (WorkerEvent Nat) :=
  [.rebalance {0} {0}, .round [(0, 0), (0, 1)], .round []]

theorem backlog_bounded_filled :
    (filledRun.foldl (Worker.step twoSlots) Worker.start).activeTasks.length = 2 ∧
      ∀ p ∈ transitions (Worker.step twoSlots) Worker.start filledRun,
        (p.1.step twoSlots p.2).BacklogBounded twoSlots :=
  ⟨by decide, Worker.backlog_bounded twoSlots filledRun <| by
    simp [filledRun, Worker.step, Worker.start, Worker.FetchesWhilePaused, Worker.round,
      Worker.backpressure, KafkaConsumer.start, KafkaConsumer.rebalance, KafkaConsumer.poll,
      twoSlots]⟩

/-- The flag outlives the pause of a partition that is assigned again. -/
theorem reassigned_partition_overfills :
    ¬ ∀ (config : WorkerConfig) (events : List (WorkerEvent Nat)),
      ∀ p ∈ transitions (Worker.step config) Worker.start events,
        (p.1.step config p.2).BacklogBounded config := by
  intro h
  have hlast := h twoSlots (filledRun ++ [.rebalance {0} {0}, .round [(0, 2), (0, 3)]]) _
    (List.getElem_mem (n := 4) (by simp [filledRun]))
  revert hlast
  decide

end JudgeVortex.Executor
