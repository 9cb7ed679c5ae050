import JudgeVortex.Executor.Delivery

/-!
# Several executors in one consumer group

Every replica has its own `CommitTracker`; the broker keeps one committed offset for
each partition and hands partitions from one replica to another.  A replica is told
nothing about a hand-over: what it has in flight finishes there, and the offset that its
tracker has cached for the partition stays.
-/

namespace JudgeVortex.System

open JudgeVortex.Foundation
open JudgeVortex.Executor

structure Group (ρ : Type*) where
  trackers : ρ → CommitTracker
  committed : TopicPartition → Option Int
  owner : TopicPartition → Option ρ
  position : TopicPartition → Int
  inFlight : ρ → List (TopicPartition × Int)

/-- `lookup` is the error of `consumer.committed`, if it raises. -/
inductive GroupEvent (ρ : Type*) where
  | handOver (tp : TopicPartition) (replica : ρ)
  | deliver (tp : TopicPartition) (offset : Int)
  | complete (replica : ρ) (tp : TopicPartition) (offset : Int)
      (lookup : Option String) (commit : CommitReply)

section Group

variable {ρ : Type*} [DecidableEq ρ]

def Group.initial (start : TopicPartition → Option Int) : Group ρ :=
  ⟨fun _ => .new, start, fun _ => none, fun _ => 0, fun _ => []⟩

def Group.lookup (s : Group ρ) (tp : TopicPartition) :
    Option String → Except String (Option Int)
  | some error => .error error
  | none => .ok (s.committed tp)

def Group.mark (s : Group ρ) (replica : ρ) (tp : TopicPartition) (offset : Int)
    (lookup : Option String) (commit : CommitReply) : MarkOutcome :=
  markCompleted (s.trackers replica) tp offset ⟨s.lookup tp lookup, commit⟩

/--
The new owner fetches from the committed offset, or from the start of the log; offsets
that retention or compaction removed are passed over.  A call that raises leaves its
message in flight.
-/
def Group.step (logStart : TopicPartition → Int) (s : Group ρ) : GroupEvent ρ → Group ρ
  | .handOver tp replica =>
      { s with
        owner := Function.update s.owner tp (some replica)
        position := Function.update s.position tp ((s.committed tp).getD (logStart tp)) }
  | .deliver tp offset =>
      match s.owner tp with
      | none => s
      | some replica =>
          if s.position tp ≤ offset then
            { s with
              position := Function.update s.position tp (offset + 1)
              inFlight := Function.update s.inFlight replica
                ((tp, offset) :: s.inFlight replica) }
          else s
  | .complete replica tp offset lookup commit =>
      if (tp, offset) ∈ s.inFlight replica then
        let outcome := s.mark replica tp offset lookup commit
        { s with
          trackers := Function.update s.trackers replica outcome.tracker
          committed :=
            match outcome.committed with
            | none => s.committed
            | some committed => Function.update s.committed tp (some committed)
          inFlight :=
            match outcome.result with
            | .ok () => Function.update s.inFlight replica
                ((s.inFlight replica).erase (tp, offset))
            | .error _ => s.inFlight }
      else s

/-- An offset stays or grows, and is not lost. -/
def KeptOffset (before after : Option Int) : Prop :=
  ∀ committed, before = some committed → ∃ later, after = some later ∧ committed ≤ later

theorem KeptOffset.refl (committed : Option Int) : KeptOffset committed committed :=
  fun offset h => ⟨offset, h, le_rfl⟩

variable (logStart : TopicPartition → Int)

def GroupKept (s : Group ρ) (e : GroupEvent ρ) : Prop :=
  ∀ tp, KeptOffset (s.committed tp) ((s.step logStart e).committed tp)

/--
If the call closes the gap at the offset that the replica counts from and the broker
takes the commit, then everything from there up to the group's committed offset is
pending at the replica or is the message itself.
-/
def CatchesUp (s : Group ρ) : GroupEvent ρ → Prop
  | .handOver _ _ => True
  | .deliver _ _ => True
  | .complete replica tp offset lookup commit =>
      (tp, offset) ∈ s.inFlight replica →
      ∀ nextOffset tracker',
        getNextCommitOffset (s.trackers replica) tp offset (s.lookup tp lookup) =
          .ok (nextOffset, tracker') →
        nextOffset ≤ offset →
        nextOffset ∈ insert offset ((s.trackers replica).completedOffsets tp) →
        commit.stored →
        ∀ committed, s.committed tp = some committed →
          ∀ between, nextOffset ≤ between → between < committed →
            between ∈ insert offset ((s.trackers replica).completedOffsets tp)

theorem Group.committed_step_complete {s : Group ρ} {replica : ρ} {tp : TopicPartition}
    {offset : Int} (hflight : (tp, offset) ∈ s.inFlight replica) (lookup : Option String)
    (commit : CommitReply) (other : TopicPartition) :
    (s.step logStart (.complete replica tp offset lookup commit)).committed other =
      match (s.mark replica tp offset lookup commit).committed with
      | none => s.committed other
      | some committed => if other = tp then some committed else s.committed other := by
  simp only [Group.step, if_pos hflight]
  cases (s.mark replica tp offset lookup commit).committed with
  | none => rfl
  | some committed => exact Function.update_apply ..

theorem groupKept_complete_iff {s : Group ρ} {replica : ρ} {tp : TopicPartition}
    {offset : Int} (hflight : (tp, offset) ∈ s.inFlight replica) (lookup : Option String)
    (commit : CommitReply) :
    GroupKept logStart s (.complete replica tp offset lookup commit) ↔
      ∀ committed, (s.mark replica tp offset lookup commit).committed = some committed →
        ∀ before, s.committed tp = some before → before ≤ committed := by
  constructor
  · intro hkept committed hcommitted before hbefore
    obtain ⟨later, hlater, hle⟩ := hkept tp before hbefore
    rw [Group.committed_step_complete logStart hflight, hcommitted] at hlater
    simp only [if_true, Option.some.injEq] at hlater
    rwa [hlater]
  · intro hle other before hbefore
    rw [Group.committed_step_complete logStart hflight]
    cases hcommitted : (s.mark replica tp offset lookup commit).committed with
    | none => exact ⟨before, hbefore, le_rfl⟩
    | some committed =>
        by_cases h : other = tp
        · subst h
          exact ⟨committed, if_pos rfl, hle committed hcommitted before hbefore⟩
        · exact ⟨before, by simp only [if_neg h, hbefore], le_rfl⟩

theorem groupKept_iff (s : Group ρ) (e : GroupEvent ρ) :
    GroupKept logStart s e ↔ CatchesUp s e := by
  cases e with
  | handOver tp replica =>
      exact iff_of_true (fun other => KeptOffset.refl _) trivial
  | deliver tp offset =>
      refine iff_of_true (fun other => ?_) trivial
      simp only [Group.step]
      split
      · exact KeptOffset.refl _
      · split <;> exact KeptOffset.refl _
  | complete replica tp offset lookup commit =>
      by_cases hflight : (tp, offset) ∈ s.inFlight replica
      swap
      · refine iff_of_true (fun other => ?_) (fun h => absurd h hflight)
        simp only [Group.step, if_neg hflight]
        exact KeptOffset.refl _
      rw [groupKept_complete_iff logStart hflight]
      simp only [CatchesUp, hflight, forall_const, Group.mark]
      rcases markCompleted_cases (s.trackers replica) tp offset
        ⟨s.lookup tp lookup, commit⟩ with
        ⟨error, hlookup, hmark⟩ | ⟨nextOffset, tracker', hlookup, hrest⟩
      · simp [hlookup, hmark]
      simp only [hlookup, Except.ok.injEq, Prod.mk.injEq]
      rcases hrest with ⟨hstale, hmark⟩ | ⟨-, hgap, hmark⟩ | ⟨hle, hmem, hcommitted, -⟩
      · simp only [hmark, reduceCtorEq, false_implies, implies_true, true_iff]
        rintro _ _ ⟨rfl, rfl⟩ hle
        omega
      · simp only [hmark, reduceCtorEq, false_implies, implies_true, true_iff]
        rintro _ _ ⟨rfl, rfl⟩ - hmem
        exact absurd hmem hgap
      rw [hcommitted]
      constructor
      · rintro hkept _ _ ⟨rfl, rfl⟩ - - hstored before hbefore
        rw [if_pos hstored] at hkept
        exact le_advance_iff.mp (hkept _ rfl before hbefore)
      · intro hcatches committed hsome before hbefore
        split at hsome
        next hstored =>
          cases hsome
          exact le_advance_iff.mpr
            (hcatches _ _ ⟨rfl, rfl⟩ hle hmem hstored before hbefore)
        next => cases hsome

/--
In every run of every number of replicas, no step lowers a committed offset exactly when
every committing replica has caught up with the group.
-/
theorem group_never_goes_back_iff (start : TopicPartition → Option Int)
    (events : List (GroupEvent ρ)) :
    (∀ p ∈ transitions (Group.step logStart) (Group.initial start) events,
      GroupKept logStart p.1 p.2) ↔
    ∀ p ∈ transitions (Group.step logStart) (Group.initial start) events,
      CatchesUp p.1 p.2 :=
  transitions_forall_iff (I := fun _ => True) (Group.step logStart) (fun _ _ _ => trivial)
    (fun s e _ => groupKept_iff logStart s e) trivial events

end Group

/-! ## A slow job at the old owner -/

/-- `true` has 1 in flight when `false` takes over, finishes 1 and 2 and commits 3. -/
def slowJobRun : List (GroupEvent Bool) :=
  [.handOver freshPartition true, .deliver freshPartition 0, .deliver freshPartition 1,
   .complete true freshPartition 0 none .acknowledged,
   .handOver freshPartition false, .deliver freshPartition 1, .deliver freshPartition 2,
   .complete false freshPartition 1 none .acknowledged,
   .complete false freshPartition 2 none .acknowledged,
   .complete true freshPartition 1 none .acknowledged]

theorem slow_job_moves_group_back :
    ¬ ∀ events : List (GroupEvent Bool),
      ∀ p ∈ transitions (Group.step fun _ => 0) (Group.initial fun _ => none) events,
        GroupKept (fun _ => 0) p.1 p.2 := by
  intro h
  have hlast := h slowJobRun _ (List.getElem_mem (n := 9) (by decide))
  obtain ⟨later, hlater, hle⟩ := hlast freshPartition 3 (by decide)
  have hend : some 2 = some later := hlater
  rw [Option.some_inj] at hend
  omega

end JudgeVortex.System
