import JudgeVortex.System.Replicas

/-!
# Clean hand-overs

Which deployments keep the committed offsets from going back: those in which a replica's jobs
on a partition are over when the partition leaves it, and in which it does not get the
partition again.  There a committing replica has always caught up with the group.
-/

namespace JudgeVortex.System

open JudgeVortex.Foundation
open JudgeVortex.Executor

/-- Everything from the cached offset up to the group's offset is pending. -/
def CaughtUp (tracker : CommitTracker) (tp : TopicPartition) (committed : Option Int) : Prop :=
  ∀ nextOffset, tracker.nextCommitOffsets tp = some nextOffset →
    ∀ reached, committed = some reached → ∀ between, nextOffset ≤ between →
      between < reached → between ∈ tracker.completedOffsets tp

/-- A negative offset in the group is taken for none, but no message has one. -/
theorem CaughtUp.lookup {tracker tracker' : CommitTracker} {tp : TopicPartition}
    {committed : Option Int} {offset nextOffset : Int} {reply : Except String (Option Int)}
    (h : CaughtUp tracker tp committed) (hoffset : 0 ≤ offset)
    (hreply : ∀ reported, reply = .ok reported → reported = committed)
    (hlookup : getNextCommitOffset tracker tp offset reply = .ok (nextOffset, tracker')) :
    ∀ reached, committed = some reached → ∀ between, nextOffset ≤ between →
      between < reached → between ∈ tracker.completedOffsets tp := by
  rintro reached rfl between hle hlt
  unfold getNextCommitOffset at hlookup
  split at hlookup
  next cached hcached =>
    cases hlookup
    exact h _ hcached _ rfl between hle hlt
  next =>
    cases reply with
    | error error => cases hlookup
    | ok reported =>
        obtain rfl := hreply reported rfl
        cases hlookup
        rw [baseOffset] at hle
        split at hle <;> omega

theorem caughtUp_of_cached {tracker : CommitTracker} {tp : TopicPartition}
    {committed : Option Int} {nextOffset : Int}
    (hcached : tracker.nextCommitOffsets tp = some nextOffset)
    (h : ∀ reached, committed = some reached → ∀ between, nextOffset ≤ between →
      between < reached → between ∈ tracker.completedOffsets tp) :
    CaughtUp tracker tp committed := by
  intro cached hnext
  obtain rfl := Option.some.inj (hcached.symm.trans hnext)
  exact h

theorem caughtUp_markCompleted {tracker : CommitTracker} {tp : TopicPartition}
    {committed : Option Int} {offset : Int} {broker : BrokerReplies}
    (h : CaughtUp tracker tp committed) (hoffset : 0 ≤ offset)
    (hreply : ∀ reported, broker.committed = .ok reported → reported = committed) :
    CaughtUp (markCompleted tracker tp offset broker).tracker tp
      ((markCompleted tracker tp offset broker).committed.or committed) := by
  obtain ⟨error, -, hmark⟩ | ⟨nextOffset, tracker', hlookup, hrest⟩ :=
    markCompleted_cases tracker tp offset broker
  · rw [hmark]
    exact h
  have hbetween := h.lookup hoffset hreply hlookup
  have hcached : tracker'.nextCommitOffsets tp = some nextOffset := by
    rw [getNextCommitOffset_nextCommitOffsets hlookup, Function.update_self]
  rw [← getNextCommitOffset_completedOffsets hlookup] at hbetween hrest
  have hadded : CaughtUp (tracker'.addCompleted tp offset) tp committed := by
    refine caughtUp_of_cached hcached fun reached hreached between hle hlt => ?_
    rw [addCompleted_completedOffsets_self]
    exact Finset.mem_insert_of_mem (hbetween reached hreached between hle hlt)
  obtain ⟨-, hmark⟩ | ⟨-, -, hmark⟩ | ⟨-, -, hcommitted, -, htracker⟩ := hrest
  · rw [hmark]
    exact caughtUp_of_cached hcached hbetween
  · rw [hmark]
    exact hadded
  rw [hcommitted, htracker]
  cases broker.commit with
  | acknowledged =>
      -- The tracker counts from what the group now has.
      refine caughtUp_of_cached (Function.update_self ..) fun reached hreached between hle hlt => ?_
      obtain rfl := Option.some.inj hreached
      omega
  | lost error =>
      refine caughtUp_of_cached hcached fun reached hreached between hle hlt => ?_
      obtain rfl := Option.some.inj hreached
      rw [if_neg nofun, addCompleted_completedOffsets_self]
      exact mem_of_lt_advance hle hlt
  | refused error => exact hadded

section HandOvers

variable {ρ : Type*} [DecidableEq ρ] (logStart : TopicPartition → Int)

omit [DecidableEq ρ] in
theorem Group.lookup_reported (s : Group ρ) (tp : TopicPartition) (lookup : Option String) :
    ∀ reported, s.lookup tp lookup = .ok reported → reported = s.committed tp := by
  intro reported hreported
  cases lookup with
  | none => exact (Except.ok.inj hreported).symm
  | some error => cases hreported

def handedTo (tp : TopicPartition) (events : List (GroupEvent ρ)) : List ρ :=
  events.filterMap fun
    | .handOver other replica => if other = tp then some replica else none
    | _ => none

/-- What finishes, finishes before its partition leaves the replica. -/
def FinishesOwn (s : Group ρ) : GroupEvent ρ → Prop
  | .complete replica tp _ _ _ => s.owner tp = some replica
  | _ => True

structure CleanlyHanded (handed : TopicPartition → List ρ) (s : Group ρ) : Prop where
  offsets : ∀ replica, ∀ message ∈ s.inFlight replica, 0 ≤ message.2
  owner : ∀ tp replica, s.owner tp = some replica →
    replica ∈ handed tp ∧ CaughtUp (s.trackers replica) tp (s.committed tp)
  fresh : ∀ tp replica, replica ∉ handed tp → (s.trackers replica).nextCommitOffsets tp = none

variable {handed : TopicPartition → List ρ} {s : Group ρ}

omit [DecidableEq ρ] in
theorem CleanlyHanded.catchesUp (h : CleanlyHanded handed s) {e : GroupEvent ρ}
    (hown : FinishesOwn s e) : CatchesUp s e := by
  cases e with
  | handOver tp replica => trivial
  | deliver tp offset => trivial
  | complete replica tp offset lookup commit =>
      intro hflight nextOffset tracker' hlookup _ _ _ committed hcommitted between hle hlt
      have hoffset : 0 ≤ offset := h.offsets replica _ hflight
      exact Finset.mem_insert_of_mem ((h.owner tp replica hown).2.lookup hoffset
        (s.lookup_reported tp lookup) hlookup committed hcommitted between hle hlt)

theorem cleanlyHanded_handOver (h : CleanlyHanded handed s) {tp : TopicPartition} {replica : ρ}
    (hnew : replica ∉ handed tp) :
    CleanlyHanded (Function.update handed tp (handed tp ++ [replica]))
      (s.step logStart (.handOver tp replica)) where
  offsets := h.offsets
  owner := by
    intro other r howner
    by_cases hother : other = tp
    · subst hother
      obtain rfl : replica = r := by simpa [Group.step] using howner
      refine ⟨by simp, fun nextOffset hcached => ?_⟩
      have hcached : (s.trackers replica).nextCommitOffsets other = some nextOffset := hcached
      rw [h.fresh other replica hnew] at hcached
      cases hcached
    · rw [Function.update_of_ne hother]
      exact h.owner other r (by simpa [Group.step, hother] using howner)
  fresh := by
    intro other r hr
    refine h.fresh other r fun hmem => hr ?_
    by_cases hother : other = tp
    · subst hother
      rw [Function.update_self]
      exact List.mem_append_left _ hmem
    · rwa [Function.update_of_ne hother]

theorem cleanlyHanded_deliver (h : CleanlyHanded handed s) (tp : TopicPartition) {offset : Int}
    (hoffset : 0 ≤ offset) : CleanlyHanded handed (s.step logStart (.deliver tp offset)) := by
  rw [Group.step]
  split
  next => exact h
  next replica howner =>
    split
    swap
    · exact h
    refine ⟨fun r message hmessage => ?_, h.owner, h.fresh⟩
    dsimp only at hmessage
    by_cases hr : r = replica
    · subst hr
      rw [Function.update_self, List.mem_cons] at hmessage
      obtain rfl | hmessage := hmessage
      · exact hoffset
      · exact h.offsets r message hmessage
    · rw [Function.update_of_ne hr] at hmessage
      exact h.offsets r message hmessage

theorem Group.tracker_step_complete {replica : ρ} {tp : TopicPartition} {offset : Int}
    (hflight : (tp, offset) ∈ s.inFlight replica) (lookup : Option String)
    (commit : CommitReply) :
    (s.step logStart (.complete replica tp offset lookup commit)).trackers =
      Function.update s.trackers replica (s.mark replica tp offset lookup commit).tracker := by
  simp only [Group.step, if_pos hflight]

theorem Group.tracker_step_complete_other {replica other : ρ} {tp elsewhere : TopicPartition}
    {offset : Int} (hflight : (tp, offset) ∈ s.inFlight replica) (lookup : Option String)
    (commit : CommitReply) (hother : elsewhere ≠ tp ∨ other ≠ replica) :
    let tracker := (s.step logStart (.complete replica tp offset lookup commit)).trackers other
    tracker.nextCommitOffsets elsewhere = (s.trackers other).nextCommitOffsets elsewhere ∧
      tracker.completedOffsets elsewhere = (s.trackers other).completedOffsets elsewhere := by
  rw [Group.tracker_step_complete logStart hflight]
  by_cases hsame : other = replica
  · subst hsame
    rw [Function.update_self]
    exact markCompleted_other _ (hother.resolve_right (not_not_intro rfl)) ..
  · rw [Function.update_of_ne hsame]
    exact ⟨rfl, rfl⟩

theorem Group.inFlight_step_complete {replica other : ρ} {tp : TopicPartition} {offset : Int}
    {lookup : Option String} {commit : CommitReply} {message : TopicPartition × Int}
    (h : message ∈
      (s.step logStart (.complete replica tp offset lookup commit)).inFlight other) :
    message ∈ s.inFlight other := by
  by_cases hflight : (tp, offset) ∈ s.inFlight replica
  swap
  · rwa [Group.step, if_neg hflight] at h
  cases hresult : (s.mark replica tp offset lookup commit).result with
  | error error => simpa only [Group.step, if_pos hflight, hresult] using h
  | ok =>
      simp only [Group.step, if_pos hflight, hresult] at h
      by_cases hsame : other = replica
      · subst hsame
        rw [Function.update_self] at h
        exact List.mem_of_mem_erase h
      · rwa [Function.update_of_ne hsame] at h

theorem Group.committed_step_complete_self {replica : ρ} {tp : TopicPartition} {offset : Int}
    (hflight : (tp, offset) ∈ s.inFlight replica) (lookup : Option String)
    (commit : CommitReply) :
    (s.step logStart (.complete replica tp offset lookup commit)).committed tp =
      (s.mark replica tp offset lookup commit).committed.or (s.committed tp) := by
  rw [Group.committed_step_complete logStart hflight]
  cases (s.mark replica tp offset lookup commit).committed with
  | none => rfl
  | some committed => exact if_pos rfl

theorem cleanlyHanded_complete (h : CleanlyHanded handed s) {tp : TopicPartition} {replica : ρ}
    (hown : s.owner tp = some replica) (offset : Int) (lookup : Option String)
    (commit : CommitReply) :
    CleanlyHanded handed (s.step logStart (.complete replica tp offset lookup commit)) := by
  by_cases hflight : (tp, offset) ∈ s.inFlight replica
  swap
  · rwa [Group.step, if_neg hflight]
  obtain ⟨hhanded, hcaught⟩ := h.owner tp replica hown
  constructor
  · exact fun r message hmessage =>
      h.offsets r message (Group.inFlight_step_complete logStart hmessage)
  · intro other r howner
    rw [Group.step, if_pos hflight] at howner
    obtain ⟨hmem, hold⟩ := h.owner other r howner
    refine ⟨hmem, ?_⟩
    by_cases hother : other = tp
    · subst hother
      obtain rfl := Option.some.inj (hown.symm.trans howner)
      rw [Group.tracker_step_complete logStart hflight, Function.update_self,
        Group.committed_step_complete_self logStart hflight]
      exact caughtUp_markCompleted hcaught (h.offsets replica _ hflight)
        (s.lookup_reported other lookup)
    · have helsewhere : other ≠ tp ∨ r ≠ replica := .inl hother
      obtain ⟨hcached, hcompleted⟩ := Group.tracker_step_complete_other logStart hflight lookup
        commit helsewhere
      have hcommitted : (s.step logStart
          (.complete replica tp offset lookup commit)).committed other = s.committed other := by
        rw [Group.committed_step_complete logStart hflight]
        split
        · rfl
        · exact if_neg hother
      rw [CaughtUp, hcached, hcompleted, hcommitted]
      exact hold
  · intro other r hr
    have hne : r ≠ replica ∨ other ≠ tp := by
      by_contra hsame
      push Not at hsame
      exact hr (hsame.1 ▸ hsame.2 ▸ hhanded)
    rw [(Group.tracker_step_complete_other logStart hflight lookup commit hne.symm).1]
    exact h.fresh other r hr

omit [DecidableEq ρ] in
theorem handedTo_concat (tp : TopicPartition) (events : List (GroupEvent ρ))
    (e : GroupEvent ρ) :
    handedTo tp (events ++ [e]) = handedTo tp events ++ handedTo tp [e] :=
  List.filterMap_append

theorem cleanlyHanded_step {events : List (GroupEvent ρ)} {e : GroupEvent ρ}
    (h : CleanlyHanded (handedTo · events) s) (hown : FinishesOwn s e)
    (honce : ∀ tp, (handedTo tp (events ++ [e])).Nodup)
    (hoffset : ∀ tp offset, e = .deliver tp offset → 0 ≤ offset) :
    CleanlyHanded (handedTo · (events ++ [e])) (s.step logStart e) := by
  have hconcat := fun tp => handedTo_concat tp events e
  cases e with
  | handOver tp replica =>
      have hnew : replica ∉ handedTo tp events := by
        have hnodup := honce tp
        rw [hconcat, List.nodup_append] at hnodup
        exact fun hmem => hnodup.2.2 replica hmem replica (by simp [handedTo]) rfl
      convert cleanlyHanded_handOver logStart h hnew using 1
      funext other
      rw [hconcat]
      by_cases hother : other = tp
      · subst hother
        simp [handedTo]
      · simp [handedTo, hother, Ne.symm hother]
  | deliver tp offset =>
      simpa [hconcat, handedTo] using cleanlyHanded_deliver logStart h tp (hoffset tp offset rfl)
  | complete replica tp offset lookup commit =>
      simpa [hconcat, handedTo] using
        cleanlyHanded_complete logStart h hown offset lookup commit

/--
Where jobs finish before their partition leaves the replica, and no replica gets a partition
twice, no committed offset goes back.
-/
theorem group_kept_of_clean_handOvers (start : TopicPartition → Option Int)
    (events : List (GroupEvent ρ))
    (hoffsets : ∀ tp offset, .deliver tp offset ∈ events → 0 ≤ offset)
    (honce : ∀ tp, (handedTo tp events).Nodup)
    (hown : ∀ p ∈ transitions (Group.step logStart) (Group.initial start) events,
      FinishesOwn p.1 p.2) :
    ∀ p ∈ transitions (Group.step logStart) (Group.initial start) events,
      GroupKept logStart p.1 p.2 := by
  suffices hrun : CleanlyHanded (handedTo · events)
      (events.foldl (Group.step logStart) (Group.initial start)) ∧
      ∀ p ∈ transitions (Group.step logStart) (Group.initial start) events,
        GroupKept logStart p.1 p.2 from hrun.2
  induction events using List.reverseRecOn with
  | nil =>
      refine ⟨⟨fun _ _ h => ?_, fun _ _ h => ?_, fun _ _ _ => rfl⟩, by simp⟩
      · exact absurd h List.not_mem_nil
      · cases h
  | append_singleton events e ih =>
      rw [transitions_concat, List.forall_mem_append, List.forall_mem_singleton] at hown ⊢
      have hbefore : ∀ tp, (handedTo tp events).Nodup := by
        intro tp
        have hnodup := honce tp
        rw [handedTo_concat] at hnodup
        exact hnodup.of_append_left
      obtain ⟨hclean, hkept⟩ := ih
        (fun tp offset h => hoffsets tp offset (List.mem_append_left _ h)) hbefore hown.1
      rw [List.foldl_append]
      refine ⟨cleanlyHanded_step logStart hclean hown.2 honce ?_, hkept,
        (groupKept_iff logStart _ _).mpr (hclean.catchesUp hown.2)⟩
      rintro tp offset rfl
      exact hoffsets tp offset (by simp)

end HandOvers

/-- The new owner finishes 1 after the old one is done with 0. -/
example :
    ∀ p ∈ transitions (Group.step fun _ => 0) (Group.initial fun _ => none)
      [.handOver freshPartition true, .deliver freshPartition 0,
        .complete true freshPartition 0 none .acknowledged, .handOver freshPartition false,
        .deliver freshPartition 1, .complete false freshPartition 1 none .acknowledged],
      GroupKept (fun _ => 0) p.1 p.2 := by
  refine group_kept_of_clean_handOvers (fun _ => 0) (fun _ => none) _ ?_ ?_ ?_
  · simp +contextual [or_imp]
  · intro tp
    by_cases h : freshPartition = tp <;> simp [handedTo, h]
  · simp only [transitions_cons, transitions_nil, List.forall_mem_cons]
    exact ⟨trivial, trivial, rfl, trivial, trivial, rfl, by simp⟩

end JudgeVortex.System
