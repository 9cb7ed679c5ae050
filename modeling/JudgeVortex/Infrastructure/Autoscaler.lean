import JudgeVortex.CoreApi.Integrations
import JudgeVortex.Foundation.InsertionMap
import JudgeVortex.Foundation.Runs
import JudgeVortex.Python.Float

/-!
# The autoscaler

`infrastructure/autoscaler/autoscale_executors.py`: how many executors the lag of a topic
asks for, and the loop that scales the services of `docker compose`.
-/

namespace JudgeVortex.Infrastructure

open JudgeVortex.CoreApi JudgeVortex.Foundation JudgeVortex.Python

/-! ## Lag and replicas -/

structure PartitionOffsets where
  highWatermark : Option Int
  committed : Option Int
  deriving DecidableEq, Repr

def partitionLag (offsets : PartitionOffsets) : Int :=
  let committed :=
    match offsets.committed with
    | none => 0
    | some committed => if committed < 0 then 0 else committed
  max (offsets.highWatermark.getD 0 - committed) 0

def getRouteLag (partitions : List PartitionOffsets) : Int :=
  (partitions.map partitionLag).sum

/-- `AUTOSCALER_LAG_PER_REPLICA` and `AUTOSCALER_COOLDOWN_SECONDS`, read with `max(1, …)` and
`max(0, …)`. -/
structure Settings where
  lagPerReplica : Int
  cooldownSeconds : Int
  lag_pos : 0 < lagPerReplica
  cooldown_nonneg : 0 ≤ cooldownSeconds

def minReplicas (environ : String → Option String) (family : String) : Int :=
  max 0 (envInt environ ("AUTOSCALER_MIN_REPLICAS_" ++ family.toUpper) 1)

def maxReplicas (environ : String → Option String) (family : String) : Int :=
  max (minReplicas environ family)
    (envInt environ ("AUTOSCALER_MAX_REPLICAS_" ++ family.toUpper) 4)

def desiredReplicasForRoute (environ : String → Option String) (settings : Settings)
    (family : String) (lag : Int) : Except PyError Int :=
  if lag ≤ 0 then .ok (minReplicas environ family)
  else
    (ceilTrueDivide lag settings.lagPerReplica).map fun replicas =>
      min (maxReplicas environ family) (max (minReplicas environ family) replicas)

/-! ## The loop -/

structure ExecutorRoute where
  family : String
  serviceName : String
  deriving DecidableEq, Repr

structure ScaleCommand where
  family : String
  serviceName : String
  lag : Int
  previousReplicas : Int
  desiredReplicas : Int
  scaledAt : ℚ
  deriving DecidableEq, Repr

structure Autoscaler where
  fleet : String → Int
  lastScaledAt : InsertionMap String ℚ
  commands : List ScaleCommand
  /-- What raises ends the loop. -/
  stopped : Bool

/-- One pass of the inner loop; `answer` is what a command leaves running, if it does not raise. -/
structure Visit where
  route : ExecutorRoute
  partitions : List PartitionOffsets
  now : ℚ
  answer : Option Int

inductive AutoscalerEvent where
  | visit (v : Visit)
  -- Kafka or `docker ps` raises.
  | raised
  -- Containers stop or start on their own.
  | containers (serviceName : String) (count : Int)

section Loop

variable (environ : String → Option String) (settings : Settings)

def Autoscaler.start (fleet : String → Int) : Autoscaler := ⟨fleet, .empty, [], false⟩

def Visit.desiredReplicas (v : Visit) : Except PyError Int :=
  desiredReplicasForRoute environ settings v.route.family (getRouteLag v.partitions)

def Autoscaler.cooldownRemaining (s : Autoscaler) (v : Visit) : ℚ :=
  settings.cooldownSeconds - (v.now - (s.lastScaledAt.get? v.route.serviceName).getD 0)

def Autoscaler.command (s : Autoscaler) (v : Visit) (desiredReplicas : Int) : ScaleCommand :=
  ⟨v.route.family, v.route.serviceName, getRouteLag v.partitions, s.fleet v.route.serviceName,
    desiredReplicas, v.now⟩

/-- A command that raises is made, but not remembered. -/
def Autoscaler.scale (s : Autoscaler) (v : Visit) (desiredReplicas : Int) : Autoscaler :=
  let commands := s.commands ++ [s.command v desiredReplicas]
  match v.answer with
  | none => { s with commands := commands, stopped := true }
  | some count =>
      { s with
        fleet := fun other => if other = v.route.serviceName then count else s.fleet other
        lastScaledAt := s.lastScaledAt.set v.route.serviceName v.now
        commands := commands }

def Autoscaler.visit (s : Autoscaler) (v : Visit) : Autoscaler :=
  match v.desiredReplicas environ settings with
  | .error _ => { s with stopped := true }
  | .ok desiredReplicas =>
      if desiredReplicas ≠ s.fleet v.route.serviceName ∧ s.cooldownRemaining settings v ≤ 0 then
        s.scale v desiredReplicas
      else s

def Autoscaler.step (s : Autoscaler) : AutoscalerEvent → Autoscaler
  | .visit v => if s.stopped then s else s.visit environ settings v
  | .raised => { s with stopped := true }
  | .containers serviceName count =>
      { s with fleet := fun other => if other = serviceName then count else s.fleet other }

end Loop

/-! ## The number that is asked for -/

/-- The least number of executors between the bounds that covers the lag, or the upper bound. -/
structure LeastSufficient (low high lagPerReplica lag n : Int) : Prop where
  low_le : low ≤ n
  le_high : n ≤ high
  covers : lag ≤ n * lagPerReplica ∨ n = high
  least : ∀ m, low ≤ m → lag ≤ m * lagPerReplica → n ≤ m

theorem LeastSufficient.unique {low high lagPerReplica lag n m : Int}
    (hn : LeastSufficient low high lagPerReplica lag n)
    (hm : LeastSufficient low high lagPerReplica lag m) : n = m := by
  have hle {a b : Int} (ha : LeastSufficient low high lagPerReplica lag a)
      (hb : LeastSufficient low high lagPerReplica lag b) : a ≤ b := by
    obtain hcovers | hhigh := hb.covers
    · exact ha.least b hb.low_le hcovers
    · exact hhigh ▸ ha.le_high
  exact le_antisymm (hle hn hm) (hle hm hn)

/-- The lag and the share of one executor are floats. -/
def DividedExactly (settings : Settings) (lag : Int) : Prop :=
  lag < 2 ^ 53 ∧ settings.lagPerReplica ≤ 2 ^ 53

theorem ceil_div_le_iff (settings : Settings) (lag n : Int) :
    ⌈(lag : ℚ) / settings.lagPerReplica⌉ ≤ n ↔ lag ≤ n * settings.lagPerReplica := by
  have hpos : (0 : ℚ) < settings.lagPerReplica := by exact_mod_cast settings.lag_pos
  rw [Int.ceil_le, div_le_iff₀ hpos]
  exact_mod_cast Iff.rfl

theorem desiredReplicas_spec (environ : String → Option String) {settings : Settings}
    (family : String) {lag : Int} (h : DividedExactly settings lag) :
    ∃ n, desiredReplicasForRoute environ settings family lag = .ok n ∧
      LeastSufficient (minReplicas environ family) (maxReplicas environ family)
        settings.lagPerReplica lag n := by
  have hlow : 0 ≤ minReplicas environ family := le_max_left _ _
  have hbounds : minReplicas environ family ≤ maxReplicas environ family := le_max_left _ _
  rw [desiredReplicasForRoute]
  split
  next hlag =>
    refine ⟨_, rfl, le_rfl, hbounds, .inl ?_, fun m hm _ => hm⟩
    exact hlag.trans (Int.mul_nonneg hlow settings.lag_pos.le)
  next hlag =>
    rw [ceilTrueDivide_eq (not_le.mp hlag) h.1 settings.lag_pos h.2]
    refine ⟨_, rfl, le_min hbounds (le_max_left _ _), min_le_left _ _, ?_, fun m hm hcovers => ?_⟩
    · obtain hle | hlt := le_or_gt (maxReplicas environ family)
        (max (minReplicas environ family) ⌈(lag : ℚ) / settings.lagPerReplica⌉)
      · exact .inr (min_eq_left hle)
      · refine .inl ((ceil_div_le_iff settings lag _).mp ?_)
        exact (le_max_right _ _).trans_eq (min_eq_right hlt.le).symm
    · exact (min_le_right _ _).trans
        (max_le hm ((ceil_div_le_iff settings lag m).mpr hcovers))

theorem desiredReplicas_eq_iff (environ : String → Option String) {settings : Settings}
    (family : String) {lag : Int} (h : DividedExactly settings lag) (n : Int) :
    desiredReplicasForRoute environ settings family lag = .ok n ↔
      LeastSufficient (minReplicas environ family) (maxReplicas environ family)
        settings.lagPerReplica lag n := by
  obtain ⟨m, hm, hleast⟩ := desiredReplicas_spec environ family h
  rw [hm, Except.ok.injEq]
  constructor
  · rintro rfl
    exact hleast
  · exact fun hn => hleast.unique hn

/-! ## Runs -/

section Runs

variable (environ : String → Option String) (settings : Settings)

def Spread (a b : ScaleCommand) : Prop :=
  a.serviceName = b.serviceName → (settings.cooldownSeconds : ℚ) ≤ b.scaledAt - a.scaledAt

structure CommandsSound (s : Autoscaler) : Prop where
  needed : ∀ command ∈ s.commands, command.desiredReplicas ≠ command.previousReplicas ∧
    desiredReplicasForRoute environ settings command.family command.lag =
      .ok command.desiredReplicas
  spread : s.commands.Pairwise (Spread settings)
  newest : s.stopped = false → ∀ command ∈ s.commands,
    ∃ last, s.lastScaledAt.get? command.serviceName = some last ∧ command.scaledAt ≤ last
  recorded : ∀ serviceName last, s.lastScaledAt.get? serviceName = some last →
    ∃ command ∈ s.commands, command.serviceName = serviceName ∧ command.scaledAt = last

variable {environ settings} {s : Autoscaler}

theorem CommandsSound.stop (h : CommandsSound environ settings s) :
    CommandsSound environ settings { s with stopped := true } :=
  ⟨h.needed, h.spread, fun hrunning => (nomatch hrunning), h.recorded⟩

/-- A visit leaves the loop as it is, ends it, or makes one command. -/
theorem visit_cases (environ : String → Option String) (settings : Settings) (s : Autoscaler)
    (v : Visit) :
    (s.visit environ settings v = s ∧ ∃ n, v.desiredReplicas environ settings = .ok n ∧
        (n = s.fleet v.route.serviceName ∨ 0 < s.cooldownRemaining settings v)) ∨
      (s.visit environ settings v = { s with stopped := true } ∧
        ∃ error, v.desiredReplicas environ settings = .error error) ∨
      ∃ n, v.desiredReplicas environ settings = .ok n ∧ n ≠ s.fleet v.route.serviceName ∧
        s.cooldownRemaining settings v ≤ 0 ∧ s.visit environ settings v = s.scale v n := by
  unfold Autoscaler.visit
  cases v.desiredReplicas environ settings with
  | error error => exact .inr (.inl ⟨rfl, error, rfl⟩)
  | ok n =>
      by_cases hscales : n ≠ s.fleet v.route.serviceName ∧ s.cooldownRemaining settings v ≤ 0
      · exact .inr (.inr ⟨n, rfl, hscales.1, hscales.2, if_pos hscales⟩)
      · refine .inl ⟨if_neg hscales, n, rfl, ?_⟩
        rwa [not_and_or, not_not, not_le] at hscales

theorem scale_cases (s : Autoscaler) (v : Visit) (n : Int) :
    (s.scale v n = { s with commands := s.commands ++ [s.command v n], stopped := true } ∧
        v.answer = none) ∨
      ∃ count, v.answer = some count ∧ s.scale v n =
        { s with
          fleet := fun other => if other = v.route.serviceName then count else s.fleet other
          lastScaledAt := s.lastScaledAt.set v.route.serviceName v.now
          commands := s.commands ++ [s.command v n] } := by
  unfold Autoscaler.scale
  cases v.answer with
  | none => exact .inl ⟨rfl, rfl⟩
  | some count => exact .inr ⟨count, rfl, rfl⟩

@[simp] theorem commands_scale (s : Autoscaler) (v : Visit) (n : Int) :
    (s.scale v n).commands = s.commands ++ [s.command v n] := by
  obtain ⟨hscaled, -⟩ | ⟨count, -, hscaled⟩ := scale_cases s v n <;> rw [hscaled]

theorem cooled_command (h : CommandsSound environ settings s) (hrunning : s.stopped = false)
    {v : Visit} (hcooled : s.cooldownRemaining settings v ≤ 0) (n : Int) :
    ∀ earlier ∈ s.commands, Spread settings earlier (s.command v n) := by
  intro earlier hearlier hservice
  obtain ⟨last, hlast, hle⟩ := h.newest hrunning earlier hearlier
  have hservice : earlier.serviceName = v.route.serviceName := hservice
  rw [Autoscaler.cooldownRemaining, ← hservice, hlast, Option.getD_some] at hcooled
  change (settings.cooldownSeconds : ℚ) ≤ v.now - earlier.scaledAt
  linarith

theorem newest_scale (h : CommandsSound environ settings s) (hrunning : s.stopped = false)
    {v : Visit} (hcooled : s.cooldownRemaining settings v ≤ 0) (n : Int)
    (hgoes : (s.scale v n).stopped = false) :
    ∀ command ∈ (s.scale v n).commands, ∃ last,
      (s.scale v n).lastScaledAt.get? command.serviceName = some last ∧
        command.scaledAt ≤ last := by
  intro command hcommand
  obtain ⟨hstopped, -⟩ | ⟨count, -, hscaled⟩ := scale_cases s v n
  · rw [hstopped] at hgoes
    cases hgoes
  rw [commands_scale] at hcommand
  rw [hscaled, InsertionMap.get?_set]
  obtain hold | hnew := List.mem_append.mp hcommand
  · obtain ⟨last, hlast, hle⟩ := h.newest hrunning command hold
    split
    next hservice =>
      have hage : (settings.cooldownSeconds : ℚ) ≤ v.now - command.scaledAt :=
        cooled_command h hrunning hcooled n command hold hservice
      have hnonneg : (0 : ℚ) ≤ settings.cooldownSeconds := by
        exact_mod_cast settings.cooldown_nonneg
      refine ⟨v.now, rfl, ?_⟩
      linarith
    next => exact ⟨last, hlast, hle⟩
  · obtain rfl := List.mem_singleton.mp hnew
    exact ⟨v.now, if_pos rfl, le_rfl⟩

theorem recorded_scale (h : CommandsSound environ settings s) (v : Visit) (n : Int)
    {serviceName : String} {last : ℚ}
    (hlast : (s.scale v n).lastScaledAt.get? serviceName = some last) :
    ∃ command ∈ (s.scale v n).commands,
      command.serviceName = serviceName ∧ command.scaledAt = last := by
  have hrecorded : s.lastScaledAt.get? serviceName = some last →
      ∃ command ∈ s.commands ++ [s.command v n],
        command.serviceName = serviceName ∧ command.scaledAt = last := by
    intro hold
    obtain ⟨command, hcommand, hfound⟩ := h.recorded serviceName last hold
    exact ⟨command, List.mem_append_left _ hcommand, hfound⟩
  rw [commands_scale]
  obtain ⟨hstopped, -⟩ | ⟨count, -, hscaled⟩ := scale_cases s v n
  · rw [hstopped] at hlast
    exact hrecorded hlast
  rw [hscaled, InsertionMap.get?_set] at hlast
  split at hlast
  next hservice =>
    exact ⟨_, List.mem_append_right _ (List.mem_singleton_self _), hservice.symm,
      Option.some.inj hlast⟩
  next => exact hrecorded hlast

theorem scale_commandsSound (h : CommandsSound environ settings s) (hrunning : s.stopped = false)
    {v : Visit} {n : Int} (hdesired : v.desiredReplicas environ settings = .ok n)
    (hne : n ≠ s.fleet v.route.serviceName) (hcooled : s.cooldownRemaining settings v ≤ 0) :
    CommandsSound environ settings (s.scale v n) where
  needed := by
    rw [commands_scale, List.forall_mem_append, List.forall_mem_singleton]
    exact ⟨h.needed, hne, hdesired⟩
  spread := by
    rw [commands_scale]
    refine List.pairwise_append.mpr ⟨h.spread, List.pairwise_singleton _ _, ?_⟩
    intro earlier hearlier command hcommand
    obtain rfl := List.mem_singleton.mp hcommand
    exact cooled_command h hrunning hcooled n earlier hearlier
  newest := newest_scale h hrunning hcooled n
  recorded := fun _ _ => recorded_scale h v n

theorem step_commandsSound (s : Autoscaler) (e : AutoscalerEvent)
    (h : CommandsSound environ settings s) :
    CommandsSound environ settings (s.step environ settings e) := by
  cases e with
  | visit v =>
      rw [Autoscaler.step]
      split
      next => exact h
      next hrunning =>
        obtain ⟨hsame, -⟩ | ⟨hstopped, -⟩ | ⟨n, hdesired, hne, hcooled, hscaled⟩ :=
          visit_cases environ settings s v
        · rwa [hsame]
        · rw [hstopped]
          exact h.stop
        · rw [hscaled]
          exact scale_commandsSound h (Bool.eq_false_iff.mpr hrunning) hdesired hne hcooled
  | raised => exact h.stop
  | containers => exact ⟨h.needed, h.spread, h.newest, h.recorded⟩

variable (environ settings)

def autoscalerAt (fleet : String → Int) (events : List AutoscalerEvent) : Autoscaler :=
  events.foldl (Autoscaler.step environ settings) (.start fleet)

theorem autoscalerAt_commandsSound (fleet : String → Int) (events : List AutoscalerEvent) :
    CommandsSound environ settings (autoscalerAt environ settings fleet events) :=
  foldl_invariant (Autoscaler.step environ settings) step_commandsSound
    ⟨by simp [Autoscaler.start], .nil, by simp [Autoscaler.start],
      by simp [Autoscaler.start]⟩ events

/--
Whatever lags and containers the loop sees, each command changes the number of containers and
comes at least the cooldown after every earlier one for its service; if the lag is divided
exactly, it asks for the least number within the bounds that covers the lag.
-/
theorem scale_commands_sound (fleet : String → Int) (events : List AutoscalerEvent) :
    let commands := (autoscalerAt environ settings fleet events).commands
    (∀ command ∈ commands, command.desiredReplicas ≠ command.previousReplicas ∧
      (DividedExactly settings command.lag →
        LeastSufficient (minReplicas environ command.family) (maxReplicas environ command.family)
          settings.lagPerReplica command.lag command.desiredReplicas)) ∧
      commands.Pairwise fun a b => a.serviceName = b.serviceName →
        (settings.cooldownSeconds : ℚ) ≤ b.scaledAt - a.scaledAt := by
  have h := autoscalerAt_commandsSound environ settings fleet events
  refine ⟨fun command hcommand => ?_, h.spread⟩
  obtain ⟨hne, hdesired⟩ := h.needed command hcommand
  exact ⟨hne, fun hexact => (desiredReplicas_eq_iff environ command.family hexact _).mp hdesired⟩

theorem cooldownRemaining_iff (h : CommandsSound environ settings s) (hrunning : s.stopped = false)
    (v : Visit) (hclock : (settings.cooldownSeconds : ℚ) ≤ v.now) :
    s.cooldownRemaining settings v ≤ 0 ↔ ∀ command ∈ s.commands,
      command.serviceName = v.route.serviceName →
        (settings.cooldownSeconds : ℚ) ≤ v.now - command.scaledAt := by
  constructor
  · exact fun hcooled command hcommand hservice =>
      cooled_command h hrunning hcooled 0 command hcommand hservice
  · intro hall
    rw [Autoscaler.cooldownRemaining]
    cases hlast : s.lastScaledAt.get? v.route.serviceName with
    | none =>
        rw [Option.getD_none]
        linarith
    | some last =>
        obtain ⟨command, hcommand, hservice, rfl⟩ := h.recorded _ _ hlast
        have hage := hall command hcommand hservice
        rw [Option.getD_some]
        linarith

/--
A visit leaves a service with the number of containers that the lag asks for exactly when
it had that number before or no command for it is younger than the cooldown.
-/
theorem visit_serves_lag_iff (fleet : String → Int) (events : List AutoscalerEvent) (v : Visit)
    (hrunning : (autoscalerAt environ settings fleet events).stopped = false)
    (hexact : DividedExactly settings (getRouteLag v.partitions))
    (hobeyed : ∀ n, v.desiredReplicas environ settings = .ok n → v.answer = some n)
    (hclock : (settings.cooldownSeconds : ℚ) ≤ v.now) :
    LeastSufficient (minReplicas environ v.route.family) (maxReplicas environ v.route.family)
        settings.lagPerReplica (getRouteLag v.partitions)
        ((autoscalerAt environ settings fleet (events ++ [.visit v])).fleet
          v.route.serviceName) ↔
      LeastSufficient (minReplicas environ v.route.family)
          (maxReplicas environ v.route.family) settings.lagPerReplica
          (getRouteLag v.partitions)
          ((autoscalerAt environ settings fleet events).fleet v.route.serviceName) ∨
        ∀ command ∈ (autoscalerAt environ settings fleet events).commands,
          command.serviceName = v.route.serviceName →
            (settings.cooldownSeconds : ℚ) ≤ v.now - command.scaledAt := by
  have h := autoscalerAt_commandsSound environ settings fleet events
  have hstep : autoscalerAt environ settings fleet (events ++ [.visit v]) =
      (autoscalerAt environ settings fleet events).visit environ settings v := by
    rw [autoscalerAt, List.foldl_append]
    exact if_neg (by simpa [autoscalerAt] using hrunning)
  rw [hstep]
  generalize autoscalerAt environ settings fleet events = s at h hrunning ⊢
  have hspec := desiredReplicas_eq_iff environ v.route.family hexact
  rw [← hspec, ← hspec, ← cooldownRemaining_iff environ settings h hrunning v hclock]
  change v.desiredReplicas environ settings = _ ↔ v.desiredReplicas environ settings = _ ∨ _
  obtain ⟨hsame, n, hdesired, hkeeps⟩ | ⟨-, error, herror⟩ |
      ⟨n, hdesired, hne, hcooled, hscaled⟩ := visit_cases environ settings s v
  · rw [hsame, hdesired, Except.ok.injEq]
    exact ⟨.inl, fun hor => hor.elim id fun hcooled =>
      hkeeps.resolve_right (not_lt.mpr hcooled)⟩
  · obtain ⟨n, hn, -⟩ := desiredReplicas_spec environ v.route.family hexact
    exact nomatch herror.symm.trans hn
  · refine iff_of_true ?_ (.inr hcooled)
    rw [hscaled, hdesired]
    obtain ⟨-, hnone⟩ | ⟨count, hcount, hscale⟩ := scale_cases s v n
    · rw [hobeyed n hdesired] at hnone
      cases hnone
    · obtain rfl := Option.some.inj (hcount.symm.trans (hobeyed n hdesired))
      rw [hscale]
      exact congrArg _ (if_pos rfl).symm

end Runs

def plainSettings : Settings :=
  ⟨12, 30, Int.natCast_pos.mpr (Nat.succ_pos 11), Int.natCast_nonneg 30⟩

def coreVisit (now : ℚ) (lag count : Int) : Visit :=
  ⟨⟨"core", "executor-core"⟩, [⟨some lag, none⟩, ⟨some 5, some 7⟩], now, some count⟩

/-- In the cooldown of the first command the service stays at two containers of four. -/
example :
    (autoscalerAt (fun _ => none) plainSettings (fun _ => 1)
      [.visit (coreVisit 100 20 2), .visit (coreVisit 115 40 4)]).fleet "executor-core" = 2 := by
  decide +kernel

theorem visit_serves_lag_second :
    LeastSufficient (minReplicas (fun _ => none) "core") (maxReplicas (fun _ => none) "core")
        12 (getRouteLag [⟨some 40, none⟩, ⟨some 5, some 7⟩])
        ((autoscalerAt (fun _ => none) plainSettings (fun _ => 1)
          ([.visit (coreVisit 100 20 2)] ++ [.visit (coreVisit 115 40 4)])).fleet
          "executor-core") ↔
      LeastSufficient (minReplicas (fun _ => none) "core") (maxReplicas (fun _ => none) "core")
          12 (getRouteLag [⟨some 40, none⟩, ⟨some 5, some 7⟩])
          ((autoscalerAt (fun _ => none) plainSettings (fun _ => 1)
            [.visit (coreVisit 100 20 2)]).fleet "executor-core") ∨
        ∀ command ∈ (autoscalerAt (fun _ => none) plainSettings (fun _ => 1)
            [.visit (coreVisit 100 20 2)]).commands,
          command.serviceName = "executor-core" →
            ((30 : Int) : ℚ) ≤ 115 - command.scaledAt := by
  refine visit_serves_lag_iff (fun _ => none) plainSettings (fun _ => 1)
    [.visit (coreVisit 100 20 2)] (coreVisit 115 40 4) (by decide +kernel)
    ⟨by decide, by decide⟩ (fun n hn => ?_) (by decide +kernel)
  have hfour : (coreVisit 115 40 4).desiredReplicas (fun _ => none) plainSettings = .ok 4 := by
    decide +kernel
  exact congrArg some (Except.ok.inj (hfour.symm.trans hn))

section Settled

variable (environ : String → Option String) (settings : Settings)

theorem step_of_settled {s : Autoscaler} {e : AutoscalerEvent} {serviceName : String} {n : Int}
    (hserved : s.fleet serviceName = n)
    (hlag : ∀ v, e = .visit v → v.route.serviceName = serviceName →
      DividedExactly settings (getRouteLag v.partitions) ∧
        LeastSufficient (minReplicas environ v.route.family)
          (maxReplicas environ v.route.family) settings.lagPerReplica
          (getRouteLag v.partitions) n)
    (hstill : ∀ count, e ≠ .containers serviceName count) :
    (s.step environ settings e).fleet serviceName = n ∧
      (s.step environ settings e).commands.filter (·.serviceName = serviceName) =
        s.commands.filter (·.serviceName = serviceName) := by
  cases e with
  | raised => exact ⟨hserved, rfl⟩
  | containers other count =>
      have hne : serviceName ≠ other := by
        rintro rfl
        exact hstill count rfl
      exact ⟨(if_neg hne).trans hserved, rfl⟩
  | visit v =>
      rw [Autoscaler.step]
      split
      next => exact ⟨hserved, rfl⟩
      obtain ⟨hsame, -⟩ | ⟨hstopped, -⟩ | ⟨m, hdesired, hne, -, hscaled⟩ :=
        visit_cases environ settings s v
      · rw [hsame]
        exact ⟨hserved, rfl⟩
      · rw [hstopped]
        exact ⟨hserved, rfl⟩
      · -- A command for this service would change what the lag asks for.
        have hother : v.route.serviceName ≠ serviceName := by
          intro hservice
          obtain ⟨hexact, hleast⟩ := hlag v rfl hservice
          have hn := (desiredReplicas_eq_iff environ v.route.family hexact n).mpr hleast
          refine hne ?_
          rw [hservice, hserved]
          exact Except.ok.inj (hdesired.symm.trans hn)
        rw [hscaled]
        constructor
        · obtain ⟨hraised, -⟩ | ⟨count, -, hscale⟩ := scale_cases s v m
          · rw [hraised]
            exact hserved
          · rw [hscale]
            exact (if_neg (Ne.symm hother)).trans hserved
        · rw [commands_scale, List.filter_append, List.filter_singleton]
          simp [Autoscaler.command, hother]

/-- A service that runs what the lag asks for is left alone until the lag asks for something
else. -/
theorem settled_service_left_alone (fleet : String → Int)
    (events later : List AutoscalerEvent) (serviceName : String) (n : Int)
    (hserved : (autoscalerAt environ settings fleet events).fleet serviceName = n)
    (hlag : ∀ v, .visit v ∈ later → v.route.serviceName = serviceName →
      DividedExactly settings (getRouteLag v.partitions) ∧
        LeastSufficient (minReplicas environ v.route.family)
          (maxReplicas environ v.route.family) settings.lagPerReplica
          (getRouteLag v.partitions) n)
    (hstill : ∀ count, .containers serviceName count ∉ later) :
    (autoscalerAt environ settings fleet (events ++ later)).fleet serviceName = n ∧
      (autoscalerAt environ settings fleet (events ++ later)).commands.filter
          (·.serviceName = serviceName) =
        (autoscalerAt environ settings fleet events).commands.filter
          (·.serviceName = serviceName) := by
  rw [autoscalerAt, List.foldl_append, ← autoscalerAt]
  generalize autoscalerAt environ settings fleet events = s at hserved ⊢
  induction later generalizing s with
  | nil => exact ⟨hserved, rfl⟩
  | cons e later ih =>
      have hnext : (s.step environ settings e).fleet serviceName = n ∧
          (s.step environ settings e).commands.filter (·.serviceName = serviceName) =
            s.commands.filter (·.serviceName = serviceName) :=
        step_of_settled environ settings hserved (fun v hv => hlag v (hv ▸ List.mem_cons_self))
          (fun count hcount => hstill count (hcount ▸ List.mem_cons_self))
      obtain ⟨hfleet, hcommands⟩ := ih
        (fun v hv => hlag v (List.mem_cons_of_mem _ hv))
        (fun count hcount => hstill count (List.mem_cons_of_mem _ hcount)) _ hnext.1
      exact ⟨hfleet, hcommands.trans hnext.2⟩

theorem settled_service_two_visits :
    (autoscalerAt (fun _ => none) plainSettings (fun _ => 1)
        ([.visit (coreVisit 100 20 2)] ++ [.visit (coreVisit 200 24 2)])).fleet
          "executor-core" = 2 ∧
      (autoscalerAt (fun _ => none) plainSettings (fun _ => 1)
          ([.visit (coreVisit 100 20 2)] ++ [.visit (coreVisit 200 24 2)])).commands.filter
          (·.serviceName = "executor-core") =
        (autoscalerAt (fun _ => none) plainSettings (fun _ => 1)
          [.visit (coreVisit 100 20 2)]).commands.filter (·.serviceName = "executor-core") := by
  refine settled_service_left_alone (fun _ => none) plainSettings (fun _ => 1)
    [.visit (coreVisit 100 20 2)] [.visit (coreVisit 200 24 2)] "executor-core" 2
    (by decide +kernel) (fun v hv _ => ?_) (by simp)
  obtain rfl : v = coreVisit 200 24 2 := by simpa using hv
  have hexact : DividedExactly plainSettings (getRouteLag (coreVisit 200 24 2).partitions) :=
    ⟨by decide, by decide⟩
  have htwo : (coreVisit 200 24 2).desiredReplicas (fun _ => none) plainSettings = .ok 2 := by
    decide +kernel
  exact ⟨hexact, (desiredReplicas_eq_iff (fun _ => none) "core" hexact 2).mp htwo⟩

end Settled

end JudgeVortex.Infrastructure
