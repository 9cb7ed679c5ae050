import JudgeVortex.Executor.Isolate

/-!
# Boxes are neither shared nor leaked

What each block of a grading task does to the queue of boxes, and from it where the
boxes are while any number of tasks run.
-/

namespace JudgeVortex.Executor.Scripts

open JudgeVortex.Foundation JudgeVortex.Foundation.Pool JudgeVortex.Python

/-! ## The uses of a block -/

def boxUses {β : Type} (script : BoxScript β) : List Use := uses boxUse script.log

section Uses

variable {β γ : Type}

@[simp] theorem boxUses_pure (b : β) : boxUses (pure b) = [] := rfl

@[simp] theorem boxUses_ofExcept (result : Except String β) :
    boxUses (.ofExcept result) = [] := rfl

@[simp] theorem boxUses_command (c : IsolateCommand) (answer : Except String β) :
    boxUses (command c answer) = [] := by
  cases answer <;> rfl

@[simp] theorem result_command (c : IsolateCommand) (answer : Except String β) :
    (command c answer).result = answer := by
  cases answer <;> rfl

@[simp] theorem boxUses_ofTask (script : TaskScript β) : boxUses (ofTask script) = [] := by
  simp only [boxUses, uses, ofTask, List.filterMap_map]
  exact List.filterMap_eq_nil_iff.mpr fun _ _ => rfl

theorem boxUses_bind_ok {x : BoxScript β} {b : β} (h : x.result = .ok b)
    (f : β → BoxScript γ) : boxUses (x >>= f) = boxUses x ++ boxUses (f b) := by
  rw [Script.bind_of_ok h, boxUses, uses, List.filterMap_append]
  rfl

theorem boxUses_bind_error {x : BoxScript β} {error : String}
    (h : x.result = .error error) (f : β → BoxScript γ) :
    boxUses (x >>= f) = boxUses x := by
  rw [Script.bind_of_error h]
  rfl

theorem boxUses_bind_silent (x : BoxScript β) {f : β → BoxScript γ}
    (hf : ∀ b, boxUses (f b) = []) : boxUses (x >>= f) = boxUses x := by
  cases h : x.result with
  | error error => exact boxUses_bind_error h f
  | ok b => rw [boxUses_bind_ok h, hf, List.append_nil]

theorem result_bind_ok {x : BoxScript β} {b : β} (h : x.result = .ok b)
    (f : β → BoxScript γ) : (x >>= f).result = (f b).result := by
  rw [Script.bind_of_ok h]

theorem result_bind_error {x : BoxScript β} {error : String}
    (h : x.result = .error error) (f : β → BoxScript γ) :
    (x >>= f).result = .error error := by
  rw [Script.bind_of_error h]

theorem boxUses_tryFinally (x : BoxScript β) (last : BoxScript Unit) :
    boxUses (x.tryFinally last) = boxUses x ++ boxUses last :=
  List.filterMap_append

end Uses

/-! ## Preparing a box -/

/-- The block goes on with its box, gives it back and fails, or raises with its box. -/
inductive KeepsBox (script : BoxScript Preparation) : Prop where
  | ready (hresult : script.result = .ok .ready) (huses : boxUses script = [])
  | failed {result : SandboxResult} (hresult : script.result = .ok (.failed result))
      (huses : boxUses script = [.put])
  | raised {error : String} (hresult : script.result = .error error)
      (huses : boxUses script = [])

def ReturnsAndRaises (script : BoxScript Preparation) : Prop :=
  (∃ error, script.result = .error error) ∧ boxUses script = [.put]

section Bind

variable {β : Type} {x : BoxScript β} {f : β → BoxScript Preparation}

theorem KeepsBox.of_error {error : String} (hx : boxUses x = [])
    (h : x.result = .error error) : KeepsBox (x >>= f) :=
  .raised (result_bind_error h f) ((boxUses_bind_error h f).trans hx)

theorem KeepsBox.of_ok {b : β} (hx : boxUses x = []) (h : x.result = .ok b)
    (hf : KeepsBox (f b)) : KeepsBox (x >>= f) := by
  have huses : boxUses (x >>= f) = boxUses (f b) := by
    rw [boxUses_bind_ok h, hx, List.nil_append]
  have hresult := result_bind_ok h f
  cases hf with
  | ready hready hnone => exact .ready (hresult.trans hready) (huses.trans hnone)
  | failed hfailed hput => exact .failed (hresult.trans hfailed) (huses.trans hput)
  | raised hraised hnone => exact .raised (hresult.trans hraised) (huses.trans hnone)

theorem ReturnsAndRaises.of_ok {b : β} (hx : boxUses x = []) (h : x.result = .ok b)
    (hf : ReturnsAndRaises (f b)) : ReturnsAndRaises (x >>= f) := by
  obtain ⟨⟨error, herror⟩, hput⟩ := hf
  refine ⟨⟨error, (result_bind_ok h f).trans herror⟩, ?_⟩
  rw [boxUses_bind_ok h, hx, List.nil_append, hput]

end Bind

structure CompileOverflows (host : IsolateHost) (run : IsolateRun) : Prop where
  compiled : host.compile = .ok run
  stopped : metaGet (parseIsolateMeta run.metaText) "status" ∈ [some "TO", some "WT"] ∨
    run.returncode ≠ 0
  cleared : host.clearAfterCompile = .ok ()
  overflows : TimeOverflows (parseIsolateMeta run.metaText)

theorem compileFailed_keeps (host : IsolateHost) (data : Meta) (output : String)
    (h : host.clearAfterCompile = .ok () → ¬ TimeOverflows data) :
    KeepsBox (compileFailed host data output) := by
  unfold compileFailed
  cases hclear : host.clearAfterCompile with
  | error error => exact .of_error (boxUses_command _ _) (result_command _ _)
  | ok u =>
      obtain ⟨n, hn⟩ := metaTimeMs_ok data 0 (h hclear)
      rw [hn]
      exact .failed rfl rfl

theorem compileFailed_raises (host : IsolateHost) {data : Meta} (output : String)
    (hclear : host.clearAfterCompile = .ok ()) (h : TimeOverflows data) :
    ReturnsAndRaises (compileFailed host data output) := by
  rw [compileFailed, hclear, metaTimeMs_overflows data 0 h]
  exact ⟨⟨overflowText, rfl⟩, rfl⟩

theorem compileBox_keeps (host : IsolateHost) (h : ∀ run, ¬ CompileOverflows host run) :
    KeepsBox (compileBox host) := by
  unfold compileBox
  cases hcompile : host.compile with
  | error error => exact .of_error (boxUses_command _ _) (result_command _ _)
  | ok run =>
      refine .of_ok (boxUses_command _ _) (result_command _ _) ?_
      dsimp only
      split
      next hstatus =>
        exact compileFailed_keeps host _ _ fun hclear htime =>
          h run ⟨hcompile, .inl hstatus, hclear, htime⟩
      next =>
        split
        next hcode =>
          exact compileFailed_keeps host _ _ fun hclear htime =>
            h run ⟨hcompile, .inr hcode, hclear, htime⟩
        next => exact .ready rfl rfl

theorem compileBox_raises {host : IsolateHost} {run : IsolateRun}
    (h : CompileOverflows host run) : ReturnsAndRaises (compileBox host) := by
  obtain ⟨hcompile, hstopped, hclear, htime⟩ := h
  rw [compileBox, hcompile]
  refine .of_ok (boxUses_command _ _) (result_command _ _) ?_
  dsimp only
  split
  · exact compileFailed_raises host _ hclear htime
  · rw [if_pos (hstopped.resolve_left ‹_›)]
    exact compileFailed_raises host _ hclear htime

structure BoxOverflows (host : IsolateHost) (language : String) : Prop where
  cleared : host.clearBefore = .ok ()
  initialised : ∃ reply, host.init = .ok reply ∧ reply.returncode = 0
  workspace : host.workspace = .ok ()
  compiles : language ∈ compiledLanguages
  overflows : ∃ run, CompileOverflows host run

theorem prepareBox_keeps (host : IsolateHost) (language : String)
    (h : ¬ BoxOverflows host language) : KeepsBox (prepareBox host language) := by
  unfold prepareBox
  cases hclear : host.clearBefore with
  | error error => exact .of_error (boxUses_command _ _) (result_command _ _)
  | ok u =>
      refine .of_ok (boxUses_command _ _) (result_command _ _) ?_
      cases hinit : host.init with
      | error error => exact .of_error (boxUses_command _ _) (result_command _ _)
      | ok reply =>
          refine .of_ok (boxUses_command _ _) (result_command _ _) ?_
          split
          next => exact .failed rfl rfl
          next hcode =>
            cases hworkspace : host.workspace with
            | error error => exact .of_error (boxUses_ofExcept _) rfl
            | ok u =>
                refine .of_ok (boxUses_ofExcept _) rfl ?_
                split
                next hcompiles =>
                  exact compileBox_keeps host fun run hrun => h ⟨hclear,
                    ⟨reply, hinit, not_not.mp hcode⟩, hworkspace, hcompiles, run, hrun⟩
                next => exact .ready rfl rfl

theorem prepareBox_raises {host : IsolateHost} {language : String}
    (h : BoxOverflows host language) : ReturnsAndRaises (prepareBox host language) := by
  obtain ⟨hclear, ⟨reply, hinit, hcode⟩, hworkspace, hcompiles, run, hrun⟩ := h
  rw [prepareBox, hclear, hinit, hworkspace]
  refine .of_ok (boxUses_command _ _) (result_command _ _) ?_
  refine .of_ok (boxUses_command _ _) (result_command _ _) ?_
  rw [if_neg (not_not.mpr hcode), if_pos hcompiles]
  exact .of_ok (boxUses_ofExcept _) rfl (compileBox_raises hrun)

/-- The preparation is ready and holds its box, or it used a box once or not at all. -/
inductive Takes (script : BoxScript Preparation) : Prop where
  | ready (hresult : script.result = .ok .ready) (huses : boxUses script = [.take])
  | other (hresult : script.result ≠ .ok .ready) (huses : UsesOnce boxUse script.log)

def PutsTwice {β : Type} (script : BoxScript β) : Prop :=
  boxUses script = [.take, .put, .put]

theorem boxUses_abandonBox (host : IsolateHost) (error : String) :
    boxUses (abandonBox host error) = [.put] := by
  unfold abandonBox
  cases host.clearAfterError <;> rfl

theorem abandonBox_ne_ready (host : IsolateHost) (error : String) :
    (abandonBox host error).result ≠ .ok .ready := by
  unfold abandonBox
  cases host.clearAfterError <;> simp [Script.tryFinally, command, Script.bind_of_ok,
    Script.bind_of_error]

theorem boxUses_takeBox (host : IsolateHost) (language : String) :
    boxUses (takeBox host language) =
      .take :: boxUses ((prepareBox host language).tryExcept (abandonBox host)) := rfl

theorem result_takeBox (host : IsolateHost) (language : String) :
    (takeBox host language).result =
      ((prepareBox host language).tryExcept (abandonBox host)).result := rfl

theorem boxUses_tryExcept_error {x : BoxScript Preparation} {error : String}
    (h : x.result = .error error) (handler : String → BoxScript Preparation) :
    boxUses (x.tryExcept handler) = boxUses x ++ boxUses (handler error) := by
  rw [Script.tryExcept_of_error h]
  exact List.filterMap_append

theorem takeBox_takes {host : IsolateHost} {language : String}
    (h : ¬ BoxOverflows host language) : Takes (takeBox host language) := by
  have huses := boxUses_takeBox host language
  have hresult := result_takeBox host language
  cases prepareBox_keeps host language h with
  | ready hready hnone =>
      rw [Script.tryExcept_of_ok hready] at huses hresult
      exact .ready (hresult.trans hready) (by rw [huses, hnone])
  | failed hfailed hput =>
      rw [Script.tryExcept_of_ok hfailed] at huses hresult
      refine .other ?_ (.inr (by rw [← boxUses, huses, hput]))
      rw [hresult, hfailed]
      simp
  | raised hraised hnone =>
      rw [boxUses_tryExcept_error hraised, hnone, boxUses_abandonBox] at huses
      refine .other ?_ (.inr huses)
      rw [hresult, Script.tryExcept_of_error hraised]
      exact abandonBox_ne_ready host _

theorem takeBox_putsTwice {host : IsolateHost} {language : String}
    (h : BoxOverflows host language) :
    (takeBox host language).result ≠ .ok .ready ∧ PutsTwice (takeBox host language) := by
  obtain ⟨⟨error, herror⟩, hput⟩ := prepareBox_raises h
  constructor
  · rw [result_takeBox, Script.tryExcept_of_error herror]
    exact abandonBox_ne_ready host error
  · rw [PutsTwice, boxUses_takeBox, boxUses_tryExcept_error herror, hput,
      boxUses_abandonBox]
    rfl

section Runtime

variable [PythonRuntime]

def Overflowing (host : IsolateHost) (language : Json) : Prop :=
  ∃ name, language = .str name ∧ (runtimeTools.lookup name).isNone = false ∧
    getMissingRuntimeTools host.findTool name = [] ∧ BoxOverflows host name

theorem prepareIsolateExecution_takes {host : IsolateHost} {language : Json}
    (h : ¬ Overflowing host language) : Takes (prepareIsolateExecution host language) := by
  have hpure : ∀ result, Takes (pure (.failed result)) := fun result =>
    .other (by simp) (.inl rfl)
  have hraise : ∀ error, Takes (.fail error) := fun error => .other (by simp) (.inl rfl)
  cases language with
  | str name =>
      unfold prepareIsolateExecution
      dsimp only
      split
      next => exact hpure _
      next hknown =>
        split
        next => exact hpure _
        next hmissing =>
          exact takeBox_takes fun hbox =>
            h ⟨name, rfl, Bool.not_eq_true _ ▸ hknown, not_not.mp hmissing, hbox⟩
  | arr items => exact hraise _
  | obj fields => exact hraise _
  | null => exact hpure _
  | bool b => exact hpure _
  | int n => exact hpure _
  | float x => exact hpure _

theorem prepareIsolateExecution_putsTwice {host : IsolateHost} {language : Json}
    (h : Overflowing host language) :
    (prepareIsolateExecution host language).result ≠ .ok .ready ∧
      PutsTwice (prepareIsolateExecution host language) := by
  obtain ⟨name, rfl, hknown, hmissing, hbox⟩ := h
  have hsome : (runtimeTools.lookup name).isNone ≠ true := by simp [hknown]
  simp only [prepareIsolateExecution, if_neg hsome, hmissing]
  exact takeBox_putsTwice hbox

/-! ## Using a box -/

omit [PythonRuntime] in
theorem boxUses_cleanupPrepared (steps : TaskSteps) :
    boxUses (cleanupPrepared steps) = [.put] := by
  rw [cleanupPrepared, boxUses_tryFinally, boxUses_command]
  rfl

section WithBox

variable {β : Type} {host : IsolateHost} {language : Json} (steps : TaskSteps)
  {onFailed : SandboxResult → BoxScript β} {onReady : BoxScript β}

theorem boxUses_withBox_ready (hready : boxUses onReady = [])
    (h : (prepareIsolateExecution host language).result = .ok .ready) :
    boxUses (withBox host language steps onFailed onReady) =
      boxUses (prepareIsolateExecution host language) ++ [.put] := by
  rw [withBox, boxUses_bind_ok h]
  dsimp only
  rw [boxUses_tryFinally, hready, boxUses_cleanupPrepared]
  rfl

theorem boxUses_withBox_other (hfailed : ∀ result, boxUses (onFailed result) = [])
    (h : (prepareIsolateExecution host language).result ≠ .ok .ready) :
    boxUses (withBox host language steps onFailed onReady) =
      boxUses (prepareIsolateExecution host language) := by
  rw [withBox]
  cases hresult : (prepareIsolateExecution host language).result with
  | error error => rw [boxUses_bind_error hresult]
  | ok preparation =>
      rw [boxUses_bind_ok hresult]
      cases preparation with
      | ready => exact absurd hresult h
      | failed result =>
          dsimp only
          rw [hfailed, List.append_nil]

theorem withBox_uses (hfailed : ∀ result, boxUses (onFailed result) = [])
    (hready : boxUses onReady = []) :
    (¬ Overflowing host language →
      UsesOnce boxUse (withBox host language steps onFailed onReady).log) ∧
    (Overflowing host language →
      PutsTwice (withBox host language steps onFailed onReady)) := by
  constructor
  · intro h
    rw [UsesOnce, ← boxUses]
    cases prepareIsolateExecution_takes h with
    | ready hresult huses =>
        rw [boxUses_withBox_ready steps hready hresult, huses]
        exact .inr rfl
    | other hresult huses =>
        rw [boxUses_withBox_other steps hfailed hresult]
        exact huses
  · intro h
    obtain ⟨hresult, huses⟩ := prepareIsolateExecution_putsTwice h
    rw [PutsTwice, boxUses_withBox_other steps hfailed hresult]
    exact huses

end WithBox

/-! ## A grading task -/

def readLanguage (message : Dict) : TaskScript Json := do
  let _ ← required message "submission_id"
  let _ ← required message "code"
  let language ← required message "language"
  let _ ← required message "time_limit_ms"
  match ← judgeCases message with
  | [] => pure language
  | first :: _ => do
      let _ ← caseField first "input"
      pure language

def ReturnsTwice (message : Dict) (host : IsolateHost) : Prop :=
  ∃ language, (readLanguage message).result = .ok language ∧ Overflowing host language

def UsesBoxOf (host : IsolateHost) (script : BoxScript Unit) (read : TaskScript Json) :
    Prop :=
  (∃ language, read.result = .ok language ∧
    (¬ Overflowing host language → UsesOnce boxUse script.log) ∧
    (Overflowing host language → PutsTwice script)) ∨
  (∃ error, read.result = .error error) ∧ boxUses script = []

omit [PythonRuntime] in
theorem UsesBoxOf.bind {β : Type} {host : IsolateHost} {x : TaskScript β}
    {f : β → BoxScript Unit} {g : β → TaskScript Json}
    (h : ∀ b, UsesBoxOf host (f b) (g b)) : UsesBoxOf host (ofTask x >>= f) (x >>= g) := by
  cases hx : x.result with
  | error error =>
      refine .inr ⟨⟨error, ?_⟩, ?_⟩
      · rw [Script.bind_of_error hx]
      · rw [boxUses_bind_error (x := ofTask x) hx, boxUses_ofTask]
  | ok b =>
      have huses : boxUses (ofTask x >>= f) = boxUses (f b) := by
        rw [boxUses_bind_ok (x := ofTask x) hx, boxUses_ofTask, List.nil_append]
      have hread : (x >>= g).result = (g b).result := by
        rw [Script.bind_of_ok hx]
      unfold UsesBoxOf UsesOnce PutsTwice
      rw [hread, ← boxUses, huses]
      exact h b

theorem gradeInBox_usesBoxOf (message : Dict) (host : IsolateHost) (steps : TaskSteps) :
    UsesBoxOf host (gradeInBox message host steps) (readLanguage message) := by
  unfold gradeInBox readLanguage
  refine .bind fun submissionId => .bind fun _ => .bind fun language => .bind fun timeLimit =>
    .bind fun cases => ?_
  cases cases with
  | nil =>
      have huses := boxUses_bind_silent (runCodeInBox host language steps)
        (fun result => boxUses_ofTask (reportCustomRun steps submissionId timeLimit result))
      refine .inl ⟨language, rfl, ?_⟩
      rw [UsesOnce, PutsTwice, ← boxUses, huses]
      exact withBox_uses steps (fun _ => boxUses_pure _) (boxUses_ofExcept _)
  | cons first rest =>
      refine .bind fun _ => .inl ⟨language, rfl, ?_⟩
      exact withBox_uses steps (fun _ => boxUses_ofTask _) (boxUses_ofTask _)

theorem gradeInBox_usesOnce {message : Dict} {host : IsolateHost}
    (h : ¬ ReturnsTwice message host) (steps : TaskSteps) :
    UsesOnce boxUse (gradeInBox message host steps).log := by
  rcases gradeInBox_usesBoxOf message host steps with ⟨language, hread, honce, -⟩ |
    ⟨-, hnone⟩
  · exact honce fun hoverflow => h ⟨language, hread, hoverflow⟩
  · exact .inl hnone

theorem gradeInBox_putsTwice {message : Dict} {host : IsolateHost}
    (h : ReturnsTwice message host) (steps : TaskSteps) :
    PutsTwice (gradeInBox message host steps) := by
  obtain ⟨language, hread, hoverflow⟩ := h
  rcases gradeInBox_usesBoxOf message host steps with ⟨other, hother, -, htwice⟩ |
    ⟨⟨error, herror⟩, -⟩
  · rw [hread, Except.ok.injEq] at hother
    subst hother
    exact htwice hoverflow
  · rw [hread] at herror
    cases herror

/-- A task uses a box once exactly if its box does not go back twice. -/
theorem gradeInBox_usesOnce_iff (message : Dict) (host : IsolateHost) (steps : TaskSteps) :
    UsesOnce boxUse (gradeInBox message host steps).log ↔ ¬ ReturnsTwice message host := by
  constructor
  · intro honce htwice
    have hputs := gradeInBox_putsTwice htwice steps
    rw [UsesOnce, ← boxUses, hputs] at honce
    revert honce
    decide
  · exact fun h => gradeInBox_usesOnce h steps

/-! ## All tasks -/

inductive BoxEvent where
  | start (message : Dict) (host : IsolateHost) (steps : TaskSteps)
  | act (task : Nat)

def BoxEvent.poolEvent : BoxEvent → Event BoxAction
  | .start message host steps => .arrive (gradeInBox message host steps).log
  | .act task => .act task

/-- The queue after `ISOLATE_BOXES` puts, and no task. -/
def boxQueue (boxes : Nat) : State BoxAction Nat := ⟨List.range boxes, []⟩

def runTasks (boxes : Nat) (events : List BoxEvent) : State BoxAction Nat :=
  run boxUse (boxQueue boxes) (events.map BoxEvent.poolEvent)

/-- Each box is free once or held by one task, and an ended task returned its box once. -/
structure BoxesKept (boxes : Nat) (s : State BoxAction Nat) : Prop where
  one_place : ∀ box < boxes, places box s = 1
  returned : ∀ task ∈ s.clients, task.todo = [] → task.item ≠ none → task.returned = 1

def BoxEvent.ReturnsTwice : BoxEvent → Prop
  | .start message host _ => Scripts.ReturnsTwice message host
  | .act _ => False

theorem BoxEvent.usesOnce {e : BoxEvent} (h : ¬ e.ReturnsTwice) :
    e.poolEvent.UsesOnce boxUse := by
  cases e with
  | start message host steps => exact (gradeInBox_usesOnce_iff message host steps).mpr h
  | act task => trivial

/-- Boxes are kept at every moment of a run in which no task returns its box twice. -/
theorem boxes_kept (boxes : Nat) (events : List BoxEvent)
    (h : ∀ e ∈ events, ¬ e.ReturnsTwice) : BoxesKept boxes (runTasks boxes events) := by
  have hevents : ∀ e ∈ events.map BoxEvent.poolEvent, e.UsesOnce boxUse := by
    intro e he
    obtain ⟨event, hmem, rfl⟩ := List.mem_map.mp he
    exact BoxEvent.usesOnce (h event hmem)
  have hstart : ∀ c ∈ (boxQueue boxes).clients, Orderly boxUse c := by
    intro c hc
    cases hc
  obtain ⟨horderly, hplaces⟩ := run_places boxUse hstart hevents
  constructor
  · intro box hbox
    have hfree : (List.range boxes).count box = 1 :=
      List.count_eq_one_of_mem List.nodup_range (List.mem_range.mpr hbox)
    rw [runTasks, hplaces]
    simpa [places, boxQueue] using hfree
  · intro task htask hended hitem
    obtain ⟨box, hbox⟩ := Option.ne_none_iff_exists'.mp hitem
    exact (horderly task htask).returned_eq boxUse hended hbox

end Runtime

/-! ## Compile errors with a time -/

def compileErrorHost (metaText : String) : IsolateHost where
  findTool tool := some tool
  maxOutputBytes := 1048576
  clearBefore := .ok ()
  init := .ok ⟨0, "/var/local/lib/isolate/0", ""⟩
  workspace := .ok ()
  compile := .ok ⟨⟨1, "", "main.cpp:1:1: error"⟩, some metaText⟩
  clearAfterCompile := .ok ()
  clearAfterError := .ok ()

def cppMessage : Dict :=
  [("submission_id", .int 7), ("code", .str "int main("), ("language", .str "cpp"),
    ("time_limit_ms", .int 10000), ("judge_cases", .arr [.obj [("input", .str "1")]])]

def acceptingSteps : TaskSteps where
  prepare := .ok .ready
  execute _ := .ok ⟨"SUCCESS", "1", 20⟩
  cleanup := .ok ()
  verdictReplies _ := .accepted
  firstMark := ⟨.new, .ok (some 5), .acknowledged⟩
  publish := .acknowledged
  failedAtMs := 0
  faultReplies _ := .accepted
  secondMark := ⟨.new, .ok (some 5), .acknowledged⟩

def startWith (metaText : String) : BoxEvent :=
  .start cppMessage (compileErrorHost metaText) acceptingSteps

def threeTasks (metaText : String) : List BoxEvent :=
  List.replicate 3 (startWith metaText) ++ List.replicate 9 (.act 0) ++ [.act 1, .act 2]

theorem boxes_kept_compile_error :
    letI := plainRuntime
    BoxesKept 2 (runTasks 2 (threeTasks "time:0.120\nexitcode:1")) := by
  let := plainRuntime
  refine boxes_kept 2 _ fun e he htwice => ?_
  have htime : metaTimeMs (parseIsolateMeta (some "time:0.120\nexitcode:1")) 0 = .ok 120 := by
    decide +kernel
  simp only [threeTasks, List.mem_append, List.mem_replicate, List.mem_cons,
    List.not_mem_nil, or_false] at he
  rcases he with (⟨-, rfl⟩ | ⟨-, rfl⟩) | rfl | rfl
  · obtain ⟨language, -, name, -, -, -, hbox⟩ := htwice
    obtain ⟨run, hrun⟩ := hbox.overflows
    have hmeta : (⟨⟨1, "", "main.cpp:1:1: error"⟩, some "time:0.120\nexitcode:1"⟩ :
        IsolateRun) = run := Except.ok.inj hrun.compiled
    subst hmeta
    have hoverflow := metaTimeMs_overflows _ 0 hrun.overflows
    rw [htime] at hoverflow
    cases hoverflow
  all_goals exact htwice

/-- A time of `inf` puts the only box back twice, and two tasks then hold it. -/
theorem overflow_shares_box :
    letI := plainRuntime
    let s := runTasks 1 (threeTasks "time:inf\nexitcode:1")
    (s.clients.countP fun task => task.Holds 0) = 2 ∧ ¬ BoxesKept 1 s := by
  let := plainRuntime
  have hheld : places 0 (runTasks 1 (threeTasks "time:inf\nexitcode:1")) = 2 := by
    decide +kernel
  refine ⟨by decide +kernel, fun h => ?_⟩
  have hone := h.one_place 0 (by decide)
  rw [hheld] at hone
  cases hone

end JudgeVortex.Executor.Scripts
