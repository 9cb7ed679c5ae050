import JudgeVortex.Executor.Output
import JudgeVortex.Executor.TaskScript
import JudgeVortex.Foundation.Pool
import JudgeVortex.Python.Float

/-!
# Preparing a box

The isolate backend of `executor_service/sandbox.py`: the meta file of a run, and
`_prepare_isolate_execution` with the box that it takes from the queue.
-/

namespace JudgeVortex.Executor.Scripts

open JudgeVortex.Foundation JudgeVortex.Foundation.Pool JudgeVortex.Python

/-! ## The meta file -/

abbrev Meta := List (String × String)

def metaEntry (rawLine : String) : Option (String × String) :=
  let line := (strip rawLine).toList
  if ':' ∈ line then
    let (key, value) := line.span (· ≠ ':')
    some (strip (.ofList key), strip (.ofList (value.drop 1)))
  else none

def parseIsolateMeta (text : Option String) : Meta :=
  text.elim [] fun text =>
    (splitChar '\n' (replaceCarriageReturns text)).filterMap metaEntry

/-- Of two lines for one key the later counts. -/
def metaGet (data : Meta) (key : String) : Option String := data.reverse.lookup key

def timeMs (value : String) : Except PyError Int :=
  match parseFloat value with
  | none => .error .valueError
  | some x => truncate (x * .ofNat 1000)

def metaTimeFrom (data : Meta) (fallback : Int) : List String → Except PyError Int
  | [] => .ok fallback
  | key :: rest =>
      match metaGet data key with
      | none | some "" => metaTimeFrom data fallback rest
      | some value =>
          match timeMs value with
          | .error .typeError | .error .valueError => metaTimeFrom data fallback rest
          | result => result

/-- `_meta_time_ms`; an overflow is not caught. -/
def metaTimeMs (data : Meta) (fallback : Int) : Except PyError Int :=
  metaTimeFrom data fallback ["time", "time-wall"]

example : metaTimeMs (parseIsolateMeta (some "status:TO\ntime: 0.120\n")) 0 = .ok 120 := by
  decide +kernel

def Overflows (data : Meta) (key : String) : Prop :=
  ∃ value ∈ metaGet data key, ∃ x ∈ parseFloat value, (x * .ofNat 1000).isInf = true

def NoTime (data : Meta) (key : String) : Prop :=
  ∀ value ∈ metaGet data key, ∀ x ∈ parseFloat value,
    (x * .ofNat 1000).isInf = false ∧ (x * .ofNat 1000).isNaN = true

def TimeOverflows (data : Meta) : Prop :=
  Overflows data "time" ∨ NoTime data "time" ∧ Overflows data "time-wall"

theorem metaTimeFrom_cons (data : Meta) (fallback : Int) (key : String)
    (rest : List String) :
    (Overflows data key → metaTimeFrom data fallback (key :: rest) =
      .error .overflowError) ∧
    (NoTime data key → metaTimeFrom data fallback (key :: rest) =
      metaTimeFrom data fallback rest) ∧
    (Overflows data key ∨ NoTime data key ∨
      ∃ n, metaTimeFrom data fallback (key :: rest) = .ok n) := by
  cases hget : metaGet data key with
  | none => simp [Overflows, NoTime, metaTimeFrom, hget]
  | some value =>
      cases hparse : parseFloat value with
      | none =>
          have htime : timeMs value = .error .valueError := by simp only [timeMs, hparse]
          by_cases hempty : value = "" <;>
            simp [Overflows, NoTime, metaTimeFrom, hget, hparse, hempty, htime]
      | some x =>
          have htime : timeMs value = truncate (x * .ofNat 1000) := by
            simp only [timeMs, hparse]
          have hvalue : value ≠ "" := by
            rintro rfl
            rw [parseFloat_empty] at hparse
            cases hparse
          have hinf := truncate_eq_overflowError_iff (x * .ofNat 1000)
          have hnan := truncate_eq_valueError_iff (x * .ofNat 1000)
          simp only [Overflows, NoTime, metaTimeFrom, hget, Option.mem_def,
            Option.some.injEq, exists_eq_left', forall_eq', hparse, htime, ← hinf, ← hnan]
          rcases truncate_cases (x * .ofNat 1000) with h | h | ⟨n, h⟩ <;> simp [h]

theorem metaTimeMs_overflows (data : Meta) (fallback : Int) (h : TimeOverflows data) :
    metaTimeMs data fallback = .error .overflowError := by
  rcases h with h | ⟨h, hwall⟩
  · exact (metaTimeFrom_cons data fallback "time" _).1 h
  · rw [metaTimeMs, (metaTimeFrom_cons data fallback "time" _).2.1 h]
    exact (metaTimeFrom_cons data fallback "time-wall" _).1 hwall

theorem metaTimeMs_ok (data : Meta) (fallback : Int) (h : ¬ TimeOverflows data) :
    ∃ n, metaTimeMs data fallback = .ok n := by
  rcases (metaTimeFrom_cons data fallback "time" ["time-wall"]).2.2 with htime | htime | hn
  · exact absurd (.inl htime) h
  · rw [metaTimeMs, (metaTimeFrom_cons data fallback "time" _).2.1 htime]
    rcases (metaTimeFrom_cons data fallback "time-wall" []).2.2 with hwall | hwall | hn
    · exact absurd (.inr ⟨htime, hwall⟩) h
    · exact ⟨fallback, (metaTimeFrom_cons data fallback "time-wall" []).2.1 hwall⟩
    · exact hn
  · exact hn

/-! ## Boxes -/

inductive IsolateCommand where
  | cleanup
  | init
  | compile
  deriving DecidableEq, Repr

/-- What a task does to the queue of boxes, and what else it does. -/
inductive BoxAction where
  | take
  | put
  | command (command : IsolateCommand)
  | task (action : TaskAction)

def boxUse : BoxAction → Option Use
  | .take => some .take
  | .put => some .put
  | .command _ | .task _ => none

structure ProcessReply where
  returncode : Int
  stdout : String
  stderr : String

structure IsolateRun extends ProcessReply where
  metaText : Option String

structure IsolateHost where
  findTool : String → Option String
  maxOutputBytes : Nat
  clearBefore : Except String Unit
  init : Except String ProcessReply
  workspace : Except String Unit
  compile : Except String IsolateRun
  clearAfterCompile : Except String Unit
  clearAfterError : Except String Unit

abbrev BoxScript := Script BoxAction String

def command {β : Type} (command : IsolateCommand) (answer : Except String β) :
    BoxScript β := do
  .emit (.command command)
  .ofExcept answer

def ofTask {β : Type} (script : TaskScript β) : BoxScript β :=
  ⟨script.log.map .task, script.result⟩

/-- `a or b`. -/
def orText (a b : String) : String := if a = "" then b else a

def unsupportedLanguage (language : String) : SandboxResult :=
  ⟨"SYSTEM_ERROR", "Language " ++ language ++ " not supported.", 0⟩

def missingTools (missing : List String) : SandboxResult :=
  ⟨"SYSTEM_ERROR", "Missing runtime tooling: " ++ join ", " missing, 0⟩

def compiledLanguages : List String := ["cpp", "c", "go", "rust", "java", "typescript"]

def overflowText : String := "cannot convert float infinity to integer"

/-- A failed compile: the box goes back before the time of the run is read. -/
def compileFailed (host : IsolateHost) (data : Meta) (output : String) :
    BoxScript Preparation := do
  command .cleanup host.clearAfterCompile
  .emit .put
  let timeMs ← .ofExcept ((metaTimeMs data 0).mapError fun _ => overflowText)
  pure (.failed ⟨"COMPILATION_ERROR", output, timeMs⟩)

def compileBox (host : IsolateHost) : BoxScript Preparation := do
  let run ← command .compile host.compile
  let data := parseIsolateMeta run.metaText
  let (out, err) := decodeOutput host.maxOutputBytes run.stdout run.stderr
  if metaGet data "status" ∈ [some "TO", some "WT"] then
    compileFailed host data "Compilation timed out."
  else if run.returncode ≠ 0 then
    compileFailed host data (orText err (orText out "Compilation failed."))
  else pure .ready

def prepareBox (host : IsolateHost) (language : String) : BoxScript Preparation := do
  command .cleanup host.clearBefore
  let reply ← command .init host.init
  if reply.returncode ≠ 0 then
    .emit .put
    pure (.failed ⟨"SYSTEM_ERROR", orText (strip reply.stderr)
      (orText (strip reply.stdout) "Failed to initialize isolate."), 0⟩)
  else
    .ofExcept host.workspace
    if language ∈ compiledLanguages then compileBox host else pure .ready

def abandonBox (host : IsolateHost) (error : String) : BoxScript Preparation := do
  .tryFinally (command .cleanup host.clearAfterError) (.emit .put)
  pure (.failed ⟨"SYSTEM_ERROR", error, 0⟩)

def takeBox (host : IsolateHost) (language : String) : BoxScript Preparation := do
  .emit .take
  .tryExcept (prepareBox host language) (abandonBox host)

section Runtime

variable [PythonRuntime]

/-- `_prepare_isolate_execution`; a list or an object is no key of `LANG_CONFIG`. -/
def prepareIsolateExecution (host : IsolateHost) (language : Json) : BoxScript Preparation :=
  match language with
  | .arr _ | .obj _ => .fail ("unhashable type: '" ++ typeName language ++ "'")
  | .str language =>
      if (runtimeTools.lookup language).isNone then
        pure (.failed (unsupportedLanguage language))
      else
        let missing := getMissingRuntimeTools host.findTool language
        if missing ≠ [] then pure (.failed (missingTools missing))
        else takeBox host language
  | language => pure (.failed (unsupportedLanguage language.toText))

def cleanupPrepared (steps : TaskSteps) : BoxScript Unit :=
  .tryFinally (command .cleanup steps.cleanup) (.emit .put)

def withBox {β : Type} (host : IsolateHost) (language : Json) (steps : TaskSteps)
    (onFailed : SandboxResult → BoxScript β) (onReady : BoxScript β) : BoxScript β := do
  match ← prepareIsolateExecution host language with
  | .failed result => onFailed result
  | .ready => .tryFinally onReady (cleanupPrepared steps)

def runCodeInBox (host : IsolateHost) (language : Json) (steps : TaskSteps) :
    BoxScript SandboxResult :=
  withBox host language steps pure (.ofExcept (steps.execute 0))

def gradeInBox (message : Dict) (host : IsolateHost) (steps : TaskSteps) :
    BoxScript Unit := do
  let submissionId ← ofTask (required message "submission_id")
  let _ ← ofTask (required message "code")
  let language ← ofTask (required message "language")
  let timeLimit ← ofTask (required message "time_limit_ms")
  match ← ofTask (judgeCases message) with
  | [] =>
      let result ← runCodeInBox host language steps
      ofTask (reportCustomRun steps submissionId timeLimit result)
  | first :: rest =>
      let total : Int := (first :: rest).length
      let _ ← ofTask (caseField first "input")
      withBox host language steps
        (fun result => ofTask (updateSubmission steps.verdictReplies submissionId
          result.status result.output (.int result.timeMs) (some (0, total))))
        (ofTask (gradeCases steps submissionId total (first :: rest) 0 0 0 ""))

end Runtime

/-! ## The task without its box -/

def BoxAction.task? : BoxAction → Option TaskAction
  | .task action => some action
  | .take | .put | .command _ => none

/-- The two scripts end alike and do the same but for the box. -/
abbrev ForgetsBox {β : Type} (script : BoxScript β) (task : TaskScript β) : Prop :=
  Script.Forgets BoxAction.task? script task

theorem forgetsBox_ofTask {β : Type} (script : TaskScript β) :
    ForgetsBox (ofTask script) script := by
  constructor
  · simp only [ofTask, List.filterMap_map]
    exact List.filterMap_some
  · rfl

def Quiet {β : Type} (script : BoxScript β) : Prop :=
  ∀ action ∈ script.log, action.task? = none

section Quiet

variable {β γ : Type}

theorem Quiet.bind {x : BoxScript β} {f : β → BoxScript γ} (hx : Quiet x)
    (hf : ∀ b, Quiet (f b)) : Quiet (x >>= f) :=
  Script.forall_log_bind hx fun b _ => hf b

theorem quiet_command (c : IsolateCommand) (answer : Except String β) :
    Quiet (command c answer) := by
  cases answer <;> simp [Quiet, command, Script.bind_of_ok, BoxAction.task?]

theorem quiet_pure (b : β) : Quiet (pure b) := by simp [Quiet]

theorem quiet_put : Quiet (.emit .put) := by simp [Quiet, BoxAction.task?]

theorem quiet_ofExcept (result : Except String β) : Quiet (.ofExcept result) := by
  simp [Quiet]

end Quiet

theorem quiet_compileFailed (host : IsolateHost) (data : Meta) (output : String) :
    Quiet (compileFailed host data output) :=
  (quiet_command _ _).bind fun _ => quiet_put.bind fun _ =>
    (quiet_ofExcept _).bind fun _ => quiet_pure _

theorem quiet_compileBox (host : IsolateHost) : Quiet (compileBox host) := by
  refine (quiet_command _ _).bind fun run => ?_
  dsimp only
  split
  · exact quiet_compileFailed host _ _
  · split
    · exact quiet_compileFailed host _ _
    · exact quiet_pure _

theorem quiet_prepareBox (host : IsolateHost) (language : String) :
    Quiet (prepareBox host language) := by
  refine (quiet_command _ _).bind fun _ => (quiet_command _ _).bind fun reply => ?_
  split
  · exact quiet_put.bind fun _ => quiet_pure _
  · refine (quiet_ofExcept _).bind fun _ => ?_
    split
    · exact quiet_compileBox host
    · exact quiet_pure _

theorem quiet_takeBox (host : IsolateHost) (language : String) :
    Quiet (takeBox host language) := by
  have htake : Quiet (.emit .take) := by simp [Quiet, BoxAction.task?]
  refine htake.bind fun _ => ?_
  refine Script.forall_log_tryExcept (quiet_prepareBox host language) fun error => ?_
  have hclear : Quiet (.tryFinally (command .cleanup host.clearAfterError) (.emit .put)) :=
    Script.forall_log_tryFinally (quiet_command _ _) quiet_put
  exact hclear.bind fun _ => quiet_pure _

section Runtime

variable [PythonRuntime]

theorem quiet_prepareIsolateExecution (host : IsolateHost) (language : Json) :
    Quiet (prepareIsolateExecution host language) := by
  have hraise : ∀ error, Quiet (.fail error : BoxScript Preparation) := by simp [Quiet]
  cases language with
  | str name =>
      unfold prepareIsolateExecution
      dsimp only
      split
      · exact quiet_pure _
      · split
        · exact quiet_pure _
        · exact quiet_takeBox host name
  | arr items => exact hraise _
  | obj fields => exact hraise _
  | null | bool b | int n | float x => exact quiet_pure _

omit [PythonRuntime] in
theorem forgetsBox_cleanupPrepared (steps : TaskSteps) :
    ForgetsBox (cleanupPrepared steps) (.ofExcept steps.cleanup) := by
  have hforgets : ForgetsBox (cleanupPrepared steps)
      (.ofExcept (cleanupPrepared steps).result) :=
    Script.forgets_ofExcept (Script.forall_log_tryFinally (quiet_command _ _) quiet_put)
  have hresult : (cleanupPrepared steps).result = steps.cleanup := by
    cases h : steps.cleanup <;> simp [cleanupPrepared, Script.tryFinally, command, h,
      Script.bind_of_ok]
  rwa [hresult] at hforgets

theorem forgetsBox_withBox {β : Type} (host : IsolateHost) (language : Json)
    (steps : TaskSteps) {onFailed : SandboxResult → BoxScript β} {onReady : BoxScript β}
    {onFailed' : SandboxResult → TaskScript β} {onReady' : TaskScript β}
    (hfailed : ∀ result, ForgetsBox (onFailed result) (onFailed' result))
    (hready : ForgetsBox onReady onReady') :
    ForgetsBox (withBox host language steps onFailed onReady) (do
      match ← .ofExcept (prepareIsolateExecution host language).result with
      | .failed result => onFailed' result
      | .ready => .tryFinally onReady' (.ofExcept steps.cleanup)) := by
  have hprepare := Script.forgets_ofExcept (quiet_prepareIsolateExecution host language)
  refine hprepare.bind fun p => ?_
  cases p with
  | failed result => exact hfailed result
  | ready => exact hready.tryFinally (forgetsBox_cleanupPrepared steps)

/-- Grading reads no preparation. -/
theorem gradeCases_prepare (steps : TaskSteps) (prepare : Except String Preparation)
    (submissionId : Json) (total : Int) (cases : List Json) (index : Nat)
    (passed time : Int) (lastOutput : String) :
    gradeCases { steps with prepare := prepare } submissionId total cases index passed time
        lastOutput =
      gradeCases steps submissionId total cases index passed time lastOutput := by
  induction cases generalizing index passed time lastOutput with
  | nil => rfl
  | cons case rest ih => simp only [gradeCases, ih]

omit [PythonRuntime] in
theorem ofTask_pure_bind {β γ : Type} (b : β) (f : β → BoxScript γ) :
    ofTask (pure b) >>= f = f b := rfl

/-- Without the box the task is `grade_submission` with this answer of its preparation. -/
theorem gradeInBox_forgetsBox {message : Dict} {language : Json}
    (hlanguage : field? message "language" = some language) (host : IsolateHost)
    (steps : TaskSteps) :
    ForgetsBox (gradeInBox message host steps) (gradeSubmission message
      { steps with prepare := (prepareIsolateExecution host language).result }) := by
  have hread : required message "language" = pure language := by
    simp only [required, hlanguage]
  unfold gradeInBox gradeSubmission
  refine (forgetsBox_ofTask _).bind fun submissionId => (forgetsBox_ofTask _).bind fun _ => ?_
  rw [hread, ofTask_pure_bind, Script.pure_bind]
  refine (forgetsBox_ofTask _).bind fun timeLimit => (forgetsBox_ofTask _).bind fun cases => ?_
  cases cases with
  | nil =>
      refine Script.Forgets.bind ?_ fun result => forgetsBox_ofTask _
      have hresult : ∀ result : SandboxResult, ForgetsBox (pure result) (pure result) :=
        fun _ => ⟨rfl, rfl⟩
      exact forgetsBox_withBox host language steps hresult ⟨rfl, rfl⟩
  | cons first rest =>
      refine (forgetsBox_ofTask _).bind fun _ => ?_
      rw [gradeCases_prepare steps (prepareIsolateExecution host language).result]
      exact forgetsBox_withBox host language steps (fun _ => forgetsBox_ofTask _)
        (forgetsBox_ofTask _)

end Runtime

end JudgeVortex.Executor.Scripts
