import JudgeVortex.Executor.Delivery
import JudgeVortex.Executor.GradeTask
import JudgeVortex.System.InlineAgreement
import JudgeVortex.Templates.TeacherDashboard
import JudgeVortex.System.RetryChain
import JudgeVortex.Foundation.LastWins
import JudgeVortex.Shared.Paths
import JudgeVortex.CoreApi.Workspace
import JudgeVortex.Executor.Workspace
import JudgeVortex.System.WorkspaceAgreement
import JudgeVortex.CoreApi.Submit
import JudgeVortex.CoreApi.SubmitSettles
import JudgeVortex.CoreApi.Passing
import JudgeVortex.System.Platform
import JudgeVortex.System.Integrity
import JudgeVortex.CoreApi.Admission
import JudgeVortex.Executor.Commits
import JudgeVortex.System.Replicas
import JudgeVortex.Executor.TaskScript
import JudgeVortex.Executor.TaskLeaves
import JudgeVortex.System.RetryBound
import JudgeVortex.CoreApi.Locking
import JudgeVortex.System.HiddenCases
import JudgeVortex.Executor.Isolate
import JudgeVortex.Executor.BoxPool
import JudgeVortex.System.Counts
import JudgeVortex.Executor.Worker
import JudgeVortex.Executor.Disk
import JudgeVortex.CoreApi.ParticipantLock
import JudgeVortex.CoreApi.Joining
import JudgeVortex.CoreApi.SubmitWrites
import JudgeVortex.System.Isolation
import JudgeVortex.Foundation.ShellLexer
import JudgeVortex.Python.Shlex
import JudgeVortex.Executor.BuildCommands
import JudgeVortex.Executor.Output
import JudgeVortex.Foundation.GroupEdges
import JudgeVortex.Shared.CaseBlocks
import JudgeVortex.Shared.CaseRoundTrip
import JudgeVortex.Python.JsonText
import JudgeVortex.CoreApi.Suspicion
import JudgeVortex.CoreApi.Integrations
import JudgeVortex.Foundation.Accumulation
import JudgeVortex.CoreApi.Throttles
import JudgeVortex.CoreApi.ThrottlePolicy
import JudgeVortex.Foundation.Heap
import JudgeVortex.Python.Objects
import JudgeVortex.CoreApi.RuntimeConfig
import JudgeVortex.System.ConfigRuns
import JudgeVortex.Foundation.Tallies
import JudgeVortex.System.AuditTrail
import JudgeVortex.CoreApi.Presence
import JudgeVortex.Foundation.Cooldown
import JudgeVortex.System.RoomCodes
import JudgeVortex.System.Schedules
import JudgeVortex.CoreApi.ConfigOverlay
import JudgeVortex.CoreApi.SuspicionRuns
import JudgeVortex.Foundation.InsertionMap
import JudgeVortex.Templates.Leaderboard
import JudgeVortex.Foundation.Tasks
import JudgeVortex.Templates.SubmissionLock
import JudgeVortex.Templates.LockRuns
import JudgeVortex.Templates.WorkspaceFiles
import JudgeVortex.Templates.WorkspaceEditor
import JudgeVortex.Templates.EditorDocuments
import JudgeVortex.Templates.SavedWorkspaces
import JudgeVortex.Templates.QuestionSwitching
import JudgeVortex.Templates.EditorRuns
import JudgeVortex.Templates.EditorLanguage
import JudgeVortex.System.EditorSubmission
import JudgeVortex.Templates.FocusGuard
import JudgeVortex.Templates.FocusRuns
import JudgeVortex.Infrastructure.Autoscaler
import JudgeVortex.System.StoredVerdicts
import JudgeVortex.Templates.StudentCodes
import JudgeVortex.Templates.RoomDisplay
import JudgeVortex.System.HandOvers
