import TomtitAgent.Python.Str
import TomtitAgent.Python.Fnmatch
import TomtitAgent.Python.Order
import TomtitAgent.Python.Case
import TomtitAgent.Python.Value
import TomtitAgent.Python.Sha256
import TomtitAgent.Python.Json
import TomtitAgent.Python.JsonLoad
import TomtitAgent.BuildHarness.State
import TomtitAgent.BuildHarness.Validation
import TomtitAgent.BuildHarness.Contracts
import TomtitAgent.BuildHarness.NextAction
import TomtitAgent.BuildHarness.Canonical
import TomtitAgent.BuildHarness.CanonicalForm
import TomtitAgent.BuildHarness.MergeEligibility.Values
import TomtitAgent.BuildHarness.MergeEligibility.Facts
import TomtitAgent.BuildHarness.MergeEligibility.Policy
import TomtitAgent.BuildHarness.MergeEligibility.Evaluate
import TomtitAgent.BuildHarness.MergeEligibility.PolicyV1
import TomtitAgent.BuildHarness.MergeEligibility.InputDigest
import TomtitAgent.BuildHarness.MergeEligibility.Record
import TomtitAgent.BuildHarness.MergeEligibility.RecordValidation
import TomtitAgent.BuildHarness.MergeEligibility.Facade
import TomtitAgent.BuildHarness.MergeEligibility.DecisionDigest
import TomtitAgent.BuildHarness.MergeEligibility.RecordTotal
import TomtitAgent.BuildHarness.MergeEligibility.Replay
import TomtitAgent.BuildHarness.MergeEligibility.RawRecord
import TomtitAgent.Python.Lines
import TomtitAgent.Python.FileTree
import TomtitAgent.BuildHarness.EvidenceStore.Summary
import TomtitAgent.Conversation.Completeness
import TomtitAgent.Conversation.Atomicity
import TomtitAgent.Conversation.PreferencePolarity
import TomtitAgent.Conversation.AffectionPolarity
import TomtitAgent.Conversation.GoalPolarity
import TomtitAgent.Memory.StoreEquivalence
import TomtitAgent.BuildHarness.RepoPath
import TomtitAgent.BuildHarness.ChangeGate.Forbidden
import TomtitAgent.BuildHarness.ChangeGate.Order
import TomtitAgent.WebApi.SessionManager
import TomtitAgent.Confirmation.ConfirmedSave
import TomtitAgent.Runtime.WellRun
import TomtitAgent.Memory.WriteAccounting
import TomtitAgent.Planning.PlanAgreement
import TomtitAgent.Runtime.NoteRoundTrip
import TomtitAgent.Runtime.PlanOrder
import TomtitAgent.Tools.Gates
import TomtitAgent.BuildHarness.Identifiers
import TomtitAgent.Runtime.Recall
import TomtitAgent.BuildHarness.RejectedContext
import TomtitAgent.BuildHarness.EvidenceRun
import TomtitAgent.BuildHarness.MergeEligibility.RawInput
import TomtitAgent.SessionPersistence.AtomicSave
import TomtitAgent.Conversation.ComparisonTruth
import TomtitAgent.Planning.ArithmeticUnaltered
import TomtitAgent.Conversation.NearMatch
import TomtitAgent.Conversation.CanonicalKeys
import TomtitAgent.Memory.LocalClient
import TomtitAgent.Memory.RemoteRetrieval
import TomtitAgent.Runtime.PendingNote
import TomtitAgent.Conversation.RelationUpdate
import TomtitAgent.Conversation.SemanticContract
import TomtitAgent.Conversation.PreferenceAnswers
import TomtitAgent.Conversation.StatedPolarity
import TomtitAgent.SessionPersistence.LoadTotal
import TomtitAgent.Runtime.DeleteAll
import TomtitAgent.BuildHarness.TaskRuns
import TomtitAgent.SessionPersistence.RoundTrip
import TomtitAgent.SessionPersistence.SessionMap
import TomtitAgent.WebApi.Transcripts
import TomtitAgent.Conversation.BatchOperations
import TomtitAgent.Skills.Partition
