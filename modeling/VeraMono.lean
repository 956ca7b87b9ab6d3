import VeraMono.Proof.Barrier
import VeraMono.Proof.TaskReplay
import VeraMono.Proof.JournalReadback
import VeraMono.Proof.OutboundTrust
import VeraMono.Proof.TaskWake
import VeraMono.Proof.PlanAcyclicity
import VeraMono.Proof.ArtifactManifest
import VeraMono.Proof.InboxPaging
import VeraMono.Proof.Recovery
import VeraMono.Proof.GovernedMemory
import VeraMono.Proof.SourceTransport
import VeraMono.Proof.RepositoryLineage
import VeraMono.Proof.DecisionAuthority
import VeraMono.Proof.VeraFund
import VeraMono.Proof.IndependentReview
import VeraMono.Proof.BehaviorAttestation
import VeraMono.Proof.DriveFeedback
import VeraMono.Proof.LearnedInfluence
import VeraMono.Proof.IndependentExecutions
import VeraMono.Proof.RunAccounting
import VeraMono.Proof.FeedbackGovernance
import VeraMono.Proof.IngestRuns
import VeraMono.Proof.LeaseFencing
import VeraMono.Proof.DispatchLineages
import VeraMono.Proof.PlanDatabase
import VeraMono.Proof.RejectedCheckpoint
import VeraMono.Proof.PcCancellation
import VeraMono.Proof.TaskScope
import VeraMono.Proof.EvidenceAdapters
import VeraMono.Proof.IdempotencyKey
import VeraMono.Proof.ProviderEffects
import VeraMono.Proof.Sequence
import VeraMono.Proof.RetryGuard
import VeraMono.Proof.Orientation
import VeraMono.Proof.CorrectiveLearning
import VeraMono.Proof.CommandJournal
import VeraMono.Proof.MemoryTamper
import VeraMono.Proof.MemoryMigration
import VeraMono.Proof.Reconciliation
import VeraMono.Proof.ForcedTests
import VeraMono.Proof.CheckContexts
import VeraMono.Proof.GuardedReplay
import VeraMono.Proof.Cascade
import VeraMono.Proof.EvidenceGraph
import VeraMono.Proof.ContextualInterpretation
import VeraMono.Proof.Normalization
import VeraMono.Proof.StateDirectory
