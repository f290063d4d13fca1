import Dnc.Logic.Kahn
import Dnc.Logic.Saturation
import Dnc.PyLib.Compare
import Dnc.PyLib.JsonText
import Dnc.Ir.Validator
import Dnc.Ir.Upgrade
import Dnc.Ir.Acceptance
import Dnc.Mutation.Rollback
import Dnc.Transaction.History
import Dnc.Replay.StructuralReplay
import Dnc.Dcc.Executable
import Dnc.Dcc.Learning
import Dnc.Dcc.Generator
import Dnc.Dcc.Controller
import Dnc.System.Selection
import Dnc.System.Budget
import Dnc.Persistence.Fencing
import Dnc.Persistence.EventHistory
import Dnc.Distributed.Redelivery
import Dnc.Cognition.LeastInvalidation
import Dnc.Cognition.Lossless
import Dnc.Cognition.Noninterference
import Dnc.Repair.Engine
import Dnc.Scheduler.Dispatch
import Dnc.Runtime.Completion
import Dnc.Runtime.Restore
import Dnc.Planner.Checklist
import Dnc.Execution.ReplaySoundness
import Dnc.Execution.ReplayAdmission
import Dnc.Control.Front
import Dnc.Cognition.Controller
import Dnc.Learning.Drift
import Dnc.Learning.RootCause
import Dnc.Learning.Updates
import Dnc.Learning.Versions
import Dnc.Halting.Available
import Dnc.Memory.SkillErrors
import Dnc.Memory.LegalHold
import Dnc.Transaction.Journal
import Dnc.Observability.Tampering
import Dnc.System.SemanticAdmission
import Dnc.Logic.Statements
import Dnc.PolicyLearning.Promotion
import Dnc.PolicyLearning.Registry
import Dnc.Registry.Artifacts
import Dnc.PolicyLearning.Selection
import Dnc.PolicyLearning.OffPolicy
import Dnc.Enterprise.Operations
import Dnc.Persistence.ObjectStore
import Dnc.Capabilities.Image
import Dnc.System.Snapshot
import Dnc.System.Restoration
import Dnc.Assurance.Calibration
import Dnc.Assurance.Cascade
import Dnc.Assurance.Copies
import Dnc.Assurance.Isotonic
import Dnc.Assurance.NeverRevived
import Dnc.Learning.CircuitBreaker
import Dnc.Memory.Access
import Dnc.Neural.Adaptive
import Dnc.Memory.Compression
import Dnc.Memory.Dependencies
import Dnc.Pilot.Approvals
import Dnc.Sdk.Admission
import Dnc.Capabilities.ProviderRest
import Dnc.Capabilities.Broker
import Dnc.Execution.RequestIdentity
import Dnc.Execution.Sandbox
import Dnc.Execution.EffectLedger
import Dnc.Runtime.Pending
import Dnc.Runtime.Recording
import Dnc.Sdk.Boundaries
import Dnc.Semantics.Synthesis
import Dnc.Enterprise.Redaction
import Dnc.Enterprise.Audit
import Dnc.Assurance.Outcomes
import Dnc.Assurance.Checks
import Dnc.Capabilities.RequestRate
import Dnc.Logic.StepDown
import Dnc.Observability.Evaluation
import Dnc.Plugins.LoadPolicy
import Dnc.Repair.CutLaw
import Dnc.Observability.Bias
import Dnc.Evaluation.CampaignLaw
