import V3Aidlc.Effects
import V3Aidlc.Authorization
import V3Aidlc.Timestamps
import V3Aidlc.ContextCompiler
import V3Aidlc.Dispatches
import V3Aidlc.ReferenceOrchestrator
import V3Aidlc.AuthorizationChanges
import V3Aidlc.GovernedDevelopment
import V3Aidlc.EvidenceGates
import V3Aidlc.GateVerdicts
import V3Aidlc.GateContainment
import V3Aidlc.ProjectLead
import V3Aidlc.Histories
import V3Aidlc.AppendOnly
import V3Aidlc.RecordedEvents
import V3Aidlc.Greedy
import V3Aidlc.Schedules
import V3Aidlc.ScheduleSafety
import V3Aidlc.SchedulePermutations
import V3Aidlc.Preparations
import V3Aidlc.Failures
import V3Aidlc.Runs
import V3Aidlc.Executions
import V3Aidlc.IntegrationBatches
import V3Aidlc.Accounts
import V3Aidlc.Feasibility
import V3Aidlc.Notes
import V3Aidlc.Promotions
import V3Aidlc.LostHistories
import V3Aidlc.DispatchControls
import V3Aidlc.DispatchedContexts
import V3Aidlc.Verdicts
import V3Aidlc.AcceptedRevisions
import V3Aidlc.RecoverableHistories
import V3Aidlc.RecoveryPlans
import V3Aidlc.UncheckedRecoveries
import V3Aidlc.ShortestDecimals
import V3Aidlc.Encodings
import V3Aidlc.TamperEvidence
import V3Aidlc.Replays
import V3Aidlc.ContextCompilations
import V3Aidlc.ContextDisclosure
import V3Aidlc.ContextPermutations
import V3Aidlc.ContextBudgets
import V3Aidlc.RuntimeConfig
import V3Aidlc.ConfigurationMerges
import V3Aidlc.ProtectedSettings
import V3Aidlc.ConcurrentTransitions
import V3Aidlc.LeadTraces
import V3Aidlc.OrganizationQuotas
import V3Aidlc.Verification
import V3Aidlc.VerificationGates
import V3Aidlc.LeadOutcomes
import V3Aidlc.Decisions
import V3Aidlc.Security
import V3Aidlc.Permissions
import V3Aidlc.SecurityAssessments
import V3Aidlc.SecurityExposure
import V3Aidlc.Relays
import V3Aidlc.Transcripts
import V3Aidlc.ProviderEligibility
import V3Aidlc.Providers
import V3Aidlc.DispatchBinding
import V3Aidlc.JsonSchemas
import V3Aidlc.NormalizedResults
import V3Aidlc.BatchAgreement
import V3Aidlc.DeepMerges
import V3Aidlc.LayeredConfigurations
import V3Aidlc.KeyOrder
import V3Aidlc.RuntimeProfiles
import V3Aidlc.Precedence
import V3Aidlc.LostOverrides
import V3Aidlc.SecretSettings
import V3Aidlc.StrictestDecisions
import V3Aidlc.GateInvariance
import V3Aidlc.AdapterSelection
import V3Aidlc.Aging
import V3Aidlc.ClaimRecency
import V3Aidlc.Organizations
import V3Aidlc.TeamIsolation
import V3Aidlc.CiEvidence
import V3Aidlc.CiGates
import V3Aidlc.CiIdentity
import V3Aidlc.ConstrainedTables
import V3Aidlc.StateKernel
import V3Aidlc.SilentDrops
import V3Aidlc.FileTrees
import V3Aidlc.RepositoryInspection
import V3Aidlc.Investigations
import V3Aidlc.RepositoryContainment
import V3Aidlc.JoinedTexts
import V3Aidlc.FieldOrders
import V3Aidlc.Operations
import V3Aidlc.Readiness
import V3Aidlc.ModeSelections
import V3Aidlc.PlainObjects
import V3Aidlc.OrganizationPolicies
import V3Aidlc.Utf8
import V3Aidlc.Turns
import V3Aidlc.StableSorts
import V3Aidlc.InvestigationBudgets
import V3Aidlc.InadmissibleFiles
import V3Aidlc.FileConflicts
import V3Aidlc.Analytics
import V3Aidlc.HealthSamples
import V3Aidlc.Evaluations
import V3Aidlc.RubricScores
import V3Aidlc.JsonTexts
import V3Aidlc.Upserts
import V3Aidlc.StateSnapshots
import V3Aidlc.SnapshotReplays
import V3Aidlc.BootstrapReruns
import V3Aidlc.ProjectIsolation
import V3Aidlc.ProjectRecords
import V3Aidlc.AuditTrails
import V3Aidlc.ProjectGraphs
import V3Aidlc.Crossings
import V3Aidlc.ExecutionModel
import V3Aidlc.DeliveryTrails
import V3Aidlc.UsageBudgets
import V3Aidlc.ContainmentPlans
import V3Aidlc.PathTexts
import V3Aidlc.CallLogs
import V3Aidlc.Worktrees
import V3Aidlc.ChangeProposals
import V3Aidlc.Publications
import V3Aidlc.ArtifactStores
import V3Aidlc.PackageManifests
import V3Aidlc.Findings
import V3Aidlc.ProfileSelections
import V3Aidlc.DomainTransitions
import V3Aidlc.QuotaChecks
import V3Aidlc.Dashboards
import V3Aidlc.Delegations
import V3Aidlc.KernelLogs
import V3Aidlc.Tenancy
import V3Aidlc.ProviderRegistries
