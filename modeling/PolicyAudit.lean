import PolicyAudit.Command.Develop
import PolicyAudit.Host.Stored
import PolicyAudit.Main
import PolicyAudit.Resource.Reader
import PolicyAudit.Proofs.JsonNumber
import PolicyAudit.Proofs.JsonRecord
import PolicyAudit.Proofs.JsonDenotation
import PolicyAudit.Proofs.JsonText
import PolicyAudit.Proofs.TimestampText
import PolicyAudit.Proofs.ReportText
import PolicyAudit.Proofs.Observation
import PolicyAudit.Proofs.Wrapping
import PolicyAudit.Proofs.RunCounts
import PolicyAudit.Proofs.RunStatus
import PolicyAudit.Proofs.PolicyCheck
import PolicyAudit.Proofs.RunCoverage
import PolicyAudit.Proofs.ConfiguredRuns
import PolicyAudit.Proofs.WeakerSettings
import PolicyAudit.Proofs.ByteOrder
import PolicyAudit.Proofs.SettingsResolution
import PolicyAudit.Proofs.ListedPolicies
import PolicyAudit.Proofs.FirstDefect
import PolicyAudit.Proofs.RegistryHistory
import PolicyAudit.Proofs.FilePlaces
import PolicyAudit.Proofs.HostFiles
import PolicyAudit.Proofs.AuditCommand
import PolicyAudit.Proofs.RenderedFiles
import PolicyAudit.Proofs.ComposedRuns
import PolicyAudit.Proofs.SkippedOutcomes
import PolicyAudit.Proofs.IsolatedFaults
import PolicyAudit.Proofs.ResourceDocuments
import PolicyAudit.Proofs.AuditEnvelope
import PolicyAudit.Proofs.EntryOrder
import PolicyAudit.Proofs.InertReasons
import PolicyAudit.Proofs.AccountedFailures
import PolicyAudit.Proofs.AnnotationText
import PolicyAudit.Proofs.FindingsTable
import PolicyAudit.Proofs.ScalarPlaces
import PolicyAudit.Proofs.BlockGates
import PolicyAudit.Proofs.GrantScans
import PolicyAudit.Proofs.RestrictionGates
import PolicyAudit.Proofs.JoinedPaths
import PolicyAudit.Proofs.RequiredFields
import PolicyAudit.Proofs.RequiredLabels
import PolicyAudit.Proofs.RegroupedGrants
import PolicyAudit.Proofs.LetterCase
import PolicyAudit.Proofs.IdentifierGrammar
import PolicyAudit.Proofs.SettingAdjustments
import PolicyAudit.Proofs.AccessorAgreement
