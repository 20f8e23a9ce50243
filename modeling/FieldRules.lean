import FieldRules.Main
import FieldRules.Logging.Filter
import FieldRules.Session
import FieldRules.Proofs.Ancestry
import FieldRules.Proofs.Presence
import FieldRules.Proofs.Report
import FieldRules.Proofs.Aborts
import FieldRules.Proofs.Building
import FieldRules.Proofs.Codes
import FieldRules.Proofs.Reordering
import FieldRules.Proofs.Alike
import FieldRules.Proofs.Stopping
import FieldRules.Proofs.DefaultCode
import FieldRules.Proofs.Messages
import FieldRules.Proofs.Admission
import FieldRules.Proofs.RuleWise
import FieldRules.Proofs.References
import FieldRules.Proofs.Extension
import FieldRules.Proofs.Footprint
import FieldRules.Proofs.Parts
import FieldRules.Proofs.DeclaredCodes
import FieldRules.Proofs.ExitStatus
import FieldRules.Proofs.Snapshot
import FieldRules.Proofs.Resolution
import FieldRules.Proofs.Route
import FieldRules.Proofs.Breaks
import FieldRules.Proofs.Settings
import FieldRules.Proofs.Rebinding
import FieldRules.Proofs.Exclusion
import FieldRules.Proofs.Anchors
import FieldRules.Proofs.PresenceVerdict
import FieldRules.Proofs.WrittenNumbers
import FieldRules.Proofs.OneTest
import FieldRules.Proofs.TextJudged
import FieldRules.Proofs.ExactBounds
import FieldRules.Proofs.Membership
