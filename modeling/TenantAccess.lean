import TenantAccess.Audit.Event
import TenantAccess.Audit.Trail
import TenantAccess.Cache.Basic
import TenantAccess.Credentials
import TenantAccess.Decision
import TenantAccess.Deployment
import TenantAccess.Directory
import TenantAccess.Engine
import TenantAccess.Fault
import TenantAccess.Format.Fill
import TenantAccess.Format.Flaw
import TenantAccess.Format.Place
import TenantAccess.Guard
import TenantAccess.Hierarchy.Chain
import TenantAccess.Hierarchy.Draft
import TenantAccess.Hierarchy.Resolution
import TenantAccess.Hierarchy.Row
import TenantAccess.Hierarchy.Snapshot
import TenantAccess.Log.Clock
import TenantAccess.Log.Context
import TenantAccess.Log.Entry
import TenantAccess.Log.Preview
import TenantAccess.Log.Record
import TenantAccess.Log.Setup
import TenantAccess.Log.Step
import TenantAccess.Log.Style
import TenantAccess.Matrix.Store
import TenantAccess.Matrix.Submission
import TenantAccess.Matrix.Writer
import TenantAccess.Misuse
import TenantAccess.NameSet
import TenantAccess.Number.Digit
import TenantAccess.Number.Layout
import TenantAccess.Number.Literal
import TenantAccess.Number.Shortest
import TenantAccess.OrgTree.Basic
import TenantAccess.OrgTree.Edit
import TenantAccess.OrgTree.Editing
import TenantAccess.Plain.Command
import TenantAccess.Plain.Field
import TenantAccess.Plain.Logging
import TenantAccess.Plain.Read
import TenantAccess.Plain.Write
import TenantAccess.Plan.Entitlements
import TenantAccess.Plan.Sheet
import TenantAccess.Plan.Standard
import TenantAccess.Proofs.Audit.Delivery
import TenantAccess.Proofs.Audit.Interleaving
import TenantAccess.Proofs.Cache.Entries
import TenantAccess.Proofs.Cache.Freshness
import TenantAccess.Proofs.Cache.InFlight
import TenantAccess.Proofs.Decision.AddedDenial
import TenantAccess.Proofs.Decision.BlankIds
import TenantAccess.Proofs.Decision.Conditions
import TenantAccess.Proofs.Decision.ExemptUpgrades
import TenantAccess.Proofs.Decision.Explained
import TenantAccess.Proofs.Decision.Heirs
import TenantAccess.Proofs.Decision.Irrelevance
import TenantAccess.Proofs.Decision.Passage
import TenantAccess.Proofs.Decision.QuotaLayers
import TenantAccess.Proofs.Decision.RowOrder
import TenantAccess.Proofs.Decision.UpgradeHint
import TenantAccess.Proofs.Decision.Upgrades
import TenantAccess.Proofs.Decision.Vetted
import TenantAccess.Proofs.Deployment.Purging
import TenantAccess.Proofs.Deployment.ReadYourWrites
import TenantAccess.Proofs.Guard.Answers
import TenantAccess.Proofs.Guard.Audited
import TenantAccess.Proofs.Guard.Brought
import TenantAccess.Proofs.Guard.Resolution
import TenantAccess.Proofs.Hierarchy.AddedRule
import TenantAccess.Proofs.Hierarchy.Chains
import TenantAccess.Proofs.Hierarchy.Differences
import TenantAccess.Proofs.Hierarchy.GivenDepartment
import TenantAccess.Proofs.Hierarchy.Levels
import TenantAccess.Proofs.Hierarchy.Nearest
import TenantAccess.Proofs.Hierarchy.Obstacles
import TenantAccess.Proofs.Hierarchy.Reading
import TenantAccess.Proofs.Hierarchy.Reference
import TenantAccess.Proofs.Hierarchy.RowOrder
import TenantAccess.Proofs.Hierarchy.Walk
import TenantAccess.Proofs.Layering
import TenantAccess.Proofs.Log.Attached
import TenantAccess.Proofs.Log.CutRuns
import TenantAccess.Proofs.Log.OneLine
import TenantAccess.Proofs.Matrix.Calls
import TenantAccess.Proofs.Matrix.Closing
import TenantAccess.Proofs.Matrix.History
import TenantAccess.Proofs.Matrix.Isolation
import TenantAccess.Proofs.Matrix.Outcomes
import TenantAccess.Proofs.Matrix.Resubmission
import TenantAccess.Proofs.Matrix.RuleEdits
import TenantAccess.Proofs.Matrix.Runs
import TenantAccess.Proofs.Matrix.Store
import TenantAccess.Proofs.Matrix.Versions
import TenantAccess.Proofs.OrgTree.Accepted
import TenantAccess.Proofs.OrgTree.Deletion
import TenantAccess.Proofs.OrgTree.Edits
import TenantAccess.Proofs.OrgTree.Lineage
import TenantAccess.Proofs.OrgTree.Measure
import TenantAccess.Proofs.OrgTree.ReadBack
import TenantAccess.Proofs.OrgTree.Retired
import TenantAccess.Proofs.OrgTree.Runs
import TenantAccess.Proofs.OrgTree.Walks
import TenantAccess.Proofs.OrgTree.WellFormed
import TenantAccess.Proofs.Place
import TenantAccess.Proofs.Plan.Layers
import TenantAccess.Proofs.Plan.QuotaLattice
import TenantAccess.Proofs.Plan.QuotaUse
import TenantAccess.Proofs.Plan.Verified
import TenantAccess.Proofs.Redaction.Credentials
import TenantAccess.Proofs.Role.Lifecycle
import TenantAccess.Proofs.Rpc.Denials
import TenantAccess.Proofs.Rpc.Passages
import TenantAccess.Proofs.TableOrder
import TenantAccess.Quota
import TenantAccess.Reach
import TenantAccess.Redaction.Flaw
import TenantAccess.Redaction.Secret
import TenantAccess.Redaction.Shape
import TenantAccess.Redaction.Template
import TenantAccess.Request
import TenantAccess.Role.Basic
import TenantAccess.Role.Registry
import TenantAccess.Role.Standard
import TenantAccess.Rpc.Gate
import TenantAccess.Rpc.Reply
import TenantAccess.Rpc.Status
import TenantAccess.Scope
import TenantAccess.Settings.Basic
import TenantAccess.Settings.Check
import TenantAccess.Settings.Environment
import TenantAccess.Table
import TenantAccess.Tenancy
import TenantAccess.Text.Blank
import TenantAccess.Text.Case
import TenantAccess.Text.Identifier
import TenantAccess.Text.Printable
import TenantAccess.Text.Quoted
import TenantAccess.Tier
import TenantAccess.Value.Basic
import TenantAccess.Value.Json
import TenantAccess.Vocabulary
