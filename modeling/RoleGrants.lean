import RoleGrants.Call
import RoleGrants.Logging
import RoleGrants.Main
import RoleGrants.Proofs.AdviceAgreement
import RoleGrants.Proofs.ApplicationEffect
import RoleGrants.Proofs.StoredTemplate
import RoleGrants.Report
import RoleGrants.Proofs.StoredFact
import RoleGrants.Proofs.Deletion
import RoleGrants.Proofs.GrantSet
import RoleGrants.Proofs.ProjectMark
import RoleGrants.Proofs.MarkedGrants
import RoleGrants.Proofs.ChangeMark
import RoleGrants.Proofs.EnumerationOrder
import RoleGrants.Proofs.RepeatedApplication
import RoleGrants.Proofs.CommitPoint
import RoleGrants.Proofs.FailedCall
import RoleGrants.Proofs.GrantHolder
import RoleGrants.Proofs.NamedRoles
import RoleGrants.Proofs.ReservedName
import RoleGrants.Proofs.SnapshotRows
import RoleGrants.Proofs.TemplateContent
import RoleGrants.Proofs.TemplateName
import RoleGrants.Proofs.GlobalHolders
import RoleGrants.Proofs.EffectiveProjects
import RoleGrants.Proofs.LazyAdvice
import RoleGrants.Proofs.TemplateEdits
import RoleGrants.Proofs.BulkRevocation
import RoleGrants.Proofs.GrantByName
import RoleGrants.Proofs.GroupNamesake
import RoleGrants.Proofs.EntryReference
import RoleGrants.Proofs.DefaultTemplate
import RoleGrants.Proofs.GroupReference
import RoleGrants.Proofs.BatchMembership
import RoleGrants.Proofs.PendingGrants
import RoleGrants.Proofs.KeptAdvice
import RoleGrants.Proofs.AdviceBasis
import RoleGrants.Proofs.ExitStatus
