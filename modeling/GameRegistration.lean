import GameRegistration.Main
import GameRegistration.Proofs.Validation
import GameRegistration.Proofs.GameRecords
import GameRegistration.Proofs.Independence
import GameRegistration.Proofs.GuidText
import GameRegistration.Proofs.GuidSpellings
import GameRegistration.Proofs.RegistryIdentity
import GameRegistration.Proofs.JobRecords
import GameRegistration.Proofs.References
import GameRegistration.Proofs.TaskPlaces
import GameRegistration.Proofs.UniqueIdentifiers
import GameRegistration.Proofs.InstanceIds
import GameRegistration.Proofs.Elevation
import GameRegistration.Proofs.Suppression
import GameRegistration.Proofs.SupportTasks
import GameRegistration.Proofs.WellFormedRecords
import GameRegistration.Proofs.SectionText
import GameRegistration.Proofs.SchemaViolations
import GameRegistration.Proofs.DocumentText
import GameRegistration.Proofs.RequestText
import GameRegistration.Proofs.TaskPrefix
import GameRegistration.Proofs.RootRecords
import GameRegistration.Proofs.StrayNodes
import GameRegistration.Proofs.SavedGames
import GameRegistration.Proofs.AttributeOrder
import GameRegistration.Proofs.Filenames
import GameRegistration.Proofs.ShortNamePattern
import GameRegistration.Proofs.Interleaving
import GameRegistration.Proofs.RejectedRoots
import GameRegistration.Proofs.Trace
import GameRegistration.Proofs.Verdict
