import GuestForge.Main
import GuestForge.Proofs.HostActions
import GuestForge.Proofs.MadeDirectories
import GuestForge.Proofs.PathText
import GuestForge.Proofs.LinkedWalks
import GuestForge.Proofs.LinkedPaths
import GuestForge.Proofs.IdentifierFiles
import GuestForge.Proofs.Publishing
import GuestForge.Proofs.Course
import GuestForge.Proofs.PublishDirectories
import GuestForge.Proofs.DigestText
import GuestForge.Proofs.BakedFiles
import GuestForge.Proofs.Recipes
import GuestForge.Proofs.FirstFailure
import GuestForge.Proofs.IdentifierHistory
import GuestForge.Proofs.Repetition
import GuestForge.Proofs.Refusals
import GuestForge.Proofs.Failures
import GuestForge.Proofs.IdentifierOutcomes
import GuestForge.Proofs.EffectBoundaries
import GuestForge.Proofs.TwoRuns
import GuestForge.Proofs.PublishedPaths
import GuestForge.Proofs.Confinement
import GuestForge.Proofs.FeatureFlags
import GuestForge.Proofs.Selecting
import GuestForge.Proofs.SelectionRules
import GuestForge.Proofs.Outsiders
import GuestForge.Proofs.AlikeWorkspaces
import GuestForge.Proofs.JsonGrammar
import GuestForge.Proofs.JsonWriting
import GuestForge.Proofs.SchemaReading
import GuestForge.Proofs.Reports
import GuestForge.Proofs.MetadataDocuments
import GuestForge.Proofs.CommandRuns
import GuestForge.Proofs.MachineOutput
import GuestForge.Proofs.InertText
import GuestForge.Proofs.MarkupRendering
import GuestForge.Proofs.TextOutput
import GuestForge.Proofs.TimeStamps
import GuestForge.Proofs.Processes
import GuestForge.Proofs.BuildLogs
import GuestForge.Proofs.RecordedCommands
import GuestForge.Proofs.Resolution
import GuestForge.Proofs.ClearedWays
import GuestForge.Proofs.IndependentGuests
import GuestForge.Proofs.Landings
import GuestForge.Proofs.LinkedIdentifiers
import GuestForge.Proofs.CommandForms
import GuestForge.Proofs.FeatureTokens
import GuestForge.Proofs.DigestGrammar
import GuestForge.Proofs.ConfiguredPrograms
import GuestForge.Proofs.Extensions
import GuestForge.Proofs.NamePatterns
import GuestForge.Proofs.EffectiveSettings
import GuestForge.Proofs.SeparateLogs
