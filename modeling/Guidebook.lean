import Guidebook.Backend.Collection
import Guidebook.Config.Markup.Json
import Guidebook.Index.Pool
import Guidebook.Main
import Guidebook.Proofs.Agreement
import Guidebook.Proofs.BlankIds
import Guidebook.Proofs.CaseClasses
import Guidebook.Proofs.Clashes
import Guidebook.Proofs.Climbing
import Guidebook.Proofs.Composition
import Guidebook.Proofs.ConfigurationVariable
import Guidebook.Proofs.Decoding
import Guidebook.Proofs.DiscoveryOrder
import Guidebook.Proofs.Expandable
import Guidebook.Proofs.FrontMatter
import Guidebook.Proofs.LiteralRoots
import Guidebook.Proofs.Loadability
import Guidebook.Proofs.Lookups
import Guidebook.Proofs.MemberIds
import Guidebook.Proofs.NearestConfiguration
import Guidebook.Proofs.Nesting
import Guidebook.Proofs.Patterns
import Guidebook.Proofs.Printing
import Guidebook.Proofs.QueryTasks
import Guidebook.Proofs.Requests
import Guidebook.Proofs.RootDirectories
import Guidebook.Proofs.Scheduling
import Guidebook.Proofs.Strictness
import Guidebook.Proofs.TagNotations
import Guidebook.Proofs.Validity
import Guidebook.Proofs.Widening
import Guidebook.Proofs.WrittenConfigurations
