import UserRegistry.Application
import UserRegistry.Configuration.Loader
import UserRegistry.Json.Reader
import UserRegistry.Log.Console
import UserRegistry.Main
import UserRegistry.Program
import UserRegistry.Proofs.Store.History
import UserRegistry.Service.Choice
import UserRegistry.Toml.Parse
import UserRegistry.VariableFile.Reading
import UserRegistry.Proofs.Configuration.Loading
import UserRegistry.Proofs.Configuration.Sharing
import UserRegistry.Proofs.Number.Digits
import UserRegistry.Proofs.Json.RoundTrip
import UserRegistry.Proofs.Program.Outcome
import UserRegistry.Proofs.Toml.Distinct
import UserRegistry.Proofs.Layers.Merging
import UserRegistry.Proofs.Layers.Variables
import UserRegistry.Proofs.Layers.Documents
import UserRegistry.Proofs.Layers.Fields
import UserRegistry.Proofs.Configuration.Precedence
import UserRegistry.Proofs.Store.Isolation
import UserRegistry.Proofs.Configuration.Agreement
import UserRegistry.Proofs.Configuration.Overriding
import UserRegistry.Proofs.Store.Journal
import UserRegistry.Proofs.Log.Installing
import UserRegistry.Proofs.Configuration.Partial
import UserRegistry.Proofs.Configuration.Discovery
import UserRegistry.Proofs.Configuration.Overlapping
import UserRegistry.Proofs.Store.Thinning
import UserRegistry.Proofs.Store.Seeding
import UserRegistry.Proofs.Json.Shapes
import UserRegistry.Proofs.Service.Demonstration
import UserRegistry.Proofs.Json.Literals
import UserRegistry.Proofs.Layers.Twice
import UserRegistry.Proofs.Layers.Marked
import UserRegistry.Proofs.Configuration.Names
import UserRegistry.Proofs.Layers.Writes
import UserRegistry.Proofs.Toml.Integers
import UserRegistry.Proofs.Configuration.Ids
import UserRegistry.Proofs.Json.Unambiguous
import UserRegistry.Proofs.Log.Lines
import UserRegistry.Proofs.Program.Advisories
