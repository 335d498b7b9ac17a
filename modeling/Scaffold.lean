import Scaffold.Builder
import Scaffold.CommandLine.Session
import Scaffold.CommandLine.Usage
import Scaffold.Config
import Scaffold.Conflict.Arbiter
import Scaffold.Document.Items
import Scaffold.Document.Normal
import Scaffold.Generation
import Scaffold.Library.Directory
import Scaffold.Main
import Scaffold.Proofs.Builder.Inclusion
import Scaffold.Proofs.Builder.Postconditions
import Scaffold.Proofs.FileName
import Scaffold.Proofs.Steps
import Scaffold.Proofs.Substitution
import Scaffold.Substitution
import Scaffold.Template.Session
import Scaffold.Yaml.Writer
import Scaffold.Proofs.Builder.Cycles
import Scaffold.Proofs.Builder.Names
import Scaffold.Proofs.Files.Change
import Scaffold.Proofs.Files.Folders
import Scaffold.Proofs.Generation.Variants
import Scaffold.Proofs.Generation.Moves
import Scaffold.Proofs.Generation.Confinement
import Scaffold.Proofs.Generation.Clobbering
import Scaffold.Proofs.Generation.Overlay
import Scaffold.Proofs.Generation.Acceptance
import Scaffold.Proofs.Substitution.Simulation
import Scaffold.Proofs.Substitution.Values
import Scaffold.Proofs.Substitution.Conversation
import Scaffold.Proofs.Builder.Attribution
import Scaffold.Proofs.Builder.Spelling
import Scaffold.Proofs.Substitution.Determinacy
import Scaffold.Proofs.Conflict.Menu
import Scaffold.Proofs.Generation.Script
import Scaffold.Proofs.Generation.Alike
import Scaffold.Proofs.Generation.Watching
import Scaffold.Proofs.Generation.Cancellation
import Scaffold.Proofs.Generation.Keeping
import Scaffold.Proofs.Builder.Walk
import Scaffold.Proofs.Library.Confinement
import Scaffold.Proofs.Builder.Shorthand
import Scaffold.Proofs.Config.Precedence
import Scaffold.Proofs.Builder.Printed
import Scaffold.Proofs.Substitution.Names
import Scaffold.Proofs.Document.BlockScalars
import Scaffold.Proofs.Library.Listing
import Scaffold.Proofs.Substitution.Resolved
import Scaffold.Proofs.FileName.Settled
import Scaffold.Proofs.Document.BlockContents
import Scaffold.Proofs.Error.Mentions
import Scaffold.Proofs.Document.Idempotence
import Scaffold.Proofs.Document.Placeholders
import Scaffold.Proofs.Generation.Progress
import Scaffold.Proofs.Generation.Mirroring
import Scaffold.Proofs.Generation.Occupied
import Scaffold.Proofs.Builder.Origin
import Scaffold.Proofs.Library.Walking
import Scaffold.Proofs.Generation.Again
import Scaffold.Proofs.Template.Transparency
import Scaffold.Proofs.Context.Layers
import Scaffold.Proofs.Placeholder.Closing
import Scaffold.Proofs.Substitution.Indentation
import Scaffold.Proofs.Builder.Preview
