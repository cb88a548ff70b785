import SchemaBindings.Config.Writing
import SchemaBindings.Main
import SchemaBindings.Proofs.Calls
import SchemaBindings.Proofs.Collisions
import SchemaBindings.Proofs.Completeness
import SchemaBindings.Proofs.Documents
import SchemaBindings.Proofs.Fidelity
import SchemaBindings.Proofs.FinishedLines
import SchemaBindings.Proofs.InPlace
import SchemaBindings.Proofs.Isolation
import SchemaBindings.Proofs.MarkedWords
import SchemaBindings.Proofs.Meaning
import SchemaBindings.Proofs.MemberNames
import SchemaBindings.Proofs.Parsing
import SchemaBindings.Proofs.Positions
import SchemaBindings.Proofs.References
import SchemaBindings.Proofs.Refusals
import SchemaBindings.Proofs.Requirements
import SchemaBindings.Proofs.RoundTrip
import SchemaBindings.Proofs.Services
import SchemaBindings.Schema.Equality
