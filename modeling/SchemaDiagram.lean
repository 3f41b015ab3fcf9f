import SchemaDiagram.Codec.Declaration
import SchemaDiagram.Codec.Event
import SchemaDiagram.Codec.History
import SchemaDiagram.Codec.Language
import SchemaDiagram.Codec.Layout
import SchemaDiagram.Codec.Mutation
import SchemaDiagram.Codec.Plan
import SchemaDiagram.Codec.Session
import SchemaDiagram.CommandLine
import SchemaDiagram.Editor
import SchemaDiagram.Main
import SchemaDiagram.Session.Create
import SchemaDiagram.Proofs.ContentHash
import SchemaDiagram.Proofs.DataType
import SchemaDiagram.Proofs.Editor
import SchemaDiagram.Proofs.Layout
import SchemaDiagram.Proofs.Reconciliation.Renamed
import SchemaDiagram.Proofs.Reconciliation.RenamedLinks
import SchemaDiagram.Proofs.Reconciliation.Unchanged
import SchemaDiagram.Proofs.SchemaText.Appended
import SchemaDiagram.Proofs.SchemaText.Commented
import SchemaDiagram.Proofs.SchemaText.Quotation
import SchemaDiagram.Proofs.SchemaText.RoundTrip
import SchemaDiagram.Proofs.SchemaText.Rounds
import SchemaDiagram.Proofs.Session.Alike
import SchemaDiagram.Proofs.Session.Anchored
import SchemaDiagram.Proofs.Session.Announced
import SchemaDiagram.Proofs.Session.Canonical
import SchemaDiagram.Proofs.Session.CarriedOut
import SchemaDiagram.Proofs.Session.Converged
import SchemaDiagram.Proofs.Session.Headed
import SchemaDiagram.Proofs.Session.Identity
import SchemaDiagram.Proofs.Session.Linked
import SchemaDiagram.Proofs.Session.Logged
import SchemaDiagram.Proofs.Session.Mirrored
import SchemaDiagram.Proofs.Session.Placed
import SchemaDiagram.Proofs.Session.Refused
import SchemaDiagram.Proofs.Session.Schemas
import SchemaDiagram.Proofs.Session.Undoing
import SchemaDiagram.Proofs.Session.Unique
import SchemaDiagram.Proofs.Storage.Document
import SchemaDiagram.Proofs.Storage.Locality
