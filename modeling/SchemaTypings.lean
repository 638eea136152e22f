import SchemaTypings.Main
import SchemaTypings.Proofs.Sites
import SchemaTypings.Proofs.Emission
import SchemaTypings.Proofs.Linking
import SchemaTypings.Proofs.ByteOrder
import SchemaTypings.Proofs.Imports
import SchemaTypings.Proofs.Acceptance
import SchemaTypings.Proofs.ForeignReferences
import SchemaTypings.Proofs.Lockstep
import SchemaTypings.Proofs.Coverage
import SchemaTypings.Proofs.MapFields
import SchemaTypings.Proofs.LeafNames
import SchemaTypings.Proofs.StaticMembers
import SchemaTypings.Proofs.NameClashes
import SchemaTypings.Proofs.Context
import SchemaTypings.Proofs.Legible
import SchemaTypings.Proofs.TypeText
import SchemaTypings.Proofs.UniqueText
import SchemaTypings.Proofs.Mappers
import SchemaTypings.Proofs.Combination
import SchemaTypings.Proofs.Delivery
import SchemaTypings.Proofs.MapDetection
import SchemaTypings.Proofs.TypeTable
import SchemaTypings.Proofs.TwoViews
import SchemaTypings.Proofs.JoinedNames
import SchemaTypings.Proofs.Routes
import SchemaTypings.Proofs.Parameters
import SchemaTypings.Proofs.Reports
import SchemaTypings.Proofs.PropertyRows
import SchemaTypings.Proofs.Wrappers
import SchemaTypings.Proofs.NeedsByModule
import SchemaTypings.Proofs.NeedsHistory
