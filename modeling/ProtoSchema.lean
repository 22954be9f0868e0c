import ProtoSchema.Descriptor.Decode
import ProtoSchema.Descriptor.Encode
import ProtoSchema.Value.Place
import ProtoSchema.Catalog.Load
import ProtoSchema.Source.Generate
import ProtoSchema.Source.Modules
import ProtoSchema.Compiler.Command
import ProtoSchema.Compiler.Session
import ProtoSchema.Proofs.Descriptor.RoundTrip
import ProtoSchema.Proofs.Catalog.Closed
import ProtoSchema.Proofs.Catalog.Incremental
import ProtoSchema.Proofs.Source.Landing
import ProtoSchema.Proofs.Source.Containment
import ProtoSchema.Proofs.Value.Typed
import ProtoSchema.Proofs.Value.Bindings
import ProtoSchema.Proofs.Catalog.Shadowing
import ProtoSchema.Proofs.Catalog.Transaction
import ProtoSchema.Proofs.Wire.Grammar
import ProtoSchema.Proofs.Wire.Streaming
import ProtoSchema.Proofs.Wire.Sequences
import ProtoSchema.Proofs.Descriptor.Concatenation
import ProtoSchema.Proofs.Wire.Order
import ProtoSchema.Proofs.Descriptor.RecordOrder
import ProtoSchema.Proofs.Catalog.Kinds
import ProtoSchema.Proofs.Catalog.EnumTables
import ProtoSchema.Proofs.Catalog.LoadedFields
import ProtoSchema.Proofs.Source.Collisions
import ProtoSchema.Proofs.Catalog.Independent
import ProtoSchema.Proofs.Source.Imported
import ProtoSchema.Proofs.Source.ModuleFiles
import ProtoSchema.Proofs.Source.TableFields
import ProtoSchema.Proofs.Resolve.Cycles
import ProtoSchema.Proofs.Catalog.Replaced
import ProtoSchema.Proofs.Source.Groups
import ProtoSchema.Proofs.Table.Flattened
import ProtoSchema.Proofs.Value.WriteBack
import ProtoSchema.Proofs.Table.Defaults
import ProtoSchema.Proofs.Source.Enumerations
import ProtoSchema.Proofs.Source.Resolved
import ProtoSchema.Proofs.Source.Legal
import ProtoSchema.Proofs.Source.MemberNames
import ProtoSchema.Proofs.Source.ProperNames
import ProtoSchema.Proofs.Descriptor.FieldNumbers
import ProtoSchema.Proofs.Descriptor.RepeatedOptions
import ProtoSchema.Proofs.Descriptor.Weight
import ProtoSchema.Proofs.Compiler.SearchPath
import ProtoSchema.Proofs.Wire.VarintBytes
import ProtoSchema.Proofs.Text.SnakeCase
