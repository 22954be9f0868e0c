import ProtoSchema.Value.Message

/-!
# Places inside a message

A *place* is a path from a message to one nested in it.  A step of the path is
the name of a field, or a position in the list that the last field holds.  The
path must end at a message.

`Message.editAt` applies an operation to the message at a place and puts the
changed message back where it was found.
-/

namespace ProtoSchema

/-- One step of a path. -/
inductive Step where
  | field (name : String)
  | item (index : Nat)
deriving DecidableEq, Repr, Inhabited

/-- Why a path does not lead to a message. -/
inductive PlaceFault where
  /-- A field on the way does not exist. -/
  | failed (failure : Failure)
  /-- The path leads to nothing, or to a value that is no message. -/
  | noMessage

/-- Edits the value at the end of a path, which must be a message. -/
def Value.editAt {β : Type} (edit : Message → β × Message) :
    List Step → Value → Except PlaceFault (β × Value)
  | [], .message inner =>
    let (answer, inner) := edit inner
    .ok (answer, .message inner)
  | .field name :: path, .message inner =>
    match inner.fieldTable name with
    | .error failure => .error (.failed failure)
    | .ok table =>
      match inner.stored? table.number with
      | none => .error .noMessage
      | some value =>
        (Value.editAt edit path value).map fun (answer, value) =>
          (answer, .message (inner.store table.number value))
  | .item index :: path, .list items =>
    match items[index]? with
    | none => .error .noMessage
    | some item =>
      (Value.editAt edit path item).map fun (answer, item) =>
        (answer, .list (items.set index item))
  | _, _ => .error .noMessage
termination_by structural path => path

/-- Edits the message at a place.  The answer of the edit comes with the whole
message. -/
def Message.editAt {β : Type} (message : Message) (path : List Step)
    (edit : Message → β × Message) : Except PlaceFault (β × Message) :=
  match Value.editAt edit path (.message message) with
  | .ok (answer, .message message) => .ok (answer, message)
  | .ok _ => .error .noMessage
  | .error fault => .error fault

/-- What an observer sees of the message at a place. -/
def Message.viewAt {β : Type} (message : Message) (path : List Step) (view : Message → β) :
    Except PlaceFault β :=
  (message.editAt path fun inner => (view inner, inner)).map Prod.fst

end ProtoSchema
