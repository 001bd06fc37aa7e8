import ProtoTypings.Sequence
import ProtoTypings.Surface.Accessor
import ProtoTypings.Surface.Enumeration
import ProtoTypings.Surface.ObjectType

/-!
# Surface.Message

The declarations of a message: its class, and a namespace of the same name with the plain object
type, the messages and enums nested in it, and the case enumerations of its oneofs, in this order.
Messages behind map fields are not declared, and nothing nested in them is.

* `Message.declarations`, `messageDeclarations` — one message, and messages in order.
-/

namespace ProtoTypings
namespace Proto

open TypeScript

/-- The namespace of a message: its object type, what is nested in it, its enums and its cases. -/
def Message.namespaceBody (m : Message) (fields : List ExposedField) (nested : List Declaration) :
    List Declaration :=
  .objectType (fields.map (·.property)) :: nested ++
    m.enums.map (fun e => .enumDecl e.declaration) ++ m.caseDeclarations.map .enumDecl

mutual

/-- The declarations of a message, seen from a scope. The first reference that cannot be followed
stops it: those of its own fields come before those of nested messages. -/
def Message.declarations (s : Scope) : Message → Except ReferenceError (List Declaration)
  | ⟨name, isMapEntry, fields, oneofs, nested, enums⟩ =>
    let m : Message := ⟨name, isMapEntry, fields, oneofs, nested, enums⟩
    if isMapEntry then .ok []
    else do
      let exposed ← each s.expose fields
      let inner ← messageDeclarations s nested
      return [.classDecl name (m.members exposed),
        .namespaceDecl name (m.namespaceBody exposed inner)]

/-- The declarations of messages, one after the other. -/
def messageDeclarations (s : Scope) : List Message → Except ReferenceError (List Declaration)
  | [] => .ok []
  | m :: ms => do
    let first ← m.declarations s
    let rest ← messageDeclarations s ms
    return first ++ rest

end

theorem Message.declarations_eq (s : Scope) (m : Message) :
    m.declarations s =
      if m.isMapEntry then .ok []
      else do
        let exposed ← each s.expose m.fields
        let inner ← messageDeclarations s m.nested
        return [.classDecl m.name (m.members exposed),
          .namespaceDecl m.name (m.namespaceBody exposed inner)] := by
  cases m
  rfl

end Proto
end ProtoTypings
