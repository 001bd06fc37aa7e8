import ProtoTypings.Surface.Name
import ProtoTypings.TypeScript.Declaration

/-!
# Surface.Enumeration

The enumerations that are declared: one for every enum, and one for every oneof, which tells the
member that is set. The latter begins with an entry for the case that none is.
-/

namespace ProtoTypings
namespace Proto

open TypeScript

def Enum.declaration (e : Enum) : EnumDeclaration :=
  { name := e.name
    entries := e.values.map fun v => { name := constantName v.name, number := v.number } }

/-- The entry for a oneof none of whose members is set. -/
def notSetEntry (oneof : String) : EnumEntry :=
  { name := constantName oneof ++ "_NOT_SET", number := 0 }

/-- The cases of the oneof at `index`: not set, then its members in the order of the fields. -/
def Message.caseDeclaration (m : Message) (oneof : String) (index : Nat) : EnumDeclaration :=
  { name := caseName oneof
    entries := notSetEntry oneof ::
      (m.oneofMembers index).map fun f => { name := constantName f.name, number := f.number } }

/-- The case enumerations of a message, in the order of its oneofs. -/
def Message.caseDeclarations (m : Message) : List EnumDeclaration :=
  m.oneofs.zipIdx.map fun (oneof, index) => m.caseDeclaration oneof index

end Proto
end ProtoTypings
