/-!
# Descriptor.Basic

Descriptors as the protocol compiler sends them. Every singular field may be unset, numbers stand as
they came, and nothing has been checked: types and labels are numbers that may have no meaning, and
references are text.

* `Descriptor.File` — a `.proto` file with its messages, enums and extensions.
* `Descriptor.Message`, `Descriptor.Field`, `Descriptor.Oneof` — a message and what it holds.
* `Descriptor.Enum`, `Descriptor.EnumValue` — an enum and its values.
-/

namespace ProtoTypings
namespace Descriptor

structure EnumValue where
  name : Option String
  number : Option Int32
deriving Repr, DecidableEq

structure Enum where
  name : Option String
  values : List EnumValue
deriving Repr, DecidableEq

/-- A field, or an extension. `label` and `type` are the numbers of the descriptor format. -/
structure Field where
  name : Option String
  number : Option Int32
  label : Option Int32
  type : Option Int32
  typeName : Option String
  oneofIndex : Option Int32
  proto3Optional : Option Bool
deriving Repr, DecidableEq

structure Oneof where
  name : Option String
deriving Repr, DecidableEq

structure MessageOptions where
  mapEntry : Option Bool
deriving Repr, DecidableEq

structure Message where
  name : Option String
  fields : List Field
  nested : List Message
  enums : List Enum
  oneofs : List Oneof
  options : Option MessageOptions
deriving Repr

structure File where
  name : Option String
  package : Option String
  dependencies : List String
  messages : List Message
  enums : List Enum
  extensions : List Field
  syntaxName : Option String
deriving Repr

end Descriptor
end ProtoTypings
