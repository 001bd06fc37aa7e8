import Std.Data.TreeMap
import ProtoTypings.Proto.Basic
import ProtoTypings.Text

/-!
# SymbolTable

The messages and enums of many files, by full name.

Declaring a file lists its symbols in a fixed order: its messages and then its enums, where a
message comes after the messages and the enums nested in it. A full name that is listed again takes
the place of the earlier symbol.

* `Symbol` — what is known of a full name: the file and package that declare it, and its kind.
* `Proto.File.symbols` — the symbols of a file, in the order of declaration.
* `SymbolTable.ofFiles`, `SymbolTable.addFile`, `SymbolTable.get?` — building and asking a table.
-/

namespace ProtoTypings

/-- The key and value of a map, as fields of the message behind it. -/
structure MapEntry where
  key : Proto.Field
  value : Proto.Field
deriving Repr, DecidableEq

inductive SymbolKind where
  /-- A message; `mapEntry` is set if it stands behind map fields. -/
  | message (mapEntry : Option MapEntry)
  | enumeration
deriving Repr, DecidableEq

structure Symbol where
  fileName : String
  package : Option String
  kind : SymbolKind
deriving Repr, DecidableEq

namespace Symbol

def isMessage (s : Symbol) : Bool :=
  match s.kind with
  | .message _ => true
  | .enumeration => false

def mapEntry (s : Symbol) : Option MapEntry :=
  match s.kind with
  | .message entry => entry
  | .enumeration => none

/-- A full name as seen from inside the symbol's package; the whole name if it is not in there. -/
def localName (s : Symbol) (fullName : String) : String :=
  match s.package with
  | none => fullName
  | some package =>
    if package = "" then fullName
    else match Text.dropPrefix? (package.toList ++ ['.']) fullName.toList with
      | some rest => String.ofList rest
      | none => fullName

end Symbol

/-- The full name of `name` in `scope`; the empty scope is the outermost one. -/
def qualify (scope name : String) : String := if scope = "" then name else scope ++ "." ++ name

/-! ## The symbols of a file -/

namespace Proto

/-- The first fields numbered 1 and 2, if the message is marked as a map entry and has both. -/
def Message.mapFields (m : Message) : Option MapEntry :=
  if m.isMapEntry then
    match m.fields.find? (·.number == 1), m.fields.find? (·.number == 2) with
    | some key, some value => some { key, value }
    | _, _ => none
  else none

/-- The symbol of an enum in `scope`, with its full name. -/
def Enum.symbol (file : File) (scope : String) (e : Enum) : String × Symbol :=
  (qualify scope e.name,
    { fileName := file.name, package := file.package, kind := .enumeration })

mutual

/-- The symbols of a message in `scope`: those nested in it, then its own. -/
def Message.symbols (file : File) (scope : String) : Message → List (String × Symbol)
  | ⟨name, isMapEntry, fields, oneofs, nested, enums⟩ =>
    let m : Message := ⟨name, isMapEntry, fields, oneofs, nested, enums⟩
    let fullName := qualify scope name
    messageSymbols file fullName nested ++ enums.map (Enum.symbol file fullName) ++
      [(fullName,
        { fileName := file.name, package := file.package, kind := .message m.mapFields })]

/-- The symbols of messages in order. -/
def messageSymbols (file : File) (scope : String) : List Message → List (String × Symbol)
  | [] => []
  | m :: ms => m.symbols file scope ++ messageSymbols file scope ms

end

theorem Message.symbols_eq (file : File) (scope : String) (m : Message) :
    m.symbols file scope =
      messageSymbols file (qualify scope m.name) m.nested ++
        m.enums.map (Enum.symbol file (qualify scope m.name)) ++
        [(qualify scope m.name,
          { fileName := file.name, package := file.package, kind := .message m.mapFields })] := by
  cases m
  rfl

theorem messageSymbols_eq_flatMap (file : File) (scope : String) (ms : List Message) :
    messageSymbols file scope ms = ms.flatMap (·.symbols file scope) := by
  induction ms with
  | nil => rfl
  | cons m ms ih => rw [messageSymbols, List.flatMap_cons, ih]

/-- The symbols of a file, in the order of declaration. -/
def File.symbols (file : File) : List (String × Symbol) :=
  let scope := file.package.getD ""
  messageSymbols file scope file.messages ++ file.enums.map (Enum.symbol file scope)

end Proto

/-! ## Tables -/

structure SymbolTable where
  entries : Std.TreeMap String Symbol

namespace SymbolTable

def empty : SymbolTable := ⟨∅⟩

/-- Declares a symbol, in place of any earlier one of that name. -/
def insert (t : SymbolTable) (p : String × Symbol) : SymbolTable := ⟨t.entries.insert p.1 p.2⟩

/-- Declares the symbols of a file. -/
def addFile (t : SymbolTable) (file : Proto.File) : SymbolTable := file.symbols.foldl insert t

/-- The table of several files, declared in order. -/
def ofFiles (files : List Proto.File) : SymbolTable := files.foldl addFile empty

def get? (t : SymbolTable) (fullName : String) : Option Symbol := t.entries[fullName]?

/-- The message of that name. -/
def message? (t : SymbolTable) (fullName : String) : Option Symbol :=
  (t.get? fullName).filter (·.isMessage)

/-- The enum of that name. -/
def enum? (t : SymbolTable) (fullName : String) : Option Symbol :=
  (t.get? fullName).filter (!·.isMessage)

def size (t : SymbolTable) : Nat := t.entries.size

def isEmpty (t : SymbolTable) : Bool := t.entries.isEmpty

@[simp] theorem get?_empty (fullName : String) : empty.get? fullName = none := by
  simp [empty, get?]

theorem get?_insert (t : SymbolTable) (p : String × Symbol) (fullName : String) :
    (t.insert p).get? fullName = if p.1 = fullName then some p.2 else t.get? fullName := by
  simp [insert, get?, Std.TreeMap.getElem?_insert]

theorem addFile_eq_foldl (files : List Proto.File) (t : SymbolTable) :
    files.foldl addFile t = (files.flatMap (·.symbols)).foldl insert t := by
  induction files generalizing t with
  | nil => rfl
  | cons file files ih => rw [List.foldl_cons, List.flatMap_cons, List.foldl_append, ih]; rfl

end SymbolTable

end ProtoTypings
