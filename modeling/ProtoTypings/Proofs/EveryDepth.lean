import ProtoTypings.Proofs.Conversion

/-!
# Proofs.EveryDepth

A message with the messages nested in it, and that those of a definition stand beside those of the
descriptor that it was made from.

* `Message.select`, `Descriptor.Message.select` — the messages at every depth, some left out with
  all that is in them.
* `Message.everyDepth`, `Message.shown` — all of them, and those that are not behind map fields.
* `Message.forall₂_everyDepth`, `File.forall₂_shown` — definitions beside descriptors.
-/

namespace ProtoTypings

namespace Descriptor

mutual

/-- A message and those nested in it at every depth, each before what is in it. Messages that are
not kept are left out with all that is in them. -/
def Message.select (keep : Message → Bool) : Message → List Message
  | ⟨name, fields, nested, enums, oneofs, options⟩ =>
    let d : Message := ⟨name, fields, nested, enums, oneofs, options⟩
    if keep d then d :: messagesSelect keep nested else []

def messagesSelect (keep : Message → Bool) : List Message → List Message
  | [] => []
  | d :: ds => d.select keep ++ messagesSelect keep ds

end

theorem messagesSelect_eq_flatMap (keep : Message → Bool) (ds : List Message) :
    messagesSelect keep ds = ds.flatMap (·.select keep) := by
  induction ds with
  | nil => rfl
  | cons d ds ih => rw [messagesSelect, List.flatMap_cons, ih]

theorem Message.select_eq (keep : Message → Bool) (d : Message) :
    d.select keep = if keep d then d :: d.nested.flatMap (·.select keep) else [] := by
  rw [← messagesSelect_eq_flatMap]
  cases d
  rfl

/-- Whether a message stands behind a map field. -/
def Message.isMapEntry (d : Message) : Bool := (d.options.bind (·.mapEntry)).getD false

def Message.everyDepth (d : Message) : List Message := d.select fun _ => true

/-- The messages of a file that are shown: none that stands behind a map field, and nothing in such
a message. -/
def File.shown (d : File) : List Message := d.messages.flatMap (·.select (!·.isMapEntry))

end Descriptor

namespace Proto

mutual

/-- A message and those nested in it at every depth, each before what is in it. Messages that are
not kept are left out with all that is in them. -/
def Message.select (keep : Message → Bool) : Message → List Message
  | ⟨name, isMapEntry, fields, oneofs, nested, enums⟩ =>
    let m : Message := ⟨name, isMapEntry, fields, oneofs, nested, enums⟩
    if keep m then m :: messagesSelect keep nested else []

def messagesSelect (keep : Message → Bool) : List Message → List Message
  | [] => []
  | m :: ms => m.select keep ++ messagesSelect keep ms

end

theorem messagesSelect_eq_flatMap (keep : Message → Bool) (ms : List Message) :
    messagesSelect keep ms = ms.flatMap (·.select keep) := by
  induction ms with
  | nil => rfl
  | cons m ms ih => rw [messagesSelect, List.flatMap_cons, ih]

theorem Message.select_eq (keep : Message → Bool) (m : Message) :
    m.select keep = if keep m then m :: m.nested.flatMap (·.select keep) else [] := by
  rw [← messagesSelect_eq_flatMap]
  cases m
  rfl

def Message.everyDepth (m : Message) : List Message := m.select fun _ => true

def Message.shown (m : Message) : List Message := m.select (!·.isMapEntry)

/-- The messages of a file that are shown: none that stands behind a map field, and nothing in such
a message. -/
def File.shown (file : File) : List Message := file.messages.flatMap (·.shown)

/-- A definition and the descriptor that it was made from. -/
def Message.MadeFrom (d : Descriptor.Message) (m : Message) : Prop :=
  ∃ scope, Message.ofDescriptor scope d = .ok m

theorem Message.isMapEntry_of_madeFrom {d : Descriptor.Message} {m : Message}
    (h : Message.MadeFrom d m) : m.isMapEntry = d.isMapEntry := by
  obtain ⟨scope, h⟩ := h
  obtain ⟨name, fields, oneofs, nested, enums, -, -, -, -, -, rfl⟩ := Message.ofDescriptor_eq_ok.1 h
  rfl

/-- What is kept of a definition stands beside what is kept of its descriptor. -/
theorem Message.forall₂_select {keepD : Descriptor.Message → Bool} {keep : Message → Bool}
    (same : ∀ d m, Message.MadeFrom d m → keep m = keepD d) (d : Descriptor.Message) :
    ∀ {scope : String} {m : Message}, Message.ofDescriptor scope d = .ok m →
      List.Forall₂ Message.MadeFrom (d.select keepD) (m.select keep) := by
  induction d using Descriptor.Message.nested_induction with
  | step d ih =>
    intro scope m h
    have made : Message.MadeFrom d m := ⟨scope, h⟩
    rw [Descriptor.Message.select_eq, Message.select_eq, same d m made]
    split
    · obtain ⟨name, fields, oneofs, nested, enums, -, -, -, hm, -, rfl⟩ :=
        Message.ofDescriptor_eq_ok.1 h
      exact .cons made (forall₂_flatMap_of_each hm fun n hn k hk => ih n hn hk)
    · exact .nil

theorem Message.forall₂_everyDepth {scope : String} {d : Descriptor.Message} {m : Message}
    (h : Message.ofDescriptor scope d = .ok m) :
    List.Forall₂ Message.MadeFrom d.everyDepth m.everyDepth :=
  Message.forall₂_select (fun _ _ _ => rfl) d h

theorem File.forall₂_shown {d : Descriptor.File} {file : File}
    (h : File.ofDescriptor d = .ok file) : List.Forall₂ Message.MadeFrom d.shown file.shown := by
  obtain ⟨name, dialect, messages, enums, extensions, -, -, hm, -, -, rfl⟩ :=
    File.ofDescriptor_eq_ok.1 h
  refine forall₂_flatMap_of_each hm fun n _ m hm => Message.forall₂_select ?_ n hm
  intro d m made
  rw [Message.isMapEntry_of_madeFrom made]

end Proto
end ProtoTypings
