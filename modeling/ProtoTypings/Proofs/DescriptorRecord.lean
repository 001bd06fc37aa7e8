import ProtoTypings.Plugin.Protocol
import ProtoTypings.Proofs.Conversion

/-!
# Proofs.DescriptorRecord

Descriptors, requests and responses are kept by their records: what is put into a record under the
tags of its type is found there again.

* `Descriptor.Message.ofRecord_toRecord`, `Descriptor.File.ofRecord_toRecord` — descriptors.
* `Request.ofRecord_toRecord`, `Response.ofRecord_toRecord` — the two sides of the protocol.
-/

namespace ProtoTypings
namespace Wire
namespace Record

/-! ## Values at a tag -/

section Values

variable (tag : Nat) (r s : Record)

@[simp] theorem texts_append : texts tag (r ++ s) = texts tag r ++ texts tag s :=
  List.filterMap_append

@[simp] theorem numbers_append : numbers tag (r ++ s) = numbers tag r ++ numbers tag s :=
  List.filterMap_append

@[simp] theorem records_append : records tag (r ++ s) = records tag r ++ records tag s :=
  List.filterMap_append

end Values

section Fields

variable (tag t : Nat)

@[simp] theorem texts_textField (value : Option String) :
    texts tag (textField t value) = if t = tag then value.toList else [] := by
  cases value <;> by_cases h : t = tag <;> simp [textField, texts, h]

@[simp] theorem numbers_textField (value : Option String) :
    numbers tag (textField t value) = [] := by
  cases value <;> rfl

@[simp] theorem records_textField (value : Option String) :
    records tag (textField t value) = [] := by
  cases value <;> rfl

@[simp] theorem texts_wordField (value : Option UInt64) : texts tag (wordField t value) = [] := by
  cases value <;> rfl

@[simp] theorem numbers_wordField (value : Option UInt64) :
    numbers tag (wordField t value) = if t = tag then value.toList else [] := by
  cases value <;> by_cases h : t = tag <;> simp [wordField, numbers, h]

@[simp] theorem records_wordField (value : Option UInt64) :
    records tag (wordField t value) = [] := by
  cases value <;> rfl

@[simp] theorem texts_map_text (values : List String) :
    texts tag (values.map (.text t)) = if t = tag then values else [] := by
  by_cases h : t = tag <;> simp [texts, List.filterMap_map, h]

@[simp] theorem numbers_map_text (values : List String) :
    numbers tag (values.map (.text t)) = [] := by
  simp [numbers, List.filterMap_map]

@[simp] theorem records_map_text (values : List String) :
    records tag (values.map (.text t)) = [] := by
  simp [records, List.filterMap_map]

variable {α : Type} (f : α → Record)

@[simp] theorem texts_map_record (as : List α) :
    texts tag (as.map fun a => .record t (f a)) = [] := by
  simp [texts, List.filterMap_map]

@[simp] theorem numbers_map_record (as : List α) :
    numbers tag (as.map fun a => .record t (f a)) = [] := by
  simp [numbers, List.filterMap_map]

@[simp] theorem records_map_record (as : List α) :
    records tag (as.map fun a => .record t (f a)) = if t = tag then as.map f else [] := by
  by_cases h : t = tag <;> simp [records, List.filterMap_map, h]

@[simp] theorem texts_toList_record (a : Option α) :
    texts tag (a.map fun a => .record t (f a)).toList = [] := by
  cases a <;> rfl

@[simp] theorem numbers_toList_record (a : Option α) :
    numbers tag (a.map fun a => .record t (f a)).toList = [] := by
  cases a <;> rfl

@[simp] theorem records_toList_record (a : Option α) :
    records tag (a.map fun a => .record t (f a)).toList =
      if t = tag then (a.map f).toList else [] := by
  cases a <;> by_cases h : t = tag <;> simp [records, h]

end Fields

theorem record?_of_records {tag : Nat} {r : Record} {value : Option Record}
    (h : records tag r = value.toList) : record? tag r = value := by
  rw [record?, h]
  cases value <;> simp

theorem getLast?_toList {α : Type} (a : Option α) : a.toList.getLast? = a := by cases a <;> rfl

theorem toInt32_comp_ofInt32 : toInt32 ∘ ofInt32 = id := funext toInt32_ofInt32

theorem toBool_comp_ofBool : toBool ∘ ofBool = id := funext toBool_ofBool

end Record
end Wire

/-! ## Descriptors -/

namespace Descriptor

open Wire Wire.Record

theorem EnumValue.ofRecord_toRecord (v : EnumValue) : ofRecord v.toRecord = v := by
  simp [ofRecord, toRecord, Record.text?, number?, int32Field, getLast?_toList,
    toInt32_comp_ofInt32]

theorem Enum.ofRecord_toRecord (e : Enum) : ofRecord e.toRecord = e := by
  simp [ofRecord, toRecord, Record.text?, getLast?_toList, Function.comp_def,
    EnumValue.ofRecord_toRecord]

theorem Field.ofRecord_toRecord (f : Field) : ofRecord f.toRecord = f := by
  simp [ofRecord, toRecord, Record.text?, number?, int32Field, boolField, getLast?_toList,
    toInt32_comp_ofInt32, toBool_comp_ofBool]

theorem Oneof.ofRecord_toRecord (o : Oneof) : ofRecord o.toRecord = o := by
  simp [ofRecord, toRecord, Record.text?, getLast?_toList]

theorem MessageOptions.ofRecord_toRecord (o : MessageOptions) : ofRecord o.toRecord = o := by
  simp [ofRecord, toRecord, number?, boolField, getLast?_toList, toBool_comp_ofBool]

/-- The message that a record holds. -/
def Message.ofRecord (r : Record) : Message :=
  { name := r.text? 1
    fields := (r.records 2).map Field.ofRecord
    nested := messagesAt 3 r
    enums := (r.records 4).map Enum.ofRecord
    options := (r.record? 7).map MessageOptions.ofRecord
    oneofs := (r.records 8).map Oneof.ofRecord }

theorem messagesAt_eq_map (tag : Nat) (r : Record) :
    messagesAt tag r = (r.records tag).map Message.ofRecord := by
  induction r with
  | nil => rfl
  | cons f r ih =>
    cases f with
    | number t value => simpa [messagesAt, messageAt?, records] using ih
    | text t value => simpa [messagesAt, messageAt?, records] using ih
    | record t fields =>
      by_cases h : t = tag
      · simp only [messagesAt, messageAt?, if_pos h, ih]
        simp [records, h, Message.ofRecord]
      · simpa [messagesAt, messageAt?, records, h] using ih

theorem nestedFields_eq_map (ms : List Message) :
    nestedFields ms = ms.map fun m => .record 3 m.toRecord := by
  induction ms with
  | nil => rfl
  | cons m ms ih => rw [nestedFields, ih, List.map_cons]

theorem Message.toRecord_eq (m : Message) :
    m.toRecord = textField 1 m.name ++ m.fields.map (fun f => .record 2 f.toRecord) ++
      m.nested.map (fun n => .record 3 n.toRecord) ++
      m.enums.map (fun e => .record 4 e.toRecord) ++
      (m.options.map fun o => .record 7 o.toRecord).toList ++
      m.oneofs.map fun o => .record 8 o.toRecord := by
  rw [← nestedFields_eq_map]
  cases m
  rfl

theorem Message.eta (m : Message) :
    (⟨m.name, m.fields, m.nested, m.enums, m.oneofs, m.options⟩ : Message) = m := by
  cases m
  rfl

theorem Message.ofRecord_toRecord (m : Message) : ofRecord m.toRecord = m := by
  induction m using Message.nested_induction with
  | step m ih =>
    have nested : m.nested.map (fun n => ofRecord n.toRecord) = m.nested := by
      rw [List.map_congr_left ih, List.map_id']
    have records_ : records 7 m.toRecord = (m.options.map (·.toRecord)).toList := by
      rw [Message.toRecord_eq]
      simp
    have options : (record? 7 m.toRecord).map MessageOptions.ofRecord = m.options := by
      rw [record?_of_records records_, Option.map_map]
      cases m.options with
      | none => rfl
      | some o => exact congrArg some o.ofRecord_toRecord
    rw [ofRecord, options, messagesAt_eq_map, Message.toRecord_eq]
    simp only [Record.text?, texts_append, texts_textField, texts_map_record, texts_toList_record,
      records_append, records_textField, records_map_record, records_toList_record]
    simp [getLast?_toList, Function.comp_def, Field.ofRecord_toRecord, Enum.ofRecord_toRecord,
      Oneof.ofRecord_toRecord, nested, m.eta]

theorem File.ofRecord_toRecord (f : File) : ofRecord f.toRecord = f := by
  simp [ofRecord, toRecord, Record.text?, messagesAt_eq_map, getLast?_toList, Function.comp_def,
    Field.ofRecord_toRecord, Enum.ofRecord_toRecord, Message.ofRecord_toRecord]

end Descriptor

/-! ## Requests and responses -/

namespace Plugin

open Wire Wire.Record

theorem Request.ofRecord_toRecord (q : Request) : ofRecord q.toRecord = q := by
  simp [ofRecord, toRecord, Record.text?, getLast?_toList, Function.comp_def,
    Descriptor.File.ofRecord_toRecord]

theorem ResponseFile.ofRecord_toRecord (f : ResponseFile) : ofRecord f.toRecord = f := by
  simp [ofRecord, toRecord, Record.text?, getLast?_toList]

theorem Response.ofRecord_toRecord (s : Response) : ofRecord s.toRecord = s := by
  simp [ofRecord, toRecord, Record.text?, number?, getLast?_toList, Function.comp_def,
    ResponseFile.ofRecord_toRecord]

end Plugin
end ProtoTypings
