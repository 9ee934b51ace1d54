import Tablewright.Proofs.Json.Fitting

/-! # Records, field by field

The format of a record says in one place how each of its fields is written, what stands for a field
that is left out, and how its value gets into the document. A `RecordPart` puts this together for
one field, and `Format.IsRecord` says of a format that it is made of such parts: what its documents
hold for the fields is then all that their values depend on.

* `Format.IsRecord.decode_eq`: two documents that hold the same for every field have the same value. -/

namespace Tablewright.Json

/-- A field of a record, with what stands for it in a document without it. -/
inductive RecordPart (α : Type) : Type 1 where
  /-- The field has to be there, so what stands for it otherwise is never asked for. -/
  | required {β : Type} (format : Format β) (blank : β) (get : α → β)
  | defaulted {β : Type} (format : Format β) (otherwise : β) (get : α → β)
  | nullable {β : Type} (format : Format β) (get : α → Option β)

namespace RecordPart

variable {α : Type}

/-- When the field may be left out. -/
def presence : RecordPart α → Presence
  | required _ _ _ => .required
  | defaulted _ _ _ => .defaulted
  | nullable _ _ => .nullable

/-- The type of what is written for the field, unless it is null. -/
def Written : RecordPart α → Type
  | @required _ β _ _ _ => β
  | @defaulted _ β _ _ _ => β
  | @nullable _ β _ _ => β

/-- How the field is written, unless it is null. -/
def format : (p : RecordPart α) → Format p.Written
  | required format _ _ => format
  | defaulted format _ _ => format
  | nullable format _ => format

/-- The type of the field. -/
def Value : RecordPart α → Type
  | @required _ β _ _ _ => β
  | @defaulted _ β _ _ _ => β
  | @nullable _ β _ _ => Option β

/-- The field of a record. -/
def get : (p : RecordPart α) → α → p.Value
  | required _ _ get => get
  | defaulted _ _ get => get
  | nullable _ get => get

/-- The field of the record that is read from a document with this in the place of the field. -/
def value : (p : RecordPart α) → Option Json → p.Value
  | required format blank _ => fun slot => format.at slot blank
  | defaulted format otherwise _ => fun slot => format.at slot otherwise
  | nullable format _ => format.optionalAt

/-- The document of the field of a record. -/
def encode (p : RecordPart α) (x : α) : Json :=
  match p with
  | required format _ get => format.encode (get x)
  | defaulted format _ get => format.encode (get x)
  | nullable format get => format.encodeOptional (get x)

/-- What the field asks of a document. -/
def field (p : RecordPart α) : Presence × Shape :=
  (p.presence, p.format.shape)

/-- A document for what stands for the field where it is left out. -/
def IsDefault : RecordPart α → Json → Prop
  | required _ _ _, _ => False
  | defaulted format otherwise _, j => Fits format.shape j ∧ format.decode j = otherwise
  | nullable _ _, j => j = .null

/-- What is written for the field in full: what a record holds for it, or else its default. -/
def Fills (p : RecordPart α) (slot : Option Json) (j : Json) : Prop :=
  slot = some j ∨ slot = none ∧ p.IsDefault j

end RecordPart

/-- What the fields of a record ask of its documents. -/
def fieldsOf {α : Type} (parts : List (String × RecordPart α)) : List (String × Presence × Shape) :=
  parts.map fun p => (p.1, p.2.field)

/-- The format is that of a record with these fields. -/
structure Format.IsRecord {α : Type} (F : Format α) (parts : List (String × RecordPart α)) :
    Prop where
  shape_eq : F.shape = .record (fieldsOf parts)
  nodup : (parts.map (·.1)).Nodup
  encode_eq : ∀ x, F.encode x = Json.record (parts.map fun p => (p.1, p.2.encode x))
  get_decode : ∀ j, ∀ p ∈ parts, p.2.get (F.decode j) = p.2.value (slot? (fieldsOf parts) j p.1)
  /-- A record has nothing but its fields. -/
  ext : ∀ x y, (∀ p ∈ parts, p.2.get x = p.2.get y) → x = y

/-- The fields of a record have the names of its parts. -/
theorem names_fieldsOf {α : Type} (parts : List (String × RecordPart α)) :
    (fieldsOf parts).map (·.1) = parts.map (·.1) := by
  rw [fieldsOf, List.map_map]
  rfl

/-- The value of a nullable field that is not null. -/
theorem Format.optionalAt_some {α : Type} (F : Format α) {j : Json} (hj : j ≠ .null) :
    F.optionalAt (some j) = some (F.decode j) := by
  rw [Format.optionalAt]
  exact hj

namespace Format.IsRecord

variable {α : Type} {F : Format α} {parts : List (String × RecordPart α)}

/-- The fields of a record have different names. -/
theorem nodup_fieldsOf (hF : F.IsRecord parts) : ((fieldsOf parts).map (·.1)).Nodup := by
  rw [names_fieldsOf]
  exact hF.nodup

/-- **The value of a document depends on what it holds for the fields**, and on nothing else. -/
theorem decode_eq (hF : F.IsRecord parts) {j j' : Json}
    (h : ∀ p ∈ parts, p.2.value (slot? (fieldsOf parts) j' p.1) =
      p.2.value (slot? (fieldsOf parts) j p.1)) : F.decode j' = F.decode j := by
  refine hF.ext _ _ fun p hp => ?_
  rw [hF.get_decode j' p hp, hF.get_decode j p hp, h p hp]

end Format.IsRecord

end Tablewright.Json
