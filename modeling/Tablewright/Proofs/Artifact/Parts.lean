import Tablewright.Artifact.Backend
import Tablewright.Proofs.Entity.Build

/-! # What backends read of an entity

A protobuf file and a file of accessors are made from a part of their entities only. Such a part is
again an entity, in which everything that is not read has been left blank (`Entity.messagePart`,
`Entity.accessorPart`), so a backend reads nothing else if it makes the same of both
(`ProtoFile.emit_messagePart`, `Accessors.emit_accessorPart`).

* `Entity.messagePart_ofKinds`: for messages an entity is built the same under all options.
* `Entity.accessorPart_ofKinds`: for accessors it is so under options that write integers and booleans
  the same way and keep the same names free. -/

namespace Tablewright

/-! ## The part for messages -/

/-- A bare field has the kind it is made with. -/
@[simp] theorem Field.kind_bare (name comment : String) (kind : ColumnKind) (nullable : Bool) :
    (Field.bare name comment kind nullable).kind = kind :=
  GoType.kind_ofKind kind

/-- What messages show of a field: its column, and nothing that options have made of it. -/
def Field.messagePart (f : Field) : Field :=
  .bare f.name f.comment f.kind f.nullable

/-- What messages show of an entity. -/
def Entity.messagePart (e : Entity) : Entity :=
  { (default : Entity) with
    name := e.name, comment := e.comment, fields := e.fields.map Field.messagePart }

/-- A name chosen for the code does not show in messages. -/
@[simp] theorem Field.messagePart_named (f : Field) (goName : String) :
    (f.named goName).messagePart = f.messagePart := rfl

/-- Options do not show in messages. -/
@[simp] theorem Field.messagePart_transform (o : Options) (f : Field) :
    (f.transform o).messagePart = f.messagePart := by
  simp only [messagePart, name_transform, comment_transform, kind_transform, nullable_transform]

/-- A field of a built entity shows its column in messages. -/
theorem Field.messagePart_ofKind (o : Options) (t : Table) (c : Column) (kind : ColumnKind) :
    (Field.ofKind o t c kind).messagePart = .bare c.name c.comment kind c.nullable := by
  rw [ofKind, messagePart_transform, messagePart, kind_ofColumn]
  rfl

namespace Artifact.ProtoFile

variable (p : ProtoFile)

/-- The message field is made from the part for messages. -/
@[simp] theorem messageField_messagePart (f : Field) :
    p.messageField f.messagePart = p.messageField f := by
  rw [messageField, messageField, Field.messagePart, Field.kind_bare]
  rfl

/-- The message fields are made from the part for messages. -/
@[simp] theorem messageFields_messagePart (e : Entity) :
    p.messageFields e.messagePart = p.messageFields e := by
  simp [messageFields, Entity.messagePart, Function.comp_def]

/-- A message is made from its part of the entity. -/
theorem entity_messagePart (e : Entity) : p.entity e.messagePart = p.entity e := by
  have hbody : p.body e.messagePart = p.body e := by
    rw [body, body, messageFields_messagePart]
    rfl
  have hrefusal : p.refusal? e.messagePart = p.refusal? e := by
    rw [refusal?, refusal?, messageFields_messagePart]
    rfl
  rw [entity, entity, hbody, hrefusal]
  rfl

/-- **Messages are made from their part of the entities.** -/
theorem emit_messagePart (es : List Entity) : p.emit (es.map Entity.messagePart) = p.emit es := by
  have hentity : p.entity ∘ Entity.messagePart = p.entity := by
    simp only [Function.comp_def, entity_messagePart]
  have himports : p.imports (es.map Entity.messagePart) = p.imports es := by
    simp only [imports, List.flatMap_map, messageFields_messagePart]
  rw [emit, emit, List.mapM_map, hentity, himports]

end Artifact.ProtoFile

/-- **For messages an entity is built the same under all options.** -/
theorem Entity.messagePart_ofKinds (o o' : Options) (t : Table) (kinds : List ColumnKind) :
    (ofKinds o t kinds).messagePart = (ofKinds o' t kinds).messagePart := by
  have hfields (o : Options) : (ofKinds o t kinds).fields.map Field.messagePart =
      List.zipWith (fun c kind => .bare c.name c.comment kind c.nullable) t.columns kinds := by
    rw [ofKinds, map_resolveNames Field.messagePart_named, ofFields, List.map_zipWith]
    simp only [Field.messagePart_ofKind]
  rw [messagePart, messagePart, hfields o, hfields o']
  rfl

/-! ## The part for accessors -/

/-- What accessors are made from: the column of a field and its kind, the name of the field and the
type of its accessor. -/
def Field.accessorPart (f : Field) : Field :=
  { Field.bare f.name "" f.kind f.nullable with goName := f.goName, rapierKind := f.rapierKind }

/-- What the accessors of an entity are made from. -/
def Entity.accessorPart (e : Entity) : Entity :=
  { (default : Entity) with name := e.name, fields := e.fields.map Field.accessorPart }

/-- The part for accessors keeps the kind. -/
@[simp] theorem Field.kind_accessorPart (f : Field) : f.accessorPart.kind = f.kind :=
  GoType.kind_ofKind f.kind

/-- Names are resolved in the part for accessors as they are in the entity. -/
theorem Entity.accessorPart_resolveNames (e : Entity) (escapes : List String) :
    (e.resolveNames escapes).accessorPart = e.accessorPart.resolveNames escapes := by
  have hnames : e.accessorPart.goNames = e.goNames := by
    simp only [goNames, accessorPart, List.map_map]
    rfl
  have hfields : (e.resolveNames escapes).fields.map Field.accessorPart =
      (e.accessorPart.resolveNames escapes).fields := by
    rw [resolveNames, resolveNames]
    show _ = List.zipWith Field.named (e.fields.map Field.accessorPart)
      (FieldNames.resolved escapes e.accessorPart.goNames)
    rw [hnames, List.map_zipWith, List.zipWith_map_left]
    rfl
  rw [accessorPart, hfields]
  rfl

namespace Artifact.Accessors

variable (a : Accessors)

/-- The text that selects a field is made from the part for accessors. -/
theorem variant_accessorPart (f : Field) (withPrefixes : Bool) :
    variant f.accessorPart withPrefixes = variant f withPrefixes := by
  rw [variant, variant, Field.kind_accessorPart]
  rfl

/-- The lines of the accessors are made from their part of the entity. -/
theorem bodyLines_accessorPart (e : Entity) : a.bodyLines e.accessorPart = a.bodyLines e := by
  have hvariant (withPrefixes : Bool) : e.accessorPart.fields.map (fun f =>
      "\t\t\t" ++ variant f withPrefixes) = e.fields.map fun f =>
        "\t\t\t" ++ variant f withPrefixes := by
    simp only [Entity.accessorPart, List.map_map, Function.comp_def, variant_accessorPart]
  rw [bodyLines, bodyLines, variantBlock, variantBlock, hvariant, hvariant]
  simp only [constBlock, typeBlock, builderBlock, selectBlock, Entity.accessorPart, List.map_map]
  rfl

/-- The accessors of an entity are made from their part of it. -/
theorem entity_accessorPart (e : Entity) : a.entity e.accessorPart = a.entity e := by
  rw [entity, entity, ← Entity.accessorPart_resolveNames, bodyLines_accessorPart]
  rfl

/-- **Accessors are made from their part of the entities.** -/
theorem emit_accessorPart (es : List Entity) :
    a.emit (es.map Entity.accessorPart) = a.emit es := by
  have hentity : a.entity ∘ Entity.accessorPart = a.entity := by
    simp only [Function.comp_def, entity_accessorPart]
  rw [emit, emit, List.mapM_map, hentity]

end Artifact.Accessors

/-! ### Options that accessors show -/

/-- Two options show the same in accessors: they write integers and booleans the same way and keep the
same names free. -/
structure Options.SameAccessors (o o' : Options) : Prop where
  enableInt : o.enableInt = o'.enableInt
  enableIntegerInt : o.enableIntegerInt = o'.enableIntegerInt
  enableBoolInt : o.enableBoolInt = o'.enableBoolInt
  escapeName : o.escapeName = o'.escapeName

variable {o o' : Options}

/-- Options that show the same in accessors write integers the same way. -/
theorem Field.integerForm?_congr (h : o.SameAccessors o') (kind : ColumnKind) :
    integerForm? o kind = integerForm? o' kind := by
  have hwidened : widened? o kind = widened? o' kind := by
    cases kind <;> simp only [widened?, h.enableInt, h.enableIntegerInt]
  rw [integerForm?, integerForm?, h.enableBoolInt, hwidened]

/-- Under such options fields of one column have accessors of one type. -/
theorem Field.accessorPart_ofKind (h : o.SameAccessors o') (t : Table) (c : Column)
    (kind : ColumnKind) :
    (Field.ofKind o t c kind).accessorPart = (Field.ofKind o' t c kind).accessorPart := by
  -- a soft-delete column keeps the accessor of its kind, any other has that of its integer form
  have hrapier (o : Options) : (Field.ofKind o t c kind).rapierKind =
      (if c.name == "deleted_at" && kind.isInteger then none
        else (integerForm? o kind).map Prod.snd).getD kind.toRapier := by
    rw [ofKind, transform, retype_eq, ruledRapier?, marksDeleted, kind_ofColumn]
    rfl
  have hname (o : Options) : (Field.ofKind o t c kind).name = c.name := name_transform o _
  have hnull (o : Options) : (Field.ofKind o t c kind).nullable = c.nullable :=
    nullable_transform o _
  have hgoName (o : Options) : (Field.ofKind o t c kind).goName = Naming.camelCase c.name :=
    goName_transform o _
  simp only [accessorPart, hrapier, hname, hnull, hgoName, kind_ofKind, integerForm?_congr h]

/-- **For accessors an entity is built the same under options that show the same in them.** -/
theorem Entity.accessorPart_ofKinds (h : o.SameAccessors o') (t : Table)
    (kinds : List ColumnKind) :
    (ofKinds o t kinds).accessorPart = (ofKinds o' t kinds).accessorPart := by
  have hfields : (List.zipWith (Field.ofKind o t) t.columns kinds).map Field.accessorPart =
      (List.zipWith (Field.ofKind o' t) t.columns kinds).map Field.accessorPart := by
    simp only [List.map_zipWith, Field.accessorPart_ofKind h]
  rw [ofKinds, ofKinds, accessorPart_resolveNames, accessorPart_resolveNames, ← h.escapeName]
  congr 1
  rw [accessorPart, accessorPart]
  show ({ (default : Entity) with name := t.name, fields := List.map _ _ } : Entity) = _
  rw [ofFields, hfields]
  rfl

end Tablewright
