import Tablewright.Proofs.Dict
import Tablewright.Proofs.Json.Printing
import Tablewright.Proofs.Json.Record

/-! # Formats that read back what they write

`Format.write` is the text of a value. A format is `Faithful` if the document that it writes for a
value is one that can be printed, fits the shape and stands for that value; a document that is not
null is asked for besides, so that a nullable field can tell a value from its absence. Each way of
making a format keeps this.

* `Format.read_write`: a faithful format reads back what it writes.
* `Format.Faithful.list`, `Format.Faithful.dict`, `Format.IsRecord.faithful`: lists, dictionaries
  and records are faithful if what is in them is. -/

namespace Tablewright.Json

/-- The text that is written for a value. -/
def Format.write {α : Type} (F : Format α) (x : α) : String :=
  String.ofList (compact (F.encode x))

/-- The documents of a format are those of its values. -/
structure Format.Faithful {α : Type} (F : Format α) : Prop where
  printable : ∀ x, Printable (F.encode x)
  ne_null : ∀ x, F.encode x ≠ .null
  fits : ∀ x, Fits F.shape (F.encode x)
  decode_encode : ∀ x, F.decode (F.encode x) = x

/-- **A faithful format reads back what it writes.** -/
theorem Format.read_write {α : Type} {F : Format α} (hF : F.Faithful) (x : α) :
    F.read (F.write x) = .ok x :=
  (Format.read_eq_ok_iff (read_compact (hF.printable x))).mpr ⟨hF.fits x, hF.decode_encode x⟩

namespace Format.Faithful

/-- Texts. -/
theorem text : Format.text.Faithful where
  printable := Printable.text
  ne_null x := Json.noConfusion
  fits x := by simp [Fits, Format.text, ofText, fault?, scalarFault?]
  decode_encode x := rfl

/-- Flags are faithful. -/
theorem flag : Format.flag.Faithful where
  printable := Printable.bool
  ne_null x := Json.noConfusion
  fits x := by simp [Fits, Format.flag, fault?, scalarFault?]
  decode_encode x := rfl

variable {α : Type} {F : Format α}

/-- Lists of what a faithful format writes. -/
theorem list (hF : F.Faithful) : (Format.list F).Faithful where
  printable xs := Printable.list (List.forall_mem_map.mpr fun x _ => hF.printable x)
  ne_null xs := Json.noConfusion
  fits xs := fits_list_iff.mpr ⟨rfl, List.forall_mem_map.mpr fun x _ => hF.fits x⟩
  decode_encode xs := by
    have hitem : F.decode ∘ F.encode = id := funext hF.decode_encode
    show (xs.map F.encode).map F.decode = xs
    rw [List.map_map, hitem, List.map_id]

/-- Dictionaries of faithful values are faithful. -/
theorem dict (hF : F.Faithful) : (Format.dict F).Faithful where
  printable d := Printable.record (List.forall_mem_map.mpr fun e _ => hF.printable e.2)
  ne_null d := Json.noConfusion
  fits d := by
    refine fits_dict_iff.mpr ⟨rfl, ?_⟩
    rw [List.map_map]
    exact List.forall_mem_map.mpr fun e _ => ⟨⟨e.1, rfl⟩, hF.fits e.2⟩
  decode_encode d := by
    have hentry : ((fun m : Json × Json => (m.1.text?.getD "", F.decode m.2)) ∘
        fun m : String × Json => (ofText m.1, m.2)) ∘
        (fun e : String × α => (e.1, F.encode e.2)) = id :=
      funext fun e => Prod.ext rfl (hF.decode_encode e.2)
    show Dict.ofList (((d.entries.map fun e => (e.1, F.encode e.2)).map
      fun m => (ofText m.1, m.2)).map fun m => (m.1.text?.getD "", F.decode m.2)) = d
    rw [List.map_map, List.map_map, hentry, List.map_id, Dict.ofList_entries]

/-- Words, if each value has a word of its own. -/
theorem word [Inhabited α] {words : List (String × α)} {nameOf : α → String}
    (h : ∀ x, words.lookup (nameOf x) = some x) : (Format.word words nameOf).Faithful where
  printable x := Printable.text (nameOf x)
  ne_null x := Json.noConfusion
  fits x := by
    obtain ⟨before, behind, hwords, -⟩ := List.lookup_eq_some_iff.mp (h x)
    have hmem : nameOf x ∈ words.map (·.1) := List.mem_map.mpr ⟨(nameOf x, x), by simp [hwords], rfl⟩
    simp [Fits, Format.word, ofText, fault?, scalarFault?, hmem]
  decode_encode x := by
    show (words.lookup (nameOf x)).getD default = x
    rw [h x, Option.getD_some]

end Format.Faithful

/-! ## Records -/

namespace RecordPart

variable {α : Type} {p : RecordPart α}

/-- A part of a record prints what it encodes. -/
theorem printable_encode (hp : p.format.Faithful) (x : α) : Printable (p.encode x) := by
  cases p with
  | required format blank get => exact hp.printable (get x)
  | defaulted format otherwise get => exact hp.printable (get x)
  | nullable format get =>
      show Printable (format.encodeOptional (get x))
      cases get x with
      | none => exact Printable.null
      | some y => exact hp.printable y

/-- What a part encodes fits the slot it is read from. -/
theorem fitsSlot_encode (hp : p.format.Faithful) (x : α) :
    FitsSlot p.field (some (p.encode x)) := by
  cases p with
  | required format blank get => exact Or.inr (hp.fits (get x))
  | defaulted format otherwise get => exact Or.inr (hp.fits (get x))
  | nullable format get =>
      show FitsSlot _ (some (format.encodeOptional (get x)))
      cases get x with
      | none => exact Or.inl ⟨rfl, rfl⟩
      | some y => exact Or.inr (hp.fits y)

/-- The document of a field stands for that field. -/
theorem value_encode (hp : p.format.Faithful) (x : α) : p.value (some (p.encode x)) = p.get x := by
  cases p with
  | required format blank get => exact hp.decode_encode (get x)
  | defaulted format otherwise get => exact hp.decode_encode (get x)
  | nullable format get =>
      show format.optionalAt (some (format.encodeOptional (get x))) = get x
      cases get x with
      | none => rfl
      | some y =>
          -- it is not written as null, so it is not taken for a value that is missing
          exact (format.optionalAt_some (hp.ne_null y)).trans (congrArg some (hp.decode_encode y))

end RecordPart

namespace Format.IsRecord

variable {α : Type} {F : Format α} {parts : List (String × RecordPart α)}

/-- The members of a record are in order if its fields have names of their own. -/
theorem tidy_encode (hF : F.IsRecord parts) (x : α) :
    Tidy (parts.map (·.1)) (parts.map fun p => (ofText p.1, p.2.encode x)) where
  texts := List.forall_mem_map.mpr fun p _ => ⟨p.1, rfl⟩
  skipped := by
    refine List.forall_mem_map.mpr fun p hp k hk heq => ?_
    exact absurd (List.mem_map_of_mem hp) (ofText_inj.mp heq ▸ hk)
  once := by
    refine List.pairwise_map.mpr ((List.pairwise_map.mp hF.nodup).imp fun hne k _ hp hq => ?_)
    exact hne ((ofText_inj.mp hp).trans (ofText_inj.mp hq).symm)

/-- A record is encoded as the object of its parts. -/
theorem encode_eq_object (hF : F.IsRecord parts) (x : α) :
    F.encode x = .object (parts.map fun p => (ofText p.1, p.2.encode x)) none := by
  rw [hF.encode_eq, Json.record, List.map_map]
  rfl

/-- In an encoded record each part is found in its own slot. -/
theorem slot?_encode (hF : F.IsRecord parts) (x : α) {p : String × RecordPart α} (hp : p ∈ parts) :
    slot? (fieldsOf parts) (F.encode x) p.1 = some (p.2.encode x) := by
  rw [hF.encode_eq_object, slot?_eq_some_iff (hF.tidy_encode x) (List.mem_map_of_mem hp)]
  exact List.mem_map_of_mem (f := fun p : String × RecordPart α => (ofText p.1, p.2.encode x)) hp

/-- **A record is faithful if its fields are.** -/
theorem faithful (hF : F.IsRecord parts) (hparts : ∀ p ∈ parts, p.2.format.Faithful) :
    F.Faithful where
  printable x := by
    rw [hF.encode_eq]
    exact Printable.record (List.forall_mem_map.mpr fun p hp =>
      RecordPart.printable_encode (hparts p hp) x)
  ne_null x := by
    rw [hF.encode_eq]
    exact Json.noConfusion
  fits x := by
    rw [hF.shape_eq, fits_record_iff hF.nodup_fieldsOf, names_fieldsOf]
    constructor
    · rw [hF.encode_eq_object]
      exact ⟨rfl, hF.tidy_encode x⟩
    · refine List.forall_mem_map.mpr fun p hp => ?_
      rw [hF.slot?_encode x hp]
      exact RecordPart.fitsSlot_encode (hparts p hp) x
  decode_encode x := by
    -- two values of a record are equal if all their parts are
    refine hF.ext _ _ fun p hp => ?_
    rw [hF.get_decode _ p hp, hF.slot?_encode x hp, RecordPart.value_encode (hparts p hp)]

end Format.IsRecord

end Tablewright.Json
