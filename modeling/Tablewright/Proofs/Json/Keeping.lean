import Mathlib.Data.List.Forall2
import Mathlib.Data.List.Nodup
import Tablewright.Proofs.Dict
import Tablewright.Proofs.Json.Record

/-! # Documents in the place of others

A document may stand in the place of another if it has the same value, provided that the other one
has any (`Format.Keeps`). For a record this is a question of its fields: each of them must make the
same of what it is given (`RecordPart.Carries`). A field takes its default and nothing at all for the
same, and it takes a document for any other that may stand in its place.

* `Format.IsRecord.keeps`: a record may stand in the place of another if its fields may.
* `Restated.keeps`: a record may be put in many ways.
* `Format.IsRecord.keeps_member`, `Format.IsRecord.keeps_item`, `Format.Keeps.list`,
  `Format.Keeps.dict`: what may be done with a part of a document may be done inside it. -/

namespace Tablewright.Json

/-! ## Documents that stand for the same -/

/-- A document can stand in the place of another: it fits if that does, and has its value then. -/
structure Format.Keeps {α : Type} (F : Format α) (j j' : Json) : Prop where
  null_iff : j' = .null ↔ j = .null
  fits : Fits F.shape j → Fits F.shape j'
  decode_eq : Fits F.shape j → F.decode j' = F.decode j

namespace Format.Keeps

variable {α : Type} {F : Format α} {j j' j'' : Json}

theorem refl (F : Format α) (j : Json) : F.Keeps j j :=
  ⟨Iff.rfl, id, fun _ => rfl⟩

/-- Two rewritings in turn keep what is read. -/
theorem trans (h : F.Keeps j j') (h' : F.Keeps j' j'') : F.Keeps j j'' where
  null_iff := h'.null_iff.trans h.null_iff
  fits hj := h'.fits (h.fits hj)
  decode_eq hj := (h'.decode_eq (h.fits hj)).trans (h.decode_eq hj)

end Format.Keeps

namespace RecordPart

variable {α : Type} {p : RecordPart α}

/-- What a document holds for a field can stand in the place of what another one does. -/
structure Carries (p : RecordPart α) (slot slot' : Option Json) : Prop where
  fits : FitsSlot p.field slot → FitsSlot p.field slot'
  value_eq : FitsSlot p.field slot → p.value slot' = p.value slot

namespace Carries

theorem refl (p : RecordPart α) (slot : Option Json) : p.Carries slot slot :=
  ⟨id, fun _ => rfl⟩

/-- A field that holds its default may be left out. -/
theorem leaveOut {j : Json} (hj : p.IsDefault j) : p.Carries (some j) none := by
  cases p with
  | required format blank get => exact hj.elim
  | defaulted format otherwise get => exact ⟨fun _ => Presence.noConfusion, fun _ => hj.2.symm⟩
  | nullable format get =>
      obtain rfl : j = .null := hj
      exact ⟨fun _ => Presence.noConfusion, fun _ => rfl⟩

/-- The default of a field may be filled in where the field is left out. -/
theorem of_fills {slot : Option Json} {j : Json} (h : p.Fills slot j) : p.Carries slot (some j) := by
  obtain rfl | ⟨rfl, hj⟩ := h
  · exact refl p _
  cases p with
  | required format blank get => exact hj.elim
  | defaulted format otherwise get => exact ⟨fun _ => Or.inr hj.1, fun _ => hj.2⟩
  | nullable format get =>
      obtain rfl : j = .null := hj
      exact ⟨fun _ => Or.inl ⟨rfl, rfl⟩, fun _ => rfl⟩

end Carries

end RecordPart

/-- The value of a field may be put in another way. -/
theorem RecordPart.Carries.of_keeps {α : Type} {p : RecordPart α} {j j' : Json}
    (h : p.format.Keeps j j') : p.Carries (some j) (some j') := by
  by_cases hnull : j = .null
  · -- null is put as null only
    obtain rfl := hnull
    obtain rfl := h.null_iff.mpr rfl
    exact RecordPart.Carries.refl p _
  have hfits : FitsSlot p.field (some j) → Fits p.format.shape j :=
    fun hj => hj.resolve_left fun h => hnull h.2
  refine ⟨fun hj => Or.inr (h.fits (hfits hj)), fun hj => ?_⟩
  have hdecode : p.format.decode j' = p.format.decode j := h.decode_eq (hfits hj)
  cases p with
  | required format blank get => exact hdecode
  | defaulted format otherwise get => exact hdecode
  | nullable format get =>
      have hnull' : j' ≠ .null := fun h' => hnull (h.null_iff.mp h')
      have hvalue := (format.optionalAt_some hnull').trans (congrArg some hdecode)
      exact hvalue.trans (format.optionalAt_some hnull).symm

/-! ## Records that hold the same for every field -/

namespace Format.IsRecord

variable {α : Type} {F : Format α} {parts : List (String × RecordPart α)}

/-- **A record can stand in the place of another if what it holds for every field can.** -/
theorem keeps (hF : F.IsRecord parts) {j j' : Json} (hnull : j' = .null ↔ j = .null)
    (h : Orderly (parts.map (·.1)) j → Orderly (parts.map (·.1)) j' ∧
      ∀ p ∈ parts, p.2.Carries (slot? (fieldsOf parts) j p.1) (slot? (fieldsOf parts) j' p.1)) :
    F.Keeps j j' := by
  -- whether a document fits is a question of its fields, too
  have hfits : ∀ i, Fits F.shape i ↔ Orderly (parts.map (·.1)) i ∧
      ∀ p ∈ parts, FitsSlot p.2.field (slot? (fieldsOf parts) i p.1) := by
    intro i
    rw [hF.shape_eq, fits_record_iff hF.nodup_fieldsOf, names_fieldsOf]
    exact and_congr_right fun _ => List.forall_mem_map
  refine ⟨hnull, fun hj => ?_, fun hj => ?_⟩
  · obtain ⟨horder, hslots⟩ := (hfits j).mp hj
    exact (hfits j').mpr ⟨(h horder).1, fun p hp => ((h horder).2 p hp).fits (hslots p hp)⟩
  · obtain ⟨horder, hslots⟩ := (hfits j).mp hj
    exact hF.decode_eq fun p hp => ((h horder).2 p hp).value_eq (hslots p hp)

/-- Of the fields of a record only one has a certain name. -/
theorem eq_or_ne (hF : F.IsRecord parts) {k : String} {p : RecordPart α} (hp : (k, p) ∈ parts)
    {q : String × RecordPart α} (hq : q ∈ parts) : q = (k, p) ∨ q.1 ≠ k := by
  by_cases hqk : q.1 = k
  · exact Or.inl (List.inj_on_of_nodup_map hF.nodup hq hp hqk)
  · exact Or.inr hqk

/-! ### Records that are written as objects -/

/-- Members may change places. -/
theorem keeps_permute (hF : F.IsRecord parts) {members members' : List (Json × Json)}
    (hperm : members.Perm members') : F.Keeps (.object members none) (.object members' none) := by
  refine hF.keeps (by simp) fun ⟨_, htidy⟩ => ⟨⟨rfl, htidy.perm hperm⟩, fun p hp => ?_⟩
  rw [slot?_perm htidy hperm (List.mem_map_of_mem hp)]
  exact RecordPart.Carries.refl _ _

/-- What may be done to the first member may be done to any. -/
theorem keeps_of_front (hF : F.IsRecord parts) {m m' : Json × Json}
    {before behind : List (Json × Json)}
    (h : F.Keeps (.object (m :: (before ++ behind)) none) (.object (m' :: (before ++ behind)) none)) :
    F.Keeps (.object (before ++ m :: behind) none) (.object (before ++ m' :: behind) none) :=
  ((hF.keeps_permute List.perm_middle).trans h).trans (hF.keeps_permute List.perm_middle.symm)

/-- A member that is no field may come in. -/
theorem keeps_insert (hF : F.IsRecord parts) {k : String} (hk : k ∉ parts.map (·.1)) {v : Json}
    (hv : Whole v) (members : List (Json × Json)) :
    F.Keeps (.object members none) (.object ((ofText k, v) :: members) none) := by
  refine hF.keeps (by simp) fun ⟨_, htidy⟩ => ⟨⟨rfl, ?_⟩, fun p hp => ?_⟩
  · exact Tidy.cons_iff.mpr ⟨fun _ => hv.skipFault?_eq_none, fun h => absurd h hk, htidy⟩
  · have hne : p.1 ≠ k := fun h => hk (h ▸ List.mem_map_of_mem hp)
    rw [slot?_cons_of_ne hne]
    exact RecordPart.Carries.refl _ _

/-- A member may go if its field holds its default. -/
theorem keeps_delete (hF : F.IsRecord parts) {k : String} {p : RecordPart α} (hp : (k, p) ∈ parts)
    {v : Json} (hv : p.IsDefault v) (members : List (Json × Json)) :
    F.Keeps (.object ((ofText k, v) :: members) none) (.object members none) := by
  refine hF.keeps (by simp) fun ⟨_, htidy⟩ => ?_
  obtain ⟨-, hapart, htail⟩ := Tidy.cons_iff.mp htidy
  refine ⟨⟨rfl, htail⟩, fun q hq => ?_⟩
  rcases hF.eq_or_ne hp hq with rfl | hqk
  · rw [slot?_cons_self, slot?_eq_none_iff.mpr (hapart (List.mem_map_of_mem hp))]
    exact RecordPart.Carries.leaveOut hv
  · rw [slot?_cons_of_ne hqk]
    exact RecordPart.Carries.refl _ _

/-- A record is kept if a member of it is, the other members being as they were. -/
theorem keeps_member (hF : F.IsRecord parts) {k : String} {p : RecordPart α} (hp : (k, p) ∈ parts)
    {j j' : Json} (hj : p.format.Keeps j j') (members : List (Json × Json)) :
    F.Keeps (.object ((ofText k, j) :: members) none) (.object ((ofText k, j') :: members) none) := by
  refine hF.keeps (by simp) fun ⟨_, htidy⟩ => ?_
  obtain ⟨-, hapart, htail⟩ := Tidy.cons_iff.mp htidy
  have hk : k ∈ parts.map (·.1) := List.mem_map_of_mem hp
  refine ⟨⟨rfl, Tidy.cons_iff.mpr ⟨fun h => absurd hk h, hapart, htail⟩⟩, fun q hq => ?_⟩
  rcases hF.eq_or_ne hp hq with rfl | hqk
  · rw [slot?_cons_self, slot?_cons_self]
    exact RecordPart.Carries.of_keeps hj
  · rw [slot?_cons_of_ne hqk, slot?_cons_of_ne hqk]
    exact RecordPart.Carries.refl _ _

/-! ### Records that are written as arrays -/

/-- What an array holds for a field. -/
theorem slot?_items (hF : F.IsRecord parts) {i : Nat} {p : String × RecordPart α}
    (hp : parts[i]? = some p) (items : List Json) :
    slot? (fieldsOf parts) (.array items none) p.1 = items[i]? := by
  refine slot?_array hF.nodup_fieldsOf (f := (p.1, p.2.field)) ?_
  rw [fieldsOf, List.getElem?_map, hp, Option.map_some]

/-- All fields may be written out, one after the other. -/
theorem keeps_writeOut (hF : F.IsRecord parts) {j : Json} (hj : j ≠ .null) {items : List Json}
    (hitems : List.Forall₂ (fun p => p.2.Fills (slot? (fieldsOf parts) j p.1)) parts items) :
    F.Keeps j (.array items none) := by
  refine hF.keeps (iff_of_false (by simp) hj) fun _ => ⟨⟨rfl, ?_⟩, fun p hp => ?_⟩
  · exact Nat.le_of_eq (by rw [List.length_map, hitems.length_eq])
  · obtain ⟨i, hi, rfl⟩ := List.mem_iff_getElem.mp hp
    have hi' : i < items.length := hitems.length_eq ▸ hi
    rw [slot?_items hF (List.getElem?_eq_getElem hi), List.getElem?_eq_getElem hi']
    exact RecordPart.Carries.of_fills (hitems.get hi hi')

/-- A record that is written as an array is kept if an item of it is. -/
theorem keeps_item (hF : F.IsRecord parts) {k : String} {p : RecordPart α} {before : List Json}
    (hp : parts[before.length]? = some (k, p)) {j j' : Json} (hj : p.format.Keeps j j')
    (behind : List Json) :
    F.Keeps (.array (before ++ j :: behind) none) (.array (before ++ j' :: behind) none) := by
  refine hF.keeps (by simp) fun ⟨_, hlength⟩ => ⟨⟨rfl, by simpa using hlength⟩, fun q hq => ?_⟩
  obtain ⟨i, hi⟩ := List.mem_iff_getElem?.mp hq
  rw [slot?_items hF hi, slot?_items hF hi]
  -- in front of the item and behind it nothing changes
  rcases Nat.lt_trichotomy i before.length with hlt | rfl | hgt
  · rw [List.getElem?_append_left hlt, List.getElem?_append_left hlt]
    exact RecordPart.Carries.refl _ _
  · obtain rfl : (k, p) = q := Option.some.inj (hp.symm.trans hi)
    rw [List.getElem?_append_right (Nat.le_refl _), List.getElem?_append_right (Nat.le_refl _),
      Nat.sub_self, List.getElem?_cons_zero, List.getElem?_cons_zero]
    exact RecordPart.Carries.of_keeps hj
  · obtain ⟨n, rfl⟩ := Nat.exists_eq_add_of_lt hgt
    have hplace : before.length + n + 1 - before.length = n + 1 := by omega
    rw [List.getElem?_append_right (by omega), List.getElem?_append_right (by omega), hplace,
      List.getElem?_cons_succ, List.getElem?_cons_succ]
    exact RecordPart.Carries.refl _ _

end Format.IsRecord

/-- A record with these fields is put in another way. -/
inductive Restated {α : Type} (parts : List (String × RecordPart α)) : Json → Json → Prop
  /-- Members change places. -/
  | permute {members members' : List (Json × Json)} (hperm : members.Perm members') :
      Restated parts (.object members none) (.object members' none)
  /-- A member comes in that is no field. -/
  | insert {k : String} (hk : k ∉ parts.map (·.1)) {v : Json} (hv : Whole v)
      (before behind : List (Json × Json)) :
      Restated parts (.object (before ++ behind) none)
        (.object (before ++ (ofText k, v) :: behind) none)
  /-- A field that holds its default is left out. -/
  | delete {k : String} {p : RecordPart α} (hp : (k, p) ∈ parts) {v : Json} (hv : p.IsDefault v)
      (before behind : List (Json × Json)) :
      Restated parts (.object (before ++ (ofText k, v) :: behind) none)
        (.object (before ++ behind) none)
  /-- The record becomes the array of all its fields in their declared order. -/
  | writeOut {j : Json} (hj : j ≠ .null) {items : List Json}
      (hitems : List.Forall₂ (fun p => p.2.Fills (slot? (fieldsOf parts) j p.1)) parts items) :
      Restated parts j (.array items none)

/-- **A record may be put in many ways.** -/
theorem Restated.keeps {α : Type} {F : Format α} {parts : List (String × RecordPart α)}
    (hF : F.IsRecord parts) {j j' : Json} (h : Restated parts j j') : F.Keeps j j' := by
  cases h with
  | permute hperm => exact hF.keeps_permute hperm
  | insert hk hv before behind =>
      exact (hF.keeps_insert hk hv (before ++ behind)).trans
        (hF.keeps_permute List.perm_middle.symm)
  | delete hp hv before behind =>
      exact (hF.keeps_permute List.perm_middle).trans
        (hF.keeps_delete hp hv (before ++ behind))
  | writeOut hj hitems => exact hF.keeps_writeOut hj hitems

/-! ## Lists and dictionaries -/

/-- A list is kept if an item of it is. -/
theorem Format.Keeps.list {α : Type} {F : Format α} {j j' : Json} (hj : F.Keeps j j')
    (before behind : List Json) :
    (Format.list F).Keeps (.array (before ++ j :: behind) none)
      (.array (before ++ j' :: behind) none) := by
  have hfits : ∀ i, Fits (Format.list F).shape (.array (before ++ i :: behind) none) ↔
      (∀ l ∈ before, Fits F.shape l) ∧ Fits F.shape i ∧ ∀ l ∈ behind, Fits F.shape l := by
    intro i
    rw [Format.list, fits_list_iff, and_iff_right rfl, List.forall_mem_append,
      List.forall_mem_cons]
  refine ⟨by simp, fun h => ?_, fun h => ?_⟩
  · obtain ⟨hbefore, hfit, hbehind⟩ := (hfits j).mp h
    exact (hfits j').mpr ⟨hbefore, hj.fits hfit, hbehind⟩
  · obtain ⟨-, hfit, -⟩ := (hfits j).mp h
    show (before ++ j' :: behind).map F.decode = (before ++ j :: behind).map F.decode
    rw [List.map_append, List.map_append, List.map_cons, List.map_cons, hj.decode_eq hfit]

/-- A dictionary is kept if a value of it is. -/
theorem Format.Keeps.dict {α : Type} {F : Format α} {j j' : Json} (hj : F.Keeps j j') (k : Json)
    (before behind : List (Json × Json)) :
    (Format.dict F).Keeps (.object (before ++ (k, j) :: behind) none)
      (.object (before ++ (k, j') :: behind) none) := by
  have hfits : ∀ i, Fits (Format.dict F).shape (.object (before ++ (k, i) :: behind) none) ↔
      (∀ m ∈ before, (∃ l, m.1 = ofText l) ∧ Fits F.shape m.2) ∧
        ((∃ l, k = ofText l) ∧ Fits F.shape i) ∧
        ∀ m ∈ behind, (∃ l, m.1 = ofText l) ∧ Fits F.shape m.2 := by
    intro i
    rw [Format.dict, fits_dict_iff, and_iff_right rfl, List.forall_mem_append,
      List.forall_mem_cons]
  refine ⟨by simp, fun h => ?_, fun h => ?_⟩
  · obtain ⟨hbefore, ⟨hk, hfit⟩, hbehind⟩ := (hfits j).mp h
    exact (hfits j').mpr ⟨hbefore, ⟨hk, hj.fits hfit⟩, hbehind⟩
  · obtain ⟨-, ⟨-, hfit⟩, -⟩ := (hfits j).mp h
    show Dict.ofList ((before ++ (k, j') :: behind).map fun m => (m.1.text?.getD "", F.decode m.2)) =
      Dict.ofList ((before ++ (k, j) :: behind).map fun m => (m.1.text?.getD "", F.decode m.2))
    rw [List.map_append, List.map_append, List.map_cons, List.map_cons, hj.decode_eq hfit]

/-- The order of entries with different keys does not matter. -/
theorem Format.keeps_permuteEntries {α : Type} (F : Format α) {entries entries' : List (Json × Json)}
    (hperm : entries.Perm entries') (hkeys : (entries.map (·.1)).Nodup) :
    (Format.dict F).Keeps (.object entries none) (.object entries' none) := by
  refine ⟨by simp, fun h => ?_, fun h => ?_⟩
  · obtain ⟨-, hentries⟩ := fits_dict_iff.mp h
    exact fits_dict_iff.mpr ⟨rfl, fun m hm => hentries m (hperm.mem_iff.mpr hm)⟩
  · obtain ⟨-, hentries⟩ := fits_dict_iff.mp h
    have hnames : ((entries.map fun m => (m.1.text?.getD "", F.decode m.2)).map (·.1)).Nodup := by
      -- all keys are texts, so that different keys are different names
      rw [List.map_map]
      refine (hkeys.of_map _).map_on fun m hm n hn heq => ?_
      obtain ⟨⟨k, hk⟩, -⟩ := hentries m hm
      obtain ⟨⟨l, hl⟩, -⟩ := hentries n hn
      have hkl : k = l := by simpa [hk, hl] using heq
      exact List.inj_on_of_nodup_map hkeys hm hn (by rw [hk, hl, hkl])
    exact Dict.ofList_perm (hperm.map _) hnames

end Tablewright.Json
