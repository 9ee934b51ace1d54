import Tablewright.Json.Format
import Tablewright.Proofs.Lists

/-! # When a document fits a shape

`fault?` looks for the first thing that is wrong, member by member. That nothing is wrong does not
depend on the way through the document: a record fits exactly if its members are in order
(`Tidy`: every key is a text, no field occurs twice, and what is no field can be skipped) and what it
holds for each field suits the field (`FitsSlot`). It is the same for a record that is written as an
array, as long as it is not longer than the fields are.

* `Whole.skipFault?_eq_none`: any JSON value can be skipped.
* `fits_record_iff`: when a record fits.
* `slot?_eq_some_iff`: what a record holds for a field is the value of the one member with its name. -/

namespace Tablewright.Json

/-- Nothing in the document is wrong for the shape. -/
def Fits (shape : Shape) (j : Json) : Prop :=
  fault? shape j = none

/-- A text has a value if the document that it is fits, and nothing follows. -/
theorem Format.read_eq_ok_iff {α : Type} {F : Format α} {text : String} {j : Json}
    (htext : Json.read text = (j, false)) {x : α} :
    F.read text = .ok x ↔ Fits F.shape j ∧ F.decode j = x := by
  rw [Format.read, htext]
  cases hfault : fault? F.shape j <;> simp [Fits, hfault]

/-- What a record holds for a field suits the field. -/
def FitsSlot (field : Presence × Shape) : Option Json → Prop
  | none => field.1 ≠ .required
  | some j => field.1 = .nullable ∧ j = .null ∨ Fits field.2 j

/-- The members of an object are in order, apart from the values of the fields with these names. -/
structure Tidy (names : List String) (members : List (Json × Json)) : Prop where
  texts : ∀ m ∈ members, ∃ k, m.1 = ofText k
  skipped : ∀ m ∈ members, ∀ k ∉ names, m.1 = ofText k → skipFault? m.2 = none
  once : members.Pairwise fun m n => ∀ k ∈ names, m.1 = ofText k → n.1 ≠ ofText k

/-! ## Values that are skipped -/

/-- A quoted text that could be read to its end. Half of a surrogate pair is JSON, though no text. -/
def Str.Whole : Str → Prop
  | text _ => True
  | unpaired after => after = none
  | broken _ => False

/-- Any JSON value that could be read to its end. -/
inductive Whole : Json → Prop
  | null : Whole .null
  | bool (b : Bool) : Whole (.bool b)
  | number (lexeme : String) : Whole (.number lexeme)
  | string {s : Str} (hs : s.Whole) : Whole (.string s)
  | array {items : List Json} (hitems : ∀ j ∈ items, Whole j) : Whole (.array items none)
  | object {members : List (Str × Json)} (hkeys : ∀ m ∈ members, m.1.Whole)
      (hvalues : ∀ m ∈ members, Whole m.2) :
      Whole (.object (members.map fun m => (.string m.1, m.2)) none)

/-- A quoted text that could be read to its end may be skipped. -/
theorem Str.Whole.skipFault?_eq_none {s : Str} (hs : s.Whole) : s.skipFault? = none := by
  cases s with
  | text _ => rfl
  | unpaired after => exact hs
  | broken f => exact hs.elim

/-- Items may be skipped if each of them may. -/
theorem skipItems_eq_none {items : List Json} (h : ∀ j ∈ items, skipFault? j = none) :
    skipItems items = none := by
  induction items with
  | nil => rw [skipItems]
  | cons j items ih =>
      obtain ⟨hj, hitems⟩ := List.forall_mem_cons.mp h
      rw [skipItems, hj, ih hitems, Option.or_none]

/-- Members may be skipped if their keys could be read and their values may be skipped. -/
theorem skipMembers_eq_none {members : List (Str × Json)} (hkeys : ∀ m ∈ members, m.1.Whole)
    (hvalues : ∀ m ∈ members, skipFault? m.2 = none) :
    skipMembers (members.map fun m => (.string m.1, m.2)) = none := by
  induction members with
  | nil => rw [List.map_nil, skipMembers]
  | cons m members ih =>
      obtain ⟨hk, hkeys⟩ := List.forall_mem_cons.mp hkeys
      obtain ⟨hv, hvalues⟩ := List.forall_mem_cons.mp hvalues
      rw [List.map_cons, skipMembers, skipKey, hk.skipFault?_eq_none, hv, ih hkeys hvalues,
        Option.or_none, Option.or_none]

/-- **Any JSON value can be skipped.** -/
theorem Whole.skipFault?_eq_none {j : Json} (hj : Whole j) : skipFault? j = none := by
  induction hj with
  | null => rw [skipFault?]
  | bool b => rw [skipFault?]
  | number lexeme => rw [skipFault?]
  | string hs => rw [skipFault?, hs.skipFault?_eq_none]
  | array hitems ih => rw [skipFault?, skipItems_eq_none ih, Option.or_none]
  | object hkeys hvalues ih => rw [skipFault?, skipMembers_eq_none hkeys ih, Option.or_none]

/-! ## Keys and nulls -/

/-- A text is read from its document. -/
@[simp] theorem text?_ofText (k : String) : (ofText k).text? = some k := rfl

/-- Only the document of a text gives this text. -/
theorem text?_eq_some_iff {j : Json} {k : String} : j.text? = some k ↔ j = ofText k := by
  constructor
  · intro h
    rw [text?.eq_def] at h
    split at h
    · rw [Option.some.inj h, ofText]
    · contradiction
  · rintro rfl
    rfl

/-- Different texts are different documents. -/
theorem ofText_inj {k l : String} : ofText k = ofText l ↔ k = l := by
  rw [← text?_eq_some_iff, text?_ofText, Option.some_inj]

/-- A key is in order if it is a text. -/
theorem keyFault?_eq_none_iff {j : Json} : keyFault? j = none ↔ ∃ k, j = ofText k := by
  constructor
  · intro h
    rw [keyFault?.eq_def] at h
    split at h
    · exact ⟨_, rfl⟩
    all_goals contradiction
  · rintro ⟨k, rfl⟩
    rfl

/-- What cannot be read to its end fits no shape. -/
theorem not_fits_broken (shape : Shape) (c : Char) (f : Fault) : ¬ Fits shape (.broken c f) := by
  intro h
  rw [Fits, fault?] at h
  · cases shape <;> simp [scalarFault?] at h
  · exact fun _ _ => Json.noConfusion
  · exact fun _ _ => Json.noConfusion

/-- A field is content with a value exactly if the value suits it. -/
theorem getD_nullVerdict?_eq_none_iff {presence : Presence} {shape : Shape} {j : Json} :
    (nullVerdict? presence j).getD (fault? shape j) = none ↔
      FitsSlot (presence, shape) (some j) := by
  rw [nullVerdict?.eq_def]
  split
  case h_1 => exact iff_of_true rfl (Or.inl ⟨rfl, rfl⟩)
  case h_2 f =>
    refine iff_of_false (by simp) ?_
    rintro (⟨-, h⟩ | h)
    · contradiction
    · exact not_fits_broken _ _ _ h
  case h_3 hnull _ =>
    rw [Option.getD_none]
    refine ⟨Or.inr, ?_⟩
    rintro (⟨rfl, rfl⟩ | h)
    · exact absurd rfl (hnull rfl)
    · exact h

/-! ## Lists and dictionaries -/

/-- A list fits if it could be read to its end and all its items fit. -/
theorem fits_list_iff {item : Shape} {items : List Json} {fault : Option Fault} :
    Fits (.list item) (.array items fault) ↔ fault = none ∧ ∀ j ∈ items, Fits item j := by
  have hitems : itemsFault? item items = none ↔ ∀ j ∈ items, Fits item j := by
    induction items with
    | nil => simp [itemsFault?]
    | cons j items ih => rw [itemsFault?, Option.or_eq_none_iff, ih, List.forall_mem_cons, Fits]
  rw [Fits, fault?, Option.or_eq_none_iff, hitems, and_comm]

/-- A dictionary fits if it could be read to its end, its keys are texts and all its values fit. -/
theorem fits_dict_iff {value : Shape} {members : List (Json × Json)} {fault : Option Fault} :
    Fits (.dict value) (.object members fault) ↔
      fault = none ∧ ∀ m ∈ members, (∃ k, m.1 = ofText k) ∧ Fits value m.2 := by
  have hmembers : entriesFault? value members = none ↔
      ∀ m ∈ members, (∃ k, m.1 = ofText k) ∧ Fits value m.2 := by
    induction members with
    | nil => simp [entriesFault?]
    | cons m members ih =>
        rw [entriesFault?, Option.or_eq_none_iff, Option.or_eq_none_iff, ih,
          keyFault?_eq_none_iff, List.forall_mem_cons, Fits, and_assoc]
  rw [Fits, fault?, Option.or_eq_none_iff, hmembers, and_comm]

/-! ## Members -/

namespace Tidy

variable {names : List String}

/-- No members are in order. -/
theorem nil : Tidy names [] :=
  ⟨fun _ h => absurd h List.not_mem_nil, fun _ h => absurd h List.not_mem_nil, .nil⟩

/-- One more member is in order if it may be skipped or is the first one of its field. -/
theorem cons_iff {k : String} {v : Json} {members : List (Json × Json)} :
    Tidy names ((ofText k, v) :: members) ↔
      (k ∉ names → skipFault? v = none) ∧ (k ∈ names → ∀ m ∈ members, m.1 ≠ ofText k) ∧
        Tidy names members := by
  constructor
  · rintro ⟨htexts, hskipped, honce⟩
    obtain ⟨hhead, htail⟩ := List.pairwise_cons.mp honce
    refine ⟨fun hk => hskipped _ List.mem_cons_self k hk rfl, fun hk m hm => hhead m hm k hk rfl, ?_⟩
    exact ⟨fun m hm => htexts m (List.mem_cons_of_mem _ hm),
      fun m hm => hskipped m (List.mem_cons_of_mem _ hm), htail⟩
  · rintro ⟨hskip, hapart, htexts, hskipped, honce⟩
    refine ⟨List.forall_mem_cons.mpr ⟨⟨k, rfl⟩, htexts⟩, ?_, List.pairwise_cons.mpr ⟨?_, honce⟩⟩
    · refine List.forall_mem_cons.mpr ⟨?_, hskipped⟩
      intro l hl heq
      exact hskip (ofText_inj.mp heq ▸ hl)
    · intro m hm l hl heq
      exact ofText_inj.mp heq ▸ hapart (ofText_inj.mp heq ▸ hl) m hm

/-- The order of the members does not matter. -/
theorem perm {members members' : List (Json × Json)} (h : Tidy names members)
    (hperm : members.Perm members') : Tidy names members' where
  texts m hm := h.texts m (hperm.mem_iff.mpr hm)
  skipped m hm := h.skipped m (hperm.mem_iff.mpr hm)
  once := h.once.perm hperm fun hmn k hk hn hm => hmn k hk hm hn

end Tidy

section Slots

variable {fields : List (String × Presence × Shape)} {fault : Option Fault}

/-- The first member of a key is what a record holds for it. -/
@[simp] theorem slot?_cons_self (k : String) (v : Json) (members : List (Json × Json)) :
    slot? fields (.object ((ofText k, v) :: members) fault) k = some v := by
  simp [slot?]

/-- A member of another key is passed over. -/
theorem slot?_cons_of_ne {k l : String} (h : l ≠ k) (v : Json) (members : List (Json × Json)) :
    slot? fields (.object ((ofText k, v) :: members) fault) l =
      slot? fields (.object members fault) l := by
  have hkey : ((ofText k).text? == some l) = false := by
    rw [text?_ofText, beq_eq_false_iff_ne, ne_eq, Option.some_inj]
    exact h.symm
  rw [slot?, slot?, List.find?_cons, hkey]

/-- A record holds nothing for a key that no member has. -/
theorem slot?_eq_none_iff {k : String} {members : List (Json × Json)} :
    slot? fields (.object members fault) k = none ↔ ∀ m ∈ members, m.1 ≠ ofText k := by
  simp [slot?, text?_eq_some_iff]

/-- **What a record holds for a field is the value of the one member with its name.** -/
theorem slot?_eq_some_iff {names : List String} {members : List (Json × Json)}
    (hmembers : Tidy names members) {k : String} (hk : k ∈ names) {v : Json} :
    slot? fields (.object members fault) k = some v ↔ (ofText k, v) ∈ members := by
  induction members with
  | nil => simp [slot?]
  | cons m members ih =>
      obtain ⟨l, hl⟩ := hmembers.texts m List.mem_cons_self
      obtain ⟨key, u⟩ := m
      obtain rfl : key = ofText l := hl
      obtain ⟨-, hapart, htail⟩ := Tidy.cons_iff.mp hmembers
      rw [List.mem_cons, Prod.mk.injEq, ofText_inj]
      by_cases hkl : k = l
      · -- behind the member with this name there is none
        subst hkl
        rw [slot?_cons_self, Option.some_inj]
        constructor
        · rintro rfl
          exact Or.inl ⟨rfl, rfl⟩
        · rintro (⟨-, rfl⟩ | hmem)
          · rfl
          · exact absurd rfl (hapart hk _ hmem)
      · rw [slot?_cons_of_ne hkl, ih htail]
        exact (or_iff_right fun h => hkl h.1).symm

/-- What a record holds for its fields does not depend on the order of its members. -/
theorem slot?_perm {names : List String} {members members' : List (Json × Json)}
    (hmembers : Tidy names members) (hperm : members.Perm members') {k : String} (hk : k ∈ names) :
    slot? fields (.object members' fault) k = slot? fields (.object members fault) k := by
  ext v
  rw [slot?_eq_some_iff (hmembers.perm hperm) hk, slot?_eq_some_iff hmembers hk, hperm.mem_iff]

/-! ## Records -/

/-- No field is missed if none of those that are left is required. -/
theorem missing_eq_none_iff {left : List (String × Presence × Shape)} :
    (if anyRequired left then some Fault.mistyped else none) = none ↔
      ∀ f ∈ left, FitsSlot f.2 none := by
  simp only [ite_eq_right_iff, reduceCtorEq, imp_false, anyRequired, List.any_eq_true, beq_iff_eq,
    not_exists, not_and, FitsSlot, ne_eq]

/-- A member that is no field only has to be one that may be skipped. -/
theorem membersFault?_other {seen : List String} {k : String} (hk : fields.lookup k = none)
    (v : Json) (members : List (Json × Json)) :
    membersFault? fields seen fault ((ofText k, v) :: members) = none ↔
      skipFault? v = none ∧ membersFault? fields seen fault members = none := by
  have hkey : keyFault? (ofText k) = none := keyFault?_eq_none_iff.mpr ⟨k, rfl⟩
  rw [membersFault?, hkey, Option.none_or, text?_ofText]
  simp only [hk, Option.or_eq_none_iff]

/-- A member that is a field may not come twice, and its value has to suit the field. -/
theorem membersFault?_field {seen : List String} {k : String} {f : Presence × Shape}
    (hk : fields.lookup k = some f) (v : Json) (members : List (Json × Json)) :
    membersFault? fields seen fault ((ofText k, v) :: members) = none ↔
      k ∉ seen ∧ FitsSlot f (some v) ∧ membersFault? fields (k :: seen) fault members = none := by
  have hkey : keyFault? (ofText k) = none := keyFault?_eq_none_iff.mpr ⟨k, rfl⟩
  rw [membersFault?, hkey, Option.none_or, text?_ofText]
  simp only [hk, List.contains_eq_mem, decide_eq_true_eq]
  by_cases hseen : k ∈ seen
  · rw [if_pos hseen]
    exact iff_of_false (by simp) fun h => h.1 hseen
  · rw [if_neg hseen, Option.or_eq_none_iff, getD_nullVerdict?_eq_none_iff]
    exact (and_iff_right hseen).symm

/-- Members of a record that come behind the fields in `seen`. -/
structure FitsBehind (fields : List (String × Presence × Shape)) (seen : List String)
    (members : List (Json × Json)) : Prop where
  tidy : Tidy (fields.map (·.1)) members
  unseen : ∀ k ∈ fields.map (·.1), k ∈ seen → ∀ m ∈ members, m.1 ≠ ofText k
  slots : ∀ f ∈ fields, f.1 ∉ seen → FitsSlot f.2 (slot? fields (.object members none) f.1)

/-- A member that is no field changes nothing for the fields. -/
theorem fitsBehind_cons_other {seen : List String} {k : String} (hk : k ∉ fields.map (·.1))
    {v : Json} {members : List (Json × Json)} :
    FitsBehind fields seen ((ofText k, v) :: members) ↔
      skipFault? v = none ∧ FitsBehind fields seen members := by
  -- a member that no field asks for is skipped, and every slot stays as it was
  have hne : ∀ f ∈ fields, f.1 ≠ k := fun f hf h => hk (h ▸ List.mem_map_of_mem hf)
  constructor
  · rintro ⟨htidy, hunseen, hslots⟩
    obtain ⟨hskip, -, htail⟩ := Tidy.cons_iff.mp htidy
    refine ⟨hskip hk, htail, ?_, ?_⟩
    · exact fun l hl hseen m hm => hunseen l hl hseen m (List.mem_cons_of_mem _ hm)
    · intro f hf hseen
      rw [← slot?_cons_of_ne (hne f hf) v]
      exact hslots f hf hseen
  · rintro ⟨hskip, htail, hunseen, hslots⟩
    refine ⟨Tidy.cons_iff.mpr ⟨fun _ => hskip, fun h => absurd h hk, htail⟩, ?_, ?_⟩
    · intro l hl hseen
      refine List.forall_mem_cons.mpr ⟨?_, hunseen l hl hseen⟩
      exact fun h => hk (ofText_inj.mp h ▸ hl)
    · intro f hf hseen
      rw [slot?_cons_of_ne (hne f hf)]
      exact hslots f hf hseen

/-- A member that is a field is held for it, and the field is seen from then on. -/
theorem fitsBehind_cons_field (hnodup : (fields.map (·.1)).Nodup) {seen : List String} {k : String}
    {f : Presence × Shape} (hf : (k, f) ∈ fields) {v : Json} {members : List (Json × Json)} :
    FitsBehind fields seen ((ofText k, v) :: members) ↔
      k ∉ seen ∧ FitsSlot f (some v) ∧ FitsBehind fields (k :: seen) members := by
  have hk : k ∈ fields.map (·.1) := List.mem_map_of_mem hf
  constructor
  · rintro ⟨htidy, hunseen, hslots⟩
    obtain ⟨-, hapart, htail⟩ := Tidy.cons_iff.mp htidy
    have hseen : k ∉ seen := fun h => hunseen k hk h _ List.mem_cons_self rfl
    have hslot := hslots (k, f) hf hseen
    rw [slot?_cons_self] at hslot
    refine ⟨hseen, hslot, htail, ?_, ?_⟩
    · intro l hl hlseen
      rcases List.mem_cons.mp hlseen with rfl | hlseen
      · exact hapart hk
      · exact fun m hm => hunseen l hl hlseen m (List.mem_cons_of_mem _ hm)
    · intro g hg hgseen
      obtain ⟨hgk, hgseen⟩ := List.ne_and_not_mem_of_not_mem_cons hgseen
      rw [← slot?_cons_of_ne hgk v]
      exact hslots g hg hgseen
  · rintro ⟨hseen, hslot, htail, hunseen, hslots⟩
    refine ⟨Tidy.cons_iff.mpr ⟨fun h => absurd hk h, fun _ => hunseen k hk List.mem_cons_self,
      htail⟩, ?_, ?_⟩
    · intro l hl hlseen
      refine List.forall_mem_cons.mpr ⟨?_, hunseen l hl (List.mem_cons_of_mem _ hlseen)⟩
      exact fun h => hseen (ofText_inj.mp h ▸ hlseen)
    · intro g hg hgseen
      by_cases hgk : g.1 = k
      · -- no other field has the name of the member
        have hgf : some g.2 = some f := by
          rw [← (mem_iff_lookup_eq_some hnodup).mp hf, ← hgk]
          exact ((mem_iff_lookup_eq_some hnodup).mp hg).symm
        rw [hgk, slot?_cons_self, Option.some.inj hgf]
        exact hslot
      · rw [slot?_cons_of_ne hgk]
        exact hslots g hg (List.not_mem_cons_of_ne_of_not_mem hgk hgseen)

/-- Going through the members finds no fault exactly if they are those of a fitting record. -/
theorem membersFault?_eq_none_iff (hnodup : (fields.map (·.1)).Nodup) {seen : List String}
    {members : List (Json × Json)} :
    membersFault? fields seen fault members = none ↔
      fault = none ∧ FitsBehind fields seen members := by
  -- each field that is read is seen by the members behind it, so `seen` grows along the list
  induction members generalizing seen with
  | nil =>
      have hleft : FitsBehind fields seen [] ↔ ∀ f ∈ fields, f.1 ∉ seen → FitsSlot f.2 none :=
        ⟨fun h => h.slots, fun h => ⟨Tidy.nil, by simp, h⟩⟩
      rw [membersFault?, Option.or_eq_none_iff, missing_eq_none_iff, hleft]
      simp
  | cons m members ih =>
      obtain ⟨key, v⟩ := m
      by_cases hkey : ∃ k, key = ofText k
      case neg =>
        -- such a member is a fault, and tidy members have texts for keys
        refine iff_of_false ?_ fun h => hkey (h.2.tidy.texts _ List.mem_cons_self)
        rw [membersFault?, Option.or_eq_none_iff, keyFault?_eq_none_iff]
        exact fun h => hkey h.1
      obtain ⟨k, rfl⟩ := hkey
      cases hlookup : fields.lookup k with
      | none =>
          have hk : k ∉ fields.map (·.1) := by
            intro hmem
            obtain ⟨f, hf, rfl⟩ := List.mem_map.mp hmem
            have hfound : fields.lookup f.1 = some f.2 := (mem_iff_lookup_eq_some hnodup).mp hf
            rw [hlookup] at hfound
            contradiction
          rw [membersFault?_other hlookup, ih, fitsBehind_cons_other hk]
          exact and_left_comm
      | some f =>
          have hf : (k, f) ∈ fields := (mem_iff_lookup_eq_some hnodup).mpr hlookup
          rw [membersFault?_field hlookup, ih, fitsBehind_cons_field hnodup hf]
          exact (and_congr_right fun _ => and_left_comm).trans and_left_comm

/-- An object fits a record if its members are in order and suit the fields. -/
theorem fits_object_iff (hnodup : (fields.map (·.1)).Nodup) {members : List (Json × Json)} :
    Fits (.record fields) (.object members fault) ↔
      (fault = none ∧ Tidy (fields.map (·.1)) members) ∧
        ∀ f ∈ fields, FitsSlot f.2 (slot? fields (.object members fault) f.1) := by
  rw [Fits, fault?, membersFault?_eq_none_iff hnodup, and_assoc]
  refine and_congr_right fun _ => ⟨fun h => ⟨h.tidy, fun f hf => h.slots f hf List.not_mem_nil⟩, ?_⟩
  exact fun h => ⟨h.1, fun _ _ hseen => absurd hseen List.not_mem_nil, fun f hf _ => h.2 f hf⟩

/-! ## Records that are written as arrays -/

/-- Going through the items of an array finds no fault exactly if they suit the fields one by one. -/
theorem fieldsFault?_eq_none_iff {items : List Json} :
    fieldsFault? fields fault items = none ↔
      fault = none ∧ items.length ≤ fields.length ∧
        ∀ (i : Nat) (f : String × Presence × Shape), fields[i]? = some f →
          FitsSlot f.2 items[i]? := by
  -- every item uses up a field, so the fields get fewer with the items
  induction items generalizing fields with
  | nil =>
      rw [fieldsFault?, Option.or_eq_none_iff, missing_eq_none_iff]
      refine and_congr_right fun _ => ⟨fun h => ⟨Nat.zero_le _, fun i f hi => ?_⟩, fun h f hf => ?_⟩
      · exact h f (List.mem_of_getElem? hi)
      · obtain ⟨i, hi⟩ := List.mem_iff_getElem?.mp hf
        exact h.2 i f hi
  | cons j items ih =>
      cases fields with
      | nil => simp [fieldsFault?]
      | cons f fields =>
          obtain ⟨name, presence, shape⟩ := f
          rw [fieldsFault?, Option.or_eq_none_iff, getD_nullVerdict?_eq_none_iff, ih,
            List.length_cons, List.length_cons, Nat.add_le_add_iff_right]
          constructor
          · rintro ⟨hj, hfault, hlength, hitems⟩
            refine ⟨hfault, hlength, fun i f hi => ?_⟩
            cases i with
            | zero => exact Option.some.inj hi ▸ hj
            | succ i => exact hitems i f hi
          · rintro ⟨hfault, hlength, hitems⟩
            exact ⟨hitems 0 _ rfl, hfault, hlength, fun i f hi => hitems (i + 1) f hi⟩

/-- What an array holds for a field stands where the field does. -/
theorem slot?_array (hnodup : (fields.map (·.1)).Nodup) {items : List Json} {i : Nat}
    {f : String × Presence × Shape} (hf : fields[i]? = some f) :
    slot? fields (.array items fault) f.1 = items[i]? := by
  obtain ⟨hi, rfl⟩ := List.getElem?_eq_some_iff.mp hf
  have hplace := hnodup.idxOf_getElem i (by rwa [List.length_map])
  rw [List.getElem_map] at hplace
  rw [slot?, hplace]

/-- An array fits a record if it is no longer than that and its items suit the fields. -/
theorem fits_array_iff (hnodup : (fields.map (·.1)).Nodup) {items : List Json} :
    Fits (.record fields) (.array items fault) ↔
      (fault = none ∧ items.length ≤ (fields.map (·.1)).length) ∧
        ∀ f ∈ fields, FitsSlot f.2 (slot? fields (.array items fault) f.1) := by
  rw [Fits, fault?, fieldsFault?_eq_none_iff, List.length_map, and_assoc]
  refine and_congr_right fun _ => and_congr_right fun _ => ⟨fun h f hf => ?_, fun h i f hi => ?_⟩
  · obtain ⟨i, hi⟩ := List.mem_iff_getElem?.mp hf
    rw [slot?_array hnodup hi]
    exact h i f hi
  · rw [← slot?_array hnodup hi]
    exact h f (List.mem_of_getElem? hi)

/-- The document is in order for a record with these fields, apart from their values. -/
def Orderly (names : List String) : Json → Prop
  | .object members fault => fault = none ∧ Tidy names members
  | .array items fault => fault = none ∧ items.length ≤ names.length
  | _ => False

/-- **A record fits if it is in order and holds for each field what suits the field.** -/
theorem fits_record_iff (hnodup : (fields.map (·.1)).Nodup) {j : Json} :
    Fits (.record fields) j ↔
      Orderly (fields.map (·.1)) j ∧ ∀ f ∈ fields, FitsSlot f.2 (slot? fields j f.1) := by
  cases j with
  | object members fault => exact fits_object_iff hnodup
  | array items fault => exact fits_array_iff hnodup
  | _ => exact iff_of_false (by simp [Fits, fault?, scalarFault?]) fun h => h.1

end Slots

end Tablewright.Json
