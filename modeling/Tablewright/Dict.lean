/-! # Dictionaries in key order

A dictionary from strings is kept as the list of its entries in strictly ascending order of the
keys, so it has one form only: two dictionaries with the same entries are equal. Strings are ordered
by code points.

* `insert` adds an entry or replaces the one with its key, `erase` removes one;
* `ofList` inserts entries one after the other, so of several with one key the last counts;
* `get?` looks a key up. -/

namespace Tablewright

/-- A dictionary, its entries in ascending order of their keys. -/
structure Dict (α : Type) where
  entries : List (String × α)
  sorted : entries.Pairwise fun a b => a.1 < b.1
  deriving DecidableEq

namespace Dict

variable {α : Type}

/-- Dictionaries with the same entries are equal. -/
theorem ext_entries {d e : Dict α} (h : d.entries = e.entries) : d = e := by
  cases d
  cases e
  simpa using h

/-- The dictionary without entries. -/
def empty : Dict α := ⟨[], .nil⟩

instance : Inhabited (Dict α) := ⟨empty⟩

/-- The keys, in ascending order. -/
def keys (d : Dict α) : List String :=
  d.entries.map (·.1)

/-- The value at a key. -/
def get? (d : Dict α) (k : String) : Option α :=
  d.entries.lookup k

/-- Is there an entry with this key? -/
def contains (d : Dict α) (k : String) : Bool :=
  d.keys.contains k

/-- Put an entry into its place among ordered entries. -/
def insertEntry (k : String) (v : α) : List (String × α) → List (String × α)
  | [] => [(k, v)]
  | e :: es =>
    if k < e.1 then (k, v) :: e :: es
    else if k = e.1 then (k, v) :: es
    else e :: insertEntry k v es

/-- An entry after setting `k` is the one that was set or was there before. -/
theorem mem_insertEntry {k : String} {v : α} {es : List (String × α)} {e : String × α}
    (h : e ∈ insertEntry k v es) : e = (k, v) ∨ e ∈ es := by
  induction es with
  | nil => simpa [insertEntry] using h
  | cons a es ih =>
    simp only [insertEntry] at h
    split at h
    · simpa using h
    · split at h
      · rcases List.mem_cons.mp h with h | h
        · exact .inl h
        · exact .inr (List.mem_cons_of_mem _ h)
      · rcases List.mem_cons.mp h with rfl | h
        · exact .inr List.mem_cons_self
        · rcases ih h with h | h
          · exact .inl h
          · exact .inr (List.mem_cons_of_mem _ h)

/-- Setting an entry keeps the keys in strict order. -/
theorem pairwise_insertEntry (k : String) (v : α) {es : List (String × α)}
    (h : es.Pairwise fun a b => a.1 < b.1) :
    (insertEntry k v es).Pairwise fun a b => a.1 < b.1 := by
  induction es with
  | nil => simp [insertEntry]
  | cons a es ih =>
    obtain ⟨ha, hes⟩ := List.pairwise_cons.mp h
    simp only [insertEntry]
    split
    case isTrue hka =>
      refine List.pairwise_cons.mpr ⟨fun b hb => ?_, h⟩
      rcases List.mem_cons.mp hb with rfl | hb
      · exact hka
      · exact String.lt_trans hka (ha b hb)
    case isFalse hka =>
      split
      case isTrue hk =>
        subst hk
        exact List.pairwise_cons.mpr ⟨fun b hb => ha b hb, hes⟩
      case isFalse hk =>
        refine List.pairwise_cons.mpr ⟨fun b hb => ?_, ih hes⟩
        rcases mem_insertEntry hb with rfl | hb
        · exact Std.lt_of_le_of_ne (String.not_lt.mp hka) (Ne.symm hk)
        · exact ha b hb

/-- Add an entry, or replace the one with its key. -/
def insert (d : Dict α) (k : String) (v : α) : Dict α where
  entries := insertEntry k v d.entries
  sorted := pairwise_insertEntry k v d.sorted

/-- Remove the entry with a key. -/
def erase (d : Dict α) (k : String) : Dict α where
  entries := d.entries.filter fun e => e.1 != k
  sorted := d.sorted.filter _

/-- Insert entries one after the other. -/
def insertAll (d : Dict α) (es : List (String × α)) : Dict α :=
  es.foldl (fun d e => d.insert e.1 e.2) d

/-- The dictionary of a list of entries. -/
def ofList (es : List (String × α)) : Dict α :=
  empty.insertAll es

end Dict

end Tablewright
