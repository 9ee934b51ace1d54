import Tablewright.Proofs.Lists
import Tablewright.Proofs.Pattern.Bounds
import Tablewright.Proofs.Pattern.Library
import Tablewright.Proofs.Pattern.Search
import Tablewright.Proofs.Pattern.Weight

/-! # The engine as a library

The engine refuses patterns that cannot be read and patterns that are too heavy together. Of a text it
reports the patterns whose expressions are found in it, each on its own, so it is a library to rely on.

A pattern matches a text in full if its expression reads the text from the start to the end. A search
does not ask for that, but an expression that is bound to both ends of the text is found exactly in the texts
that it reads in full (`Regex.foundIn_bound`). A wrapped pattern is one more text to be read, and what
becomes of the pattern within is up to the reader.

* `Regex.readAll_eq_ok_iff`: patterns are taken together if each can be read and all of them fit.
* `fits_of_mem`: what fits together with others fits on its own.
* `lawfulLibrary_engine`: what the engine reports.
* `wraps_of_read`: a pattern that is read the same within its wrapping keeps its meaning. -/

namespace Tablewright.Pattern

/-! ## Patterns that compile -/

/-- Patterns have expressions if each of them can be read and they are light enough together. -/
theorem Regex.readAll_eq_ok_iff {patterns : List String} {rs : List Regex} :
    Regex.readAll patterns = .ok rs ↔
      ∃ ts, patterns.mapM Term.read = .ok ts ∧ fits ts = true ∧ rs = ts.map Term.regex := by
  rw [Regex.readAll, bind_eq_ok_iff]
  refine exists_congr fun ts => and_congr_right fun _ => ?_
  cases hfits : fits ts with
  | true => exact ⟨fun h => ⟨rfl, (Except.ok.inj h).symm⟩, fun ⟨_, h⟩ => congrArg _ h.symm⟩
  | false => exact ⟨fun h => by contradiction, fun ⟨h, _⟩ => by contradiction⟩

/-- The engine refuses what has no expressions, in the words of the refusal. -/
theorem compile_eq_error {patterns : List String} {e : Refusal}
    (h : Regex.readAll patterns = .error e) : Library.compile patterns = .error ⟨e.message⟩ := by
  simp only [Library.compile, h]

/-- The engine reports the places of the expressions that are found. -/
theorem compile_eq_ok {patterns : List String} {rs : List Regex}
    (h : Regex.readAll patterns = .ok rs) : Library.compile patterns = .ok (Regex.places rs) := by
  simp only [Library.compile, h]

/-- The engine takes the patterns that have expressions, and no others. -/
theorem compile_eq_ok_iff {patterns : List String} {found : List Char → List Nat} :
    Library.compile patterns = .ok found ↔
      ∃ rs, Regex.readAll patterns = .ok rs ∧ found = Regex.places rs := by
  cases hread : Regex.readAll patterns with
  | error e =>
      rw [compile_eq_error hread]
      simp
  | ok rs =>
      rw [compile_eq_ok hread]
      simp [eq_comm]

instance (pattern : String) : Decidable (Compiles pattern) :=
  inferInstanceAs (Decidable ((Library.compile [pattern]).isOk = true))

/-- A pattern compiles on its own if it can be read and is light enough. -/
theorem readAll_singleton_eq_ok_iff {pattern : String} {rs : List Regex} :
    Regex.readAll [pattern] = .ok rs ↔
      ∃ t, Term.read pattern = .ok t ∧ fits [t] = true ∧ rs = [t.regex] := by
  rw [Regex.readAll_eq_ok_iff]
  constructor
  · rintro ⟨ts, hts, hfits, rfl⟩
    obtain ⟨t, ts, ht, hnil, rfl⟩ := mapM_cons_eq_ok hts
    obtain rfl := Except.ok.inj hnil
    exact ⟨t, ht, hfits, rfl⟩
  · rintro ⟨t, ht, hfits, rfl⟩
    have hts : [pattern].mapM Term.read = .ok [t] := by
      rw [mapM_singleton, ht]
      rfl
    exact ⟨[t], hts, hfits, rfl⟩

/-- A pattern compiles exactly if it can be read and fits the limit. -/
theorem compiles_iff {pattern : String} :
    Compiles pattern ↔ ∃ t, Term.read pattern = .ok t ∧ fits [t] = true := by
  constructor
  · intro h
    obtain ⟨found, hfound⟩ := exists_eq_ok_of_isOk h
    obtain ⟨rs, hrs, -⟩ := compile_eq_ok_iff.mp hfound
    obtain ⟨t, ht, hfits, -⟩ := readAll_singleton_eq_ok_iff.mp hrs
    exact ⟨t, ht, hfits⟩
  · rintro ⟨t, ht, hfits⟩
    have hrs := readAll_singleton_eq_ok_iff.mpr ⟨t, ht, hfits, rfl⟩
    rw [Compiles, compile_eq_ok hrs]
    rfl

/-- The engine finds a pattern where it finds its expression. -/
theorem foundIn_iff {pattern : String} {text : List Char} :
    FoundIn pattern text ↔
      ∃ t, Term.read pattern = .ok t ∧ fits [t] = true ∧ t.regex.foundIn text = true := by
  have hplaces (r : Regex) : Regex.places [r] text ≠ [] ↔ r.foundIn text = true := by
    rw [Regex.places, List.zipIdx_singleton, ne_eq, List.map_eq_nil_iff]
    cases hfound : r.foundIn text <;> simp [hfound]
  constructor
  · rintro ⟨found, hfound, hne⟩
    obtain ⟨rs, hrs, rfl⟩ := compile_eq_ok_iff.mp hfound
    obtain ⟨t, ht, hfits, rfl⟩ := readAll_singleton_eq_ok_iff.mp hrs
    exact ⟨t, ht, hfits, (hplaces t.regex).mp hne⟩
  · rintro ⟨t, ht, hfits, hfound⟩
    have hrs := readAll_singleton_eq_ok_iff.mpr ⟨t, ht, hfits, rfl⟩
    exact ⟨_, compile_eq_ok hrs, (hplaces t.regex).mpr hfound⟩

/-- A light pattern compiles. -/
theorem compiles_of_isLight {pattern : String}
    (h : (Term.read pattern).toOption.any Term.isLight = true) : Compiles pattern := by
  obtain ⟨t, ht, hlight⟩ := (Option.any_eq_true _ _).mp h
  exact compiles_iff.mpr ⟨t, toOption_eq_some_iff.mp ht,
    fits_of_isLight (by simp) (List.forall_mem_singleton.mpr hlight)⟩

/-- An automaton for one piece is no heavier than one for several of which it is one. -/
theorem automatonWeight_singleton_le {dir : Direction} {p : Piece} {ps : List Piece} (h : p ∈ ps) :
    automatonWeight dir [p] ≤ automatonWeight dir ps := by
  have hstart : (if [p].all (Piece.isBound dir) then stateWeight
        else timesWeight true (stateWeight + listWeight 1) 0 none) ≤
      if ps.all (Piece.isBound dir) then stateWeight
        else timesWeight true (stateWeight + listWeight 1) 0 none := by
    by_cases hall : ps.all (Piece.isBound dir) = true
    · have hp : p.isBound dir = true := List.all_eq_true.mp hall p h
      simp [hall, hp]
    · rw [if_neg hall]
      split <;> decide
  have htotal : total ([p].map fun p => p.weight dir false + stateWeight) ≤
      total (ps.map fun p => p.weight dir false + stateWeight) := by
    rw [total_eq_sum, total_eq_sum, List.map_singleton, List.sum_singleton]
    exact List.le_sum_of_mem (List.mem_map_of_mem h)
  -- one piece needs no state in which to choose among several
  exact Nat.add_le_add (Nat.add_le_add hstart (Nat.zero_le _)) htotal

/-- **What fits together with others fits on its own.** -/
theorem fits_of_mem {t : Term} {ts : List Term} (h : t ∈ ts) (hfits : fits ts = true) :
    fits [t] = true := by
  have hpiece : t.piece ∈ ts.map Term.piece := List.mem_map_of_mem h
  rw [fits, Bool.and_eq_true, decide_eq_true_eq, decide_eq_true_eq] at hfits ⊢
  exact ⟨(automatonWeight_singleton_le hpiece).trans hfits.1,
    (automatonWeight_singleton_le hpiece).trans hfits.2⟩

/-! ## What the engine reports -/

/-- The places of expressions that are found, one by one. -/
theorem Regex.mem_places {rs : List Regex} {text : List Char} {place : Nat} :
    place ∈ Regex.places rs text ↔ ∃ r, rs[place]? = some r ∧ r.foundIn text = true := by
  simp [Regex.places, List.mem_zipIdx_iff_getElem?]

/-- **The engine is a library to rely on.** -/
instance lawfulLibrary_engine : LawfulLibrary where
  compiles {patterns found} h p hp := by
    obtain ⟨rs, hrs, -⟩ := compile_eq_ok_iff.mp h
    obtain ⟨ts, hts, hfits, -⟩ := Regex.readAll_eq_ok_iff.mp hrs
    obtain ⟨t, hmem, ht⟩ := exists_mem_and_eq_of_mapM_eq_ok hts hp
    exact compiles_iff.mpr ⟨t, ht, fits_of_mem hmem hfits⟩
  mem_iff {patterns found} h text place := by
    obtain ⟨rs, hrs, rfl⟩ := compile_eq_ok_iff.mp h
    obtain ⟨ts, hts, hfits, rfl⟩ := Regex.readAll_eq_ok_iff.mp hrs
    -- the term at a place is that of the pattern at this place
    have hplace : patterns[place]?.map Term.read = ts[place]?.map .ok := by
      rw [← List.getElem?_map, ← List.getElem?_map, mapM_eq_ok_iff.mp hts]
    rw [Regex.mem_places, List.getElem?_map]
    constructor
    · rintro ⟨r, hr, hfound⟩
      obtain ⟨t, ht, rfl⟩ := Option.map_eq_some_iff.mp hr
      rw [ht] at hplace
      obtain ⟨p, hp, hread⟩ := Option.map_eq_some_iff.mp hplace
      exact ⟨p, hp, foundIn_iff.mpr ⟨t, hread, fits_of_mem (List.mem_of_getElem? ht) hfits, hfound⟩⟩
    · rintro ⟨p, hp, hfound⟩
      obtain ⟨t, hread, -, hfound⟩ := foundIn_iff.mp hfound
      rw [hp, Option.map_some, hread] at hplace
      obtain ⟨t', ht, heq⟩ := Option.map_eq_some_iff.mp hplace.symm
      obtain rfl := Except.ok.inj heq
      exact ⟨t'.regex, congrArg _ ht, hfound⟩
  ascending {patterns found} h text := by
    obtain ⟨rs, -, rfl⟩ := compile_eq_ok_iff.mp h
    have hall : (rs.zipIdx.map Prod.snd).Pairwise (· < ·) := by
      rw [List.zipIdx_map_snd]
      exact List.pairwise_lt_range'
    exact hall.sublist (List.filter_sublist.map Prod.snd)

/-! ## Matches in full -/

/-- Does the pattern match the text from its start to its end? -/
def MatchesInFull (pattern : String) (text : List Char) : Prop :=
  ∃ t, Term.read pattern = .ok t ∧ t.regex.reads none text none

/-- The expression bound to both ends of the text. -/
def Regex.bound (r : Regex) : Regex :=
  .all [.place .textStart, r, .place .textEnd]

/-- **Bound to both ends of the text, an expression is found in what it reads in full.** -/
theorem Regex.foundIn_bound {r : Regex} (h : r.Ordered) {text : List Char} :
    r.bound.foundIn text = true ↔ r.reads none text none := by
  have hend : ((place .textEnd).andThen empty).Ordered := (ordered_andThen _ _).mpr ⟨trivial, trivial⟩
  show ((place .textStart).andThen (r.andThen ((place .textEnd).andThen empty))).foundIn text = true ↔ _
  rw [foundIn_textStart_andThen ((ordered_andThen _ _).mpr ⟨h, hend⟩), readsFrom_andThen]
  simp only [readsFrom_place_andThen]
  constructor
  · rintro ⟨u, rest, rfl, hu, hplace, -⟩
    obtain rfl : rest = [] := List.head?_eq_none_iff.mp (Option.isNone_iff_eq_none.mp hplace)
    rwa [List.append_nil]
  · intro hreads
    exact ⟨text, [], (List.append_nil text).symm, hreads, rfl, readsFrom_empty⟩

/-- **A pattern that is read the same within its wrapping keeps its meaning**, if the wrapping does not
make it too heavy. -/
theorem wraps_of_read {pattern : String}
    (hread : (Term.read (whole pattern)).toOption.map Term.regex =
      (Term.read pattern).toOption.map fun t => t.regex.bound)
    (hcompiles : Compiles (whole pattern) ↔ Compiles pattern) : Wraps MatchesInFull pattern := by
  refine ⟨hcompiles, fun hwhole text => ?_⟩
  obtain ⟨w, hw, hfits⟩ := compiles_iff.mp hwhole
  have hfound : FoundIn (whole pattern) text ↔ w.regex.foundIn text = true := by
    rw [foundIn_iff]
    simp [hw, hfits]
  rw [toOption_eq_some_iff.mpr hw, Option.map_some] at hread
  obtain ⟨t, ht, hregex⟩ := Option.map_eq_some_iff.mp hread.symm
  rw [toOption_eq_some_iff] at ht
  rw [hfound, ← hregex, Regex.foundIn_bound (Term.ordered_of_read ht)]
  constructor
  · intro hreads
    exact ⟨t, ht, hreads⟩
  · rintro ⟨t', ht', hreads⟩
    rwa [← Except.ok.inj (ht.symm.trans ht')] at hreads

end Tablewright.Pattern
