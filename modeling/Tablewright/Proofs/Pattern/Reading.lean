import Tablewright.Pattern.Regex

/-! # What regular expressions read

What a regular expression can read depends on what stands around it, as it may ask for a place. So its
meaning is a `Reading`: a relation between the character in front, the stretch of text that is read, and
the character behind. Readings stand side by side (`Reading.andThen`) and are repeated
(`Reading.power`), and `Regex.reads` gives the reading of each expression.

* `Regex.nullable_iff`: an expression needs no further character where it reads nothing.
* `Regex.exists_mem_steps_iff`: what is left of an expression behind a character reads what the
  expression reads behind it. -/

namespace Tablewright.Pattern

/-! ## Readings -/

/-- What can be read: stretches of text, each between the character in front of it and the one
behind it. -/
abbrev Reading := Option Char → List Char → Option Char → Prop

namespace Reading

/-- Reading nothing. -/
def nothing : Reading :=
  fun _ s _ => s = []

/-- One reading behind another. Each of the two has the other one for a neighbour. -/
def andThen (M N : Reading) : Reading :=
  fun before s behind => ∃ u v, s = u ++ v ∧ M before u (v.head?.or behind) ∧
    N (u.getLast?.or before) v behind

/-- A reading so many times in a row. -/
def power (M : Reading) : Nat → Reading
  | 0 => nothing
  | n + 1 => M.andThen (M.power n)

/-- A reading at least and at most so many times in a row. -/
def repeated (M : Reading) (least : Nat) (most : Option Nat) : Reading :=
  fun before s behind => ∃ n, least ≤ n ∧ (∀ m ∈ most, n ≤ m) ∧ M.power n before s behind

/-- What is left of a reading that has read one character. -/
def after (M : Reading) (before : Option Char) (c : Char) : Reading :=
  fun _ s behind => M before (c :: s) behind

variable {M N K : Reading} {before behind : Option Char} {c : Char} {s : List Char}

/-- What stands in front of a stretch behind a character is that character or comes later. -/
theorem getLast?_cons_or (c : Char) (u : List Char) (before : Option Char) :
    (c :: u).getLast?.or before = u.getLast?.or (some c) := by
  rw [List.getLast?_cons]
  cases u.getLast? <;> rfl

/-- Reading nothing first adds nothing. -/
theorem nothing_andThen (M : Reading) : nothing.andThen M = M := by
  funext before s behind
  rw [eq_iff_iff]
  constructor
  · rintro ⟨u, v, rfl, rfl, hM⟩
    exact hM
  · intro hM
    exact ⟨[], s, rfl, rfl, hM⟩

/-- Reading nothing last adds nothing. -/
theorem andThen_nothing (M : Reading) : M.andThen nothing = M := by
  funext before s behind
  rw [eq_iff_iff]
  constructor
  · rintro ⟨u, v, rfl, hM, rfl⟩
    rwa [List.append_nil]
  · intro hM
    exact ⟨s, [], (List.append_nil s).symm, hM, rfl⟩

/-- Readings in turn may be grouped either way. -/
theorem andThen_assoc (M N K : Reading) :
    (M.andThen N).andThen K = M.andThen (N.andThen K) := by
  funext before s behind
  rw [eq_iff_iff]
  constructor
  · rintro ⟨_, w, rfl, ⟨u, v, rfl, hM, hN⟩, hK⟩
    refine ⟨u, v ++ w, List.append_assoc u v w, ?_, v, w, rfl, hN, ?_⟩
    · rwa [List.head?_append, Option.or_assoc]
    · rwa [List.getLast?_append, Option.or_assoc] at hK
  · rintro ⟨u, _, rfl, hM, v, w, rfl, hN, hK⟩
    refine ⟨u ++ v, w, (List.append_assoc u v w).symm, ⟨u, v, rfl, ?_, hN⟩, ?_⟩
    · rwa [List.head?_append, Option.or_assoc] at hM
    · rwa [List.getLast?_append, Option.or_assoc]

/-- Two readings in a row read nothing where both do. -/
theorem andThen_nil :
    M.andThen N before [] behind ↔ M before [] behind ∧ N before [] behind := by
  constructor
  · rintro ⟨u, v, huv, hM, hN⟩
    obtain ⟨rfl, rfl⟩ := List.append_eq_nil_iff.mp huv.symm
    exact ⟨hM, hN⟩
  · rintro ⟨hM, hN⟩
    exact ⟨[], [], rfl, hM, hN⟩

/-- The first character is read by the second reading, behind a first one that reads nothing there, or
by the first reading. -/
theorem andThen_cons :
    M.andThen N before (c :: s) behind ↔
      (M before [] (some c) ∧ N before (c :: s) behind) ∨
        (M.after before c).andThen N (some c) s behind := by
  constructor
  · rintro ⟨u, v, huv, hM, hN⟩
    cases u with
    | nil =>
        rw [List.nil_append] at huv
        subst huv
        exact .inl ⟨hM, hN⟩
    | cons d u =>
        obtain ⟨rfl, rfl⟩ := List.cons.inj huv
        rw [getLast?_cons_or] at hN
        exact .inr ⟨u, v, rfl, hM, hN⟩
  · rintro (⟨hM, hN⟩ | ⟨u, v, rfl, hM, hN⟩)
    · exact ⟨[], c :: s, rfl, hM, hN⟩
    · refine ⟨c :: u, v, rfl, hM, ?_⟩
      rwa [getLast?_cons_or]

/-- Repeated readings of the empty text are none, or readings of the empty text. -/
theorem power_nil {n : Nat} : M.power n before [] behind ↔ n = 0 ∨ M before [] behind := by
  induction n with
  | zero => exact iff_of_true rfl (.inl rfl)
  | succ n ih =>
      rw [power, andThen_nil, ih]
      constructor
      · rintro ⟨hM, -⟩
        exact .inr hM
      · rintro (hzero | hM)
        · contradiction
        · exact ⟨hM, .inr hM⟩

/-- Of several readings in a row one reads the first character, and those in front of it read nothing
there. -/
theorem power_cons {n : Nat} :
    M.power n before (c :: s) behind ↔
      ∃ i j, n = i + 1 + j ∧ (i = 0 ∨ M before [] (some c)) ∧
        (M.after before c).andThen (M.power j) (some c) s behind := by
  induction n with
  | zero =>
      refine iff_of_false (fun h => ?_) fun ⟨i, j, hn, _⟩ => ?_
      · contradiction
      · omega
  | succ n ih =>
      -- the readings in front of the one that takes the character read nothing
      rw [power, andThen_cons, ih]
      constructor
      · rintro (⟨hM, i, j, rfl, -, hrest⟩ | hrest)
        · exact ⟨i + 1, j, by omega, .inr hM, hrest⟩
        · exact ⟨0, n, by omega, .inl rfl, hrest⟩
      · rintro ⟨i, j, hn, hM, hrest⟩
        cases i with
        | zero =>
            obtain rfl : n = j := by omega
            exact .inr hrest
        | succ i =>
            have hempty : M before [] (some c) := hM.resolve_left (by omega)
            exact .inl ⟨hempty, i, j, by omega, .inr hempty, hrest⟩

/-- The repetitions that are left once one of them has read a character. Those in front of it may be as
many as are missing if they can read nothing there. -/
theorem repeated_cons {least : Nat} {most : Option Nat} {nullable : Bool}
    (hnullable : nullable = true ↔ M before [] (some c)) (hne : most ≠ some 0)
    (h : ∀ m ∈ most, least ≤ m) :
    M.repeated least most before (c :: s) behind ↔
      (M.after before c).andThen
        (M.repeated (if nullable then 0 else least - 1) (most.map (· - 1))) (some c) s behind := by
  constructor
  · rintro ⟨n, hleast, hmost, hpower⟩
    obtain ⟨i, j, rfl, hi, u, v, rfl, hu, hv⟩ := power_cons.mp hpower
    refine ⟨u, v, rfl, hu, j, ?_, fun m hm => ?_, hv⟩
    · split
      · exact Nat.zero_le j
      · rename_i hfull
        have hzero : i = 0 := hi.resolve_right fun hempty => hfull (hnullable.mpr hempty)
        omega
    · obtain ⟨m', hm', rfl⟩ := Option.map_eq_some_iff.mp hm
      have hle := hmost m' hm'
      omega
  · rintro ⟨u, v, rfl, hu, j, hj, hmost, hv⟩
    -- as many repetitions in front as are missing
    refine ⟨(least - (j + 1)) + 1 + j, by omega, fun m hm => ?_,
      power_cons.mpr ⟨least - (j + 1), j, rfl, ?_, u, v, rfl, hu, hv⟩⟩
    · have hle := h m hm
      have hj := hmost (m - 1) (Option.mem_map_of_mem _ hm)
      have hpos : m ≠ 0 := by
        rintro rfl
        exact hne hm
      omega
    · split at hj
      · rename_i hempty
        exact .inr (hnullable.mp hempty)
      · exact .inl (by omega)

end Reading

/-! ## What expressions read -/

namespace Regex

/-- What an expression reads. -/
def reads : Regex → Reading
  | empty => .nothing
  | chars s => fun _ t _ => ∃ c, t = [c] ∧ s.holds c = true
  | place p => fun before t behind => t = [] ∧ p.holds before behind = true
  | seq a b => a.reads.andThen b.reads
  | alt a b => fun before t behind => a.reads before t behind ∨ b.reads before t behind
  | times a least most => a.reads.repeated least most

/-- Do all repetitions in the expression have bounds in order? -/
def Ordered : Regex → Prop
  | empty | chars _ | place _ => True
  | seq a b | alt a b => a.Ordered ∧ b.Ordered
  | times a least most => a.Ordered ∧ ∀ m ∈ most, least ≤ m

variable {r a b : Regex} {before behind : Option Char} {c : Char} {s : List Char}

/-- What two patterns in turn read is what their readings in turn do. -/
theorem reads_andThen (a b : Regex) : (a.andThen b).reads = a.reads.andThen b.reads := by
  induction a with
  | empty => exact (Reading.nothing_andThen b.reads).symm
  | seq a a' _ ih =>
      rw [andThen, reads, ih, reads, Reading.andThen_assoc]
  | chars | place | alt | times => rfl

/-- Two patterns in turn are ordered exactly when both are. -/
theorem ordered_andThen (a b : Regex) : (a.andThen b).Ordered ↔ a.Ordered ∧ b.Ordered := by
  induction a with
  | empty => rw [andThen, Ordered, true_and]
  | seq a a' _ ih =>
      rw [andThen, Ordered, ih, Ordered, and_assoc]
  | chars | place | alt | times => rfl

/-- Patterns in turn may be grouped either way. -/
theorem andThen_assoc (a b c : Regex) : (a.andThen b).andThen c = a.andThen (b.andThen c) := by
  induction a with
  | empty => rfl
  | seq a a' _ ih => rw [andThen, andThen, ih, andThen]
  | chars | place | alt | times => rfl

/-- A list of patterns is its first pattern, then the rest in turn. -/
theorem all_cons (r : Regex) (rs : List Regex) : all (r :: rs) = r.andThen (all rs) := rfl

/-- Two lists of patterns in turn read as one. -/
theorem all_append (as bs : List Regex) : all (as ++ bs) = (all as).andThen (all bs) := by
  induction as with
  | nil => rfl
  | cons a as ih => rw [List.cons_append, all_cons, ih, all_cons, andThen_assoc]

/-- Repeating no more often is reading nothing. -/
theorem reads_repeated {least : Nat} {most : Option Nat} (h : ∀ m ∈ most, least ≤ m) :
    (a.repeated least most).reads = (times a least most).reads := by
  rw [repeated]
  split
  · rename_i hmost
    subst hmost
    obtain rfl : least = 0 := Nat.le_zero.mp (h 0 rfl)
    funext before s behind
    rw [eq_iff_iff]
    constructor
    · intro hs
      exact ⟨0, Nat.le_refl 0, fun m _ => Nat.zero_le m, hs⟩
    · rintro ⟨n, -, hn, hs⟩
      obtain rfl : n = 0 := Nat.le_zero.mp (hn 0 rfl)
      exact hs
  · rfl

/-- **Where an expression needs no further character** is where it reads nothing. -/
theorem nullable_iff (h : r.Ordered) :
    r.nullable before behind = true ↔ r.reads before [] behind := by
  induction r generalizing before behind with
  | empty => exact iff_of_true rfl rfl
  | chars s =>
      refine iff_of_false Bool.false_ne_true ?_
      rintro ⟨c, hc, -⟩
      contradiction
  | place p => exact (and_iff_right rfl).symm
  | seq a b iha ihb =>
      rw [nullable, Bool.and_eq_true, iha h.1, ihb h.2, reads, Reading.andThen_nil]
  | alt a b iha ihb => rw [nullable, Bool.or_eq_true, iha h.1, ihb h.2, reads]
  | times a least most ih =>
      rw [nullable, Bool.or_eq_true, ih h.1, beq_iff_eq, reads]
      constructor
      · -- the least number of repetitions will do
        intro hempty
        exact ⟨least, Nat.le_refl least, h.2, Reading.power_nil.mpr hempty⟩
      · rintro ⟨n, hn, -, hs⟩
        exact (Reading.power_nil.mp hs).imp (fun hzero => by omega) id

/-- Repeating an ordered pattern between ordered bounds is ordered. -/
theorem ordered_repeated {least : Nat} {most : Option Nat} (ha : a.Ordered)
    (h : ∀ m ∈ most, least ≤ m) : (a.repeated least most).Ordered := by
  rw [repeated]
  split
  · trivial
  · exact ⟨ha, h⟩

/-- The bounds that are left behind one repetition are in order too. -/
theorem bounds_left {least : Nat} {most : Option Nat} (h : ∀ m ∈ most, least ≤ m) (nullable : Bool) :
    ∀ m ∈ most.map (· - 1), (if nullable then 0 else least - 1) ≤ m := by
  intro m hm
  obtain ⟨m', hm', rfl⟩ := Option.map_eq_some_iff.mp hm
  have hle := h m' hm'
  split <;> omega

/-- What is left of an expression has its bounds in order too. -/
theorem ordered_of_mem_steps (h : r.Ordered) {r' : Regex} (hr' : r' ∈ r.steps before c) :
    r'.Ordered := by
  induction r generalizing r' with
  | empty | place => contradiction
  | chars s =>
      rw [steps] at hr'
      split at hr'
      · rw [List.mem_singleton.mp hr']
        trivial
      · contradiction
  | seq a b iha ihb =>
      rcases List.mem_append.mp hr' with hr' | hr'
      · obtain ⟨a', ha', rfl⟩ := List.mem_map.mp hr'
        exact (ordered_andThen a' b).mpr ⟨iha h.1 ha', h.2⟩
      · split at hr'
        · exact ihb h.2 hr'
        · contradiction
  | alt a b iha ihb =>
      rcases List.mem_append.mp hr' with hr' | hr'
      · exact iha h.1 hr'
      · exact ihb h.2 hr'
  | times a least most ih =>
      rw [steps] at hr'
      split at hr'
      · contradiction
      · -- one repetition is used up, and lowering both bounds keeps their order
        obtain ⟨a', ha', rfl⟩ := List.mem_map.mp hr'
        exact (ordered_andThen _ _).mpr ⟨ih h.1 ha', ordered_repeated h.1 (bounds_left h.2 _)⟩

/-- If expressions read what is left of a reading, then with another one behind each of them they read
that behind what is left. -/
theorem exists_mem_map_andThen_iff {as : List Regex} {M : Reading}
    (has : ∀ u behind, (∃ a' ∈ as, a'.reads (some c) u behind) ↔ M before (c :: u) behind) :
    (∃ r' ∈ as.map (·.andThen b), r'.reads (some c) s behind) ↔
      (M.after before c).andThen b.reads (some c) s behind := by
  constructor
  · rintro ⟨r', hr', hreads⟩
    obtain ⟨a', ha', rfl⟩ := List.mem_map.mp hr'
    rw [reads_andThen] at hreads
    obtain ⟨u, v, rfl, hu, hv⟩ := hreads
    exact ⟨u, v, rfl, (has u _).mp ⟨a', ha', hu⟩, hv⟩
  · rintro ⟨u, v, rfl, hu, hv⟩
    obtain ⟨a', ha', hu⟩ := (has u _).mpr hu
    refine ⟨a'.andThen b, List.mem_map_of_mem ha', ?_⟩
    rw [reads_andThen]
    exact ⟨u, v, rfl, hu, hv⟩

/-- **What is left of an expression** that has read a character reads what the expression reads
behind it. -/
theorem exists_mem_steps_iff (h : r.Ordered) :
    (∃ r' ∈ r.steps before c, r'.reads (some c) s behind) ↔ r.reads before (c :: s) behind := by
  -- what stands behind and what is left to read change from part to part, so both are generalized
  induction r generalizing s behind with
  | empty =>
      refine iff_of_false (fun ⟨r', hr', _⟩ => ?_) fun hs => ?_
      · contradiction
      · contradiction
  | chars t =>
      rw [steps]
      split
      · rename_i hc
        constructor
        · rintro ⟨r', hr', hs⟩
          obtain rfl := List.mem_singleton.mp hr'
          obtain rfl : s = [] := hs
          exact ⟨c, rfl, hc⟩
        · rintro ⟨d, hs, -⟩
          obtain ⟨-, rfl⟩ := List.cons.inj hs
          exact ⟨empty, List.mem_singleton_self empty, rfl⟩
      · rename_i hc
        refine iff_of_false (fun ⟨r', hr', _⟩ => ?_) fun ⟨d, hs, hd⟩ => ?_
        · contradiction
        · obtain ⟨rfl, -⟩ := List.cons.inj hs
          exact hc hd
  | place p =>
      refine iff_of_false (fun ⟨r', hr', _⟩ => ?_) fun ⟨hs, _⟩ => ?_
      · contradiction
      · contradiction
  | seq a b iha ihb =>
      -- the character is read by the first part, or by the second where the first can read nothing
      rw [reads, Reading.andThen_cons, ← nullable_iff h.1, ← ihb h.2,
        ← exists_mem_map_andThen_iff fun u behind => iha h.1]
      simp only [steps, List.mem_append, or_and_right, exists_or]
      rw [or_comm]
      refine or_congr ?_ Iff.rfl
      split
      · rename_i hempty
        exact (and_iff_right hempty).symm
      · rename_i hfull
        refine iff_of_false (fun ⟨r', hr', _⟩ => ?_) fun ⟨hempty, _⟩ => hfull hempty
        contradiction
  | alt a b iha ihb =>
      show _ ↔ a.reads before (c :: s) behind ∨ b.reads before (c :: s) behind
      rw [← iha h.1, ← ihb h.2]
      simp only [steps, List.mem_append, or_and_right, exists_or]
  | times a least most ih =>
      rw [steps]
      split
      · rename_i hmost
        refine iff_of_false (fun ⟨r', hr', _⟩ => ?_) fun ⟨n, _, hn, hs⟩ => ?_
        · contradiction
        · -- no repetition is left, and none reads no character
          obtain rfl : n = 0 := Nat.le_zero.mp (hn 0 hmost)
          contradiction
      · rename_i hne
        rw [exists_mem_map_andThen_iff fun u behind => ih h.1, reads_repeated (bounds_left h.2 _),
          reads, reads, Reading.repeated_cons (nullable_iff h.1) hne h.2]

end Regex

end Tablewright.Pattern
