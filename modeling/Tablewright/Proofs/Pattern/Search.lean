import Tablewright.Proofs.Pattern.Reading

/-! # What a search finds

A search follows at once all that may be left of an expression, and begins the expression again behind
every character. `Regex.follow_iff` says what it finds on the way, by induction on the text.

* `Regex.foundIn_iff`: an expression is found exactly in the texts with a stretch that it reads.
* `Regex.readsFrom_andThen` and the lemmas behind it: what an expression reads at the start of a text,
  part by part. -/

namespace Tablewright.Pattern.Regex

variable {r a b : Regex} {before behind : Option Char} {c : Char} {s : List Char}

/-! ## Searching -/

/-- Does the expression read a beginning of the text? -/
def ReadsFrom (r : Regex) (before : Option Char) (text : List Char) : Prop :=
  ∃ s rest, text = s ++ rest ∧ r.reads before s rest.head?

/-- An ordered pattern reads something at the start of the empty text exactly if it can read nothing
there. -/
theorem readsFrom_nil (h : r.Ordered) :
    r.ReadsFrom before [] ↔ r.nullable before none = true := by
  rw [nullable_iff h]
  constructor
  · rintro ⟨s, rest, hs, hreads⟩
    obtain ⟨rfl, rfl⟩ := List.append_eq_nil_iff.mp hs.symm
    exact hreads
  · intro hreads
    exact ⟨[], [], rfl, hreads⟩

/-- An ordered pattern reads a beginning of a longer text if it can read nothing, or if what is left of it
behind the first character reads a beginning of the rest. -/
theorem readsFrom_cons (h : r.Ordered) {text : List Char} :
    r.ReadsFrom before (c :: text) ↔
      r.nullable before (some c) = true ∨
        ∃ r' ∈ r.steps before c, r'.ReadsFrom (some c) text := by
  rw [nullable_iff h]
  constructor
  · rintro ⟨s, rest, hs, hreads⟩
    -- what is read is empty, or it takes the first character
    cases s with
    | nil =>
        rw [List.nil_append] at hs
        subst hs
        exact .inl hreads
    | cons d s =>
        obtain ⟨rfl, rfl⟩ := List.cons.inj hs
        obtain ⟨r', hr', hreads⟩ := (exists_mem_steps_iff h).mpr hreads
        exact .inr ⟨r', hr', s, rest, rfl, hreads⟩
  · rintro (hreads | ⟨r', hr', s, rest, rfl, hreads⟩)
    · exact ⟨[], c :: text, rfl, hreads⟩
    · exact ⟨c :: s, rest, rfl, (exists_mem_steps_iff h).mp ⟨r', hr', hreads⟩⟩

/-! ### Beginnings of texts, part by part -/

@[simp] theorem readsFrom_empty {text : List Char} : empty.ReadsFrom before text :=
  ⟨[], text, rfl, rfl⟩

/-- Two patterns in turn read a beginning if the second goes on where the first ends. -/
theorem readsFrom_andThen {text : List Char} :
    (a.andThen b).ReadsFrom before text ↔
      ∃ u rest, text = u ++ rest ∧ a.reads before u rest.head? ∧
        b.ReadsFrom (u.getLast?.or before) rest := by
  rw [ReadsFrom, reads_andThen]
  constructor
  · rintro ⟨_, rest, rfl, u, v, rfl, hu, hv⟩
    refine ⟨u, v ++ rest, List.append_assoc u v rest, ?_, v, rest, rfl, hv⟩
    rwa [List.head?_append]
  · rintro ⟨u, _, rfl, hu, v, rest, rfl, hv⟩
    refine ⟨u ++ v, rest, (List.append_assoc u v rest).symm, u, v, rfl, ?_, hv⟩
    rwa [List.head?_append] at hu

/-- Where two patterns in turn read a beginning, the first one does. -/
theorem readsFrom_of_andThen {text : List Char} (h : (a.andThen b).ReadsFrom before text) :
    a.ReadsFrom before text := by
  obtain ⟨u, rest, htext, hu, -⟩ := readsFrom_andThen.mp h
  exact ⟨u, rest, htext, hu⟩

/-- A pattern that begins with a place reads where the place holds. -/
theorem readsFrom_place_andThen {p : Place} {text : List Char} :
    ((place p).andThen b).ReadsFrom before text ↔
      p.holds before text.head? = true ∧ b.ReadsFrom before text := by
  rw [readsFrom_andThen]
  constructor
  · rintro ⟨u, rest, rfl, ⟨rfl, hp⟩, hb⟩
    exact ⟨hp, hb⟩
  · rintro ⟨hp, hb⟩
    exact ⟨[], text, rfl, ⟨rfl, hp⟩, hb⟩

/-- A pattern that begins with a set reads where the first character is in the set. -/
theorem readsFrom_chars_andThen {t : CharSet} {text : List Char} :
    ((chars t).andThen b).ReadsFrom before text ↔
      ∃ c rest, text = c :: rest ∧ t.holds c = true ∧ b.ReadsFrom (some c) rest := by
  rw [readsFrom_andThen]
  constructor
  · rintro ⟨u, rest, rfl, ⟨c, rfl, hc⟩, hb⟩
    exact ⟨c, rest, rfl, hc, hb⟩
  · rintro ⟨c, rest, rfl, hc, hb⟩
    exact ⟨[c], rest, rfl, ⟨c, rfl, hc⟩, hb⟩

/-- A pattern that begins with a choice reads where it does with one of the branches. -/
theorem readsFrom_alt_andThen {r : Regex} {text : List Char} :
    ((alt a b).andThen r).ReadsFrom before text ↔
      (a.andThen r).ReadsFrom before text ∨ (b.andThen r).ReadsFrom before text := by
  simp only [readsFrom_andThen]
  constructor
  · rintro ⟨u, rest, htext, hu | hu, hr⟩
    · exact .inl ⟨u, rest, htext, hu, hr⟩
    · exact .inr ⟨u, rest, htext, hu, hr⟩
  · rintro (⟨u, rest, htext, hu, hr⟩ | ⟨u, rest, htext, hu, hr⟩)
    · exact ⟨u, rest, htext, .inl hu, hr⟩
    · exact ⟨u, rest, htext, .inr hu, hr⟩

/-- One of several expressions. -/
theorem readsFrom_oneOf_andThen {rs : List Regex} {text : List Char} :
    ((oneOf r rs).andThen b).ReadsFrom before text ↔
      ∃ a ∈ r :: rs, (a.andThen b).ReadsFrom before text := by
  induction rs generalizing r with
  | nil =>
      rw [oneOf]
      exact ⟨fun h => ⟨r, List.mem_singleton_self r, h⟩, fun ⟨a, ha, h⟩ => List.mem_singleton.mp ha ▸ h⟩
  | cons r' rs ih =>
      rw [oneOf, readsFrom_alt_andThen, ih]
      simp only [List.mem_cons, exists_eq_or_imp]

/-- A part that may be left out. -/
theorem readsFrom_optional_andThen {text : List Char} :
    ((times a 0 (some 1)).andThen b).ReadsFrom before text ↔
      b.ReadsFrom before text ∨ (a.andThen b).ReadsFrom before text := by
  simp only [readsFrom_andThen]
  constructor
  · rintro ⟨u, rest, rfl, ⟨n, -, hn, hu⟩, hb⟩
    match n, hn 1 rfl with
    | 0, _ =>
        obtain rfl : u = [] := hu
        exact .inl hb
    | 1, _ =>
        rw [Reading.power, Reading.power, Reading.andThen_nothing] at hu
        exact .inr ⟨u, rest, rfl, hu, hb⟩
  · rintro (hb | ⟨u, rest, rfl, hu, hb⟩)
    · exact ⟨[], text, rfl, ⟨0, Nat.le_refl 0, fun m _ => Nat.zero_le m, rfl⟩, hb⟩
    · refine ⟨u, rest, rfl, ⟨1, Nat.zero_le 1, fun m hm => Nat.le_of_eq (Option.some.inj hm), ?_⟩, hb⟩
      rwa [Reading.power, Reading.power, Reading.andThen_nothing]

/-- A set so many times in a row reads so many of its characters. -/
theorem power_chars {t : CharSet} {n : Nat} :
    (chars t).reads.power n before s behind ↔ s.length = n ∧ ∀ c ∈ s, t.holds c = true := by
  induction n generalizing before s with
  | zero =>
      constructor
      · rintro rfl
        exact ⟨rfl, fun c hc => absurd hc List.not_mem_nil⟩
      · rintro ⟨hs, -⟩
        exact List.length_eq_zero_iff.mp hs
  | succ n ih =>
      constructor
      · rintro ⟨_, v, rfl, ⟨c, rfl, hc⟩, hv⟩
        obtain ⟨hlength, hall⟩ := ih.mp hv
        exact ⟨congrArg (· + 1) hlength, List.forall_mem_cons.mpr ⟨hc, hall⟩⟩
      · rintro ⟨hs, hall⟩
        obtain ⟨c, s, rfl⟩ := List.exists_cons_of_length_eq_add_one hs
        obtain ⟨hc, hall⟩ := List.forall_mem_cons.mp hall
        exact ⟨[c], s, rfl, ⟨c, rfl, hc⟩, ih.mpr ⟨Nat.succ.inj hs, hall⟩⟩

/-- One or more characters of a set. -/
theorem readsFrom_many_andThen {t : CharSet} {text : List Char} :
    ((times (chars t) 1 none).andThen b).ReadsFrom before text ↔
      ∃ u rest, text = u ++ rest ∧ u ≠ [] ∧ (∀ c ∈ u, t.holds c = true) ∧
        b.ReadsFrom (u.getLast?.or before) rest := by
  rw [readsFrom_andThen]
  refine exists_congr fun u => exists_congr fun rest => and_congr_right fun _ => ?_
  rw [← and_assoc]
  refine and_congr_left fun _ => ?_
  constructor
  · rintro ⟨n, hn, -, hu⟩
    obtain ⟨rfl, hall⟩ := power_chars.mp hu
    exact ⟨List.ne_nil_of_length_pos hn, hall⟩
  · rintro ⟨hne, hall⟩
    exact ⟨u.length, List.length_pos_iff.mpr hne, fun m hm => by contradiction,
      power_chars.mpr ⟨rfl, hall⟩⟩

/-! ### Searches -/

/-- Does the expression read something that begins further behind in the text? -/
def ReadsLater (r : Regex) (text : List Char) : Prop :=
  ∃ front rest, text = front ++ rest ∧ front ≠ [] ∧ r.ReadsFrom front.getLast? rest

/-- What is read later in a text is read behind its first character or later in the rest. -/
theorem readsLater_cons {text : List Char} :
    r.ReadsLater (c :: text) ↔ r.ReadsFrom (some c) text ∨ r.ReadsLater text := by
  constructor
  · rintro ⟨front, rest, hfront, hne, hreads⟩
    cases front with
    | nil => contradiction
    | cons d front =>
        obtain ⟨rfl, rfl⟩ := List.cons.inj hfront
        cases front with
        | nil => exact .inl hreads
        | cons d front =>
            rw [List.getLast?_cons_cons] at hreads
            exact .inr ⟨d :: front, rest, rfl, by simp, hreads⟩
  · rintro (hreads | ⟨front, rest, rfl, hne, hreads⟩)
    · exact ⟨[c], text, rfl, by simp, hreads⟩
    · refine ⟨c :: front, rest, rfl, by simp, ?_⟩
      obtain ⟨d, front, rfl⟩ := List.exists_cons_of_ne_nil hne
      rwa [List.getLast?_cons_cons]

/-- **Following what is left of some expressions** finds a beginning of the text that one of them reads,
or what the expression itself reads further behind. -/
theorem follow_iff (h : r.Ordered) {live : List Regex} (hlive : ∀ l ∈ live, l.Ordered)
    {text : List Char} :
    r.follow before live text = true ↔
      (∃ l ∈ live, l.ReadsFrom before text) ∨ r.ReadsLater text := by
  induction text generalizing before live with
  | nil =>
      have hlater : ¬ r.ReadsLater [] := by
        rintro ⟨front, rest, hfront, hne, -⟩
        exact hne (List.append_eq_nil_iff.mp hfront.symm).1
      rw [follow, List.any_eq_true, or_iff_left hlater]
      exact exists_congr fun l => and_congr_right fun hl => (readsFrom_nil (hlive l hl)).symm
  | cons c text ih =>
      -- what is followed stays ordered, or the induction hypothesis would not apply
      have hnext : ∀ l ∈ distinct (r :: live.flatMap (steps before c)), l.Ordered := by
        intro l hl
        rcases List.mem_cons.mp (mem_distinct.mp hl) with rfl | hl
        · exact h
        · obtain ⟨l', hl', hstep⟩ := List.mem_flatMap.mp hl
          exact ordered_of_mem_steps (hlive l' hl') hstep
      rw [follow, Bool.or_eq_true, List.any_eq_true, ih hnext, readsLater_cons]
      simp only [mem_distinct, List.mem_cons, List.mem_flatMap]
      constructor
      · rintro (⟨l, hl, hempty⟩ | ⟨l, rfl | ⟨l', hl', hstep⟩, hreads⟩ | hlater)
        · exact .inl ⟨l, hl, (readsFrom_cons (hlive l hl)).mpr (.inl hempty)⟩
        · exact .inr (.inl hreads)
        · exact .inl ⟨l', hl', (readsFrom_cons (hlive l' hl')).mpr (.inr ⟨l, hstep, hreads⟩)⟩
        · exact .inr (.inr hlater)
      · rintro (⟨l, hl, hreads⟩ | hreads | hlater)
        · rcases (readsFrom_cons (hlive l hl)).mp hreads with hempty | ⟨l', hstep, hreads⟩
          · exact .inl ⟨l, hl, hempty⟩
          · exact .inr (.inl ⟨l', .inr ⟨l, hl, hstep⟩, hreads⟩)
        · exact .inr (.inl ⟨r, .inl rfl, hreads⟩)
        · exact .inr (.inr hlater)

/-- **A search finds an expression** exactly in the texts with a stretch that the expression reads. -/
theorem foundIn_iff (h : r.Ordered) {text : List Char} :
    r.foundIn text = true ↔
      ∃ front s rest, text = front ++ s ++ rest ∧ r.reads front.getLast? s rest.head? := by
  have hlive : ∀ l ∈ [r], l.Ordered := List.forall_mem_singleton.mpr h
  rw [foundIn, follow_iff h hlive]
  constructor
  · rintro (⟨l, hl, s, rest, rfl, hreads⟩ | ⟨front, -, rfl, -, s, rest, rfl, hreads⟩)
    · rw [List.mem_singleton.mp hl] at hreads
      exact ⟨[], s, rest, rfl, hreads⟩
    · exact ⟨front, s, rest, (List.append_assoc ..).symm, hreads⟩
  · rintro ⟨front, s, rest, rfl, hreads⟩
    cases front with
    | nil => exact .inl ⟨r, List.mem_singleton_self r, s, rest, rfl, hreads⟩
    | cons c front =>
        exact .inr ⟨c :: front, s ++ rest, List.append_assoc .., by simp, s, rest, rfl, hreads⟩

/-- An expression that is bound to the start of the text is found in what it reads from there. -/
theorem foundIn_textStart_andThen (h : r.Ordered) {text : List Char} :
    ((place .textStart).andThen r).foundIn text = true ↔ r.ReadsFrom none text := by
  have hordered : ((place .textStart).andThen r).Ordered := (ordered_andThen _ _).mpr ⟨trivial, h⟩
  rw [foundIn_iff hordered]
  constructor
  · rintro ⟨front, s, rest, rfl, hreads⟩
    have hfrom : ((place .textStart).andThen r).ReadsFrom front.getLast? (s ++ rest) :=
      ⟨s, rest, rfl, hreads⟩
    obtain ⟨hstart, hr⟩ := readsFrom_place_andThen.mp hfrom
    obtain rfl : front = [] := List.getLast?_eq_none_iff.mp (Option.isNone_iff_eq_none.mp hstart)
    exact hr
  · intro hr
    have hstart : Place.textStart.holds none text.head? = true := rfl
    obtain ⟨s, rest, htext, hreads⟩ := readsFrom_place_andThen.mpr ⟨hstart, hr⟩
    exact ⟨[], s, rest, htext, hreads⟩

end Tablewright.Pattern.Regex
