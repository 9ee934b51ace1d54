import Tablewright.Unicode.Case

/-! # Case and folding

Making a character lower case moves the code points of the letters `A` to `Z` by 32, and making it upper
case moves those of `a` to `z` back (`toLower_toUpper`, `toUpper_toLower`). Such a letter is no blank before
and after it (`isBlank_toLower`). Beyond ASCII, folding follows the spans of a table; a character that none
of them leads to is the fold of no other one (`eq_of_fold_eq`). -/

namespace Tablewright.Unicode

/-! ## Lower case -/

/-- Lower case adds 32 to the capitals of ASCII. -/
theorem toNat_toLower (c : Char) :
    c.toLower.toNat = if 65 ≤ c.toNat ∧ c.toNat ≤ 90 then c.toNat + 32 else c.toNat := by
  have hrange : ('A'.val ≤ c.val ∧ c.val ≤ 'Z'.val) ↔ 65 ≤ c.toNat ∧ c.toNat ≤ 90 :=
    and_congr UInt32.le_iff_toNat_le UInt32.le_iff_toNat_le
  by_cases h : 'A'.val ≤ c.val ∧ c.val ≤ 'Z'.val
  · have hval : c.toLower.val = c.val + 32 := congrArg Char.val (dif_pos h)
    have hle := (hrange.mp h).2
    rw [if_pos (hrange.mp h), Char.toNat, hval, UInt32.toNat_add]
    show (c.toNat + 32) % 2 ^ 32 = c.toNat + 32
    omega
  · have hsame : c.toLower = c := dif_neg h
    rw [if_neg (mt hrange.mpr h), hsame]

/-- Upper case takes 32 from the small letters of ASCII. -/
theorem toNat_toUpper (c : Char) :
    c.toUpper.toNat = if 97 ≤ c.toNat ∧ c.toNat ≤ 122 then c.toNat - 32 else c.toNat := by
  have hrange : ('a'.val ≤ c.val ∧ c.val ≤ 'z'.val) ↔ 97 ≤ c.toNat ∧ c.toNat ≤ 122 :=
    and_congr UInt32.le_iff_toNat_le UInt32.le_iff_toNat_le
  by_cases h : 'a'.val ≤ c.val ∧ c.val ≤ 'z'.val
  · have hback : ('A'.val - 'a'.val).toNat = 2 ^ 32 - 32 := by decide
    have hcode : c.val.toNat = c.toNat := rfl
    have hbounds := hrange.mp h
    delta Char.toUpper
    rw [if_pos hbounds, dif_pos h, Char.toNat, UInt32.toNat_add, hback, hcode]
    omega
  · have hsame : c.toUpper = c := dif_neg h
    rw [if_neg (mt hrange.mpr h), hsame]

/-- The capitals of ASCII by number. -/
theorem isUpper_iff_toNat {c : Char} : c.isUpper = true ↔ 65 ≤ c.toNat ∧ c.toNat ≤ 90 := by
  refine decide_eq_true_iff.trans ?_
  exact and_congr UInt32.le_iff_toNat_le UInt32.le_iff_toNat_le

/-- The small letters of ASCII by number. -/
theorem isLower_iff_toNat {c : Char} : c.isLower = true ↔ 97 ≤ c.toNat ∧ c.toNat ≤ 122 := by
  refine Bool.and_eq_true_iff.trans ?_
  rw [decide_eq_true_eq, decide_eq_true_eq]
  exact and_congr UInt32.le_iff_toNat_le UInt32.le_iff_toNat_le

/-- The letters of ASCII by number. -/
theorem isAlpha_iff_toNat {c : Char} : c.isAlpha = true ↔
    65 ≤ c.toNat ∧ c.toNat ≤ 90 ∨ 97 ≤ c.toNat ∧ c.toNat ≤ 122 :=
  Bool.or_eq_true_iff.trans (or_congr isUpper_iff_toNat isLower_iff_toNat)

/-- Case is made in one step, whatever the case was before. -/
theorem toLower_toUpper (c : Char) : c.toUpper.toLower = c.toLower := by
  rw [← Char.toNat_inj, toNat_toLower, toNat_toLower, toNat_toUpper]
  grind

/-- Lower case in between does not change the upper case. -/
theorem toUpper_toLower (c : Char) : c.toLower.toUpper = c.toUpper := by
  rw [← Char.toNat_inj, toNat_toUpper, toNat_toUpper, toNat_toLower]
  grind

/-- The upper case of a small letter is a capital. -/
theorem isUpper_toUpper {c : Char} (h : c.isLower = true) : c.toUpper.isUpper = true := by
  rw [isLower_iff_toNat] at h
  rw [isUpper_iff_toNat, toNat_toUpper, if_pos h]
  omega

/-- A small letter is its own lower case. -/
theorem toLower_eq_self {c : Char} (h : c.isLower = true) : c.toLower = c := by
  rw [isLower_iff_toNat] at h
  rw [← Char.toNat_inj, toNat_toLower, if_neg (by omega)]

/-- The lower case of a letter is a small letter. -/
theorem isLower_toLower {c : Char} (h : c.isAlpha = true) : c.toLower.isLower = true := by
  replace h := isAlpha_iff_toNat.mp h
  rw [isLower_iff_toNat, toNat_toLower]
  grind

/-- The lower case of a letter or a digit is a small letter or a digit. -/
theorem isLower_or_isDigit_toLower {c : Char} (h : c.isAlphanum = true) :
    c.toLower.isLower = true ∨ c.toLower.isDigit = true := by
  rw [Char.isAlphanum, Bool.or_eq_true] at h
  refine h.imp isLower_toLower fun hdigit => ?_
  have hcode := Char.isDigit_iff_toNat.mp hdigit
  have hnine : '9'.toNat = 57 := rfl
  have hsame : c.toLower = c := by
    rw [← Char.toNat_inj, toNat_toLower, if_neg (by omega)]
  rwa [hsame]

/-- Small letters and digits are no capitals. -/
theorem isUpper_eq_false_of_isLower_or_isDigit {c : Char}
    (h : c.isLower = true ∨ c.isDigit = true) : c.isUpper = false := by
  rw [isLower_iff_toNat, Char.isDigit_iff_toNat] at h
  rw [Bool.eq_false_iff, ne_eq, isUpper_iff_toNat]
  have hnine : '9'.toNat = 57 := rfl
  omega

/-- Letters and digits of ASCII are of ASCII. -/
theorem isAscii_of_isAlphanum {c : Char} (h : c.isAlphanum = true) : isAscii c = true := by
  rw [Char.isAlphanum, Bool.or_eq_true, isAlpha_iff_toNat, Char.isDigit_iff_toNat] at h
  rw [isAscii, decide_eq_true_eq]
  have hnine : '9'.toNat = 57 := rfl
  omega

/-- Letters of ASCII are of ASCII. -/
theorem isAscii_of_isAlpha {c : Char} (h : c.isAlpha = true) : isAscii c = true :=
  isAscii_of_isAlphanum (by rw [Char.isAlphanum, h, Bool.true_or])

/-- Nothing is in lower case once it is made upper case. -/
theorem isLower_toUpper (c : Char) : c.toUpper.isLower = false := by
  rw [Bool.eq_false_iff, ne_eq, isLower_iff_toNat, toNat_toUpper]
  grind

/-- Upper case makes letters of letters only. -/
theorem isAlpha_toUpper (c : Char) : c.toUpper.isAlpha = c.isAlpha := by
  rw [Bool.eq_iff_iff, isAlpha_iff_toNat, isAlpha_iff_toNat, toNat_toUpper]
  grind

/-- The upper case of a letter or a digit is one. -/
theorem isAlphanum_toUpper {c : Char} (h : c.isAlphanum = true) : c.toUpper.isAlphanum = true := by
  rw [Char.isAlphanum, Bool.or_eq_true] at h ⊢
  rcases h with halpha | hdigit
  · left
    rwa [isAlpha_toUpper]
  · -- a digit stays as it is
    have hcode := Char.isDigit_iff_toNat.mp hdigit
    have hnine : '9'.toNat = 57 := rfl
    have hsame : c.toUpper = c := by
      rw [← Char.toNat_inj, toNat_toUpper, if_neg (by omega)]
    right
    rwa [hsame]

/-- The lower case of a letter or a digit is one. -/
theorem isAlphanum_toLower {c : Char} (h : c.isAlphanum = true) : c.toLower.isAlphanum = true := by
  rw [Char.isAlphanum, Bool.or_eq_true]
  refine (isLower_or_isDigit_toLower h).imp_left fun hlower => ?_
  exact Bool.or_eq_true_iff.mpr (Or.inr hlower)

/-- Between the first capital and the last small letter there is no blank. -/
theorem isBlank_eq_false_of_le {c : Char} (hlo : 65 ≤ c.toNat) (hhi : c.toNat ≤ 122) :
    isBlank c = false := by
  have hascii : isAscii c = true := by
    simp only [isAscii, decide_eq_true_eq]
    omega
  have hspace : (c == ' ') = false := by
    rw [beq_eq_false_iff_ne]
    rintro rfl
    exact absurd hlo (by decide)
  rw [isBlank, CharClass.holds_of_isAscii hascii]
  simp only [CharClass.blank, hspace, Bool.false_or, Bool.and_eq_false_iff, decide_eq_false_iff_not]
  omega

/-- A letter is no blank in either case, and any other character stays. -/
theorem isBlank_toLower (c : Char) : isBlank c.toLower = isBlank c := by
  have hlower := toNat_toLower c
  by_cases h : 65 ≤ c.toNat ∧ c.toNat ≤ 90
  · rw [if_pos h] at hlower
    rw [isBlank_eq_false_of_le h.1 (by omega), isBlank_eq_false_of_le (by omega) (by omega)]
  · rw [if_neg h] at hlower
    rw [Char.toNat_inj.mp hlower]

/-! ## Folding -/

/-- A code point that a span moves is found from where it goes. -/
theorem Shift.source?_image {s : Shift} {n : Nat} (hn : s.span.holds n = true)
    (hpos : 0 < s.image n) : s.source? (s.image n) = some n := by
  have hback : (Int.ofNat (s.image n) - s.offset).toNat = n := by
    simp only [Shift.image, Int.ofNat_eq_natCast] at hpos ⊢
    omega
  simp only [Shift.source?, hback, hn, beq_self_eq_true, Bool.and_self, if_true]

/-- **A character that no span leads to is the image of no other one.** -/
theorem eq_of_shifted_eq {table : List Shift} {c d : Char} (hpos : 0 < d.toNat)
    (hsource : ∀ s ∈ table, s.source? d.toNat = none) (h : (shifted? table c).getD c = d) : c = d := by
  rw [shifted?] at h
  cases hfind : table.find? fun s => s.span.holds c.toNat with
  | none =>
      rw [hfind] at h
      exact h
  | some s =>
      -- the span that moves the character leads to `d`
      have himage : Char.ofNat (s.image c.toNat) = d := by
        rw [hfind] at h
        exact h
      have hcode : s.image c.toNat = d.toNat := by
        by_cases hvalid : (s.image c.toNat).isValidChar
        · have hchar : Char.ofNat (s.image c.toNat) = Char.ofNatAux _ hvalid := dif_pos hvalid
          rw [← himage, hchar]
          rfl
        · -- what is no code point would be the null character
          have hnull : Char.ofNat (s.image c.toNat) = Char.ofNat 0 := dif_neg hvalid
          rw [← himage, hnull] at hpos
          contradiction
      have hholds := List.find?_some hfind
      have hnone := hsource s (List.mem_of_find?_eq_some hfind)
      rw [← hcode, Shift.source?_image hholds (by rwa [hcode])] at hnone
      contradiction

/-- The same of folds, unless the character is a letter. -/
theorem eq_of_fold_eq {c d : Char} (hletter : d.toNat < 97 ∨ 122 < d.toNat) (hpos : 0 < d.toNat)
    (hsource : ∀ s ∈ foldShifts, s.source? d.toNat = none) (h : fold c = d) : c = d := by
  rw [fold] at h
  split at h
  · -- an upper-case letter would have become a letter
    have hlower := toNat_toLower c
    rw [h] at hlower
    split at hlower
    · omega
    · exact Char.toNat_inj.mp hlower.symm
  · exact eq_of_shifted_eq hpos hsource h

/-- Only the colon folds to a colon. -/
theorem fold_eq_colon_iff {c : Char} : fold c = ':' ↔ c = ':' :=
  ⟨eq_of_fold_eq (by decide) (by decide) (by decide +kernel), by rintro rfl; decide⟩

/-! ## Characters without case -/

/-- A character that nothing else becomes in lower or in upper case: no letter of ASCII, not the dot that
a dotted capital leaves behind, and nothing that a table leads to. -/
structure Caseless (d : Char) : Prop where
  positive : 0 < d.toNat
  noUpper : d.toNat < 65 ∨ 90 < d.toNat
  noLower : d.toNat < 97 ∨ 122 < d.toNat
  noDot : d ≠ Char.ofNat 0x307
  lowerShifts : ∀ s ∈ lowerShifts, s.source? d.toNat = none
  upperShifts : ∀ s ∈ upperShifts, s.source? d.toNat = none
  longUppers : ∀ e ∈ longUppers, d ∉ e.2.map Char.ofNat

/-- Only the character itself becomes it in lower case. -/
theorem Caseless.eq_of_mem_toLower {c d : Char} (hd : Caseless d) (h : d ∈ toLower c) : d = c := by
  rw [toLower] at h
  split at h
  · have hlower := toNat_toLower c
    rw [← List.mem_singleton.mp h] at hlower
    split at hlower
    · have := hd.noLower
      omega
    · exact Char.toNat_inj.mp hlower
  split at h
  · rcases List.mem_cons.mp h with rfl | h
    · exact absurd hd.noLower (by decide)
    · exact absurd (List.mem_singleton.mp h) hd.noDot
  · exact (eq_of_shifted_eq hd.positive hd.lowerShifts (List.mem_singleton.mp h).symm).symm

/-- Only the character itself becomes it in upper case. -/
theorem Caseless.eq_of_mem_toUpper {c d : Char} (hd : Caseless d) (h : d ∈ toUpper c) : d = c := by
  rw [toUpper] at h
  split at h
  · have hupper := toNat_toUpper c
    rw [← List.mem_singleton.mp h] at hupper
    split at hupper
    · have := hd.noUpper
      omega
    · exact Char.toNat_inj.mp hupper
  split at h
  · rename_i codes hcodes
    obtain ⟨front, back, htable, -⟩ := List.lookup_eq_some_iff.mp hcodes
    exact absurd h (hd.longUppers (c.toNat, codes) (by simp [htable]))
  · exact (eq_of_shifted_eq hd.positive hd.upperShifts (List.mem_singleton.mp h).symm).symm

/-- Nothing becomes a line feed. -/
theorem caseless_newline : Caseless '\n' where
  positive := by decide
  noUpper := by decide
  noLower := by decide
  noDot := by decide
  lowerShifts := by decide +kernel
  upperShifts := by decide +kernel
  longUppers := by decide +kernel

end Tablewright.Unicode
