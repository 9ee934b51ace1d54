import Tablewright.Comment.Directive
import Tablewright.Proofs.Text.Words

/-! # Directives in a text

A directive is a bracket, an `@`, a stretch without brackets and a closing bracket. Whether one starts
somewhere in a text is read off one character at a time: `Closes` and `Opens` say of the text behind a
position what the start of a directive needs there.

* `directiveAt?_eq_some_iff`: the directives that are read.
* `segments_append_directive`: a directive is read wherever it stands.
* `prose_eq_self`, `length_prose_lt`: exactly the texts with a directive get shorter without their
  directives.
* `not_hasDirective_prose`: a text whose brackets are not nested has no directive left without its
  directives.
* `hasDirective_joined`: blanks between the words make no difference. -/

namespace Tablewright.Comment

open Unicode (isBlank)
open Text (words joined wordInduction)

/-- The text holds a directive. -/
def HasDirective (s : List Char) : Prop :=
  ∃ before body after, s = before ++ '[' :: '@' :: (body ++ ']' :: after) ∧
    ∀ c ∈ body, isBodyChar c = true

/-- The next bracket of the text is a closing one. -/
def Closes (s : List Char) : Prop :=
  s.find? (fun c => !isBodyChar c) = some ']'

/-- Behind an opening bracket, the text would complete a directive. -/
def Opens (s : List Char) : Prop :=
  s.head? = some '@' ∧ Closes s

/-- Only brackets may not stand inside a directive. -/
theorem isBodyChar_iff {c : Char} : isBodyChar c = true ↔ c ≠ '[' ∧ c ≠ ']' := by
  rw [isBodyChar, Bool.and_eq_true, bne_iff_ne, bne_iff_ne]

/-! ## Where a directive starts -/

/-- The next bracket is a closing one if the text has one behind characters that are none. -/
theorem closes_iff {s : List Char} :
    Closes s ↔ ∃ body after, s = body ++ ']' :: after ∧ ∀ c ∈ body, isBodyChar c = true := by
  simp only [Closes, List.find?_eq_some_iff_append, Bool.not_not]
  exact and_iff_right (by decide)

/-- The empty text has no bracket. -/
theorem not_closes_nil : ¬Closes [] := by
  simp [Closes]

/-- The next bracket of a text is its first character or that of the rest. -/
theorem closes_cons {c : Char} {s : List Char} :
    Closes (c :: s) ↔ c = ']' ∨ isBodyChar c = true ∧ Closes s := by
  rw [Closes, List.find?_cons]
  cases hc : isBodyChar c with
  | true => simp [(isBodyChar_iff.mp hc).2, Closes]
  | false => simp

/-- Behind an opening bracket, a directive goes on with an at sign and then has its closing bracket. -/
theorem opens_cons {c : Char} {s : List Char} : Opens (c :: s) ↔ c = '@' ∧ Closes s := by
  rw [Opens, List.head?_cons, Option.some.injEq]
  refine and_congr_right fun hc => ?_
  rw [closes_cons, hc]
  exact ⟨fun h => h.elim (absurd · (by decide)) And.right, fun h => Or.inr ⟨by decide, h⟩⟩

/-- The directives that are read, with the text behind them. -/
theorem directiveAt?_eq_some_iff {s body rest : List Char} :
    directiveAt? s = some (body, rest) ↔
      s = '[' :: '@' :: (body ++ ']' :: rest) ∧ ∀ c ∈ body, isBodyChar c = true := by
  constructor
  · intro h
    unfold directiveAt? at h
    split at h
    case h_1 cs =>
      split at h
      case h_1 rest' hdrop =>
        obtain ⟨rfl, rfl⟩ := Prod.mk.inj (Option.some.inj h)
        rw [← hdrop, List.takeWhile_append_dropWhile]
        exact ⟨rfl, fun c hc => List.mem_takeWhile_imp hc⟩
      case h_2 => contradiction
    case h_2 => contradiction
  · rintro ⟨rfl, hbody⟩
    -- the closing bracket is where the body stops
    have hstop : isBodyChar ']' = false := rfl
    rw [directiveAt?, List.dropWhile_append_of_pos hbody, List.takeWhile_append_of_pos hbody,
      List.dropWhile_cons_of_neg (Bool.eq_false_iff.mp hstop),
      List.takeWhile_cons_of_neg (Bool.eq_false_iff.mp hstop), List.append_nil]
    rfl

/-- A directive starts at an opening bracket whose text behind it completes one. -/
theorem isSome_directiveAt?_cons {c : Char} {s : List Char} :
    (directiveAt? (c :: s)).isSome ↔ c = '[' ∧ Opens s := by
  rw [Option.isSome_iff_exists]
  constructor
  · rintro ⟨⟨body, rest⟩, h⟩
    obtain ⟨h, hbody⟩ := directiveAt?_eq_some_iff.mp h
    obtain ⟨rfl, rfl⟩ := List.cons.inj h
    exact ⟨rfl, opens_cons.mpr ⟨rfl, closes_iff.mpr ⟨body, rest, rfl, hbody⟩⟩⟩
  · rintro ⟨rfl, hopens⟩
    cases s with
    | nil => exact absurd hopens.2 not_closes_nil
    | cons d s =>
        obtain ⟨rfl, hcloses⟩ := opens_cons.mp hopens
        obtain ⟨body, rest, rfl, hbody⟩ := closes_iff.mp hcloses
        exact ⟨(body, rest), directiveAt?_eq_some_iff.mpr ⟨rfl, hbody⟩⟩

/-- No directive is read where no text behind an opening bracket completes one. -/
theorem directiveAt?_cons_eq_none_iff {c : Char} {s : List Char} :
    directiveAt? (c :: s) = none ↔ ¬(c = '[' ∧ Opens s) := by
  rw [← isSome_directiveAt?_cons, Option.not_isSome_iff_eq_none]

/-- The empty text has no directive. -/
theorem not_hasDirective_nil : ¬HasDirective [] := by
  rintro ⟨before, body, after, h, -⟩
  simp at h

/-- A text has a directive at its start or further on. -/
theorem hasDirective_cons {c : Char} {s : List Char} :
    HasDirective (c :: s) ↔ c = '[' ∧ Opens s ∨ HasDirective s := by
  rw [← isSome_directiveAt?_cons, Option.isSome_iff_exists]
  constructor
  · rintro ⟨before, body, after, h, hbody⟩
    rcases List.cons_eq_append_iff.mp h with ⟨-, h⟩ | ⟨before, -, h⟩
    · exact Or.inl ⟨(body, after), directiveAt?_eq_some_iff.mpr ⟨h.symm, hbody⟩⟩
    · exact Or.inr ⟨before, body, after, h, hbody⟩
  · rintro (⟨⟨body, after⟩, h⟩ | ⟨before, body, after, rfl, hbody⟩)
    · obtain ⟨h, hbody⟩ := directiveAt?_eq_some_iff.mp h
      exact ⟨[], body, after, h, hbody⟩
    · exact ⟨c :: before, body, after, rfl, hbody⟩

/-! ## Segments -/

@[simp] theorem segments_nil : segments [] = [] := by
  rw [segments]
  rfl

/-- A directive at the start is the first segment. -/
theorem segments_of_directiveAt? {s body rest : List Char}
    (h : directiveAt? s = some (body, rest)) : segments s = .directive body :: segments rest := by
  rw [segments]
  split
  case h_1 body' rest' h' =>
    obtain ⟨rfl, rfl⟩ := Prod.mk.inj (Option.some.inj (h.symm.trans h'))
    rfl
  case h_2 h' => exact absurd (h.symm.trans h') (Option.some_ne_none _)

/-- Without a directive at the start, the first character is prose. -/
theorem segments_cons {c : Char} {s : List Char} (h : directiveAt? (c :: s) = none) :
    segments (c :: s) = .prose c :: segments s := by
  rw [segments]
  split
  case h_1 h' => exact absurd (h.symm.trans h').symm (Option.some_ne_none _)
  case h_2 => rfl

/-- What stands behind an opening bracket says nothing about the next bracket in front of it. -/
theorem closes_append_bracket {s t : List Char} : Closes (s ++ '[' :: t) ↔ Closes s := by
  have hbracket : ('[' :: t).find? (fun c => !isBodyChar c) = some '[' := rfl
  rw [Closes, Closes, List.find?_append, hbracket]
  cases s.find? (fun c => !isBodyChar c) with
  | none => simp
  | some c => rfl

/-- A directive is completed in front of the next opening bracket, if at all. -/
theorem opens_append_bracket {s t : List Char} : Opens (s ++ '[' :: t) ↔ Opens s := by
  rw [Opens, Opens, closes_append_bracket]
  refine and_congr_left fun hcloses => ?_
  cases s with
  | nil => exact absurd hcloses not_closes_nil
  | cons c s => rfl

/-- **A directive is read where it stands**, whatever is in front of it and behind it. -/
theorem segments_append_directive (front : List Char) {body : List Char}
    (hbody : ∀ c ∈ body, isBodyChar c = true) (back : List Char) :
    segments (front ++ '[' :: '@' :: (body ++ ']' :: back)) =
      segments front ++ .directive body :: segments back := by
  induction front using segments.induct with
  | case1 s b rest h _ ih =>
      -- a directive in front
      obtain ⟨hs, hb⟩ := directiveAt?_eq_some_iff.mp h
      have hread : directiveAt? (s ++ '[' :: '@' :: (body ++ ']' :: back)) =
          some (b, rest ++ '[' :: '@' :: (body ++ ']' :: back)) :=
        directiveAt?_eq_some_iff.mpr ⟨by simp [hs], hb⟩
      rw [segments_of_directiveAt? h, segments_of_directiveAt? hread, ih, List.cons_append]
  | case2 =>
      rw [segments_nil]
      exact segments_of_directiveAt? (directiveAt?_eq_some_iff.mpr ⟨rfl, hbody⟩)
  | case3 c s h ih =>
      -- what starts in front would have to end in front, at the bracket at the latest
      have hnone : directiveAt? (c :: (s ++ '[' :: '@' :: (body ++ ']' :: back))) = none := by
        rw [directiveAt?_cons_eq_none_iff, opens_append_bracket]
        exact directiveAt?_cons_eq_none_iff.mp h
      rw [segments_cons h, List.cons_append, segments_cons hnone, ih, List.cons_append]

/-- The directives of a text in front, the directive, and those of the text behind. -/
theorem directives_append_directive (front : List Char) {body : List Char}
    (hbody : ∀ c ∈ body, isBodyChar c = true) (back : List Char) :
    directives (front ++ '[' :: '@' :: (body ++ ']' :: back)) =
      directives front ++ body :: directives back := by
  rw [directives, segments_append_directive front hbody, List.filterMap_append]
  rfl

/-- The insides of directives are what stands between the brackets of one. -/
theorem mem_directives_iff {body s : List Char} :
    body ∈ directives s ↔ ∃ front back, s = front ++ '[' :: '@' :: (body ++ ']' :: back) ∧
      ∀ c ∈ body, isBodyChar c = true := by
  constructor
  · intro h
    -- directives are cut out from the left, and the induction follows the cutting
    induction s using segments.induct with
    | case1 s b rest hd _ ih =>
        obtain ⟨hs, hb⟩ := directiveAt?_eq_some_iff.mp hd
        rw [directives, segments_of_directiveAt? hd] at h
        rcases List.mem_cons.mp h with rfl | hmem
        · exact ⟨[], rest, hs, hb⟩
        · -- the other directive is found in front of it
          obtain ⟨front, back, rfl, hbody⟩ := ih hmem
          exact ⟨'[' :: '@' :: (b ++ ']' :: front), back, by simp [hs], hbody⟩
    | case2 =>
        rw [directives, segments_nil] at h
        contradiction
    | case3 c s hd ih =>
        rw [directives, segments_cons hd] at h
        obtain ⟨front, back, rfl, hbody⟩ := ih h
        exact ⟨c :: front, back, rfl, hbody⟩
  · rintro ⟨front, back, rfl, hbody⟩
    rw [directives_append_directive front hbody]
    exact List.mem_append_right _ List.mem_cons_self

/-! ## Texts without their directives -/

@[simp] theorem prose_nil : prose [] = [] := by
  rw [prose, segments_nil]
  rfl

/-- A directive at the start is no prose. -/
theorem prose_of_directiveAt? {s body rest : List Char}
    (h : directiveAt? s = some (body, rest)) : prose s = prose rest := by
  rw [prose, segments_of_directiveAt? h]
  rfl

/-- Without a directive at the start, the first character stays. -/
theorem prose_cons {c : Char} {s : List Char} (h : directiveAt? (c :: s) = none) :
    prose (c :: s) = c :: prose s := by
  rw [prose, segments_cons h]
  rfl

/-- A directive leaves nothing behind. -/
theorem prose_append_directive (front : List Char) {body : List Char}
    (hbody : ∀ c ∈ body, isBodyChar c = true) (back : List Char) :
    prose (front ++ '[' :: '@' :: (body ++ ']' :: back)) = prose front ++ prose back := by
  rw [prose, segments_append_directive front hbody, List.filterMap_append]
  rfl

/-- Leaving directives out makes no text longer. -/
theorem length_prose_le (s : List Char) : (prose s).length ≤ s.length := by
  induction s using segments.induct with
  | case1 s body rest h hlt ih =>
      rw [prose_of_directiveAt? h]
      exact ih.trans hlt.le
  | case2 => rw [prose_nil]
  | case3 c s h ih =>
      rw [prose_cons h, List.length_cons, List.length_cons]
      exact Nat.succ_le_succ ih

/-- A text without directives stays. -/
theorem prose_eq_self {s : List Char} (h : ¬HasDirective s) : prose s = s := by
  induction s with
  | nil => exact prose_nil
  | cons c s ih =>
      rw [hasDirective_cons, not_or] at h
      rw [prose_cons (directiveAt?_cons_eq_none_iff.mpr h.1), ih h.2]

/-- A text with a directive gets shorter. -/
theorem length_prose_lt {s : List Char} (h : HasDirective s) : (prose s).length < s.length := by
  induction s with
  | nil => exact absurd h not_hasDirective_nil
  | cons c s ih =>
      cases hd : directiveAt? (c :: s) with
      | some found =>
          rw [prose_of_directiveAt? hd]
          exact (length_prose_le _).trans_lt (length_lt_of_directiveAt? hd)
      | none =>
          rcases hasDirective_cons.mp h with hstart | hrest
          · exact absurd hstart (directiveAt?_cons_eq_none_iff.mp hd)
          · rw [prose_cons hd, List.length_cons, List.length_cons]
            exact Nat.succ_lt_succ (ih hrest)

/-! ## Brackets that are not nested -/

/-- Between two opening brackets of the text stands a closing one. -/
def Unnested (s : List Char) : Prop :=
  ∀ before body after, s = before ++ '[' :: (body ++ '[' :: after) → ']' ∈ body

/-- The end of a text without nested brackets has none either. -/
theorem Unnested.of_append {s t : List Char} (h : Unnested (s ++ t)) : Unnested t := by
  rintro before body after rfl
  exact h (s ++ before) body after (List.append_assoc ..).symm

/-- If a closing bracket comes first, it still does without the directives. -/
theorem closes_of_closes_prose {s : List Char} (hnext : ∀ a t, s = a ++ '[' :: t → ']' ∈ a)
    (h : Closes (prose s)) : Closes s := by
  induction s with
  | nil =>
      rw [prose_nil] at h
      exact h
  | cons c s ih =>
      have hc : c ≠ '[' := fun hc => List.not_mem_nil (hnext [] s (congrArg (· :: s) hc))
      rw [prose_cons (directiveAt?_cons_eq_none_iff.mpr fun h => hc h.1), closes_cons] at h
      rw [closes_cons]
      refine h.imp_right fun ⟨hbody, h⟩ => ⟨hbody, ih (fun a t hs => ?_) h⟩
      -- the closing bracket cannot be the first character
      rcases List.mem_cons.mp (hnext (c :: a) t (congrArg (c :: ·) hs)) with hclose | hmem
      · rw [← hclose] at hbody
        contradiction
      · exact hmem

/-- If a directive would be completed without those within, it is completed with them. -/
theorem opens_of_opens_prose {s : List Char} (hnext : ∀ a t, s = a ++ '[' :: t → ']' ∈ a)
    (h : Opens (prose s)) : Opens s := by
  refine ⟨?_, closes_of_closes_prose hnext h.2⟩
  cases s with
  | nil =>
      rw [prose_nil] at h
      exact h.1
  | cons c s =>
      have hc : c ≠ '[' := fun hc => List.not_mem_nil (hnext [] s (congrArg (· :: s) hc))
      rw [prose_cons (directiveAt?_cons_eq_none_iff.mpr fun h => hc h.1)] at h
      exact h.1

/-- **A text whose brackets are not nested has no directive left** without its directives. -/
theorem not_hasDirective_prose {s : List Char} (h : Unnested s) : ¬HasDirective (prose s) := by
  induction s using segments.induct with
  | case1 s body rest hd _ ih =>
      rw [prose_of_directiveAt? hd]
      obtain ⟨hs, -⟩ := directiveAt?_eq_some_iff.mp hd
      refine ih (Unnested.of_append (s := '[' :: '@' :: (body ++ [']'])) ?_)
      simpa [hs] using h
  | case2 =>
      rw [prose_nil]
      exact not_hasDirective_nil
  | case3 c s hd ih =>
      rw [prose_cons hd, hasDirective_cons]
      rintro (⟨rfl, hopens⟩ | hrest)
      · -- the bracket would start a directive only now, so one was removed before the closing bracket
        refine directiveAt?_cons_eq_none_iff.mp hd ⟨rfl, opens_of_opens_prose ?_ hopens⟩
        exact fun a t hs => h [] a t (congrArg ('[' :: ·) hs)
      · exact ih (Unnested.of_append (s := [c]) h) hrest

/-! ## Texts with directives in the same places -/

/-- Both texts have a directive or none, whatever stands in front of them. -/
structure SameDirectives (s t : List Char) : Prop where
  has : HasDirective s ↔ HasDirective t
  opens : Opens s ↔ Opens t
  closes : Closes s ↔ Closes t

/-- One character in front of both texts changes nothing. -/
theorem SameDirectives.cons {s t : List Char} (h : SameDirectives s t) (c : Char) :
    SameDirectives (c :: s) (c :: t) where
  has := by rw [hasDirective_cons, hasDirective_cons, h.opens, h.has]
  opens := by rw [opens_cons, opens_cons, h.closes]
  closes := by rw [closes_cons, closes_cons, h.closes]

/-- The same text in front of both changes nothing. -/
theorem SameDirectives.append {s t : List Char} (h : SameDirectives s t) (a : List Char) :
    SameDirectives (a ++ s) (a ++ t) := by
  induction a with
  | nil => exact h
  | cons c a ih => exact ih.cons c

/-- A directive needs a closing bracket. -/
theorem Closes.mem {s : List Char} (h : Closes s) : ']' ∈ s :=
  List.mem_of_find?_eq_some h

/-- A text with a directive has a closing bracket. -/
theorem HasDirective.mem {s : List Char} (h : HasDirective s) : ']' ∈ s := by
  obtain ⟨before, body, after, rfl, -⟩ := h
  simp

/-- Two texts without a closing bracket have no directives, whatever stands in front of them. -/
theorem sameDirectives_of_notMem {s t : List Char} (hs : ']' ∉ s) (ht : ']' ∉ t) :
    SameDirectives s t where
  has := iff_of_false (mt HasDirective.mem hs) (mt HasDirective.mem ht)
  opens := iff_of_false (fun h => hs h.2.mem) (fun h => ht h.2.mem)
  closes := iff_of_false (mt Closes.mem hs) (mt Closes.mem ht)

/-- A blank is no bracket. -/
theorem isBodyChar_of_isBlank {b : Char} (hb : isBlank b = true) : isBodyChar b = true :=
  isBodyChar_iff.mpr ⟨fun h => absurd (h ▸ hb) (by decide +kernel),
    fun h => absurd (h ▸ hb) (by decide +kernel)⟩

/-- A blank is no at sign, so behind a bracket it starts no directive. -/
theorem not_opens_blank {b : Char} (hb : isBlank b = true) (s : List Char) : ¬Opens (b :: s) :=
  fun h => absurd ((opens_cons.mp h).1 ▸ hb) (by decide +kernel)

/-- A blank in front does not change which bracket comes next. -/
theorem closes_blank {b : Char} (hb : isBlank b = true) {s : List Char} :
    Closes (b :: s) ↔ Closes s := by
  have hbody := isBodyChar_of_isBlank hb
  rw [closes_cons, or_iff_right (isBodyChar_iff.mp hbody).2, and_iff_right hbody]

/-- A blank in front does not change whether there is a directive. -/
theorem hasDirective_blank {b : Char} (hb : isBlank b = true) {s : List Char} :
    HasDirective (b :: s) ↔ HasDirective s := by
  have hbody := isBodyChar_of_isBlank hb
  rw [hasDirective_cons]
  exact or_iff_right fun h => (isBodyChar_iff.mp hbody).1 h.1

/-- Single spaces between the words make no difference to the directives. -/
theorem hasDirective_joined_and (s : List Char) :
    (HasDirective (joined s) ↔ HasDirective s) ∧ (Closes (joined s) ↔ Closes s) := by
  induction s using wordInduction with
  | stretch a ha => rw [Text.joined_of_blankFree ha]; exact ⟨Iff.rfl, Iff.rfl⟩
  | blank a b s ha hb ih =>
      by_cases hnil : a = []
      · rw [hnil, List.nil_append, Text.joined_blank s hb, hasDirective_blank hb, closes_blank hb]
        exact ih
      · -- behind the word stands a blank in both texts, or only blanks in one and nothing in the other
        have hsame : SameDirectives (if words s = [] then [] else ' ' :: joined s) (b :: s) := by
          split
          case isTrue hwords =>
            refine sameDirectives_of_notMem List.not_mem_nil fun hmem => ?_
            have hblank := (List.mem_cons.mp hmem).elim (· ▸ hb) (Text.isBlank_of_words_eq_nil hwords _)
            contradiction
          case isFalse =>
            exact
              { has := by rw [hasDirective_blank Text.isBlank_space, hasDirective_blank hb, ih.1]
                opens := iff_of_false (not_opens_blank Text.isBlank_space _) (not_opens_blank hb _)
                closes := by rw [closes_blank Text.isBlank_space, closes_blank hb, ih.2] }
        rw [Text.joined_append_blank ⟨hnil, ha⟩ s hb]
        exact ⟨(hsame.append a).has, (hsame.append a).closes⟩

/-- Single spaces between the words do not change whether there is a directive. -/
theorem hasDirective_joined (s : List Char) : HasDirective (joined s) ↔ HasDirective s :=
  (hasDirective_joined_and s).1

end Tablewright.Comment
