import Tablewright.Naming.Identifier
import Tablewright.Naming.Style
import Tablewright.Proofs.Lists
import Tablewright.Proofs.Unicode.Case

/-! # Names that are spelled alike

A style takes the words of a name and forgets what stood between them and which case they had. If the words
are plain, a letter with letters and digits behind it, it forgets nothing else: two names are spelled alike
exactly if they have the same words up to case. In snake and kebab case a separator shows where a word ends,
in camel case the next capital does.

* `Style.assemble_eq_assembleSmall`: a style works on the words in lower case.
* `Style.assembleSmall_inj`: it keeps them apart.
* `Style.apply_eq_iff`: when names are spelled alike. -/

namespace Tablewright.Naming

open Unicode

/-- Is each word of the name a letter with letters and digits behind it, all of them in ASCII? -/
def IsPlain (name : String) : Prop :=
  ∀ w ∈ nameWords name.toList, startsThen Char.isAlpha Char.isAlphanum w = true

instance (name : String) : Decidable (IsPlain name) :=
  inferInstanceAs (Decidable (∀ _ ∈ _, _))

/-- Do two names have the same words, up to case? -/
def SameWords (a b : String) : Prop :=
  (nameWords a.toList).map lowerWord = (nameWords b.toList).map lowerWord

instance (a b : String) : Decidable (SameWords a b) :=
  inferInstanceAs (Decidable (_ = _))

/-! ## Words in lower case -/

/-- A small letter with small letters and digits behind it. -/
def IsSmall (w : List Char) : Prop :=
  ∃ c cs, w = c :: cs ∧ c.isLower = true ∧ ∀ d ∈ cs, d.isLower = true ∨ d.isDigit = true

/-- A small word has lowercase letters and digits only. -/
theorem IsSmall.isLower_or_isDigit {w : List Char} (h : IsSmall w) :
    ∀ c ∈ w, c.isLower = true ∨ c.isDigit = true := by
  obtain ⟨c, cs, rfl, hc, hcs⟩ := h
  exact List.forall_mem_cons.mpr ⟨.inl hc, hcs⟩

/-- A small word has no uppercase letter. -/
theorem IsSmall.isUpper_eq_false {w : List Char} (h : IsSmall w) : ∀ c ∈ w, c.isUpper = false :=
  fun c hc => isUpper_eq_false_of_isLower_or_isDigit (h.isLower_or_isDigit c hc)

/-- A word with its first letter in upper case. -/
def raised : List Char → List Char
  | [] => []
  | c :: cs => c.toUpper :: cs

/-- A word of letters and digits is lowered character by character. -/
theorem lowerWord_eq_map {w : List Char} (h : ∀ c ∈ w, c.isAlphanum = true) :
    lowerWord w = w.map Char.toLower := by
  have hlower : ∀ c ∈ w, toLower c = [c.toLower] := fun c hc =>
    if_pos (isAscii_of_isAlphanum (h c hc))
  match w with
  | [] => rfl
  | [c] =>
      have hsigma : c ≠ 'Σ' := by
        rintro rfl
        exact absurd (h 'Σ' List.mem_cons_self) (by decide)
      rw [lowerWord, if_neg hsigma, hlower c List.mem_cons_self]
      rfl
  | c :: d :: cs =>
      rw [lowerWord, hlower c List.mem_cons_self,
        lowerWord_eq_map fun e he => h e (List.mem_cons_of_mem c he)]
      rfl

/-- In lower case a plain word is small, and it is capitalized by raising its first letter. -/
theorem lowerWord_of_plain {w : List Char} (h : startsThen Char.isAlpha Char.isAlphanum w = true) :
    IsSmall (lowerWord w) ∧ capitalize w = raised (lowerWord w) := by
  cases w with
  | nil => contradiction
  | cons c cs =>
      rw [startsThen, Bool.and_eq_true, List.all_eq_true] at h
      obtain ⟨hfirst, hrest⟩ := h
      have hc : c.isAlphanum = true := by
        rw [Char.isAlphanum, hfirst, Bool.true_or]
      rw [capitalize, lowerWord_eq_map (List.forall_mem_cons.mpr ⟨hc, hrest⟩), lowerWord_eq_map hrest,
        List.map_cons]
      refine ⟨⟨_, _, rfl, isLower_toLower hfirst, ?_⟩, ?_⟩
      · rw [List.forall_mem_map]
        exact fun d hd => isLower_or_isDigit_toLower (hrest d hd)
      · -- lowering in between does not change which letter is raised
        rw [raised, toUpper_toLower]
        show toUpper c ++ _ = _
        rw [toUpper, if_pos (isAscii_of_isAlphanum hc)]
        rfl

/-! ## Spellings of small words -/

/-- Put small words together in a style. -/
def Style.assembleSmall : Style → List (List Char) → List Char
  | _, [] => []
  | .smallCamelCase, w :: ws => w ++ ws.flatMap raised
  | .camelCase, ws => ws.flatMap raised
  | .snakeCase, ws => List.intercalate ['_'] ws
  | .kebab, ws => List.intercalate ['-'] ws

/-- **A style works on the words in lower case.** -/
theorem Style.assemble_eq_assembleSmall (style : Style) {ws : List (List Char)}
    (h : ∀ w ∈ ws, startsThen Char.isAlpha Char.isAlphanum w = true) :
    style.assemble ws = style.assembleSmall (ws.map lowerWord) := by
  have hraised {ws : List (List Char)}
      (h : ∀ w ∈ ws, startsThen Char.isAlpha Char.isAlphanum w = true) :
      ws.flatMap capitalize = (ws.map lowerWord).flatMap raised := by
    rw [List.flatMap_def, List.flatMap_def, List.map_map]
    exact congrArg List.flatten (List.map_congr_left fun w hw => (lowerWord_of_plain (h w hw)).2)
  cases ws with
  | nil => cases style <;> rfl
  | cons w ws =>
      cases style with
      | smallCamelCase =>
          rw [assemble, List.map_cons, assembleSmall, hraised (List.forall_mem_cons.mp h).2]
      | camelCase => exact hraised h
      | snakeCase => rfl
      | kebab => rfl

/-! ### Reading words back -/

/-- Is the text empty, or does it start with a capital? -/
def StartsUpper (s : List Char) : Prop :=
  ∀ c ∈ s.head?, c.isUpper = true

/-- What has no uppercase letter ends where an uppercase one follows. -/
theorem takeWhile_append_startsUpper {u s : List Char} (hu : ∀ c ∈ u, c.isUpper = false)
    (hs : StartsUpper s) : (u ++ s).takeWhile (fun c => !c.isUpper) = u := by
  rw [List.takeWhile_append_of_pos (by simpa using hu)]
  cases s with
  | nil => simp
  | cons c s => rw [List.takeWhile_cons_of_neg (by simp [hs c rfl]), List.append_nil]

/-- What stands in front of the first capital can be told. -/
theorem eq_and_eq_of_append_eq {u v s t : List Char} (hu : ∀ c ∈ u, c.isUpper = false)
    (hv : ∀ c ∈ v, c.isUpper = false) (hs : StartsUpper s) (ht : StartsUpper t)
    (h : u ++ s = v ++ t) : u = v ∧ s = t := by
  have hfront : u = v := by
    rw [← takeWhile_append_startsUpper hu hs, h, takeWhile_append_startsUpper hv ht]
  subst hfront
  exact ⟨rfl, List.append_cancel_left h⟩

/-- Raised words start with an uppercase letter, if there are any. -/
theorem startsUpper_flatMap_raised {ws : List (List Char)} (h : ∀ w ∈ ws, IsSmall w) :
    StartsUpper (ws.flatMap raised) := by
  cases ws with
  | nil => intro c hc; contradiction
  | cons w ws =>
      obtain ⟨c, cs, rfl, hc, -⟩ := h w List.mem_cons_self
      intro d hd
      obtain rfl : c.toUpper = d := Option.some.inj hd
      exact isUpper_toUpper hc

/-- **Words with raised first letters can be told apart.** -/
theorem flatMap_raised_inj {vs ws : List (List Char)} (hvs : ∀ w ∈ vs, IsSmall w)
    (hws : ∀ w ∈ ws, IsSmall w) (h : vs.flatMap raised = ws.flatMap raised) : vs = ws := by
  induction vs generalizing ws with
  | nil =>
      cases ws with
      | nil => rfl
      | cons w ws =>
          obtain ⟨c, cs, rfl, -, -⟩ := hws w List.mem_cons_self
          contradiction
  | cons v vs ih =>
      obtain ⟨⟨c, cs, rfl, hc, hcs⟩, hvs'⟩ := List.forall_mem_cons.mp hvs
      cases ws with
      | nil => contradiction
      | cons w ws =>
          obtain ⟨⟨d, ds, rfl, hd, hds⟩, hws'⟩ := List.forall_mem_cons.mp hws
          obtain ⟨hhead, htail⟩ := List.cons.inj h
          -- raising a letter or a digit can be undone
          have hcd : c = d := by
            rw [← toLower_eq_self hc, ← toLower_toUpper, hhead, toLower_toUpper, toLower_eq_self hd]
          -- the word ends where the next uppercase letter stands
          obtain ⟨rfl, hrest⟩ := eq_and_eq_of_append_eq
            (fun e he => isUpper_eq_false_of_isLower_or_isDigit (hcs e he))
            (fun e he => isUpper_eq_false_of_isLower_or_isDigit (hds e he))
            (startsUpper_flatMap_raised hvs') (startsUpper_flatMap_raised hws') htail
          rw [hcd, ih hvs' hws' hrest]

/-- Joined small words are not empty. -/
theorem intercalate_ne_nil {sep : List Char} {w : List Char} (hw : IsSmall w) (ws : List (List Char)) :
    List.intercalate sep (w :: ws) ≠ [] := by
  obtain ⟨c, cs, rfl, -, -⟩ := hw
  cases ws with
  | nil => simp
  | cons v ws => simp [List.intercalate_cons_cons]

/-- **Words with separators between them can be told apart.** -/
theorem intercalate_inj {sep : Char} (hlower : sep.isLower = false) (hdigit : sep.isDigit = false)
    {vs ws : List (List Char)} (hvs : ∀ w ∈ vs, IsSmall w) (hws : ∀ w ∈ ws, IsSmall w)
    (h : List.intercalate [sep] vs = List.intercalate [sep] ws) : vs = ws := by
  have hsep : ∀ w, IsSmall w → sep ∉ w := by
    intro w hw hmem
    rcases hw.isLower_or_isDigit sep hmem with hmem | hmem
    · exact Bool.noConfusion (hlower.symm.trans hmem)
    · exact Bool.noConfusion (hdigit.symm.trans hmem)
  cases vs with
  | nil =>
      cases ws with
      | nil => rfl
      | cons w ws => exact absurd h.symm (intercalate_ne_nil (hws w List.mem_cons_self) ws)
  | cons v vs =>
      cases ws with
      | nil => exact absurd h (intercalate_ne_nil (hvs v List.mem_cons_self) vs)
      | cons w ws =>
          -- splitting at the separator gives the words back
          rw [← List.splitOn_intercalate sep (fun l hl => hsep l (hvs l hl)) (List.cons_ne_nil v vs), h,
            List.splitOn_intercalate sep (fun l hl => hsep l (hws l hl)) (List.cons_ne_nil w ws)]

/-- **A style keeps small words apart.** -/
theorem Style.assembleSmall_inj (style : Style) {vs ws : List (List Char)} (hvs : ∀ w ∈ vs, IsSmall w)
    (hws : ∀ w ∈ ws, IsSmall w) (h : style.assembleSmall vs = style.assembleSmall ws) : vs = ws := by
  cases style with
  | smallCamelCase =>
      -- the first word ends at the first capital
      match vs, ws with
      | [], [] => rfl
      | [], w :: ws =>
          obtain ⟨c, cs, rfl, -⟩ := hws w List.mem_cons_self
          contradiction
      | v :: vs, [] =>
          obtain ⟨c, cs, rfl, -⟩ := hvs v List.mem_cons_self
          contradiction
      | v :: vs, w :: ws =>
          obtain ⟨hv, hvs'⟩ := List.forall_mem_cons.mp hvs
          obtain ⟨hw, hws'⟩ := List.forall_mem_cons.mp hws
          obtain ⟨rfl, hrest⟩ := eq_and_eq_of_append_eq hv.isUpper_eq_false hw.isUpper_eq_false
            (startsUpper_flatMap_raised hvs') (startsUpper_flatMap_raised hws') h
          rw [flatMap_raised_inj hvs' hws' hrest]
  | camelCase =>
      have hcamel (ws : List (List Char)) : camelCase.assembleSmall ws = ws.flatMap raised := by
        cases ws <;> rfl
      rw [hcamel, hcamel] at h
      exact flatMap_raised_inj hvs hws h
  | snakeCase =>
      have hsnake (ws : List (List Char)) : snakeCase.assembleSmall ws = List.intercalate ['_'] ws := by
        cases ws <;> rfl
      rw [hsnake, hsnake] at h
      exact intercalate_inj (by decide) (by decide) hvs hws h
  | kebab =>
      have hkebab (ws : List (List Char)) : kebab.assembleSmall ws = List.intercalate ['-'] ws := by
        cases ws <;> rfl
      rw [hkebab, hkebab] at h
      exact intercalate_inj (by decide) (by decide) hvs hws h

/-- **Names with plain words are spelled alike if they have the same words up to case.** -/
theorem Style.apply_eq_iff (style : Style) {a b : String} (ha : IsPlain a) (hb : IsPlain b) :
    style.apply a = style.apply b ↔ SameWords a b := by
  have hsmall {s : String} (hs : IsPlain s) : ∀ w ∈ (nameWords s.toList).map lowerWord, IsSmall w :=
    List.forall_mem_map.mpr fun w hw => (lowerWord_of_plain (hs w hw)).1
  rw [← String.toList_inj, apply, apply, Text.toList_onChars, Text.toList_onChars,
    style.assemble_eq_assembleSmall ha, style.assemble_eq_assembleSmall hb]
  exact ⟨style.assembleSmall_inj (hsmall ha) (hsmall hb), congrArg _⟩

end Tablewright.Naming
