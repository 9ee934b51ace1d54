import Tablewright.Proofs.Naming.Characters
import Tablewright.Proofs.Naming.Identifier
import Tablewright.Proofs.Naming.SameWords

/-! # Names in ASCII

The words of a name in ASCII are made of its letters and digits, and no style makes anything else of them:
upper and lower case stay in ASCII, one character for one.

* `Style.mem_apply_of_isAsciiName`: the characters of such a name in any style.
* `head?_camelCase`: its exported form starts with the first letter or digit of the name.
* `isGoIdentifier_camelCase_iff`: so this form is an identifier of Go exactly if that is a letter. It never
  is a keyword, as these start in lower case. -/

namespace Tablewright.Naming

open Unicode

/-- Does the name have characters of ASCII only? -/
def IsAsciiName (name : String) : Prop :=
  ∀ c ∈ name.toList, isAscii c = true

instance (name : String) : Decidable (IsAsciiName name) :=
  List.decidableBAll (fun c => isAscii c = true) name.toList

/-- Is the first letter or digit of the name, which it has to have, a letter? -/
def StartsWithLetter (name : String) : Prop :=
  ∃ c, name.toList.find? Char.isAlphanum = some c ∧ c.isAlpha = true

instance (name : String) : Decidable (StartsWithLetter name) :=
  decidable_of_iff ((name.toList.find? Char.isAlphanum).any Char.isAlpha = true)
    (by simp [StartsWithLetter, Option.any_eq_true])

/-- In ASCII nothing only looks like a letter or a digit, so what passes the check is an identifier of Go. -/
theorem IsAsciiName.isSpecIdentifier {name : String} (h : IsAsciiName name)
    (hcheck : isGoIdentifier name = true) : IsSpecIdentifier name := by
  obtain ⟨c, cs, hs, hc, hcs, hkeyword⟩ := isGoIdentifier_iff.mp hcheck
  rw [IsAsciiName, hs] at h
  have hlook : ∀ d ∈ c :: cs, isLookalike d = false := fun d hd => isLookalike_of_isAscii (h d hd)
  exact ⟨c, cs, hs, first_iff.mpr ⟨hc, hlook c List.mem_cons_self⟩,
    fun d hd => following_iff.mpr ⟨hcs d hd, hlook d (List.mem_cons_of_mem c hd)⟩, hkeyword⟩

/-! ## Words in ASCII -/

/-- Are all characters of the word letters and digits of ASCII? -/
def IsAsciiWord (w : List Char) : Prop :=
  ∀ c ∈ w, c.isAlphanum = true

/-- In a name in ASCII, the letters and numbers are those of ASCII. -/
theorem IsAsciiName.filter_eq {name : String} (h : IsAsciiName name) :
    name.toList.filter isAlphanumeric = name.toList.filter Char.isAlphanum := by
  refine List.filter_congr fun c hc => ?_
  exact isAlphanumeric_of_isAscii (h c hc)

/-- The words of an ASCII name are ASCII words. -/
theorem IsAsciiName.isAsciiWord {name : String} (h : IsAsciiName name) :
    ∀ w ∈ nameWords name.toList, IsAsciiWord w := by
  intro w hw c hc
  obtain ⟨hmem, halnum⟩ := mem_filter_of_mem_nameWords hw hc
  rwa [isAlphanumeric_of_isAscii (h c hmem)] at halnum

/-- A lowered ASCII word is an ASCII word. -/
theorem IsAsciiWord.isAsciiWord_lowerWord {w : List Char} (h : IsAsciiWord w) :
    IsAsciiWord (lowerWord w) := by
  intro d hd
  rw [lowerWord_eq_map h] at hd
  obtain ⟨c, hc, rfl⟩ := List.mem_map.mp hd
  exact isAlphanum_toLower (h c hc)

/-- A word in ASCII is capitalized character by character. -/
theorem IsAsciiWord.capitalize_cons {c : Char} {cs : List Char} (h : IsAsciiWord (c :: cs)) :
    capitalize (c :: cs) = c.toUpper :: lowerWord cs := by
  have hascii : isAscii c = true := isAscii_of_isAlphanum (h c List.mem_cons_self)
  rw [capitalize, toUpper, if_pos hascii]
  rfl

/-- A capitalized ASCII word is an ASCII word. -/
theorem IsAsciiWord.isAsciiWord_capitalize {w : List Char} (h : IsAsciiWord w) :
    IsAsciiWord (capitalize w) := by
  cases w with
  | nil => exact h
  | cons c cs =>
      obtain ⟨hc, hcs⟩ := List.forall_mem_cons.mp h
      rw [h.capitalize_cons]
      exact List.forall_mem_cons.mpr ⟨isAlphanum_toUpper hc, isAsciiWord_lowerWord hcs⟩

/-! ## Names in a style -/

/-- **The characters of a name in ASCII in any style** are letters and digits, and the separators of the
style. -/
theorem Style.mem_apply_of_isAsciiName {name : String} (h : IsAsciiName name) (style : Style) :
    ∀ d ∈ (style.apply name).toList, d.isAlphanum = true ∨ d = '_' ∨ d = '-' := by
  rw [apply, Text.toList_onChars]
  refine forall_mem_assemble (by simp) ?_ ?_
  · intro w hw d hd
    exact .inl ((h.isAsciiWord w hw).isAsciiWord_lowerWord d hd)
  · intro w hw d hd
    exact .inl ((h.isAsciiWord w hw).isAsciiWord_capitalize d hd)

/-- A name in camel case is its capitalized words in turn. -/
theorem toList_camelCase (name : String) :
    (camelCase name).toList = (nameWords name.toList).flatMap capitalize := by
  rw [camelCase, Style.apply, Text.toList_onChars]
  cases nameWords name.toList <;> rfl

/-- The exported form of a name in ASCII has letters and digits only. -/
theorem isAsciiWord_camelCase {name : String} (h : IsAsciiName name) :
    IsAsciiWord (camelCase name).toList := by
  intro d hd
  rw [toList_camelCase] at hd
  obtain ⟨w, hw, hmem⟩ := List.mem_flatMap.mp hd
  exact (h.isAsciiWord w hw).isAsciiWord_capitalize d hmem

/-- Words that are capitalized and joined start with the first character that the words have. -/
theorem head?_flatMap_capitalize {ws : List (List Char)} (h : ∀ w ∈ ws, IsAsciiWord w) :
    (ws.flatMap capitalize).head? = ws.flatten.head?.map Char.toUpper := by
  induction ws with
  | nil => rfl
  | cons w ws ih =>
      obtain ⟨hw, hws⟩ := List.forall_mem_cons.mp h
      cases w with
      | nil =>
          -- an empty word leaves nothing behind
          exact ih hws
      | cons c cs =>
          rw [List.flatMap_cons, hw.capitalize_cons]
          rfl

/-- **The exported form of a name in ASCII starts with its first letter or digit**, in upper case. -/
theorem head?_camelCase {name : String} (h : IsAsciiName name) :
    (camelCase name).toList.head? = (name.toList.find? Char.isAlphanum).map Char.toUpper := by
  rw [toList_camelCase, head?_flatMap_capitalize h.isAsciiWord, flatten_nameWords, h.filter_eq,
    List.head?_filter]

/-! ## Identifiers -/

/-- All words that Go keeps for itself start in lower case. -/
theorem isLower_head_goKeywords : ∀ word ∈ goKeywords, word.toList.head?.any Char.isLower = true := by
  decide +kernel

/-- A character of ASCII that may come first in an identifier, and is a letter or a digit, is a letter. -/
theorem isAlpha_of_first {c : Char} (halnum : c.isAlphanum = true)
    (h : c = '_' ∨ isAlphabetic c = true) : c.isAlpha = true := by
  rcases h with rfl | h
  · exact absurd halnum (by decide)
  · rw [isAlphabetic, CharClass.holds_of_isAscii (isAscii_of_isAlphanum halnum)] at h
    exact h

/-- **The exported form of a name in ASCII is an identifier of Go** exactly if the first letter or digit of
the name is a letter. -/
theorem isGoIdentifier_camelCase_iff {name : String} (h : IsAsciiName name) :
    isGoIdentifier (camelCase name) = true ↔ StartsWithLetter name := by
  have hhead := head?_camelCase h
  have halnum := isAsciiWord_camelCase h
  rw [isGoIdentifier_iff]
  constructor
  · rintro ⟨c, cs, hs, hc, -, -⟩
    rw [hs] at hhead halnum
    obtain ⟨d, hd, rfl⟩ := Option.map_eq_some_iff.mp hhead.symm
    refine ⟨d, hd, ?_⟩
    rw [← isAlpha_toUpper]
    exact isAlpha_of_first (halnum _ List.mem_cons_self) hc
  · rintro ⟨d, hd, halpha⟩
    rw [hd, Option.map_some] at hhead
    obtain ⟨cs, hs⟩ := List.head?_eq_some_iff.mp hhead
    have hupper : d.toUpper.isAlpha = true := (isAlpha_toUpper d).trans halpha
    refine ⟨d.toUpper, cs, hs, .inr ?_, ?_, ?_⟩
    · rw [isAlphabetic, CharClass.holds_of_isAscii (isAscii_of_isAlpha hupper)]
      exact hupper
    · intro e he
      have hmem : e ∈ (camelCase name).toList := by
        rw [hs]
        exact List.mem_cons_of_mem _ he
      right
      rw [isAlphanumeric_of_isAscii (isAscii_of_isAlphanum (halnum e hmem))]
      exact halnum e hmem
    · -- the first letter is in upper case, that of a keyword is not
      intro hkeyword
      obtain ⟨c, hc, hlower⟩ := (Option.any_eq_true _ _).mp (isLower_head_goKeywords _ hkeyword)
      rw [hhead] at hc
      obtain rfl := Option.some.inj hc
      rw [isLower_toUpper] at hlower
      exact Bool.false_ne_true hlower

end Tablewright.Naming
