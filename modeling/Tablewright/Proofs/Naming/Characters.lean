import Tablewright.Naming.Style
import Tablewright.Proofs.Text.Lines
import Tablewright.Proofs.Unicode.Case

/-! # The characters of spelled names

The words of a name are made of its letters and numbers, and a style writes these in lower or in upper
case and puts its own separator between words. So a spelled name has no other characters
(`Style.mem_apply`), whatever the name is, and no line feed in particular
(`Style.newline_notMem_apply`). -/

namespace Tablewright.Naming

open Unicode

/-! ## The characters of words -/

/-- A character put in front of the first word is in front of the joined words. -/
@[simp] theorem flatten_consHead (c : Char) (ws : List (List Char)) :
    (consHead c ws).flatten = c :: ws.flatten := by
  cases ws <;> rfl

/-- Cutting a stretch by case leaves nothing out. -/
theorem flatten_splitCase (m : Casing) (s : List Char) : (splitCase m s).flatten = s := by
  fun_induction splitCase m s with
  | case1 => rfl
  | case2 => rfl
  | case3 m c d cs _ ih => rw [List.flatten_cons, ih, List.singleton_append]
  | case4 m c d cs _ _ ih => rw [List.flatten_cons, flatten_consHead, ih, List.nil_append]
  | case5 m c d cs _ _ ih => rw [flatten_consHead, ih]

/-- **The words of a name are its letters and numbers**, in order. -/
theorem flatten_nameWords (s : List Char) : (nameWords s).flatten = s.filter isAlphanumeric := by
  have hwords : (nameWords s).flatten = (Text.pieces (fun c => !isAlphanumeric c) s).flatten := by
    rw [nameWords, List.flatMap_def, List.flatten_flatten, List.map_map]
    refine congrArg List.flatten ((List.map_congr_left fun piece _ => ?_).trans (List.map_id _))
    exact flatten_splitCase .uncased piece
  rw [hwords, Text.flatten_pieces]
  simp

/-- The characters of a word are letters and numbers of the name. -/
theorem mem_filter_of_mem_nameWords {s w : List Char} {c : Char} (hw : w ∈ nameWords s)
    (hc : c ∈ w) : c ∈ s ∧ isAlphanumeric c = true := by
  have hmem : c ∈ (nameWords s).flatten := List.mem_flatten_of_mem hw hc
  rw [flatten_nameWords] at hmem
  exact List.mem_filter.mp hmem

/-! ## The characters of spelled words -/

/-- A character of a word in lower case is one of a character of the word, or a final sigma. -/
theorem mem_lowerWord {w : List Char} {d : Char} (h : d ∈ lowerWord w) :
    d = 'ς' ∨ ∃ c ∈ w, d ∈ toLower c := by
  fun_induction lowerWord w with
  | case1 => contradiction
  | case2 => exact .inl (List.mem_singleton.mp h)
  | case3 c _ => exact .inr ⟨c, List.mem_cons_self, h⟩
  | case4 c e cs ih =>
      rcases List.mem_append.mp h with h | h
      · exact .inr ⟨c, List.mem_cons_self, h⟩
      · exact (ih h).imp_right fun ⟨b, hb, hd⟩ => ⟨b, List.mem_cons_of_mem _ hb, hd⟩

/-- A character of a word that is written in some case. -/
def Cased (w : List Char) (d : Char) : Prop :=
  d = 'ς' ∨ ∃ c ∈ w, d ∈ toLower c ∨ d ∈ toUpper c

/-- A character of a lowered word comes from one of the word. -/
theorem cased_of_mem_lowerWord {w : List Char} {d : Char} (h : d ∈ lowerWord w) : Cased w d :=
  (mem_lowerWord h).imp_right fun ⟨c, hc, hd⟩ => ⟨c, hc, .inl hd⟩

/-- A character of a capitalized word comes from one of the word. -/
theorem cased_of_mem_capitalize {w : List Char} {d : Char} (h : d ∈ capitalize w) : Cased w d := by
  cases w with
  | nil => contradiction
  | cons c cs =>
      rcases List.mem_append.mp h with h | h
      · exact .inr ⟨c, List.mem_cons_self, .inr h⟩
      · exact (mem_lowerWord h).imp_right fun ⟨b, hb, hd⟩ => ⟨b, List.mem_cons_of_mem _ hb, .inl hd⟩

/-- **A style brings in separators and nothing else**: what holds of these and of the characters of the words
in lower case and capitalized, holds of all characters of the spelling. -/
theorem Style.forall_mem_assemble {style : Style} {ws : List (List Char)} {P : Char → Prop}
    (hseparator : P '_' ∧ P '-') (hlower : ∀ w ∈ ws, ∀ d ∈ lowerWord w, P d)
    (hcapital : ∀ w ∈ ws, ∀ d ∈ capitalize w, P d) : ∀ d ∈ style.assemble ws, P d := by
  -- stated for some of the words, since small camel case leaves the first one out
  have hcapitals {vs : List (List Char)} (hvs : ∀ w ∈ vs, w ∈ ws) :
      ∀ d ∈ vs.flatMap capitalize, P d := by
    intro d hd
    obtain ⟨w, hw, hmem⟩ := List.mem_flatMap.mp hd
    exact hcapital w (hvs w hw) d hmem
  have hjoined {sep : Char} (hsep : P sep) :
      ∀ d ∈ List.intercalate [sep] (ws.map lowerWord), P d := by
    intro d hd
    rcases mem_or_mem_of_mem_intercalate hd with hd | ⟨l, hl, hd⟩
    · rwa [List.mem_singleton.mp hd]
    · obtain ⟨w, hw, rfl⟩ := List.mem_map.mp hl
      exact hlower w hw d hd
  cases ws with
  | nil =>
      rw [assemble]
      exact List.forall_mem_nil P
  | cons w ws =>
      cases style with
      | smallCamelCase =>
          refine List.forall_mem_append.mpr ⟨hlower w List.mem_cons_self, hcapitals fun v hv => ?_⟩
          exact List.mem_cons_of_mem w hv
      | camelCase => exact hcapitals fun v hv => hv
      | snakeCase => exact hjoined hseparator.1
      | kebab => exact hjoined hseparator.2

/-! ## Spelled names -/

/-- **The characters of a spelled name** are a separator, a final sigma, or a letter or a number of the name
in lower or in upper case. -/
theorem Style.mem_apply {style : Style} {name : String} {d : Char}
    (h : d ∈ (style.apply name).toList) :
    d = '_' ∨ d = '-' ∨ d = 'ς' ∨
      ∃ c, isAlphanumeric c = true ∧ (d ∈ toLower c ∨ d ∈ toUpper c) := by
  rw [apply, Text.toList_onChars] at h
  have hcased : d = '_' ∨ d = '-' ∨ ∃ w ∈ nameWords name.toList, Cased w d :=
    forall_mem_assemble (P := fun d => d = '_' ∨ d = '-' ∨ ∃ w ∈ nameWords name.toList, Cased w d)
      ⟨.inl rfl, .inr (.inl rfl)⟩ (fun w hw d hd => .inr (.inr ⟨w, hw, cased_of_mem_lowerWord hd⟩))
      (fun w hw d hd => .inr (.inr ⟨w, hw, cased_of_mem_capitalize hd⟩)) d h
  refine hcased.imp_right (Or.imp_right ?_)
  rintro ⟨w, hw, hd⟩
  refine hd.imp_right ?_
  rintro ⟨c, hc, hd⟩
  exact ⟨c, (mem_filter_of_mem_nameWords hw hc).2, hd⟩

/-- **A spelled name is on one line**, whatever the name is. -/
theorem Style.newline_notMem_apply (style : Style) (name : String) :
    '\n' ∉ (style.apply name).toList := by
  have hnewline : isAlphanumeric '\n' = false := by decide
  intro h
  rcases mem_apply h with h | h | h | ⟨c, hc, h⟩
  · exact absurd h (by decide)
  · exact absurd h (by decide)
  · exact absurd h (by decide)
  · have hsame : '\n' = c :=
      h.elim caseless_newline.eq_of_mem_toLower caseless_newline.eq_of_mem_toUpper
    rw [← hsame, hnewline] at hc
    exact Bool.false_ne_true hc

end Tablewright.Naming
