import Mathlib.Data.List.TakeWhile
import Tablewright.Dialect.Spelling
import Tablewright.Proofs.Pattern.Bounds

/-! # Parts of a pattern at the beginning of a text

The rules that are built in pass over a text part by part: a given beginning, some digits, a width. A
pattern reads it part by part as well (`Begins`), and each part reads what the rules pass over.

* `takeWhile_dropWhile_eq_iff`: where a stretch of a class ends.
* `after?_eq_some_iff`, `afterDigits?_eq_some_iff`, `startsWithMembers_iff`: what the rules pass over.
* `Begins.literals`, `Begins.width`, `Begins.precision`, `Begins.members`, …: a pattern that starts with
  these parts reads the texts that go on, behind what they pass over, as the rest of the pattern
  reads. -/

namespace Tablewright.Dialect

open Pattern (CharSet Regex)
open Unicode (isDigit isWord)

/-! ## What stands behind a beginning -/

variable {s rest : List Char}

/-- What is left behind given characters. -/
theorem after?_eq_some_iff {ks : List Char} : after? ks s = some rest ↔ s = ks ++ rest := by
  induction ks generalizing s with
  | nil => rw [after?, Option.some.injEq, List.nil_append]
  | cons k ks ih =>
      cases s with
      | nil => simp [after?]
      | cons c s =>
          rw [after?, List.cons_append, List.cons.injEq]
          split
          · rename_i heq
            rw [ih, heq, eq_self, true_and]
          · rename_i hne
            exact iff_of_false (by simp) fun h => hne h.1.symm

/-- A stretch of a class, in front of something else, is what `takeWhile` takes. -/
theorem takeWhile_dropWhile_eq_iff {p : Char → Bool} {s w rest : List Char} (hw : ∀ c ∈ w, p c = true) :
    s.takeWhile p = w ∧ s.dropWhile p = rest ↔ s = w ++ rest ∧ ∀ c ∈ rest.head?, p c = false := by
  constructor
  · rintro ⟨rfl, rfl⟩
    refine ⟨List.takeWhile_append_dropWhile.symm, fun c hc => ?_⟩
    have hnot := List.head?_dropWhile_not p s
    rw [Option.mem_def.mp hc] at hnot
    exact hnot
  · rintro ⟨rfl, hrest⟩
    rw [List.takeWhile_append_of_pos hw, List.dropWhile_append_of_pos hw]
    cases rest with
    | nil => exact ⟨by simp, rfl⟩
    | cons c rest =>
        have hc : p c = false := hrest c rfl
        simp [hc]

/-- At least one digit is asked for, and all that stand there are taken. -/
theorem afterDigits?_eq (s : List Char) :
    afterDigits? s = if s.takeWhile isDigit = [] then none else some (s.dropWhile isDigit) := by
  cases s with
  | nil => rfl
  | cons c s => by_cases hc : isDigit c = true <;> simp [afterDigits?, hc]

/-- The digits at the start of a text are all that there are. -/
theorem afterDigits?_eq_some_iff :
    afterDigits? s = some rest ↔
      ∃ u, s = u ++ rest ∧ u ≠ [] ∧ (∀ c ∈ u, isDigit c = true) ∧
        ∀ c ∈ rest.head?, isDigit c = false := by
  have hall : ∀ c ∈ s.takeWhile isDigit, isDigit c = true := fun c hc => List.mem_takeWhile_imp hc
  rw [afterDigits?_eq]
  constructor
  · intro h
    split at h
    · contradiction
    · rename_i hne
      obtain ⟨hs, hhead⟩ := (takeWhile_dropWhile_eq_iff hall).mp ⟨rfl, Option.some.inj h⟩
      exact ⟨_, hs, hne, hall, hhead⟩
  · rintro ⟨u, hs, hne, hu, hhead⟩
    obtain ⟨rfl, rfl⟩ := (takeWhile_dropWhile_eq_iff hu).mpr ⟨hs, hhead⟩
    rw [if_neg hne]

/-- What is behind two beginnings is behind the second one of what is behind the first one. -/
theorem exists_mem_bind_iff {α : Type} {o : Option α} {f : α → Option α} {P : α → Prop} :
    (∃ b ∈ o.bind f, P b) ↔ ∃ a ∈ o, ∃ b ∈ f a, P b := by
  cases o <;> simp

/-- What comes behind a width comes behind its parts, one after the other. -/
theorem exists_mem_afterWidth?_iff {P : List Char → Prop} :
    (∃ rest ∈ afterWidth? s, P rest) ↔
      ∃ s₁ ∈ after? ['('] s, ∃ s₂ ∈ afterDigits? s₁, ∃ rest ∈ after? [')'] s₂, P rest := by
  simp only [afterWidth?, bind, exists_mem_bind_iff]

/-- What comes behind a precision and a scale comes behind their parts, one after the other. -/
theorem exists_mem_afterPrecision?_iff {P : List Char → Prop} :
    (∃ rest ∈ afterPrecision? s, P rest) ↔
      ∃ s₁ ∈ after? ['('] s, ∃ s₂ ∈ afterDigits? s₁, ∃ s₃ ∈ after? [','] s₂,
        ∃ s₄ ∈ afterDigits? s₃, ∃ rest ∈ after? [')'] s₄, P rest := by
  simp only [afterPrecision?, bind, exists_mem_bind_iff]

/-- Members are something on one line, up to a parenthesis. -/
theorem startsWithMembers_iff :
    startsWithMembers s = true ↔
      ∃ u rest, s = '(' :: (u ++ ')' :: rest) ∧ u ≠ [] ∧ ∀ c ∈ u, (c != '\n') = true := by
  constructor
  · intro h
    unfold startsWithMembers at h
    split at h
    · rename_i c cs
      obtain ⟨hc, hclose⟩ := Bool.and_eq_true_iff.mp h
      -- the members end at a parenthesis on the first line
      obtain ⟨u, v, huv⟩ := List.append_of_mem (List.contains_iff_mem.mp hclose)
      have hcs : cs = u ++ ')' :: (v ++ cs.dropWhile (· != '\n')) :=
        calc cs = cs.takeWhile (· != '\n') ++ cs.dropWhile (· != '\n') :=
              List.takeWhile_append_dropWhile.symm
          _ = u ++ ')' :: (v ++ cs.dropWhile (· != '\n')) := by
              rw [huv, List.append_assoc, List.cons_append]
      have hline : ∀ d ∈ u, (d != '\n') = true := by
        intro d hd
        have hmem : d ∈ cs.takeWhile (· != '\n') := by
          rw [huv]
          exact List.mem_append_left _ hd
        exact List.mem_takeWhile_imp (p := (· != '\n')) hmem
      refine ⟨c :: u, v ++ cs.dropWhile (· != '\n'), ?_, by simp, ?_⟩
      · rw [List.cons_append, ← hcs]
      · exact List.forall_mem_cons.mpr ⟨hc, hline⟩
    · contradiction
  · rintro ⟨u, rest, rfl, hne, hall⟩
    obtain ⟨c, u, rfl⟩ := List.exists_cons_of_ne_nil hne
    obtain ⟨hc, hall⟩ := List.forall_mem_cons.mp hall
    -- what follows the members does not hide their parenthesis
    have hclose : ')' ∈ (u ++ ')' :: rest).takeWhile (· != '\n') := by
      rw [List.takeWhile_append_of_pos hall]
      exact List.mem_append_right u (by simp)
    rw [List.cons_append, startsWithMembers, hc, Bool.true_and]
    exact List.contains_iff_mem.mpr hclose

/-! ## Parts of patterns -/

/-- The set of one character, in brackets. -/
def bracketed (c : Char) : CharSet :=
  .union .none (.single c)

/-- The characters of a text, one behind the other. -/
def literals (text : String) : List Regex :=
  text.toList.map fun c => .chars (.single c)

/-- One or more of the characters of a set. -/
def many (t : CharSet) : Regex :=
  .times (.chars t) 1 none

/-- One or more decimal digits. -/
def digits : Regex :=
  many (.property .decimalDigit)

/-- Parts that may be left out together. -/
def optional (parts : List Regex) : Regex :=
  .times (.all parts) 0 (some 1)

/-- The parts of `(1)`. -/
def oneParts : List Regex :=
  [.chars (bracketed '('), .chars (.single '1'), .chars (bracketed ')')]

/-- The parts of a width. -/
def widthParts : List Regex :=
  [.chars (bracketed '('), digits, .chars (bracketed ')')]

/-- The parts of a precision and a scale. -/
def precisionParts : List Regex :=
  [.chars (bracketed '('), digits, .chars (.single ','), digits, .chars (bracketed ')')]

/-- The parts of a precision with a scale that may be left out. -/
def scaleParts : List Regex :=
  [.chars (bracketed '('), digits, optional [.chars (.single ','), digits], .chars (bracketed ')')]

/-- The parts of a list of members: anything on one line. -/
def memberParts : List Regex :=
  [.chars (bracketed '('), many (.compl (.ofText "\n")), .chars (bracketed ')')]

/-- One or more is a repetition without an upper bound. -/
theorem ordered_many (t : CharSet) : (many t).Ordered :=
  ⟨trivial, fun _ h => by contradiction⟩

/-- Single characters hold no repetition. -/
theorem ordered_literals (word : String) : ∀ part ∈ literals word, part.Ordered := by
  intro part hpart
  obtain ⟨c, -, rfl⟩ := List.mem_map.mp hpart
  trivial

/-- Parts that may be left out are repeated at most once. -/
theorem ordered_optional {parts : List Regex} (h : ∀ part ∈ parts, part.Ordered) :
    (optional parts).Ordered :=
  ⟨Regex.ordered_all h, fun m _ => Nat.zero_le m⟩

/-- The parts of `(1)` hold no repetition. -/
theorem ordered_oneParts : ∀ part ∈ oneParts, part.Ordered := by
  simp [oneParts, Regex.Ordered]

/-- The bounds in the parts of a width are in order. -/
theorem ordered_widthParts : ∀ part ∈ widthParts, part.Ordered := by
  simp [widthParts, digits, ordered_many, Regex.Ordered]

/-- The bounds in the parts of a precision are in order. -/
theorem ordered_precisionParts : ∀ part ∈ precisionParts, part.Ordered := by
  simp [precisionParts, digits, ordered_many, Regex.Ordered]

/-- The bounds in the parts of a precision with a scale are in order. -/
theorem ordered_scaleParts : ∀ part ∈ scaleParts, part.Ordered := by
  simp [scaleParts, digits, ordered_many, ordered_optional, Regex.Ordered]

/-- The bounds in the parts of a list of members are in order. -/
theorem ordered_memberParts : ∀ part ∈ memberParts, part.Ordered := by
  simp [memberParts, ordered_many, Regex.Ordered]

/-- A set of one character in brackets holds that character. -/
@[simp] theorem holds_bracketed (c d : Char) : (bracketed c).holds d = (c == d) := by
  rw [bracketed, CharSet.holds, CharSet.holds, CharSet.holds_single, Bool.false_or]

/-- Anything on one line is anything but a line feed. -/
theorem holds_compl_newline (c : Char) :
    (CharSet.compl (.ofText "\n")).holds c = (c != '\n') := by
  have hholds : (CharSet.ofText "\n").holds c = ('\n' == c) := by
    rw [← CharSet.holds_single, ← Bool.or_false ((CharSet.single '\n').holds c)]
    rfl
  rw [CharSet.holds, hholds, bne, Bool.beq_comm]

/-! ### What the parts read -/

/-- The characters of a word read the word. -/
theorem reads_literals {word : String} {before behind : Option Char} :
    (Regex.all (literals word)).reads before s behind ↔ s = word.toList := by
  rw [literals]
  induction word.toList generalizing before s with
  | nil => exact Iff.rfl
  | cons k ks ih =>
      rw [List.map_cons, Regex.all_cons, Regex.reads_andThen]
      constructor
      · rintro ⟨_, v, rfl, ⟨c, rfl, hc⟩, hv⟩
        rw [CharSet.holds_single, beq_iff_eq] at hc
        rw [ih.mp hv, hc, List.singleton_append]
      · rintro rfl
        exact ⟨[k], ks, rfl, ⟨k, rfl, by simp⟩, ih.mpr rfl⟩

/-- What follows a text has its last character in front. -/
theorem readsFrom_literals_andThen {word : String} {r : Regex} {before : Option Char} :
    ((Regex.all (literals word)).andThen r).ReadsFrom before s ↔
      ∃ rest ∈ after? word.toList s, r.ReadsFrom (word.toList.getLast?.or before) rest := by
  simp only [Regex.readsFrom_andThen, reads_literals, Option.mem_def, after?_eq_some_iff]
  constructor
  · rintro ⟨_, rest, rfl, rfl, hr⟩
    exact ⟨rest, rfl, hr⟩
  · rintro ⟨rest, rfl, hr⟩
    exact ⟨word.toList, rest, rfl, rfl, hr⟩

/-- The parts read a beginning of exactly the texts with a property, whatever stands in front. -/
def Begins (parts : List Regex) (P : List Char → Prop) : Prop :=
  ∀ before text, (Regex.all parts).ReadsFrom before text ↔ P text

namespace Begins

variable {parts : List Regex} {P Q : List Char → Prop}

/-- No parts read a beginning of every text. -/
protected theorem nil : Begins [] fun _ => True :=
  fun _ _ => iff_true_intro Regex.readsFrom_empty

/-- A set of one character reads that character, and the other parts what stands behind it. -/
protected theorem chars {t : CharSet} {c : Char} (ht : ∀ d, t.holds d = (c == d))
    (h : Begins parts P) : Begins (.chars t :: parts) fun s => ∃ rest ∈ after? [c] s, P rest := by
  intro before text
  rw [Regex.all_cons, Regex.readsFrom_chars_andThen]
  simp only [Option.mem_def, after?_eq_some_iff, ht, beq_iff_eq, List.singleton_append]
  constructor
  · rintro ⟨d, rest, rfl, rfl, hrest⟩
    exact ⟨rest, rfl, (h _ _).mp hrest⟩
  · rintro ⟨rest, rfl, hrest⟩
    exact ⟨c, rest, rfl, rfl, (h _ _).mpr hrest⟩

/-- A character reads itself. -/
protected theorem single (c : Char) (h : Begins parts P) :
    Begins (.chars (.single c) :: parts) fun s => ∃ rest ∈ after? [c] s, P rest :=
  h.chars (CharSet.holds_single c)

/-- A character in brackets reads itself. -/
protected theorem bracketed (c : Char) (h : Begins parts P) :
    Begins (.chars (bracketed c) :: parts) fun s => ∃ rest ∈ after? [c] s, P rest :=
  h.chars (holds_bracketed c)

/-- One or more characters of a set are read before the other parts go on. -/
protected theorem many (t : CharSet) (h : Begins parts P) :
    Begins (many t :: parts) fun s =>
      ∃ u rest, s = u ++ rest ∧ u ≠ [] ∧ (∀ c ∈ u, t.holds c = true) ∧ P rest := by
  intro before text
  rw [Regex.all_cons, many, Regex.readsFrom_many_andThen]
  exact exists_congr fun u => exists_congr fun rest => by rw [h]

/-- What has no digit in front comes behind all the digits. -/
protected theorem digits (h : Begins parts P) (hP : ∀ s, P s → ∀ c ∈ s.head?, isDigit c = false) :
    Begins (digits :: parts) fun s => ∃ rest ∈ afterDigits? s, P rest := by
  intro before text
  refine (h.many _ before text).trans ?_
  simp only [Option.mem_def, afterDigits?_eq_some_iff]
  constructor
  · rintro ⟨u, rest, rfl, hne, hall, hrest⟩
    exact ⟨rest, ⟨u, rfl, hne, hall, hP rest hrest⟩, hrest⟩
  · rintro ⟨rest, ⟨u, rfl, hne, hall, -⟩, hrest⟩
    exact ⟨u, rest, rfl, hne, hall, hrest⟩

/-- Parts that may be left out are read, or the other parts go on at once. -/
protected theorem optional {shape : List Regex} (h : Begins parts P) (h' : Begins (shape ++ parts) Q) :
    Begins (optional shape :: parts) fun s => P s ∨ Q s := by
  intro before text
  rw [Regex.all_cons, optional, Regex.readsFrom_optional_andThen, ← Regex.all_append]
  exact or_congr (h before text) (h' before text)

/-- With nothing behind the parts, all that counts is that there is something to pass over. -/
protected theorem isSome {f : List Char → Option (List Char)}
    (h : Begins (parts ++ []) fun s => ∃ rest ∈ f s, True) :
    Begins parts fun s => (f s).isSome = true := by
  rw [List.append_nil] at h
  exact fun before text => (h before text).trans (by simp [Option.isSome_iff_exists])

/-! ### Shapes -/

/-- A word is read before the other parts go on. -/
protected theorem literals (word : String) (h : Begins parts P) :
    Begins (literals word ++ parts) fun s => ∃ rest ∈ after? word.toList s, P rest := by
  intro before text
  rw [Regex.all_append, readsFrom_literals_andThen]
  exact exists_congr fun rest => and_congr_right fun _ => h _ _

/-- The text `(1)` is read before the other parts go on. -/
protected theorem one (h : Begins parts P) :
    Begins (oneParts ++ parts) fun s => ∃ rest ∈ after? "(1)".toList s, P rest := by
  intro before text
  refine (((h.bracketed ')').single '1').bracketed '(' before text).trans ?_
  simp only [Option.mem_def, after?_eq_some_iff]
  constructor
  · rintro ⟨_, rfl, _, rfl, rest, rfl, hrest⟩
    exact ⟨rest, rfl, hrest⟩
  · rintro ⟨rest, rfl, hrest⟩
    exact ⟨_, rfl, _, rfl, rest, rfl, hrest⟩

/-- A character that is no digit ends the digits in front of it. -/
theorem not_digit {c : Char} (hc : isDigit c = false) (s : List Char)
    (h : ∃ rest ∈ after? [c] s, P rest) : ∀ d ∈ s.head?, isDigit d = false := by
  obtain ⟨rest, hrest, -⟩ := h
  obtain rfl := after?_eq_some_iff.mp hrest
  intro d hd
  rwa [← Option.some.inj hd]

/-- A width is read before the other parts go on. -/
protected theorem width (h : Begins parts P) :
    Begins (widthParts ++ parts) fun s => ∃ rest ∈ afterWidth? s, P rest := by
  intro before text
  have hdigits := (h.bracketed ')').digits (not_digit (by decide))
  exact (hdigits.bracketed '(' before text).trans exists_mem_afterWidth?_iff.symm

/-- A precision and a scale are read before the other parts go on. -/
protected theorem precision (h : Begins parts P) :
    Begins (precisionParts ++ parts) fun s => ∃ rest ∈ afterPrecision? s, P rest := by
  intro before text
  have hscale := (h.bracketed ')').digits (not_digit (by decide))
  have hdigits := (hscale.single ',').digits (not_digit (by decide))
  exact (hdigits.bracketed '(' before text).trans exists_mem_afterPrecision?_iff.symm

/-- The parts of a list of members read a beginning of the texts that start with one. -/
protected theorem members : Begins memberParts fun s => startsWithMembers s = true := by
  intro before text
  refine (((Begins.nil.bracketed ')').many _).bracketed '(' before text).trans ?_
  simp only [startsWithMembers_iff, Option.mem_def, after?_eq_some_iff, holds_compl_newline]
  constructor
  · rintro ⟨_, rfl, u, _, rfl, hne, hall, rest, rfl, -⟩
    exact ⟨u, rest, rfl, hne, hall⟩
  · rintro ⟨u, rest, rfl, hne, hall⟩
    exact ⟨_, rfl, u, _, rfl, hne, hall, rest, rfl, trivial⟩

end Begins

end Tablewright.Dialect
