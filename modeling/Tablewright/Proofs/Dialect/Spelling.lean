import Tablewright.Proofs.Dialect.Beginning

/-! # Spellings as patterns

The spelling of a column type can be written as a pattern: a word at the start of the text, the edge of
the word, and what has to follow. An `Ending` is a way to write what has to follow, with the proof that
its parts read nothing but what its tail accepts.

* `Spelling.foundIn_iff`: the pattern of a spelling is found in the texts that start with one of its
  words and go on as its ending does.
* `Spelling.exists_accepts_of_foundIn`, `Spelling.foundIn_of_accepts`: so a rule for one of the words
  accepts these texts, and no others if the ending is exact. -/

namespace Tablewright.Dialect

open Pattern (CharSet Place Regex)
open Unicode (isDigit isWord)

/-! ## Endings -/

/-- What has to follow a word: as parts of a pattern, and as a tail. -/
structure Ending where
  parts : List Regex
  tail : Tail
  /-- Do the parts read all that the tail accepts? -/
  isExact : Bool
  ordered : ∀ part ∈ parts, part.Ordered
  accepts_of_reads : ∀ before text,
    (Regex.all parts).ReadsFrom before text → tail.accepts text = true
  reads_of_accepts : isExact = true → ∀ before text, tail.accepts text = true →
    (Regex.all parts).ReadsFrom before text

namespace Ending

/-- Parts that read exactly what a tail accepts. -/
def exact (parts : List Regex) (tail : Tail) (ordered : ∀ part ∈ parts, part.Ordered)
    (begins : Begins parts fun s => tail.accepts s = true) : Ending where
  parts := parts
  tail := tail
  isExact := true
  ordered := ordered
  accepts_of_reads before text := (begins before text).mp
  reads_of_accepts _ before text := (begins before text).mpr

/-- Nothing. -/
def free : Ending :=
  exact [] .free (List.forall_mem_nil _) fun before text =>
    (Begins.nil before text).trans (iff_of_true trivial rfl)

/-- `(1)` -/
def one : Ending :=
  exact oneParts .one ordered_oneParts Begins.nil.one.isSome

/-- A width. -/
def width : Ending :=
  exact widthParts .width ordered_widthParts Begins.nil.width.isSome

/-- A precision and a scale. -/
def precision : Ending :=
  exact precisionParts .precision ordered_precisionParts Begins.nil.precision.isSome

/-- A list of members. -/
def members : Ending :=
  exact memberParts .members ordered_memberParts Begins.members

/-- Parts that may be left out. As nothing has to follow them, they ask for nothing. -/
def maybe (parts : List Regex) (ordered : ∀ part ∈ parts, part.Ordered) : Ending :=
  exact [optional parts] .free (List.forall_mem_singleton.mpr (ordered_optional ordered))
    fun _ _ => iff_of_true (Regex.readsFrom_optional_andThen.mpr (.inl Regex.readsFrom_empty)) rfl

/-- Maybe a width. -/
def maybeWidth : Ending :=
  maybe widthParts ordered_widthParts

/-- Maybe a precision and a scale. -/
def maybePrecision : Ending :=
  maybe precisionParts ordered_precisionParts

/-- Maybe a precision, and maybe a scale with it. -/
def maybeScale : Ending :=
  maybe scaleParts ordered_scaleParts

/-- A text that starts with a width does not start with ` unsigned`. -/
theorem begins_unsigned :
    Begins (optional widthParts :: literals " unsigned") fun s => Tail.unsigned.accepts s = true := by
  have hword : Begins (literals " unsigned") fun s => (after? " unsigned".toList s).isSome = true :=
    (Begins.nil.literals _).isSome
  intro before text
  refine (hword.optional hword.width before text).trans ?_
  simp only [Tail.accepts]
  cases hwidth : afterWidth? text with
  | none => simp
  | some rest =>
      have hnot : after? " unsigned".toList text = none := by
        have hrest : ∃ rest ∈ afterWidth? text, True := ⟨rest, hwidth, trivial⟩
        obtain ⟨s, hs, -⟩ := exists_mem_afterWidth?_iff.mp hrest
        rw [after?_eq_some_iff.mp hs]
        rfl
      rw [hnot]
      simp

/-- ` unsigned`, maybe behind a width. -/
def unsigned : Ending :=
  exact (optional widthParts :: literals " unsigned") .unsigned
    (List.forall_mem_cons.mpr ⟨ordered_optional ordered_widthParts, ordered_literals _⟩)
    begins_unsigned

/-- An ending with ` unsigned` behind it, which its tail does not ask for. -/
def withUnsigned (e : Ending) : Ending where
  parts := e.parts ++ literals " unsigned"
  tail := e.tail
  isExact := false
  ordered := List.forall_mem_append.mpr ⟨e.ordered, ordered_literals _⟩
  accepts_of_reads before text h := by
    rw [Regex.all_append] at h
    exact e.accepts_of_reads before text (Regex.readsFrom_of_andThen h)
  reads_of_accepts h := by contradiction

end Ending

/-! ## Spellings -/

/-- A word is passed over exactly if it is a prefix and no word character follows. -/
theorem afterWord?_eq_some_iff {word : String} {s rest : List Char} :
    afterWord? word s = some rest ↔
      s = word.toList ++ rest ∧ ∀ c ∈ rest.head?, isWord c = false := by
  rw [← after?_eq_some_iff, afterWord?]
  cases after? word.toList s with
  | none => simp
  | some s' =>
      cases s' with
      | nil =>
          simp only [Option.some.injEq]
          exact ⟨fun h => ⟨h, h ▸ by simp⟩, And.left⟩
      | cons c cs =>
          simp only [Option.some.injEq]
          constructor
          · intro h
            split at h
            · contradiction
            · rename_i hc
              obtain rfl := Option.some.inj h
              exact ⟨rfl, by simpa using hc⟩
          · rintro ⟨rfl, hrest⟩
            rw [if_neg (by simp [hrest c rfl])]

/-- The rule for one spelling accepts the texts that go on in its shape behind its word. -/
theorem accepts_spelled_iff {word : String} {tail : Tail} {kind : ColumnKind} {s : List Char} :
    (spelled word tail kind).accepts s = true ↔
      ∃ rest ∈ afterWord? word s, tail.accepts rest = true := by
  simp only [spelled]
  cases afterWord? word s <;> simp

/-- A spelling of a column type: one of some words, and what has to follow. -/
structure Spelling where written ::
  word : String
  others : List String
  ending : Ending
  kind : ColumnKind
  endsInWord : ∀ w ∈ word :: others, w.toList.getLast?.any isWord = true := by decide

namespace Spelling

/-- The words. -/
def words (s : Spelling) : List String :=
  s.word :: s.others

/-- The spelling as a pattern. -/
def regex (s : Spelling) : Regex :=
  .all ([.place .textStart,
    .oneOf (.all (literals s.word)) (s.others.map fun word => .all (literals word)),
    .place (.edge .either (.property .word))] ++ s.ending.parts)

/-- The rule of the pattern. -/
def rule (s : Spelling) : Rule :=
  ⟨s.regex.foundIn, s.kind⟩

/-- The rules for the words. -/
def rules (s : Spelling) : List Rule :=
  s.words.map fun word => spelled word s.ending.tail s.kind

/-- The parts of a spelling's pattern are ordered. -/
theorem ordered_parts (s : Spelling) :
    ∀ part ∈ [.oneOf (.all (literals s.word)) (s.others.map fun w => .all (literals w)),
      .place (.edge .either (.property .word))] ++ s.ending.parts, part.Ordered := by
  have hliterals (w : String) : (Regex.all (literals w)).Ordered :=
    Regex.ordered_all (ordered_literals w)
  refine List.forall_mem_append.mpr ⟨List.forall_mem_cons.mpr ⟨?_, ?_⟩, s.ending.ordered⟩
  · exact Regex.ordered_oneOf (hliterals _) (List.forall_mem_map.mpr fun w _ => hliterals w)
  · exact List.forall_mem_singleton.mpr trivial

/-- Behind a character of a word, a word ends where no other one follows. -/
theorem holds_wordEdge {before behind : Option Char} (h : before.any isWord = true) :
    (Place.edge .either (.property .word)).holds before behind = true ↔
      ∀ c ∈ behind, isWord c = false := by
  have hword : (CharSet.property .word).holds = isWord := rfl
  rw [Place.holds, hword, h]
  cases behind <;> simp [Pattern.Edge.holds]

/-- A word that ends where it stands, and what follows. -/
theorem readsFrom_word_andThen {word : String} {r : Regex} {text : List Char}
    (h : word.toList.getLast?.any isWord = true) :
    ((Regex.all (literals word)).andThen
        ((Regex.place (.edge .either (.property .word))).andThen r)).ReadsFrom none text ↔
      ∃ rest ∈ afterWord? word text, r.ReadsFrom word.toList.getLast? rest := by
  rw [readsFrom_literals_andThen, Option.or_none]
  simp only [Regex.readsFrom_place_andThen, holds_wordEdge h, Option.mem_def, after?_eq_some_iff,
    afterWord?_eq_some_iff, and_assoc]

/-- **The pattern of a spelling** is found in the texts that start with one of its words and go on as its
ending does. -/
theorem foundIn_iff (s : Spelling) {text : List Char} :
    s.regex.foundIn text = true ↔
      ∃ word ∈ s.words, ∃ rest ∈ afterWord? word text,
        (Regex.all s.ending.parts).ReadsFrom word.toList.getLast? rest := by
  rw [regex, List.cons_append, Regex.all_cons,
    Regex.foundIn_textStart_andThen (Regex.ordered_all s.ordered_parts), List.cons_append,
    List.singleton_append, Regex.all_cons, Regex.all_cons, Regex.readsFrom_oneOf_andThen]
  constructor
  · rintro ⟨r, hr, hreads⟩
    obtain ⟨word, hword, rfl⟩ :=
      List.mem_map.mp (show r ∈ s.words.map fun w => Regex.all (literals w) from hr)
    exact ⟨word, hword, (readsFrom_word_andThen (s.endsInWord word hword)).mp hreads⟩
  · rintro ⟨word, hword, hrest⟩
    have hr : Regex.all (literals word) ∈ s.words.map fun w => Regex.all (literals w) :=
      List.mem_map_of_mem hword
    exact ⟨_, hr, (readsFrom_word_andThen (s.endsInWord word hword)).mpr hrest⟩

/-- A rule for one of the words accepts what is found. -/
theorem exists_accepts_of_foundIn (s : Spelling) {text : List Char} (h : s.regex.foundIn text = true) :
    ∃ rule ∈ s.rules, rule.accepts text = true := by
  obtain ⟨word, hword, rest, hrest, hreads⟩ := s.foundIn_iff.mp h
  exact ⟨_, List.mem_map_of_mem hword,
    accepts_spelled_iff.mpr ⟨rest, hrest, s.ending.accepts_of_reads _ rest hreads⟩⟩

/-- What the rules accept is found if the ending is exact. -/
theorem foundIn_of_accepts (s : Spelling) (hexact : s.ending.isExact = true) {text : List Char}
    {rule : Rule} (hrule : rule ∈ s.rules) (h : rule.accepts text = true) :
    s.regex.foundIn text = true := by
  obtain ⟨word, hword, rfl⟩ := List.mem_map.mp hrule
  obtain ⟨rest, hrest, htail⟩ := accepts_spelled_iff.mp h
  exact s.foundIn_iff.mpr ⟨word, hword, rest, hrest, s.ending.reads_of_accepts hexact _ rest htail⟩

end Spelling

end Tablewright.Dialect
