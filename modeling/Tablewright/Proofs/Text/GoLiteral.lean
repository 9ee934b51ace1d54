import Tablewright.Artifact.GoModel
import Tablewright.Text.Hexadecimal
import Tablewright.Text.Quoted

/-! # What Go string literals stand for

The value of a string literal in Go is a sequence of bytes. `Go.readLiteral?` reads a literal as the
language defines it: a character stands for its UTF-8 form; a backslash starts an escape, which names
a control character, a backslash or a quote, a byte in hexadecimal or octal digits, or a character by
its code point; and a literal ends at its first bare quote, which has to come before the line ends.

* `Go.literalValue?_goLiteral`: a text written with escapes stands for itself.
* `Go.literalValue?_quoted_iff`: a text that is put between quotes as it is stands for itself exactly
  if it is plain, that is without quotes, backslashes and line feeds. An escape has fewer bytes than
  its written form, so a literal with an escape in it never stands for what is written. -/

namespace Tablewright.Go

/-! ## Bytes -/

/-- The UTF-8 form of a text. -/
def utf8 (s : List Char) : List UInt8 :=
  s.flatMap String.utf8EncodeChar

@[simp] theorem utf8_nil : utf8 [] = [] := rfl

/-- The bytes of the first character come first. -/
@[simp] theorem utf8_cons (c : Char) (s : List Char) :
    utf8 (c :: s) = String.utf8EncodeChar c ++ utf8 s := rfl

/-- The bytes of a joined text are those of its parts in turn. -/
@[simp] theorem utf8_append (s t : List Char) : utf8 (s ++ t) = utf8 s ++ utf8 t :=
  List.flatMap_append

/-- Every character has a byte at least. -/
theorem length_le_length_utf8 (s : List Char) : s.length ≤ (utf8 s).length := by
  induction s with
  | nil => exact Nat.le_refl 0
  | cons c s ih =>
      have hpos := c.utf8Size_pos
      rw [utf8_cons, List.length_append, String.length_utf8EncodeChar, List.length_cons]
      omega

/-! ## Escapes -/

/-- The byte that one character behind a backslash stands for. -/
def signByte? (c : Char) : Option UInt8 :=
  [('a', 0x07), ('b', 0x08), ('f', 0x0C), ('n', 0x0A), ('r', 0x0D), ('t', 0x09), ('v', 0x0B),
    ('\\', 0x5C), ('"', 0x22)].lookup c

/-- The number that a fixed count of hexadecimal digits writes, and the text behind them. -/
def hexDigits? (width : Nat) (s : List Char) : Option (Nat × List Char) :=
  if s.length < width then none
  else (Text.hexNumber? (s.take width)).map fun n => (n, s.drop width)

/-- The character that a fixed count of hexadecimal digits names, and the text behind them. -/
def hexChar? (width : Nat) (s : List Char) : Option (List UInt8 × List Char) :=
  (hexDigits? width s).bind fun r =>
    if r.1.isValidChar then some (String.utf8EncodeChar (Char.ofNat r.1), r.2) else none

/-- The byte that three octal digits write, and the text behind them. -/
def octalByte? : List Char → Option (List UInt8 × List Char)
  | a :: b :: c :: cs =>
    let digit (d : Char) : Nat := d.toNat - '0'.toNat
    let n := 64 * digit a + 8 * digit b + digit c
    if ([a, b, c].all fun d => '0' ≤ d && d ≤ '7') && n < 0x100 then some ([UInt8.ofNat n], cs)
    else none
  | _ => none

/-- What an escape stands for, read behind its backslash, and the text behind it. -/
def escaped? : List Char → Option (List UInt8 × List Char)
  | [] => none
  | c :: cs =>
    match signByte? c with
    | some byte => some ([byte], cs)
    | none =>
      if c = 'x' then (hexDigits? 2 cs).map fun r => ([UInt8.ofNat r.1], r.2)
      else if c = 'u' then hexChar? 4 cs
      else if c = 'U' then hexChar? 8 cs
      else octalByte? (c :: cs)

/-- A number of fixed width uses up that many characters. -/
theorem hexDigits?_eq_some {width n : Nat} {s rest : List Char}
    (h : hexDigits? width s = some (n, rest)) : ∃ used, s = used ++ rest ∧ used.length = width := by
  rw [hexDigits?] at h
  split at h
  · contradiction
  · rename_i hlength
    obtain ⟨n', -, hpair⟩ := Option.map_eq_some_iff.mp h
    obtain ⟨-, rfl⟩ := Prod.mk.inj hpair
    exact ⟨s.take width, (List.take_append_drop width s).symm, List.length_take_of_le (by omega)⟩

/-- A character by its number uses up the digits and gives four bytes at most. -/
theorem hexChar?_eq_some {width : Nat} {s rest : List Char} {bytes : List UInt8}
    (h : hexChar? width s = some (bytes, rest)) :
    ∃ used, s = used ++ rest ∧ used.length = width ∧ bytes.length ≤ 4 := by
  obtain ⟨⟨n, rest'⟩, hdigits, hchar⟩ := Option.bind_eq_some_iff.mp h
  obtain ⟨used, hs, hwidth⟩ := hexDigits?_eq_some hdigits
  split at hchar
  · obtain ⟨rfl, rfl⟩ := Prod.mk.inj (Option.some.inj hchar)
    refine ⟨used, hs, hwidth, ?_⟩
    rw [String.length_utf8EncodeChar]
    exact Char.utf8Size_le_four _
  · contradiction

/-- An octal escape uses up three digits and gives one byte. -/
theorem octalByte?_eq_some {s rest : List Char} {bytes : List UInt8}
    (h : octalByte? s = some (bytes, rest)) :
    ∃ used, s = used ++ rest ∧ used.length = 3 ∧ bytes.length = 1 := by
  match s with
  | a :: b :: c :: cs =>
      rw [octalByte?] at h
      split at h
      · obtain ⟨rfl, rfl⟩ := Prod.mk.inj (Option.some.inj h)
        exact ⟨[a, b, c], rfl, rfl, rfl⟩
      · contradiction
  | [] | [_] | [_, _] => contradiction

/-- **An escape has at most as many bytes as characters behind its backslash.** -/
theorem escaped?_eq_some {s rest : List Char} {bytes : List UInt8}
    (h : escaped? s = some (bytes, rest)) :
    ∃ used, s = used ++ rest ∧ bytes.length ≤ used.length := by
  match s with
  | [] => contradiction
  | c :: cs =>
      rw [escaped?] at h
      -- a single character, two digits, four, eight, or an octal number
      split at h
      · obtain ⟨rfl, rfl⟩ := Prod.mk.inj (Option.some.inj h)
        exact ⟨[c], rfl, Nat.le_refl 1⟩
      split at h
      · obtain ⟨⟨n, rest'⟩, hdigits, hpair⟩ := Option.map_eq_some_iff.mp h
        obtain ⟨rfl, rfl⟩ := Prod.mk.inj hpair
        obtain ⟨used, hs, hwidth⟩ := hexDigits?_eq_some hdigits
        exact ⟨c :: used, by rw [hs]; rfl, by simp [hwidth]⟩
      split at h
      · obtain ⟨used, hs, hwidth, hbytes⟩ := hexChar?_eq_some h
        exact ⟨c :: used, by rw [hs]; rfl, by rw [List.length_cons, hwidth]; omega⟩
      split at h
      · obtain ⟨used, hs, hwidth, hbytes⟩ := hexChar?_eq_some h
        exact ⟨c :: used, by rw [hs]; rfl, by rw [List.length_cons, hwidth]; omega⟩
      · obtain ⟨used, hs, hwidth, hbytes⟩ := octalByte?_eq_some h
        exact ⟨used, hs, by omega⟩

/-- What an escape leaves is no longer than the text it was read from. -/
theorem length_le_of_escaped? {s rest : List Char} {bytes : List UInt8}
    (h : escaped? s = some (bytes, rest)) : rest.length ≤ s.length := by
  obtain ⟨used, rfl, -⟩ := escaped?_eq_some h
  rw [List.length_append]
  omega

/-! ## Literals -/

/-- Read a literal behind its opening quote: what it stands for, and the text behind its closing
quote. -/
def readLiteral? (s : List Char) : Option (List UInt8 × List Char) :=
  match s with
  | [] => none
  | c :: cs =>
    if c = '"' then some ([], cs)
    else if c = '\n' then none
    else if c = '\\' then
      match h : escaped? cs with
      | none => none
      | some (bytes, rest) =>
        have : rest.length ≤ cs.length := length_le_of_escaped? h
        (readLiteral? rest).map fun r => (bytes ++ r.1, r.2)
    else (readLiteral? cs).map fun r => (String.utf8EncodeChar c ++ r.1, r.2)
termination_by s.length

/-- The value of a text that is one literal and nothing else. -/
def literalValue? (literal : String) : Option (List UInt8) :=
  match literal.toList with
  | '"' :: s =>
    match readLiteral? s with
    | some (value, []) => some value
    | _ => none
  | _ => none

/-- May a character stand for itself in a literal? -/
def IsPlain (c : Char) : Prop :=
  c ≠ '"' ∧ c ≠ '\n' ∧ c ≠ '\\'

instance (c : Char) : Decidable (IsPlain c) :=
  inferInstanceAs (Decidable (_ ∧ _))

/-- May all characters of a text stand for themselves in a literal? -/
def Plain (s : String) : Prop :=
  ∀ c ∈ s.toList, IsPlain c

instance (s : String) : Decidable (Plain s) :=
  List.decidableBAll IsPlain s.toList

/-- A text between double quotes, as it is. -/
def quoted (s : String) : String :=
  "\"" ++ s ++ "\""

/-- The closing quote ends a literal. -/
theorem readLiteral?_quote (rest : List Char) : readLiteral? ('"' :: rest) = some ([], rest) := by
  rw [readLiteral?, if_pos rfl]

/-- A plain character stands for its own bytes. -/
theorem readLiteral?_plain {c : Char} (hc : IsPlain c) (s : List Char) :
    readLiteral? (c :: s) =
      (readLiteral? s).map fun r => (String.utf8EncodeChar c ++ r.1, r.2) := by
  rw [readLiteral?, if_neg hc.1, if_neg hc.2.1, if_neg hc.2.2]

/-- An escape of one character stands for a byte. -/
theorem readLiteral?_sign {c : Char} {byte : UInt8} (hc : signByte? c = some byte)
    (s : List Char) :
    readLiteral? ('\\' :: c :: s) = (readLiteral? s).map fun r => (byte :: r.1, r.2) := by
  have hescaped : escaped? (c :: s) = some ([byte], s) := by
    rw [escaped?, hc]
  rw [readLiteral?, if_neg (by decide), if_neg (by decide), if_pos rfl]
  split
  · rename_i hnone
    rw [hescaped] at hnone
    contradiction
  · rename_i bytes rest hsome
    rw [hescaped] at hsome
    obtain ⟨rfl, rfl⟩ := Prod.mk.inj (Option.some.inj hsome)
    rfl

/-! ## Texts written with escapes -/

/-- A character that is written with an escape, or as itself, stands for itself. -/
theorem readLiteral?_escapeChar (c : Char) (s : List Char) :
    readLiteral? (Text.escapeChar '"' c ++ s) =
      (readLiteral? s).map fun r => (String.utf8EncodeChar c ++ r.1, r.2) := by
  by_cases hc : c ∈ ['\\', '"', '\n', '\r', '\t']
  · simp only [List.mem_cons, List.not_mem_nil, or_false] at hc
    rcases hc with rfl | rfl | rfl | rfl | rfl <;> exact readLiteral?_sign rfl s
  · simp only [List.mem_cons, List.not_mem_nil, or_false, not_or] at hc
    obtain ⟨hslash, hquote, hfeed, hreturn, htab⟩ := hc
    rw [Text.escapeChar, if_neg hslash, if_neg hquote, if_neg hfeed, if_neg hreturn, if_neg htab]
    exact readLiteral?_plain ⟨hquote, hfeed, hslash⟩ s

/-- **What is escaped for a literal is read back from it.** -/
theorem readLiteral?_escape (s rest : List Char) :
    readLiteral? (Text.escape '"' s ++ '"' :: rest) = some (utf8 s, rest) := by
  induction s with
  | nil => exact readLiteral?_quote rest
  | cons c s ih =>
      rw [Text.escape_cons, List.append_assoc, readLiteral?_escapeChar, ih]
      rfl

/-- **A text that is written with escapes stands for itself.** -/
theorem literalValue?_goLiteral (s : String) :
    literalValue? (Artifact.GoModel.goLiteral s) = some (utf8 s.toList) := by
  have hchars : (Artifact.GoModel.goLiteral s).toList =
      '"' :: (Text.escape '"' s.toList ++ ['"']) := by
    simp [Artifact.GoModel.goLiteral]
  simp only [literalValue?, hchars, readLiteral?_escape]

/-! ## Texts written as they are -/

/-- Plain characters up to the quote are read as they stand. -/
theorem readLiteral?_append_quote {s : List Char} (hs : ∀ c ∈ s, IsPlain c) (rest : List Char) :
    readLiteral? (s ++ '"' :: rest) = some (utf8 s, rest) := by
  induction s with
  | nil => exact readLiteral?_quote rest
  | cons c s ih =>
      obtain ⟨hc, hs⟩ := List.forall_mem_cons.mp hs
      rw [List.cons_append, readLiteral?_plain hc, ih hs]
      rfl

/-- **A literal has fewer bytes than its written form**, its closing quote included, and fewer by one
only if all its characters stand for themselves. -/
theorem length_of_readLiteral? {s rest : List Char} {value : List UInt8}
    (h : readLiteral? s = some (value, rest)) :
    value.length + (utf8 rest).length + 1 ≤ (utf8 s).length ∧
      (value.length + (utf8 rest).length + 1 = (utf8 s).length →
        ∃ inside, s = inside ++ '"' :: rest ∧ ∀ c ∈ inside, IsPlain c) := by
  fun_induction readLiteral? s generalizing value with
  | case1 | case3 | case4 => contradiction
  | case2 cs =>
      -- the closing quote
      obtain ⟨rfl, rfl⟩ := Prod.mk.inj (Option.some.inj h)
      have hquote : (String.utf8EncodeChar '"').length = 1 := rfl
      rw [utf8_cons, List.length_append, hquote, List.length_nil]
      exact ⟨by omega, fun _ => ⟨[], rfl, fun _ hd => absurd hd List.not_mem_nil⟩⟩
  | case5 cs bytes rest hescaped _ _ _ ih =>
      -- an escape: with the backslash its written form is longer than what it stands for
      obtain ⟨⟨value', rest'⟩, hread, hpair⟩ := Option.map_eq_some_iff.mp h
      simp only [Prod.mk.injEq] at hpair
      obtain ⟨rfl, rfl⟩ := hpair
      obtain ⟨used, rfl, hused⟩ := escaped?_eq_some hescaped
      obtain ⟨hle, -⟩ := ih hread
      have hslash : (String.utf8EncodeChar '\\').length = 1 := rfl
      have hbytes := length_le_length_utf8 used
      rw [utf8_cons, utf8_append, List.length_append, List.length_append, List.length_append, hslash]
      exact ⟨by omega, fun heq => by omega⟩
  | case6 c cs hquote hfeed hslash ih =>
      -- a character that stands for itself
      obtain ⟨⟨value', rest'⟩, hread, hpair⟩ := Option.map_eq_some_iff.mp h
      simp only [Prod.mk.injEq] at hpair
      obtain ⟨rfl, rfl⟩ := hpair
      obtain ⟨hle, heq⟩ := ih hread
      rw [utf8_cons, List.length_append, List.length_append]
      refine ⟨by omega, fun hlength => ?_⟩
      obtain ⟨inside, rfl, hinside⟩ := heq (by omega)
      exact ⟨c :: inside, rfl, List.forall_mem_cons.mpr ⟨⟨hquote, hfeed, hslash⟩, hinside⟩⟩

/-- **A text that is put between quotes as it is stands for itself exactly if it is plain.** -/
theorem literalValue?_quoted_iff (s : String) :
    literalValue? (quoted s) = some (utf8 s.toList) ↔ Plain s := by
  have hchars : (quoted s).toList = '"' :: (s.toList ++ ['"']) := by
    simp [quoted]
  constructor
  · intro h
    rw [literalValue?, hchars] at h
    -- the literal takes up the whole text, so it is longer than its value by the quote alone
    cases hread : readLiteral? (s.toList ++ ['"']) with
    | none => simp [hread] at h
    | some r =>
        obtain ⟨value, rest⟩ := r
        cases rest with
        | cons d rest => simp [hread] at h
        | nil =>
            obtain rfl : value = utf8 s.toList := by simpa [hread] using h
            obtain ⟨-, hplain⟩ := length_of_readLiteral? hread
            obtain ⟨inside, hinside, hall⟩ := hplain (by simp; rfl)
            rw [Plain, List.append_cancel_right hinside]
            exact hall
  · intro h
    simp only [literalValue?, hchars, readLiteral?_append_quote h]

end Tablewright.Go
