import Tablewright.Json.Basic
import Tablewright.Text.Hexadecimal

/-! # Tokens of JSON

`lex` cuts a text into tokens. It stops at the first thing that is no token, which becomes the last
one, so the end of the token list without such a token means the end of the text. -/

namespace Tablewright.Json

/-! ## Quoted texts -/

/-- What the inside of a quoted text starts with. -/
inductive StrPart where
  | char (c : Char) (rest : List Char)
  | close (rest : List Char)
  | unpaired (rest : List Char)
  | fault (f : Fault)

/-- Read four hexadecimal digits. A text with less than four bytes left ends too early. -/
def readHex (s : List Char) : Except Fault (Nat × List Char) :=
  match s with
  | a :: b :: c :: d :: rest =>
    match Text.hexNumber? [a, b, c, d] with
    | some n => .ok (n, rest)
    | none => .error .malformed
  | s => .error (if (String.ofList s).utf8ByteSize < 4 then .truncated else .malformed)

/-- Does a code unit open a surrogate pair? -/
def isHighSurrogate (n : Nat) : Bool :=
  0xD800 ≤ n && n ≤ 0xDBFF

/-- Does a code unit close a surrogate pair? -/
def isLowSurrogate (n : Nat) : Bool :=
  0xDC00 ≤ n && n ≤ 0xDFFF

/-- The character behind `\u`. -/
def unicodeEscape (s : List Char) : StrPart :=
  match readHex s with
  | .error f => .fault f
  | .ok (n, rest) =>
    if isLowSurrogate n then .unpaired rest
    else if isHighSurrogate n then
      match rest with
      | [] => .fault .truncated
      | ['\\'] => .fault .truncated
      | '\\' :: 'u' :: rest' =>
        match readHex rest' with
        | .error f => .fault f
        | .ok (m, rest'') =>
          if isLowSurrogate m then
            .char (Char.ofNat (0x10000 + (n - 0xD800) * 0x400 + (m - 0xDC00))) rest''
          else .unpaired rest
      | _ => .unpaired rest
    else .char (Char.ofNat n) rest

/-- The character that a backslash and one more character stand for. -/
def simpleEscape? (c : Char) : Option Char :=
  if c = '"' ∨ c = '\\' ∨ c = '/' then some c
  else if c = 'b' then some '\x08'
  else if c = 'f' then some '\x0c'
  else if c = 'n' then some '\n'
  else if c = 'r' then some '\r'
  else if c = 't' then some '\t'
  else none

/-- The first part of the inside of a quoted text. -/
def strPart : List Char → StrPart
  | [] => .fault .truncated
  | c :: cs =>
    if c = '"' then .close cs
    else if c = '\\' then
      match cs with
      | [] => .fault .truncated
      | e :: rest =>
        if e = 'u' then unicodeEscape rest
        else match simpleEscape? e with
          | some c => .char c rest
          | none => .fault .malformed
    else if c.toNat < 0x20 then .fault .malformed
    else .char c cs

/-- The text behind a part. -/
def StrPart.rest : StrPart → List Char
  | char _ rest | close rest | unpaired rest => rest
  | fault _ => []

/-- Reading hexadecimal digits uses up text. -/
theorem length_of_readHex {s rest : List Char} {n : Nat} (h : readHex s = .ok (n, rest)) :
    rest.length < s.length := by
  unfold readHex at h
  split at h
  · split at h
    · cases h
      simp only [List.length_cons]
      omega
    · cases h
  · cases h

/-- Reading a Unicode escape never leaves more text. -/
theorem length_rest_unicodeEscape (s : List Char) :
    (unicodeEscape s).rest.length ≤ s.length := by
  unfold unicodeEscape
  split
  · simp [StrPart.rest]
  · rename_i n rest h
    have h₁ := length_of_readHex h
    split
    · exact Nat.le_of_lt h₁
    · split
      · split
        · simp [StrPart.rest]
        · simp [StrPart.rest]
        · rename_i rest' _
          split
          · simp [StrPart.rest]
          · rename_i m rest'' h'
            have h₂ := length_of_readHex h'
            simp only [List.length_cons] at h₁
            split
            · simp only [StrPart.rest]; omega
            · simp only [StrPart.rest, List.length_cons]; omega
        · exact Nat.le_of_lt h₁
      · exact Nat.le_of_lt h₁

/-- A part takes text away. -/
theorem length_rest_strPart {s : List Char} (h : s ≠ []) :
    (strPart s).rest.length < s.length := by
  cases s with
  | nil => exact absurd rfl h
  | cons c cs =>
    simp only [strPart, List.length_cons]
    split
    · simp [StrPart.rest]
    · split
      · split
        · simp [StrPart.rest]
        · rename_i e rest
          split
          · have := length_rest_unicodeEscape rest
            simp only [List.length_cons]
            omega
          · split
            · simp only [StrPart.rest, List.length_cons]
              omega
            · simp [StrPart.rest]
      · split <;> simp [StrPart.rest]

/-- Read the inside of a quoted text from its first half of a surrogate pair on: the fault that
comes before the closing quote, and the text behind that. -/
def skipStr (s : List Char) : Option Fault × Option (List Char) :=
  if hs : s = [] then (some .truncated, none)
  else match h : strPart s with
    | .char _ rest | .unpaired rest =>
      have : rest.length < s.length := by simpa [h, StrPart.rest] using length_rest_strPart hs
      skipStr rest
    | .close rest => (none, some rest)
    | .fault f => (some f, none)
termination_by s.length

/-- Read the inside of a quoted text behind the characters `done` (last one first), and give the
text behind its closing quote if there is one. -/
def readStr (done : List Char) (s : List Char) : Str × Option (List Char) :=
  if hs : s = [] then (.broken .truncated, none)
  else match h : strPart s with
    | .char c rest =>
      have : rest.length < s.length := by simpa [h, StrPart.rest] using length_rest_strPart hs
      readStr (c :: done) rest
    | .close rest => (.text (String.ofList done.reverse), some rest)
    | .unpaired rest => let (f, rest') := skipStr rest; (.unpaired f, rest')
    | .fault f => (.broken f, none)
termination_by s.length

/-- Skipping a string uses up text. -/
theorem length_skipStr {s rest : List Char} (h : (skipStr s).2 = some rest) :
    rest.length < s.length := by
  fun_induction skipStr s with
  | case1 => cases h
  | case2 s hs c r hp hr ih => exact Nat.lt_trans (ih h) hr
  | case3 s hs r hp hr ih => exact Nat.lt_trans (ih h) hr
  | case4 s hs r hp =>
    cases h
    simpa [hp, StrPart.rest] using length_rest_strPart hs
  | case5 => cases h

/-- Reading a string uses up text. -/
theorem length_readStr {d s rest : List Char} (h : (readStr d s).2 = some rest) :
    rest.length < s.length := by
  fun_induction readStr d s with
  | case1 => cases h
  | case2 d s hs c r hp hr ih => exact Nat.lt_trans (ih h) hr
  | case3 d s hs r hp =>
    cases h
    simpa [hp, StrPart.rest] using length_rest_strPart hs
  | case4 d s hs r hp f rest' he =>
    have h₁ : r.length < s.length := by simpa [hp, StrPart.rest] using length_rest_strPart hs
    have h₂ : (skipStr r).2 = some rest := by rw [he]; exact h
    exact Nat.lt_trans (length_skipStr h₂) h₁
  | case5 => cases h

/-! ## Numbers and words -/

/-- What is wrong where one of some characters is due. -/
def faultAt (s : List Char) : Fault :=
  if s.isEmpty then .truncated else .malformed

/-- One or more digits, and the text behind them. -/
def digits (s : List Char) : Except Fault (List Char × List Char) :=
  if (s.takeWhile Char.isDigit).isEmpty then .error (faultAt s)
  else .ok (s.takeWhile Char.isDigit, s.dropWhile Char.isDigit)

/-- The whole part of a number: digits without a leading zero. -/
def wholePart (s : List Char) : Except Fault (List Char × List Char) :=
  match digits s with
  | .ok ('0' :: _ :: _, _) => .error .malformed
  | r => r

/-- The fraction of a number, if it has one. -/
def fractionPart (s : List Char) : Except Fault (List Char × List Char) :=
  match s with
  | '.' :: cs => (digits cs).map fun r => ('.' :: r.1, r.2)
  | s => .ok ([], s)

/-- The exponent of a number, if it has one. -/
def exponentPart (s : List Char) : Except Fault (List Char × List Char) :=
  match s with
  | [] => .ok ([], [])
  | e :: cs =>
    if e = 'e' ∨ e = 'E' then
      match cs with
      | [] => .error .truncated
      | sign :: ds =>
        if sign = '+' ∨ sign = '-' then (digits ds).map fun r => (e :: sign :: r.1, r.2)
        else (digits cs).map fun r => (e :: r.1, r.2)
    else .ok ([], s)

/-- A number: its spelling, and the text behind it. -/
def readNumber (s : List Char) : Except Fault (List Char × List Char) := do
  let sign := s.takeWhile (· == '-') |>.take 1
  let (whole, s) ← wholePart (s.drop sign.length)
  let (fraction, s) ← fractionPart s
  let (exponent, s) ← exponentPart s
  return (sign ++ whole ++ fraction ++ exponent, s)

/-- The text behind a word. -/
def readWord : List Char → List Char → Except Fault (List Char)
  | [], s => .ok s
  | _ :: _, [] => .error .truncated
  | k :: ks, c :: cs => if k = c then readWord ks cs else .error .malformed

/-! ### Numbers and words take text away -/

/-- Reading digits uses up text. -/
theorem length_digits {s d rest : List Char} (h : digits s = .ok (d, rest)) :
    rest.length < s.length := by
  unfold digits at h
  split at h
  · cases h
  · rename_i hne
    cases h
    have hsum := congrArg List.length (List.takeWhile_append_dropWhile (p := Char.isDigit) (l := s))
    have hpos : 0 < (s.takeWhile Char.isDigit).length := by
      simpa [List.isEmpty_iff, List.length_pos_iff] using hne
    simp only [List.length_append] at hsum
    omega

/-- Reading the whole part of a number uses up text. -/
theorem length_wholePart {s d rest : List Char} (h : wholePart s = .ok (d, rest)) :
    rest.length < s.length := by
  unfold wholePart at h
  split at h
  · cases h
  · exact length_digits h

/-- The spelling that `digits` gives, mapped, does not matter for the text behind it. -/
theorem length_map_digits {s d rest : List Char} {f : List Char → List Char}
    (h : (digits s).map (fun r => (f r.1, r.2)) = .ok (d, rest)) : rest.length < s.length := by
  cases hd : digits s with
  | error e => simp [hd, Except.map] at h
  | ok r =>
    obtain ⟨-, rfl⟩ := by simpa [hd, Except.map] using h
    exact length_digits (d := r.1) hd

/-- Reading a fraction never leaves more text. -/
theorem length_fractionPart {s d rest : List Char} (h : fractionPart s = .ok (d, rest)) :
    rest.length ≤ s.length := by
  unfold fractionPart at h
  split at h
  · have := length_map_digits (f := ('.' :: ·)) h
    simp only [List.length_cons]
    omega
  · cases h
    exact Nat.le_refl _

/-- Reading an exponent never leaves more text. -/
theorem length_exponentPart {s d rest : List Char} (h : exponentPart s = .ok (d, rest)) :
    rest.length ≤ s.length := by
  unfold exponentPart at h
  split at h
  · cases h
    exact Nat.le_refl _
  · rename_i e cs
    split at h
    · split at h
      · cases h
      · rename_i sign ds'
        split at h
        · have := length_map_digits (f := (e :: sign :: ·)) h
          simp only [List.length_cons]
          omega
        · have := length_map_digits (f := (e :: ·)) h
          simp only [List.length_cons] at this ⊢
          omega
    · cases h
      exact Nat.le_refl _

/-- Reading a number uses up text. -/
theorem length_readNumber {s lexeme rest : List Char} (h : readNumber s = .ok (lexeme, rest)) :
    rest.length < s.length := by
  simp only [readNumber] at h
  generalize hn : ((s.takeWhile (· == '-')).take 1).length = n at h
  cases h₁ : wholePart (s.drop n) with
  | error f => simp [h₁, bind, Except.bind] at h
  | ok r₁ =>
    cases h₂ : fractionPart r₁.2 with
    | error f => simp [h₁, h₂, bind, Except.bind] at h
    | ok r₂ =>
      cases h₃ : exponentPart r₂.2 with
      | error f => simp [h₁, h₂, h₃, bind, Except.bind] at h
      | ok r₃ =>
        simp only [h₁, h₂, h₃, bind, Except.bind, pure, Except.pure, Except.ok.injEq,
          Prod.mk.injEq] at h
        have l₁ := length_wholePart (d := r₁.1) h₁
        have l₂ := length_fractionPart (d := r₂.1) h₂
        have l₃ := length_exponentPart (d := r₃.1) h₃
        have l₀ : (s.drop n).length ≤ s.length := by simp
        rw [← h.2]
        omega

/-- Reading a word never leaves more text. -/
theorem length_readWord {word s rest : List Char} (h : readWord word s = .ok rest) :
    rest.length ≤ s.length := by
  induction word generalizing s with
  | nil =>
    simp only [readWord, Except.ok.injEq] at h
    exact h ▸ Nat.le_refl _
  | cons k ks ih =>
    cases s with
    | nil => simp [readWord] at h
    | cons c cs =>
      simp only [readWord] at h
      split at h
      · exact Nat.le_succ_of_le (ih h)
      · cases h

/-! ## Tokens -/

/-- A token. -/
inductive Token where
  /-- One of `[ ] { } , :` -/
  | mark (c : Char)
  | null
  | bool (b : Bool)
  | number (lexeme : String)
  | string (s : Str)
  /-- No token: it starts with `opening` and cannot be completed. -/
  | bad (opening : Char) (fault : Fault)
  deriving Inhabited

/-- The blanks of JSON. -/
def isSpace (c : Char) : Bool :=
  c == ' ' || c == '\n' || c == '\t' || c == '\r'

/-- The characters that are tokens by themselves. -/
def isMark (c : Char) : Bool :=
  c == '[' || c == ']' || c == '\x7b' || c == '\x7d' || c == ',' || c == ':'

/-- The word that starts with a letter, as a token. -/
def wordOf? (c : Char) : Option (List Char × Token) :=
  if c = 'n' then some (['u', 'l', 'l'], .null)
  else if c = 't' then some (['r', 'u', 'e'], .bool true)
  else if c = 'f' then some (['a', 'l', 's', 'e'], .bool false)
  else none

/-- The token that a text starts with, and the text behind it unless reading has to stop. -/
def lexOne (c : Char) (cs : List Char) : Token × Option (List Char) :=
  if isMark c then (.mark c, some cs)
  else if c = '"' then
    let (s, rest) := readStr [] cs
    (.string s, rest)
  else if c = '-' ∨ c.isDigit then
    match readNumber (c :: cs) with
    | .ok (lexeme, rest) => (.number (String.ofList lexeme), some rest)
    | .error f => (.bad c f, none)
  else match wordOf? c with
    | some (word, token) =>
      match readWord word cs with
      | .ok rest => (token, some rest)
      | .error f => (.bad c f, none)
    | none => (.bad c .malformed, none)

/-- The first character of a token is used up, and what is read behind it never leaves more text. -/
theorem length_lexOne {c : Char} {cs rest : List Char} {t : Token}
    (h : lexOne c cs = (t, some rest)) : rest.length ≤ cs.length := by
  unfold lexOne at h
  split at h
  · simp_all
  · split at h
    · exact Nat.le_of_lt (length_readStr (d := []) (congrArg Prod.snd h))
    · split at h
      · split at h
        · rename_i hn
          obtain ⟨-, rfl⟩ := by simpa using h
          have := length_readNumber hn
          simp only [List.length_cons] at this
          omega
        · simp at h
      · split at h
        · split at h
          · rename_i hw
            obtain ⟨-, rfl⟩ := by simpa using h
            exact length_readWord hw
          · simp at h
        · simp at h

/-- The tokens of a text. -/
def lex : List Char → List Token
  | [] => []
  | c :: cs =>
    if isSpace c then lex cs
    else match h : lexOne c cs with
      | (t, some rest) =>
        have := length_lexOne h
        t :: lex rest
      | (t, none) => [t]
termination_by s => s.length

end Tablewright.Json
