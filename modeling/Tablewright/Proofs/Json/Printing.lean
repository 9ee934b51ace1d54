import Tablewright.Json.Printer
import Tablewright.Json.Tree

/-! # Printed documents are read back

A document that is printed without blanks (`compact`) is read as the same document again. Reading is
followed token by token: each printed part leaves the reader with that part in its hands and with the
text that comes behind it (`run_compact`), so that the parts of containers can be taken one after the
other. Only documents as formats write them are considered (`Printable`): numbers do not occur in
them, and every other token shows by itself where it ends.

* `strPart_quoteChar`: the written form of a character is read as that character.
* `lex_quote`: a text between quotes is one token.
* `run_compact`: how a printed document is taken up.
* `read_compact`: a printed document is read back. -/

namespace Tablewright.Json

/-- Documents as formats write them: without numbers, all keys being texts. -/
inductive Printable : Json → Prop
  | null : Printable .null
  | bool (b : Bool) : Printable (.bool b)
  | text (s : String) : Printable (ofText s)
  | list {items : List Json} (hitems : ∀ j ∈ items, Printable j) : Printable (Json.list items)
  | record {members : List (String × Json)} (hmembers : ∀ m ∈ members, Printable m.2) :
      Printable (Json.record members)

/-! ## Commas -/

/-- Items are printed with commas between them. -/
theorem compactItems_cons_cons (j k : Json) (ks : List Json) :
    compactItems (j :: k :: ks) = compact j ++ ',' :: compactItems (k :: ks) := by
  rw [compactItems]
  exact List.cons_ne_nil k ks

/-- Members are printed with commas between them and a colon behind each key. -/
theorem compactMembers_cons_cons (k j : Json) (m : Json × Json) (ms : List (Json × Json)) :
    compactMembers ((k, j) :: m :: ms) =
      compact k ++ ':' :: (compact j ++ ',' :: compactMembers (m :: ms)) := by
  rw [compactMembers]
  · simp
  · exact List.cons_ne_nil m ms

/-! ## Quoted texts -/

/-- The digit of a number below sixteen is read as that number. -/
theorem hexValue?_hexDigit {n : Nat} (hn : n < 16) : Text.hexValue? (hexDigit n) = some n := by
  revert n
  decide

/-- A control character is written by its number, in two digits. -/
theorem unicodeEscape_control {c : Char} (hc : c.toNat < 0x20) (s : List Char) :
    unicodeEscape ('0' :: '0' :: hexDigit (c.toNat / 16) :: hexDigit (c.toNat % 16) :: s) =
      .char c s := by
  have hhigh := hexValue?_hexDigit (show c.toNat / 16 < 16 by omega)
  have hlow := hexValue?_hexDigit (show c.toNat % 16 < 16 by omega)
  have hzero : Text.hexValue? '0' = some 0 := by decide
  have hnumber : Text.hexNumber? ['0', '0', hexDigit (c.toNat / 16), hexDigit (c.toNat % 16)] =
      some c.toNat := by
    simp [Text.hexNumber?, hhigh, hlow, hzero]
    omega
  have hread : readHex ('0' :: '0' :: hexDigit (c.toNat / 16) :: hexDigit (c.toNat % 16) :: s) =
      .ok (c.toNat, s) := by
    rw [readHex, hnumber]
  -- control characters are not surrogates, so nothing else is read
  have hnotLow : isLowSurrogate c.toNat = false := by
    rw [isLowSurrogate, Bool.and_eq_false_iff, decide_eq_false_iff_not]
    exact Or.inl (by omega)
  have hnotHigh : isHighSurrogate c.toNat = false := by
    rw [isHighSurrogate, Bool.and_eq_false_iff, decide_eq_false_iff_not]
    exact Or.inl (by omega)
  rw [unicodeEscape, hread]
  simp [hnotLow, hnotHigh, Char.ofNat_toNat]

/-- **The written form of a character is read as that character.** -/
theorem strPart_quoteChar (c : Char) (s : List Char) :
    strPart (quoteChar c ++ s) = .char c s := by
  unfold quoteChar
  split
  case isTrue h => subst h; rfl
  split
  case isTrue h => subst h; rfl
  split
  case isTrue h => subst h; rfl
  split
  case isTrue h => subst h; rfl
  split
  case isTrue h => subst h; rfl
  split
  case isTrue h => subst h; rfl
  split
  case isTrue h => subst h; rfl
  split
  case isTrue hcontrol => exact unicodeEscape_control hcontrol s
  -- what is left of the characters stands for itself
  case isFalse hquote hslash _ _ _ _ _ hcontrol =>
    rw [List.singleton_append, strPart.eq_def]
    simp only [if_neg hquote, if_neg hslash, if_neg hcontrol]

/-- A character of a string is read in front of the rest of it. -/
theorem readStr_of_char {done s rest : List Char} {c : Char} (hs : s ≠ [])
    (h : strPart s = .char c rest) : readStr done s = readStr (c :: done) rest := by
  rw [readStr, dif_neg hs]
  split
  · rename_i heq
    obtain ⟨rfl, rfl⟩ := StrPart.char.inj (h.symm.trans heq)
    rfl
  all_goals rename_i heq; exact absurd (h.symm.trans heq) (by simp)

/-- The inside of a quoted text is read up to its closing quote. -/
theorem readStr_flatMap (done s rest : List Char) :
    readStr done (s.flatMap quoteChar ++ '"' :: rest) =
      (.text (String.ofList (done.reverse ++ s)), some rest) := by
  -- what has been read is kept in `done`, its last character first
  induction s generalizing done with
  | nil =>
      rw [List.flatMap_nil, List.nil_append, List.append_nil, readStr, dif_neg (List.cons_ne_nil _ _)]
      rfl
  | cons c s ih =>
      have hchar := strPart_quoteChar c (s.flatMap quoteChar ++ '"' :: rest)
      have hne : quoteChar c ++ (s.flatMap quoteChar ++ '"' :: rest) ≠ [] := by simp
      rw [List.flatMap_cons, List.append_assoc, readStr_of_char hne hchar, ih, List.reverse_cons,
        List.append_assoc, List.singleton_append]

/-! ## Tokens -/

/-- A text is read token by token. -/
theorem lex_of_lexOne {c : Char} {cs rest : List Char} {t : Token} (hc : isSpace c = false)
    (h : lexOne c cs = (t, some rest)) : lex (c :: cs) = t :: lex rest := by
  rw [lex, if_neg (by rw [hc]; exact Bool.false_ne_true)]
  split
  · rename_i heq
    obtain ⟨rfl, hrest⟩ := Prod.mk.inj (h.symm.trans heq)
    rw [Option.some.inj hrest]
  · rename_i heq
    exact absurd (h.symm.trans heq) (by simp)

/-- A mark is a token by itself. -/
theorem lex_mark {c : Char} (hc : isSpace c = false) (hmark : isMark c = true) (s : List Char) :
    lex (c :: s) = .mark c :: lex s :=
  lex_of_lexOne hc (if_pos hmark)

/-- **A text between quotes is one token.** -/
theorem lex_quote (s : String) (rest : List Char) :
    lex (quote s ++ rest) = .string (.text s) :: lex rest := by
  have hread : readStr [] (s.toList.flatMap quoteChar ++ '"' :: rest) = (.text s, some rest) := by
    rw [readStr_flatMap, List.reverse_nil, List.nil_append, String.ofList_toList]
  have hquote : quote s ++ rest = '"' :: (s.toList.flatMap quoteChar ++ '"' :: rest) := by
    rw [quote, List.append_assoc, List.cons_append, List.singleton_append]
  rw [hquote]
  refine lex_of_lexOne rfl ?_
  rw [lexOne, if_neg (by decide), if_pos rfl, hread]

/-- A word is read up to its end. -/
theorem readWord_append (word s : List Char) : readWord word (word ++ s) = .ok s := by
  induction word with
  | nil => rfl
  | cons k ks ih => rw [List.cons_append, readWord, if_pos rfl, ih]

/-- The words, by their first letters. -/
theorem wordOf?_eq_some {c : Char} {word : List Char} {t : Token}
    (h : wordOf? c = some (word, t)) :
    c = 'n' ∧ t = .null ∨ c = 't' ∧ t = .bool true ∨ c = 'f' ∧ t = .bool false := by
  rw [wordOf?] at h
  split at h
  case isTrue hn => exact Or.inl ⟨hn, (Prod.mk.inj (Option.some.inj h)).2.symm⟩
  split at h
  case isTrue ht => exact Or.inr (Or.inl ⟨ht, (Prod.mk.inj (Option.some.inj h)).2.symm⟩)
  split at h
  case isTrue hf => exact Or.inr (Or.inr ⟨hf, (Prod.mk.inj (Option.some.inj h)).2.symm⟩)
  contradiction

/-- The word of a constant is one token. -/
theorem lex_word {c : Char} {word : List Char} {t : Token} (hword : wordOf? c = some (word, t))
    (s : List Char) : lex (c :: (word ++ s)) = t :: lex s := by
  have hkind : isSpace c = false ∧ isMark c = false ∧ c ≠ '"' ∧ ¬(c = '-' ∨ c.isDigit = true) := by
    rcases wordOf?_eq_some hword with ⟨rfl, -⟩ | ⟨rfl, -⟩ | ⟨rfl, -⟩ <;> decide
  obtain ⟨hspace, hmark, hquote, hnumber⟩ := hkind
  refine lex_of_lexOne hspace ?_
  rw [lexOne, if_neg (by rw [hmark]; exact Bool.false_ne_true), if_neg hquote, if_neg hnumber, hword]
  simp only [readWord_append]

/-! ## Taking up tokens -/

/-- Reading goes on behind a token that is taken up. -/
theorem run_of_step {outer outer' : List Frame} {due due' : Due} {t : Token} {ts : List Token}
    (h : step outer due t = some (outer', due')) :
    run outer due (t :: ts) = run outer' due' ts := by
  rw [run]
  · rw [h]
  · -- behind a finished document nothing is taken up
    rintro j rfl rfl
    exact absurd h (by simp [step])

/-- A value takes the place where a value is due. -/
theorem run_scalar {t : Token} {j : Json} (hmark : ∀ c, t ≠ .mark c) (hj : t.scalar? = some j)
    (outer : List Frame) (ts : List Token) :
    run outer .value (t :: ts) = run outer (.next j) ts := by
  refine run_of_step ?_
  rw [step, stepValue]
  · rw [hj]
    rfl
  · exact hmark

/-- What a printed document starts with: neither a blank nor a closing bracket. -/
theorem exists_compact_eq_cons {j : Json} (hj : Printable j) :
    ∃ c cs, compact j = c :: cs ∧ isSpace c = false ∧ c ≠ ']' := by
  cases hj with
  | null => exact ⟨'n', ['u', 'l', 'l'], rfl, rfl, by decide⟩
  | bool b =>
      cases b with
      | true => exact ⟨'t', ['r', 'u', 'e'], rfl, rfl, by decide⟩
      | false => exact ⟨'f', ['a', 'l', 's', 'e'], rfl, rfl, by decide⟩
  | text s => exact ⟨'"', _, by rw [ofText, compact, Str.print, quote]; rfl, rfl, by decide⟩
  | list hitems => exact ⟨'[', _, by rw [Json.list, compact]; rfl, rfl, by decide⟩
  | record hmembers => exact ⟨'\x7b', _, by rw [Json.record, compact]; rfl, rfl, by decide⟩

/-- What printed items start with. -/
theorem exists_compactItems_eq_cons {j : Json} (hj : Printable j) (items : List Json)
    (s : List Char) :
    ∃ c, isSpace c = false ∧ c ≠ ']' ∧ ∃ cs, compactItems (j :: items) ++ s = c :: cs := by
  obtain ⟨c, cs, hcs, hspace, hbracket⟩ := exists_compact_eq_cons hj
  refine ⟨c, hspace, hbracket, ?_⟩
  cases items with
  | nil => exact ⟨cs ++ s, by rw [compactItems, hcs, List.cons_append]⟩
  | cons k items =>
      exact ⟨_, by rw [compactItems_cons_cons, hcs, List.cons_append, List.cons_append]⟩

/-- Only a closing bracket is read as one. -/
theorem isMark_lexOne {c : Char} (hbracket : c ≠ ']') (cs : List Char) :
    (lexOne c cs).1.isMark ']' = false := by
  rw [lexOne]
  split
  · exact beq_eq_false_iff_ne.mpr hbracket
  split
  · rfl
  split
  · split <;> rfl
  split
  case h_1 word token hword =>
    split
    · rcases wordOf?_eq_some hword with ⟨-, rfl⟩ | ⟨-, rfl⟩ | ⟨-, rfl⟩ <;> rfl
    · rfl
  case h_2 => rfl

/-- Where an item or the closing bracket is due, an item is read like a value. -/
theorem run_firstItem {outer : List Frame} {done : List Json} {c : Char} (hc : isSpace c = false)
    (hbracket : c ≠ ']') (cs : List Char) :
    run (.items done :: outer) .firstItem (lex (c :: cs)) =
      run (.items done :: outer) .value (lex (c :: cs)) := by
  have hfirst : ∃ ts, lex (c :: cs) = (lexOne c cs).1 :: ts := by
    rw [lex, if_neg (by rw [hc]; exact Bool.false_ne_true)]
    split
    · rename_i t rest h
      exact ⟨lex rest, congrArg (fun r => Prod.fst r :: lex rest) h.symm⟩
    · rename_i t h
      exact ⟨[], congrArg (fun r => [Prod.fst r]) h.symm⟩
  obtain ⟨ts, hts⟩ := hfirst
  -- the one difference is that a first item may be a closing bracket
  have hmark := isMark_lexOne hbracket cs
  have hstep : step (.items done :: outer) .firstItem (lexOne c cs).1 =
      step (.items done :: outer) .value (lexOne c cs).1 := by
    rw [step, step, if_neg (by rw [hmark]; exact Bool.false_ne_true)]
  have hstopped : stopped (.items done :: outer) .firstItem ((lexOne c cs).1 :: ts) =
      stopped (.items done :: outer) .value ((lexOne c cs).1 :: ts) := by
    rw [stopped, stopped, if_neg (by rw [List.isEmpty_cons]; exact Bool.false_ne_true)]
  rw [hts, run, run, hstep, hstopped]
  · exact fun j h _ => List.cons_ne_nil _ _ h
  · exact fun j h _ => List.cons_ne_nil _ _ h

/-- How the print of a document is taken up, whatever is open and whatever follows. -/
def TakenUp (j : Json) : Prop :=
  ∀ (outer : List Frame) (s : List Char),
    run outer .value (lex (compact j ++ s)) = run outer (.next j) (lex s)

/-- Items are taken up one after the other, up to the closing bracket. -/
theorem run_compactItems {items : List Json} (hitems : ∀ j ∈ items, TakenUp j) {j : Json}
    (hj : TakenUp j) (outer : List Frame) (done : List Json) (s : List Char) :
    run (.items done :: outer) .value (lex (compactItems (j :: items) ++ ']' :: s)) =
      run outer (.next (Json.list (done.reverse ++ j :: items))) (lex s) := by
  induction items generalizing j done with
  | nil =>
      have hclose : step (.items done :: outer) (.next j) (.mark ']') =
          some (outer, .next (Json.list (j :: done).reverse)) := rfl
      rw [compactItems, hj, lex_mark rfl rfl, run_of_step hclose, List.reverse_cons]
  | cons k items ih =>
      obtain ⟨hk, hrest⟩ := List.forall_mem_cons.mp hitems
      have hcomma : step (.items done :: outer) (.next j) (.mark ',') =
          some (.items (j :: done) :: outer, .value) := rfl
      rw [compactItems_cons_cons, List.append_assoc, List.cons_append, hj, lex_mark rfl rfl,
        run_of_step hcomma, ih hrest hk, List.reverse_cons, List.append_assoc,
        List.singleton_append]

/-- A member is taken up: its key, the colon and its value. -/
theorem run_member {key : String} {j : Json} (hj : TakenUp j) (outer : List Frame)
    (done : List (Json × Json)) {due : Due} (hdue : due = .firstKey ∨ due = .key) (s : List Char) :
    run (.members done :: outer) due (lex (compact (ofText key) ++ ':' :: (compact j ++ s))) =
      run (.member done (ofText key) :: outer) (.next j) (lex s) := by
  have hkey : step (.members done :: outer) due (.string (.text key)) =
      some (.members done :: outer, .colon (ofText key)) := by
    rcases hdue with rfl | rfl <;> rfl
  have hcolon : step (.members done :: outer) (.colon (ofText key)) (.mark ':') =
      some (.member done (ofText key) :: outer, .value) := rfl
  have hquote : compact (ofText key) = quote key := by rw [ofText, compact, Str.print]
  rw [hquote, lex_quote, run_of_step hkey, lex_mark rfl rfl, run_of_step hcolon, hj]

/-- A member whose key is a text. -/
def ofMember (m : String × Json) : Json × Json :=
  (ofText m.1, m.2)

/-- Members are taken up one after the other, up to the closing brace. -/
theorem run_compactMembers {members : List (String × Json)} (hmembers : ∀ m ∈ members, TakenUp m.2)
    {m : String × Json} (hm : TakenUp m.2) (outer : List Frame) (done : List (Json × Json))
    {due : Due} (hdue : due = .firstKey ∨ due = .key) (s : List Char) :
    run (.members done :: outer) due
        (lex (compactMembers ((m :: members).map ofMember) ++ '\x7d' :: s)) =
      run outer (.next (.object (done.reverse ++ (m :: members).map ofMember) none)) (lex s) := by
  -- only in front of the first key may the closing brace come instead, so `due` changes behind it
  induction members generalizing m done due with
  | nil =>
      have hclose : step (.member done (ofText m.1) :: outer) (.next m.2) (.mark '\x7d') =
          some (outer, .next (.object (ofMember m :: done).reverse none)) := rfl
      rw [List.map_singleton, ofMember, compactMembers, List.append_assoc, List.cons_append,
        run_member hm outer done hdue, lex_mark rfl rfl, run_of_step hclose, List.reverse_cons]
      rfl
  | cons n members ih =>
      obtain ⟨hn, hrest⟩ := List.forall_mem_cons.mp hmembers
      have hcomma : step (.member done (ofText m.1) :: outer) (.next m.2) (.mark ',') =
          some (.members (ofMember m :: done) :: outer, .key) := rfl
      have hprint : compactMembers ((m :: n :: members).map ofMember) ++ '\x7d' :: s =
          compact (ofText m.1) ++ ':' :: (compact m.2 ++
            ',' :: (compactMembers ((n :: members).map ofMember) ++ '\x7d' :: s)) := by
        rw [List.map_cons, List.map_cons, ofMember, compactMembers_cons_cons]
        simp only [List.append_assoc, List.cons_append]
      rw [hprint, run_member hm outer done hdue, lex_mark rfl rfl, run_of_step hcomma,
        ih hrest hn _ (Or.inr rfl), List.reverse_cons, List.append_assoc]
      rfl

/-- **The print of a document is taken up as that document.** -/
theorem run_compact {j : Json} (hj : Printable j) : TakenUp j := by
  intro outer s
  induction hj generalizing outer s with
  | null =>
      refine (congrArg _ (lex_word (c := 'n') rfl s)).trans ?_
      exact run_scalar (fun c => by simp) rfl outer _
  | bool b =>
      cases b with
      | true =>
          refine (congrArg _ (lex_word (c := 't') rfl s)).trans ?_
          exact run_scalar (fun c => by simp) rfl outer _
      | false =>
          refine (congrArg _ (lex_word (c := 'f') rfl s)).trans ?_
          exact run_scalar (fun c => by simp) rfl outer _
  | text t =>
      have hquote : compact (ofText t) = quote t := by rw [ofText, compact, Str.print]
      rw [hquote, lex_quote]
      exact run_scalar (fun c => by simp) rfl outer _
  | @list items hitems ih =>
      have hopen : step outer .value (.mark '[') = some (.items [] :: outer, .firstItem) := rfl
      have hprint : compact (Json.list items) ++ s = '[' :: (compactItems items ++ ']' :: s) := by
        rw [Json.list, compact]
        simp
      rw [hprint, lex_mark rfl rfl, run_of_step hopen]
      cases items with
      | nil =>
          have hclose : step (.items [] :: outer) .firstItem (.mark ']') =
              some (outer, .next (Json.list [])) := rfl
          rw [compactItems, List.nil_append, lex_mark rfl rfl, run_of_step hclose]
      | cons j items =>
          -- the first item does not start like the end of the list, so it is read as any other
          obtain ⟨hj, hrest⟩ := List.forall_mem_cons.mp ih
          obtain ⟨c, hc, hbracket, cs, hcs⟩ :=
            exists_compactItems_eq_cons (hitems j List.mem_cons_self) items (']' :: s)
          rw [hcs, run_firstItem hc hbracket, ← hcs, run_compactItems hrest hj]
          rfl
  | @record members hmembers ih =>
      have hopen : step outer .value (.mark '\x7b') = some (.members [] :: outer, .firstKey) := rfl
      have hprint : compact (Json.record members) ++ s =
          '\x7b' :: (compactMembers (members.map ofMember) ++ '\x7d' :: s) := by
        rw [Json.record, compact, List.cons_append, List.cons_append, List.append_assoc]
        rfl
      rw [hprint, lex_mark rfl rfl, run_of_step hopen]
      cases members with
      | nil =>
          have hclose : step (.members [] :: outer) .firstKey (.mark '\x7d') =
              some (outer, .next (Json.record [])) := rfl
          rw [List.map_nil, compactMembers, List.nil_append, lex_mark rfl rfl, run_of_step hclose]
      | cons m members =>
          obtain ⟨hm, hrest⟩ := List.forall_mem_cons.mp ih
          rw [run_compactMembers hrest hm outer [] (Or.inl rfl)]
          rfl

/-- **A printed document is read back.** -/
theorem read_compact {j : Json} (hj : Printable j) : read (String.ofList (compact j)) = (j, false) := by
  have hrun := run_compact hj [] []
  rw [List.append_nil] at hrun
  rw [read, String.toList_ofList, hrun, lex]
  rfl

end Tablewright.Json
