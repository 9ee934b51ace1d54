import Tablewright.Proofs.Lists
import Tablewright.Proofs.Text.Quoted
import Tablewright.Text.Line

/-! # Texts made of lines

A text that joins lines by line feeds falls apart into the same lines again, as long as no line holds
a line feed itself. `pieces` is the library's `List.splitOnP`, so what is known of that carries over.

* `lines_intercalate`, `lines_ended`: the lines of joined lines, and of lines that end in a line feed.
* `newline_notMem_singleLine`: a text that is put on one line is on one line.
* `intercalate_newline_inj`: joined lines determine the lines.
* `intercalate_mark_newline`: lines joined by a mark and a line feed are the marked lines
  (`punctuated`), joined by line feeds alone. -/

namespace Tablewright.Text

/-- Pieces are what the library's splitting gives. -/
theorem pieces_eq_splitOnP (p : Char → Bool) (s : List Char) : pieces p s = s.splitOnP p := by
  induction s with
  | nil => rw [pieces, List.splitOnP_nil]
  | cons c cs ih =>
      rw [pieces, List.splitOnP_cons_eq_if_modifyHead, ih]
      by_cases hc : p c = true
      · rw [if_pos hc, if_pos hc]
      · rw [if_neg hc, if_neg hc]
        cases h : cs.splitOnP p with
        | nil => exact absurd h (List.splitOnP_ne_nil p cs)
        | cons w ws => rfl

/-- Lines are the pieces between line feeds. -/
theorem lines_eq_splitOn (s : List Char) : lines s = s.splitOn '\n' := by
  rw [lines, pieces_eq_splitOnP, List.splitOn_eq_splitOnP]

/-- Lines that are joined by line feeds can be read back. -/
theorem lines_intercalate {ls : List String} (hne : ls ≠ [])
    (hline : ∀ l ∈ ls, '\n' ∉ l.toList) :
    lines (String.intercalate "\n" ls).toList = ls.map String.toList := by
  rw [lines_eq_splitOn, String.toList_intercalate]
  refine List.splitOn_intercalate '\n' ?_ (by simpa using hne)
  intro l hl
  obtain ⟨s, hs, rfl⟩ := List.mem_map.mp hl
  exact hline s hs

/-- Lines that are joined by line feeds are determined by the text. -/
theorem intercalate_newline_inj {ls ms : List String} (hls : ls ≠ []) (hms : ms ≠ [])
    (hline₁ : ∀ l ∈ ls, '\n' ∉ l.toList) (hline₂ : ∀ l ∈ ms, '\n' ∉ l.toList)
    (h : String.intercalate "\n" ls = String.intercalate "\n" ms) : ls = ms := by
  have hlines := lines_intercalate hls hline₁
  rw [h, lines_intercalate hms hline₂] at hlines
  exact (List.map_inj_right fun _ _ => String.toList_inj.mp).mp hlines.symm

/-! ## Stretches and single lines -/

/-- The characters that a text is cut at are in none of its stretches. -/
theorem notMem_of_mem_pieces {p : Char → Bool} {c : Char} (hc : p c = true) {s : List Char} :
    ∀ w ∈ pieces p s, c ∉ w := by
  induction s with
  | nil => simp
  | cons d s ih =>
      rw [pieces]
      split
      · exact List.forall_mem_cons.mpr ⟨List.not_mem_nil, ih⟩
      · rename_i hd
        obtain ⟨w, ws, hws⟩ := List.exists_cons_of_ne_nil (pieces_ne_nil p s)
        rw [hws] at ih ⊢
        obtain ⟨hw, hrest⟩ := List.forall_mem_cons.mp ih
        have hcd : c ≠ d := fun heq => hd (heq ▸ hc)
        exact List.forall_mem_cons.mpr ⟨by simp [hcd, hw], hrest⟩

/-- Every other character of the text is in one of them. -/
theorem exists_mem_pieces {p : Char → Bool} {c : Char} (hc : p c = false) {s : List Char}
    (h : c ∈ s) : ∃ w ∈ pieces p s, c ∈ w := by
  induction s with
  | nil => contradiction
  | cons d s ih =>
      obtain ⟨w, ws, hws⟩ := List.exists_cons_of_ne_nil (pieces_ne_nil p s)
      rw [pieces]
      rcases List.mem_cons.mp h with rfl | h
      · rw [if_neg (by simp [hc]), hws]
        exact ⟨c :: w, List.mem_cons_self, List.mem_cons_self⟩
      · obtain ⟨v, hv, hcv⟩ := ih h
        split
        · exact ⟨v, List.mem_cons_of_mem _ hv, hcv⟩
        · rw [hws] at hv ⊢
          rcases List.mem_cons.mp hv with rfl | hv
          · exact ⟨d :: v, List.mem_cons_self, List.mem_cons_of_mem _ hcv⟩
          · exact ⟨v, List.mem_cons_of_mem _ hv, hcv⟩

/-- The stretches together are the text without the characters that it is cut at. -/
theorem flatten_pieces (p : Char → Bool) (s : List Char) :
    (pieces p s).flatten = s.filter fun c => !p c := by
  induction s with
  | nil => rfl
  | cons d s ih =>
      rw [pieces]
      by_cases hd : p d = true
      · rw [if_pos hd, List.filter_cons_of_neg (by simp [hd]), List.flatten_cons, ih, List.nil_append]
      · obtain ⟨w, ws, hws⟩ := List.exists_cons_of_ne_nil (pieces_ne_nil p s)
        rw [if_neg hd, List.filter_cons_of_pos (by simp [hd]), ← ih, hws]
        rfl

/-- Trimming the end leaves a beginning of the text. -/
theorem isPrefix_trimRightOf (p : Char → Bool) (s : List Char) : trimRightOf p s <+: s := by
  rw [trimRightOf, ← List.reverse_suffix, List.reverse_reverse]
  exact List.dropWhile_suffix p

/-- What is left of a text once its ends are trimmed stands in it. -/
theorem isInfix_trimOf (p : Char → Bool) (s : List Char) : trimOf p s <:+: s :=
  (isPrefix_trimRightOf p _).isInfix.trans (List.dropWhile_suffix p).isInfix

/-- A text that is put on one line is on one line. -/
theorem newline_notMem_singleLine (s : List Char) : '\n' ∉ singleLine s := by
  intro h
  rcases mem_or_mem_of_mem_intercalate h with hsep | ⟨l, hl, hmem⟩
  · contradiction
  · obtain ⟨line, hline, rfl⟩ := List.mem_map.mp (List.mem_filter.mp hl).1
    exact notMem_of_mem_pieces (by rfl) line hline ((isInfix_trimOf _ _).mem hmem)

/-- A text put on a single line has no line break. -/
theorem oneLine_singleLine (s : String) : OneLine (onChars singleLine s) := by
  rw [OneLine, toList_onChars]
  exact newline_notMem_singleLine _

/-- Joined texts are on one line if each of them is. -/
theorem oneLine_intercalate {sep : String} (hsep : OneLine sep) {ls : List String} :
    OneLine (String.intercalate sep ls) ↔ ∀ l ∈ ls, OneLine l := by
  simp only [OneLine, String.toList_intercalate] at hsep ⊢
  constructor
  · intro h l hl hmem
    exact h (mem_intercalate_of_mem (List.mem_map_of_mem hl) hmem)
  · intro h hmem
    rcases mem_or_mem_of_mem_intercalate hmem with hmem | ⟨cs, hcs, hmem⟩
    · exact hsep hmem
    · obtain ⟨l, hl, rfl⟩ := List.mem_map.mp hcs
      exact h l hl hmem

/-! ## Lines that end in a line feed -/

/-- Lines, each with a line feed behind it. -/
def ended (ls : List String) : String :=
  String.join (ls.map fun l => l ++ "\n")

@[simp] theorem ended_nil : ended [] = "" := rfl

/-- The first line comes first, with its line feed. -/
theorem ended_cons (l : String) (ls : List String) : ended (l :: ls) = l ++ "\n" ++ ended ls := by
  rw [ended, List.map_cons, String.join_cons]
  rfl

/-- The lines of two runs, each ended, are those of the first, then those of the second. -/
theorem ended_append (ls ms : List String) : ended (ls ++ ms) = ended ls ++ ended ms := by
  rw [ended, List.map_append, String.join_append]
  rfl

/-- Lines that come from several sources, each ended, are joined source by source. -/
theorem ended_flatMap {α : Type} (f : α → List String) (xs : List α) :
    ended (xs.flatMap f) = String.join (xs.map fun x => ended (f x)) := by
  induction xs with
  | nil => rfl
  | cons x xs ih => rw [List.flatMap_cons, ended_append, ih, List.map_cons, String.join_cons]

/-- Blocks of lines with an empty line between them. -/
theorem ended_intercalate (blocks : List (List String)) :
    ended (List.intercalate [""] blocks) = String.intercalate "\n" (blocks.map ended) := by
  match blocks with
  | [] => rfl
  | [ls] => rw [List.intercalate_singleton, List.map_singleton, String.intercalate_singleton]
  | ls :: ms :: blocks =>
      rw [List.intercalate_cons_cons, ended_append, ended_append, ended_intercalate (ms :: blocks),
        List.map_cons, List.map_cons, List.map_cons, String.intercalate_cons_cons]
      rfl

/-- Lines that end in a line feed can be read back; behind the last line feed stands nothing. -/
theorem lines_ended {ls : List String} (hline : ∀ l ∈ ls, '\n' ∉ l.toList) :
    lines (ended ls).toList = ls.map String.toList ++ [[]] := by
  induction ls with
  | nil => rfl
  | cons l ls ih =>
      obtain ⟨hl, hls⟩ := List.forall_mem_cons.mp hline
      have hfirst : l.toList.splitOnP (· == '\n') = [l.toList] :=
        List.splitOnP_eq_singleton fun c hc => beq_false_of_ne fun heq => hl (heq ▸ hc)
      have hrest := ih hls
      rw [lines, pieces_eq_splitOnP] at hrest ⊢
      rw [ended_cons, String.toList_append, String.toList_append, List.append_assoc]
      show List.splitOnP _ (l.toList ++ '\n' :: (ended ls).toList) = _
      rw [List.splitOnP_append_cons _ _ (by rfl), hfirst, hrest]
      rfl

/-- The line feeds of lines, and one behind each. -/
theorem count_newline_ended (ls : List String) :
    (ended ls).toList.count '\n' = (ls.flatMap String.toList).count '\n' + ls.length := by
  induction ls with
  | nil => rfl
  | cons l ls ih =>
      rw [ended_cons, String.toList_append, String.toList_append, List.count_append, List.count_append,
        ih, List.flatMap_cons, List.count_append, List.length_cons]
      show _ + 1 + _ = _
      omega

/-- **As many texts as there are lines have one line each.** -/
theorem newline_notMem_of_ended_eq {ls ms : List String} (h : ended ls = ended ms)
    (hlength : ls.length = ms.length) (hls : ∀ l ∈ ls, '\n' ∉ l.toList) :
    ∀ m ∈ ms, '\n' ∉ m.toList := by
  have hnone : (ls.flatMap String.toList).count '\n' = 0 := by
    rw [List.count_eq_zero, List.mem_flatMap]
    rintro ⟨l, hl, hmem⟩
    exact hls l hl hmem
  have hcount := count_newline_ended ms
  rw [← h, count_newline_ended ls, hlength, Nat.add_right_cancel_iff, hnone, eq_comm,
    List.count_eq_zero] at hcount
  exact fun m hm hmem => hcount (List.mem_flatMap.mpr ⟨m, hm, hmem⟩)

/-! ## Marked lines -/

/-- Put a mark behind every text but the last. -/
def punctuated (mark : String) : List String → List String
  | [] => []
  | [l] => [l]
  | l :: m :: ls => (l ++ mark) :: punctuated mark (m :: ls)

/-- Marking lines at their ends leaves none out. -/
theorem punctuated_ne_nil {mark : String} {ls : List String} (h : ls ≠ []) :
    punctuated mark ls ≠ [] := by
  match ls, h with
  | [_], _ => exact List.cons_ne_nil _ _
  | _ :: _ :: _, _ => exact List.cons_ne_nil _ _

/-- Joining by a mark and a line feed. -/
theorem intercalate_mark_newline (mark : String) (ls : List String) :
    String.intercalate (mark ++ "\n") ls = String.intercalate "\n" (punctuated mark ls) := by
  match ls with
  | [] => rfl
  | [l] => rw [punctuated, String.intercalate_singleton, String.intercalate_singleton]
  | l :: m :: ls =>
      rw [punctuated, String.intercalate_cons_cons, intercalate_mark_newline mark (m :: ls),
        String.intercalate_cons_of_ne_nil (punctuated_ne_nil (List.cons_ne_nil m ls)),
        ← String.append_assoc]

/-- A character in a marked text comes from a text or from the mark. -/
theorem mem_of_mem_punctuated {mark : String} {ls : List String} {c : Char}
    (hmark : c ∉ mark.toList) (hls : ∀ l ∈ ls, c ∉ l.toList) :
    ∀ l ∈ punctuated mark ls, c ∉ l.toList := by
  match ls with
  | [] => exact hls
  | [l] => exact hls
  | l :: m :: ls =>
      obtain ⟨hl, hrest⟩ := List.forall_mem_cons.mp hls
      rw [punctuated]
      refine List.forall_mem_cons.mpr ⟨?_, mem_of_mem_punctuated hmark hrest⟩
      rw [String.toList_append, List.mem_append, not_or]
      exact ⟨hl, hmark⟩

/-- Marked texts are determined by the texts. -/
theorem punctuated_injective (mark : String) {ls ms : List String}
    (h : punctuated mark ls = punctuated mark ms) : ls = ms := by
  match ls, ms with
  | [], [] => rfl
  | [], [_] => contradiction
  | [], _ :: _ :: _ => contradiction
  | [_], [] => contradiction
  | [_], [_] => exact h
  | [_], _ :: m :: ms =>
      exact absurd (List.cons.inj h).2.symm (punctuated_ne_nil (List.cons_ne_nil m ms))
  | _ :: _ :: _, [] => contradiction
  | _ :: l :: ls, [_] =>
      exact absurd (List.cons.inj h).2 (punctuated_ne_nil (List.cons_ne_nil l ls))
  | a :: l :: ls, b :: m :: ms =>
      obtain ⟨hhead, htail⟩ := List.cons.inj h
      rw [(String.append_left_inj mark).mp hhead, punctuated_injective mark htail]

end Tablewright.Text
