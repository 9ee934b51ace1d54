import Tablewright.Artifact.Backend
import Tablewright.Files.Path
import Tablewright.Proofs.Text.Lines

/-! # Paths of files that are made

A file that is made for a backend has the backend's suffix, so its path never stands for a directory,
and if its name holds no slash, the name is the last component of the path (`components_withSuffix`).
In general the name may itself be a path. Then the file is directly in its directory exactly if the
name goes through no other directory (`isChild_withSuffix_iff`). Behind all of this is how a text falls
apart at slashes, and that the directory above a path has its components up to the last one
(`components_parent`). -/

namespace Tablewright

/-! ## Pieces -/

/-- What stands at the end of a text without a separator stands at the end of the last piece. -/
theorem Text.exists_pieces_append {p : Char → Bool} (s : List Char) {rest : List Char}
    (h : ∀ c ∈ rest, p c = false) :
    ∃ ws w, Text.pieces p s = ws ++ [w] ∧ Text.pieces p (s ++ rest) = ws ++ [w ++ rest] := by
  induction s with
  | nil =>
      refine ⟨[], [], rfl, ?_⟩
      rw [List.nil_append, Text.pieces_eq_splitOnP, List.splitOnP_eq_singleton h]
      rfl
  | cons c s ih =>
      obtain ⟨ws, w, hs, hall⟩ := ih
      rw [List.cons_append, Text.pieces, Text.pieces, hs, hall]
      by_cases hc : p c = true
      · rw [if_pos hc, if_pos hc]
        exact ⟨[] :: ws, w, rfl, rfl⟩
      rw [if_neg hc, if_neg hc]
      cases ws with
      | nil =>
          -- the last piece is the first one too and takes the character
          exact ⟨[], c :: w, rfl, rfl⟩
      | cons first ws => exact ⟨(c :: first) :: ws, w, rfl, rfl⟩

namespace Path

variable {s name : String}

/-! ## Components -/

/-- A slash between two texts separates their components. -/
theorem components_append_slash (s r : String) :
    components (s ++ "/" ++ r) = components s ++ components r := by
  have hsplit : (s ++ "/" ++ r).toList = s.toList ++ '/' :: r.toList := by
    simp [String.toList_append]
  rw [components, hsplit, Text.pieces_eq_splitOnP, List.splitOnP_append_cons _ _ (by rfl),
    List.map_append, List.filter_append, ← Text.pieces_eq_splitOnP, ← Text.pieces_eq_splitOnP]
  rfl

@[simp] theorem components_empty : components "" = [] := by
  rfl

/-- The separator test fails on every character of a text without a slash. -/
theorem beq_slash_of_notMem (hslash : '/' ∉ s.toList) : ∀ c ∈ s.toList, (c == '/') = false := by
  intro c hc
  rw [beq_eq_false_iff_ne]
  exact fun heq => hslash (heq ▸ hc)

/-- A text without a slash is a single piece. -/
theorem pieces_of_notMem (hslash : '/' ∉ name.toList) :
    Text.pieces (· == '/') name.toList = [name.toList] := by
  rw [Text.pieces_eq_splitOnP]
  exact List.splitOnP_eq_singleton (beq_slash_of_notMem hslash)

/-- A name is the only component of itself. -/
theorem components_name (hslash : '/' ∉ name.toList) (hempty : name ≠ "") (hdot : name ≠ ".") :
    components name = [name] := by
  rw [components, pieces_of_notMem hslash, List.map_singleton, String.ofList_toList,
    List.filter_cons_of_pos]
  · rfl
  · simp [hempty, hdot]

/-- What is seen from a directory goes on behind it. -/
theorem components_join_of_relative (dir : String) {rest : String} (h : isAbsolute rest = false) :
    components (join dir rest) = components dir ++ components rest := by
  rw [join, h, if_neg Bool.false_ne_true]
  by_cases hdir : dir = "" ∨ dir.toList.getLast? = some '/'
  · rw [if_pos hdir]
    rcases hdir with rfl | hlast
    · rw [String.empty_append, components_empty, List.nil_append]
    · -- the slash that is needed is there already
      obtain ⟨above, habove⟩ := List.getLast?_eq_some_iff.mp hlast
      have hdir : dir = String.ofList above ++ "/" := by
        rw [← String.toList_inj, habove]
        simp [String.toList_append]
      have hcomponents : components dir = components (String.ofList above) := by
        rw [hdir, ← String.append_empty (s := _ ++ "/"), components_append_slash, components_empty,
          List.append_nil]
      rw [hcomponents, hdir, components_append_slash]
  · rw [if_neg hdir, components_append_slash]

/-- A name without a slash is relative. -/
theorem isAbsolute_of_notMem (hslash : '/' ∉ name.toList) : isAbsolute name = false := by
  rw [isAbsolute, beq_eq_false_iff_ne]
  exact fun heq => hslash (List.mem_of_head? heq)

/-- A name behind a directory is the last component. -/
theorem components_join (dir : String) (hslash : '/' ∉ name.toList) (hempty : name ≠ "")
    (hdot : name ≠ ".") : components (join dir name) = components dir ++ [name] := by
  rw [components_join_of_relative dir (isAbsolute_of_notMem hslash),
    components_name hslash hempty hdot]

/-- Whether a path is absolute is decided by its nonempty beginning. -/
theorem isAbsolute_append (r : String) (h : s ≠ "") : isAbsolute (s ++ r) = isAbsolute s := by
  have hs : s.toList ≠ [] := by
    rw [ne_eq, String.toList_eq_nil_iff]
    exact h
  rw [isAbsolute, isAbsolute, String.toList_append, List.head?_append_of_ne_nil _ hs]

/-- What is seen from a directory starts where the directory does. -/
theorem isAbsolute_join_of_relative (dir : String) {rest : String} (h : isAbsolute rest = false) :
    isAbsolute (join dir rest) = isAbsolute dir := by
  rw [join, h, if_neg Bool.false_ne_true]
  by_cases hdir : dir = ""
  · rw [if_pos (.inl hdir), hdir, String.empty_append, h]
    rfl
  split
  · exact isAbsolute_append rest hdir
  · rw [String.append_assoc]
    exact isAbsolute_append _ hdir

/-! ## The directory above -/

/-- A component has no slash and stands for a step. -/
theorem plain_of_mem_components {path c : String} (hc : c ∈ components path) :
    '/' ∉ c.toList ∧ c ≠ "" ∧ c ≠ "." := by
  obtain ⟨hmem, hstep⟩ := List.mem_filter.mp hc
  obtain ⟨w, hw, rfl⟩ := List.mem_map.mp hmem
  rw [Bool.and_eq_true, bne_iff_ne, bne_iff_ne] at hstep
  rw [String.toList_ofList]
  exact ⟨Text.notMem_of_mem_pieces (by rfl) w hw, hstep⟩

section Joined

variable {cs : List String} (h : ∀ c ∈ cs, '/' ∉ c.toList ∧ c ≠ "" ∧ c ≠ ".")

include h

/-- Components that are joined fall apart again. -/
theorem components_intercalate : components (String.intercalate "/" cs) = cs := by
  induction cs with
  | nil => rfl
  | cons c cs ih =>
      obtain ⟨⟨hslash, hempty, hdot⟩, hcs⟩ := List.forall_mem_cons.mp h
      have hc := components_name hslash hempty hdot
      cases cs with
      | nil => rw [String.intercalate_singleton, hc]
      | cons d cs => rw [String.intercalate_cons_cons, components_append_slash, hc, ih hcs]; rfl

/-- Nonempty components without a slash join to a relative path. -/
theorem isAbsolute_intercalate : isAbsolute (String.intercalate "/" cs) = false := by
  cases cs with
  | nil => rfl
  | cons c cs =>
      obtain ⟨⟨hslash, hempty, -⟩, -⟩ := List.forall_mem_cons.mp h
      have hc := isAbsolute_of_notMem hslash
      cases cs with
      | nil => rw [String.intercalate_singleton, hc]
      | cons d cs =>
          rw [String.intercalate_cons_cons, String.append_assoc, isAbsolute_append _ hempty, hc]

end Joined

/-- Every component but the last is nonempty, has no slash and is not the current directory. -/
theorem plain_of_mem_dropLast (path : String) :
    ∀ c ∈ (components path).dropLast, '/' ∉ c.toList ∧ c ≠ "" ∧ c ≠ "." :=
  fun _ hc => plain_of_mem_components (List.dropLast_subset _ hc)

/-- The directory above a path has its components up to the last one. -/
theorem components_parent (path : String) : components (parent path) = (components path).dropLast := by
  have habove := components_intercalate (plain_of_mem_dropLast path)
  by_cases habsolute : isAbsolute path = true
  · have hroot (s : String) : components ("/" ++ s) = components s := by
      rw [← String.empty_append (s := "/"), components_append_slash, components_empty,
        List.nil_append]
    rw [parent, if_pos habsolute, hroot, habove]
  · rw [parent, if_neg habsolute, habove]

/-- The directory above a path starts where the path does. -/
theorem isAbsolute_parent (path : String) : isAbsolute (parent path) = isAbsolute path := by
  by_cases habsolute : isAbsolute path = true
  · rw [parent, if_pos habsolute, habsolute, isAbsolute_append _ (by decide)]
    rfl
  · rw [parent, if_neg habsolute, isAbsolute_intercalate (plain_of_mem_dropLast path)]
    exact (Bool.not_eq_true _ ▸ habsolute).symm

/-! ## Suffixes -/

/-- The suffixes that there are. -/
def suffixes : List String :=
  [".go", ".proto", ".sql", ".rapier.gen.go"]

variable (b : Artifact.Backend)

/-- The suffix of a backend is one of the listed suffixes. -/
theorem suffix_mem_suffixes : b.suffix ∈ suffixes := by
  cases b <;> simp [suffixes, Artifact.Backend.suffix]

/-- A suffix starts with a dot, has more than two characters, no slash and no blanks around it. -/
theorem plain_of_mem_suffixes : ∀ suffix ∈ suffixes, '/' ∉ suffix.toList ∧ 2 < suffix.length ∧
    Text.onChars Text.trim suffix = suffix ∧ suffix.toList.head? = some '.' := by
  decide +kernel

/-- No suffix has a slash. -/
theorem notMem_suffix : '/' ∉ b.suffix.toList :=
  (plain_of_mem_suffixes _ (suffix_mem_suffixes b)).1

/-- Every suffix is longer than the parent directory's two dots. -/
theorem two_lt_length_suffix : 2 < b.suffix.length :=
  (plain_of_mem_suffixes _ (suffix_mem_suffixes b)).2.1

/-- The suffix of a backend stands behind the name as it is. -/
theorem withSuffix_suffix (dir name : String) :
    withSuffix dir name b.suffix = join dir (name ++ b.suffix) := by
  obtain ⟨-, -, htrim, hdot⟩ := plain_of_mem_suffixes _ (suffix_mem_suffixes b)
  rw [withSuffix, htrim]
  show join dir (name ++ if b.suffix = "" ∨ _ then _ else _) = _
  rw [if_pos (.inr hdot)]

/-- A name with its suffix is longer than the parent directory's two dots. -/
theorem two_lt_length_append_suffix (name : String) : 2 < (name ++ b.suffix).length := by
  have := two_lt_length_suffix b
  rw [String.length_append]
  omega

/-- A name with its suffix never names the parent directory. -/
theorem append_suffix_ne_dots (name : String) : name ++ b.suffix ≠ ".." := by
  intro heq
  have hlength := two_lt_length_append_suffix b name
  rw [heq] at hlength
  contradiction

/-- The path of a file with a backend's suffix does not stand for a directory. -/
theorem asksDirectory_withSuffix (dir name : String) :
    asksDirectory (withSuffix dir name b.suffix) = false := by
  obtain ⟨above, habove⟩ : ∃ above, join dir (name ++ b.suffix) = above ++ b.suffix := by
    rw [join]
    split
    · exact ⟨name, rfl⟩
    · split
      · exact ⟨dir ++ name, String.append_assoc.symm⟩
      · exact ⟨dir ++ "/" ++ name, String.append_assoc.symm⟩
  obtain ⟨ws, w, -, hw⟩ :=
    Text.exists_pieces_append above.toList (beq_slash_of_notMem (notMem_suffix b))
  have hlength := two_lt_length_suffix b
  rw [withSuffix_suffix, habove, asksDirectory, String.toList_append, hw, List.getLast?_concat]
  -- a piece that ends in the suffix is longer than the ones that stand for a directory
  have hlong : 2 < (w ++ b.suffix.toList).length := by
    rw [List.length_append, String.length_toList]
    omega
  show ((w ++ b.suffix.toList == []) || (w ++ b.suffix.toList == ['.'])) = false
  rw [Bool.or_eq_false_iff, beq_eq_false_iff_ne, beq_eq_false_iff_ne]
  constructor
  · intro heq
    simp [heq] at hlong
  · intro heq
    simp [heq] at hlong

/-- **The name of a file is the last component of its path**, with the suffix, if it holds no slash. -/
theorem components_withSuffix (dir : String) (hslash : '/' ∉ name.toList) :
    components (withSuffix dir name b.suffix) = components dir ++ [name ++ b.suffix] := by
  have hlength := two_lt_length_append_suffix b name
  rw [withSuffix_suffix]
  refine components_join dir ?_ ?_ ?_
  · rw [String.toList_append, List.mem_append, not_or]
    exact ⟨hslash, notMem_suffix b⟩
  · intro heq
    rw [heq] at hlength
    contradiction
  · intro heq
    rw [heq] at hlength
    contradiction

/-! ## Files directly in a directory -/

/-- The directories that a name goes through as a path, in front of its last piece. -/
def passed (name : String) : List String :=
  ((Text.pieces (· == '/') name.toList).dropLast.map String.ofList).filter fun c =>
    c != "" && c != "."

/-- A name without a slash passes through no directory. -/
theorem passed_of_notMem (hslash : '/' ∉ name.toList) : passed name = [] := by
  rw [passed, pieces_of_notMem hslash]
  rfl

/-- A name with a suffix goes through the directories of the name and ends in a file. -/
theorem exists_components_append_suffix (name : String) :
    ∃ file, file ≠ ".." ∧ components (name ++ b.suffix) = passed name ++ [file] := by
  obtain ⟨ws, w, hname, hall⟩ :=
    Text.exists_pieces_append name.toList (beq_slash_of_notMem (notMem_suffix b))
  have hlong (short : String) (hshort : short.length ≤ 2) :
      String.ofList (w ++ b.suffix.toList) ≠ short := by
    rintro rfl
    have hlength := two_lt_length_suffix b
    rw [String.length_ofList, List.length_append, String.length_toList] at hshort
    omega
  refine ⟨String.ofList (w ++ b.suffix.toList), hlong ".." (by decide), ?_⟩
  rw [components, passed, String.toList_append, hall, hname, List.dropLast_concat, List.map_append,
    List.filter_append, List.map_singleton, List.filter_cons_of_pos, List.filter_nil]
  rw [Bool.and_eq_true, bne_iff_ne, bne_iff_ne]
  exact ⟨hlong "" (by decide), hlong "." (by decide)⟩

/-- Does a path lead to a file directly in a directory, by its form? -/
structure IsChild (dir path : String) : Prop where
  isAbsolute_eq : isAbsolute path = isAbsolute dir
  components_eq : ∃ file, file ≠ ".." ∧ components path = components dir ++ [file]

/-- Does a name stay in a directory? One that is seen from the directory goes through no other, and one
that starts at the root goes through those on the way to the directory. -/
def StaysIn (dir name : String) : Prop :=
  if isAbsolute name = true then isAbsolute dir = true ∧ passed name = components dir
  else passed name = []

instance (dir name : String) : Decidable (StaysIn dir name) :=
  inferInstanceAs (Decidable (if isAbsolute name = true
    then isAbsolute dir = true ∧ passed name = components dir else passed name = []))

/-- A name without a slash stays in every directory. -/
theorem staysIn_of_notMem (dir : String) (hslash : '/' ∉ name.toList) : StaysIn dir name := by
  rw [StaysIn, if_neg (by rw [isAbsolute_of_notMem hslash]; exact Bool.false_ne_true)]
  exact passed_of_notMem hslash

/-- The suffix does not decide whether a name is absolute. -/
theorem isAbsolute_append_suffix (name : String) :
    isAbsolute (name ++ b.suffix) = isAbsolute name := by
  by_cases hname : name = ""
  · rw [hname, String.empty_append, isAbsolute_of_notMem (notMem_suffix b)]
    rfl
  · exact isAbsolute_append b.suffix hname

/-- **A file is directly in the directory exactly if its name stays there.** -/
theorem isChild_withSuffix_iff (dir name : String) :
    IsChild dir (withSuffix dir name b.suffix) ↔ StaysIn dir name := by
  obtain ⟨file, hfile, hcomponents⟩ := exists_components_append_suffix b name
  have hrest := isAbsolute_append_suffix b name
  rw [withSuffix_suffix, StaysIn]
  by_cases habsolute : isAbsolute name = true
  · -- the name is the whole path, so it has to lead to the directory by itself
    rw [if_pos habsolute, join, if_pos (hrest.trans habsolute)]
    constructor
    · rintro ⟨hstart, file', -, hcomponents'⟩
      rw [hcomponents] at hcomponents'
      exact ⟨hstart.symm.trans (hrest.trans habsolute), List.append_inj_left' hcomponents' rfl⟩
    · rintro ⟨hdir, hpassed⟩
      exact ⟨(hrest.trans habsolute).trans hdir.symm, file, hfile, by rw [hcomponents, hpassed]⟩
  · -- the name goes on where the directory ends
    have hrelative : isAbsolute (name ++ b.suffix) = false :=
      hrest.trans ((Bool.not_eq_true _).mp habsolute)
    have hjoin := components_join_of_relative dir hrelative
    rw [hcomponents] at hjoin
    rw [if_neg habsolute]
    constructor
    · rintro ⟨-, file', -, hcomponents'⟩
      rw [hjoin, List.append_cancel_left_eq] at hcomponents'
      exact List.append_inj_left' (hcomponents'.trans (List.nil_append _).symm) rfl
    · intro hpassed
      refine ⟨isAbsolute_join_of_relative dir hrelative, file, hfile, ?_⟩
      rw [hjoin, hpassed, List.nil_append]

end Path

end Tablewright
