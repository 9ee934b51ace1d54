import Mathlib.Data.List.Nodup
import Tablewright.Proofs.Lists
import Tablewright.Proofs.Table.TagSegments

/-! # The keys of a table in its gorm tags

The tags of a table's columns say what its keys are. A segment such as `uniqueIndex:NAME,priority:2`
marks its column as the second one of a unique index (`indexMark?`), and `primaryKey` marks a column
of the primary key (`keyMark?`). The columns that carry the mark of an index, in the order of their
priorities (`marked`), are the columns of that index.

* `filterMap_indexMark?`, `filterMap_keyMark?`: the marks that one column carries.
* `filterMap_perm_marks`: an index marks its own columns, each with its place.
* `marked_eq_marks`: the marks of all columns tell the keys. -/

namespace Tablewright.GormTag

/-! ## Marks -/

/-- What a segment says of an index that its column is in. -/
structure Mark where
  unique : Bool
  priority? : Option Nat
  deriving DecidableEq

/-- The priority behind the name of a segment: none if nothing stands there. -/
def readPriority? (s : List Char) : Option (Option Nat) :=
  if s = [] then some none
  else (s.dropPrefix? ",priority:".toList).bind fun digits =>
    if digits ≠ [] ∧ digits.all Char.isDigit = true then some (some (Nat.ofDigitChars 10 digits 0))
    else none

/-- A segment up to its first comma, with the priority behind that. -/
def readMark? (segment : List Char) : Option (String × Option Nat) :=
  (readPriority? (segment.dropWhile (· != ','))).map fun priority? =>
    (String.ofList (segment.takeWhile (· != ',')), priority?)

/-- The mark of the index with a name. -/
def indexMark? (name : String) (segment : List Char) : Option Mark :=
  match readMark? segment with
  | some (key, priority?) =>
    if key = "uniqueIndex:" ++ name then some ⟨true, priority?⟩
    else if key = "index:" ++ name then some ⟨false, priority?⟩
    else none
  | none => none

/-- The mark of the primary key, which is unique. -/
def keyMark? (segment : List Char) : Option Mark :=
  match readMark? segment with
  | some (key, priority?) => if key = "primaryKey" then some ⟨true, priority?⟩ else none
  | none => none

/-- The columns of a table whose tags carry marks, in the order of the priorities. -/
def marked (read : List Char → Option Mark) (t : Table) (withComment : Bool) :
    List (String × Mark) :=
  (t.columns.flatMap fun c =>
    ((readSegments (tag t c withComment)).filterMap read).map fun m => (c.name, m)).mergeSort
      fun a b => decide (a.2.priority?.getD 0 ≤ b.2.priority?.getD 0)

/-- The mark of an index at one of its columns: a single column has no priority. -/
def markAt (i : Index) (position : Nat) : Mark :=
  ⟨i.isUnique, if 1 < i.columns.length then some position else none⟩

/-- The columns of an index in their order, each with its mark. -/
def marks (i : Index) : List (String × Mark) :=
  (i.columns.zipIdx 1).map fun c => (c.1, markAt i c.2)

/-! ### Reading a mark -/

/-- The priority that is written is read back. -/
theorem readPriority?_priority (i : Index) (position : Nat) :
    readPriority? (priority i position).toList = some (markAt i position).priority? := by
  rw [priority, markAt]
  by_cases hlong : i.columns.length > 1
  · have hdigits : Nat.toDigits 10 position ≠ [] ∧
        (Nat.toDigits 10 position).all Char.isDigit = true := by
      refine ⟨Nat.toDigits_ne_nil, List.all_eq_true.mpr fun c hc => ?_⟩
      exact Nat.isDigit_of_mem_toDigits (by decide) (by decide) hc
    rw [if_pos hlong, if_pos hlong, Nat.toString_eq_repr, String.toList_append, Nat.toList_repr,
      readPriority?, if_neg (List.append_ne_nil_of_right_ne_nil _ hdigits.1),
      List.dropPrefix?_append_of_beq _ (BEq.refl _), Option.bind_some, if_pos hdigits,
      Nat.ofDigitChars_ten_toDigits]
  · rw [if_neg hlong, if_neg hlong]
    rfl

/-- A name without a comma in front of a priority is read back with it. -/
theorem readMark?_append_priority {key : String} (hkey : ',' ∉ key.toList) (i : Index)
    (position : Nat) :
    readMark? (key ++ priority i position).toList = some (key, (markAt i position).priority?) := by
  have hall : ∀ c ∈ key.toList, (c != ',') = true := by
    intro c hc
    rw [bne_iff_ne]
    rintro rfl
    exact hkey hc
  -- behind the name there is nothing, or a comma
  have htail : (priority i position).toList.takeWhile (· != ',') = [] ∧
      (priority i position).toList.dropWhile (· != ',') = (priority i position).toList := by
    rw [priority]
    split
    · rw [String.toList_append]
      exact ⟨rfl, rfl⟩
    · exact ⟨rfl, rfl⟩
  rw [readMark?, String.toList_append, List.takeWhile_append_of_pos hall,
    List.dropWhile_append_of_pos hall, htail.1, htail.2, readPriority?_priority, List.append_nil,
    String.ofList_toList]
  rfl

/-- The name of a segment starts with the character that the segment starts with. -/
theorem readMark?_cons {c : Char} (hc : c ≠ ',') {s : List Char} {key : String}
    {priority? : Option Nat} (h : readMark? (c :: s) = some (key, priority?)) :
    key.toList.head? = some c := by
  have hbne : (c != ',') = true := bne_iff_ne.mpr hc
  rw [readMark?, List.takeWhile_cons_of_pos (p := (· != ',')) hbne] at h
  obtain ⟨_, -, heq⟩ := Option.map_eq_some_iff.mp h
  rw [← (Prod.mk.inj heq).1, String.toList_ofList]
  rfl

/-- A segment with another first letter marks no index. -/
theorem indexMark?_cons {c : Char} (hc : c ≠ ',' ∧ c ≠ 'u' ∧ c ≠ 'i') (name : String)
    (s : List Char) : indexMark? name (c :: s) = none := by
  rw [indexMark?]
  cases hread : readMark? (c :: s) with
  | none => rfl
  | some mark =>
      obtain ⟨key, priority?⟩ := mark
      have hhead := readMark?_cons hc.1 hread
      have hunique : key ≠ "uniqueIndex:" ++ name := by
        rintro rfl
        exact hc.2.1 (Option.some.inj (by simpa using hhead)).symm
      have hindex : key ≠ "index:" ++ name := by
        rintro rfl
        exact hc.2.2 (Option.some.inj (by simpa using hhead)).symm
      show (if key = _ then _ else _) = _
      rw [if_neg hunique, if_neg hindex]

/-- A segment with another first letter marks no primary key. -/
theorem keyMark?_cons {c : Char} (hc : c ≠ ',' ∧ c ≠ 'p') (s : List Char) :
    keyMark? (c :: s) = none := by
  rw [keyMark?]
  cases hread : readMark? (c :: s) with
  | none => rfl
  | some mark =>
      obtain ⟨key, priority?⟩ := mark
      have hhead := readMark?_cons hc.1 hread
      have hkey : key ≠ "primaryKey" := by
        rintro rfl
        exact hc.2 (Option.some.inj (by simpa using hhead)).symm
      exact if_neg hkey

/-! ## The marks of a column -/

/-- The first letters of the segments that are about the column itself. -/
def ownLetters : List Char := ['c', 't', 'n', 'a', 'd']

/-- What reads no mark off a segment about the column itself reads marks off the segments of keys. -/
theorem filterMap_read_segments {read : List Char → Option Mark}
    (hread : ∀ c ∈ ownLetters, ∀ s, read (c :: s) = none) (t : Table) (c : Column)
    (withComment : Bool) :
    (segments t c withComment).filterMap (fun s => read s.toList) =
      ((keyPosition? t c).bind fun k => read ("primaryKey" ++ priority k.1 k.2).toList).toList ++
        t.secondaryIndexes.filterMap fun i =>
          (indexSegment? c.name i).bind fun s => read s.toList := by
  -- what is read starts with none of the letters that these segments start with
  have hopenings : ∀ opening ∈ textOpenings, ∀ s, read (opening ++ s).toList = none := by
    intro opening hopening s
    have hletter : ∀ opening ∈ textOpenings, ∃ c cs, opening.toList = c :: cs ∧ c ∈ ownLetters := by
      simp [textOpenings, ownLetters]
    obtain ⟨c, cs, hcons, hc⟩ := hletter opening hopening
    rw [String.toList_append, hcons]
    exact hread c hc _
  have hnull : read "not null".toList = none := hread 'n' (by decide) _
  have hauto : read "autoIncrement:true".toList = none := hread 'a' (by decide) _
  have hprimary (key : Index) (position : Nat) :
      (primarySegments c key position).filterMap (fun s => read s.toList) =
        (read ("primaryKey" ++ priority key position).toList).toList := by
    rw [primarySegments, List.filterMap_append, filterMap_singleton]
    split
    · simp only [filterMap_singleton, hauto, Option.toList_none, List.nil_append]
    · rw [List.filterMap_nil, List.nil_append]
  rw [filterMap_segments hopenings, hnull, Option.toList_none, ite_self, List.nil_append]
  congr 1
  cases keyPosition? t c with
  | none => rfl
  | some k => exact hprimary k.1 k.2

/-- No segment is about an index of both kinds. -/
theorem index_ne_uniqueIndex (m n : String) : "index:" ++ m ≠ "uniqueIndex:" ++ n := by
  intro h
  simpa using congrArg (fun s => s.toList.head?) h

/-- The segment of an index marks the index of its name, and no other. -/
theorem indexMark?_segment {name : String} {i : Index} (hi : ',' ∉ i.name.toList)
    (column : String) :
    (indexSegment? column i).bind (fun s => indexMark? name s.toList) =
      if i.name = name then (i.position? column).map (markAt i) else none := by
  rw [indexSegment?]
  cases hposition : i.position? column with
  | none => exact (ite_self none).symm
  | some position =>
      -- the priority is read behind the first comma, so the key must have none
      have hkey : ',' ∉ ((if i.isUnique then "uniqueIndex:" else "index:") ++ i.name).toList := by
        rw [String.toList_append, List.mem_append, not_or]
        refine ⟨?_, hi⟩
        split <;> simp
      rw [Option.map_some, Option.bind_some, indexMark?, readMark?_append_priority hkey]
      cases hunique : i.isUnique with
      | true =>
          have hother : "uniqueIndex:" ++ i.name ≠ "index:" ++ name :=
            (index_ne_uniqueIndex name i.name).symm
          simp [markAt, hunique, hother]
      | false =>
          have hother : "index:" ++ i.name ≠ "uniqueIndex:" ++ name :=
            index_ne_uniqueIndex i.name name
          simp [markAt, hunique, hother]

/-- **The marks of an index in the tag of a column** come from the indexes of its name. -/
theorem filterMap_indexMark? {t : Table} {c : Column} (hplain : Plain t c)
    (hcomma : ∀ i ∈ t.indexes, ',' ∉ i.name.toList) (name : String) (withComment : Bool) :
    (readSegments (tag t c withComment)).filterMap (indexMark? name) =
      t.secondaryIndexes.filterMap fun i =>
        if i.name = name then (i.position? c.name).map (markAt i) else none := by
  have hletters : ∀ c ∈ ownLetters, c ≠ ',' ∧ c ≠ 'u' ∧ c ≠ 'i' := by simp [ownLetters]
  have hread : ∀ c ∈ ownLetters, ∀ s, indexMark? name (c :: s) = none := fun c hc =>
    indexMark?_cons (hletters c hc) name
  have hkey (k : Index × Nat) : indexMark? name ("primaryKey" ++ priority k.1 k.2).toList = none := by
    rw [String.toList_append]
    exact indexMark?_cons (c := 'p') (by decide) name _
  rw [readSegments_tag hplain, List.filterMap_map]
  refine (filterMap_read_segments hread t c withComment).trans ?_
  simp only [hkey, Option.bind_fun_none, Option.toList_none, List.nil_append]
  refine List.filterMap_congr fun i hi => ?_
  exact indexMark?_segment (hcomma i (List.mem_of_mem_filter hi)) c.name

/-- **The mark of the primary key in the tag of a column.** -/
theorem filterMap_keyMark? {t : Table} {c : Column} (hplain : Plain t c) (withComment : Bool) :
    (readSegments (tag t c withComment)).filterMap keyMark? =
      (t.primaryKey?.bind fun key => (key.position? c.name).map (markAt key)).toList := by
  have hletters : ∀ c ∈ ownLetters, c ≠ ',' ∧ c ≠ 'p' := by simp [ownLetters]
  have hread : ∀ c ∈ ownLetters, ∀ s, keyMark? (c :: s) = none := fun c hc =>
    keyMark?_cons (hletters c hc)
  -- a mark of an index starts with another letter than that of a primary key
  have hindex (i : Index) : (indexSegment? c.name i).bind (fun s => keyMark? s.toList) = none := by
    rw [indexSegment?]
    cases i.position? c.name with
    | none => rfl
    | some position =>
        rw [Option.map_some, Option.bind_some, String.toList_append, String.toList_append]
        split
        · exact keyMark?_cons (c := 'u') (by decide) _
        · exact keyMark?_cons (c := 'i') (by decide) _
  rw [readSegments_tag hplain, List.filterMap_map]
  refine (filterMap_read_segments hread t c withComment).trans ?_
  have hnone : t.secondaryIndexes.filterMap (fun i =>
      (indexSegment? c.name i).bind fun s => keyMark? s.toList) = [] :=
    List.filterMap_eq_nil_iff.mpr fun i _ => hindex i
  rw [hnone, List.append_nil, keyPosition?]
  cases hkey : t.primaryKey? with
  | none => rfl
  | some key =>
      have hprimary : key.isUnique = true := by
        rw [Index.isUnique, List.find?_some hkey, Bool.or_true]
      rw [Option.bind_some, Option.bind_some]
      cases key.position? c.name with
      | none => rfl
      | some position =>
          rw [Option.map_some, Option.map_some, Option.bind_some, keyMark?,
            readMark?_append_priority (by decide)]
          simp [markAt, hprimary]

/-! ## The marks of all columns -/

/-- The texts that are written into tags as they are hold no semicolon, names of indexes no comma
either; columns and indexes have names of their own, and every index is over columns of the table,
none of them twice. -/
structure Taggable (t : Table) : Prop where
  plain : ∀ c ∈ t.columns, Plain t c
  indexNames : ∀ i ∈ t.indexes, ',' ∉ i.name.toList
  columns : (t.columns.map Column.name).Nodup
  indexes : (t.indexes.map Index.name).Nodup
  indexColumns : ∀ i ∈ t.indexes, i.columns.Nodup
  known : ∀ i ∈ t.indexes, ∀ n ∈ i.columns, n ∈ t.columns.map Column.name

/-- A column of an index without repeats has the place where it stands. -/
theorem position?_eq_some {i : Index} (hnodup : i.columns.Nodup) {n : String} {p : Nat}
    (h : (n, p) ∈ i.columns.zipIdx 1) : i.position? n = some p := by
  obtain ⟨hle, hget⟩ := List.mem_zipIdx_iff_le_and_getElem?_sub.mp h
  obtain ⟨hlt, hn⟩ := List.getElem?_eq_some_iff.mp hget
  have hfirst : i.columns.findIdx? (· == n) = some (p - 1) := by
    rw [List.findIdx?_eq_some_iff_getElem]
    refine ⟨hlt, beq_iff_eq.mpr hn, fun j hj heq => ?_⟩
    have hsame : i.columns[j] = i.columns[p - 1] := (beq_iff_eq.mp heq).trans hn.symm
    exact absurd (hnodup.getElem_inj_iff.mp hsame) (Nat.ne_of_lt hj)
  rw [Index.position?, hfirst, Option.map_some, Nat.sub_add_cancel hle]

/-- A column that is not in an index has no position there. -/
theorem position?_eq_none {i : Index} {n : String} (h : n ∉ i.columns) : i.position? n = none := by
  rw [Index.position?, Option.map_eq_none_iff, List.findIdx?_eq_none_iff]
  intro m hm
  rw [beq_eq_false_iff_ne]
  rintro rfl
  exact h hm

/-- **An index marks its own columns**, each with its place, whatever other columns there are. -/
theorem filterMap_perm_marks {i : Index} (hnodup : i.columns.Nodup) {names : List String}
    (hnames : names.Nodup) (hknown : ∀ n ∈ i.columns, n ∈ names) :
    (names.filterMap fun n => (i.position? n).map fun p => (n, markAt i p)).Perm (marks i) := by
  have hown : (names.filter fun n => decide (n ∈ i.columns)).Perm i.columns := by
    rw [List.perm_ext_iff_of_nodup (hnames.filter _) hnodup]
    intro n
    rw [List.mem_filter, decide_eq_true_eq]
    exact ⟨And.right, fun hn => ⟨hknown n hn, hn⟩⟩
  -- the other columns have no place in it
  have hothers : (names.filterMap fun n => (i.position? n).map fun p => (n, markAt i p)) =
      (names.filter fun n => decide (n ∈ i.columns)).filterMap fun n =>
        (i.position? n).map fun p => (n, markAt i p) := by
    rw [List.filterMap_filter]
    refine List.filterMap_congr fun n _ => ?_
    by_cases hn : n ∈ i.columns
    · rw [if_pos (decide_eq_true hn)]
    · rw [if_neg (by simpa using hn), position?_eq_none hn]
      rfl
  have hplaces : (i.columns.filterMap fun n => (i.position? n).map fun p => (n, markAt i p)) =
      marks i := by
    have hzip : i.columns = (i.columns.zipIdx 1).map Prod.fst := (List.zipIdx_map_fst ..).symm
    rw [marks, ← List.filterMap_eq_map]
    conv => lhs; rw [hzip, List.filterMap_map]
    refine List.filterMap_congr fun c hc => ?_
    rw [Function.comp_apply, position?_eq_some hnodup hc]
    rfl
  rw [hothers, ← hplaces]
  exact hown.filterMap _

/-- The priorities ascend along an index. -/
theorem pairwise_marks (i : Index) :
    (marks i).Pairwise fun a b => a.2.priority?.getD 0 < b.2.priority?.getD 0 := by
  rw [marks, List.pairwise_map]
  by_cases hlong : 1 < i.columns.length
  · have hplaces : (i.columns.zipIdx 1).Pairwise fun a b => a.2 < b.2 := by
      rw [← List.pairwise_map (f := Prod.snd), List.zipIdx_map_snd]
      exact List.pairwise_lt_range'
    refine hplaces.imp fun hlt => ?_
    rw [markAt, markAt, if_pos hlong, if_pos hlong]
    exact hlt
  · -- there are no two columns to compare
    match hcolumns : i.columns with
    | [] => exact List.Pairwise.nil
    | [c] => exact List.pairwise_singleton _ _
    | c :: d :: cs =>
        rw [hcolumns] at hlong
        exact absurd (by simp) hlong

/-- If every column carries the marks of an index that it is in, the marked columns are those of the
index, in its order. -/
theorem marked_eq {t : Table} (ht : Taggable t) {i : Index} (hi : i ∈ t.indexes)
    {read : List Char → Option Mark} {withComment : Bool}
    (hread : ∀ c ∈ t.columns, (readSegments (tag t c withComment)).filterMap read =
      ((i.position? c.name).map (markAt i)).toList) :
    marked read t withComment = marks i := by
  -- sorted by position, the marks come out the same in whatever order the columns stand
  refine mergeSort_eq_of_perm ?_ (pairwise_marks i)
  have hmarks : (t.columns.flatMap fun c =>
      ((readSegments (tag t c withComment)).filterMap read).map fun m => (c.name, m)) =
        (t.columns.map Column.name).filterMap fun n =>
          (i.position? n).map fun p => (n, markAt i p) := by
    rw [List.filterMap_map, List.filterMap_eq_flatMap_toList]
    refine List.flatMap_congr fun c hc => ?_
    rw [hread c hc, Function.comp_apply]
    cases i.position? c.name with
    | none => rfl
    | some p => rfl
  rw [hmarks]
  exact filterMap_perm_marks (ht.indexColumns i hi) ht.columns (ht.known i hi)

/-- If no column carries a mark, there are no marked columns. -/
theorem marked_eq_nil {t : Table} {read : List Char → Option Mark} {withComment : Bool}
    (hread : ∀ c ∈ t.columns, (readSegments (tag t c withComment)).filterMap read = []) :
    marked read t withComment = [] := by
  have hempty : (t.columns.flatMap fun c =>
      ((readSegments (tag t c withComment)).filterMap read).map fun m => (c.name, m)) = [] := by
    rw [List.flatMap_eq_nil_iff]
    intro c hc
    rw [hread c hc, List.map_nil]
  rw [marked, hempty, List.mergeSort_nil]

/-- **The marks of all columns tell the keys of a table.** The columns that carry the mark of an index
are its columns, in the order of the priorities; they count from one, and there are some if the
index has several columns. The mark says whether the index is unique. No column carries the mark of
an index that there is not, and the columns that carry `primaryKey` are those of the primary key. -/
theorem marked_eq_marks {t : Table} (ht : Taggable t) (withComment : Bool) :
    (∀ i ∈ t.secondaryIndexes, marked (indexMark? i.name) t withComment = marks i) ∧
      (∀ name, name ∉ t.secondaryIndexes.map Index.name →
        marked (indexMark? name) t withComment = []) ∧
      marked keyMark? t withComment = (t.primaryKey?.map marks).getD [] := by
  have hnodup : (t.secondaryIndexes.map Index.name).Nodup :=
    ht.indexes.sublist (List.filter_sublist.map _)
  refine ⟨fun i hi => ?_, fun name hname => ?_, ?_⟩
  · -- among the indexes only this one has its name
    refine marked_eq ht (List.mem_of_mem_filter hi) fun c hc => ?_
    rw [filterMap_indexMark? (ht.plain c hc) ht.indexNames,
      filterMap_eq_toList hnodup hi fun j _ hne => if_neg hne, if_pos rfl]
  · refine marked_eq_nil fun c hc => ?_
    rw [filterMap_indexMark? (ht.plain c hc) ht.indexNames, List.filterMap_eq_nil_iff]
    intro i hi
    rw [if_neg]
    rintro rfl
    exact hname (List.mem_map_of_mem hi)
  · cases hkey : t.primaryKey? with
    | none =>
        refine marked_eq_nil fun c hc => ?_
        rw [filterMap_keyMark? (ht.plain c hc), hkey]
        rfl
    | some key =>
        refine marked_eq ht (List.mem_of_find?_eq_some hkey) fun c hc => ?_
        rw [filterMap_keyMark? (ht.plain c hc), hkey]
        rfl

/-- Two indexes over the same columns in different orders, one of them unique, beside a primary key of
one column, and a comment that looks like a segment. -/
theorem marked_eq_marks_orders :
    let a : Column :=
      { (default : Column) with name := "a", rawType := "int", comment := "x;index:by_b" }
    let b : Column := { (default : Column) with name := "b", rawType := "int" }
    let key : Index := { (default : Index) with name := "PRIMARY", columns := ["b"] }
    let byA : Index := { (default : Index) with name := "by_a", columns := ["a", "b"] }
    let byB : Index := { (default : Index) with name := "by_b", columns := ["b", "a"], unique := true }
    let t : Table :=
      { (default : Table) with name := "t", columns := [a, b], indexes := [key, byA, byB] }
    Taggable t ∧
      marked (indexMark? "by_a") t true = [("a", ⟨false, some 1⟩), ("b", ⟨false, some 2⟩)] ∧
      marked (indexMark? "by_b") t true = [("b", ⟨true, some 1⟩), ("a", ⟨true, some 2⟩)] ∧
      marked keyMark? t true = [("b", ⟨true, none⟩)] := by
  intro a b key byA byB t
  have hindexNames : ∀ i ∈ t.indexes, ';' ∉ i.name.toList := by
    decide
  have ht : Taggable t :=
    { plain := by
        intro c hc
        rcases List.mem_pair.mp hc with rfl | rfl
        · exact ⟨by decide, by decide, fun d hd => by contradiction, hindexNames⟩
        · exact ⟨by decide, by decide, fun d hd => by contradiction, hindexNames⟩
      indexNames := by decide
      columns := by decide
      indexes := by decide
      indexColumns := by decide
      known := by decide }
  obtain ⟨hindexes, -, hkey⟩ := marked_eq_marks ht true
  have hbyA : marks byA = [("a", ⟨false, some 1⟩), ("b", ⟨false, some 2⟩)] := by
    decide +kernel
  have hbyB : marks byB = [("b", ⟨true, some 1⟩), ("a", ⟨true, some 2⟩)] := by
    decide +kernel
  have hmarks : (t.primaryKey?.map marks).getD [] = [("b", ⟨true, none⟩)] := by
    decide +kernel
  exact ⟨ht, (hindexes byA (by decide +kernel)).trans hbyA,
    (hindexes byB (by decide +kernel)).trans hbyB, hkey.trans hmarks⟩

end Tablewright.GormTag
