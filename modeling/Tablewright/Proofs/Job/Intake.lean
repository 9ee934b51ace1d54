import Tablewright.Job.Intake
import Tablewright.Proofs.Lists

/-! # What is taken in from documents

One document after the other is taken in, whatever became of those before it. What a document adds
depends on it alone: its tables, and perhaps its name, if it can be read and understood
(`Intake.understood`), its path and the cause if not (`Intake.refused`). Every path is on one of the two
sides (`Intake.length_understood_add_length_refused`), so counting the skipped ones tells whether any
document was of use.

* `Intake.take_eq`: what one document does to what is there.
* `Intake.foldl_take`: what all of them do, in their order.
* `Intake.Gathers`: the databases and the skipped paths of some documents, one document at a time.
* `Intake.ofPaths_gathers`: the name, the tables and the skipped paths of any documents, and when
  there is nothing to work on. -/

namespace Tablewright

/-- The first of some names that is not empty; the empty name if all are. -/
def firstName (names : List String) : String :=
  (names.find? (· ≠ "")).getD ""

/-- The first name counts unless it is empty. -/
theorem firstName_cons (name : String) (names : List String) :
    firstName (name :: names) = if name = "" then firstName names else name := by
  by_cases h : name = ""
  · simp [firstName, h]
  · simp [firstName, h]

/-- A single name is the first one, empty or not. -/
theorem firstName_singleton (name : String) : firstName [name] = name := by
  rw [firstName_cons]
  exact ite_eq_right_iff.mpr fun h => h.symm

/-- Names that come later count only if all before them are empty. -/
theorem firstName_append (names later : List String) :
    firstName (names ++ later) = firstName (firstName names :: later) := by
  induction names with
  | nil => rw [List.nil_append, firstName_cons, if_pos (by rfl)]
  | cons name names ih =>
      rw [List.cons_append, firstName_cons, ih, firstName_cons name names]
      by_cases h : name = ""
      · rw [if_pos h, if_pos h]
      · rw [if_neg h, if_neg h, firstName_cons, if_neg h]

namespace Intake

/-! ## One document -/

section Document

variable {read : String → Except FileFault String} {path : String}

/-- A document gives a database if it can be read and its text understood. -/
theorem document_eq_ok_iff {d : Database} :
    document read path = .ok d ↔ ∃ text, read path = .ok text ∧ Database.ofText text = .ok d := by
  rw [document, bind_eq_ok_iff]
  simp only [mapError_eq_ok_iff]

/-- A document is skipped for what went wrong with the file or, if it was read, with its text. -/
theorem document_eq_error_iff {cause : IntakeError} :
    document read path = .error cause ↔
      (∃ fault, read path = .error fault ∧ cause = .unread fault) ∨
      ∃ text fault, read path = .ok text ∧ Database.ofText text = .error fault ∧
        cause = .misunderstood fault := by
  rw [document]
  cases read path with
  | error fault => simp [Except.mapError, bind, Except.bind, eq_comm]
  | ok text =>
      cases htext : Database.ofText text with
      | error fault => simp [Except.mapError, bind, Except.bind, htext, eq_comm]
      | ok d => simp [Except.mapError, bind, Except.bind, htext]

end Document

/-! ## What there is to add -/

variable (read : String → Except FileFault String)

/-- The databases of the documents that are understood, in the order of their paths. -/
def understood (paths : List String) : List Database :=
  paths.filterMap fun p => (document read p).toOption

/-- The path and the cause, if the document at the path is not understood. -/
def refusal? (path : String) : Option (String × IntakeError) :=
  match document read path with
  | .ok _ => none
  | .error cause => some (path, cause)

/-- The paths of the documents that are not understood with their causes, in their order. -/
def refused (paths : List String) : List (String × IntakeError) :=
  paths.filterMap (refusal? read)

section Cons

variable {read} {path : String} {paths : List String}

/-- A document that is understood comes in front of the others that are. -/
theorem understood_cons_of_ok {d : Database} (h : document read path = .ok d) :
    understood read (path :: paths) = d :: understood read paths := by
  simp [understood, h, Except.toOption]

/-- A document that is skipped is not understood. -/
theorem understood_cons_of_error {cause : IntakeError} (h : document read path = .error cause) :
    understood read (path :: paths) = understood read paths := by
  simp [understood, h, Except.toOption]

/-- A document that is understood is not skipped. -/
theorem refused_cons_of_ok {d : Database} (h : document read path = .ok d) :
    refused read (path :: paths) = refused read paths := by
  simp [refused, refusal?, h]

/-- A document that is skipped comes in front of the others that are. -/
theorem refused_cons_of_error {cause : IntakeError} (h : document read path = .error cause) :
    refused read (path :: paths) = (path, cause) :: refused read paths := by
  simp [refused, refusal?, h]

end Cons

/-- Put the tables of some databases and some skipped paths behind those that are there. -/
def extend (i : Intake) (ds : List Database) (skipped : List (String × IntakeError)) : Intake :=
  ⟨⟨firstName (i.database.name :: ds.map (·.name)), i.database.tables ++ ds.flatMap (·.tables)⟩,
    i.skipped ++ skipped⟩

/-- What is put behind in two parts is put behind at once. -/
theorem extend_extend (i : Intake) (ds ds' : List Database)
    (skipped skipped' : List (String × IntakeError)) :
    (i.extend ds skipped).extend ds' skipped' = i.extend (ds ++ ds') (skipped ++ skipped') := by
  simp only [extend, List.map_append, List.flatMap_append, List.append_assoc]
  rw [← List.cons_append, firstName_append]

/-- Putting nothing behind changes nothing. -/
theorem extend_nil (i : Intake) : i.extend [] [] = i := by
  simp only [extend, List.map_nil, firstName_singleton, List.flatMap_nil, List.append_nil]

/-- **What one document does**: it brings in its tables, and its name if there is none yet, or else it
is remembered as skipped. -/
theorem take_eq (i : Intake) (path : String) :
    take read i path = i.extend (understood read [path]) (refused read [path]) := by
  rw [take, understood, refused, filterMap_singleton, filterMap_singleton, refusal?]
  cases document read path with
  | ok d =>
      show i.add d = i.extend [d] []
      have hname : firstName [i.database.name, d.name] =
          if i.database.name = "" then d.name else i.database.name := by
        rw [firstName_cons, firstName_singleton]
      simp only [add, extend, List.map_cons, List.map_nil, hname, List.flatMap_singleton,
        List.append_nil]
  | error cause =>
      show i.skip path cause = i.extend [] [(path, cause)]
      simp only [skip, extend, List.map_nil, firstName_singleton, List.flatMap_nil, List.append_nil]

/-- **What some documents do**: what each of them does, in their order. -/
theorem foldl_take (i : Intake) (paths : List String) :
    paths.foldl (take read) i = i.extend (understood read paths) (refused read paths) := by
  induction paths generalizing i with
  | nil => exact (extend_nil i).symm
  | cons path paths ih =>
      rw [List.foldl_cons, ih, take_eq, extend_extend]
      simp only [understood, refused, ← List.filterMap_append, List.singleton_append]

/-- Every document is understood or skipped. -/
theorem length_understood_add_length_refused (paths : List String) :
    (understood read paths).length + (refused read paths).length = paths.length := by
  have hsides : ∀ path, (refusal? read path).isSome = !(document read path).toOption.isSome := by
    intro path
    rw [refusal?]
    cases document read path with
    | ok d => rfl
    | error cause => rfl
  rw [understood, refused, List.length_filterMap_eq_countP, List.length_filterMap_eq_countP,
    List.length_eq_countP_add_countP (fun path => (document read path).toOption.isSome)]
  simp only [hsides, Bool.not_eq_true, Bool.decide_eq_false]

/-- All documents are skipped if none is understood. -/
theorem length_refused_eq_iff (paths : List String) :
    (refused read paths).length = paths.length ↔ understood read paths = [] := by
  rw [← List.length_eq_zero_iff]
  have hall := length_understood_add_length_refused read paths
  omega

/-- No document is understood if none of them can be read and its text understood. -/
theorem understood_eq_nil_iff (paths : List String) :
    understood read paths = [] ↔
      ∀ path ∈ paths, ¬∃ text d, read path = .ok text ∧ Database.ofText text = .ok d := by
  rw [understood, List.filterMap_eq_nil_iff]
  refine forall₂_congr fun path _ => ?_
  rw [exists_comm]
  simp only [← document_eq_ok_iff]
  cases document read path with
  | error cause => exact iff_of_true rfl fun ⟨d, h⟩ => by contradiction
  | ok d => exact iff_of_false (fun h => by contradiction) fun hnone => hnone ⟨d, rfl⟩

/-! ## All documents -/

/-- **What some documents give**, going through their paths in order: a document that can be read and
understood gives the next database, and one that cannot gives the next skipped path with its cause. -/
inductive Gathers : List String → List Database → List (String × IntakeError) → Prop where
  | nil : Gathers [] [] []
  /-- A file that can be read and holds a database. -/
  | decoded {path text : String} {d : Database} {paths : List String} {ds : List Database}
      {skipped : List (String × IntakeError)} (hread : read path = .ok text)
      (htext : Database.ofText text = .ok d) (hrest : Gathers paths ds skipped) :
      Gathers (path :: paths) (d :: ds) skipped
  /-- A file that cannot be read. -/
  | unread {path : String} {fault : FileFault} {paths : List String} {ds : List Database}
      {skipped : List (String × IntakeError)} (hread : read path = .error fault)
      (hrest : Gathers paths ds skipped) :
      Gathers (path :: paths) ds ((path, .unread fault) :: skipped)
  /-- A file that can be read but holds no database. -/
  | misunderstood {path text : String} {fault : Json.Fault} {paths : List String} {ds : List Database}
      {skipped : List (String × IntakeError)} (hread : read path = .ok text)
      (htext : Database.ofText text = .error fault) (hrest : Gathers paths ds skipped) :
      Gathers (path :: paths) ds ((path, .misunderstood fault) :: skipped)

/-- The documents give what is understood and what is skipped. -/
theorem gathers (paths : List String) :
    Gathers read paths (understood read paths) (refused read paths) := by
  induction paths with
  | nil => exact .nil
  | cons path paths ih =>
      cases hdocument : document read path with
      | ok d =>
          obtain ⟨text, hread, htext⟩ := document_eq_ok_iff.mp hdocument
          rw [understood_cons_of_ok hdocument, refused_cons_of_ok hdocument]
          exact .decoded hread htext ih
      | error cause =>
          rw [understood_cons_of_error hdocument, refused_cons_of_error hdocument]
          obtain ⟨fault, hread, rfl⟩ | ⟨text, fault, hread, htext, rfl⟩ :=
            document_eq_error_iff.mp hdocument
          · exact .unread hread ih
          · exact .misunderstood hread htext ih

/-- The documents give nothing else. -/
theorem Gathers.eq {read : String → Except FileFault String} {paths : List String}
    {ds : List Database} {skipped : List (String × IntakeError)} (h : Gathers read paths ds skipped) :
    ds = understood read paths ∧ skipped = refused read paths := by
  induction h with
  | nil => exact ⟨rfl, rfl⟩
  | decoded hread htext _ ih =>
      have hdocument := document_eq_ok_iff.mpr ⟨_, hread, htext⟩
      rw [understood_cons_of_ok hdocument, refused_cons_of_ok hdocument, ← ih.1, ← ih.2]
      exact ⟨rfl, rfl⟩
  | unread hread _ ih =>
      have hdocument := document_eq_error_iff.mpr (.inl ⟨_, hread, rfl⟩)
      rw [understood_cons_of_error hdocument, refused_cons_of_error hdocument, ← ih.1, ← ih.2]
      exact ⟨rfl, rfl⟩
  | misunderstood hread htext _ ih =>
      have hdocument := document_eq_error_iff.mpr (.inr ⟨_, _, hread, htext, rfl⟩)
      rw [understood_cons_of_error hdocument, refused_cons_of_error hdocument, ← ih.1, ← ih.2]
      exact ⟨rfl, rfl⟩

/-- **What is taken in from any documents.** There is nothing to work on exactly if there are documents
and none of them can be read and understood. Otherwise the tables are those of the documents that can,
one document behind the other, under the first name that is not empty, and the others are the skipped
ones, in their order and each with its cause. -/
theorem ofPaths_gathers (paths : List String) :
    ∃ ds skipped, Gathers read paths ds skipped ∧
      (ds = [] ↔ ∀ path ∈ paths, ¬∃ text d, read path = .ok text ∧ Database.ofText text = .ok d) ∧
      ofPaths read paths =
        if paths ≠ [] ∧ ds = [] then .error paths.length
        else .ok
          { database := { name := firstName (ds.map (·.name)), tables := ds.flatMap (·.tables) },
            skipped := skipped } := by
  refine ⟨understood read paths, refused read paths, gathers read paths,
    understood_eq_nil_iff read paths, ?_⟩
  have hall : paths.foldl (take read) empty =
      ⟨⟨firstName ((understood read paths).map (·.name)),
        (understood read paths).flatMap (·.tables)⟩, refused read paths⟩ := by
    rw [foldl_take]
    simp only [extend, empty, firstName_cons, if_true, List.nil_append]
  rw [ofPaths, hall]
  simp only [length_refused_eq_iff]

/-- Three files: one that is cut off, one that holds the table `user`, and one that is missing. The first and
the last one are skipped, each for its own cause, and do not keep the table from being taken in. -/
theorem ofPaths_gathers_cut_user_missing :
    let read (path : String) : Except FileFault String :=
      if path = "cut.json" then .ok "\x7b\"name\":"
      else if path = "app.json" then
        .ok "\x7b\"name\":\"app\",\"tables\":[\x7b\"name\":\"user\"\x7d]\x7d"
      else .error .missing
    let user : Table := { (default : Table) with name := "user" }
    ∃ fault, Database.ofText "\x7b\"name\":" = .error fault ∧
      Gathers read ["cut.json", "app.json", "lost.json"] [⟨"app", [user]⟩]
        [("cut.json", .misunderstood fault), ("lost.json", .unread .missing)] ∧
      ofPaths read ["cut.json", "app.json", "lost.json"] =
        .ok ⟨⟨"app", [user]⟩, [("cut.json", .misunderstood fault), ("lost.json", .unread .missing)]⟩ := by
  intro read user
  obtain ⟨fault, hfault⟩ : ∃ fault, Database.ofText "\x7b\"name\":" = .error fault := by
    cases hcut : Database.ofText "\x7b\"name\":" with
    | error fault => exact ⟨fault, rfl⟩
    | ok d =>
        have hnot : (Database.ofText "\x7b\"name\":").isOk = false := by
          decide +kernel
        rw [hcut] at hnot
        contradiction
  have huser : Database.ofText
      "\x7b\"name\":\"app\",\"tables\":[\x7b\"name\":\"user\"\x7d]\x7d" = .ok ⟨"app", [user]⟩ := by
    decide +kernel
  have hgathers : Gathers read ["cut.json", "app.json", "lost.json"] [⟨"app", [user]⟩]
      [("cut.json", .misunderstood fault), ("lost.json", .unread .missing)] :=
    .misunderstood rfl hfault (.decoded rfl huser (.unread rfl .nil))
  obtain ⟨ds, skipped, hgathers', -, hall⟩ :=
    ofPaths_gathers read ["cut.json", "app.json", "lost.json"]
  obtain rfl := hgathers'.eq.1.trans hgathers.eq.1.symm
  obtain rfl := hgathers'.eq.2.trans hgathers.eq.2.symm
  exact ⟨fault, hfault, hgathers, hall⟩

end Intake

end Tablewright
