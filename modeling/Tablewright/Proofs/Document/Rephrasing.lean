import Mathlib.Logic.Relation
import Tablewright.Proofs.Document.Fields
import Tablewright.Proofs.Json.Keeping

/-! # Documents that say the same in other ways

A record may be put in many ways (`Json.Restated`): with its members in any order, with members that
are no fields, without members that hold what stands for their absence anyway, or as the array of its
fields. A `Rephrasing` does one such thing at one place of a document, however deep inside lists,
dictionaries and other records. The keys of a dictionary are free, so none may come in or go; its
entries may change places, and their values may be rephrased.

* `Rephrasing.keeps`: one rephrasing leaves the value of a document as it is.
* `ofText_rephrased`: so do any number of them, in databases and in configurations. -/

namespace Tablewright

open Json (Format RecordPart Printable Restated ofText read_compact)

/-- One thing at one place of a document is put in another way. -/
inductive Rephrasing : {α : Type} → Format α → Json → Json → Prop
  | restate {α : Type} {F : Format α} {parts : List (String × RecordPart α)}
      (hF : Documented F parts) {j j' : Json} (hj : Restated parts j j') : Rephrasing F j j'
  | inMember {α : Type} {F : Format α} {parts : List (String × RecordPart α)}
      (hF : Documented F parts) {k : String} {p : RecordPart α} (hp : (k, p) ∈ parts)
      {j j' : Json} (hj : Rephrasing p.format j j') (before behind : List (Json × Json)) :
      Rephrasing F (.object (before ++ (ofText k, j) :: behind) none)
        (.object (before ++ (ofText k, j') :: behind) none)
  | inItem {α : Type} {F : Format α} {parts : List (String × RecordPart α)}
      (hF : Documented F parts) {k : String} {p : RecordPart α} {before : List Json}
      (hp : parts[before.length]? = some (k, p)) {j j' : Json} (hj : Rephrasing p.format j j')
      (behind : List Json) :
      Rephrasing F (.array (before ++ j :: behind) none) (.array (before ++ j' :: behind) none)
  | inList {α : Type} {F : Format α} {j j' : Json} (hj : Rephrasing F j j')
      (before behind : List Json) :
      Rephrasing (.list F) (.array (before ++ j :: behind) none)
        (.array (before ++ j' :: behind) none)
  /-- Entries of a dictionary with different keys change places. -/
  | permuteEntries {α : Type} {F : Format α} {entries entries' : List (Json × Json)}
      (hperm : entries.Perm entries') (hkeys : (entries.map (·.1)).Nodup) :
      Rephrasing (.dict F) (.object entries none) (.object entries' none)
  | inEntry {α : Type} {F : Format α} {j j' : Json} (hj : Rephrasing F j j') (k : Json)
      (before behind : List (Json × Json)) :
      Rephrasing (.dict F) (.object (before ++ (k, j) :: behind) none)
        (.object (before ++ (k, j') :: behind) none)

/-- **One rephrasing leaves the value of a document as it is.** -/
theorem Rephrasing.keeps {α : Type} {F : Format α} {j j' : Json} (h : Rephrasing F j j') :
    F.Keeps j j' := by
  induction h with
  | restate hF hj => exact hj.keeps hF.isRecord
  | inMember hF hp hj before behind ih =>
      exact hF.isRecord.keeps_of_front (hF.isRecord.keeps_member hp ih (before ++ behind))
  | inItem hF hp hj behind ih => exact hF.isRecord.keeps_item hp ih behind
  | inList hj before behind ih => exact ih.list before behind
  | permuteEntries hperm hkeys => exact Format.keeps_permuteEntries _ hperm hkeys
  | inEntry hj k before behind ih => exact ih.dict k before behind

/-- Any number of rephrasings leave the value of a document as it is. -/
theorem keeps_of_rephrasings {α : Type} {F : Format α} {j j' : Json}
    (h : Relation.ReflTransGen (Rephrasing F) j j') : F.Keeps j j' := by
  induction h with
  | refl => exact Format.Keeps.refl F j
  | tail _ hlast ih => exact ih.trans hlast.keeps

/-- A text that is rephrased any number of times is read as before. -/
theorem read_of_rephrasings {α : Type} {F : Format α} {text text' : String} {j j' : Json}
    (htext : Json.read text = (j, false)) (htext' : Json.read text' = (j', false))
    (h : Relation.ReflTransGen (Rephrasing F) j j') {x : α} (hx : F.read text = .ok x) :
    F.read text' = .ok x := by
  have hkeeps := keeps_of_rephrasings h
  obtain ⟨hfits, rfl⟩ := (Format.read_eq_ok_iff htext).mp hx
  exact (Format.read_eq_ok_iff htext').mpr ⟨hkeeps.fits hfits, hkeeps.decode_eq hfits⟩

/-- **Documents that are put in other ways have the same values**, databases and configurations. -/
theorem ofText_rephrased {text text' : String} {j j' : Json} (htext : Json.read text = (j, false))
    (htext' : Json.read text' = (j', false)) :
    (Relation.ReflTransGen (Rephrasing Database.format) j j' →
        ∀ d, Database.ofText text = .ok d → Database.ofText text' = .ok d) ∧
      (Relation.ReflTransGen (Rephrasing Config.format) j j' →
        ∀ c, Config.ofText text = .ok c → Config.ofText text' = .ok c) :=
  ⟨fun h _ hd => read_of_rephrasings htext htext' h hd,
    fun h _ hc => read_of_rephrasings htext htext' h hc⟩

/-- A database that becomes an array, and a section that leaves out a default. -/
theorem ofText_rephrased_shop :
    Database.ofText (String.ofList (Json.compact (Json.list [ofText "shop", Json.list []]))) =
        .ok ⟨"shop", []⟩ ∧
      Config.ofText (String.ofList (Json.compact (Json.record [("sql", Json.record [])]))) =
        .ok .standard := by
  constructor
  · -- an object written out as an array
    have hname : Printable (Json.record [("name", ofText "shop")]) :=
      .record (List.forall_mem_singleton.mpr (.text _))
    have harray : Printable (Json.list [ofText "shop", Json.list []]) :=
      .list (List.forall_mem_cons.mpr
        ⟨.text _, List.forall_mem_singleton.mpr (.list (List.forall_mem_nil _))⟩)
    have hwritten : Rephrasing Database.format (Json.record [("name", ofText "shop")])
        (Json.list [ofText "shop", Json.list []]) :=
      .restate .database (.writeOut Json.noConfusion
        (.cons (Or.inl rfl) (.cons (Or.inr ⟨rfl, rfl, rfl⟩) .nil)))
    exact (ofText_rephrased (read_compact hname) (read_compact harray)).1 (.single hwritten) _
      ((Format.read_eq_ok_iff (read_compact hname)).mpr ⟨rfl, rfl⟩)
  · -- a field left out that has its default
    have hfalse : Printable (Json.record [("sql", Json.record [("merge", .bool false)])]) :=
      .record (List.forall_mem_singleton.mpr (.record (List.forall_mem_singleton.mpr (.bool _))))
    have hleft : Printable (Json.record [("sql", Json.record [])]) :=
      .record (List.forall_mem_singleton.mpr (.record (List.forall_mem_nil _)))
    have hmerge : Restated SqlConfig.parts (Json.record [("merge", .bool false)])
        (Json.record []) :=
      .delete (k := "merge") (p := .defaulted .flag false SqlConfig.merge)
        (by simp [SqlConfig.parts]) (v := .bool false) ⟨rfl, rfl⟩ [] []
    have hdeleted : Rephrasing Config.format
        (Json.record [("sql", Json.record [("merge", .bool false)])])
        (Json.record [("sql", Json.record [])]) :=
      .inMember .config (k := "sql") (p := .defaulted SqlConfig.format Config.standard.sql Config.sql)
        (by simp [Config.parts]) (.restate .sqlConfig hmerge) [] []
    exact (ofText_rephrased (read_compact hfalse) (read_compact hleft)).2 (.single hdeleted) _
      ((Format.read_eq_ok_iff (read_compact hfalse)).mpr ⟨rfl, rfl⟩)

end Tablewright
