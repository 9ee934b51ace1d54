import Tablewright.Column.GoType
import Tablewright.Proofs.Naming.Identifier
import Mathlib.Data.List.TakeWhile

/-! # Pointers, slices and maps of a type

A Go type becomes another one by what is written in front of it: the star of a pointer, the brackets of a
slice, or a map with the type of its keys (`Go.TypeFormer`). The package of a type that is formed from a
named one should be the package of that name. Reading behind all stars and brackets finds it through
pointers and slices, but a map ends them.

* `GoType.beforeLastDot_append`, `Go.dropWhile_spelled`: the two steps of reading a package.
* `GoType.qualifier_formed`: what is read through any formers.
* `GoType.qualifier_of_map`: a type of which the package is not read. -/

namespace Tablewright

namespace Go

/-- What makes another type of a type. -/
inductive TypeFormer where
  | pointer
  | slice
  | map (key : String)
  deriving DecidableEq

namespace TypeFormer

/-- A former as it is written. -/
def text : TypeFormer → String
  | pointer => "*"
  | slice => "[]"
  | map key => "map[" ++ key ++ "]"

/-- Does it make a map? -/
def isMap : TypeFormer → Bool
  | map _ => true
  | pointer | slice => false

end TypeFormer

/-- A type behind its formers, the outermost first, as it is written. -/
def spelled : List TypeFormer → String → String
  | [], type => type
  | former :: formers, type => former.text ++ spelled formers type

@[simp] theorem spelled_nil (type : String) : spelled [] type = type := rfl

/-- The outermost former is written first. -/
@[simp] theorem spelled_cons (former : TypeFormer) (formers : List TypeFormer) (type : String) :
    spelled (former :: formers) type = former.text ++ spelled formers type := rfl

/-- What is formed from the front of a spelling is the front of what is formed. -/
theorem spelled_append (formers : List TypeFormer) (front rest : String) :
    spelled formers (front ++ rest) = spelled formers front ++ rest := by
  induction formers with
  | nil => rfl
  | cons former formers ih => rw [spelled_cons, spelled_cons, ih, String.append_assoc]

/-- Every former is seen. -/
theorem length_le_length_spelled (formers : List TypeFormer) (type : String) :
    formers.length + type.length ≤ (spelled formers type).length := by
  induction formers with
  | nil => simp
  | cons former formers ih =>
      have htext : 1 ≤ former.text.length := by
        cases former with
        | pointer => decide
        | slice => decide
        | map key =>
            rw [TypeFormer.text, String.length_append, String.length_append]
            exact Nat.le_add_left _ _
      rw [spelled_cons, String.length_append, List.length_cons]
      omega

/-- A type is spelled as itself only without formers. -/
theorem spelled_eq_self_iff {formers : List TypeFormer} {type : String} :
    spelled formers type = type ↔ formers = [] := by
  constructor
  · intro h
    have hlength := length_le_length_spelled formers type
    rw [h] at hlength
    exact List.eq_nil_of_length_eq_zero (by omega)
  · rintro rfl
    rfl

/-- **Behind its stars and brackets** a type is at its first map, or at the type that it is formed from. -/
theorem dropWhile_spelled {type : String}
    (htype : ∀ c ∈ type.toList.head?, (c == '*' || c == '[' || c == ']') = false)
    (formers : List TypeFormer) :
    (spelled formers type).toList.dropWhile (fun c => c == '*' || c == '[' || c == ']') =
      (spelled (formers.dropWhile (!·.isMap)) type).toList := by
  induction formers with
  | nil =>
      rw [spelled_nil, List.dropWhile_nil, spelled_nil]
      cases hchars : type.toList with
      | nil => rfl
      | cons c cs =>
          rw [hchars] at htype
          exact List.dropWhile_cons_of_neg (by rw [htype c rfl]; exact Bool.false_ne_true)
  | cons former formers ih =>
      rw [spelled_cons, String.toList_append]
      cases former with
      | pointer => exact ih
      | slice => exact ih
      | map key =>
          -- the `m` of the map is where the stars and brackets end
          rw [List.dropWhile_cons_of_neg (by simp [TypeFormer.isMap]), spelled_cons,
            String.toList_append, TypeFormer.text, String.toList_append, String.toList_append]
          rfl

/-- A type that is formed is a pointer, a slice or a map by its spelling, and no other type is. -/
theorem spelledNilable_spelled_iff {type : String} (hstar : '*' ∉ type.toList)
    (hbracket : '[' ∉ type.toList) (formers : List TypeFormer) :
    GoType.spelledNilable (spelled formers type) = true ↔ formers ≠ [] := by
  rw [GoType.spelledNilable]
  simp only [Bool.or_eq_true, List.isPrefixOf_iff_prefix]
  cases formers with
  | nil =>
      refine iff_of_false ?_ (by simp)
      rintro ((h | h) | h)
      · exact hbracket (h.mem (by decide))
      · exact hstar (h.mem (by decide))
      · exact hbracket (h.mem (by decide))
  | cons former formers =>
      refine iff_of_true ?_ (by simp)
      rw [spelled_cons, String.toList_append]
      cases former with
      | pointer => exact .inl (.inr (List.prefix_append _ _))
      | slice => exact .inl (.inl (List.prefix_append _ _))
      | map key =>
          rw [TypeFormer.text, String.toList_append, String.toList_append, List.append_assoc,
            List.append_assoc]
          exact .inr (List.prefix_append _ _)

end Go

namespace GoType

open Go (TypeFormer spelled)
open Naming (isGoIdentifier)

/-- The last dot is the one behind which there is none. -/
theorem beforeLastDot_append (front : List Char) {rest : List Char} (h : '.' ∉ rest) :
    beforeLastDot (front ++ '.' :: rest) = front := by
  have hrest : ∀ c ∈ rest.reverse, (c != '.') = true := by
    intro c hc
    rw [bne_iff_ne]
    exact fun heq => h (heq ▸ List.mem_reverse.mp hc)
  rw [beforeLastDot, List.reverse_append, List.reverse_cons, List.append_assoc,
    List.singleton_append, List.dropWhile_append_of_pos hrest,
    List.dropWhile_cons_of_neg (by decide), List.drop_one, List.tail_cons, List.reverse_reverse]

/-- An identifier has no dot, no star and no bracket. -/
theorem mark_notMem {s : String} (h : isGoIdentifier s = true) :
    ∀ c ∈ ['.', '*', '[', ']'], c ∉ s.toList := by
  intro c hc
  have hother : Unicode.isAlphanumeric c = false ∧ c ≠ '_' := by
    simp only [List.mem_cons, List.not_mem_nil, or_false] at hc
    rcases hc with rfl | rfl | rfl | rfl <;> decide
  exact Naming.notMem_of_isGoIdentifier h hother.1 hother.2

section Formed

variable {package name : String} (hpackage : isGoIdentifier package = true)
  (hname : isGoIdentifier name = true)

include hpackage in
/-- A name of a package starts with no star and no bracket. -/
theorem head?_qualified (name : String) : ∀ c ∈ (package ++ "." ++ name).toList.head?,
    (c == '*' || c == '[' || c == ']') = false := by
  obtain ⟨c, cs, hs, -⟩ := Naming.isGoIdentifier_iff.mp hpackage
  have hc : c ∈ package.toList := hs ▸ List.mem_cons_self
  have hother (d : Char) (hd : d ∈ ['.', '*', '[', ']']) : c ≠ d := fun heq =>
    mark_notMem hpackage d hd (heq ▸ hc)
  simp [hs, hother]

include hpackage hname in
/-- It has none behind its start either. -/
theorem notMem_qualified : ∀ c ∈ ['*', '[', ']'], c ∉ (package ++ "." ++ name).toList := by
  intro c hc
  have hmark : c ∈ ['.', '*', '[', ']'] := List.mem_cons_of_mem '.' hc
  have hdot : c ≠ '.' := by
    rintro rfl
    contradiction
  simp [hdot, mark_notMem hpackage c hmark, mark_notMem hname c hmark]

include hpackage hname in
/-- What is read is what stands in front of the name, from the first map on. -/
theorem qualifierOf_spelled (formers : List TypeFormer) :
    qualifierOf (spelled formers (package ++ "." ++ name)) =
      spelled (formers.dropWhile (!·.isMap)) package := by
  -- the dot in front of the name is the last one
  have hchars : (spelled (formers.dropWhile (!·.isMap)) (package ++ "." ++ name)).toList =
      (spelled (formers.dropWhile (!·.isMap)) package).toList ++ '.' :: name.toList := by
    rw [String.append_assoc, Go.spelled_append, String.toList_append]
    simp
  rw [qualifierOf, ← String.toList_inj, Text.toList_onChars,
    Go.dropWhile_spelled (head?_qualified hpackage name), hchars]
  exact beforeLastDot_append _ (mark_notMem hname '.' (by decide))

end Formed

/-- **What is read of the package of a formed type.** A name of a package may stand behind any number of
stars, brackets and maps. If the type has a path, the text that is read in front of its last dot is the
name of the package with the maps that are in front of it, and with all that stands behind the first of
these. So the package is read exactly if there is no map. Each former alike makes the type one whose values
can be absent. -/
theorem qualifier_formed (kind : ColumnKind) (formers : List TypeFormer) {package name path : String}
    (hpackage : isGoIdentifier package = true) (hname : isGoIdentifier name = true)
    (hpath : path ≠ "") :
    let type := ofIdent kind (spelled formers (package ++ "." ++ name)) path
    type.qualifier = spelled (formers.dropWhile (!·.isMap)) package ∧
      (type.qualifier = package ↔ ∀ former ∈ formers, former.isMap = false) ∧
      (type.nilable = true ↔ formers ≠ []) := by
  intro type
  have hread : type.qualifier = spelled (formers.dropWhile (!·.isMap)) package := by
    show (if path = "" then "" else _) = _
    rw [if_neg hpath, qualifierOf_spelled hpackage hname]
  have hmarks := notMem_qualified hpackage hname
  refine ⟨hread, ?_, ?_⟩
  · rw [hread, Go.spelled_eq_self_iff, List.dropWhile_eq_nil_iff]
    simp
  · exact Go.spelledNilable_spelled_iff (hmarks '*' (by decide)) (hmarks '[' (by decide)) formers

/-- The values of a map to slices of a package's type, behind a pointer: the map stays in what is read. -/
theorem qualifier_formed_decimal :
    let type := ofIdent .other
      (spelled [.pointer, .slice, .map "string", .slice] ("decimal" ++ "." ++ "Decimal"))
      "github.com/shopspring/decimal"
    isGoIdentifier "decimal" = true ∧ isGoIdentifier "Decimal" = true ∧
      "github.com/shopspring/decimal" ≠ "" ∧
      type.ident = "*[]map[string][]decimal.Decimal" ∧ type.qualifier = "map[string][]decimal" ∧
      type.nilable = true := by
  have hpackage : isGoIdentifier "decimal" = true := by decide
  have hname : isGoIdentifier "Decimal" = true := by decide
  have hpath : "github.com/shopspring/decimal" ≠ "" := by decide
  obtain ⟨hread, -, hnilable⟩ := qualifier_formed .other
    [.pointer, .slice, .map "string", .slice] hpackage hname hpath
  exact ⟨hpackage, hname, hpath, by decide, hread, hnilable.mpr (by decide)⟩

/-- **Through a map the package is not read**, though the spelling is seen to be that of a map: of
`map[string]decimal.Decimal` it is `map[string]decimal`. -/
theorem qualifier_of_map :
    ¬ ∀ (kind : ColumnKind) (formers : List TypeFormer) (package name path : String),
      isGoIdentifier package = true → isGoIdentifier name = true →
      (∀ key, .map key ∈ formers → isGoIdentifier key = true) → path ≠ "" →
      (ofIdent kind (spelled formers (package ++ "." ++ name)) path).qualifier = package := by
  intro hclaim
  have hread := hclaim .string [.map "string"] "decimal" "Decimal" "github.com/shopspring/decimal"
    (by decide) (by decide)
    (fun key hkey => by obtain ⟨⟩ := List.mem_singleton.mp hkey; decide) (by decide)
  exact absurd hread (by decide)

end GoType

end Tablewright
