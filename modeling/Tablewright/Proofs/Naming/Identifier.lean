import Tablewright.Naming.Identifier
import Tablewright.Proofs.Unicode.Class

/-! # Identifiers and the identifiers of Go

The Go language spells its identifiers with letters, decimal digits and `_`. `isGoIdentifier` asks for what
is alphabetic or a number instead, and that is more: `²` is a number, but no decimal digit. The characters
in which the two differ are the lookalikes.

* `isSpecIdentifier_iff`: a text is an identifier of the language exactly if it passes the check and has no
  lookalike in it. So every identifier of the language passes, and whatever else passes has a lookalike.
* `isGoIdentifier_lookalike`: there is such a text. -/

namespace Tablewright.Naming

open Unicode

/-- The identifiers of the Go language: `_` or a letter (category L), then `_`, letters and decimal digits
(category Nd), and no keyword. -/
def IsSpecIdentifier (s : String) : Prop :=
  ∃ c cs, s.toList = c :: cs ∧ (c = '_' ∨ isLetter c = true) ∧
    (∀ d ∈ cs, d = '_' ∨ isLetter d = true ∨ isDecimalDigit d = true) ∧ s ∉ goKeywords

/-- The check in the form of the language: what may come first, what may follow, and the keywords. -/
theorem isGoIdentifier_iff {s : String} :
    isGoIdentifier s = true ↔
      ∃ c cs, s.toList = c :: cs ∧ (c = '_' ∨ isAlphabetic c = true) ∧
        (∀ d ∈ cs, d = '_' ∨ isAlphanumeric d = true) ∧ s ∉ goKeywords := by
  rw [isGoIdentifier]
  cases s.toList with
  | nil => simp [startsThen]
  | cons c cs => simp [startsThen, or_comm, and_assoc]

/-- What may come first or follow is all that such a text has. -/
theorem notMem_of_isGoIdentifier {s : String} (h : isGoIdentifier s = true) {c : Char}
    (hc : isAlphanumeric c = false) (hunderscore : c ≠ '_') : c ∉ s.toList := by
  obtain ⟨d, ds, hs, hd, hds, -⟩ := isGoIdentifier_iff.mp h
  have hfirst : isAlphabetic c = false := by
    rw [isAlphanumeric, Bool.or_eq_false_iff] at hc
    exact hc.1
  rw [hs, List.mem_cons, not_or]
  constructor
  · rintro rfl
    simp [hunderscore, hfirst] at hd
  · intro hmem
    simpa [hunderscore, hc] using hds c hmem

/-- What may come first in an identifier of the language. -/
theorem first_iff {c : Char} :
    c = '_' ∨ isLetter c = true ↔ (c = '_' ∨ isAlphabetic c = true) ∧ isLookalike c = false := by
  have hunderscore : isLookalike '_' = false := isLookalike_of_isAscii rfl
  rw [isLetter_iff]
  constructor
  · rintro (rfl | ⟨hc, hlook⟩)
    · exact ⟨.inl rfl, hunderscore⟩
    · exact ⟨.inr hc, hlook⟩
  · rintro ⟨rfl | hc, hlook⟩
    · exact .inl rfl
    · exact .inr ⟨hc, hlook⟩

/-- What may follow in an identifier of the language. -/
theorem following_iff {c : Char} :
    c = '_' ∨ isLetter c = true ∨ isDecimalDigit c = true ↔
      (c = '_' ∨ isAlphanumeric c = true) ∧ isLookalike c = false := by
  rw [← or_assoc, first_iff, isDecimalDigit_iff, ← or_and_right, or_assoc, isAlphanumeric,
    Bool.or_eq_true]

/-- **The identifiers of Go** are the texts that pass the check and have no lookalike of a letter or a digit
in them. -/
theorem isSpecIdentifier_iff (s : String) :
    IsSpecIdentifier s ↔ isGoIdentifier s = true ∧ ∀ c ∈ s.toList, isLookalike c = false := by
  rw [isGoIdentifier_iff]
  constructor
  · rintro ⟨c, cs, hs, hc, hcs, hkeyword⟩
    obtain ⟨hfirst, hlook⟩ := first_iff.mp hc
    have hrest : ∀ d ∈ cs, (d = '_' ∨ isAlphanumeric d = true) ∧ isLookalike d = false :=
      fun d hd => following_iff.mp (hcs d hd)
    refine ⟨⟨c, cs, hs, hfirst, fun d hd => (hrest d hd).1, hkeyword⟩, ?_⟩
    rw [hs]
    exact List.forall_mem_cons.mpr ⟨hlook, fun d hd => (hrest d hd).2⟩
  · rintro ⟨⟨c, cs, hs, hfirst, hrest, hkeyword⟩, hlook⟩
    rw [hs] at hlook
    obtain ⟨hc, hcs⟩ := List.forall_mem_cons.mp hlook
    refine ⟨c, cs, hs, first_iff.mpr ⟨hfirst, hc⟩, ?_, hkeyword⟩
    exact fun d hd => following_iff.mpr ⟨hrest d hd, hcs d hd⟩

/-- **The check lets more pass** than the language has: `a²` passes, in which `²` is neither a letter nor a
decimal digit. -/
theorem isGoIdentifier_lookalike :
    ¬ ∀ s : String, isGoIdentifier s = true ↔ IsSpecIdentifier s := by
  intro hclaim
  have hpasses : isGoIdentifier "a²" = true := by
    decide +kernel
  obtain ⟨c, cs, hs, -, hcs, -⟩ := (hclaim "a²").mp hpasses
  obtain ⟨rfl, rfl⟩ := List.cons.inj hs
  have hsquare := hcs '²' (by decide)
  revert hsquare
  decide +kernel

end Tablewright.Naming
