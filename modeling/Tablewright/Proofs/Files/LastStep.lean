import Tablewright.Proofs.Files.Path

/-! # The last step of a path

What a path leads to is called by its last step. Behind it there may be slashes, and dots between them,
which lead nowhere (`Idle`); in front of it there is a slash or nothing. So the last step can be seen in the
text of the path (`LastStep`), and the last component is nothing else.

* `idle_or_exists_lastStep`: a path leads nowhere, or it has a last step.
* `getLast?_components_iff`: the last component of a path is its last step.
* `fileName?_eq_some_iff`: so is the file name, unless that is a step upwards. -/

namespace Tablewright.Path

/-- What leads nowhere: slashes, and dots that stand alone between them. -/
inductive Idle : List Char → Prop
  | nil : Idle []
  | slash {rest : List Char} (h : Idle rest) : Idle ('/' :: rest)
  | dot {rest : List Char} (h : Idle rest) : Idle ('/' :: '.' :: rest)

/-- The path ends in this step, possibly with slashes and dots behind it. -/
structure LastStep (path step : List Char) : Prop where
  ne_nil : step ≠ []
  ne_dot : step ≠ ['.']
  slash_notMem : '/' ∉ step
  exists_eq : ∃ front rest, path = front ++ step ++ rest ∧
    (front = [] ∨ front.getLast? = some '/') ∧ Idle rest

/-- **Every path has a last step** if it leads somewhere. A path that does not would be idle behind a slash. -/
theorem idle_or_exists_lastStep (path : List Char) :
    Idle ('/' :: path) ∨ ∃ step, LastStep path step := by
  induction path with
  | nil => exact .inl (.slash .nil)
  | cons c path ih =>
      by_cases hc : c = '/'
      · -- a slash in front leads nowhere by itself
        subst hc
        refine ih.imp .slash ?_
        rintro ⟨step, hne, hdot, hslash, front, rest, rfl, hfront, hrest⟩
        refine ⟨step, hne, hdot, hslash, '/' :: front, rest, rfl, .inr ?_, hrest⟩
        rcases hfront with rfl | hfront
        · rfl
        · rw [List.getLast?_cons, hfront]
          rfl
      · rcases ih with hidle | ⟨step, hne, hdot, hslash, front, rest, rfl, hfront, hrest⟩
        · cases hidle with
          | slash hrest =>
              -- the character stands alone, which is a step unless it is a dot
              by_cases hc' : c = '.'
              · subst hc'
                exact .inl (.dot hrest)
              · exact .inr ⟨[c], by simp, by simp [hc'], by simp [Ne.symm hc], [], path, rfl, .inl rfl,
                  hrest⟩
          | @dot rest hrest =>
              exact .inr ⟨[c, '.'], by simp, by simp, by simp [Ne.symm hc], [], rest, rfl, .inl rfl, hrest⟩
        · rcases hfront with rfl | hfront
          · -- the step begins with the character
            exact .inr ⟨c :: step, by simp, by simp [hne], by simp [Ne.symm hc, hslash], [], rest, rfl,
              .inl rfl, hrest⟩
          · refine .inr ⟨step, hne, hdot, hslash, c :: front, rest, rfl, .inr ?_, hrest⟩
            rw [List.getLast?_cons, hfront]
            rfl

/-- What leads nowhere adds no component. -/
theorem components_append_idle {rest : List Char} (h : Idle rest) (s : String) :
    components (s ++ String.ofList rest) = components s := by
  induction h generalizing s with
  | nil => rw [String.ofList_nil, String.append_empty]
  | @slash rest h ih =>
      have hsplit : s ++ String.ofList ('/' :: rest) = s ++ "/" ++ ("" ++ String.ofList rest) := by
        rw [← String.toList_inj]
        simp
      rw [hsplit, components_append_slash, ih, components_empty, List.append_nil]
  | @dot rest h ih =>
      have hsplit : s ++ String.ofList ('/' :: '.' :: rest) =
          s ++ "/" ++ ("." ++ String.ofList rest) := by
        rw [← String.toList_inj]
        simp
      have hdot : components "." = [] := by rfl
      rw [hsplit, components_append_slash, ih, hdot, List.append_nil]

/-- A path that is idle behind a slash has no components. -/
theorem components_eq_nil_of_idle {path : String} (h : Idle ('/' :: path.toList)) :
    components path = [] := by
  have hslash : "" ++ String.ofList ('/' :: path.toList) = "" ++ "/" ++ path := by
    rw [← String.toList_inj]
    simp
  have hnone := components_append_idle h ""
  rwa [hslash, components_append_slash, components_empty, List.nil_append] at hnone

/-- A last step is the last component. -/
theorem LastStep.getLast?_components {path step : String} (h : LastStep path.toList step.toList) :
    (components path).getLast? = some step := by
  obtain ⟨hne, hdot, hslash, front, rest, hpath, hfront, hrest⟩ := h
  have hempty : step ≠ "" := fun heq => hne (String.toList_eq_nil_iff.mpr heq)
  have hname : step ≠ "." := by
    rintro rfl
    exact hdot rfl
  have hrelative : isAbsolute (step ++ String.ofList rest) = false := by
    rw [isAbsolute_append _ hempty, isAbsolute_of_notMem hslash]
  -- the front ends where a name may begin, so the path is the step as seen from there
  have hjoin : path = join (String.ofList front) (step ++ String.ofList rest) := by
    have hstart : String.ofList front = "" ∨ (String.ofList front).toList.getLast? = some '/' := by
      rw [String.toList_ofList]
      refine hfront.imp_left ?_
      rintro rfl
      exact String.ofList_nil
    rw [join, hrelative, if_neg Bool.false_ne_true, if_pos hstart, ← String.toList_inj, hpath]
    simp
  rw [hjoin, components_join_of_relative _ hrelative, components_append_idle hrest,
    components_name hslash hempty hname, List.getLast?_concat]

/-- **The last component of a path is its last step.** -/
theorem getLast?_components_iff {path step : String} :
    (components path).getLast? = some step ↔ LastStep path.toList step.toList := by
  refine ⟨fun h => ?_, LastStep.getLast?_components⟩
  rcases idle_or_exists_lastStep path.toList with hidle | ⟨last, hlast⟩
  · rw [components_eq_nil_of_idle hidle] at h
    contradiction
  · rw [← String.toList_ofList (l := last)] at hlast
    have hsame := hlast.getLast?_components
    rw [h] at hsame
    obtain rfl := Option.some.inj hsame
    exact hlast

/-- A path has no two last steps. -/
theorem LastStep.eq {path step step' : String} (h : LastStep path.toList step.toList)
    (h' : LastStep path.toList step'.toList) : step = step' :=
  Option.some.inj (h.getLast?_components.symm.trans h'.getLast?_components)

/-- **The file name of a path is its last step**, unless that leads upwards. -/
theorem fileName?_eq_some_iff {path name : String} :
    fileName? path = some name ↔ LastStep path.toList name.toList ∧ name ≠ ".." := by
  rw [← getLast?_components_iff, fileName?]
  cases (components path).getLast? with
  | none => simp
  | some last =>
      by_cases hup : last = ".."
      · simp only [hup, ↓reduceIte, reduceCtorEq, Option.some.injEq, false_iff, not_and, not_not]
        exact Eq.symm
      · simp only [hup, ↓reduceIte, Option.some.injEq]
        exact ⟨fun heq => ⟨heq, heq ▸ hup⟩, And.left⟩

end Tablewright.Path
