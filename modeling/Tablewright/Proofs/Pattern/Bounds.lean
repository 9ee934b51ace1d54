import Tablewright.Pattern.Engine
import Tablewright.Proofs.Pattern.Search

/-! # Bounds of repetitions

A repetition may be written with bounds, of which the first must not exceed the second. Every reader
keeps the bounds of what it has read in order (`Reader.Ordered`): a step adds parts whose bounds are in
order (`Reader.Ordered.step?`), so the term at the end has them in order too
(`Term.ordered_of_read`), and a search for it finds what it reads. -/

namespace Tablewright.Pattern

/-! ## Terms -/

/-- Expressions side by side have their bounds in order if each has. -/
theorem Regex.ordered_all {rs : List Regex} (h : ∀ r ∈ rs, r.Ordered) : (Regex.all rs).Ordered := by
  induction rs with
  | nil => trivial
  | cons r rs ih =>
      obtain ⟨hr, hrs⟩ := List.forall_mem_cons.mp h
      exact (Regex.ordered_andThen _ _).mpr ⟨hr, ih hrs⟩

/-- A choice has its bounds in order if each branch has. -/
theorem Regex.ordered_oneOf {r : Regex} {rs : List Regex} (hr : r.Ordered)
    (h : ∀ r ∈ rs, r.Ordered) : (Regex.oneOf r rs).Ordered := by
  induction rs generalizing r with
  | nil => exact hr
  | cons s rs ih =>
      obtain ⟨hs, hrs⟩ := List.forall_mem_cons.mp h
      exact ⟨hr, ih hs hrs⟩

namespace Term

/-- The expressions of several terms are those of the terms. -/
theorem regexes_eq_map (ts : List Term) : regexes ts = ts.map regex := by
  induction ts with
  | nil => rw [regexes, List.map_nil]
  | cons t ts ih => rw [regexes, ih, List.map_cons]

/-- Are the bounds in what the term stands for in order? -/
def Ordered (t : Term) : Prop :=
  t.regex.Ordered

/-- Terms in order have expressions in order. -/
theorem ordered_regexes {ts : List Term} (h : ∀ t ∈ ts, t.Ordered) : ∀ r ∈ regexes ts, r.Ordered := by
  rw [regexes_eq_map]
  exact List.forall_mem_map.mpr h

/-- Terms side by side have their bounds in order if each has. -/
theorem ordered_sideBySide {ts : List Term} (h : ∀ t ∈ ts, t.Ordered) : (sideBySide ts).Ordered := by
  have hconcat : (concat ts).Ordered := by
    show (Regex.all (regexes ts)).Ordered
    exact Regex.ordered_all (ordered_regexes h)
  match ts with
  | [] | _ :: _ :: _ => exact hconcat
  | [t] => exact h t (List.mem_singleton_self t)

/-- A choice of terms has its bounds in order if each branch has. -/
theorem ordered_oneOf {ts : List Term} (h : ∀ t ∈ ts, t.Ordered) : (oneOf ts).Ordered := by
  match ts with
  | [] =>
      show Regex.empty.Ordered
      trivial
  | [t] => exact h t (List.mem_singleton_self t)
  | t :: u :: ts =>
      obtain ⟨ht, hts⟩ := List.forall_mem_cons.mp h
      show (Regex.oneOf t.regex (regexes (u :: ts))).Ordered
      exact Regex.ordered_oneOf ht (ordered_regexes hts)

/-- A repetition adds its own bounds to those of the repeated term. -/
theorem ordered_times {t : Term} {least : Nat} {most : Option Nat} (ht : t.Ordered)
    (h : ∀ m ∈ most, least ≤ m) : (times t least most).Ordered := by
  show (Regex.times t.regex least most).Ordered
  exact ⟨ht, h⟩

/-- A group has the bounds of what it holds. -/
theorem ordered_group {t : Term} (ht : t.Ordered) (number : Option Nat) :
    (group number t).Ordered := by
  show t.regex.Ordered
  exact ht

/-- A set holds no repetition. -/
theorem ordered_chars (s : CharSet) (nesting : Nat) : (chars s nesting).Ordered := by
  show (Regex.chars s).Ordered
  trivial

/-- A place holds no repetition. -/
theorem ordered_place (p : Place) : (place p).Ordered := by
  show (Regex.place p).Ordered
  trivial

/-- A switch of modes holds no repetition. -/
theorem ordered_switch : switch.Ordered := by
  show Regex.empty.Ordered
  trivial

end Term

/-! ## Readers -/

/-- Are the bounds in all parts of the group in order? -/
structure Group.Ordered (g : Group) : Prop where
  branches : ∀ t ∈ g.branches, t.Ordered
  parts : ∀ t ∈ g.parts, t.Ordered

namespace Group

variable {g : Group}

/-- A new group has nothing in it yet. -/
theorem ordered_start (number : Option Nat) (modes : Modes) : (start number modes).Ordered :=
  ⟨fun _ h => absurd h List.not_mem_nil, fun _ h => absurd h List.not_mem_nil⟩

/-- The branch that is read ends in order. -/
theorem Ordered.branch (h : g.Ordered) : g.branch.Ordered :=
  Term.ordered_sideBySide fun t ht => h.parts t (List.mem_reverse.mp ht)

/-- A group ends in order, with the branch that is read as its last one. -/
theorem Ordered.value (h : g.Ordered) : g.value.Ordered := by
  refine Term.ordered_oneOf fun t ht => ?_
  rcases List.mem_cons.mp (List.mem_reverse.mp ht) with rfl | ht
  · exact h.branch
  · exact h.branches t ht

/-- A part in order may be added to a group. -/
theorem Ordered.add (h : g.Ordered) {part : Term} (hpart : part.Ordered) : (g.add part).Ordered :=
  ⟨h.branches, List.forall_mem_cons.mpr ⟨hpart, h.parts⟩⟩

/-- A bar ends the branch that is read in order and starts an empty one. -/
theorem Ordered.split (h : g.Ordered) : g.split.Ordered :=
  ⟨List.forall_mem_cons.mpr ⟨h.branch, h.branches⟩, fun _ h => absurd h List.not_mem_nil⟩

end Group

/-- Are the bounds in all that is read in order? -/
structure Reader.Ordered (r : Reader) : Prop where
  group : r.group.Ordered
  outer : ∀ g ∈ r.outer, g.Ordered

namespace Reader

variable {r r' : Reader} {s rest : List Char}

/-- At the start nothing has been read. -/
theorem ordered_start : start.Ordered :=
  ⟨Group.ordered_start _ _, fun _ h => absurd h List.not_mem_nil⟩

/-- A part in order may be added to what is read. -/
theorem Ordered.add (h : r.Ordered) {part : Term} (hpart : part.Ordered) : (r.add part).Ordered :=
  ⟨h.group.add hpart, h.outer⟩

/-- Opening a group keeps what has been read. -/
theorem Ordered.openGroup (h : r.Ordered) (number : Option Nat) : (r.openGroup number).Ordered :=
  ⟨Group.ordered_start _ _, List.forall_mem_cons.mpr ⟨h.group, h.outer⟩⟩

/-- Opening a group with a number keeps what has been read. -/
theorem Ordered.openCapture (h : r.Ordered) : r.openCapture.Ordered :=
  ⟨(h.openGroup _).group, (h.openGroup (some r.captures)).outer⟩

/-- The last part is repeated with the bounds that are given. -/
theorem Ordered.repeat? (h : r.Ordered) {least : Nat} {most : Option Nat}
    (hbounds : ∀ m ∈ most, least ≤ m) (hr' : r.repeat? least most = some r') : r'.Ordered := by
  rw [Reader.repeat?] at hr'
  split at hr'
  · contradiction
  · contradiction
  · rename_i part parts hne hparts
    obtain rfl := Option.some.inj hr'
    have hgroup := h.group.parts
    rw [hparts] at hgroup
    obtain ⟨hpart, hgroup⟩ := List.forall_mem_cons.mp hgroup
    exact ⟨⟨h.group.branches,
      List.forall_mem_cons.mpr ⟨Term.ordered_times hpart hbounds, hgroup⟩⟩, h.outer⟩

/-- Written bounds are in order. -/
theorem le_of_bounds? {inside : List Char} {least : Nat} {most : Option Nat}
    (h : bounds? inside = some (least, most)) : ∀ m ∈ most, least ≤ m := by
  rw [bounds?] at h
  split at h
  · -- an exact number is both bounds
    obtain ⟨n, -, hpair⟩ := Option.map_eq_some_iff.mp h
    obtain ⟨rfl, rfl⟩ := Prod.mk.inj hpair
    intro m hm
    exact Nat.le_of_eq (Option.some.inj hm)
  · obtain ⟨n, -, h⟩ := Option.bind_eq_some_iff.mp h
    split at h
    · obtain ⟨rfl, rfl⟩ := Prod.mk.inj (Option.some.inj h)
      intro m hm
      contradiction
    · obtain ⟨m', -, h⟩ := Option.bind_eq_some_iff.mp h
      split at h
      · rename_i hle
        obtain ⟨rfl, rfl⟩ := Prod.mk.inj (Option.some.inj h)
        intro m hm
        rwa [← Option.some.inj hm]
      · contradiction
  · contradiction

/-- Opening a group with a name keeps what has been read. -/
theorem Ordered.openNamed? (h : r.Ordered) (hr' : r.openNamed? s = some (r', rest)) :
    r'.Ordered := by
  rw [Reader.openNamed?] at hr'
  split at hr'
  · split at hr'
    · obtain ⟨rfl, -⟩ := Prod.mk.inj (Option.some.inj hr')
      exact ⟨h.openCapture.group, h.openCapture.outer⟩
    · contradiction
  · contradiction

/-- A switch of modes keeps what has been read. -/
theorem Ordered.switchModes? (h : r.Ordered) (hr' : r.switchModes? s = some (r', rest)) :
    r'.Ordered := by
  obtain ⟨⟨on, off⟩, -, hr'⟩ := Option.bind_eq_some_iff.mp hr'
  dsimp only at hr'
  split at hr'
  · obtain ⟨rfl, -⟩ := Prod.mk.inj (Option.some.inj hr')
    exact ⟨(h.openGroup none).group, (h.openGroup none).outer⟩
  · split at hr'
    · contradiction
    · obtain ⟨rfl, -⟩ := Prod.mk.inj (Option.some.inj hr')
      exact ⟨(h.add Term.ordered_switch).group, h.outer⟩
  · contradiction

/-- Whatever an opening parenthesis starts, what has been read is kept. -/
theorem Ordered.open? (h : r.Ordered) (hr' : r.open? s = some (r', rest)) : r'.Ordered := by
  rw [Reader.open?] at hr'
  split at hr'
  · exact h.openNamed? hr'
  · exact h.openNamed? hr'
  · exact h.switchModes? hr'
  · obtain ⟨rfl, -⟩ := Prod.mk.inj (Option.some.inj hr')
    exact h.openCapture

/-- A closing parenthesis adds the group to what was read around it. -/
theorem Ordered.close? (h : r.Ordered) (hr' : r.close? = some r') : r'.Ordered := by
  rw [Reader.close?] at hr'
  split at hr'
  · contradiction
  · rename_i parent outer houter
    obtain rfl := Option.some.inj hr'
    have hall := h.outer
    rw [houter] at hall
    obtain ⟨hparent, houter⟩ := List.forall_mem_cons.mp hall
    exact ⟨hparent.add (Term.ordered_group h.group.value _), houter⟩

/-- **Reading one thing outside brackets keeps the bounds in order.** -/
theorem Ordered.part? (h : r.Ordered) (hr' : r.part? s = some (r', rest)) : r'.Ordered := by
  have hset (s : CharSet) : (r.addSet s).Ordered := h.add (Term.ordered_chars s 0)
  have hrepeat {least : Nat} {most : Option Nat} {cs : List Char} (hbounds : ∀ m ∈ most, least ≤ m)
      (hr' : (r.repeat? least most).map (·, passLazy cs) = some (r', rest)) : r'.Ordered := by
    obtain ⟨r'', hrepeated, hpair⟩ := Option.map_eq_some_iff.mp hr'
    obtain ⟨rfl, -⟩ := Prod.mk.inj hpair
    exact h.repeat? hbounds hrepeated
  rw [Reader.part?] at hr'
  split at hr'
  · -- the end of the text
    obtain ⟨rfl, -⟩ := Prod.mk.inj (Option.some.inj hr')
    exact h
  · exact h.open? hr'
  · obtain ⟨r'', hclose, hpair⟩ := Option.map_eq_some_iff.mp hr'
    obtain ⟨rfl, -⟩ := Prod.mk.inj hpair
    exact h.close? hclose
  · -- another branch
    obtain ⟨rfl, -⟩ := Prod.mk.inj (Option.some.inj hr')
    exact ⟨h.group.split, h.outer⟩
  · -- brackets
    obtain ⟨rfl, -⟩ := Prod.mk.inj (Option.some.inj hr')
    exact ⟨h.group, h.outer⟩
  · exact hrepeat (fun m hm => by contradiction) hr'
  · exact hrepeat (fun m hm => by contradiction) hr'
  · exact hrepeat (fun m _ => Nat.zero_le m) hr'
  · -- written bounds
    obtain ⟨⟨inside, rest'⟩, -, hr'⟩ := Option.bind_eq_some_iff.mp hr'
    obtain ⟨⟨least, most⟩, hbounds, hr'⟩ := Option.bind_eq_some_iff.mp hr'
    obtain ⟨r'', hrepeated, hpair⟩ := Option.bind_eq_some_iff.mp hr'
    obtain ⟨rfl, -⟩ := Prod.mk.inj (Option.some.inj hpair)
    exact h.repeat? (le_of_bounds? hbounds) hrepeated
  · obtain ⟨s, -, hpair⟩ := Option.map_eq_some_iff.mp hr'
    obtain ⟨rfl, -⟩ := Prod.mk.inj hpair
    exact hset s
  · obtain ⟨rfl, -⟩ := Prod.mk.inj (Option.some.inj hr')
    exact h.add (Term.ordered_place _)
  · obtain ⟨rfl, -⟩ := Prod.mk.inj (Option.some.inj hr')
    exact h.add (Term.ordered_place _)
  · -- an escape
    obtain ⟨⟨escape, rest'⟩, -, hr'⟩ := Option.bind_eq_some_iff.mp hr'
    cases escape with
    | literal c =>
        obtain ⟨rfl, -⟩ := Prod.mk.inj (Option.some.inj hr')
        exact hset _
    | set s =>
        obtain ⟨rfl, -⟩ := Prod.mk.inj (Option.some.inj hr')
        exact hset s
    | place p =>
        obtain ⟨rfl, -⟩ := Prod.mk.inj (Option.some.inj hr')
        exact h.add (Term.ordered_place p)
  · obtain ⟨rfl, -⟩ := Prod.mk.inj (Option.some.inj hr')
    exact hset _

/-- **Reading one thing keeps the bounds in order.** -/
theorem Ordered.step? (h : r.Ordered) (hr' : r.step? s = some (r', rest)) : r'.Ordered := by
  rw [Reader.step?] at hr'
  split at hr'
  · exact h.part? hr'
  · obtain ⟨⟨outcome, rest'⟩, -, hr'⟩ := Option.bind_eq_some_iff.mp hr'
    cases outcome with
    | inside b outer =>
        obtain ⟨rfl, -⟩ := Prod.mk.inj (Option.some.inj hr')
        exact ⟨h.group, h.outer⟩
    | closed s =>
        obtain ⟨rfl, -⟩ := Prod.mk.inj (Option.some.inj hr')
        exact ⟨(h.add (Term.ordered_chars _ _)).group, h.outer⟩

end Reader

/-- What every step keeps is kept by working through a text. -/
theorem workThrough_keeps {σ : Type} {P : σ → Prop} {step : σ → List Char → Option (σ × List Char)}
    (hstep : ∀ state s state' rest, P state → step state s = some (state', rest) → P state')
    {state final : σ} {s : List Char} (h : P state) (hfinal : workThrough step state s = some final) :
    P final := by
  fun_induction workThrough step state s with
  | case1 state =>
      obtain rfl := Option.some.inj hfinal
      exact h
  | case2 => contradiction
  | case3 state s _ state' rest hs hlt ih => exact ih (hstep _ _ _ _ h hs) hfinal
  | case4 => contradiction

namespace Term

/-- **The bounds of a term that is read are in order.** -/
theorem ordered_of_read? {pattern : String} {t : Term} (h : read? pattern = some t) : t.Ordered := by
  obtain ⟨r, hr, hfinish⟩ := Option.bind_eq_some_iff.mp h
  have hordered : r.Ordered :=
    workThrough_keeps (fun _ _ _ _ hr hstep => Reader.Ordered.step? hr hstep) Reader.ordered_start hr
  rw [Reader.finish?] at hfinish
  split at hfinish
  · rw [← Option.some.inj hfinish]
    exact hordered.group.value
  · contradiction

/-- A term that is read from a pattern has its bounds in order. -/
theorem ordered_of_read {pattern : String} {t : Term} (h : read pattern = .ok t) : t.Ordered := by
  rw [read] at h
  split at h
  · contradiction
  · rename_i t' ht'
    split at h
    · rw [← Except.ok.inj h]
      exact ordered_of_read? ht'
    · contradiction

end Term

end Tablewright.Pattern
