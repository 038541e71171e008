import LuaBundle.Path
import Mathlib.Data.List.Basic

/-! # Spelling and reading paths

Reading a path cuts its text at the slashes, so reading a text that was joined at a slash reads
both parts one after the other. `Component.lead` is the only piece of a text whose meaning depends
on where it stands; everything behind it is read by `Component.steps`, which distributes over
joining. Locations that reading can produce are `Spellable`, and writing such a location and
reading it again gives it back.
-/

namespace LuaBundle

namespace Text

theorem split_ne_nil (separator : Char) (s : List Char) : split separator s ≠ [] := by
  cases s with
  | nil => simp [split]
  | cons c rest =>
      simp only [split]
      split
      · simp
      · split <;> simp

theorem split_append (separator : Char) (s t : List Char) :
    split separator (s ++ separator :: t) = split separator s ++ split separator t := by
  induction s with
  | nil => simp [split]
  | cons c rest ih =>
      by_cases same : c = separator
      · simp [split, same, ih]
      · simp only [List.cons_append, split, same, if_false, ih]
        cases pieces : split separator rest with
        | nil => exact absurd pieces (split_ne_nil separator rest)
        | cons piece pieces => rfl

theorem split_of_not_mem {separator : Char} {s : List Char} (absent : separator ∉ s) :
    split separator s = [s] := by
  induction s with
  | nil => rfl
  | cons c rest ih =>
      have other : c ≠ separator := fun same => absent (by simp [same])
      have further : separator ∉ rest := fun mem => absent (List.mem_cons_of_mem c mem)
      simp only [split, other, if_false, ih further]

theorem not_mem_of_mem_split {separator : Char} {s piece : List Char}
    (mem : piece ∈ split separator s) : separator ∉ piece := by
  induction s generalizing piece with
  | nil =>
      simp only [split, List.mem_singleton] at mem
      simp [mem]
  | cons c rest ih =>
      by_cases same : c = separator
      · simp only [split, same, if_true, List.mem_cons] at mem
        rcases mem with rfl | mem
        · simp
        · exact ih mem
      · simp only [split, same, if_false] at mem
        cases pieces : split separator rest with
        | nil => exact absurd pieces (split_ne_nil separator rest)
        | cons first others =>
            rw [pieces] at ih
            simp only [pieces, List.mem_cons] at mem
            rcases mem with rfl | mem
            · simp only [List.mem_cons, not_or]
              exact ⟨fun bad => same bad.symm, ih List.mem_cons_self⟩
            · exact ih (List.mem_cons_of_mem first mem)

theorem split_joinWith {separator : Char} {pieces : List (List Char)} (some : pieces ≠ [])
    (absent : ∀ piece ∈ pieces, separator ∉ piece) :
    split separator (joinWith [separator] pieces) = pieces := by
  induction pieces with
  | nil => exact absurd rfl some
  | cons piece rest ih =>
      have first := split_of_not_mem (absent piece List.mem_cons_self)
      cases rest with
      | nil => exact first
      | cons second rest =>
          have tail := ih (by simp) fun other mem => absent other (List.mem_cons_of_mem piece mem)
          simp only [joinWith, List.append_assoc, List.singleton_append] at tail ⊢
          rw [split_append, first, tail]
          rfl

end Text

namespace Component

/-- A component that means the same wherever it stands in a path. -/
def IsStep : Component → Prop
  | .parent => True
  | .name chars => chars ≠ [] ∧ chars ≠ ['.'] ∧ chars ≠ ['.', '.'] ∧ '/' ∉ chars
  | _ => False

/-- What a text says about where a path starts. -/
def lead (s : List Char) : List Component :=
  if s.head? = some '/' then [.root]
  else if s.takeWhile (· != '/') = ['.'] then [.current]
  else []

/-- What a text says wherever it stands in a path. -/
def steps (s : List Char) : List Component :=
  (Text.split '/' s).filterMap ofPiece?

/-- The locations that can be written: only the start may be more than a step. -/
inductive Spellable : List Component → Prop where
  | relative {steps} (each : ∀ step ∈ steps, IsStep step) : Spellable steps
  | root {steps} (each : ∀ step ∈ steps, IsStep step) : Spellable (.root :: steps)
  | current {steps} (each : ∀ step ∈ steps, IsStep step) : Spellable (.current :: steps)

/-- The first piece of a path that does not start at the root. -/
theorem toList_ofFirstPiece? (piece : List Char) :
    (ofFirstPiece? piece).toList =
      (if piece = ['.'] then [.current] else []) ++ (ofPiece? piece).toList := by
  by_cases dot : piece = ['.']
  · subst dot
    rfl
  · have same : ofFirstPiece? piece = ofPiece? piece := by
      unfold ofFirstPiece?
      split
      · exact absurd rfl dot
      · rfl
    simp [same, dot]

theorem takeWhile_of_not_mem {s : List Char} (absent : '/' ∉ s) :
    s.takeWhile (· != '/') = s := by
  induction s with
  | nil => rfl
  | cons c rest ih =>
      have slashless : c ≠ '/' := fun same => absent (by simp [same])
      have further : '/' ∉ rest := fun mem => absent (List.mem_cons_of_mem c mem)
      simp [slashless, ih further]

theorem takeWhile_cut (s t : List Char) :
    (s ++ '/' :: t).takeWhile (· != '/') = s.takeWhile (· != '/') := by
  induction s with
  | nil => rfl
  | cons c rest ih => simp only [List.cons_append, List.takeWhile_cons, ih]

/-- Reading splits a text into what depends on its position and what does not. -/
theorem ofChars_eq (s : List Char) : ofChars s = lead s ++ steps s := by
  by_cases cut : '/' ∈ s
  · obtain ⟨first, rest, rfl, absent⟩ := List.eq_append_cons_of_mem cut
    simp only [ofChars, lead, steps, Text.split_append, Text.split_of_not_mem absent,
      takeWhile_cut, takeWhile_of_not_mem absent, List.singleton_append]
    cases pieces : Text.split '/' rest with
    | nil => exact absurd pieces (Text.split_ne_nil '/' rest)
    | cons second others =>
        cases first with
        | nil => rfl
        | cons c first =>
            have slashless : c ≠ '/' := fun same => absent (by simp [same])
            simp only [toList_ofFirstPiece?, List.cons_append, List.head?_cons, Option.some.injEq,
              slashless, if_false, List.filterMap_eq_flatMap_toList, List.flatMap_cons,
              List.append_assoc]
  · have slashless : s.head? ≠ some '/' := fun starts => cut (List.mem_of_head? starts)
    simp only [ofChars, lead, steps, Text.split_of_not_mem cut, takeWhile_of_not_mem cut, slashless,
      if_false, toList_ofFirstPiece?, List.filterMap_eq_flatMap_toList, List.flatMap_singleton]

theorem steps_append (s t : List Char) : steps (s ++ '/' :: t) = steps s ++ steps t := by
  simp only [steps, Text.split_append, List.filterMap_append]

@[simp]
theorem steps_nil : steps [] = [] := rfl

/-- Where a path starts is settled before its first slash, or by it. -/
theorem lead_append (s t : List Char) : lead (s ++ '/' :: t) = lead (s ++ ['/']) := by
  unfold lead
  rw [takeWhile_cut, takeWhile_cut s [], List.head?_append, List.head?_append]
  rfl

theorem lead_append_of_ne_nil {s : List Char} (started : s ≠ []) (t : List Char) :
    lead (s ++ '/' :: t) = lead s := by
  cases s with
  | nil => exact absurd rfl started
  | cons c rest =>
      unfold lead
      rw [takeWhile_cut]
      rfl

theorem isStep_of_ofPiece? {piece : List Char} {component : Component} (slashless : '/' ∉ piece)
    (read : ofPiece? piece = some component) : IsStep component := by
  unfold ofPiece? at read
  split at read
  · cases read
  · cases read
  · cases read
    exact trivial
  · next notEmpty notDot notDots =>
      cases read
      exact ⟨notEmpty, notDot, notDots, slashless⟩

theorem isStep_of_mem_steps {s : List Char} {step : Component} (mem : step ∈ steps s) :
    IsStep step := by
  obtain ⟨piece, inside, read⟩ := List.mem_filterMap.1 mem
  exact isStep_of_ofPiece? (Text.not_mem_of_mem_split inside) read

theorem ofPiece?_chars {step : Component} (isStep : IsStep step) :
    ofPiece? step.chars = some step := by
  cases step with
  | root => exact isStep.elim
  | current => exact isStep.elim
  | parent => rfl
  | name chars =>
      obtain ⟨notEmpty, notDot, notDots, -⟩ := isStep
      unfold ofPiece?
      split
      · next bad => exact absurd bad notEmpty
      · next bad => exact absurd bad notDot
      · next bad => exact absurd bad notDots
      · rfl

theorem slash_not_mem_chars {step : Component} (isStep : IsStep step) : '/' ∉ step.chars := by
  cases step with
  | root => exact isStep.elim
  | current => exact isStep.elim
  | parent => simp [chars]
  | name chars => exact isStep.2.2.2

theorem spellable_ofChars (s : List Char) : Spellable (ofChars s) := by
  have each : ∀ step ∈ steps s, IsStep step := fun step => isStep_of_mem_steps
  rw [ofChars_eq, lead]
  split
  · exact .root each
  · split
    · exact .current each
    · exact .relative each

theorem filterMap_chars {components : List Component}
    (each : ∀ step ∈ components, IsStep step) :
    (components.map chars).filterMap ofPiece? = components := by
  induction components with
  | nil => rfl
  | cons step rest ih =>
      have further := ih fun other mem => each other (List.mem_cons_of_mem step mem)
      rw [List.map_cons, List.filterMap_cons, ofPiece?_chars (each step List.mem_cons_self),
        further]

theorem steps_joinWith {components : List Component} (each : ∀ step ∈ components, IsStep step) :
    steps (Text.joinWith ['/'] (components.map chars)) = components := by
  by_cases empty : components = []
  · subst empty
    rfl
  · have slashless : ∀ piece ∈ components.map chars, '/' ∉ piece := by
      intro piece mem
      obtain ⟨step, inside, rfl⟩ := List.mem_map.1 mem
      exact slash_not_mem_chars (each step inside)
    rw [steps, Text.split_joinWith (by simpa using empty) slashless]
    exact filterMap_chars each

theorem lead_chars {step : Component} (isStep : IsStep step) : lead step.chars = [] := by
  have slashless := slash_not_mem_chars isStep
  have start : step.chars.head? ≠ some '/' := fun starts => slashless (List.mem_of_head? starts)
  have dotless : step.chars ≠ ['.'] := by
    intro dot
    have read := ofPiece?_chars isStep
    rw [dot] at read
    cases read
  simp only [lead, takeWhile_of_not_mem slashless, start, dotless, if_false]

theorem chars_ne_nil {step : Component} (isStep : IsStep step) : step.chars ≠ [] := by
  intro empty
  have read := ofPiece?_chars isStep
  rw [empty] at read
  cases read

theorem lead_joinWith {components : List Component} (each : ∀ step ∈ components, IsStep step) :
    lead (Text.joinWith ['/'] (components.map chars)) = [] := by
  match components with
  | [] => rfl
  | [step] => exact lead_chars (each step List.mem_cons_self)
  | step :: second :: rest =>
      have isStep := each step List.mem_cons_self
      simp only [List.map_cons, Text.joinWith, List.append_assoc, List.singleton_append]
      rw [lead_append_of_ne_nil (chars_ne_nil isStep), lead_chars isStep]

theorem render_of_isStep {components : List Component} (each : ∀ step ∈ components, IsStep step) :
    render components = Text.joinWith ['/'] (components.map chars) := by
  unfold render
  split
  · exact (each .root List.mem_cons_self).elim
  · rfl

/-- A location that is written out is read back. -/
theorem ofChars_render {location : List Component} (spellable : Spellable location) :
    ofChars (render location) = location := by
  rw [ofChars_eq]
  cases spellable with
  | relative each =>
      rw [render_of_isStep each, lead_joinWith each, steps_joinWith each, List.nil_append]
  | root each =>
      simp only [render]
      rw [← List.nil_append ('/' :: _), steps_append, steps_joinWith each]
      rfl
  | @current steps each =>
      cases steps with
      | nil => rfl
      | cons step rest =>
          simp only [render, List.map_cons, Text.joinWith, List.append_assoc, List.singleton_append]
          rw [lead_append_of_ne_nil (by simp [chars]), steps_append, ← List.map_cons,
            steps_joinWith each]
          rfl

theorem isStep_name_append {name suffix : List Char} (isStep : IsStep (.name name))
    (slashless : '/' ∉ suffix) : IsStep (.name (name ++ suffix)) := by
  obtain ⟨some, notDot, notDots, free⟩ := isStep
  refine ⟨by simp [some], ?_, ?_, by simp [free, slashless]⟩
  · intro dot
    rcases List.append_eq_singleton_iff.1 dot with ⟨none, -⟩ | ⟨dot, -⟩
    · exact some none
    · exact notDot dot
  · intro dots
    match name, dots with
    | [], _ => exact some rfl
    | [_], dots =>
        simp only [List.singleton_append, List.cons.injEq] at dots
        exact notDot (by rw [dots.1])
    | [_, _], dots =>
        simp only [List.cons_append, List.nil_append, List.cons.injEq] at dots
        exact notDots (by rw [dots.1, dots.2.1])

theorem steps_of_slashless {s : List Char} (slashless : '/' ∉ s) :
    steps s = (ofPiece? s).toList := by
  rw [steps, Text.split_of_not_mem slashless, List.filterMap_eq_flatMap_toList,
    List.flatMap_singleton]

end Component

namespace Path

theorem spellable_location (path : Path) : Component.Spellable path.location :=
  Component.spellable_ofChars path.text.toList

@[simp]
theorem location_ofLocation {location : Location} (spellable : Component.Spellable location) :
    (ofLocation location).location = location := by
  rw [Path.location, ofLocation, String.toList_ofList, Component.ofChars_render spellable]

theorem isAbsolute_iff (path : Path) :
    path.isAbsolute = true ↔ path.location.head? = some .root := by
  rw [Path.location, Component.ofChars_eq, isAbsolute, Component.lead, beq_iff_eq]
  split
  · next start => simp [start]
  · next start =>
      split
      · simp [start]
      · constructor
        · intro starts
          exact absurd starts start
        · intro first
          exact (Component.isStep_of_mem_steps (List.mem_of_head? first)).elim

theorem isAbsolute_ofLocation {steps : List Component}
    (each : ∀ step ∈ steps, Component.IsStep step) : (ofLocation steps).isAbsolute = false := by
  rw [← Bool.not_eq_true, isAbsolute_iff, location_ofLocation (.relative each)]
  intro first
  exact (each .root (List.mem_of_head? first)).elim

theorem steps_ofLocation {steps : List Component} (each : ∀ step ∈ steps, Component.IsStep step) :
    Component.steps (ofLocation steps).text.toList = steps := by
  rw [ofLocation, String.toList_ofList, Component.render_of_isStep each,
    Component.steps_joinWith each]

theorem join_of_isAbsolute (path : Path) {other : Path} (absolute : other.isAbsolute = true) :
    path.join other = other := by
  simp [join, absolute]

/-- Joining a relative path walks on from where the first one leads. -/
theorem location_join {path other : Path} (written : path.text.toList ≠ [])
    (relative : other.isAbsolute = false) :
    (path.join other).location = path.location ++ Component.steps other.text.toList := by
  simp only [join, relative, Bool.false_eq_true, if_false]
  split
  · next ending =>
      have slash : path.text.toList.getLast? = some '/' := by
        rcases ending with none | slash
        · exact absurd (List.getLast?_eq_none_iff.1 none) written
        · exact slash
      obtain ⟨front, split⟩ := List.getLast?_eq_some_iff.1 slash
      simp only [Path.location, String.toList_append, split, Component.ofChars_eq,
        List.append_assoc, List.singleton_append, Component.steps_append,
        Component.lead_append front other.text.toList, Component.steps_nil, List.append_nil]
  · simp only [Path.location, String.toList_append, Component.ofChars_eq, List.append_assoc]
    have slash : "/".toList ++ other.text.toList = '/' :: other.text.toList := rfl
    rw [slash, Component.steps_append, Component.lead_append_of_ne_nil written]

end Path

end LuaBundle
