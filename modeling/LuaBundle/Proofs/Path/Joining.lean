import LuaBundle.Proofs.BaseDirectory
import Mathlib.Data.List.Induction

/-! # Normal paths and joining

A path in normal form is the root or some `..`, and below that nothing but names. Normalizing the
steps of a relative path first and then walking them leads to the same place as walking them as
they are, from whatever directory the walk begins: a `..` that takes back a name inside the steps
would have taken it back on the way, and one that is left over does there what it would have done.
So it does not matter which of two joined paths is normalized before they are joined.
-/

namespace LuaBundle

namespace Component

/-- A normal path that does not begin at the root has names behind some ways up. -/
theorem Held.names_of_relative {held : List Component} (isHeld : Held held)
    (relative : .root ∉ held) :
    ∃ n names, held = names ++ List.replicate n .parent ∧
      ∀ step ∈ names, ∃ chars, step = .name chars := by
  induction isHeld with
  | parents n => exact ⟨n, [], rfl, by simp⟩
  | root => exact absurd List.mem_cons_self relative
  | @name chars above isStep held ih =>
      obtain ⟨n, names, rfl, each⟩ := ih fun mem => relative (List.mem_cons_of_mem _ mem)
      exact ⟨n, .name chars :: names, rfl, List.forall_mem_cons.2 ⟨⟨chars, rfl⟩, each⟩⟩

/-- One more step on a walk, taken before or after what was walked is normalized. -/
theorem foldl_reverse_fold {walked : List Component} (held : Held walked)
    (relative : .root ∉ walked) {step : Component} (isStep : IsStep step)
    (above : List Component) :
    (fold walked step).reverse.foldl fold above =
      fold (walked.reverse.foldl fold above) step := by
  cases step with
  | root => exact isStep.elim
  | current => exact isStep.elim
  | name chars => rw [fold_name, List.reverse_cons, List.foldl_append, List.foldl_cons,
      List.foldl_nil]
  | parent =>
      cases held with
      | parents n =>
          rw [fold_parents, List.reverse_replicate, List.reverse_replicate, List.replicate_succ',
            List.foldl_append, List.foldl_cons, List.foldl_nil]
      | root => exact absurd List.mem_cons_self relative
      | @name chars above' _ held =>
          -- The name is walked down and at once left again.
          have back : fold (.name chars :: above') .parent = above' := rfl
          rw [back, List.reverse_cons, List.foldl_append, List.foldl_cons, List.foldl_nil,
            fold_name]
          rfl

/-- Steps lead to the same place when they are normalized first. -/
theorem foldl_reverse_foldl {steps : List Component} (each : ∀ step ∈ steps, IsStep step)
    (above : List Component) :
    (steps.foldl fold []).reverse.foldl fold above = steps.foldl fold above := by
  induction steps using List.reverseRecOn with
  | nil => rfl
  | append_singleton steps step ih =>
      have earlier : ∀ other ∈ steps, IsStep other :=
        fun other mem => each other (List.mem_append_left _ mem)
      have held : Held (steps.foldl fold []) :=
        (Held.parents 0).foldl fun other mem => .inr (earlier other mem)
      have relative : .root ∉ steps.foldl fold [] :=
        root_not_mem_foldl (by simp) fun mem => earlier .root mem
      rw [List.foldl_append, List.foldl_append, List.foldl_cons, List.foldl_nil, List.foldl_cons,
        List.foldl_nil, foldl_reverse_fold held relative (each step (by simp)), ih earlier]

end Component

namespace Path

theorem isAbsolute_normalize_eq (path : Path) : path.normalize.isAbsolute = path.isAbsolute := by
  cases kind : path.isAbsolute with
  | true => exact isAbsolute_normalize kind
  | false => exact isAbsolute_normalize_of_relative kind

/-- What a normal path consists of. -/
theorem location_normalize_cut (path : Path) :
    ∃ n names, path.normalize.location =
        (if path.isAbsolute then [.root] else List.replicate n .parent) ++ names ∧
      ∀ step ∈ names, ∃ chars, step = .name chars := by
  have held := held_location path.normalize_normalize
  have start := path.normalize.isAbsolute_iff
  rw [isAbsolute_normalize_eq] at start
  cases kind : path.isAbsolute with
  | true =>
      obtain ⟨names, cut, each⟩ := held.names_of_rooted (by
        rw [List.getLast?_reverse]
        exact start.1 kind)
      refine ⟨0, names.reverse, ?_, fun step mem => each step (List.mem_reverse.1 mem)⟩
      simpa using congrArg List.reverse cut
  | false =>
      have relative : .root ∉ path.normalize.location.reverse := by
        rw [List.mem_reverse]
        exact root_not_mem_location (isAbsolute_normalize_of_relative kind)
      obtain ⟨n, names, cut, each⟩ := held.names_of_relative relative
      refine ⟨n, names.reverse, ?_, fun step mem => each step (List.mem_reverse.1 mem)⟩
      simpa using congrArg List.reverse cut

/-- The steps of a relative path in normal form are what its steps come to. -/
theorem steps_normalize {path : Path} (relative : path.isAbsolute = false) :
    Component.steps path.normalize.text.toList =
      ((Component.steps path.text.toList).foldl Component.fold []).reverse := by
  have each : ∀ step ∈ ((Component.steps path.text.toList).foldl Component.fold []).reverse,
      Component.IsStep step := by
    obtain ⟨left, right, above, cut, walked, -, onward⟩ :=
      Component.foldl_forked (fun step => Component.isStep_of_mem_steps (s := path.text.toList)) []
        (List.forall_mem_nil _) (List.forall_mem_nil _)
    obtain ⟨-, rfl⟩ := List.append_eq_nil_iff.1 cut.symm
    rw [List.nil_append, List.append_nil] at walked
    intro step mem
    exact onward step (walked ▸ List.mem_reverse.1 mem)
  have location : Component.normalize path.location =
      ((Component.steps path.text.toList).foldl Component.fold []).reverse := by
    rw [Component.normalize, Path.location, Component.ofChars_eq, List.foldl_append,
      foldl_lead relative]
  rw [normalize, location, steps_ofLocation each]

/-- It does not matter whether a path is normalized before it is joined to a directory. -/
theorem normalize_join_normalize_right (base other : Path) :
    (base.join other.normalize).normalize = (base.join other).normalize := by
  have kept := isAbsolute_normalize_eq other
  cases kind : other.isAbsolute with
  | true =>
      rw [kind] at kept
      rw [join_of_isAbsolute _ kind, join_of_isAbsolute _ kept, normalize_normalize]
  | false =>
      rw [kind] at kept
      apply normalize_ext
      rw [location_normalize_join _ kind, location_normalize_join _ kept, steps_normalize kind,
        Component.foldl_reverse_foldl fun step => Component.isStep_of_mem_steps]

/-- A normalized path has no `.`, has `..` only in front of a relative path, begins at the root just
if the path does, and is left alone when it is normalized again. Joining respects normalizing on
both sides: two joined paths come to the same whichever of them was normalized before. -/
theorem normalize_normal_form (path other : Path) :
    .current ∉ path.normalize.location ∧
    (∃ n names, path.normalize.location =
        (if path.isAbsolute then [.root] else List.replicate n .parent) ++ names ∧
      ∀ step ∈ names, ∃ chars, step = .name chars) ∧
    path.normalize.isAbsolute = path.isAbsolute ∧
    path.normalize.normalize = path.normalize ∧
    (path.join other).normalize = (path.normalize.join other).normalize ∧
    (path.join other).normalize = (path.join other.normalize).normalize := by
  obtain ⟨n, names, cut, each⟩ := path.location_normalize_cut
  have dotless : .current ∉ path.normalize.location := by
    intro mem
    rw [cut] at mem
    rcases List.mem_append.1 mem with front | below
    · split at front
      · cases List.mem_singleton.1 front
      · cases List.eq_of_mem_replicate front
    · obtain ⟨chars, bad⟩ := each .current below
      cases bad
  exact ⟨dotless, ⟨n, names, cut, each⟩, path.isAbsolute_normalize_eq, path.normalize_normalize,
    (path.normalize_join_normalize other).symm, (path.normalize_join_normalize_right other).symm⟩

-- A `..` takes back a name, is absorbed at the root, and stays in front of a relative path.
example : Path.normalize ⟨"/../a/.//b/../c"⟩ = ⟨"/a/c"⟩ ∧
    Path.normalize ⟨"a/../../b/."⟩ = ⟨"../b"⟩ := by decide +kernel

end Path

end LuaBundle
