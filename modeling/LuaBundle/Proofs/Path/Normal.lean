import LuaBundle.Proofs.Path.Spelling

/-! # Normal paths and the way from one to another

Normalizing holds a path with its last component first and takes one component after the other
onto it. What it holds is always a row of names on top of the root or on top of some `..`; this is
`Held`, and it is exactly what normalizing leaves alone. Walking from a normal directory to a normal
path by `Component.relativeTo` and normalizing arrives at that path.
-/

namespace LuaBundle

namespace Component

/-- Normal paths, held with their last component first. -/
inductive Held : List Component → Prop where
  /-- Only ways up, or nothing at all. -/
  | parents (n : Nat) : Held (List.replicate n .parent)
  /-- The root. -/
  | root : Held [.root]
  /-- One name further down. -/
  | name {chars above} (isStep : IsStep (.name chars)) (held : Held above) :
      Held (.name chars :: above)

@[simp]
theorem fold_current (above : List Component) : fold above .current = above := by
  unfold fold
  rfl

@[simp]
theorem fold_name (above : List Component) (chars : List Char) :
    fold above (.name chars) = .name chars :: above := by
  unfold fold
  split <;> simp_all

@[simp]
theorem fold_root (above : List Component) : fold above .root = .root :: above := by
  unfold fold
  split <;> simp_all

theorem fold_parents (n : Nat) :
    fold (List.replicate n .parent) .parent = List.replicate (n + 1) .parent := by
  cases n <;> rfl

theorem Held.fold {above : List Component} (held : Held above) {component : Component}
    (reads : component = .current ∨ IsStep component) : Held (fold above component) := by
  cases component with
  | current => simpa using held
  | root => rcases reads with bad | bad <;> cases bad
  | name chars =>
      rcases reads with bad | isStep
      · cases bad
      · simpa using Held.name isStep held
  | parent =>
      cases held with
      | parents n =>
          rw [fold_parents]
          exact .parents (n + 1)
      | root => exact .root
      | name _ held => exact held

theorem Held.foldl {held : List Component} (isHeld : Held held) {components : List Component}
    (reads : ∀ component ∈ components, component = .current ∨ IsStep component) :
    Held (components.foldl Component.fold held) := by
  induction components generalizing held with
  | nil => exact isHeld
  | cons component rest ih =>
      exact ih (isHeld.fold (reads component List.mem_cons_self)) fun other mem =>
        reads other (List.mem_cons_of_mem component mem)

theorem held_normalize {location : List Component} (spellable : Spellable location) :
    Held (normalize location).reverse := by
  rw [normalize, List.reverse_reverse]
  cases spellable with
  | relative each => exact (Held.parents 0).foldl fun step mem => .inr (each step mem)
  | root each => exact Held.root.foldl fun step mem => .inr (each step mem)
  | current each =>
      exact (Held.parents 0).foldl fun step mem =>
        (List.mem_cons.1 mem).imp id (each step)

/-- Normalizing builds a normal path up again from its front. -/
theorem Held.foldl_reverse {held : List Component} (isHeld : Held held) :
    held.reverse.foldl Component.fold [] = held := by
  induction isHeld with
  | parents n =>
      rw [List.reverse_replicate]
      induction n with
      | zero => rfl
      | succ n ih => rw [List.replicate_succ', List.foldl_append, ih, List.foldl_cons, fold_parents,
          List.foldl_nil, List.replicate_succ']
  | root => rfl
  | name isStep held ih => rw [List.reverse_cons, List.foldl_append, ih, List.foldl_cons, fold_name,
      List.foldl_nil]

theorem normalize_of_held {location : List Component} (held : Held location.reverse) :
    normalize location = location := by
  have rebuilt := held.foldl_reverse
  rw [List.reverse_reverse] at rebuilt
  rw [normalize, rebuilt, List.reverse_reverse]

@[simp]
theorem normalize_normalize {location : List Component} (spellable : Spellable location) :
    normalize (normalize location) = normalize location :=
  normalize_of_held (held_normalize spellable)

theorem Spellable.concat {location : List Component} (spellable : Spellable location)
    {step : Component} (isStep : IsStep step) : Spellable (location ++ [step]) := by
  have grown : ∀ {steps : List Component}, (∀ other ∈ steps, IsStep other) →
      ∀ other ∈ steps ++ [step], IsStep other := by
    intro steps each other mem
    rcases List.mem_append.1 mem with mem | mem
    · exact each other mem
    · rw [List.mem_singleton.1 mem]
      exact isStep
  cases spellable with
  | relative each => exact .relative (grown each)
  | root each => exact .root (grown each)
  | current each => exact .current (grown each)

theorem Held.spellable {held : List Component} (isHeld : Held held) : Spellable held.reverse := by
  induction isHeld with
  | parents n =>
      refine .relative fun step mem => ?_
      rw [List.reverse_replicate] at mem
      rw [List.eq_of_mem_replicate mem]
      exact trivial
  | root => exact .root (by simp)
  | name isStep held ih =>
      rw [List.reverse_cons]
      exact ih.concat isStep

theorem spellable_normalize {location : List Component} (spellable : Spellable location) :
    Spellable (normalize location) := by
  simpa using (held_normalize spellable).spellable

theorem Held.above {component : Component} {above : List Component}
    (held : Held (component :: above)) : Held above := by
  generalize shape : component :: above = whole at held
  cases held with
  | parents n =>
      cases n with
      | zero => cases shape
      | succ n =>
          rw [List.replicate_succ] at shape
          cases shape
          exact .parents n
  | root =>
      cases shape
      exact .parents 0
  | name isStep held =>
      cases shape
      exact held

theorem Held.of_append {front back : List Component} (held : Held (front ++ back)) : Held back := by
  induction front with
  | nil => exact held
  | cons component front ih => exact ih held.above

/-- A normal path from the root has only names below it. -/
theorem Held.names_of_rooted {held : List Component} (isHeld : Held held)
    (rooted : held.getLast? = some .root) :
    ∃ names, held = names ++ [.root] ∧ ∀ step ∈ names, ∃ chars, step = .name chars := by
  induction isHeld with
  | parents n =>
      have bad := List.eq_of_mem_replicate (List.mem_of_getLast? rooted)
      cases bad
  | root => exact ⟨[], rfl, by simp⟩
  | @name chars above isStep held ih =>
      have started : above ≠ [] := by
        rintro rfl
        cases rooted
      obtain ⟨names, rfl, each⟩ := ih (by rwa [List.getLast?_cons_of_ne_nil started] at rooted)
      refine ⟨.name chars :: names, rfl, fun step mem => ?_⟩
      rcases List.mem_cons.1 mem with rfl | mem
      · exact ⟨chars, rfl⟩
      · exact each step mem

theorem getLast?_fold {above : List Component} (rooted : above.getLast? = some .root)
    (component : Component) : (fold above component).getLast? = some .root := by
  cases above with
  | nil => cases rooted
  | cons last above =>
      unfold fold
      split
      · exact rooted
      · next above same =>
          cases same
          cases above with
          | nil => cases rooted
          | cons => simpa using rooted
      · next same =>
          cases same
          exact rooted
      · simpa using rooted

theorem getLast?_foldl {held : List Component} (rooted : held.getLast? = some .root)
    (components : List Component) : (components.foldl fold held).getLast? = some .root := by
  induction components generalizing held with
  | nil => exact rooted
  | cons component rest ih => exact ih (getLast?_fold rooted component)

/-- A path from the root stays one. -/
theorem head?_normalize {location : List Component} (rooted : location.head? = some .root) :
    (normalize location).head? = some .root := by
  cases location with
  | nil => cases rooted
  | cons first rest =>
      cases rooted
      rw [normalize, List.head?_reverse]
      exact getLast?_foldl rfl rest

theorem foldl_parents {names : List Component} (each : ∀ step ∈ names, ∃ chars, step = .name chars)
    (above : List Component) :
    (List.replicate names.length .parent).foldl fold (names ++ above) = above := by
  induction names with
  | nil => rfl
  | cons step names ih =>
      obtain ⟨chars, rfl⟩ := each step List.mem_cons_self
      exact ih fun other mem => each other (List.mem_cons_of_mem _ mem)

theorem take_sharedLength (base path : List Component) :
    base.take (sharedLength base path) = path.take (sharedLength base path) := by
  induction base generalizing path with
  | nil => simp [sharedLength]
  | cons first base ih =>
      cases path with
      | nil => simp [sharedLength]
      | cons second path =>
          by_cases same : first = second
          · simp [sharedLength, same, ih path]
          · simp [sharedLength, same]

/-- The way from a directory to a path: up to what they share, then down. -/
def way (base path : List Component) : List Component :=
  List.replicate (base.length - sharedLength base path) .parent ++
    path.drop (sharedLength base path)

/-- Going up from a directory until so many components are left, and then down, leads to where it
says, as long as only names have to be left on the way up. -/
theorem normalize_up_down {base down : List Component} (shared : Nat)
    (heldBase : Held base.reverse) (heldPath : Held (base.take shared ++ down).reverse)
    (names : ∀ step ∈ base.drop shared, ∃ chars, step = .name chars) :
    normalize (base ++ (List.replicate (base.length - shared) .parent ++ down)) =
      base.take shared ++ down := by
  have atBase : base.foldl fold [] = base.reverse := by
    simpa using heldBase.foldl_reverse
  have whole : Held (down.reverse ++ (base.take shared).reverse) := by
    rwa [← List.reverse_append]
  have atStem : (base.take shared).foldl fold [] = (base.take shared).reverse := by
    simpa using whole.of_append.foldl_reverse
  have up : (List.replicate (base.length - shared) .parent).foldl fold base.reverse =
      (base.take shared).reverse := by
    have onlyNames : ∀ step ∈ (base.drop shared).reverse, ∃ chars, step = .name chars :=
      fun step mem => names step (List.mem_reverse.1 mem)
    have left := foldl_parents onlyNames (base.take shared).reverse
    rwa [← List.reverse_append, List.take_append_drop, List.length_reverse, List.length_drop]
      at left
  have further : down.foldl fold (base.take shared).reverse =
      (base.take shared ++ down).reverse := by
    rw [← atStem, ← List.foldl_append]
    simpa using heldPath.foldl_reverse
  rw [normalize, List.foldl_append, List.foldl_append, atBase, up, further, List.reverse_reverse]

/-- Going up from a directory to what it shares with a path and then down leads to the path. -/
theorem normalize_way {base path : List Component} (heldBase : Held base.reverse)
    (heldPath : Held path.reverse)
    (names : ∀ step ∈ base.drop (sharedLength base path), ∃ chars, step = .name chars) :
    normalize (base ++ way base path) = path := by
  have whole : base.take (sharedLength base path) ++ path.drop (sharedLength base path) = path := by
    rw [take_sharedLength, List.take_append_drop]
  rw [way, normalize_up_down _ heldBase (whole.symm ▸ heldPath) names, whole]

theorem sharedLength_append (stem left right : List Component) :
    sharedLength (stem ++ left) (stem ++ right) = stem.length + sharedLength left right := by
  induction stem with
  | nil => simp
  | cons step stem ih =>
      simp only [List.cons_append, sharedLength, if_true, ih, List.length_cons]
      omega

/-- Two locations that part ways below a common stem: the first goes on by names alone, so that they
can be left again, and the second by steps. -/
inductive Forked : List Component → List Component → Prop where
  | below (stem : List Component) {left right : List Component}
      (names : ∀ step ∈ left, ∃ chars, step = .name chars)
      (steps : ∀ step ∈ right, IsStep step) : Forked (stem ++ left) (stem ++ right)

theorem Forked.names_below_shared {base path : List Component} (forked : Forked base path) :
    ∀ step ∈ base.drop (sharedLength base path), ∃ chars, step = .name chars := by
  cases forked with
  | below stem names steps =>
      intro step mem
      rw [sharedLength_append, List.drop_length_add_append] at mem
      exact names step (List.mem_of_mem_drop mem)

theorem Forked.isStep_way {base path : List Component} (forked : Forked base path) :
    ∀ step ∈ way base path, IsStep step := by
  cases forked with
  | below stem names steps =>
      intro step mem
      rcases List.mem_append.1 mem with up | down
      · rw [List.eq_of_mem_replicate up]
        exact trivial
      · rw [sharedLength_append, List.drop_length_add_append] at down
        exact steps step (List.mem_of_mem_drop down)

theorem forked_of_rooted {base path : List Component} (held : Held base.reverse)
    (spellable : Spellable path) (rootedBase : base.head? = some .root)
    (rootedPath : path.head? = some .root) : Forked base path := by
  obtain ⟨names, split, each⟩ := held.names_of_rooted (by rwa [List.getLast?_reverse])
  obtain rfl : base = [.root] ++ names.reverse := by
    simpa using congrArg List.reverse split
  cases spellable with
  | relative steps => exact (steps .root (List.mem_of_head? rootedPath)).elim
  | current steps => cases rootedPath
  | root steps => exact .below [.root] (fun step mem => each step (List.mem_reverse.1 mem)) steps

/-- One more step leaves a stack on the same bottom, from which it may have taken a name. -/
theorem fold_forked {left right : List Component} (above : List Component) {step : Component}
    (isStep : IsStep step) (names : ∀ other ∈ left, ∃ chars, other = .name chars)
    (steps : ∀ other ∈ right, IsStep other) :
    ∃ left' right' above', left ++ above = left' ++ above' ∧
      fold (right ++ above) step = right' ++ above' ∧
      (∀ other ∈ left', ∃ chars, other = .name chars) ∧ ∀ other ∈ right', IsStep other := by
  have pushed : ∀ other ∈ step :: right, IsStep other := by
    intro other mem
    rcases List.mem_cons.1 mem with rfl | mem
    · exact isStep
    · exact steps other mem
  cases step with
  | root => exact isStep.elim
  | current => exact isStep.elim
  | name chars => exact ⟨left, .name chars :: right, above, rfl, by simp, names, pushed⟩
  | parent =>
      cases right with
      | cons top right =>
          cases top with
          | root => exact (steps .root List.mem_cons_self).elim
          | current => exact (steps .current List.mem_cons_self).elim
          | parent => exact ⟨left, .parent :: .parent :: right, above, rfl, rfl, names, pushed⟩
          | name chars =>
              exact ⟨left, right, above, rfl, rfl, names, fun other mem =>
                steps other (List.mem_cons_of_mem _ mem)⟩
      | nil =>
          match above with
          | .name chars :: above =>
              refine ⟨left ++ [.name chars], [], above, by simp, rfl, ?_, by simp⟩
              intro other mem
              rcases List.mem_append.1 mem with mem | mem
              · exact names other mem
              · exact ⟨chars, List.mem_singleton.1 mem⟩
          | .root :: above => exact ⟨left, [], .root :: above, rfl, rfl, names, steps⟩
          | .parent :: above => exact ⟨left, [.parent], .parent :: above, rfl, rfl, names, pushed⟩
          | .current :: above => exact ⟨left, [.parent], .current :: above, rfl, rfl, names, pushed⟩
          | [] => exact ⟨left, [.parent], [], rfl, rfl, names, pushed⟩

theorem foldl_forked {steps : List Component} (each : ∀ step ∈ steps, IsStep step)
    {left right : List Component} (above : List Component)
    (names : ∀ other ∈ left, ∃ chars, other = .name chars)
    (onward : ∀ other ∈ right, IsStep other) :
    ∃ left' right' above', left ++ above = left' ++ above' ∧
      steps.foldl fold (right ++ above) = right' ++ above' ∧
      (∀ other ∈ left', ∃ chars, other = .name chars) ∧ ∀ other ∈ right', IsStep other := by
  induction steps generalizing left right above with
  | nil => exact ⟨left, right, above, rfl, rfl, names, onward⟩
  | cons step steps ih =>
      obtain ⟨left', right', above', split, stepped, names, onward⟩ :=
        fold_forked above (each step List.mem_cons_self) names onward
      rw [List.foldl_cons, stepped, split]
      exact ih (fun other mem => each other (List.mem_cons_of_mem step mem)) above' names onward

/-- Whatever steps are taken from a directory, they lead to a path that forks from it. -/
theorem forked_foldl (held : List Component) {steps : List Component}
    (each : ∀ step ∈ steps, IsStep step) : Forked held.reverse (steps.foldl fold held).reverse := by
  obtain ⟨left, right, above, split, stepped, names, onward⟩ :=
    foldl_forked each held (List.forall_mem_nil _) (List.forall_mem_nil _)
  rw [List.nil_append] at split stepped
  rw [stepped, split, List.reverse_append, List.reverse_append]
  exact .below above.reverse (fun step mem => names step (List.mem_reverse.1 mem))
    fun step mem => onward step (List.mem_reverse.1 mem)

theorem normalize_append {base : List Component} (held : Held base.reverse)
    (steps : List Component) :
    normalize (base ++ steps) = (steps.foldl fold base.reverse).reverse := by
  have rebuilt := held.foldl_reverse
  rw [List.reverse_reverse] at rebuilt
  rw [normalize, List.foldl_append, rebuilt]

theorem relativeTo_eq {base path : List Component} (each : ∀ step ∈ way base path, IsStep step) :
    relativeTo base path = render (way base path) := by
  rw [render_of_isStep each]
  simp [relativeTo, way]

end Component

namespace Path

@[simp]
theorem location_normalize (path : Path) :
    path.normalize.location = Component.normalize path.location :=
  location_ofLocation (Component.spellable_normalize path.spellable_location)

/-- A path in normal form is spelled in the plainest way. -/
theorem normalize_normalize (path : Path) : path.normalize.normalize = path.normalize := by
  rw [normalize, location_normalize, Component.normalize_normalize path.spellable_location,
    normalize]

theorem isAbsolute_normalize {path : Path} (absolute : path.isAbsolute = true) :
    path.normalize.isAbsolute = true := by
  rw [isAbsolute_iff, location_normalize]
  exact Component.head?_normalize ((isAbsolute_iff path).1 absolute)

theorem isAbsolute_join {path : Path} (absolute : path.isAbsolute = true) (other : Path) :
    (path.join other).isAbsolute = true := by
  cases kind : other.isAbsolute with
  | true => rw [join_of_isAbsolute path kind, kind]
  | false =>
      have written : path.text.toList ≠ [] := by
        intro empty
        simp [isAbsolute, empty] at absolute
      rw [isAbsolute_iff, location_join written kind, List.head?_append,
        (isAbsolute_iff path).1 absolute]
      rfl

theorem isAbsolute_parent? {path directory : Path} (absolute : path.isAbsolute = true)
    (parent : path.parent? = some directory) : directory.isAbsolute = true := by
  have start := (isAbsolute_iff path).1 absolute
  have spelled := path.spellable_location
  unfold parent? at parent
  generalize path.location = location at start spelled parent
  cases spelled with
  | relative each => exact (each .root (List.mem_of_head? start)).elim
  | current each => cases start
  | @root steps each =>
      cases steps with
      | nil => cases parent
      | cons step rest =>
          split at parent
          · cases parent
          · cases parent
          · cases parent
            rw [isAbsolute_iff, location_ofLocation]
            · rfl
            · exact .root fun other mem => each other ((List.dropLast_sublist _).mem mem)

theorem isAbsolute_append {path : Path} (absolute : path.isAbsolute = true) (suffix : String) :
    (path.append suffix).isAbsolute = true := by
  simp only [isAbsolute, append, String.toList_append, beq_iff_eq] at absolute ⊢
  rw [List.head?_append, absolute]
  rfl

theorem normalize_ext {path other : Path}
    (same : path.normalize.location = other.normalize.location) :
    path.normalize = other.normalize := by
  rw [location_normalize, location_normalize] at same
  rw [normalize, normalize, same]

theorem held_location {path : Path} (normal : path.normalize = path) :
    Component.Held path.location.reverse := by
  rw [← normal, location_normalize]
  exact Component.held_normalize path.spellable_location

theorem foldl_lead {path : Path} (relative : path.isAbsolute = false) :
    (Component.lead path.text.toList).foldl Component.fold [] = [] := by
  rw [isAbsolute, beq_eq_false_iff_ne] at relative
  rw [Component.lead, if_neg relative]
  split <;> rfl

/-- A relative path is joined to a directory and normalized by taking its steps from there. -/
theorem location_normalize_join (base : Path) {other : Path} (relative : other.isAbsolute = false) :
    (base.join other).normalize.location =
      ((Component.steps other.text.toList).foldl Component.fold
        base.normalize.location.reverse).reverse := by
  rw [location_normalize, location_normalize, Component.normalize, Component.normalize,
    List.reverse_reverse]
  by_cases empty : base.text = ""
  · -- Nothing stands in front of `other`, so it is read from its start on.
    have same : base.join other = other := by
      simp [join, relative, empty]
    have nowhere : base.location = [] := by
      rw [Path.location, empty]
      rfl
    rw [same, nowhere, Path.location, Component.ofChars_eq, List.foldl_append,
      foldl_lead relative]
    rfl
  · have written : base.text.toList ≠ [] := by simpa using empty
    rw [location_join written relative, List.foldl_append]

/-- It does not matter whether a directory is normalized before it is joined to. -/
theorem normalize_join_normalize (base other : Path) :
    (base.normalize.join other).normalize = (base.join other).normalize := by
  cases kind : other.isAbsolute with
  | true => rw [join_of_isAbsolute _ kind, join_of_isAbsolute _ kind]
  | false =>
      apply normalize_ext
      rw [location_normalize_join _ kind, location_normalize_join _ kind, normalize_normalize]

theorem forked_join {base path : Path} (normal : base.normalize = base)
    (kind : base.isAbsolute = true ∨ path.isAbsolute = false) :
    Component.Forked base.location (base.join path).normalize.location := by
  cases relative : path.isAbsolute with
  | false =>
      have forked := Component.forked_foldl base.location.reverse fun step mem =>
        Component.isStep_of_mem_steps (s := path.text.toList) mem
      rw [location_normalize_join base relative, normal]
      simpa using forked
  | true =>
      have absolute := kind.resolve_right (by simp [relative])
      have target := isAbsolute_normalize (isAbsolute_join absolute path)
      exact Component.forked_of_rooted (held_location normal) (spellable_location _)
        ((isAbsolute_iff _).1 absolute) ((isAbsolute_iff _).1 target)

end Path

end LuaBundle
