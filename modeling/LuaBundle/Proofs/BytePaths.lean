import LuaBundle.Proofs.TextPaths

/-! # Canonical paths of files with any names

A canonical path is a text, so of a file whose name is not in UTF-8 it shows a name in which
replacement characters stand for the bytes that could not be read. The file it leads to has that
name. This is the file that the path was made from if and only if every step on the way there from
the base directory is in UTF-8, and of files with such ways canonical paths tell which they are.
-/

namespace LuaBundle

namespace Component

/-- What a component becomes when its bytes are read as a text. -/
def reread : Component → Component
  | .name chars => .name (Text.encoded (Text.decodeLossy (chars.map Char.toUInt8)))
  | component => component

theorem chars_reread (component : Component) :
    component.reread.chars =
      Text.encoded (Text.decodeLossy (component.chars.map Char.toUInt8)) := by
  cases component with
  | root => decide +kernel
  | current => decide +kernel
  | parent => decide +kernel
  | name chars => rfl

/-- A component is read as what it is if its bytes are those of a text, and only then. -/
theorem reread_eq_self_iff {component : Component} (are : Text.AreBytes component.chars) :
    component.reread = component ↔
      ∃ text, component.chars.map Char.toUInt8 = Text.bytes text := by
  constructor
  · intro same
    have written := component.chars_reread
    rw [same] at written
    exact ⟨_, (congrArg (List.map Char.toUInt8) written).trans
      (Text.map_toUInt8_map_ofUInt8 _)⟩
  · rintro ⟨text, spelled⟩
    cases component with
    | name chars =>
        have plain : Text.encoded text = chars := by
          rw [Text.encoded, ← spelled, Text.map_ofUInt8_map_toUInt8 are, Component.chars]
        rw [Component.chars] at spelled
        rw [reread, spelled, Text.decodeLossy_bytes, plain]
    | _ => rfl

/-- Reading a name makes no slash, and neither a dot nor two dots of another name. -/
theorem isStep_reread {step : Component} (isStep : IsStep step) (are : Text.AreBytes step.chars) :
    IsStep step.reread := by
  cases step with
  | root => exact isStep
  | current => exact isStep
  | parent => exact isStep
  | name chars =>
      obtain ⟨some, notDot, notDots, slashless⟩ := isStep
      have spelled : (chars.map Char.toUInt8).map Char.ofUInt8 = chars :=
        Text.map_ofUInt8_map_toUInt8 are
      have readAs := Text.readAs_decodeLossy (chars.map Char.toUInt8)
      have itself : ∀ text, '\ufffd' ∉ text → Text.encoded text = text → chars ≠ text →
          Text.encoded (Text.decodeLossy (chars.map Char.toUInt8)) ≠ text := by
        intro text whole plain other same
        have read := Text.encoded_injective (same.trans plain.symm)
        rw [read] at readAs
        rw [← readAs.bytes_eq whole] at spelled
        exact other (spelled.symm.trans plain)
      refine ⟨itself [] (by decide) rfl some, itself ['.'] (by decide) rfl notDot,
        itself ['.', '.'] (by decide) rfl notDots, ?_⟩
      rw [Text.slash_mem_encoded_iff]
      intro mem
      have byte : '/'.toUInt8 ∈ chars.map Char.toUInt8 :=
        readAs.subset mem (by decide) (List.mem_singleton_self _)
      apply slashless
      rw [← spelled]
      exact List.mem_map.2 ⟨_, byte, rfl⟩

theorem Held.isStep_name {chars : List Char} {held : List Component} (isHeld : Held held)
    (mem : .name chars ∈ held) : IsStep (.name chars) := by
  induction isHeld with
  | parents n => cases List.eq_of_mem_replicate mem
  | root => cases List.mem_singleton.1 mem
  | name isStep _ ih =>
      rcases List.mem_cons.1 mem with same | below
      · exact same ▸ isStep
      · exact ih below

/-- There are no names below what is no name, so nothing there is read as anything else. -/
theorem Held.map_reread_of_ne {component : Component} {above : List Component}
    (held : Held (component :: above)) (other : ∀ chars, component ≠ .name chars) :
    ∀ below ∈ component :: above, below.reread = below := by
  generalize shape : component :: above = whole at held
  intro below mem
  cases held with
  | parents n =>
      rw [List.eq_of_mem_replicate mem]
      rfl
  | root =>
      rw [List.mem_singleton.1 mem]
      rfl
  | name => exact absurd (List.cons.inj shape).1 (other _)

/-- A normal path stays normal when names at its end are read as texts. -/
theorem Held.map_reread {front back : List Component} (held : Held (front ++ back))
    (are : ∀ step ∈ front, Text.AreBytes step.chars) : Held (front.map reread ++ back) := by
  induction front with
  | nil => exact held
  | cons step front ih =>
      -- Names stand on anything, and on what is no name stands nothing that is read as another.
      cases step with
      | name chars =>
          have isStep := held.isStep_name List.mem_cons_self
          exact .name (isStep_reread isStep (are _ List.mem_cons_self))
            (ih held.above fun other mem => are other (List.mem_cons_of_mem _ mem))
      | _ =>
          have same := held.map_reread_of_ne (by simp)
          rw [List.map_congr_left fun other mem => same other (List.mem_append_left back mem),
            List.map_id']
          exact held

end Component

namespace BytePath

variable {base path other : BytePath}

theorem areBytes_chars {step : Component} (mem : step ∈ path.location) :
    Text.AreBytes step.chars :=
  fun c inside => path.areBytes_spelling c (Path.mem_of_uses ⟨step, mem, inside⟩)

theorem normalize_join_normalize (base path : BytePath) :
    (base.normalize.join path).normalize = (base.join path).normalize := by
  apply spelling_injective
  simp [Path.normalize_join_normalize]

theorem normalize_ext (same : path.normalize.location = other.normalize.location) :
    path.normalize = other.normalize := by
  apply spelling_injective
  rw [location, location, spelling_normalize, spelling_normalize] at same
  rw [spelling_normalize, spelling_normalize, Path.normalize_ext same]

theorem held_normalize (path : BytePath) : Component.Held path.normalize.location.reverse := by
  rw [location, spelling_normalize]
  exact Path.held_location path.spelling.normalize_normalize

theorem forked_join (kind : base.isAbsolute = true ∨ path.isAbsolute = false) :
    Component.Forked base.normalize.location (base.join path).normalize.location := by
  rw [location, location, spelling_normalize, spelling_normalize, spelling_join,
    ← Path.normalize_join_normalize]
  exact Path.forked_join base.spelling.normalize_normalize (kind.imp_left Path.isAbsolute_normalize)

/-- How far the base directory lies on the way to a path. -/
def shared (base path : BytePath) : Nat :=
  Component.sharedLength base.normalize.location (base.join path).normalize.location

/-- The way on to a path from where it leaves the base directory. -/
def down (base path : BytePath) : List Component :=
  (base.join path).normalize.location.drop (base.shared path)

theorem location_join (base path : BytePath) :
    (base.join path).normalize.location =
      base.normalize.location.take (base.shared path) ++ base.down path := by
  rw [down, shared, Component.take_sharedLength, List.take_append_drop]

theorem way_eq (base path : BytePath) :
    Component.way base.normalize.location (base.join path).normalize.location =
      List.replicate (base.normalize.location.length - base.shared path) .parent ++
        base.down path := rfl

theorem areBytes_down {step : Component} (mem : step ∈ base.down path) :
    Text.AreBytes step.chars :=
  areBytes_chars (List.mem_of_mem_drop mem)

/-- Every step on the way from the base directory to a path is in UTF-8. -/
def Legible (base path : BytePath) : Prop :=
  ∀ step ∈ base.normalize.steps (base.normalize.join path).normalize,
    ∃ text, step = Text.bytes text

theorem legible_iff :
    base.Legible path ↔ (base.down path).map Component.reread = base.down path := by
  have up : ∃ text, Component.parent.chars.map Char.toUInt8 = Text.bytes text := ⟨['.', '.'], rfl⟩
  have whole : base.Legible path ↔ ∀ step ∈ base.down path,
      ∃ text, step.chars.map Char.toUInt8 = Text.bytes text := by
    rw [Legible, normalize_join_normalize, steps_eq, way_eq, List.forall_mem_map,
      List.forall_mem_append]
    exact and_iff_right fun step mem => List.eq_of_mem_replicate mem ▸ up
  rw [whole]
  constructor
  · intro each
    refine (List.map_congr_left fun step mem => ?_).trans (List.map_id _)
    exact (Component.reread_eq_self_iff (areBytes_down mem)).2 (each step mem)
  · intro same step mem
    have kept := List.map_inj_left.1 (same.trans (List.map_id _).symm) step mem
    exact (Component.reread_eq_self_iff (areBytes_down mem)).1 kept

/-- The way to a path as a canonical path shows it, with names read as texts. -/
def shownWay (base path : BytePath) : List Component :=
  (Component.way base.normalize.location (base.join path).normalize.location).map Component.reread

theorem shownWay_eq (base path : BytePath) :
    base.shownWay path =
      List.replicate (base.normalize.location.length - base.shared path) .parent ++
        (base.down path).map Component.reread := by
  rw [shownWay, way_eq, List.map_append, List.map_replicate]
  rfl

theorem isStep_shownWay (kind : base.isAbsolute = true ∨ path.isAbsolute = false) :
    ∀ step ∈ base.shownWay path, Component.IsStep step := by
  have each := (forked_join kind).isStep_way
  rw [way_eq] at each
  rw [shownWay_eq]
  intro step mem
  rcases List.mem_append.1 mem with up | onward
  · exact each step (List.mem_append_left _ up)
  · obtain ⟨plain, among, rfl⟩ := List.mem_map.1 onward
    have isStep := each plain (List.mem_append_right _ among)
    exact Component.isStep_reread isStep (areBytes_down among)

theorem spelling_ofText_canonical (kind : base.isAbsolute = true ∨ path.isAbsolute = false) :
    (ofText (base.canonical path)).spelling = Path.ofLocation (base.shownWay path) := by
  have shown : (base.normalize.steps (base.join path).normalize).map
        (Text.encoded ∘ Text.decodeLossy) = (base.shownWay path).map Component.chars := by
    rw [steps_eq, shownWay, List.map_map, List.map_map]
    exact List.map_congr_left fun step _ => step.chars_reread.symm
  rw [spelling_ofText, canonical, normalize_join_normalize, relativeTo, String.toList_ofList,
    Text.encoded_joinWith, List.map_map, Path.ofLocation,
    Component.render_of_isStep (isStep_shownWay kind), shown]

/-- The file that a canonical path leads to has the names that are shown. -/
theorem location_absolute_canonical (kind : base.isAbsolute = true ∨ path.isAbsolute = false) :
    (base.absolute (base.canonical path)).location =
      base.normalize.location.take (base.shared path) ++
        (base.down path).map Component.reread := by
  have steps := isStep_shownWay kind
  have held : Component.Held (base.normalize.location.take (base.shared path) ++
      (base.down path).map Component.reread).reverse := by
    have file := (base.join path).held_normalize
    rw [location_join, List.reverse_append] at file
    rw [List.reverse_append, ← List.map_reverse]
    exact file.map_reread fun step mem => areBytes_down (List.mem_reverse.1 mem)
  rw [absolute, location, spelling_normalize, spelling_join, spelling_ofText_canonical kind,
    Path.location_normalize_join _ (Path.isAbsolute_ofLocation steps), Path.steps_ofLocation steps,
    spelling_normalize, Path.normalize_normalize, ← spelling_normalize, ← location,
    ← Component.normalize_append base.held_normalize, shownWay_eq]
  exact Component.normalize_up_down _ base.held_normalize held (forked_join kind).names_below_shared

/-- A canonical path leads back to the file it was made from if it shows the names of that file as
they are, and only then. -/
theorem absolute_canonical_iff (kind : base.isAbsolute = true ∨ path.isAbsolute = false) :
    base.absolute (base.canonical path) = (base.join path).normalize ↔ base.Legible path := by
  have leads := location_absolute_canonical kind
  rw [legible_iff]
  constructor
  · intro same
    rw [same, location_join] at leads
    exact (List.append_cancel_left leads).symm
  · intro same
    rw [same, ← location_join] at leads
    exact normalize_ext leads

/-- Files in one place are written in one way. -/
theorem canonical_congr
    (same : (base.join path).normalize.location = (base.join other).normalize.location) :
    base.canonical path = base.canonical other := by
  rw [canonical, canonical, normalize_join_normalize, normalize_join_normalize, normalize_ext same]

/-- Seen from a directory at the root, the file that a path leads to is written as the path is. -/
theorem canonical_normalize_join (absolute : base.isAbsolute = true) (path : BytePath) :
    base.canonical (base.join path).normalize = base.canonical path := by
  apply canonical_congr
  have start : (base.spelling.join path.spelling).normalize.isAbsolute = true :=
    Path.isAbsolute_normalize (Path.isAbsolute_join absolute path.spelling)
  rw [location, location, spelling_normalize, spelling_join, spelling_normalize, spelling_join,
    Path.join_of_isAbsolute _ start, Path.normalize_normalize]

theorem legible_ofText (base path : Path) : (ofText base.text).Legible (ofText path.text) := by
  rw [Legible, normalize_ofText, join_ofText, normalize_ofText, steps_ofText, List.forall_mem_map]
  exact fun step _ => ⟨step.chars, rfl⟩

/-- From any base directory, a canonical path leads back to the file it was made from if the way to
that file is in UTF-8, and only then. Two paths with such ways have one canonical path if and only
if they are one file, and from a directory at the root, the file that such a canonical path leads to
has that canonical path. Left out are only absolute paths seen from a relative directory. Paths that
are texts always have such ways, and of them the resolver says the same. -/
theorem canonical_eq_iff_same_location (base path other : BytePath)
    (kind : base.isAbsolute = true ∨ path.isAbsolute = false ∧ other.isAbsolute = false) :
    (base.absolute (base.canonical path) = (base.join path).normalize ↔ base.Legible path) ∧
    (base.Legible path → base.Legible other →
      (base.canonical path = base.canonical other ↔
        (base.join path).normalize.location = (base.join other).normalize.location)) ∧
    (base.isAbsolute = true → ∀ module,
      (∃ file, base.Legible file ∧ base.canonical file = module) →
      base.canonical (base.absolute module) = module) ∧
    ∀ (directory file : Path) (extensions : List String) (files : FileView),
      base = ofText directory.text → path = ofText file.text →
      base.Legible path ∧
      base.canonical path = (Resolver.ofBase directory extensions files).canonical file ∧
      ∀ module, base.absolute module =
        ofText ((Resolver.ofBase directory extensions files).absolute module).text := by
  have first := absolute_canonical_iff (kind.imp_right And.left)
  have second := absolute_canonical_iff (kind.imp_right And.right)
  refine ⟨first, fun legible legible' => ⟨fun same => ?_, canonical_congr⟩, ?_, ?_⟩
  · rw [← first.2 legible, ← second.2 legible', same]
  · rintro absolute module ⟨file, legible, rfl⟩
    rw [(absolute_canonical_iff (.inl absolute)).2 legible, canonical_normalize_join absolute]
  · rintro directory file extensions files rfl rfl
    exact ⟨legible_ofText directory file, canonical_ofText directory file extensions files,
      absolute_ofText directory extensions files⟩

theorem canonical_eq_iff_same_location_beside :
    ∃ beside rooted : BytePath, beside = ⟨[0x2e, 0x2e, 0x2f, 0xff, 0x2f, 0x2e]⟩ ∧
      rooted = ofText "/p/x" ∧
      beside.canonical (ofText "../../y") = "../../y" ∧
      beside.canonical (ofText "../../y") = beside.canonical (ofText "./z/../.././../y/") ∧
      beside.absolute "../../y" = ofText "../../y" ∧
      ¬beside.Legible ⟨[0xfe]⟩ ∧
      rooted.canonical (ofText ".") = "" ∧
      rooted.canonical (rooted.absolute "") = "" ∧
      (Resolver.ofBase ⟨"/p/x"⟩ [] (Files.view {})).canonical ⟨"."⟩ = "" := by
  obtain ⟨leads, same, -⟩ := canonical_eq_iff_same_location ⟨[0x2e, 0x2e, 0x2f, 0xff, 0x2f, 0x2e]⟩
    (ofText "../../y") (ofText "./z/../.././../y/") (.inr (by decide +kernel))
  obtain ⟨leads', -⟩ := canonical_eq_iff_same_location ⟨[0x2e, 0x2e, 0x2f, 0xff, 0x2f, 0x2e]⟩
    (ofText "./z/../.././../y/") ⟨[0xfe]⟩ (.inr (by decide +kernel))
  obtain ⟨astray, -⟩ := canonical_eq_iff_same_location ⟨[0x2e, 0x2e, 0x2f, 0xff, 0x2f, 0x2e]⟩
    ⟨[0xfe]⟩ ⟨[0xfe]⟩ (.inr (by decide +kernel))
  obtain ⟨-, -, again, texts⟩ := canonical_eq_iff_same_location (ofText "/p/x") (ofText ".")
    (ofText ".") (.inl (by decide +kernel))
  obtain ⟨legible, agrees, -⟩ := texts ⟨"/p/x"⟩ ⟨"."⟩ [] (Files.view {}) rfl rfl
  have empty : (ofText "/p/x").canonical (ofText ".") = "" := by decide +kernel
  refine ⟨_, _, rfl, rfl, by decide +kernel, ?_, by decide +kernel, ?_, empty, ?_, ?_⟩
  · exact (same (leads.1 (by decide +kernel)) (leads'.1 (by decide +kernel))).2 (by decide +kernel)
  · rw [← astray]
    decide +kernel
  · exact again (by decide +kernel) "" ⟨_, legible, empty⟩
  · rw [← agrees, empty]

/-- Of two files whose names cannot be read, a canonical path does not tell which it was made from,
and it leads to neither. It can even lead into the base directory from outside of it, and the file
that it leads to then has another canonical path. -/
theorem canonical_eq_of_unreadable :
    (ofText "/p").isAbsolute = true ∧
    (ofText "/p").canonical ⟨[0xff]⟩ = (ofText "/p").canonical ⟨[0xfe]⟩ ∧
    ((ofText "/p").join ⟨[0xff]⟩).normalize.location ≠
      ((ofText "/p").join ⟨[0xfe]⟩).normalize.location ∧
    (ofText "/p").absolute ((ofText "/p").canonical ⟨[0xff]⟩) ≠
      ((ofText "/p").join ⟨[0xff]⟩).normalize ∧
    (ofText "/\ufffd").isAbsolute = true ∧
    (ofText "/\ufffd").canonical ⟨[0x2f, 0xff, 0x2f, 0x79]⟩ = "../\ufffd/y" ∧
    (ofText "/\ufffd").canonical ((ofText "/\ufffd").absolute "../\ufffd/y") = "y" := by
  refine ⟨?_, ?_, ?_, ?_, ?_, ?_, ?_⟩ <;> decide +kernel

end BytePath

end LuaBundle
