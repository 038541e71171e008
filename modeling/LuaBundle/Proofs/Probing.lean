import LuaBundle.Proofs.Resolution
import Mathlib.Data.List.DropRight
import Mathlib.Data.List.Forall2

/-! # Extensions are written behind the last name

An import without an extension is looked up by writing each extension behind the path that it
denotes, after that path was folded. Writing the extension into the import itself comes to the same:
the last name of a path is the one part that folding leaves alone, so what is written behind it
before folding stands behind it afterwards. An import without an extension is therefore a choice, in
the order of the extensions, between imports that have one.
-/

namespace LuaBundle

namespace Text

theorem joinWith_concat_append (separator piece suffix : List Char) (pieces : List (List Char)) :
    joinWith separator (pieces ++ [piece ++ suffix]) =
      joinWith separator (pieces ++ [piece]) ++ suffix := by
  induction pieces with
  | nil => rfl
  | cons first pieces ih =>
      cases pieces with
      | nil => simp [joinWith]
      | cons second pieces =>
          simp only [List.cons_append, joinWith, List.append_assoc] at ih ⊢
          rw [ih]

end Text

namespace Component

variable {s name suffix : List Char}

theorem render_concat_append (front : List Component) (name suffix : List Char) :
    render (front ++ [.name (name ++ suffix)]) = render (front ++ [.name name]) ++ suffix := by
  match front with
  | [] => rfl
  | .root :: front =>
      simp only [List.cons_append, render, List.map_append, List.map_cons, List.map_nil, chars]
      rw [Text.joinWith_concat_append]
  | .current :: front | .parent :: front | .name _ :: front =>
      simp only [List.cons_append, render]
      simp only [← List.cons_append, List.map_append, List.map_cons, List.map_nil, chars]
      rw [Text.joinWith_concat_append]

theorem normalize_concat_name (stem : List Component) (name : List Char) :
    normalize (stem ++ [.name name]) = normalize stem ++ [.name name] := by
  simp [normalize, List.foldl_append]

/-- A text ends in a piece: it is that piece, or the piece stands behind its last slash. -/
def EndsIn (s piece : List Char) : Prop :=
  s = piece ∨ ∃ front, s = front ++ '/' :: piece

theorem EndsIn.append (ends : EndsIn s name) (suffix : List Char) :
    EndsIn (s ++ suffix) (name ++ suffix) := by
  rcases ends with rfl | ⟨front, rfl⟩
  · exact .inl rfl
  · exact .inr ⟨front, by simp⟩

theorem EndsIn.behind {front : List Char} (cut : front = [] ∨ front.getLast? = some '/')
    (ends : EndsIn s name) : EndsIn (front ++ s) name := by
  rcases ends with rfl | ⟨more, rfl⟩
  · rcases cut with rfl | slash
    · exact .inl rfl
    · obtain ⟨before, rfl⟩ := List.getLast?_eq_some_iff.1 slash
      exact .inr ⟨before, by simp⟩
  · exact .inr ⟨front ++ more, by simp⟩

theorem endsIn_rtakeWhile (s : List Char) : EndsIn s (s.rtakeWhile (· != '/')) := by
  have cut : s.rdropWhile (· != '/') = [] ∨ (s.rdropWhile (· != '/')).getLast? = some '/' := by
    by_cases empty : s.rdropWhile (· != '/') = []
    · exact .inl empty
    · have slash := List.rdropWhile_last_not (· != '/') s empty
      rw [List.getLast?_eq_getLast_of_ne_nil empty]
      exact .inr (congrArg some (by simpa using slash))
  have ends := EndsIn.behind cut (.inl rfl : EndsIn (s.rtakeWhile (· != '/')) _)
  rwa [List.rdropWhile_append_rtakeWhile] at ends

/-- What stands in front of the last name of a text does not depend on that name. -/
theorem exists_stem (ends : EndsIn s name) (isStep : IsStep (.name name)) :
    ∃ stem, ∀ suffix, '/' ∉ suffix → ofChars (s ++ suffix) = stem ++ [.name (name ++ suffix)] := by
  have read : ∀ suffix, '/' ∉ suffix → steps (name ++ suffix) = [.name (name ++ suffix)] := by
    intro suffix slashless
    have longer := isStep_name_append isStep slashless
    exact @steps_joinWith [.name (name ++ suffix)] (by simpa using longer)
  rcases ends with rfl | ⟨front, rfl⟩
  · refine ⟨[], fun suffix slashless => ?_⟩
    have first := lead_chars (isStep_name_append isStep slashless)
    rw [ofChars_eq, read suffix slashless]
    exact congrArg (· ++ _) first
  · refine ⟨lead (front ++ ['/']) ++ steps front, fun suffix slashless => ?_⟩
    rw [List.append_assoc, List.cons_append, ofChars_eq, lead_append, steps_append,
      read suffix slashless, List.append_assoc]

end Component

namespace Path

variable {path other : Path} {name : List Char} {suffix : String}

/-- What is written behind a last name stands behind it when the path is folded. -/
theorem normalize_append (ends : Component.EndsIn path.text.toList name)
    (isStep : Component.IsStep (.name name)) (slashless : '/' ∉ suffix.toList) :
    (path.append suffix).normalize = path.normalize.append suffix := by
  obtain ⟨stem, read⟩ := Component.exists_stem ends isStep
  have plain : path.location = stem ++ [.name name] := by
    simpa [location] using read [] (by simp)
  have longer : (path.append suffix).location = stem ++ [.name (name ++ suffix.toList)] := by
    rw [location, append, String.toList_append]
    exact read suffix.toList slashless
  rw [normalize, normalize, longer, plain, Component.normalize_concat_name,
    Component.normalize_concat_name, ofLocation, ofLocation, append,
    Component.render_concat_append, String.ofList_append, String.ofList_toList]

theorem isAbsolute_append_iff (written : path.text.toList ≠ []) (suffix : String) :
    (path.append suffix).isAbsolute = path.isAbsolute := by
  obtain ⟨c, rest, spelled⟩ := List.exists_cons_of_ne_nil written
  simp [isAbsolute, append, spelled]

theorem join_append (path : Path) (written : other.text.toList ≠ []) (suffix : String) :
    path.join (other.append suffix) = (path.join other).append suffix := by
  simp only [join, isAbsolute_append_iff written]
  split
  · rfl
  · split <;> simp [append, String.append_assoc]

theorem endsIn_join (path : Path) (ends : Component.EndsIn other.text.toList name) :
    Component.EndsIn (path.join other).text.toList name := by
  simp only [join]
  split
  · exact ends
  · split
    · next cut =>
        rw [String.toList_append]
        exact ends.behind (cut.imp_left List.getLast?_eq_none_iff.1)
    · rw [String.toList_append]
      exact ends.behind (.inr (by simp))

end Path

namespace Resolver

variable {resolver : Resolver} {importer literal extension : String} {name : List Char}

theorem target_append (ends : Component.EndsIn literal.toList name)
    (isStep : Component.IsStep (.name name)) (slashless : '/' ∉ extension.toList)
    (importer : String) :
    resolver.target importer (literal ++ extension) =
      (resolver.target importer literal).append extension := by
  have written : (Path.mk literal).text.toList ≠ [] := by
    rcases ends with same | ⟨front, same⟩
    · rw [same]
      exact isStep.1
    · simp [same]
  have spelled : Path.mk (literal ++ extension) = (Path.mk literal).append extension := rfl
  simp only [target, spelled, Path.join_append _ written]
  exact Path.normalize_append (Path.endsIn_join _ ends) isStep slashless

theorem hasExtension_append (ends : Component.EndsIn literal.toList name)
    (isStep : Component.IsStep (.name name)) (mem : extension ∈ resolver.extensions)
    (slashless : '/' ∉ extension.toList) : resolver.hasExtension (literal ++ extension) = true := by
  obtain ⟨stem, read⟩ := Component.exists_stem ends isStep
  have named : (Path.mk (literal ++ extension)).fileName? = some (name ++ extension.toList) := by
    simp [Path.fileName?, Path.location, read extension.toList slashless]
  simp only [hasExtension, named, List.any_eq_true]
  refine ⟨extension, mem, ?_⟩
  simpa using isStep.1

/-- With an extension written out, an import has one candidate: the one that trying the extension
gives. -/
theorem candidates_append (ends : Component.EndsIn literal.toList name)
    (isStep : Component.IsStep (.name name)) (mem : extension ∈ resolver.extensions)
    (slashless : '/' ∉ extension.toList) (importer : String) :
    resolver.candidates importer (literal ++ extension) =
      [(resolver.target importer literal).append extension] := by
  rw [candidates, hasExtension_append ends isStep mem slashless,
    target_append ends isStep slashless]
  rfl

/-- An import without an extension means what the first extension that leads to a file gives. -/
theorem result_resolve_bare (bare : resolver.hasExtension literal = false) (importer : String) :
    let tried := fun extension => (resolver.target importer literal).append extension
    (resolver.resolve importer literal).result =
      match resolver.extensions.find? fun extension => resolver.files.isFile (tried extension) with
      | some extension => .ok (resolver.canonical (tried extension))
      | none => .error (.moduleNotFound literal
          (resolver.extensions.map fun extension => resolver.canonical (tried extension))
          importer) := by
  intro tried
  have candidates : resolver.candidates importer literal = resolver.extensions.map tried := by
    simp [Resolver.candidates, bare, tried]
  rw [result_resolve, candidates, List.find?_map, List.map_map]
  simp only [Function.comp_def]
  cases resolver.extensions.find? fun extension => resolver.files.isFile (tried extension) <;> rfl

/-- With an extension written out, an import means what trying the extension gives, or nothing. -/
theorem result_resolve_append (ends : Component.EndsIn literal.toList name)
    (isStep : Component.IsStep (.name name)) (mem : extension ∈ resolver.extensions)
    (slashless : '/' ∉ extension.toList) (importer : String) :
    let path := (resolver.target importer literal).append extension
    (resolver.resolve importer (literal ++ extension)).result =
      if resolver.files.isFile path then .ok (resolver.canonical path)
      else .error (.moduleNotFound (literal ++ extension) [resolver.canonical path] importer) := by
  intro path
  rw [result_resolve, candidates_append ends isStep mem slashless]
  cases isFile : resolver.files.isFile path with
  | true => simp [path, isFile]
  | false => simp [path, isFile]

/-- An import without an extension means what the first extension that leads to a file makes of it
when it is written out. If none does, the paths tried are those that the imports with an extension
try, one by one. -/
theorem resolve_extension_choice {resolver : Resolver} (importer : String) {literal : String}
    (slashless : ∀ extension ∈ resolver.extensions, '/' ∉ extension.toList)
    (named : literal.toList.rtakeWhile (· != '/') ∉ [[], ['.'], ['.', '.']])
    (bare : resolver.hasExtension literal = false) :
    ((∃ extension ∈ resolver.extensions,
        (resolver.resolve importer (literal ++ extension)).result.isOk = true) →
      ∃ before extension after module,
        resolver.extensions = before ++ extension :: after ∧
        (∀ earlier ∈ before,
          (resolver.resolve importer (literal ++ earlier)).result.isOk = false) ∧
        (resolver.resolve importer (literal ++ extension)).result = .ok module ∧
        (resolver.resolve importer literal).result = .ok module) ∧
    ((∀ extension ∈ resolver.extensions,
        (resolver.resolve importer (literal ++ extension)).result.isOk = false) →
      ∃ candidates,
        (resolver.resolve importer literal).result =
          .error (.moduleNotFound literal candidates importer) ∧
        List.Forall₂ (fun extension candidate =>
          (resolver.resolve importer (literal ++ extension)).result =
            .error (.moduleNotFound (literal ++ extension) [candidate] importer))
          resolver.extensions candidates) := by
  have ends := Component.endsIn_rtakeWhile literal.toList
  have isStep : Component.IsStep (.name (literal.toList.rtakeWhile (· != '/'))) := by
    simp only [List.mem_cons, List.not_mem_nil, or_false, not_or] at named
    obtain ⟨some, notDot, notDots⟩ := named
    refine ⟨some, notDot, notDots, fun slash => ?_⟩
    simpa using List.mem_rtakeWhile_imp slash
  have explicit := fun extension mem =>
    result_resolve_append ends isStep mem (slashless extension mem) importer
  have isOk : ∀ extension ∈ resolver.extensions,
      (resolver.resolve importer (literal ++ extension)).result.isOk =
        resolver.files.isFile ((resolver.target importer literal).append extension) := by
    intro extension mem
    rw [explicit extension mem]
    cases resolver.files.isFile ((resolver.target importer literal).append extension) <;> rfl
  have choice := result_resolve_bare bare importer
  cases found : resolver.extensions.find? fun extension =>
      resolver.files.isFile ((resolver.target importer literal).append extension) with
  | some extension =>
      obtain ⟨isFile, before, after, split, others⟩ := List.find?_eq_some_iff_append.1 found
      have here : extension ∈ resolver.extensions := by simp [split]
      simp only [found] at choice
      constructor
      · intro _
        refine ⟨before, extension, after, _, split, ?_, ?_, choice⟩
        · intro earlier mem
          rw [isOk earlier (by simp [split, mem])]
          simpa using others earlier mem
        · rw [explicit extension here, if_pos isFile]
      · intro failed
        rw [← isOk extension here, failed extension here] at isFile
        cases isFile
  | none =>
      have unmet := List.find?_eq_none.1 found
      simp only [found] at choice
      constructor
      · rintro ⟨extension, mem, ok⟩
        exact absurd ((isOk extension mem).symm.trans ok) (unmet extension mem)
      · intro _
        refine ⟨_, choice, ?_⟩
        rw [List.forall₂_map_right_iff, List.forall₂_same]
        intro extension mem
        rw [explicit extension mem, if_neg (unmet extension mem)]

theorem resolve_extension_choice_second :
    let resolver := Resolver.ofBase ⟨"/p"⟩ [".luau", ".lua"]
      (Files.view (.ofList [(⟨"/p/b.x.lua"⟩, "")]))
    (∃ extension, (resolver.resolve "d/m.lua" ("..//./b.x" ++ extension)).result = .ok "b.x.lua" ∧
        (resolver.resolve "d/m.lua" "..//./b.x").result = .ok "b.x.lua") ∧
      ∃ candidates, candidates = ["d/c.luau", "d/c.lua"] ∧
        (resolver.resolve "d/m.lua" "e/../c").result =
          .error (.moduleNotFound "e/../c" candidates "d/m.lua") := by
  intro resolver
  have slashless : ∀ extension ∈ resolver.extensions, '/' ∉ extension.toList := by decide
  have bare : resolver.hasExtension "..//./b.x" = false := by decide +kernel
  have bare' : resolver.hasExtension "e/../c" = false := by decide +kernel
  obtain ⟨chosen, -⟩ := resolve_extension_choice "d/m.lua" slashless (by decide) bare
  obtain ⟨-, untold⟩ := resolve_extension_choice "d/m.lua" slashless (by decide) bare'
  constructor
  · obtain ⟨-, extension, -, module, -, -, explicit, same⟩ :=
      chosen ⟨".lua", by decide, by decide +kernel⟩
    have here : (resolver.resolve "d/m.lua" "..//./b.x").result = .ok "b.x.lua" := by
      decide +kernel
    obtain rfl := Except.ok.inj (same.symm.trans here)
    exact ⟨extension, explicit, same⟩
  · obtain ⟨candidates, failed, each⟩ := untold (by decide +kernel)
    have here : (resolver.resolve "d/m.lua" "e/../c").result =
        .error (.moduleNotFound "e/../c" ["d/c.luau", "d/c.lua"] "d/m.lua") := by decide +kernel
    injection failed.symm.trans here with same
    injection same with _ same
    exact ⟨candidates, same, failed⟩

end Resolver

end LuaBundle
