import LuaBundle.Linker
import LuaBundle.Proofs.Traced
import Mathlib.Data.List.Forall2

/-! # Which modules a source is linked to

Linking succeeds exactly if every literal import resolves. The dependencies are then what the
literals resolve to, one by one and in their order; otherwise the error is the one that some literal
gives.
-/

namespace LuaBundle.Linker

/-- The path a cut call imports, if it is a literal one. -/
def literalOf? (cut : List Char × ImportCall) : Option String :=
  cut.2.literal?.map String.ofList

/-- The paths a source imports by literals, from left to right. -/
def literals (linker : Linker) (source : List Char) : List String :=
  (ImportCuts.ofSource linker.importFunction.toList source).calls.filterMap literalOf?

theorem linkCall_ok {linker : Linker} {importer : String} {gap : List Char} {call : ImportCall}
    {text : List Char} {modules : List String}
    (result : (linker.linkCall importer call).result = .ok (text, modules)) :
    List.Forall₂
      (fun literal module => (linker.resolver.resolve importer literal).result = .ok module)
      (literalOf? (gap, call)).toList modules := by
  unfold linkCall at result
  cases literal : call.literal? with
  | none =>
      rw [literal] at result
      cases result
      simp [literalOf?, literal]
  | some path =>
      rw [literal] at result
      obtain ⟨module, resolved, result⟩ := Traced.result_bind_eq_ok.1 result
      cases result
      simpa [literalOf?, literal] using resolved

theorem linkCall_error {linker : Linker} {importer : String} {gap : List Char} {call : ImportCall}
    {error : BuildError} (result : (linker.linkCall importer call).result = .error error) :
    ∃ literal, literalOf? (gap, call) = some literal ∧
      (linker.resolver.resolve importer literal).result = .error error := by
  unfold linkCall at result
  cases literal : call.literal? with
  | none =>
      rw [literal] at result
      cases result
  | some path =>
      rw [literal] at result
      rcases Traced.result_bind_eq_error.1 result with failed | ⟨module, -, bad⟩
      · exact ⟨String.ofList path, by simp [literalOf?, literal], failed⟩
      · cases bad

theorem linkCalls_ok {linker : Linker} {importer : String} {tail : List Char}
    {calls : List (List Char × ImportCall)} {linked : Linked}
    (result : (linker.linkCalls importer tail calls).result = .ok linked) :
    List.Forall₂
      (fun literal module => (linker.resolver.resolve importer literal).result = .ok module)
      (calls.filterMap literalOf?) linked.dependencies := by
  induction calls generalizing linked with
  | nil =>
      cases result
      exact .nil
  | cons cut calls ih =>
      obtain ⟨⟨text, modules⟩, first, result⟩ := Traced.result_bind_eq_ok.1 result
      obtain ⟨rest, further, result⟩ := Traced.result_bind_eq_ok.1 result
      cases result
      rw [List.filterMap_eq_flatMap_toList, List.flatMap_cons, ← List.filterMap_eq_flatMap_toList]
      exact List.rel_append (linkCall_ok first) (ih further)

theorem linkCalls_error {linker : Linker} {importer : String} {tail : List Char}
    {calls : List (List Char × ImportCall)} {error : BuildError}
    (result : (linker.linkCalls importer tail calls).result = .error error) :
    ∃ literal ∈ calls.filterMap literalOf?,
      (linker.resolver.resolve importer literal).result = .error error := by
  induction calls with
  | nil => cases result
  | cons cut calls ih =>
      rw [List.filterMap_eq_flatMap_toList, List.flatMap_cons, ← List.filterMap_eq_flatMap_toList]
      rcases Traced.result_bind_eq_error.1 result with first | ⟨⟨text, modules⟩, -, later⟩
      · obtain ⟨literal, here, failed⟩ := linkCall_error first
        exact ⟨literal, List.mem_append_left _ (Option.mem_toList.2 here), failed⟩
      · rcases Traced.result_bind_eq_error.1 later with later | ⟨rest, -, bad⟩
        · obtain ⟨literal, mem, failed⟩ := ih later
          exact ⟨literal, List.mem_append_right _ mem, failed⟩
        · cases bad

/-- A linked source depends on what its literals resolve to, one by one. -/
theorem link_ok {linker : Linker} {importer : String} {source : List Char} {linked : Linked}
    (result : (linker.link importer source).result = .ok linked) :
    List.Forall₂
      (fun literal module => (linker.resolver.resolve importer literal).result = .ok module)
      (linker.literals source) linked.dependencies :=
  linkCalls_ok result

/-- The text before a call and the text from it on are linked independently. -/
theorem linkCalls_append {linker : Linker} {importer : String} {tail : List Char}
    {front back : List (List Char × ImportCall)} {linked : Linked}
    (result : (linker.linkCalls importer tail (front ++ back)).result = .ok linked) :
    ∃ before after, (linker.linkCalls importer [] front).result = .ok before ∧
      (linker.linkCalls importer tail back).result = .ok after ∧
      linked = ⟨before.text ++ after.text, before.dependencies ++ after.dependencies⟩ := by
  induction front generalizing linked with
  | nil => exact ⟨⟨[], []⟩, linked, rfl, result, rfl⟩
  | cons cut front ih =>
      obtain ⟨⟨text, modules⟩, first, result⟩ := Traced.result_bind_eq_ok.1 result
      obtain ⟨rest, further, result⟩ := Traced.result_bind_eq_ok.1 result
      cases result
      obtain ⟨before, after, early, late, rfl⟩ := ih further
      refine ⟨⟨cut.1 ++ text ++ before.text, modules ++ before.dependencies⟩, after, ?_, late, ?_⟩
      · exact Traced.result_bind_eq_ok.2 ⟨_, first, Traced.result_bind_eq_ok.2 ⟨_, early, rfl⟩⟩
      · simp only [List.append_assoc]

/-- Where a literal import stood, the loader is called with what the literal resolves to. -/
theorem link_literal {linker : Linker} {importer : String} {source : List Char} {linked : Linked}
    {front back : List (List Char × ImportCall)} {gap tail literal : List Char} {call : ImportCall}
    (cuts : ImportCuts.ofSource linker.importFunction.toList source =
      ⟨front ++ (gap, call) :: back, tail⟩)
    (isLiteral : call.literal? = some literal)
    (result : (linker.link importer source).result = .ok linked) :
    ∃ before after module,
      (linker.linkCalls importer [] front).result = .ok before ∧
      (linker.linkCalls importer tail back).result = .ok after ∧
      (linker.resolver.resolve importer (String.ofList literal)).result = .ok module ∧
      linked.text =
        before.text ++ gap ++ linker.loaderCall (Lua.quote module.toList) ++ after.text ∧
      module ∈ linked.dependencies := by
  simp only [link, cuts] at result
  obtain ⟨before, after, early, late, rfl⟩ := linkCalls_append result
  obtain ⟨⟨text, modules⟩, first, late⟩ := Traced.result_bind_eq_ok.1 late
  obtain ⟨rest, further, late⟩ := Traced.result_bind_eq_ok.1 late
  cases late
  simp only [linkCall, isLiteral] at first
  obtain ⟨module, resolved, first⟩ := Traced.result_bind_eq_ok.1 first
  cases first
  refine ⟨before, rest, module, early, further, resolved, ?_, by simp⟩
  simp only [List.append_assoc]

/-- A source that cannot be linked has a literal that does not resolve. -/
theorem link_error {linker : Linker} {importer : String} {source : List Char} {error : BuildError}
    (result : (linker.link importer source).result = .error error) :
    ∃ literal ∈ linker.literals source,
      (linker.resolver.resolve importer literal).result = .error error :=
  linkCalls_error result

end LuaBundle.Linker
