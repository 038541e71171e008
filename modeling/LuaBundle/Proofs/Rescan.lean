import LuaBundle.Proofs.Rewriting
import LuaBundle.Proofs.Trimming

/-! # Scanning a linked source again

If the loader has the name of the import function, a linked source is cut where the source was cut.
Its gaps are the same, and whether a call starts in a gap is settled inside the gap: an occurrence
of the name cannot reach over the end of it, because the call that follows the gap stands alone, and
the blanks behind an occurrence cannot either, because the call begins with a name. All that is left
to what follows is a closing parenthesis, and each call brings one.
-/

namespace LuaBundle

namespace ImportCall

variable {name gap rest rest' : List Char} {previous : Option Char} {c : Char}

theorem mayFollow_of_isAsciiBlank (blank : Text.isAsciiBlank c = true) : mayFollow c = true := by
  simp only [Text.isAsciiBlank, Bool.or_eq_true, beq_iff_eq] at blank
  rcases blank with (((rfl | rfl) | rfl) | rfl) | rfl <;> decide

/-- The name, the blanks and the parenthesis of a call that starts in a gap are all in the gap. -/
theorem head_prefix_gap {blanks inside : List Char} (solid : Solid name) (nonempty : gap ≠ [])
    (free : gap.getLast?.all mayFollow = true)
    (blank : ∀ c ∈ blanks, Text.isAsciiBlank c = true)
    (whole : gap ++ (name ++ rest) = name ++ (blanks ++ '(' :: inside)) :
    name ++ (blanks ++ ['(']) <+: gap := by
  by_contra reaches
  replace whole : gap ++ (name ++ rest) = name ++ (blanks ++ ['(']) ++ inside := by
    simpa using whole
  have inGap : gap <+: gap ++ (name ++ rest) := List.prefix_append _ _
  have inHead : name ++ (blanks ++ ['(']) <+: gap ++ (name ++ rest) := ⟨inside, whole.symm⟩
  obtain ⟨more, split⟩ := (List.prefix_or_prefix_of_prefix inGap inHead).resolve_right reaches
  -- What is left of the head behind the gap begins like the name.
  obtain ⟨d, others, rfl⟩ : ∃ d others, more = d :: others := by
    apply List.exists_cons_of_ne_nil
    rintro rfl
    rw [List.append_nil] at split
    exact reaches (split ▸ List.prefix_rfl)
  obtain ⟨first, letters, rfl⟩ := List.exists_cons_of_ne_nil solid.nonempty
  rw [← split, List.append_assoc, List.append_cancel_left_eq] at whole
  obtain rfl : first = d := (List.cons.inj whole).1
  have glued := solid.glued first List.mem_cons_self
  rcases List.append_eq_append_iff.1 split with ⟨between, word, tail⟩ | ⟨between, above, tail⟩
  · -- The gap ends inside the name, where no call can follow.
    obtain ⟨last, ends⟩ : ∃ last, gap.getLast? = some last :=
      ⟨_, List.getLast?_eq_some_getLast nonempty⟩
    have bound := solid.glued last (word ▸ List.mem_append_left _ (List.mem_of_getLast? ends))
    rw [ends, Option.all_some, bound] at free
    cases free
  · -- The gap ends behind the name, so the next character is a blank or the parenthesis.
    have mem : first ∈ blanks ++ ['('] := tail ▸ by simp
    rcases List.mem_append.1 mem with isBlank | paren
    · rw [mayFollow_of_isAsciiBlank (blank first isBlank)] at glued
      cases glued
    · rw [List.mem_singleton.1 paren] at glued
      cases glued

/-- Whether a call starts in a gap does not depend on what follows the name behind the gap, as long
as a parenthesis is closed there. -/
theorem Starts.exchange (solid : Solid name) (nonempty : gap ≠ [])
    (free : gap.getLast?.all mayFollow = true) (closing : ')' ∈ rest')
    (starts : Starts name previous (gap ++ (name ++ rest))) :
    Starts name previous (gap ++ (name ++ rest')) := by
  obtain ⟨begins, call, behind, written, whole⟩ := starts
  rw [source_append] at whole
  obtain ⟨more, rfl⟩ := head_prefix_gap solid nonempty free written.blank whole
  have closes : ')' ∈ more ++ (name ++ rest') := by simp [closing]
  obtain ⟨other, further, written', spelled⟩ := exists_call name written.blank closes
  exact ⟨begins, other, further, written', by simpa using spelled⟩

end ImportCall

namespace ImportCuts

open ImportCall

variable {name s gap : List Char} {previous : Option Char} {cuts : ImportCuts} {call : ImportCall}
  {calls : List (List Char × ImportCall)}

/-- The same cuts with other calls. -/
def mapCalls (f : ImportCall → ImportCall) (cuts : ImportCuts) : ImportCuts :=
  ⟨cuts.calls.map fun cut => (cut.1, f cut.2), cuts.tail⟩

theorem mapCalls_prepend (f : ImportCall → ImportCall) (text : List Char) (cuts : ImportCuts) :
    (cuts.prepend text).mapCalls f = (cuts.mapCalls f).prepend text := by
  obtain ⟨calls, tail⟩ := cuts
  cases calls <;> rfl

theorem forall_calls_prepend (text : List Char) (cuts : ImportCuts) (p : ImportCall → Prop) :
    (∀ cut ∈ (cuts.prepend text).calls, p cut.2) ↔ ∀ cut ∈ cuts.calls, p cut.2 := by
  obtain ⟨calls, tail⟩ := cuts
  cases calls <;> simp [prepend]

namespace Cuts

theorem isWritten (cut : Cuts name previous s cuts) :
    ∀ cut ∈ cuts.calls, IsWritten cut.2 := by
  induction cut with
  | done => simp
  | call _ written _ ih => exact List.forall_mem_cons.2 ⟨written, ih⟩
  | pass _ _ ih => exact (forall_calls_prepend _ _ IsWritten).2 ih

/-- What stands before the first call lets it start. -/
theorem first_free (cut : Cuts name previous s cuts) (first : cuts.calls = (gap, call) :: calls) :
    (gap.getLast?.or previous).all mayFollow = true := by
  induction cut generalizing gap with
  | done => cases first
  | call free _ _ _ =>
      cases first
      exact free
  | @pass previous c rest cuts _ _ ih =>
      obtain ⟨others, tail⟩ := cuts
      cases others with
      | nil => cases first
      | cons other others =>
          cases first
          rw [List.singleton_append, getLast?_cons_or]
          exact ih rfl

/-- Other calls of the same name, each as a call is written, are found in place of the calls. -/
theorem mapCalls (solid : Solid name) {f : ImportCall → ImportCall}
    (cut : Cuts name previous s cuts) (written : ∀ cut ∈ cuts.calls, (f cut.2).IsWritten) :
    Cuts name previous (cuts.rewrite fun call => (f call).source name) (cuts.mapCalls f) := by
  induction cut with
  | done => exact .done
  | call free _ _ ih =>
      obtain ⟨here, later⟩ := List.forall_mem_cons.1 written
      rw [rewrite_cons]
      exact .call free here (ih later)
  | @pass previous c rest cuts no cut ih =>
      rw [rewrite_prepend, mapCalls_prepend]
      rw [forall_calls_prepend [c] cuts fun call => (f call).IsWritten] at written
      refine .pass ?_ (ih written)
      have same : cuts.rewrite (·.source name) = rest := by
        rw [← cut.eq_scan solid, rewrite_scan]
      obtain ⟨calls, tail⟩ := cuts
      -- Up to the name of the next call both texts are the same, so a call that starts here in one
      -- of them starts in the other.
      intro starts
      apply no
      cases calls with
      | nil => rwa [← same]
      | cons first calls =>
          obtain ⟨gap, call⟩ := first
          have free := cut.first_free rfl
          rw [← getLast?_cons_or c gap none, Option.or_none] at free
          rw [rewrite_cons, source_append] at same starts
          have starts : Starts name previous (c :: gap ++ (name ++ _)) := starts
          rw [← same]
          exact starts.exchange solid (List.cons_ne_nil _ _) free (by simp)

end Cuts

end ImportCuts

namespace Lua

/-- Nothing in a text has to be escaped. -/
def IsPlain (s : List Char) : Prop :=
  '\\' ∉ s ∧ '"' ∉ s ∧ '\n' ∉ s ∧ '\r' ∉ s

theorem quote_of_isPlain {value : List Char} (plain : IsPlain value) :
    quote value = '"' :: (value ++ ['"']) := by
  have same : value.flatMap escape = value := by
    conv_rhs => rw [← List.flatMap_singleton' value]
    apply List.flatMap_congr
    intro c mem
    obtain ⟨slash, mark, feed, ret⟩ := plain
    unfold escape
    split
    · exact absurd mem slash
    · exact absurd mem mark
    · exact absurd mem feed
    · exact absurd mem ret
    · rfl
  rw [quote, same, List.cons_append]

theorem tight_quote (value : List Char) : Text.Tight (quote value) := by
  constructor
  · intro c first
    cases first
    decide
  · intro c last
    rw [quote, List.getLast?_concat] at last
    cases last
    decide

theorem unquote?_quote {value : List Char} (plain : IsPlain value) :
    ImportCall.unquote? (quote value) = some value := by
  rw [quote_of_isPlain plain, ImportCall.unquote?]
  simp [ImportCall.isQuote, plain.2.1]

end Lua

namespace Linker

variable {linker : Linker} {importer : String} {source : List Char} {linked : Linked}
  {call : ImportCall}

theorem link_eq_ok (result : (linker.link importer source).result = .ok linked) :
    let cuts := ImportCuts.ofSource linker.importFunction.toList source
    (∀ cut ∈ cuts.calls, linker.Resolves importer cut.2) ∧
      linked = ⟨cuts.rewrite fun call => linker.loaderCall (linker.handed importer call),
        cuts.calls.filterMap fun cut => linker.meaning? importer cut.2⟩ := by
  intro cuts
  have resolves : ∀ cut ∈ cuts.calls, linker.Resolves importer cut.2 := by
    by_contra unresolved
    obtain ⟨-, -, -, -, error, -, -, -, -, failed⟩ := result_linkCalls_of_unresolved unresolved
    cases result.symm.trans failed
  have linkedAs : (linker.link importer source).result = _ := result_linkCalls resolves
  exact ⟨resolves, Except.ok.inj (result.symm.trans linkedAs)⟩

theorem handed_of_literal {literal : List Char} {module : String}
    (isLiteral : call.literal? = some literal)
    (resolved : (linker.resolver.resolve importer (String.ofList literal)).result = .ok module) :
    linker.meaning? importer call = some module ∧
      linker.handed importer call = Lua.quote module.toList := by
  have meant : linker.meaning? importer call = some module := by
    simp [meaning?, isLiteral, resolved, Except.toOption]
  exact ⟨meant, by simp [handed, meant]⟩

theorem handed_of_dynamic (linker : Linker) (importer : String) (dynamic : call.literal? = none) :
    linker.meaning? importer call = none ∧ linker.handed importer call = call.argument := by
  have meant : linker.meaning? importer call = none := by simp [meaning?, dynamic]
  exact ⟨meant, by simp [handed, meant]⟩

/-- The loader's call that an import is replaced by, as an import call. -/
def relinked (linker : Linker) (importer : String) (call : ImportCall) : ImportCall :=
  ⟨[], linker.handed importer call⟩

theorem source_relinked (linker : Linker) (importer : String) (call : ImportCall) :
    (linker.relinked importer call).source linker.loaderName.toList =
      linker.loaderCall (linker.handed importer call) := by
  simp [relinked, ImportCall.source, loaderCall]

theorem argument_relinked (linker : Linker) (importer : String) (call : ImportCall) :
    (linker.relinked importer call).argument = linker.handed importer call := by
  apply Text.trim_eq_self
  simp only [relinked, handed]
  split
  · exact Lua.tight_quote _
  · exact Text.tight_trim _

/-- One call stands for another: with the quoted module if the other one imports a literal path,
and with the same argument if not. -/
def Replaces (linker : Linker) (importer : String) (call other : ImportCall) : Prop :=
  match call.literal? with
  | some literal => ∃ module,
      (linker.resolver.resolve importer (String.ofList literal)).result = .ok module ∧
        other.argument = Lua.quote module.toList
  | none => other.argument = call.argument

theorem replaces_relinked (resolves : linker.Resolves importer call) :
    linker.Replaces importer call (linker.relinked importer call) := by
  unfold Replaces
  rw [argument_relinked]
  split
  · next literal isLiteral =>
      obtain ⟨module, resolved⟩ := resolves literal isLiteral
      exact ⟨module, resolved, (handed_of_literal isLiteral resolved).2⟩
  · next dynamic => exact (handed_of_dynamic linker importer dynamic).2

theorem isWritten_relinked (resolves : linker.Resolves importer call) (written : call.IsWritten)
    (unclosed : ∀ module, linker.meaning? importer call = some module →
      ')' ∉ Lua.quote module.toList) : (linker.relinked importer call).IsWritten := by
  refine ⟨by simp [relinked], ?_⟩
  cases isLiteral : call.literal? with
  | none =>
      intro closing
      rw [relinked, (handed_of_dynamic linker importer isLiteral).2] at closing
      exact written.closed (Text.mem_of_mem_trim closing)
  | some literal =>
      obtain ⟨module, resolved⟩ := resolves literal isLiteral
      obtain ⟨meant, handed⟩ := handed_of_literal isLiteral resolved
      rw [relinked, handed]
      exact unclosed module meant

theorem literal?_relinked (resolves : linker.Resolves importer call)
    (plain : ∀ module, linker.meaning? importer call = some module → Lua.IsPlain module.toList) :
    (linker.relinked importer call).literal?.map String.ofList = linker.meaning? importer call := by
  rw [ImportCall.literal?, argument_relinked]
  cases isLiteral : call.literal? with
  | none =>
      obtain ⟨meant, handed⟩ := handed_of_dynamic linker importer isLiteral
      rw [meant, handed, ← ImportCall.literal?, isLiteral, Option.map_none]
  | some literal =>
      obtain ⟨module, resolved⟩ := resolves literal isLiteral
      obtain ⟨meant, handed⟩ := handed_of_literal isLiteral resolved
      rw [meant, handed, Lua.unquote?_quote (plain module meant), Option.map_some,
        String.ofList_toList]

/-- A linked source, scanned for the loader, is cut as the source was, with the loader's calls in
place of the imports. -/
theorem ofSource_link (solid : ImportCall.Solid linker.loaderName.toList)
    (same : linker.importFunction = linker.loaderName)
    (result : (linker.link importer source).result = .ok linked)
    (unclosed : ∀ module ∈ linked.dependencies, ')' ∉ Lua.quote module.toList) :
    ImportCuts.ofSource linker.loaderName.toList linked.text =
      (ImportCuts.ofSource linker.importFunction.toList source).mapCalls
        (linker.relinked importer) := by
  obtain ⟨resolves, rfl⟩ := link_eq_ok result
  have cut := ImportCuts.cuts_scan solid none source
  simp only [same, ← source_relinked] at resolves ⊢
  refine (cut.mapCalls solid ?_).eq_scan solid
  intro call mem
  refine isWritten_relinked (resolves call mem) (cut.isWritten call mem) fun module meant => ?_
  apply unclosed
  rw [same]
  exact List.mem_filterMap.2 ⟨call, mem, meant⟩

/-- If the loader has the name of the import function and no module met needs to be escaped or has a
closing parenthesis in its path, a linked source has one call for each call of the source, with the
quoted module where a literal path was and with the same argument where none was. So the literal
paths in it are the dependencies, one by one. -/
theorem link_rescan {linker : Linker} {importer : String} {source : List Char} {linked : Linked}
    (same : linker.importFunction = linker.loaderName)
    (spelled : Lua.isNameSpelling linker.loaderName.toList = true)
    (result : (linker.link importer source).result = .ok linked)
    (plain : ∀ module ∈ linked.dependencies,
      ∀ c ∈ [')', '"', '\\', '\r', '\n'], c ∉ module.toList) :
    let sites := ImportSite.find linker.importFunction.toList source
    let again := ImportSite.find linker.loaderName.toList linked.text
    List.Forall₂ (fun site other => linker.Replaces importer site.call other.call) sites again ∧
      again.filterMap (fun site => site.call.literal?.map String.ofList) =
        linked.dependencies := by
  have isPlain : ∀ module ∈ linked.dependencies, Lua.IsPlain module.toList := by
    intro module mem
    have absent := plain module mem
    exact ⟨absent _ (by simp), absent _ (by simp), absent _ (by simp), absent _ (by simp)⟩
  have unclosed : ∀ module ∈ linked.dependencies, ')' ∉ Lua.quote module.toList := by
    intro module mem
    rw [Lua.quote_of_isPlain (isPlain module mem)]
    simpa using plain module mem ')' (by simp)
  have cuts := ofSource_link (ImportCall.solid_of_isNameSpelling spelled) same result unclosed
  obtain ⟨resolves, linkedAs⟩ := link_eq_ok result
  have dependencies := congrArg Linked.dependencies linkedAs
  constructor
  · have related : List.Forall₂ (linker.Replaces importer)
        ((ImportSite.find linker.importFunction.toList source).map ImportSite.call)
        ((ImportSite.find linker.loaderName.toList linked.text).map ImportSite.call) := by
      rw [ImportSite.map_call_find, ImportSite.map_call_find, cuts, ImportCuts.mapCalls,
        List.map_map, List.forall₂_map_left_iff, List.forall₂_map_right_iff, List.forall₂_same]
      intro cut mem
      exact replaces_relinked (resolves cut mem)
    exact List.forall₂_map_right_iff.1 (List.forall₂_map_left_iff.1 related)
  · rw [ImportSite.filterMap_find _ _ fun call => call.literal?.map String.ofList, cuts,
      ImportCuts.mapCalls, List.filterMap_map, dependencies]
    apply List.filterMap_congr
    intro cut mem
    refine literal?_relinked (resolves cut mem) fun module meant => isPlain module ?_
    rw [dependencies]
    exact List.mem_filterMap.2 ⟨cut, mem, meant⟩

theorem link_rescan_mixed :
    ∃ (linker : Linker) (linked : Linked), linker = { belowRoot with loaderName := "use" } ∧
      (linker.link "m.lua" "use(use)use (\n'./a' )use(x )'use(1".toList).result = .ok linked ∧
      linked.dependencies = ["a.lua"] ∧
      (ImportSite.find "use".toList linked.text).length = 3 ∧
      (ImportSite.find "use".toList linked.text).filterMap
        (fun site => site.call.literal?.map String.ofList) = ["a.lua"] := by
  have found : (ImportSite.find "use".toList
      "use(use)use (\n'./a' )use(x )'use(1".toList).length = 3 := by decide +kernel
  have result : (Linker.link { belowRoot with loaderName := "use" } "m.lua"
      "use(use)use (\n'./a' )use(x )'use(1".toList).result =
        .ok ⟨"use(use)use(\"a.lua\")use(x)'use(1".toList, ["a.lua"]⟩ := by decide +kernel
  obtain ⟨replaced, literals⟩ := link_rescan rfl (by decide) result (by simp)
  exact ⟨_, _, rfl, result, rfl, replaced.length_eq ▸ found, literals⟩

end Linker

end LuaBundle
