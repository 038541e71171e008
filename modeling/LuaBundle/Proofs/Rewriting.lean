import LuaBundle.Proofs.CallCuts
import LuaBundle.Proofs.Linking
import LuaBundle.Proofs.Resolution

/-! # What linking writes

The sites of a source are byte ranges, so a source is its gaps with the texts of its sites set
between them. Linking sets other texts between the same gaps: one for each site, a call of the
loader. It fails with the error of the first literal site that does not resolve, and else its
dependencies are what the literal sites resolve to, in their order.
-/

namespace LuaBundle

namespace Text

/-- The part of a text from one byte offset to another. -/
def between (start stop : Nat) (s : List Char) : List Char :=
  takeBytes (stop - start) (dropBytes start s)

/-- Pieces set between gaps: a gap, a piece, the next gap and so on. -/
def weave : List (List Char) → List (List Char) → List Char
  | gap :: gaps, piece :: pieces => gap ++ piece ++ weave gaps pieces
  | gaps, _ => gaps.flatten

theorem takeBytes_byteLength (s rest : List Char) : takeBytes (byteLength s) (s ++ rest) = s := by
  induction s with
  | nil =>
      cases rest with
      | nil => rfl
      | cons c rest => simp [byteLength, takeBytes, c.utf8Size_pos]
  | cons c s ih => simp [byteLength, takeBytes, ih]

theorem dropBytes_byteLength (s rest : List Char) :
    dropBytes (byteLength s) (s ++ rest) = rest := by
  have whole := takeBytes_append_dropBytes (byteLength s) (s ++ rest)
  rwa [takeBytes_byteLength, List.append_cancel_left_eq] at whole

theorem between_byteLength (front s rest : List Char) :
    between (byteLength front) (byteLength front + byteLength s) (front ++ (s ++ rest)) = s := by
  rw [between, dropBytes_byteLength, Nat.add_sub_cancel_left, takeBytes_byteLength]

end Text

namespace ImportSite

variable {name : List Char} {calls : List (List Char × ImportCall)}

/-- What stands at a site. -/
def text (source : List Char) (site : ImportSite) : List Char :=
  Text.between site.start site.stop source

/-- What stands between sites, from an offset to the end of a source. -/
def gaps (source : List Char) (cursor : Nat) : List ImportSite → List (List Char)
  | [] => [Text.dropBytes cursor source]
  | site :: sites => Text.between cursor site.start source :: gaps source site.stop sites

theorem map_call_ofCalls (name : List Char) (offset : Nat)
    (calls : List (List Char × ImportCall)) :
    (ofCalls name offset calls).map call = calls.map Prod.snd := by
  induction calls generalizing offset with
  | nil => rfl
  | cons cut calls ih => rw [ofCalls, List.map_cons, ih, List.map_cons]

theorem map_call_find (name source : List Char) :
    (find name source).map call = (ImportCuts.ofSource name source).calls.map Prod.snd :=
  map_call_ofCalls name 0 _

theorem forall_find (name source : List Char) (p : ImportCall → Prop) :
    (∀ site ∈ find name source, p site.call) ↔
      ∀ cut ∈ (ImportCuts.ofSource name source).calls, p cut.2 := by
  rw [← List.forall_mem_map (f := call), map_call_find, List.forall_mem_map]

theorem filterMap_find {α : Type} (name source : List Char) (f : ImportCall → Option α) :
    (find name source).filterMap (fun site => f site.call) =
      (ImportCuts.ofSource name source).calls.filterMap fun cut => f cut.2 := by
  have same := congrArg (List.filterMap f) (map_call_find name source)
  rwa [List.filterMap_map, List.filterMap_map] at same

/-- The gaps and the texts at sites are what a source was cut into. -/
theorem pieces_ofCalls {source front tail : List Char}
    (whole : source = front ++ (ImportCuts.mk calls tail).rewrite (·.source name)) :
    gaps source (Text.byteLength front) (ofCalls name (Text.byteLength front) calls) =
        calls.map Prod.fst ++ [tail] ∧
      (ofCalls name (Text.byteLength front) calls).map (text source) =
        calls.map fun cut => cut.2.source name := by
  induction calls generalizing front with
  | nil => exact ⟨congrArg (· :: []) (whole ▸ Text.dropBytes_byteLength front tail), rfl⟩
  | cons cut calls ih =>
      obtain ⟨gap, call⟩ := cut
      rw [ImportCuts.rewrite_cons] at whole
      have here := whole ▸ Text.between_byteLength front gap _
      have behind : source = front ++ gap ++ (call.source name ++
          (ImportCuts.mk calls tail).rewrite (·.source name)) := by
        rw [whole, List.append_assoc]
      have there := behind ▸ Text.between_byteLength (front ++ gap) (call.source name) _
      obtain ⟨others, texts⟩ := @ih (front ++ gap ++ call.source name) (by simp [behind])
      simp only [Text.byteLength_append] at there others texts
      simp only [ofCalls, gaps, List.map_cons, List.cons_append, text, here, there, others, texts,
        and_self]

theorem weave_pieces (write : ImportCall → List Char) (tail : List Char)
    (calls : List (List Char × ImportCall)) :
    Text.weave (calls.map Prod.fst ++ [tail]) (calls.map fun cut => write cut.2) =
      (ImportCuts.mk calls tail).rewrite write := by
  induction calls with
  | nil => simp [Text.weave, ImportCuts.rewrite]
  | cons cut calls ih => simp [Text.weave, ImportCuts.rewrite_cons, ih]

/-- A source is its gaps with the texts of its sites between them, and other texts written for the
calls stand between the same gaps. -/
theorem weave_find (name source : List Char) (write : ImportCall → List Char) :
    Text.weave (gaps source 0 (find name source)) ((find name source).map (text source)) = source ∧
      Text.weave (gaps source 0 (find name source))
          ((find name source).map fun site => write site.call) =
        (ImportCuts.ofSource name source).rewrite write := by
  have whole : source = [] ++ (ImportCuts.ofSource name source).rewrite (·.source name) :=
    (ImportCuts.rewrite_scan name none source).symm
  have between : gaps source 0 (find name source) = _ := (pieces_ofCalls whole).1
  have texts : (find name source).map (text source) = _ := (pieces_ofCalls whole).2
  have written := congrArg (List.map write) (map_call_find name source)
  rw [List.map_map, List.map_map] at written
  rw [between, texts, weave_pieces (·.source name)]
  exact ⟨whole.symm, (congrArg _ written).trans (weave_pieces write _ _)⟩

end ImportSite

namespace Linker

variable {linker : Linker} {importer : String} {call : ImportCall} {tail : List Char}
  {calls : List (List Char × ImportCall)}

/-- A call imports no literal path, or one that resolves. -/
def Resolves (linker : Linker) (importer : String) (call : ImportCall) : Prop :=
  ∀ literal, call.literal? = some literal →
    ∃ module, (linker.resolver.resolve importer (String.ofList literal)).result = .ok module

theorem resolves_iff (linker : Linker) (importer : String) (call : ImportCall) :
    (∀ literal ∈ call.literal?,
      (linker.resolver.resolve importer (String.ofList literal)).result.isOk = true) ↔
      linker.Resolves importer call := by
  refine forall₂_congr fun literal _ => ?_
  cases (linker.resolver.resolve importer (String.ofList literal)).result with
  | error error => simp [Except.isOk, Except.toBool]
  | ok module => simp [Except.isOk, Except.toBool]

instance (linker : Linker) (importer : String) (call : ImportCall) :
    Decidable (linker.Resolves importer call) :=
  decidable_of_iff _ (resolves_iff linker importer call)

/-- The module that a literal import means. -/
def meaning? (linker : Linker) (importer : String) (call : ImportCall) : Option String :=
  call.literal?.bind fun literal =>
    (linker.resolver.resolve importer (String.ofList literal)).result.toOption

/-- What the loader is called with in place of an import: the quoted module if it is a literal one,
and its own argument if not. -/
def handed (linker : Linker) (importer : String) (call : ImportCall) : List Char :=
  match linker.meaning? importer call with
  | some module => Lua.quote module.toList
  | none => call.argument

theorem result_linkCall (resolves : linker.Resolves importer call) :
    (linker.linkCall importer call).result =
      .ok (linker.loaderCall (linker.handed importer call),
        (linker.meaning? importer call).toList) := by
  cases literal : call.literal? with
  | none => simp [linkCall, handed, meaning?, literal, Traced.pure]
  | some path =>
      obtain ⟨module, resolved⟩ := resolves path literal
      simp only [linkCall, literal]
      apply Traced.result_bind_eq_ok.2
      refine ⟨module, resolved, ?_⟩
      simp [handed, meaning?, literal, resolved, Except.toOption, Traced.pure]

theorem result_linkCalls (resolves : ∀ cut ∈ calls, linker.Resolves importer cut.2) :
    (linker.linkCalls importer tail calls).result = .ok
      ⟨(ImportCuts.mk calls tail).rewrite fun call =>
          linker.loaderCall (linker.handed importer call),
        calls.filterMap fun cut => linker.meaning? importer cut.2⟩ := by
  induction calls with
  | nil => rfl
  | cons cut calls ih =>
      obtain ⟨here, later⟩ := List.forall_mem_cons.1 resolves
      apply Traced.result_bind_eq_ok.2
      refine ⟨_, result_linkCall here, Traced.result_bind_eq_ok.2 ⟨_, ih later, ?_⟩⟩
      rw [ImportCuts.rewrite_cons, List.filterMap_cons]
      cases linker.meaning? importer cut.2 <;> simp [Traced.pure]

/-- If some call does not resolve, linking ends at the leftmost one, with its error. -/
theorem result_linkCalls_of_unresolved
    (unresolved : ¬∀ cut ∈ calls, linker.Resolves importer cut.2) :
    ∃ front cut back literal error, calls = front ++ cut :: back ∧
      (∀ earlier ∈ front, linker.Resolves importer earlier.2) ∧ cut.2.literal? = some literal ∧
      (linker.resolver.resolve importer (String.ofList literal)).result = .error error ∧
      (linker.linkCalls importer tail calls).result = .error error := by
  induction calls with
  | nil => exact absurd (by simp) unresolved
  | cons cut calls ih =>
      by_cases here : linker.Resolves importer cut.2
      · have later : ¬∀ cut ∈ calls, linker.Resolves importer cut.2 := by
          intro all
          exact unresolved (List.forall_mem_cons.2 ⟨here, all⟩)
        obtain ⟨front, other, back, literal, error, rfl, earlier, isLiteral, failed, result⟩ :=
          ih later
        refine ⟨cut :: front, other, back, literal, error, rfl, ?_, isLiteral, failed, ?_⟩
        · exact List.forall_mem_cons.2 ⟨here, earlier⟩
        · apply Traced.result_bind_eq_error.2
          exact .inr ⟨_, result_linkCall here, Traced.result_bind_eq_error.2 (.inl result)⟩
      · obtain ⟨literal, isLiteral, none⟩ : ∃ literal, cut.2.literal? = some literal ∧
            ∀ module, (linker.resolver.resolve importer (String.ofList literal)).result ≠
              .ok module := by
          simpa [Resolves] using here
        cases result : (linker.resolver.resolve importer (String.ofList literal)).result with
        | ok module => exact absurd result (none module)
        | error error =>
            refine ⟨[], cut, calls, literal, error, rfl, by simp, isLiteral, result, ?_⟩
            apply Traced.result_bind_eq_error.2
            left
            simp only [linkCall, isLiteral]
            exact Traced.result_bind_eq_error.2 (.inl result)

theorem link_of_resolves {source : List Char} {sites : List ImportSite}
    (found : ImportSite.find linker.importFunction.toList source = sites)
    (resolves : ∀ site ∈ sites, linker.Resolves importer site.call) :
    (linker.link importer source).result = .ok
      ⟨Text.weave (ImportSite.gaps source 0 sites) (sites.map fun site =>
          linker.loaderCall (linker.handed importer site.call)),
        sites.filterMap fun site => linker.meaning? importer site.call⟩ := by
  subst found
  have woven := ImportSite.weave_find linker.importFunction.toList source fun call =>
    linker.loaderCall (linker.handed importer call)
  rw [woven.2, ImportSite.filterMap_find]
  exact result_linkCalls ((ImportSite.forall_find _ _ (linker.Resolves importer)).1 resolves)

theorem link_of_unresolved {source : List Char}
    (unresolved : ¬∀ site ∈ ImportSite.find linker.importFunction.toList source,
      linker.Resolves importer site.call) :
    ∃ front site back literal error,
      ImportSite.find linker.importFunction.toList source = front ++ site :: back ∧
      (∀ earlier ∈ front, linker.Resolves importer earlier.call) ∧
      site.call.literal? = some literal ∧
      (linker.resolver.resolve importer (String.ofList literal)).result = .error error ∧
      (linker.link importer source).result = .error error := by
  rw [ImportSite.forall_find _ _ (linker.Resolves importer)] at unresolved
  obtain ⟨front, cut, back, literal, error, split, earlier, isLiteral, failed, result⟩ :=
    result_linkCalls_of_unresolved unresolved
  -- The sites fall into the same three parts as the calls they are for.
  have calls := ImportSite.map_call_find linker.importFunction.toList source
  rw [split, List.map_append, List.map_cons] at calls
  obtain ⟨before, rest, whole, same, cons⟩ := List.map_eq_append_iff.1 calls
  obtain ⟨site, after, rfl, here, -⟩ := List.map_eq_cons_iff.1 cons
  refine ⟨before, site, after, literal, error, whole, ?_, here ▸ isLiteral, failed, result⟩
  rw [← List.forall_mem_map (f := ImportSite.call), same, List.forall_mem_map]
  exact earlier

/-- A source is linked by setting, between the gaps of its import calls, a call of the loader for
each of them: with the quoted module for a literal path, with the argument as it is for any other.
The dependencies are the modules meant, in the order of the calls. If some literal path does not
resolve, the error is that of the leftmost one, and it names the importer. -/
theorem link_weaves (linker : Linker) (importer : String) (source : List Char) :
    let sites := ImportSite.find linker.importFunction.toList source
    let gaps := ImportSite.gaps source 0 sites
    source = Text.weave gaps (sites.map (·.text source)) ∧
    ((∀ site ∈ sites, linker.Resolves importer site.call) →
      (linker.link importer source).result = .ok
        ⟨Text.weave gaps (sites.map fun site =>
            linker.loaderName.toList ++ '(' :: linker.handed importer site.call ++ [')']),
          sites.filterMap fun site => linker.meaning? importer site.call⟩) ∧
    (¬(∀ site ∈ sites, linker.Resolves importer site.call) →
      ∃ front site back literal candidates, sites = front ++ site :: back ∧
        (∀ earlier ∈ front, linker.Resolves importer earlier.call) ∧
        site.call.literal? = some literal ∧
        (linker.resolver.resolve importer (String.ofList literal)).result =
          .error (.moduleNotFound (String.ofList literal) candidates importer) ∧
        (linker.link importer source).result =
          .error (.moduleNotFound (String.ofList literal) candidates importer)) ∧
    (sites = [] → (linker.link importer source).result = .ok ⟨source, []⟩) := by
  intro sites gaps
  have lossless := (ImportSite.weave_find linker.importFunction.toList source (·.argument)).1
  refine ⟨lossless.symm, link_of_resolves rfl, ?_, ?_⟩
  · intro unresolved
    obtain ⟨front, site, back, literal, error, whole, earlier, isLiteral, failed, result⟩ :=
      link_of_unresolved unresolved
    obtain rfl := Resolver.error_of_resolve failed
    exact ⟨front, site, back, literal, _, whole, earlier, isLiteral, failed, result⟩
  · intro none
    have whole : Text.weave gaps (sites.map (·.text source)) = source := lossless
    simp only [gaps, none, List.map_nil] at whole
    have result : (linker.link importer source).result = _ := link_of_resolves none (by simp)
    rw [result, List.map_nil, List.filterMap_nil, whole]

/-- Imports that are called `use`, from modules below the root. -/
def belowRoot : Linker :=
  ⟨.ofBase ⟨"/"⟩ [".lua"] (Files.view (.ofList [(⟨"/a.lua"⟩, ""), (⟨"/d/b.lua"⟩, "")])), "use",
    "import"⟩

theorem link_weaves_mixed :
    (belowRoot.link "m.lua" "é use (\n'./a' )use(x )use('d/b')--use".toList).result =
        .ok ⟨"é import(\"a.lua\")import(x)import(\"d/b.lua\")--use".toList,
          ["a.lua", "d/b.lua"]⟩ ∧
      ∃ front site back, ImportSite.find "use".toList "use('a')use('./c')use('b')".toList =
          front ++ site :: back ∧
        site.call.literal? = some "./c".toList ∧
        (∀ earlier ∈ front, belowRoot.Resolves "m.lua" earlier.call) ∧
        (belowRoot.link "m.lua" "use('a')use('./c')use('b')".toList).result =
          .error (.moduleNotFound "./c" ["c.lua"] "m.lua") := by
  obtain ⟨-, linked, -, -⟩ :=
    link_weaves belowRoot "m.lua" "é use (\n'./a' )use(x )use('d/b')--use".toList
  obtain ⟨-, -, unlinked, -⟩ := link_weaves belowRoot "m.lua" "use('a')use('./c')use('b')".toList
  obtain ⟨front, site, back, literal, candidates, split, earlier, isLiteral, -, failed⟩ :=
    unlinked (by decide +kernel)
  have error : (belowRoot.link "m.lua" "use('a')use('./c')use('b')".toList).result =
      .error (.moduleNotFound "./c" ["c.lua"] "m.lua") := by decide +kernel
  refine ⟨(linked (by decide +kernel)).trans (by decide +kernel), front, site, back, split, ?_,
    earlier, error⟩
  rw [error] at failed
  injection failed with failed
  injection failed with literal
  rw [isLiteral, literal, String.toList_ofList]

end Linker

end LuaBundle
