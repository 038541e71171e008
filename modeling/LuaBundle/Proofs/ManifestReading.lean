import LuaBundle.Manifest
import LuaBundle.Proofs.Discovery
import LuaBundle.Proofs.Json.Reading

/-! # A written manifest is read back

Every manifest comes back from its text as it was written, whatever its strings hold and in whatever
order its modules stand. Only the keys of the modules must differ: of two modules under one key the
reader keeps one. A manifest made of a build has no key twice.
-/

namespace LuaBundle

open Json (Reader gap_blank gap_newline pretty reads_pretty_string reads_pretty_strings)
open Json.Reader

/-- An entry's fields are read in the order they are written, which gives both. -/
theorem ManifestEntry.reads_pretty (level : Nat) (entry : ManifestEntry) :
    (Reader.record ManifestEntry.shape).Reads (pretty level entry.toJson) entry := by
  rw [ManifestEntry.toJson, Json.pretty_object]
  refine reads_record (gap_newline _) (gap_newline _) (?_ : FieldsRead _ _ _
    (⟨some entry.hash, some entry.dependencies⟩ : ManifestEntryDraft)) rfl
  refine .cons (fieldReads_take rfl gap_blank ((reads_pretty_string _ _).map _)) ?_
  refine .cons (fieldReads_take rfl gap_blank ((reads_pretty_strings _ _).map _)) ?_
  exact .nil

namespace Manifest

theorem reads_pretty (level : Nat) (manifest : Manifest)
    (distinct : (manifest.modules.map Prod.fst).Nodup) :
    (Reader.record Manifest.shape).Reads (pretty level manifest.toJson) manifest := by
  rw [Manifest.toJson, Json.pretty_object]
  refine reads_record (gap_newline _) (gap_newline _) (?_ : FieldsRead _ _ _
    (⟨some manifest.tool, some manifest.version, some manifest.generatedAt, some manifest.entry,
      some manifest.entryDependencies, some manifest.modules⟩ : ManifestDraft)) rfl
  refine .cons (fieldReads_take rfl gap_blank ((reads_pretty_string _ _).map _)) ?_
  refine .cons (fieldReads_take rfl gap_blank ((reads_pretty_string _ _).map _)) ?_
  refine .cons (fieldReads_take rfl gap_blank ((reads_pretty_string _ _).map _)) ?_
  refine .cons (fieldReads_take rfl gap_blank ((reads_pretty_string _ _).map _)) ?_
  refine .cons (fieldReads_take rfl gap_blank ((reads_pretty_strings _ _).map _)) ?_
  refine .cons (fieldReads_take rfl gap_blank (Reads.map _ ?_)) .nil
  -- The modules' keys are no fields of a record: they are collected, so they must not repeat.
  rw [Json.pretty_object, List.map_map]
  apply reads_dictionary (fun entry => pretty (level + 1 + 1) entry.toJson) (gap_newline _)
    (gap_newline _) gap_blank _ distinct
  intro module _
  exact ManifestEntry.reads_pretty _ module.2

/-- A manifest is read back from its text as it was written, its modules in the same order. -/
theorem parse_render (manifest : Manifest) (distinct : (manifest.modules.map Prod.fst).Nodup) :
    Manifest.parse manifest.render = .ok manifest :=
  (reads_pretty 0 manifest distinct).parse

theorem parse_render_odd_texts :
    let manifest : Manifest := {
      tool := "\"tool\"", version := "\\u0031", generatedAt := "a\nb\t\x00\x1f\x7f"
      entry := "", entryDependencies := []
      modules := [("é/日本.luau", ⟨"\x7b\x7d", ["a", "b", "a"]⟩), ("", ⟨"😀", []⟩)] }
    (manifest.modules.map Prod.fst).Nodup ∧ Manifest.parse manifest.render = .ok manifest := by
  intro manifest
  have distinct : (manifest.modules.map Prod.fst).Nodup := by decide
  exact ⟨distinct, parse_render manifest distinct⟩

end Manifest

theorem Builder.parse_manifest_of_build {builder : Builder} {entry : Path} {graph : ModuleGraph}
    (rooted : builder.resolver.Rooted) (built : (builder.build entry).result = .ok graph)
    (made : Instant) :
    Manifest.parse (Manifest.ofGraph graph made).render = .ok (Manifest.ofGraph graph made) := by
  have distinct : ((Manifest.ofGraph graph made).modules.map Prod.fst).Nodup := by
    rw [Manifest.ofGraph, List.map_map]
    exact nodup_keys rooted built
  exact (Manifest.reads_pretty 0 _ distinct).parse

end LuaBundle
