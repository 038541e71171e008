import LuaBundle.Proofs.Json.Records
import LuaBundle.Settings.Json

/-! # Settings are read back from every text that gives them

A settings file gives settings in any order, leaves out what is as in the defaults and may hold
fields of other tools. The reader's drafts hold the settings whose names have been met, so they are
followed field by field, and completing the last draft fills in what was left out.
-/

namespace LuaBundle

open Json (Gives Reader)

/-! ## Drafts of known settings -/

/-- A setting, if its name is known. -/
def ifKnown {α : Type} (known : List String) (name : String) (value : α) : Option α :=
  if name ∈ known then some value else none

theorem getD_ifKnown {α : Type} {known : List String} {name : String} {value default : α}
    (given : name ∈ known ∨ value = default) :
    (ifKnown known name value).getD default = value := by
  unfold ifKnown
  split
  · rfl
  · next unknown => exact (given.resolve_left unknown).symm

/-- The draft that holds the bridge's settings with known names. -/
def BridgeSettings.draft (bridge : BridgeSettings) (known : List String) : BridgeDraft where
  enabled := ifKnown known "enabled" bridge.enabled
  name := ifKnown known "name" bridge.name
  loader := ifKnown known "loader" bridge.loader
  getIdentity := ifKnown known "getIdentity" bridge.getIdentity
  setIdentity := ifKnown known "setIdentity" bridge.setIdentity
  identity := ifKnown known "identity" bridge.identity

/-- The draft that holds the settings with known names. -/
def Settings.draft (settings : Settings) (known : List String) : SettingsDraft where
  extensions := ifKnown known "extensions" settings.extensions
  importFunction := ifKnown known "importFunction" settings.importFunction
  loaderName := ifKnown known "loaderName" settings.loaderName
  header := ifKnown known "header" settings.header
  typeWarnings := ifKnown known "typeWarnings" settings.typeWarnings
  bridge := ifKnown known "bridge" settings.bridge
  pretty := ifKnown known "pretty" settings.pretty

namespace BridgeSettings

theorem toJson_injective : Function.Injective toJson := by
  intro a b same
  cases a
  cases b
  simp only [toJson, Json.object.injEq, List.cons.injEq, Prod.mk.injEq, Json.bool.injEq,
    Json.string.injEq, Json.number.injEq, Int.natCast_inj, UInt32.toNat_inj, true_and,
    and_true] at same
  obtain ⟨rfl, rfl, rfl, rfl, rfl, rfl⟩ := same
  rfl

/-- The bridge's settings are read from every text that gives them. -/
theorem reads_gives {bridge : BridgeSettings} {text : List Char}
    (gives : Gives ({} : BridgeSettings).toJson bridge.toJson text) :
    (Reader.record shape).Reads text bridge := by
  refine Json.reads_record_of_gives (rfl : bridge.draft [] = {}) rfl (by decide) ?_ ?_ gives
  · -- Each field is read into the draft that knows one name more.
    simp only [List.zip_cons_cons, List.zip_nil_right, List.forall_mem_cons]
    refine ⟨Json.follows_of_reads rfl ?_ fun _ => Gives.reads_bool,
      Json.follows_of_reads rfl ?_ fun _ => Gives.reads_string,
      Json.follows_of_reads rfl ?_ fun _ => Gives.reads_string,
      Json.follows_of_reads rfl ?_ fun _ => Gives.reads_string,
      Json.follows_of_reads rfl ?_ fun _ => Gives.reads_string,
      Json.follows_of_reads rfl ?_ fun _ => Gives.reads_uint32, by simp⟩
    all_goals
      intro known unknown
      simp [draft, ifKnown, unknown]
  · -- What the last draft does not know is as in the defaults, and so completed rightly.
    intro known given
    simp only [List.zip_cons_cons, List.zip_nil_right, List.forall_mem_cons, Json.bool.injEq,
      Json.string.injEq, Json.number.injEq, Int.natCast_inj, UInt32.toNat_inj] at given
    obtain ⟨enabled, name, loader, getIdentity, setIdentity, identity, -⟩ := given
    simp only [shape, BridgeDraft.complete, draft, getD_ifKnown enabled, getD_ifKnown name,
      getD_ifKnown loader, getD_ifKnown getIdentity, getD_ifKnown setIdentity,
      getD_ifKnown identity]

theorem gives_compact (bridge : BridgeSettings) :
    Gives ({} : BridgeSettings).toJson bridge.toJson bridge.toJson.compact := by
  refine Json.gives_compact_object rfl ?_
  simp only [List.zip_cons_cons, List.zip_nil_right, List.forall_mem_cons]
  refine ⟨?_, ?_, ?_, ?_, ?_, ?_, by simp⟩
  all_goals exact .plain nofun (.inl rfl)

end BridgeSettings

namespace Settings

theorem reads_gives {settings : Settings} {text : List Char}
    (gives : Gives ({} : Settings).toJson settings.toJson text) :
    (Reader.record shape).Reads text settings := by
  refine Json.reads_record_of_gives (rfl : settings.draft [] = {}) rfl (by decide) ?_ ?_ gives
  · simp only [List.zip_cons_cons, List.zip_nil_right, List.forall_mem_cons]
    refine ⟨Json.follows_of_reads rfl ?_ fun _ => Gives.reads_strings,
      Json.follows_of_reads rfl ?_ fun _ => Gives.reads_string,
      Json.follows_of_reads rfl ?_ fun _ => Gives.reads_string,
      Json.follows_of_reads rfl ?_ fun _ => Gives.reads_bool,
      Json.follows_of_reads rfl ?_ fun _ => Gives.reads_bool,
      Json.follows_of_reads rfl ?_ fun _ => BridgeSettings.reads_gives,
      Json.follows_of_reads rfl ?_ fun _ => Gives.reads_bool, by simp⟩
    all_goals
      intro known unknown
      simp [draft, ifKnown, unknown]
  · intro known given
    have strings : Function.Injective (List.map Json.string) :=
      List.map_injective_iff.2 fun _ _ => Json.string.inj
    simp only [List.zip_cons_cons, List.zip_nil_right, List.forall_mem_cons, Json.bool.injEq,
      Json.string.injEq, Json.list.injEq, strings.eq_iff,
      BridgeSettings.toJson_injective.eq_iff] at given
    obtain ⟨extensions, importFunction, loaderName, header, typeWarnings, bridge, pretty, -⟩ :=
      given
    simp only [shape, SettingsDraft.complete, draft, getD_ifKnown extensions,
      getD_ifKnown importFunction, getD_ifKnown loaderName, getD_ifKnown header,
      getD_ifKnown typeWarnings, getD_ifKnown bridge, getD_ifKnown pretty]

theorem gives_compact (settings : Settings) :
    Gives ({} : Settings).toJson settings.toJson settings.toJson.compact := by
  refine Json.gives_compact_object rfl ?_
  simp only [List.zip_cons_cons, List.zip_nil_right, List.forall_mem_cons]
  refine ⟨?_, ?_, ?_, ?_, ?_, settings.bridge.gives_compact, ?_, by simp⟩
  all_goals exact .plain nofun (.inl rfl)

/-- Settings are read back from every text that gives them, on whatever level fields are left out,
moved or added. The text they are written to is one. -/
theorem ofJson_of_gives (settings : Settings) :
    (∀ text, Gives ({} : Settings).toJson settings.toJson text →
      ofJson (String.ofList text) = .ok settings) ∧
    ofJson settings.renderJson = .ok settings := by
  constructor
  · intro text gives
    exact (reads_gives gives).parse
  · exact (reads_gives settings.gives_compact).parse

theorem ofJson_of_gives_shuffled :
    let settings : Settings := { header := false, bridge := { enabled := false, identity := 7 } }
    let text := "\x7b\"name\": -1.5e3,\"bridge\": ".toList ++
      ("\x7b\"identity\":7,\"bridge\":\x7b\x7d,\"enabled\":false\x7d".toList ++
        ",\"header\": false\x7d".toList)
    Gives ({} : Settings).toJson settings.toJson text ∧
      ofJson (String.ofList text) = .ok settings := by
  intro settings text
  have number : Json.IsNumber "-1.5e3".toList :=
    .mk (by simp : ['-'] ∈ _) (.digits rfl (by decide) (by simp) : Json.IsWhole ['1'])
      (.digits rfl (by simp) : Json.IsFraction ['.', '5'])
      (.digits (.inl rfl) (by simp : [] ∈ _) rfl (by simp) : Json.IsExponent ['e', '3'])
  have bridge : Gives ({} : BridgeSettings).toJson settings.bridge.toJson
      "\x7b\"identity\":7,\"bridge\":\x7b\x7d,\"enabled\":false\x7d".toList := by
    refine @Gives.object [⟨"enabled", .bool true, .bool false, some "false".toList⟩,
      ⟨"name", .string "game_require", .string "game_require", none⟩,
      ⟨"loader", .string "require", .string "require", none⟩,
      ⟨"getIdentity", .string "getthreadidentity", .string "getthreadidentity", none⟩,
      ⟨"setIdentity", .string "setthreadidentity", .string "setthreadidentity", none⟩,
      ⟨"identity", .number 2, .number 7, some "7".toList⟩] [("bridge", "\x7b\x7d".toList)]
      [("identity", "7".toList), ("bridge", "\x7b\x7d".toList), ("enabled", "false".toList)]
      [] [] [] ?_ ?_ ?_ (by decide) Json.gap_nil Json.gap_nil Json.gap_nil
    · simp
    · simp only [List.forall_mem_cons]
      refine ⟨?_, ?_, ?_, ?_, ?_, ?_, by simp⟩
      all_goals rintro text ⟨⟩
      all_goals exact .plain nofun (.inl rfl)
    · simpa using .empty .object Json.gap_nil
  have gives : Gives ({} : Settings).toJson settings.toJson text := by
    refine @Gives.object [
      ⟨"extensions", .list [.string ".luau", .string ".lua"],
        .list [.string ".luau", .string ".lua"], none⟩,
      ⟨"importFunction", .string "import", .string "import", none⟩,
      ⟨"loaderName", .string "import", .string "import", none⟩,
      ⟨"header", .bool true, .bool false, some "false".toList⟩,
      ⟨"typeWarnings", .bool true, .bool true, none⟩,
      ⟨"bridge", ({} : BridgeSettings).toJson, settings.bridge.toJson,
        some "\x7b\"identity\":7,\"bridge\":\x7b\x7d,\"enabled\":false\x7d".toList⟩,
      ⟨"pretty", .bool true, .bool true, none⟩] [("name", "-1.5e3".toList)]
      [("name", "-1.5e3".toList),
        ("bridge", "\x7b\"identity\":7,\"bridge\":\x7b\x7d,\"enabled\":false\x7d".toList),
        ("header", "false".toList)]
      [] [] [' '] ?_ ?_ ?_ (by decide) Json.gap_nil Json.gap_nil Json.gap_blank
    · simp
    · simp only [List.forall_mem_cons]
      refine ⟨?_, ?_, ?_, ?_, ?_, ?_, ?_, by simp⟩
      all_goals rintro text ⟨⟩
      · exact .plain nofun (.inl rfl)
      · exact bridge
    · simpa using .number number
  exact ⟨gives, (ofJson_of_gives settings).1 text gives⟩

end Settings

end LuaBundle
