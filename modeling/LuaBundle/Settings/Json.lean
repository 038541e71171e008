import LuaBundle.Json.Reader
import LuaBundle.Json.Value
import LuaBundle.Settings.Draft

/-! # Settings in JSON

Fields are named as in the table of settings and come in that order when settings are written. In a
file they may come in any order, and any may be left out.
-/

namespace LuaBundle

open Json (Reader)
open Json.Reader (FieldShape RecordShape)

/-- How the bridge's settings are read. -/
def BridgeSettings.shape : RecordShape BridgeDraft BridgeSettings where
  title := "struct BridgeOptions"
  start := {}
  fields := [
    ⟨"enabled", (·.enabled.isSome),
      fun draft => Reader.bool.map fun value => { draft with enabled := some value }⟩,
    ⟨"name", (·.name.isSome),
      fun draft => Reader.string.map fun value => { draft with name := some value }⟩,
    ⟨"loader", (·.loader.isSome),
      fun draft => Reader.string.map fun value => { draft with loader := some value }⟩,
    ⟨"getIdentity", (·.getIdentity.isSome),
      fun draft => Reader.string.map fun value => { draft with getIdentity := some value }⟩,
    ⟨"setIdentity", (·.setIdentity.isSome),
      fun draft => Reader.string.map fun value => { draft with setIdentity := some value }⟩,
    ⟨"identity", (·.identity.isSome),
      fun draft => Reader.uint32.map fun value => { draft with identity := some value }⟩]
  finish draft := .ok draft.complete

/-- How settings are read. -/
def Settings.shape : RecordShape SettingsDraft Settings where
  title := "struct BundlerConfig"
  start := {}
  fields := [
    ⟨"extensions", (·.extensions.isSome),
      fun draft => (Reader.list Reader.string).map fun value =>
        { draft with extensions := some value }⟩,
    ⟨"importFunction", (·.importFunction.isSome),
      fun draft => Reader.string.map fun value => { draft with importFunction := some value }⟩,
    ⟨"loaderName", (·.loaderName.isSome),
      fun draft => Reader.string.map fun value => { draft with loaderName := some value }⟩,
    ⟨"header", (·.header.isSome),
      fun draft => Reader.bool.map fun value => { draft with header := some value }⟩,
    ⟨"typeWarnings", (·.typeWarnings.isSome),
      fun draft => Reader.bool.map fun value => { draft with typeWarnings := some value }⟩,
    ⟨"bridge", (·.bridge.isSome),
      fun draft => (Reader.record BridgeSettings.shape).map fun value =>
        { draft with bridge := some value }⟩,
    ⟨"pretty", (·.pretty.isSome),
      fun draft => Reader.bool.map fun value => { draft with pretty := some value }⟩]
  finish draft := .ok draft.complete

/-- The settings that a JSON text gives. -/
def Settings.ofJson (text : String) : Except Json.Fault Settings :=
  (Reader.record Settings.shape).parse text

/-- The bridge's settings as a JSON value. -/
def BridgeSettings.toJson (bridge : BridgeSettings) : Json :=
  .object [
    ("enabled", .bool bridge.enabled),
    ("name", .string bridge.name),
    ("loader", .string bridge.loader),
    ("getIdentity", .string bridge.getIdentity),
    ("setIdentity", .string bridge.setIdentity),
    ("identity", .number bridge.identity.toNat)]

/-- Settings as a JSON value. -/
def Settings.toJson (settings : Settings) : Json :=
  .object [
    ("extensions", .list (settings.extensions.map .string)),
    ("importFunction", .string settings.importFunction),
    ("loaderName", .string settings.loaderName),
    ("header", .bool settings.header),
    ("typeWarnings", .bool settings.typeWarnings),
    ("bridge", settings.bridge.toJson),
    ("pretty", .bool settings.pretty)]

/-- Settings as a JSON text on one line. -/
def Settings.renderJson (settings : Settings) : String :=
  String.ofList settings.toJson.compact

end LuaBundle
