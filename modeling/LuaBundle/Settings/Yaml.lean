import LuaBundle.Settings.Draft
import LuaBundle.Yaml.Node

/-! # Settings in YAML

Settings are a mapping from the names of the table of settings. What a setting is decides how its
node is read: a text takes any scalar as it stands, truth values and numbers are plain, and where a
list or a mapping is due, nothing at all is an empty one.
-/

namespace LuaBundle

open Yaml (Document Node ScalarStyle)

namespace Yaml

/-- The text of a scalar. -/
def Document.text? (document : Document) (node : Node) : Option (List Char) :=
  match document.meaning node with
  | .scalar text _ _ => some text
  | _ => none

/-- The text of a scalar that is not a text by its style: a plain one, or a literal one whose tag
says what it is. -/
def Document.bare? (document : Document) (kind : String) (node : Node) : Option (List Char) :=
  match document.meaning node with
  | .scalar text .plain _ => some text
  | .scalar text .literal (some tag) =>
    if tag = "tag:yaml.org,2002:".toList ++ kind.toList then some text else none
  | _ => none

/-- The truth value of a node. -/
def Document.bool? (document : Document) (node : Node) : Option Bool :=
  match (document.bare? "bool" node).map String.ofList with
  | some "true" | some "True" | some "TRUE" => some true
  | some "false" | some "False" | some "FALSE" => some false
  | _ => none

/-- The string of a node. -/
def Document.string? (document : Document) (node : Node) : Option String :=
  (document.text? node).map String.ofList

/-- The number that digits write in a base of at most sixteen. -/
def digits? (base : Nat) (digits : List Char) : Option Nat :=
  if digits.isEmpty then none
  else
    let push (n : Nat) (c : Char) : Option Nat :=
      (hexValue? c).bind fun digit => if digit < base then some (n * base + digit) else none
    digits.foldlM push 0

/-- The natural number that a text writes. A zero in front is only allowed in a base other than
ten. -/
def natural? (text : List Char) : Option Nat :=
  let unsigned :=
    match text with
    | '+' :: rest => rest
    | _ => text
  match unsigned with
  | '0' :: 'x' :: digits => digits? 16 digits
  | '0' :: 'o' :: digits => digits? 8 digits
  | '0' :: 'b' :: digits => digits? 2 digits
  | '0' :: _ :: _ => none
  | digits => digits? 10 digits

/-- The number of 32 bits that a node is. -/
def Document.uint32? (document : Document) (node : Node) : Option UInt32 :=
  match (document.bare? "int" node).bind natural? with
  | some n => if n < UInt32.size then some (UInt32.ofNat n) else none
  | none => none

/-- The strings of a sequence. -/
def Document.strings? (document : Document) (node : Node) : Option (List String) :=
  match document.meaning node with
  | .sequence items => items.mapM document.string?
  | .scalar [] .plain _ => some []
  | _ => none

/-- The entries of a mapping, with the names that its keys are. -/
def Document.fields? (document : Document) (node : Node) : Option (List (String × Node)) :=
  match document.meaning node with
  | .mapping entries =>
    entries.mapM fun (key, value) => (document.string? key).map (·, value)
  | .scalar [] .plain _ => some []
  | _ => none

/-- Read one setting, which may be given once only. -/
def once {α : Type} (known : Option α) (found : Option α) : Option (Option α) :=
  if known.isSome then none else found.map some

end Yaml

open Yaml (once)

/-- Take a field of the bridge's settings. -/
def BridgeDraft.addField (document : Document) (draft : BridgeDraft) (field : String × Node) :
    Option BridgeDraft :=
  let (name, node) := field
  match name with
  | "enabled" =>
    (once draft.enabled (document.bool? node)).map fun value => { draft with enabled := value }
  | "name" =>
    (once draft.name (document.string? node)).map fun value => { draft with name := value }
  | "loader" =>
    (once draft.loader (document.string? node)).map fun value => { draft with loader := value }
  | "getIdentity" =>
    (once draft.getIdentity (document.string? node)).map fun value =>
      { draft with getIdentity := value }
  | "setIdentity" =>
    (once draft.setIdentity (document.string? node)).map fun value =>
      { draft with setIdentity := value }
  | "identity" =>
    (once draft.identity (document.uint32? node)).map fun value => { draft with identity := value }
  | _ => some draft

/-- The bridge's settings that a node gives. -/
def BridgeSettings.ofNode? (document : Document) (node : Node) : Option BridgeSettings :=
  (document.fields? node).bind fun fields =>
    (fields.foldlM (BridgeDraft.addField document) {}).map (·.complete)

/-- Take a field of the settings. -/
def SettingsDraft.addField (document : Document) (draft : SettingsDraft) (field : String × Node) :
    Option SettingsDraft :=
  let (name, node) := field
  match name with
  | "extensions" =>
    (once draft.extensions (document.strings? node)).map fun value =>
      { draft with extensions := value }
  | "importFunction" =>
    (once draft.importFunction (document.string? node)).map fun value =>
      { draft with importFunction := value }
  | "loaderName" =>
    (once draft.loaderName (document.string? node)).map fun value =>
      { draft with loaderName := value }
  | "header" =>
    (once draft.header (document.bool? node)).map fun value => { draft with header := value }
  | "typeWarnings" =>
    (once draft.typeWarnings (document.bool? node)).map fun value =>
      { draft with typeWarnings := value }
  | "bridge" =>
    (once draft.bridge (BridgeSettings.ofNode? document node)).map fun value =>
      { draft with bridge := value }
  | "pretty" =>
    (once draft.pretty (document.bool? node)).map fun value => { draft with pretty := value }
  | _ => some draft

namespace Settings

/-- The settings that a node gives. -/
def ofNode? (document : Document) (node : Node) : Option Settings :=
  (document.fields? node).bind fun fields =>
    (fields.foldlM (SettingsDraft.addField document) {}).map (·.complete)

/-- The settings that a YAML text gives. A blank text gives the defaults. -/
def ofYaml? (text : String) : Option Settings :=
  (Yaml.document? text.toList).bind fun document =>
    match document.root with
    | none => some {}
    | some node => ofNode? document node

/-- The default settings as a YAML text. -/
def defaultYaml : String :=
  "extensions:\n- .luau\n- .lua\nimportFunction: import\nloaderName: import\nheader: true\n" ++
    "typeWarnings: true\nbridge:\n  enabled: true\n  name: game_require\n  loader: require\n" ++
    "  getIdentity: getthreadidentity\n  setIdentity: setthreadidentity\n  identity: 2\n" ++
    "pretty: true\n"

end Settings

end LuaBundle
