import LuaBundle.Text.Basic

/-! # The fixed parts of a bundle

A bundle carries three pieces of code that are the same in all bundles but for a few names: the
declarations in front of the modules, the loader behind them, and the bridge to the host's own
loader. Each is a template in which a name between braces is a slot. The slots are filled one after
the other, each over the whole text as it stands by then.
-/

namespace LuaBundle

/-- A text with slots. -/
structure Template where
  text : String
  deriving Repr, DecidableEq

namespace Template

/-- Lines that each end in a line feed. -/
def ofLines (lines : List String) : Template :=
  ⟨String.join (lines.map (· ++ "\n"))⟩

/-- How a slot is written. -/
def slot (name : String) : List Char :=
  '\x7b' :: name.toList ++ ['\x7d']

/-- Fill slots one after the other. -/
def fill (template : Template) (values : List (String × String)) : String :=
  String.ofList
    (values.foldl (fun text value => Text.replaceAll (slot value.1) value.2.toList text)
      template.text.toList)

end Template

/-- The declarations in front of the modules. The loader is declared here so that module bodies,
which stand before its definition, mean the same variable. -/
def preludeTemplate : Template := .ofLines [
  "-- Module registry",
  "local __modules = \x7b\x7d",
  "local \x7bloader\x7d"]

/-- The loader. It runs a module's body when the module is first asked for and keeps the value, so
that all importers share it. -/
def loaderTemplate : Template := .ofLines [
  "-- Bundled module loader",
  "\x7bloader\x7d = function(name)",
  "    local slot = __modules[name]",
  "    if slot == nil then",
  "        error(\"unknown module: \" .. tostring(name), 2)",
  "    end",
  "",
  "    if slot.state == \"evaluated\" then",
  "        return slot.value",
  "    end",
  "",
  "    if slot.state == \"evaluating\" then",
  "        error(\"module is still initializing: \" .. tostring(name), 2)",
  "    end",
  "",
  "    slot.state = \"evaluating\"",
  "    local ok, value = pcall(slot.thunk)",
  "    if not ok then",
  "        slot.state = \"pending\"",
  "        error(value, 0)",
  "    end",
  "",
  "    slot.state = \"evaluated\"",
  "    slot.value = value",
  "    slot.thunk = nil",
  "    return value",
  "end"]

/-- The bridge. It holds another thread identity while the host's loader runs and gives it back
whether or not that loader succeeds. -/
def bridgeTemplate : Template := .ofLines [
  "-- Host module bridge",
  "\x7bbridge\x7d = function(target, continuation)",
  "    local previous = \x7bget_identity\x7d()",
  "    \x7bset_identity\x7d(\x7bidentity\x7d)",
  "    local ok, result = pcall(\x7bhost_loader\x7d, target)",
  "    \x7bset_identity\x7d(previous)",
  "",
  "    if not ok then",
  "        error(result, 2)",
  "    end",
  "",
  "    if result == nil then",
  "        error(\"host loader returned no value for \" .. tostring(target), 2)",
  "    end",
  "",
  "    if continuation ~= nil then",
  "        return continuation(result)",
  "    end",
  "",
  "    return result",
  "end"]

end LuaBundle
