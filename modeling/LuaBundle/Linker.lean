import LuaBundle.ImportCall
import LuaBundle.Lua.ShortString
import LuaBundle.Resolver

/-! # Linking imports

Each import call of a source becomes a call of the bundle's loader. A literal path becomes the
canonical path of the module it means; any other argument is handed on as it is, without the blanks
around it. Everything between the calls is kept.
-/

namespace LuaBundle

/-- A source with its imports linked. -/
structure Linked where
  text : List Char
  /-- The modules that literal imports mean, in the order of the calls, repetitions kept. -/
  dependencies : List String
  deriving Repr, DecidableEq

/-- How a source's imports are linked. -/
structure Linker where
  resolver : Resolver
  /-- The function whose calls are imports. -/
  importFunction : String
  /-- The function that is called instead. -/
  loaderName : String

namespace Linker

/-- A call of the loader. -/
def loaderCall (linker : Linker) (argument : List Char) : List Char :=
  linker.loaderName.toList ++ '(' :: argument ++ [')']

/-- What one import call becomes, and the module it means if that is known. -/
def linkCall (linker : Linker) (importer : String) (call : ImportCall) :
    Traced (List Char × List String) :=
  match call.literal? with
  | some literal =>
    (linker.resolver.resolve importer (String.ofList literal)).bind fun module =>
      .pure (linker.loaderCall (Lua.quote module.toList), [module])
  | none => .pure (linker.loaderCall call.argument, [])

/-- Link cut calls from left to right. -/
def linkCalls (linker : Linker) (importer : String) (tail : List Char) :
    List (List Char × ImportCall) → Traced Linked
  | [] => .pure ⟨tail, []⟩
  | (gap, call) :: calls =>
    (linker.linkCall importer call).bind fun (text, modules) =>
      (linker.linkCalls importer tail calls).bind fun rest =>
        .pure ⟨gap ++ text ++ rest.text, modules ++ rest.dependencies⟩

/-- Link the imports of the module `importer`. -/
def link (linker : Linker) (importer : String) (source : List Char) : Traced Linked :=
  let cuts := ImportCuts.ofSource linker.importFunction.toList source
  linker.linkCalls importer cuts.tail cuts.calls

end Linker

end LuaBundle
