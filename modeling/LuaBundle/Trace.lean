import LuaBundle.Diagnostic
import LuaBundle.Files
import LuaBundle.Settings

/-! # What happens during a build

A build is a computation that may fail and that leaves a trail: which paths it asked about, which
files it read, what it remarked on and what it told its log. The trail is kept whether or not the
build succeeds. `Traced` is the result of such a computation together with its trail.
-/

namespace LuaBundle

/-- Why a build stops. -/
inductive BuildError where
  /-- No candidate for an imported path is a file. -/
  | moduleNotFound (literal : String) (candidates : List String) (importer : String)
  /-- Modules that import each other in a circle, the first one named again at the end. -/
  | circularImport (chain : List String)
  /-- A file that cannot be read or written. -/
  | file (path : Path) (fault : FileFault)
  /-- Settings that no bundle can be built with. -/
  | settings (fault : SettingsFault)
  deriving Repr, DecidableEq

namespace BuildError

/-- The wording of a build error. -/
def message : BuildError → String
  | .moduleNotFound literal candidates importer =>
    "Module not found: '" ++ literal ++ "' (tried " ++ ", ".intercalate candidates ++
      ") referenced from " ++ importer
  | .circularImport chain => "Circular import detected: " ++ " -> ".intercalate chain
  | .file path fault => "Failed to read " ++ path.text ++ ": " ++ fault.message
  | .settings fault => "Configuration error: " ++ fault.message

/-- The wording with the cause, if it is an error of its own, repeated behind it. -/
def messageWithCause (error : BuildError) : String :=
  match error with
  | .file _ fault => error.message ++ ": " ++ fault.message
  | _ => error.message

end BuildError

/-- One thing that happened during a build. -/
inductive Event where
  /-- A candidate path was tested for being a file. -/
  | probed (path : Path) (found : Bool)
  /-- A file was read, or tried to be. -/
  | read (path : Path)
  /-- A line was remarked on. -/
  | remarked (diagnostic : Diagnostic)
  /-- The build began at an entry module. -/
  | began (entry : String)
  /-- An import was resolved. -/
  | resolved (literal importer module : String)
  /-- A module met for the first time is about to be read. -/
  | loading (module importer : String)
  /-- A module is imported that is already part of the bundle. -/
  | met (module importer : String)
  /-- Every module that the entry reaches is known. -/
  | collected (count : Nat) (entry : String)
  /-- The bundle is written out. -/
  | bundled (count : Nat) (entry : String) (size : Nat)
  deriving Repr, DecidableEq

namespace Event

/-- The remark that an event is. -/
def diagnostic? : Event → Option Diagnostic
  | .remarked diagnostic => some diagnostic
  | _ => none

/-- The path that an event is about. -/
def path? : Event → Option Path
  | .probed path _ => some path
  | .read path => some path
  | _ => none

/-- The path that an event reads. -/
def readPath? : Event → Option Path
  | .read path => some path
  | _ => none

end Event

/-- The result of a computation that may fail, and what happened on the way to it. -/
structure Traced (α : Type) where
  result : Except BuildError α
  events : List Event

namespace Traced

variable {α β : Type}

/-- Nothing happens. -/
def pure (value : α) : Traced α :=
  ⟨.ok value, []⟩

/-- Stop with an error. -/
def fail (error : BuildError) : Traced α :=
  ⟨.error error, []⟩

/-- Let something happen. -/
def tell (events : List Event) : Traced Unit :=
  ⟨.ok (), events⟩

/-- Go on with the result, if there is one. -/
def bind (first : Traced α) (next : α → Traced β) : Traced β :=
  match first.result with
  | .ok value =>
    let rest := next value
    ⟨rest.result, first.events ++ rest.events⟩
  | .error error => ⟨.error error, first.events⟩

instance : Monad Traced where
  pure := pure
  bind := bind

/-- The remarks made, oldest first. -/
def diagnostics (traced : Traced α) : List Diagnostic :=
  traced.events.filterMap Event.diagnostic?

/-- The paths read, oldest first. -/
def reads (traced : Traced α) : List Path :=
  traced.events.filterMap Event.readPath?

/-- Run a step over a list, handing a state from one element to the next. -/
def forEach {σ : Type} (step : σ → α → Traced σ) (state : σ) : List α → Traced σ
  | [] => pure state
  | a :: as => bind (step state a) fun state => forEach step state as

end Traced

end LuaBundle
