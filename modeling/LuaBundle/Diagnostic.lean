/-! # Diagnostics

Remarks about a line of a module. They never stop a build. A `DiagnosticLog` keeps those made so
far in the order they were made, and prints each as it comes unless it is silent.
-/

namespace LuaBundle

/-- How much a remark matters. -/
inductive Severity where
  | error
  | warning
  | info
  deriving Repr, DecidableEq

/-- The word for a severity. -/
def Severity.word : Severity → String
  | .error => "error"
  | .warning => "warning"
  | .info => "info"

/-- A remark about a line, counted from one, of a module. -/
structure Diagnostic where
  severity : Severity
  module : String
  line : Nat
  message : String
  deriving Repr, DecidableEq

namespace Diagnostic

/-- A remark that the reader should look at the line. -/
def warning (module : String) (line : Nat) (message : String) : Diagnostic :=
  ⟨.warning, module, line, message⟩

/-- Where a remark is about, and what it says. -/
def about (diagnostic : Diagnostic) : String :=
  " at " ++ diagnostic.module ++ ":" ++ toString diagnostic.line ++ ": " ++ diagnostic.message

/-- A remark in plain text. -/
def render (diagnostic : Diagnostic) : String :=
  diagnostic.severity.word ++ diagnostic.about

/-- A remark with its severity in bold yellow. -/
def renderStyled (diagnostic : Diagnostic) : String :=
  "\x1b[1;33m" ++ diagnostic.severity.word ++ "\x1b[0m" ++ diagnostic.about

end Diagnostic

/-- What is done with a remark besides keeping it. -/
inductive DiagnosticStyle where
  | silent
  | plain
  | styled
  deriving Repr, DecidableEq

/-- The line that is printed for a remark. -/
def DiagnosticStyle.print (style : DiagnosticStyle) (diagnostic : Diagnostic) : String :=
  match style with
  | .silent => ""
  | .plain => diagnostic.render ++ "\n"
  | .styled => diagnostic.renderStyled ++ "\n"

/-- The remarks made so far, oldest first. -/
abbrev DiagnosticLog := List Diagnostic

namespace DiagnosticLog

/-- How many remarks have a severity. -/
def count (log : DiagnosticLog) (severity : Severity) : Nat :=
  log.countP (·.severity == severity)

/-- Whether an error was remarked on. -/
def hasErrors (log : DiagnosticLog) : Bool :=
  0 < count log .error

end DiagnosticLog

end LuaBundle
