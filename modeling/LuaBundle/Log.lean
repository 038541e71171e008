import LuaBundle.Trace

/-! # The log

A build tells its log what it is doing. Every line has a level, a topic and a message. A message may
hold names that come from outside, so characters that could steer a terminal are shown by their
codes.
-/

namespace LuaBundle

/-- How much a line matters. -/
inductive LogLevel where
  | error
  | warn
  | info
  | debug
  deriving Repr, DecidableEq

namespace LogLevel

/-- A level as it is written in front of a line. -/
def word : LogLevel → String
  | .error => "ERROR"
  | .warn => "WARN"
  | .info => "INFO"
  | .debug => "DEBUG"

/-- How many levels a filter has to let through for a line of this level to be shown. -/
def depth : LogLevel → Nat
  | .error => 1
  | .warn => 2
  | .info => 3
  | .debug => 4

end LogLevel

/-- The parts of the program that tell the log something. -/
inductive LogTopic where
  | program
  | graph
  | resolver
  | bundle
  deriving Repr, DecidableEq

/-- How a filter calls a topic. -/
def LogTopic.name : LogTopic → String
  | .program => "luapack"
  | .graph => "luapack_core::graph"
  | .resolver => "luapack_core::resolver"
  | .bundle => "luapack_core::di"

/-- A line of the log. -/
structure LogLine where
  level : LogLevel
  topic : LogTopic
  message : String
  deriving Repr, DecidableEq

namespace LogLine

/-- How one character of a message is shown. Bell, backspace, form feed, escape and delete, and the
controls beyond ASCII, are shown by their codes. -/
def showChar (c : Char) : List Char :=
  let n := c.toNat
  if n = 0x07 ∨ n = 0x08 ∨ n = 0x0C ∨ n = 0x1B ∨ n = 0x7F then
    ['\\', 'x', Nat.digitChar (n / 16), Nat.digitChar (n % 16)]
  else if 0x80 ≤ n ∧ n ≤ 0x9F then ['\\', 'u', '\x7b'] ++ Nat.toDigits 16 n ++ ['\x7d']
  else [c]

/-- The message as it is shown. -/
def text (line : LogLine) : String :=
  String.ofList (line.message.toList.flatMap showChar)

/-- A line with its level in front. -/
def render (line : LogLine) : String :=
  line.level.word ++ " " ++ line.text

end LogLine

/-- What an event tells the log. -/
def Event.logLine? : Event → Option LogLine
  | .began entry => some ⟨.info, .graph, "Bundling from entry " ++ entry⟩
  | .resolved literal importer module =>
    some ⟨.debug, .resolver, "Resolved '" ++ literal ++ "' from " ++ importer ++ " to " ++ module⟩
  | .loading module importer =>
    some ⟨.debug, .graph, "Loading " ++ module ++ " (imported by " ++ importer ++ ")"⟩
  | .met module importer =>
    some ⟨.debug, .graph, module ++ " already bundled (imported again by " ++ importer ++ ")"⟩
  | .collected count entry =>
    some ⟨.info, .graph, "Collected " ++ toString count ++ " module(s) reachable from " ++ entry⟩
  | .bundled count entry size =>
    some ⟨.info, .bundle, "Bundled " ++ toString count ++ " module(s) plus entry " ++ entry ++
      " (" ++ toString size ++ " bytes)"⟩
  | _ => none

end LuaBundle
