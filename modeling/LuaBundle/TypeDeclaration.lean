import LuaBundle.Diagnostic
import LuaBundle.Text.Basic
import LuaBundle.Text.Blank

/-! # Type declarations in a source

A line declares a type if it reads `type Name =`, `type Name<`, or either of them behind `export`.
Between the words there is at least one blank; in front of the first word and behind the name there
may be some. Declarations are kept as they are, and each is worth a warning.
-/

namespace LuaBundle

/-- A type declaration at the start of a line. -/
inductive TypeDeclaration where
  | local (name : List Char)
  | exported (name : List Char)
  deriving Repr, DecidableEq

namespace TypeDeclaration

/-- What follows a keyword and the blanks behind it, of which there must be one. -/
def afterKeyword? (keyword s : List Char) : Option (List Char) :=
  if keyword.isPrefixOf s then
    match s.drop keyword.length with
    | c :: rest => if Text.isBlank c then some (Text.trimStart rest) else none
    | [] => none
  else none

/-- The name a declaration goes on with, if an equals sign or a type parameter follows it. -/
def name? (s : List Char) : Option (List Char) :=
  let name := s.takeWhile Text.isNameChar
  match name.head?, Text.trimStart (s.drop name.length) with
  | some first, mark :: _ =>
    if Text.isNameStart first && (mark == '=' || mark == '<') then some name else none
  | _, _ => none

/-- The declaration that a line makes. -/
def ofLine? (line : List Char) : Option TypeDeclaration :=
  let line := Text.trimStart line
  match afterKeyword? "export".toList line with
  | some rest => ((afterKeyword? "type".toList rest).bind name?).map .exported
  | none => ((afterKeyword? "type".toList line).bind name?).map .local

/-- What is remarked on a declaration. -/
def message : TypeDeclaration → String
  | .local name =>
    "local type declaration '" ++ String.ofList name ++
      "' is kept verbatim; the host must support type syntax"
  | .exported name =>
    "exported type declaration '" ++ String.ofList name ++
      "' is kept verbatim; exports are not visible across bundled modules"

/-- What a scan of lines comes to. -/
structure Scan where
  /-- The warnings that were made, oldest first. -/
  warnings : List Diagnostic
  /-- How many lines declare a type. -/
  found : Nat
  deriving Repr, DecidableEq

/-- Scan numbered lines and warn of each that declares a type. -/
def scanFrom (module : String) (number : Nat) : List (List Char) → Scan
  | [] => ⟨[], 0⟩
  | line :: lines =>
    let rest := scanFrom module (number + 1) lines
    match ofLine? line with
    | some declaration =>
      ⟨Diagnostic.warning module number declaration.message :: rest.warnings, rest.found + 1⟩
    | none => rest

/-- Scan a source line by line. -/
def scan (module : String) (source : List Char) : Scan :=
  scanFrom module 1 (Text.lines source)

/-- One warning for each line of a source that declares a type, in order. -/
def warnings (module : String) (source : List Char) : List Diagnostic :=
  (scan module source).warnings

end TypeDeclaration

end LuaBundle
