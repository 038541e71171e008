import LuaBundle.Text.Basic
import LuaBundle.Text.Blank

/-! # Import calls in a source

A call is the import function's name, ASCII blanks, and everything from the next character, which
must be `(`, to the first `)` after it. The scan knows nothing else of the language: it also finds
calls in comments and strings, and parentheses inside an argument end the call early.

The scan does not report offsets but cuts the source into the calls and the text between them, so
that nothing of the source is lost and no cut can fall inside a character. Offsets are the byte
lengths of what stands before.
-/

namespace LuaBundle

/-- A call of the import function as it stands in a source. -/
structure ImportCall where
  /-- The blanks between the name and the opening parenthesis. -/
  blanks : List Char
  /-- What stands between the parentheses. -/
  inner : List Char
  deriving Repr, DecidableEq

namespace ImportCall

/-- The argument without the blanks around it. -/
def argument (call : ImportCall) : List Char :=
  Text.trim call.inner

/-- The call as it is written in a source. -/
def source (name : List Char) (call : ImportCall) : List Char :=
  name ++ call.blanks ++ '(' :: call.inner ++ [')']

/-- A single or a double quote. -/
def isQuote (c : Char) : Bool :=
  c == '"' || c == Char.ofNat 39

/-- What stands between two equal quotes, if an argument is nothing but that and the quote does
not occur inside. -/
def unquote? : List Char → Option (List Char)
  | [] => none
  | mark :: rest =>
    if isQuote mark && rest.getLast? == some mark && !rest.dropLast.contains mark then
      some rest.dropLast
    else none

/-- The path of a call whose argument is a plain quoted text. -/
def literal? (call : ImportCall) : Option (List Char) :=
  unquote? call.argument

/-- Whether a call may start behind a character: not inside a longer name and not as a member. -/
def mayFollow (previous : Char) : Bool :=
  !(Text.isAsciiAlphanumeric previous || previous == '_' || previous == '.' || previous == ':')

/-- The rest of a call whose name has been read, and what follows the call. -/
def afterName? (s : List Char) : Option (ImportCall × List Char) :=
  match s.dropWhile Text.isAsciiBlank with
  | '(' :: inside =>
    match inside.dropWhile (· != ')') with
    | _ :: rest => some (⟨s.takeWhile Text.isAsciiBlank, inside.takeWhile (· != ')')⟩, rest)
    | [] => none
  | _ => none

/-- What follows a call is shorter than what followed its name. -/
theorem length_lt_of_afterName? {s rest : List Char} {call : ImportCall}
    (h : afterName? s = some (call, rest)) : rest.length < s.length := by
  unfold afterName? at h
  split at h
  · next inside opened =>
    split at h
    · next closed =>
      simp only [Option.some.injEq, Prod.mk.injEq] at h
      obtain ⟨-, rfl⟩ := h
      have shorter := (List.dropWhile_suffix (l := inside) (· != ')')).length_le
      have shorter' := (List.dropWhile_suffix (l := s) Text.isAsciiBlank).length_le
      simp only [closed, opened, List.length_cons] at shorter shorter'
      omega
    · cases h
  · cases h

end ImportCall

/-- A source cut at its import calls. -/
structure ImportCuts where
  /-- Each call with the text between it and the call before. -/
  calls : List (List Char × ImportCall)
  /-- The text behind the last call. -/
  tail : List Char
  deriving Repr, DecidableEq

namespace ImportCuts

/-- Cuts of a source that has more text in front. -/
def prepend (text : List Char) : ImportCuts → ImportCuts
  | ⟨[], tail⟩ => ⟨[], text ++ tail⟩
  | ⟨(gap, call) :: calls, tail⟩ => ⟨(text ++ gap, call) :: calls, tail⟩

/-- Cut a source at the calls of `name`; `previous` is the character in front of it. A name that
turns out not to start a call is passed over as a whole. -/
def scan (name : List Char) (previous : Option Char) (s : List Char) : ImportCuts :=
  match s with
  | [] => ⟨[], []⟩
  | c :: rest =>
    if _found : name ≠ [] ∧ name.isPrefixOf (c :: rest) then
      let after := (c :: rest).drop name.length
      if previous.all ImportCall.mayFollow then
        match _call : ImportCall.afterName? after with
        | some (call, rest) =>
          let cuts := scan name (some ')') rest
          ⟨([], call) :: cuts.calls, cuts.tail⟩
        | none => (scan name name.getLast? after).prepend name
      else (scan name name.getLast? after).prepend name
    else (scan name (some c) rest).prepend [c]
termination_by s.length
decreasing_by
  · have := List.length_pos_iff.2 _found.1
    have := ImportCall.length_lt_of_afterName? _call
    simp only [after, List.length_drop, List.length_cons] at *
    omega
  · have := List.length_pos_iff.2 _found.1
    simp only [List.length_drop, List.length_cons]
    omega
  · have := List.length_pos_iff.2 _found.1
    simp only [List.length_drop, List.length_cons]
    omega
  · simp

/-- Cut a source at the calls of the function `name`. An empty name is called nowhere. -/
def ofSource (name source : List Char) : ImportCuts :=
  scan name none source

end ImportCuts

/-- A call together with where it stands, in bytes from the start of the source. -/
structure ImportSite where
  start : Nat
  stop : Nat
  call : ImportCall
  deriving Repr, DecidableEq

namespace ImportSite

/-- Add up the offsets of cut calls. -/
def ofCalls (name : List Char) (offset : Nat) : List (List Char × ImportCall) → List ImportSite
  | [] => []
  | (gap, call) :: calls =>
    let start := offset + Text.byteLength gap
    let stop := start + Text.byteLength (call.source name)
    ⟨start, stop, call⟩ :: ofCalls name stop calls

/-- The calls of the function `name` in a source, from left to right. -/
def find (name source : List Char) : List ImportSite :=
  ofCalls name 0 (ImportCuts.ofSource name source).calls

end ImportSite

end LuaBundle
