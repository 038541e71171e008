import LuaBundle.Log
import LuaBundle.Text.Alphanumeric

/-! # Which lines of the log are shown

A filter is a text of pieces between commas. A piece asks for some levels of the topics that begin
with a certain text: `graph=debug`, or `graph` alone for all levels, or `debug` alone for all
topics. Brackets make a piece more particular, as in `graph[{message}]=debug`: the braces name
something that a line has to hold, and every line holds a message and nothing else. A name in front
of the braces asks for lines from within an activity of that name, and there are none.

Of the wishes that concern a topic the most particular one counts, and of equally particular ones
the last. Behind all pieces stands the wish for `info`. Pieces that make no sense are complained
about and otherwise passed over.
-/

namespace LuaBundle

/-- What a piece of a filter asks for. -/
structure LogWish where
  /-- How the topics begin; all do with the empty text. -/
  topic : List Char
  /-- Whether it asks for lines that hold a message. -/
  ofMessage : Bool
  /-- How many levels are let through. -/
  depth : Nat
  deriving Repr, DecidableEq

namespace LogWish

/-- Whether a topic is concerned. -/
def concerns (wish : LogWish) (topic : LogTopic) : Bool :=
  wish.topic.isPrefixOf topic.name.toList

/-- How particular a wish is: first by the length of its topic, then by what lines have to hold. -/
def rank (wish : LogWish) : Nat :=
  2 * wish.topic.length + (if wish.ofMessage then 1 else 0)

/-- Of two wishes the more particular one, and of equally particular ones the later. -/
def preferred (best : Option LogWish) (wish : LogWish) : Option LogWish :=
  match best with
  | none => some wish
  | some held => if wish.rank < held.rank then some held else some wish

end LogWish

/-- What can be wrong with a piece of a filter. -/
inductive LogPieceFault where
  /-- It is not made as a piece is. -/
  | shape
  /-- Its level is none. -/
  | level
  deriving Repr, DecidableEq

/-- The wording of a fault. -/
def LogPieceFault.message : LogPieceFault → String
  | .shape => "invalid filter directive"
  | .level =>
    "error parsing level filter: expected one of \"off\", \"error\", \"warn\", \"info\", " ++
      "\"debug\", \"trace\", or a number 0-5"

namespace LogPiece

/-- The number that a word is: digits, perhaps with a plus in front. -/
def number? (word : List Char) : Option Nat :=
  let digits := if word.head? = some '+' then word.drop 1 else word
  if digits ≠ [] ∧ digits.all Char.isDigit then
    some (digits.foldl (fun n c => 10 * n + (c.toNat - '0'.toNat)) 0)
  else none

/-- How many levels a word lets through: none for `off`, five for `trace`. -/
def depth? (word : List Char) : Option Nat :=
  match number? word with
  | some n => if n ≤ 5 then some n else none
  | none =>
    match (String.ofList word).toLower with
    | "off" => some 0
    | "error" => some 1
    | "warn" => some 2
    | "info" => some 3
    | "debug" => some 4
    | "trace" => some 5
    | _ => none

/-- How many levels a word behind an equals sign lets through. No word lets all through. -/
def depth (word : List Char) : Except LogPieceFault Nat :=
  if word = [] then .ok 5
  else
    match depth? word with
    | some depth => .ok depth
    | none => .error .level

/-- What may begin a piece. -/
def isStart (c : Char) : Bool :=
  c == '[' || c == '-' || c == ':' || c == '_' || Text.isAlphanumeric c

/-- A piece as it stands, from where a certain rest of it begins without the blanks around it. A
piece with blanks in front is thus read too early by as many bytes as they have. -/
def tailAt (piece rest : List Char) : List Char :=
  Text.dropBytes (Text.byteLength (Text.trim piece) - Text.byteLength rest) piece

/-- The part of a piece as it stands where a certain part begins without the blanks around it. -/
def partAt (piece part rest : List Char) : List Char :=
  Text.takeBytes (Text.byteLength part) (tailAt piece rest)

/-- The level behind the topic and the brackets. -/
def depthAt (piece : List Char) : List Char → Except LogPieceFault Nat
  | [] => .ok 5
  | '=' :: word => depth (tailAt piece word)
  | _ => .error .shape

/-- The wish of a piece with brackets, read from behind the opening one. Only a piece that names a
message and neither an activity nor a content states one. -/
def bracketed (piece topic inside : List Char) : Except LogPieceFault (Option LogWish) :=
  let activity := inside.takeWhile fun c => c != ']' && c != '\x7b'
  match inside.drop activity.length with
  | ']' :: rest => (depthAt piece rest).map fun _ => none
  | '\x7b' :: held =>
    let name := held.takeWhile (· != '\x7d')
    match held.drop name.length with
    | '\x7d' :: ']' :: rest =>
      if name = [] then .error .shape
      else
        (depthAt piece rest).map fun depth =>
          if activity = [] ∧ partAt piece name held = "message".toList then
            some ⟨topic, true, depth⟩
          else none
    | _ => .error .shape
  | _ => .error .shape

/-- The wish of a piece, if it states one. -/
def wish? (piece : List Char) : Except LogPieceFault (Option LogWish) :=
  let text := Text.trim piece
  if text.head?.any isStart then
    let name := text.takeWhile fun c => c != '=' && c != '['
    let topic := partAt piece name text
    match text.drop name.length with
    | [] =>
      match depth? piece with
      | some depth => .ok (some ⟨[], false, depth⟩)
      | none => .ok (some ⟨piece, false, 5⟩)
    | '[' :: inside => bracketed piece topic inside
    | rest => (depthAt piece rest).map fun depth => some ⟨topic, false, depth⟩
  else .error .shape

/-- What is said of a piece that makes no sense. -/
def complaint? (piece : List Char) : Option String :=
  match wish? piece with
  | .ok _ => none
  | .error fault => some ("ignoring `" ++ String.ofList piece ++ "`: " ++ fault.message ++ "\n")

end LogPiece

/-- A filter. -/
abbrev LogFilter := List LogWish

namespace LogFilter

/-- The pieces of a text. Nothing between two commas is no piece. -/
def pieces (text : String) : List (List Char) :=
  (Text.split ',' text.toList).filter (· ≠ [])

/-- What holds for topics that no piece concerns. -/
def standard : LogWish := ⟨[], false, LogLevel.info.depth⟩

/-- The filter that a text states. -/
def ofText (text : String) : LogFilter :=
  ((pieces text).filterMap fun piece => (LogPiece.wish? piece).toOption.join) ++ [standard]

/-- The complaints about a text. -/
def complaints (text : String) : List String :=
  (pieces text).filterMap LogPiece.complaint?

/-- How many levels of a topic are let through. -/
def depthOf (filter : LogFilter) (topic : LogTopic) : Nat :=
  match (filter.filter (·.concerns topic)).foldl LogWish.preferred none with
  | some wish => wish.depth
  | none => 0

/-- Whether a line is shown. -/
def shows (filter : LogFilter) (line : LogLine) : Bool :=
  line.level.depth ≤ filter.depthOf line.topic

end LogFilter

end LuaBundle
