import LuaBundle.Text.Basic

/-! # Places in a YAML text

The scanner of YAML looks at columns: indentation tells where collections begin and end, and what
can be a key depends on the line it stands on. A cursor is a place in a text together with its line
and column, both counted in characters and from zero, and its index, which is counted in bytes.
-/

namespace LuaBundle.Yaml

/-- A line break. Besides line feed and carriage return these are the next-line character and the
line and paragraph separators. -/
def isBreak (c : Char) : Bool :=
  c == '\n' || c == '\r' || c == '\u0085' || c == '\u2028' || c == '\u2029'

/-- A space or a tab. -/
def isBlank (c : Char) : Bool :=
  c == ' ' || c == '\t'

/-- What anchors, directives and tag handles are made of. -/
def isWordChar (c : Char) : Bool :=
  ('a' ≤ c && c ≤ 'z') || ('A' ≤ c && c ≤ 'Z') || ('0' ≤ c && c ≤ '9') || c == '_' || c == '-'

/-- The characters that a text may hold. -/
def isAllowed (c : Char) : Bool :=
  let n := c.toNat
  n == 0x09 || n == 0x0A || n == 0x0D || (0x20 ≤ n && n ≤ 0x7E) || n == 0x85 ||
    (0xA0 ≤ n && n ≤ 0xD7FF) || (0xE000 ≤ n && n ≤ 0xFFFD) || 0x10000 ≤ n

/-- A place in a text. -/
structure Cursor where
  rest : List Char
  /-- How many bytes stand before the place. -/
  index : Nat := 0
  line : Nat := 0
  column : Nat := 0

namespace Cursor

/-- The character some characters ahead. -/
def ahead? (cursor : Cursor) (n : Nat) : Option Char :=
  cursor.rest[n]?

/-- Whether a certain character comes next. -/
def sees (cursor : Cursor) (c : Char) : Bool :=
  cursor.rest.head? == some c

/-- Whether a blank, a break or the end is some characters ahead. -/
def gapAhead (cursor : Cursor) (n : Nat) : Bool :=
  match cursor.ahead? n with
  | none => true
  | some c => isBlank c || isBreak c

/-- Whether a blank comes next. -/
def seesBlank (cursor : Cursor) : Bool :=
  cursor.rest.head?.any isBlank

/-- Whether a break comes next. -/
def seesBreak (cursor : Cursor) : Bool :=
  cursor.rest.head?.any isBreak

/-- Whether a break or the end comes next. -/
def atLineEnd (cursor : Cursor) : Bool :=
  cursor.rest.head?.all isBreak

/-- Whether the text is over. -/
def atEnd (cursor : Cursor) : Bool :=
  cursor.rest.isEmpty

/-- Go on by one character of a line. -/
def skip (cursor : Cursor) : Cursor :=
  { cursor with
    rest := cursor.rest.drop 1
    index := cursor.index + Text.byteLength (cursor.rest.take 1)
    column := cursor.column + 1 }

/-- Go on by some characters of a line. -/
def skipMany (cursor : Cursor) : Nat → Cursor
  | 0 => cursor
  | n + 1 => cursor.skip.skipMany n

/-- Go on by the characters of a line for which a condition holds. -/
def skipWhile (cursor : Cursor) (p : Char → Bool) : Cursor :=
  cursor.skipMany (cursor.rest.takeWhile p).length

/-- Go on to the next line. A carriage return and a line feed are one break. -/
def skipLine (cursor : Cursor) : Cursor :=
  let n :=
    match cursor.rest with
    | '\r' :: '\n' :: _ => 2
    | _ => 1
  { rest := cursor.rest.drop n
    index := cursor.index + Text.byteLength (cursor.rest.take n)
    line := cursor.line + 1
    column := 0 }

/-- What a break adds to a scalar that keeps it. -/
def lineBreak (cursor : Cursor) : List Char :=
  match cursor.rest with
  | '\u2028' :: _ => ['\u2028']
  | '\u2029' :: _ => ['\u2029']
  | [] => []
  | _ => ['\n']

/-- Whether a marker of three characters, followed by a gap, stands at the start of the line. -/
def seesMarker (cursor : Cursor) (c : Char) : Bool :=
  cursor.column == 0 && cursor.rest.take 3 == [c, c, c] && cursor.gapAhead 3

/-- Whether a document begins or ends here. -/
def seesDocumentMarker (cursor : Cursor) : Bool :=
  cursor.seesMarker '-' || cursor.seesMarker '.'

end Cursor

end LuaBundle.Yaml
