import LuaBundle.Text.Basic
import LuaBundle.Text.Quoted

/-! # What is wrong with a JSON text

A fault says what is wrong and where reading stopped. Where that is in the text is known from what
is left of it, plus the bytes that were looked at beyond that. Lines are counted from one, columns
in bytes from the start of the line.
-/

namespace LuaBundle.Json

/-- What stands in a text where something else was wanted. -/
inductive Found where
  | null
  | bool (value : Bool)
  | integer (value : Int)
  /-- A number that is no integer, as it is shown. -/
  | decimal (text : String)
  | string (value : String)
  | list
  | object
  deriving Repr, DecidableEq

/-- The wording for what was found. -/
def Found.message : Found → String
  | .null => "null"
  | .bool value => if value then "boolean `true`" else "boolean `false`"
  | .integer value => "integer `" ++ toString value ++ "`"
  | .decimal text => "floating point `" ++ text ++ "`"
  | .string value => "string " ++ Text.showQuoted value
  | .list => "sequence"
  | .object => "map"

/-- What is wrong with a text. -/
inductive Cause where
  | endInList
  | endInObject
  | endInString
  | endInValue
  | expectedColon
  | expectedListEnd
  | expectedObjectEnd
  | expectedWord
  | expectedValue
  | invalidEscape
  | invalidNumber
  | numberOutOfRange
  | controlCharacter
  | keyNotString
  | loneSurrogate
  | trailingComma
  | trailingCharacters
  | unfinishedSurrogate
  /-- A value of another kind than is wanted. -/
  | wrongType (found : Found) (expected : String)
  /-- A value of the right kind that is not allowed. -/
  | wrongValue (found : Found) (expected : String)
  /-- A list that is too short for the record it stands for. -/
  | wrongLength (length : Nat) (expected : String)
  | missingField (name : String)
  | duplicateField (name : String)
  deriving Repr, DecidableEq

/-- The wording of a cause. -/
def Cause.message : Cause → String
  | .endInList => "EOF while parsing a list"
  | .endInObject => "EOF while parsing an object"
  | .endInString => "EOF while parsing a string"
  | .endInValue => "EOF while parsing a value"
  | .expectedColon => "expected `:`"
  | .expectedListEnd => "expected `,` or `]`"
  | .expectedObjectEnd => "expected `,` or `\x7d`"
  | .expectedWord => "expected ident"
  | .expectedValue => "expected value"
  | .invalidEscape => "invalid escape"
  | .invalidNumber => "invalid number"
  | .numberOutOfRange => "number out of range"
  | .controlCharacter => "control character (\\u0000-\\u001F) found while parsing a string"
  | .keyNotString => "key must be a string"
  | .loneSurrogate => "lone leading surrogate in hex escape"
  | .trailingComma => "trailing comma"
  | .trailingCharacters => "trailing characters"
  | .unfinishedSurrogate => "unexpected end of hex escape"
  | .wrongType found expected => "invalid type: " ++ found.message ++ ", expected " ++ expected
  | .wrongValue found expected => "invalid value: " ++ found.message ++ ", expected " ++ expected
  | .wrongLength length expected =>
    "invalid length " ++ toString length ++ ", expected " ++ expected
  | .missingField name => "missing field `" ++ name ++ "`"
  | .duplicateField name => "duplicate field `" ++ name ++ "`"

/-- What is wrong, and where. -/
structure Fault where
  cause : Cause
  /-- What is left of the text. -/
  rest : List Char
  /-- How many bytes of what is left were looked at. -/
  ahead : Nat
  deriving Repr, DecidableEq

namespace Fault

/-- A fault right in front of what is left. -/
def before (cause : Cause) (rest : List Char) : Fault :=
  ⟨cause, rest, 0⟩

/-- A fault at the next byte, or at the end if there is none. -/
def next (cause : Cause) (rest : List Char) : Fault :=
  ⟨cause, rest, 1⟩

/-- The line and column after some bytes. -/
def lineAndColumn (line column : Nat) : List UInt8 → Nat × Nat
  | [] => (line, column)
  | byte :: bytes =>
    if byte = 10 then lineAndColumn (line + 1) 0 bytes else lineAndColumn line (column + 1) bytes

/-- The line and column of a fault in a text. -/
def position (fault : Fault) (text : String) : Nat × Nat :=
  let index := text.utf8ByteSize - Text.byteLength fault.rest + fault.ahead
  lineAndColumn 1 0 (text.toUTF8.toList.take index)

/-- The wording of a fault in a text. -/
def message (fault : Fault) (text : String) : String :=
  let (line, column) := fault.position text
  fault.cause.message ++ " at line " ++ toString line ++ " column " ++ toString column

end Fault

end LuaBundle.Json
