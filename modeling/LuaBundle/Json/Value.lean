/-! # JSON values and how they are written

A value is written on one line without blanks, or over several lines with two blanks for each level
of nesting. Strings escape what has to be escaped and nothing else.
-/

namespace LuaBundle

/-- A JSON value. Objects keep the order of their fields. -/
inductive Json where
  | null
  | bool (value : Bool)
  | number (value : Int)
  | string (value : String)
  | list (items : List Json)
  | object (fields : List (String × Json))
  deriving Repr

namespace Json

/-- A digit of a number in base sixteen. -/
def hexDigit (n : Nat) : Char :=
  Nat.digitChar (n % 16)

/-- How one character of a string is written. -/
def escape (c : Char) : List Char :=
  match c with
  | '"' => ['\\', '"']
  | '\\' => ['\\', '\\']
  | '\x08' => ['\\', 'b']
  | '\x0c' => ['\\', 'f']
  | '\n' => ['\\', 'n']
  | '\r' => ['\\', 'r']
  | '\t' => ['\\', 't']
  | c =>
    if c.toNat < 0x20 then
      ['\\', 'u', '0', '0', hexDigit (c.toNat / 16), hexDigit c.toNat]
    else [c]

/-- A string between double quotes. -/
def quote (value : String) : List Char :=
  '"' :: value.toList.flatMap escape ++ ['"']

/-- A truth value. -/
def renderBool (value : Bool) : List Char :=
  if value then "true".toList else "false".toList

mutual

/-- A value on one line without blanks. -/
def compact : Json → List Char
  | .null => "null".toList
  | .bool value => renderBool value
  | .number value => (toString value).toList
  | .string value => quote value
  | .list items => '[' :: compactItems items ++ [']']
  | .object fields => '\x7b' :: compactFields fields ++ ['\x7d']

/-- The items of a list, with commas between them. -/
def compactItems : List Json → List Char
  | [] => []
  | [item] => compact item
  | item :: items => compact item ++ ',' :: compactItems items

/-- The fields of an object, with commas between them. -/
def compactFields : List (String × Json) → List Char
  | [] => []
  | [(key, value)] => quote key ++ ':' :: compact value
  | (key, value) :: fields => quote key ++ ':' :: compact value ++ ',' :: compactFields fields

end

/-- A line feed and the blanks of a level. -/
def newline (level : Nat) : List Char :=
  '\n' :: List.replicate (2 * level) ' '

mutual

/-- A value over several lines, at a level of nesting. -/
def pretty (level : Nat) : Json → List Char
  | .null => "null".toList
  | .bool value => renderBool value
  | .number value => (toString value).toList
  | .string value => quote value
  | .list [] => ['[', ']']
  | .list (item :: items) =>
    '[' :: prettyItems (level + 1) (item :: items) ++ newline level ++ [']']
  | .object [] => ['\x7b', '\x7d']
  | .object (field :: fields) =>
    '\x7b' :: prettyFields (level + 1) (field :: fields) ++ newline level ++ ['\x7d']

/-- The items of a list, each on a line of its own. -/
def prettyItems (level : Nat) : List Json → List Char
  | [] => []
  | [item] => newline level ++ pretty level item
  | item :: items => newline level ++ pretty level item ++ ',' :: prettyItems level items

/-- The fields of an object, each on a line of its own. -/
def prettyFields (level : Nat) : List (String × Json) → List Char
  | [] => []
  | [(key, value)] => newline level ++ quote key ++ ':' :: ' ' :: pretty level value
  | (key, value) :: fields =>
    newline level ++ quote key ++ ':' :: ' ' :: pretty level value ++
      ',' :: prettyFields level fields

end

end Json

end LuaBundle
