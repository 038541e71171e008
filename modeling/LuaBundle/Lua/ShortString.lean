/-! # Quoted strings

Module keys and linked arguments are written as double-quoted Lua strings. Backslash, double
quote, line feed and carriage return are escaped; every other character stands for itself.
-/

namespace LuaBundle.Lua

/-- How one character is written between double quotes. -/
def escape : Char → List Char
  | '\\' => ['\\', '\\']
  | '"' => ['\\', '"']
  | '\n' => ['\\', 'n']
  | '\r' => ['\\', 'r']
  | c => [c]

/-- A text as a double-quoted string. -/
def quote (value : List Char) : List Char :=
  '"' :: value.flatMap escape ++ ['"']

/-- A text as a double-quoted string. -/
def quoted (value : String) : String :=
  String.ofList (quote value.toList)

end LuaBundle.Lua
