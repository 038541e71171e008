import LuaBundle.Text.Blank

/-! # Names

A name is an ASCII letter or underscore followed by letters, digits and underscores, and is none
of the words the language keeps for itself.
-/

namespace LuaBundle.Lua

/-- The words that are no names. -/
def keywords : List String :=
  ["and", "break", "do", "else", "elseif", "end", "false", "for", "function", "goto", "if", "in",
    "local", "nil", "not", "or", "repeat", "return", "then", "true", "until", "while"]

/-- Whether a text is spelled like a name. -/
def isNameSpelling : List Char → Bool
  | [] => false
  | first :: rest => Text.isNameStart first && rest.all Text.isNameChar

/-- Whether a text can name a variable. -/
def isIdentifier (name : String) : Bool :=
  !keywords.contains name && isNameSpelling name.toList

end LuaBundle.Lua
