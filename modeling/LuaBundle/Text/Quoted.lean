import LuaBundle.Text.Unshown

/-! # Quoted text in messages

A text that a message quotes stands between double quotes. Quotes and backslashes in it are
escaped, and so are characters that would not show.
-/

namespace LuaBundle.Text

/-- How one character of a quoted text is shown. -/
def showChar (c : Char) : List Char :=
  match c with
  | '\x00' => ['\\', '0']
  | '\t' => ['\\', 't']
  | '\r' => ['\\', 'r']
  | '\n' => ['\\', 'n']
  | '\\' => ['\\', '\\']
  | '"' => ['\\', '"']
  | c =>
    if isUnshown c then ['\\', 'u', '\x7b'] ++ Nat.toDigits 16 c.toNat ++ ['\x7d'] else [c]

/-- A text between double quotes. -/
def showQuoted (text : String) : String :=
  String.ofList ('"' :: text.toList.flatMap showChar ++ ['"'])

end LuaBundle.Text
