/-! # Texts as bytes

A text is written as bytes in UTF-8. Bytes need not be a text, and can be read as one all the same:
where no character can be read, the replacement character stands for what is passed over, which is
as many bytes as could have been the front of some character, and one at least.
-/

namespace LuaBundle.Text

/-- A text in UTF-8. -/
def bytes (s : List Char) : List UInt8 :=
  s.flatMap String.utf8EncodeChar

/-- Whether a character of more than two bytes can begin with two bytes. -/
def mayBegin (first second : UInt8) : Bool :=
  if first = 0xe0 then 0xa0 ≤ second && second ≤ 0xbf
  else if first = 0xed then 0x80 ≤ second && second ≤ 0x9f
  else if first = 0xf0 then 0x90 ≤ second && second ≤ 0xbf
  else if first = 0xf4 then 0x80 ≤ second && second ≤ 0x8f
  else 0xe1 ≤ first && first ≤ 0xf3 && 0x80 ≤ second && second ≤ 0xbf

/-- How many bytes are passed over together where no character can be read. -/
def unreadable : List UInt8 → Nat
  | first :: second :: rest =>
    if mayBegin first second then
      match rest with
      | third :: _ => if 0xf0 ≤ first && 0x80 ≤ third && third ≤ 0xbf then 3 else 2
      | [] => 2
    else 1
  | _ => 1

/-- Read bytes as a text, with a replacement character for what cannot be read. -/
def decodeLossy : List UInt8 → List Char
  | [] => []
  | b :: rest =>
    match (b :: rest).toByteArray.utf8DecodeChar? 0 with
    | some c => c :: decodeLossy (rest.drop (c.utf8Size - 1))
    | none => '\ufffd' :: decodeLossy (rest.drop (unreadable (b :: rest) - 1))
termination_by s => s.length
decreasing_by
  all_goals
    simp only [List.length_drop, List.length_cons]
    omega

end LuaBundle.Text
