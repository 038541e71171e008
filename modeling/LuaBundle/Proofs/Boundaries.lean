import LuaBundle.Proofs.Bytes
import LuaBundle.Proofs.Rewriting
import Mathlib.Data.List.Infix

/-! # Where a text can be cut

Offsets into a text count its bytes. A cut at an offset fails if the offset lies beyond the end or
inside a character, and a part cannot end before it starts; `cut?` makes sure of all this.
`offsetOf?` looks for bytes among bytes and knows nothing of characters, but where it finds the bytes
of a text, the other text can be cut. Tests that tell only ASCII characters apart can be made byte by
byte as well.
-/

namespace LuaBundle

namespace Text

variable {c : Char} {s word front back : List Char} {offset : Nat} {p : Char → Bool}

/-- A text can be cut at an offset: it is not beyond the end, and if a byte stands there then it is
one that a character begins with. -/
def IsBoundary (s : List Char) (offset : Nat) : Prop :=
  offset ≤ byteLength s ∧ ∀ b ∈ (bytes s)[offset]?, b.IsUTF8FirstByte

instance (s : List Char) (offset : Nat) : Decidable (IsBoundary s offset) :=
  inferInstanceAs (Decidable (_ ∧ _))

/-- The part of a text between two offsets, if they are in order and the text can be cut at both. -/
def cut? (start stop : Nat) (s : List Char) : Option (List Char) :=
  if start ≤ stop ∧ IsBoundary s start ∧ IsBoundary s stop then some (between start stop s)
  else none

/-- The first offset at which bytes stand among others. -/
def offsetOf? (word s : List UInt8) : Option Nat :=
  s.tails.findIdx? word.isPrefixOf

theorem getElem?_bytes_append (front back : List Char) :
    (bytes (front ++ back))[byteLength front]? = (bytes back).head? := by
  rw [bytes_append, ← length_bytes, List.getElem?_append_right (Nat.le_refl _), Nat.sub_self,
    List.head?_eq_getElem?]

theorem isUTF8FirstByte_of_head? {b : UInt8} (first : (bytes s).head? = some b) :
    b.IsUTF8FirstByte := by
  cases s with
  | nil => cases first
  | cons c s =>
      obtain ⟨other, more, encoded, begins⟩ := exists_first_byte c
      rw [bytes_cons, encoded, List.cons_append, List.head?_cons] at first
      exact Option.some.inj first ▸ begins

/-- A text can be cut at exactly the offsets that lie between two of its characters or at an end. -/
theorem isBoundary_iff :
    IsBoundary s offset ↔ ∃ front back, s = front ++ back ∧ byteLength front = offset := by
  constructor
  · rintro ⟨within, first⟩
    rw [← length_bytes] at within
    cases tail : (bytes s).drop offset with
    | nil =>
        have finish : (bytes s).length = offset := by
          have := List.drop_eq_nil_iff.1 tail
          omega
        exact ⟨s, [], by simp, by rw [← finish, length_bytes]⟩
    | cons b back =>
        have here : (bytes s)[offset]? = some b := by
          rw [← List.head?_drop, tail, List.head?_cons]
        have split : bytes s = (bytes s).take offset ++ b :: back := by
          rw [← tail, List.take_append_drop]
        obtain ⟨before, after, whole, same, -⟩ := cut_before_byte (first b here) split
        refine ⟨before, after, whole, ?_⟩
        rw [← length_bytes, same, List.length_take]
        omega
  · rintro ⟨front, back, rfl, rfl⟩
    refine ⟨by simp, fun b here => isUTF8FirstByte_of_head? (s := back) ?_⟩
    rwa [getElem?_bytes_append] at here

theorem isBoundary_append (front back : List Char) :
    IsBoundary (front ++ back) (byteLength front) :=
  isBoundary_iff.2 ⟨front, back, rfl, rfl⟩

/-- A cut between characters succeeds. -/
theorem cut?_byteLength (front s back : List Char) :
    cut? (byteLength front) (byteLength front + byteLength s) (front ++ (s ++ back)) = some s := by
  have stop := isBoundary_append (front ++ s) back
  rw [byteLength_append, List.append_assoc] at stop
  rw [cut?, if_pos ⟨Nat.le_add_right _ _, isBoundary_append _ _, stop⟩, between_byteLength]

example : cut? 0 1 "é)".toList = none ∧ cut? 2 3 "é)".toList = some [')'] ∧
    cut? 3 2 "é)".toList = none ∧ cut? 3 4 "é)".toList = none := by decide +kernel

theorem cut?_rest (front s : List Char) :
    cut? (byteLength front) (byteLength (front ++ s)) (front ++ s) = some s := by
  simpa using cut?_byteLength front s []

/-- Where the bytes of a word are first found, the word first stands. -/
theorem cut_of_offsetOf? (nonempty : word ≠ [])
    (found : offsetOf? (bytes word) (bytes s) = some offset) :
    ∃ before after, s = before ++ (word ++ after) ∧ byteLength before = offset ∧
      ∀ front back, s = front ++ (word ++ back) → before.length ≤ front.length := by
  obtain ⟨within, here, first⟩ := List.findIdx?_eq_some_iff_getElem.1 found
  simp only [List.getElem_tails, List.isPrefixOf_iff_prefix] at here first
  obtain ⟨back, tail⟩ := here
  have split : bytes s = (bytes s).take offset ++ (bytes word ++ back) := by
    rw [tail, List.take_append_drop]
  obtain ⟨before, after, whole, same, -⟩ := cut_at_bytes nonempty split
  have size : byteLength before = offset := by
    rw [List.length_tails] at within
    rw [← length_bytes, same, List.length_take]
    omega
  refine ⟨before, after, whole, size, fun front back other => Nat.le_of_not_lt fun shorter => ?_⟩
  -- A word further to the front would have been found there.
  have inFront : front <+: before :=
    List.prefix_of_prefix_length_le ⟨_, other.symm⟩ ⟨_, whole.symm⟩ (Nat.le_of_lt shorter)
  obtain ⟨more, rfl⟩ := inFront
  have longer : more ≠ [] := by
    rintro rfl
    simp at shorter
  have := byteLength_pos longer
  rw [byteLength_append] at size
  apply first (byteLength front) (by omega)
  rw [other, bytes_append, ← length_bytes, List.drop_left, bytes_append]
  exact List.prefix_append _ _

theorem not_infix_of_offsetOf? (absent : offsetOf? (bytes word) (bytes s) = none) :
    ¬word <:+: s := by
  rintro ⟨front, back, rfl⟩
  have here := List.findIdx?_eq_none_iff.1 absent (bytes word ++ bytes back)
    ((List.mem_tails _ _).2 ⟨bytes front, by simp⟩)
  rw [← Bool.not_eq_true, List.isPrefixOf_iff_prefix] at here
  exact here (List.prefix_append _ _)

theorem head?_bytes_eq_some_iff (ascii : IsAscii c) :
    (bytes s).head? = some c.toUInt8 ↔ ∃ rest, s = c :: rest := by
  constructor
  · intro first
    obtain ⟨more, whole⟩ := List.head?_eq_some_iff.1 first
    have split : bytes s = bytes [c] ++ more := by
      rw [whole, bytes_cons, utf8EncodeChar_of_isAscii ascii]
      rfl
    obtain ⟨rest, rfl, -⟩ := cut_behind_bytes split
    exact ⟨rest, rfl⟩
  · rintro ⟨rest, rfl⟩
    rw [bytes_cons, utf8EncodeChar_of_isAscii ascii]
    rfl

/-- A test that tells no characters apart but ASCII ones can be made on any of their bytes. -/
theorem ofUInt8_of_mem (blind : ∀ c d, ¬IsAscii c → ¬IsAscii d → p c = p d) {b : UInt8}
    (mem : b ∈ String.utf8EncodeChar c) : p (Char.ofUInt8 b) = p c := by
  by_cases ascii : IsAscii c
  · rw [utf8EncodeChar_of_isAscii ascii, List.mem_singleton] at mem
    rw [mem, ofUInt8_toUInt8 (Nat.lt_trans ascii (by decide))]
  · have large := le_of_mem_utf8EncodeChar ascii mem
    have wide : ¬IsAscii (Char.ofUInt8 b) := Nat.not_lt.2 large
    exact blind _ _ wide ascii

theorem takeWhile_bytes (blind : ∀ c d, ¬IsAscii c → ¬IsAscii d → p c = p d) (s : List Char) :
    (bytes s).takeWhile (fun b => p (Char.ofUInt8 b)) = bytes (s.takeWhile p) := by
  induction s with
  | nil => rfl
  | cons c s ih =>
      by_cases holds : p c = true
      · have all : ∀ b ∈ String.utf8EncodeChar c, p (Char.ofUInt8 b) = true := by
          intro b mem
          rw [ofUInt8_of_mem blind mem, holds]
        rw [bytes_cons, List.takeWhile_append_of_pos all, ih, List.takeWhile_cons_of_pos holds,
          bytes_cons]
      · obtain ⟨b, more, encoded, -⟩ := exists_first_byte c
        have fails : ¬p (Char.ofUInt8 b) = true := by
          rw [ofUInt8_of_mem blind (c := c) (by simp [encoded])]
          exact holds
        simp [bytes_cons, encoded, fails, holds]

end Text

end LuaBundle
