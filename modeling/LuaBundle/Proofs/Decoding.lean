import LuaBundle.Proofs.Bytes

/-! # Bytes that are read as a text

Whatever bytes are read, they fall into the bytes of characters and bytes that are passed over, and
each of the latter leaves a replacement character. A text in UTF-8 is therefore read as what it is,
and bytes are lost only where a replacement character stands.
-/

namespace LuaBundle.Text

variable {c : Char} {s : List Char} {front : List UInt8}

theorem decodeLossy_utf8EncodeChar_append (c : Char) (back : List UInt8) :
    decodeLossy (String.utf8EncodeChar c ++ back) = c :: decodeLossy back := by
  have decoded : (String.utf8EncodeChar c ++ back).toByteArray.utf8DecodeChar? 0 = some c := by
    rw [List.toByteArray_append]
    exact ByteArray.utf8DecodeChar?_utf8EncodeChar_append
  have size : (String.utf8EncodeChar c).length = c.utf8Size := String.length_utf8EncodeChar c
  obtain ⟨b, more, encoded⟩ := List.exists_cons_of_ne_nil (String.utf8EncodeChar_ne_nil (c := c))
  rw [encoded, List.length_cons] at size
  rw [encoded, List.cons_append] at decoded ⊢
  rw [decodeLossy, decoded]
  simp only [← size, Nat.add_sub_cancel, List.drop_left]

/-- A text in UTF-8 is read as what it is. -/
@[simp]
theorem decodeLossy_bytes (s : List Char) : decodeLossy (bytes s) = s := by
  induction s with
  | nil => simp [decodeLossy]
  | cons c s ih => rw [bytes_cons, decodeLossy_utf8EncodeChar_append, ih]

theorem bytes_injective : Function.Injective bytes :=
  Function.LeftInverse.injective decodeLossy_bytes

/-- How bytes fall into characters and what is passed over when they are read as a text. -/
inductive ReadAs : List UInt8 → List Char → Prop where
  | nil : ReadAs [] []
  | char {back : List UInt8} {s : List Char} (c : Char) (further : ReadAs back s) :
      ReadAs (String.utf8EncodeChar c ++ back) (c :: s)
  | passed {back : List UInt8} {s : List Char} (front : List UInt8) (further : ReadAs back s) :
      ReadAs (front ++ back) ('\ufffd' :: s)

theorem readAs_decodeLossy (read : List UInt8) : ReadAs read (decodeLossy read) := by
  induction read using decodeLossy.induct with
  | case1 =>
      rw [decodeLossy]
      exact .nil
  | case2 b rest c decoded ih =>
      obtain ⟨behind, split⟩ := ByteArray.exists_of_utf8DecodeChar?_eq_some decoded
      replace split : b :: rest = String.utf8EncodeChar c ++ behind.data.toList := by
        simpa using congrArg (fun read => read.data.toList) split
      have shorter : rest.drop (c.utf8Size - 1) = behind.data.toList := by
        have cut := congrArg (List.drop c.utf8Size) split
        rwa [← String.length_utf8EncodeChar c, List.drop_left, String.length_utf8EncodeChar,
          ← Nat.sub_add_cancel c.utf8Size_pos, List.drop_succ_cons] at cut
      rw [shorter] at ih
      rw [split, decodeLossy_utf8EncodeChar_append]
      exact .char c ih
  | case3 b rest undecoded ih =>
      have split : b :: rest = (b :: rest.take (unreadable (b :: rest) - 1)) ++
          rest.drop (unreadable (b :: rest) - 1) := by
        rw [List.cons_append, List.take_append_drop]
      rw [decodeLossy, undecoded]
      simpa only [← split] using
        ReadAs.passed (b :: rest.take (unreadable (b :: rest) - 1)) ih

/-- The front of a character is passed over in one go, but no surrogate has one. -/
example : decodeLossy [0x61, 0xf0, 0x90, 0x80, 0x62, 0xed, 0xa0, 0x80] =
    ['a', '\ufffd', 'b', '\ufffd', '\ufffd', '\ufffd'] := by
  decide +kernel

/-- Bytes are lost only where a replacement character stands. -/
theorem ReadAs.bytes_eq (readAs : ReadAs front s) (whole : '\ufffd' ∉ s) : bytes s = front := by
  induction readAs with
  | nil => rfl
  | char c _ ih => rw [bytes_cons, ih fun later => whole (List.mem_cons_of_mem c later)]
  | passed => exact absurd List.mem_cons_self whole

/-- What is read as a character other than that has the bytes of the character. -/
theorem ReadAs.subset (readAs : ReadAs front s) (mem : c ∈ s) (other : c ≠ '\ufffd') :
    String.utf8EncodeChar c ⊆ front := by
  induction readAs with
  | nil => cases mem
  | char d _ ih =>
      rcases List.mem_cons.1 mem with rfl | later
      · exact List.subset_append_left _ _
      · exact List.subset_append_of_subset_right _ (ih later)
  | passed _ _ ih =>
      exact List.subset_append_of_subset_right _ (ih ((List.mem_cons.1 mem).resolve_left other))

end LuaBundle.Text
