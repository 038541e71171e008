import LuaBundle.Text.Basic
import LuaBundle.Text.Encoded

/-! # Characters and their bytes

The first 128 characters are a single byte each, and no byte of any other character is among
theirs. The byte that a character begins with is never one of its later bytes, nor of another
character's. So texts can be looked for byte by byte: where the bytes of a word stand in a text, the
word itself stands, and no bytes of other characters are taken for it.
-/

namespace LuaBundle.Text

/-- A character that is a single byte. -/
def IsAscii (c : Char) : Prop :=
  c.toNat < 128

instance (c : Char) : Decidable (IsAscii c) :=
  inferInstanceAs (Decidable (c.toNat < 128))

variable {c : Char} {s word : List Char} {front back : List UInt8}

@[simp]
theorem bytes_nil : bytes [] = [] := rfl

theorem bytes_cons (c : Char) (s : List Char) :
    bytes (c :: s) = String.utf8EncodeChar c ++ bytes s := rfl

@[simp]
theorem bytes_append (s t : List Char) : bytes (s ++ t) = bytes s ++ bytes t :=
  List.flatMap_append

@[simp]
theorem length_bytes (s : List Char) : (bytes s).length = byteLength s := by
  induction s with
  | nil => rfl
  | cons c s ih => simp [bytes_cons, byteLength, ih]

theorem byteLength_pos (nonempty : s ≠ []) : 0 < byteLength s := by
  obtain ⟨c, rest, rfl⟩ := List.exists_cons_of_ne_nil nonempty
  have := c.utf8Size_pos
  simp only [byteLength]
  omega

theorem utf8EncodeChar_of_isAscii (ascii : IsAscii c) :
    String.utf8EncodeChar c = [c.toUInt8] := by
  apply String.utf8EncodeChar_eq_singleton
  rw [Char.utf8Size_eq_one_iff, UInt32.le_iff_toNat_le]
  exact Nat.le_of_lt_succ ascii

theorem toNat_toUInt8 (small : c.toNat < 256) : c.toUInt8.toNat = c.toNat := by
  rw [Char.toUInt8, UInt32.toNat_toUInt8]
  exact Nat.mod_eq_of_lt small

theorem toNat_toUInt8_of_isAscii (ascii : IsAscii c) : c.toUInt8.toNat = c.toNat :=
  toNat_toUInt8 (Nat.lt_trans ascii (by decide))

theorem toNat_ofUInt8 (b : UInt8) : (Char.ofUInt8 b).toNat = b.toNat :=
  UInt8.toNat_toUInt32 b

theorem toUInt8_ofUInt8 (b : UInt8) : (Char.ofUInt8 b).toUInt8 = b :=
  UInt8.toUInt8_toUInt32 b

theorem ofUInt8_toUInt8 (small : c.toNat < 256) : Char.ofUInt8 c.toUInt8 = c := by
  rw [← Char.toNat_inj, toNat_ofUInt8, toNat_toUInt8 small]

theorem toUInt8_inj {c d : Char} (ascii : IsAscii c) (ascii' : IsAscii d) :
    c.toUInt8 = d.toUInt8 ↔ c = d := by
  rw [← UInt8.toNat_inj, toNat_toUInt8_of_isAscii ascii, toNat_toUInt8_of_isAscii ascii',
    Char.toNat_inj]

theorem le_of_mem_utf8EncodeChar {b : UInt8} (wide : ¬IsAscii c)
    (mem : b ∈ String.utf8EncodeChar c) : 128 ≤ b.toNat := by
  have wide : ¬c.val.toNat ≤ 127 := fun small => wide (Nat.lt_succ_of_le small)
  unfold String.utf8EncodeChar at mem
  simp only [wide, if_false] at mem
  split at mem
  · simp only [List.mem_cons, List.not_mem_nil, or_false] at mem
    rcases mem with rfl | rfl <;> simp <;> omega
  · split at mem
    · simp only [List.mem_cons, List.not_mem_nil, or_false] at mem
      rcases mem with rfl | rfl | rfl <;> simp <;> omega
    · simp only [List.mem_cons, List.not_mem_nil, or_false] at mem
      rcases mem with rfl | rfl | rfl | rfl <;> simp <;> omega

/-- The byte of an ASCII character belongs to no other character. -/
theorem eq_of_toUInt8_mem {d : Char} (ascii : IsAscii c)
    (mem : c.toUInt8 ∈ String.utf8EncodeChar d) : d = c := by
  by_cases narrow : IsAscii d
  · rw [utf8EncodeChar_of_isAscii narrow, List.mem_singleton] at mem
    exact ((toUInt8_inj ascii narrow).1 mem).symm
  · have large := le_of_mem_utf8EncodeChar narrow mem
    rw [toNat_toUInt8_of_isAscii ascii] at large
    exact absurd ascii (Nat.not_lt.2 large)

theorem toUInt8_mem_bytes_iff (ascii : IsAscii c) : c.toUInt8 ∈ bytes s ↔ c ∈ s := by
  constructor
  · intro mem
    obtain ⟨d, inside, mem⟩ := List.mem_flatMap.1 mem
    exact eq_of_toUInt8_mem ascii mem ▸ inside
  · intro mem
    refine List.mem_flatMap.2 ⟨c, mem, ?_⟩
    rw [utf8EncodeChar_of_isAscii ascii]
    exact List.mem_singleton_self _

theorem getLast?_bytes_eq_some_iff (ascii : IsAscii c) :
    (bytes s).getLast? = some c.toUInt8 ↔ s.getLast? = some c := by
  rcases List.eq_nil_or_concat s with rfl | ⟨init, d, rfl⟩
  · simp
  · obtain ⟨b, last⟩ : ∃ b, (String.utf8EncodeChar d).getLast? = some b :=
      ⟨_, List.getLast?_eq_some_getLast String.utf8EncodeChar_ne_nil⟩
    have whole : (bytes (init ++ [d])).getLast? = some b := by
      simp [bytes_cons, List.getLast?_append, last]
    rw [List.concat_eq_append, whole, List.getLast?_concat, Option.some_inj, Option.some_inj]
    constructor
    · rintro rfl
      exact eq_of_toUInt8_mem ascii (List.mem_of_getLast? last)
    · rintro rfl
      simpa [utf8EncodeChar_of_isAscii ascii, eq_comm] using last

theorem exists_first_byte (c : Char) :
    ∃ b more, String.utf8EncodeChar c = b :: more ∧ b.IsUTF8FirstByte := by
  obtain ⟨b, more, encoded⟩ := List.exists_cons_of_ne_nil (String.utf8EncodeChar_ne_nil (c := c))
  have first := UInt8.isUTF8FirstByte_getElem_zero_utf8EncodeChar (c := c)
  simp only [encoded, List.getElem_cons_zero] at first
  exact ⟨b, more, encoded, first⟩

/-- No character's bytes begin with those of another. -/
theorem utf8EncodeChar_append_inj {d : Char}
    (same : String.utf8EncodeChar c ++ front = String.utf8EncodeChar d ++ back) :
    c = d ∧ front = back := by
  have decoded : (String.utf8EncodeChar c ++ front).toByteArray.utf8DecodeChar? 0 = some c := by
    rw [List.toByteArray_append]
    exact ByteArray.utf8DecodeChar?_utf8EncodeChar_append
  rw [same, List.toByteArray_append, ByteArray.utf8DecodeChar?_utf8EncodeChar_append] at decoded
  obtain rfl := Option.some.inj decoded
  exact ⟨rfl, List.append_cancel_left same⟩

/-- A text whose bytes begin with those of a word begins with the word. -/
theorem cut_behind_bytes (split : bytes s = bytes word ++ back) :
    ∃ after, s = word ++ after ∧ bytes after = back := by
  induction word generalizing s with
  | nil => exact ⟨s, rfl, split⟩
  | cons c word ih =>
      rw [bytes_cons, List.append_assoc] at split
      cases s with
      | nil => simp [String.utf8EncodeChar_ne_nil] at split
      | cons d s =>
          rw [bytes_cons] at split
          obtain ⟨rfl, behind⟩ := utf8EncodeChar_append_inj split
          obtain ⟨after, rfl, same⟩ := ih behind
          exact ⟨after, rfl, same⟩

/-- A text can be cut in front of every byte that a character begins with. -/
theorem cut_before_byte {b : UInt8} (first : b.IsUTF8FirstByte)
    (split : bytes s = front ++ b :: back) :
    ∃ before after, s = before ++ after ∧ bytes before = front ∧ bytes after = b :: back := by
  induction s generalizing front with
  | nil => simp at split
  | cons d s ih =>
      by_cases start : front = []
      · exact ⟨[], d :: s, rfl, start.symm, by rw [split, start, List.nil_append]⟩
      -- The byte is no later one of the first character, so it stands behind that character.
      have behind : ∃ more, front = String.utf8EncodeChar d ++ more ∧
          bytes s = more ++ b :: back := by
        rw [bytes_cons, List.append_eq_append_iff] at split
        rcases split with behind | ⟨more, inside, split⟩
        · exact behind
        cases more with
        | nil => exact ⟨[], by simpa using inside.symm, split.symm⟩
        | cons other more =>
            obtain ⟨rfl, -⟩ := List.cons.inj split
            have here : (String.utf8EncodeChar d)[front.length]? = some b := by simp [inside]
            obtain ⟨_, here⟩ := List.getElem?_eq_some_iff.1 here
            rw [← here, UInt8.isUTF8FirstByte_getElem_utf8EncodeChar] at first
            exact absurd (List.length_eq_zero_iff.1 first) start
      obtain ⟨more, rfl, rest⟩ := behind
      obtain ⟨before, after, rfl, rfl, same⟩ := ih rest
      exact ⟨d :: before, after, rfl, rfl, same⟩

/-- Where the bytes of a word stand, the text can be cut around the word. -/
theorem cut_at_bytes (nonempty : word ≠ []) (split : bytes s = front ++ (bytes word ++ back)) :
    ∃ before after, s = before ++ (word ++ after) ∧ bytes before = front ∧ bytes after = back := by
  obtain ⟨c, others, rfl⟩ := List.exists_cons_of_ne_nil nonempty
  obtain ⟨b, more, encoded, first⟩ := exists_first_byte c
  have word : bytes (c :: others) ++ back = b :: (more ++ (bytes others ++ back)) := by
    rw [bytes_cons, encoded, List.append_assoc, List.cons_append]
  rw [word] at split
  obtain ⟨before, rest, rfl, rfl, start⟩ := cut_before_byte first split
  rw [← word] at start
  obtain ⟨after, rfl, same⟩ := cut_behind_bytes start
  exact ⟨before, after, rfl, rfl, same⟩

end LuaBundle.Text
