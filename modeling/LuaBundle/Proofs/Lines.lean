import LuaBundle.Proofs.Path.Spelling
import LuaBundle.Proofs.Templates

/-! # The lines of a text

`IsLine` says where the lines of a text stand: at its start or right behind a line feed, up to the
next break or to the end. Cutting a text at its line feeds finds just these, from first to last and
each with all that stands before it.
-/

namespace LuaBundle.Text

variable {s : List Char}

/-- What can stand behind a line. The end of a text ends no empty line, and a carriage return right
before a line feed is part of the break. -/
inductive EndsLine (line : List Char) : List Char → Prop where
  | text (some : line ≠ []) : EndsLine line []
  | feed (rest : List Char) (bare : line.getLast? ≠ some '\r') : EndsLine line ('\n' :: rest)
  | returnFeed (rest : List Char) : EndsLine line ('\r' :: '\n' :: rest)

/-- A line of a text, with all that stands before it. -/
def IsLine (s before line : List Char) : Prop :=
  (before = [] ∨ before.getLast? = some '\n') ∧ '\n' ∉ line ∧
    ∃ after, s = before ++ line ++ after ∧ EndsLine line after

theorem eq_of_cut {front front' t t' : List Char} {c : Char} (absent : c ∉ front)
    (absent' : c ∉ front') (same : front ++ c :: t = front' ++ c :: t') :
    front = front' ∧ t = t' := by
  obtain rfl := Token.eq_of_closed absent absent' same
  simpa using same

theorem isLine_of_unbroken {before line : List Char} (unbroken : '\n' ∉ s) :
    IsLine s before line ↔ before = [] ∧ line = s ∧ s ≠ [] := by
  constructor
  · rintro ⟨start, -, after, rfl, ends⟩
    have nothing : before = [] := by
      refine start.resolve_right fun last => unbroken ?_
      simp [List.mem_of_getLast? last]
    cases ends with
    | text some => simpa [nothing] using some
    | feed rest bare => simp at unbroken
    | returnFeed rest => simp at unbroken
  · rintro ⟨rfl, rfl, some⟩
    exact ⟨.inl rfl, unbroken, [], by simp, .text some⟩

theorem dropFinalReturn_of_endsLine {line after piece : List Char} (ends : EndsLine line after)
    (inside : '\n' ∉ line) (unbroken : '\n' ∉ piece)
    (whole : piece ++ '\n' :: s = line ++ after) : line = dropFinalReturn piece := by
  cases ends with
  | text some =>
      rw [List.append_nil] at whole
      simp [← whole] at inside
  | feed rest bare =>
      obtain ⟨rfl, -⟩ := eq_of_cut unbroken inside whole
      rw [dropFinalReturn, if_neg bare]
  | returnFeed rest =>
      have shifted : piece ++ '\n' :: s = (line ++ ['\r']) ++ '\n' :: rest := by simpa using whole
      obtain ⟨rfl, -⟩ := eq_of_cut unbroken (by simpa using inside) shifted
      simp [dropFinalReturn]

theorem mem_of_mem_dropFinalReturn {piece : List Char} {c : Char}
    (mem : c ∈ dropFinalReturn piece) : c ∈ piece := by
  unfold dropFinalReturn at mem
  split at mem
  · exact (List.dropLast_sublist _).mem mem
  · exact mem

theorem endsLine_dropFinalReturn (piece s : List Char) :
    ∃ after, piece ++ '\n' :: s = dropFinalReturn piece ++ after ∧
      EndsLine (dropFinalReturn piece) after := by
  unfold dropFinalReturn
  split
  · next last =>
      obtain ⟨line, rfl⟩ := List.getLast?_eq_some_iff.1 last
      exact ⟨'\r' :: '\n' :: s, by simp, .returnFeed s⟩
  · next bare => exact ⟨'\n' :: s, rfl, .feed s bare⟩

/-- The lines of a text are what stands before its first line feed and the lines behind it. -/
theorem isLine_append {before line piece : List Char} (unbroken : '\n' ∉ piece) :
    IsLine (piece ++ '\n' :: s) before line ↔
      (before = [] ∧ line = dropFinalReturn piece) ∨
        ∃ front, before = piece ++ '\n' :: front ∧ IsLine s front line := by
  constructor
  · rintro ⟨start, inside, after, whole, ends⟩
    rcases start with rfl | last
    · exact .inl ⟨rfl, dropFinalReturn_of_endsLine ends inside unbroken whole⟩
    · obtain ⟨first, front, rfl, absent⟩ := List.eq_append_cons_of_mem (List.mem_of_getLast? last)
      rw [List.append_assoc, List.append_assoc, List.cons_append] at whole
      obtain ⟨rfl, rfl⟩ := eq_of_cut unbroken absent whole
      refine .inr ⟨front, rfl, ?_, inside, after, by simp, ends⟩
      cases front with
      | nil => exact .inl rfl
      | cons c front => exact .inr (by simpa [List.getLast?_append] using last)
  · rintro (⟨rfl, rfl⟩ | ⟨front, rfl, start, inside, after, rfl, ends⟩)
    · obtain ⟨after, whole, ends⟩ := endsLine_dropFinalReturn piece s
      exact ⟨.inl rfl, fun mem => unbroken (mem_of_mem_dropFinalReturn mem), after, whole, ends⟩
    · refine ⟨.inr ?_, inside, after, by simp, ends⟩
      rcases start with rfl | last
      · simp
      · rw [List.append_cons, List.getLast?_append, last]
        rfl

/-- The lines that pieces between line feeds are, each with all that stands before it. -/
def cutLines (before : List Char) : List (List Char) → List (List Char × List Char)
  | [] => []
  | [final] => if final = [] then [] else [(before, final)]
  | piece :: next :: pieces =>
    (before, dropFinalReturn piece) :: cutLines (before ++ piece ++ ['\n']) (next :: pieces)

theorem joinWith_split (separator : Char) (s : List Char) :
    joinWith [separator] (split separator s) = s := by
  induction s with
  | nil => rfl
  | cons c rest ih =>
      cases pieces : split separator rest with
      | nil => exact absurd pieces (split_ne_nil separator rest)
      | cons piece pieces' =>
          rw [pieces] at ih
          by_cases same : c = separator
          · simp [split, same, pieces, joinWith, ih]
          · cases pieces' <;> simp_all [split, joinWith]

theorem map_cutLines (before : List Char) {pieces : List (List Char)} (some : pieces ≠ []) :
    (cutLines before pieces).map (·.2) =
      pieces.dropLast.map dropFinalReturn ++
        if pieces.getLastD [] = [] then [] else [pieces.getLastD []] := by
  fun_induction cutLines before pieces with
  | case1 => exact absurd rfl some
  | case2 before => rfl
  | case3 before final written => simp [written]
  | case4 before piece next pieces ih =>
      rw [List.map_cons, ih (by simp)]
      rfl

theorem mem_cutLines {before : List Char} {pieces : List (List Char)} (some : pieces ≠ [])
    (unbroken : ∀ piece ∈ pieces, '\n' ∉ piece) {cut : List Char × List Char} :
    cut ∈ cutLines before pieces ↔
      ∃ front, cut.1 = before ++ front ∧ IsLine (joinWith ['\n'] pieces) front cut.2 := by
  induction pieces generalizing before with
  | nil => exact absurd rfl some
  | cons piece pieces ih =>
      obtain ⟨here, others⟩ := List.forall_mem_cons.1 unbroken
      cases pieces with
      | nil =>
          simp only [cutLines, joinWith, isLine_of_unbroken here]
          by_cases empty : piece = []
          · simp [empty]
          · simp [empty, Prod.ext_iff]
      | cons next pieces =>
          simp only [cutLines, joinWith, List.mem_cons, ih (by simp) others, List.append_assoc,
            List.singleton_append, isLine_append here, Prod.ext_iff]
          constructor
          · rintro (⟨first, line⟩ | ⟨front, first, isLine⟩)
            · exact ⟨[], by simp [first], .inl ⟨rfl, line⟩⟩
            · exact ⟨_, first, .inr ⟨front, rfl, isLine⟩⟩
          · rintro ⟨_, first, (⟨rfl, line⟩ | ⟨front, rfl, isLine⟩)⟩
            · exact .inl ⟨by simp [first], line⟩
            · exact .inr ⟨front, first, isLine⟩

theorem length_le_of_mem_cutLines {before : List Char} {pieces : List (List Char)}
    {cut : List Char × List Char} (mem : cut ∈ cutLines before pieces) :
    before.length ≤ cut.1.length := by
  fun_induction cutLines before pieces with
  | case1 => cases mem
  | case2 => cases mem
  | case3 before final some =>
      obtain rfl := List.mem_singleton.1 mem
      exact Nat.le_refl _
  | case4 before piece next pieces ih =>
      rcases List.mem_cons.1 mem with rfl | mem
      · exact Nat.le_refl _
      · have further := ih mem
        simp only [List.length_append, List.length_singleton] at further
        omega

theorem pairwise_cutLines (before : List Char) (pieces : List (List Char)) :
    (cutLines before pieces).Pairwise fun cut later => cut.1.length < later.1.length := by
  fun_induction cutLines before pieces with
  | case1 => exact .nil
  | case2 => exact .nil
  | case3 => exact List.pairwise_singleton _ _
  | case4 before piece next pieces ih =>
      refine .cons (fun later mem => ?_) ih
      have further := length_le_of_mem_cutLines mem
      simp only [List.length_append, List.length_singleton] at further
      simp only
      omega

end LuaBundle.Text
