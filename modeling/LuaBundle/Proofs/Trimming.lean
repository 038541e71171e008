import LuaBundle.Text.Blank
import Mathlib.Data.List.DropRight

/-! # Trimmed text

Trimming leaves no blank at either end, and a text without blanks at its ends is left as it is.
-/

namespace LuaBundle.Text

/-- No blank stands at either end. -/
def Tight (s : List Char) : Prop :=
  (∀ c ∈ s.head?, isBlank c = false) ∧ ∀ c ∈ s.getLast?, isBlank c = false

theorem tight_trim (s : List Char) : Tight (trim s) := by
  constructor
  · intro c first
    obtain ⟨cut, whole⟩ : trim s <+: trimStart s := List.rdropWhile_prefix isBlank (trimStart s)
    have start : (s.dropWhile isBlank).head? = some c := by
      rw [← trimStart, ← whole, List.head?_append, Option.mem_def.1 first]
      rfl
    have unblank := List.head?_dropWhile_not isBlank s
    rw [start] at unblank
    exact unblank
  · intro c last
    obtain ⟨some, rfl⟩ := List.mem_getLast?_eq_getLast last
    simpa [trim, trimEnd, List.rdropWhile] using
      List.rdropWhile_last_not isBlank (trimStart s) some

theorem trim_eq_self {s : List Char} (tight : Tight s) : trim s = s := by
  obtain ⟨front, back⟩ := tight
  have start : trimStart s = s := by
    cases s with
    | nil => rfl
    | cons c rest => simp [trimStart, front c rfl]
  have ending : s.rdropWhile isBlank = s := by
    rw [List.rdropWhile_eq_self_iff]
    intro some
    simp [back _ (List.getLast?_eq_getLast_of_ne_nil some)]
  rw [trim, start]
  exact ending

theorem mem_of_mem_trim {s : List Char} {c : Char} (mem : c ∈ trim s) : c ∈ s := by
  have start := (List.rdropWhile_prefix isBlank (trimStart s)).subset mem
  exact (List.dropWhile_suffix isBlank).subset start

end LuaBundle.Text
