import LuaBundle.ImportCall
import LuaBundle.Lua.Identifier
import Mathlib.Data.List.TakeWhile

/-! # Where a source is cut

The scan leaves out positions: it goes on behind a name that does not start a call, and behind the
closing parenthesis of one that does. `Cuts` is what a scan without leaps would find, which asks at
every position outside of a call whether one starts there. For a name that no call can start inside
of, the two agree: the scan gives the cuts, and there are no others. Whatever the name is, nothing
of a source is lost.
-/

namespace LuaBundle

theorem Lua.isNameChar_of_isNameSpelling {name : List Char} (spelled : isNameSpelling name = true) :
    ∀ c ∈ name, Text.isNameChar c = true := by
  cases name with
  | nil => cases spelled
  | cons first others =>
      obtain ⟨start, more⟩ := Bool.and_eq_true_iff.1 spelled
      intro c mem
      rcases List.mem_cons.1 mem with rfl | mem
      · simp only [Text.isNameStart, Bool.or_eq_true] at start
        simp only [Text.isNameChar, Text.isAsciiAlphanumeric, Bool.or_eq_true]
        rcases start with letter | underscore
        · exact .inl (.inl letter)
        · exact .inr underscore
      · exact List.all_eq_true.1 more c mem

namespace ImportCall

variable {name s rest : List Char} {call : ImportCall} {previous : Option Char}

/-- Nothing but blanks stands before the opening parenthesis, and the first closing one ends the
call. -/
structure IsWritten (call : ImportCall) : Prop where
  blank : ∀ c ∈ call.blanks, Text.isAsciiBlank c = true
  closed : ')' ∉ call.inner

theorem source_append (name rest : List Char) (call : ImportCall) :
    call.source name ++ rest =
      name ++ (call.blanks ++ '(' :: (call.inner ++ ')' :: rest)) := by
  simp [source]

theorem afterName?_eq_some_iff :
    afterName? s = some (call, rest) ↔
      call.IsWritten ∧ s = call.blanks ++ '(' :: (call.inner ++ ')' :: rest) := by
  constructor
  · intro read
    unfold afterName? at read
    split at read
    · next inside opened =>
        split at read
        · next c after ended =>
            cases read
            have stop := List.head?_dropWhile_not (· != ')') inside
            simp only [ended, List.head?_cons, bne_eq_false_iff_eq] at stop
            subst stop
            refine ⟨⟨fun c mem => List.mem_takeWhile_imp mem, fun mem => ?_⟩, ?_⟩
            · simpa using List.mem_takeWhile_imp mem
            · rw [← ended, List.takeWhile_append_dropWhile, ← opened,
                List.takeWhile_append_dropWhile]
        · cases read
    · cases read
  · rintro ⟨⟨blank, closed⟩, rfl⟩
    have opened : ∀ c ∈ call.inner, (c != ')') = true := by
      intro c mem
      simpa using fun bad : c = ')' => closed (bad ▸ mem)
    simp [afterName?, List.dropWhile_append_of_pos blank, List.takeWhile_append_of_pos blank,
      List.dropWhile_append_of_pos opened, List.takeWhile_append_of_pos opened, Text.isAsciiBlank]

/-- A call of `name` stands at the front of a text, and what stands before it lets one start. -/
def Starts (name : List Char) (previous : Option Char) (s : List Char) : Prop :=
  previous.all mayFollow = true ∧
    ∃ call rest, IsWritten call ∧ s = call.source name ++ rest

theorem starts_append_iff :
    Starts name previous (name ++ s) ↔
      previous.all mayFollow = true ∧ ∃ call rest, afterName? s = some (call, rest) := by
  simp only [Starts, afterName?_eq_some_iff, source_append, List.append_cancel_left_eq]

/-- A parenthesis that is closed somewhere opens a call. -/
theorem exists_call {blanks inside : List Char} (name : List Char)
    (blank : ∀ c ∈ blanks, Text.isAsciiBlank c = true) (closing : ')' ∈ inside) :
    ∃ call rest, IsWritten call ∧
      name ++ (blanks ++ '(' :: inside) = call.source name ++ rest := by
  obtain ⟨inner, rest, rfl, first⟩ := List.eq_append_cons_of_mem closing
  exact ⟨⟨blanks, inner⟩, rest, ⟨blank, first⟩, (source_append name rest ⟨blanks, inner⟩).symm⟩

theorem Starts.isPrefix (starts : Starts name previous s) : name <+: s := by
  obtain ⟨-, call, rest, -, rfl⟩ := starts
  rw [source_append]
  exact List.prefix_append _ _

theorem source_ne_nil (name : List Char) (call : ImportCall) : call.source name ≠ [] := by
  simp [source]

theorem getLast?_source (name : List Char) (call : ImportCall) :
    (call.source name).getLast? = some ')' :=
  List.getLast?_concat

theorem source_injective {call' : ImportCall} {rest' : List Char} (written : call.IsWritten)
    (written' : call'.IsWritten) (same : call.source name ++ rest = call'.source name ++ rest') :
    call = call' ∧ rest = rest' := by
  simp only [source_append, List.append_cancel_left_eq] at same
  have read := afterName?_eq_some_iff.2 ⟨written, same.symm⟩
  have read' : afterName? _ = some (call', rest') := afterName?_eq_some_iff.2 ⟨written', rfl⟩
  rw [read'] at read
  cases read
  exact ⟨rfl, rfl⟩

/-- A name that no call can start inside of: behind each of its characters none may. -/
structure Solid (name : List Char) : Prop where
  nonempty : name ≠ []
  glued : ∀ c ∈ name, mayFollow c = false

theorem mayFollow_of_isNameChar {c : Char} (named : Text.isNameChar c = true) :
    mayFollow c = false := by
  rcases Bool.or_eq_true_iff.1 named with named | named
  · simp [mayFollow, named]
  · simp [mayFollow, beq_iff_eq.1 named]

theorem solid_of_isNameSpelling (spelled : Lua.isNameSpelling name = true) : Solid name where
  nonempty := by
    rintro rfl
    cases spelled
  glued c mem := mayFollow_of_isNameChar (Lua.isNameChar_of_isNameSpelling spelled c mem)

end ImportCall

namespace ImportCuts

open ImportCall

variable {name s text : List Char} {previous : Option Char} {cuts : ImportCuts}

/-- The text that cuts are of, if something is written for each call. -/
def rewrite (write : ImportCall → List Char) (cuts : ImportCuts) : List Char :=
  cuts.calls.flatMap (fun cut => cut.1 ++ write cut.2) ++ cuts.tail

@[simp]
theorem rewrite_prepend (write : ImportCall → List Char) (text : List Char) (cuts : ImportCuts) :
    (cuts.prepend text).rewrite write = text ++ cuts.rewrite write := by
  obtain ⟨calls, tail⟩ := cuts
  cases calls with
  | nil => simp [prepend, rewrite]
  | cons cut calls => simp [prepend, rewrite]

theorem rewrite_cons (write : ImportCall → List Char) (cut : List Char × ImportCall)
    (calls : List (List Char × ImportCall)) (tail : List Char) :
    (ImportCuts.mk (cut :: calls) tail).rewrite write =
      cut.1 ++ (write cut.2 ++ (ImportCuts.mk calls tail).rewrite write) := by
  simp [rewrite]

theorem prepend_nil (cuts : ImportCuts) : cuts.prepend [] = cuts := by
  obtain ⟨calls, tail⟩ := cuts
  cases calls <;> rfl

theorem prepend_prepend (front back : List Char) (cuts : ImportCuts) :
    (cuts.prepend back).prepend front = cuts.prepend (front ++ back) := by
  obtain ⟨calls, tail⟩ := cuts
  cases calls <;> simp [prepend]

theorem getLast?_cons_or (c : Char) (text : List Char) (previous : Option Char) :
    (c :: text).getLast?.or previous = text.getLast?.or (some c) := by
  rw [List.getLast?_cons]
  cases text.getLast? <;> rfl

/-- What a scan does is one of four things: it ends, takes a call, passes a name that starts none,
or passes a character at which the name does not stand. -/
theorem scan_induct (name : List Char) {motive : Option Char → List Char → ImportCuts → Prop}
    (done : ∀ previous, motive previous [] ⟨[], []⟩)
    (call : ∀ previous call rest cuts, previous.all mayFollow = true → IsWritten call →
      motive (some ')') rest cuts →
      motive previous (call.source name ++ rest) ⟨([], call) :: cuts.calls, cuts.tail⟩)
    (passName : ∀ previous rest cuts, name ≠ [] → ¬Starts name previous (name ++ rest) →
      motive name.getLast? rest cuts → motive previous (name ++ rest) (cuts.prepend name))
    (passChar : ∀ previous c rest cuts, (name ≠ [] → ¬name <+: c :: rest) →
      motive (some c) rest cuts → motive previous (c :: rest) (cuts.prepend [c]))
    (previous : Option Char) (s : List Char) : motive previous s (scan name previous s) := by
  fun_induction scan name previous s with
  | case1 previous => exact done previous
  | case2 previous c rest found after free taken behind read cuts ih =>
      obtain ⟨written, split⟩ := afterName?_eq_some_iff.1 read
      have whole : c :: rest = taken.source name ++ behind := by
        rw [source_append, ← split]
        exact (List.prefix_iff_eq_append.1 (List.isPrefixOf_iff_prefix.1 found.2)).symm
      rw [whole]
      exact call previous taken behind _ free written ih
  | case3 previous c rest found after free unread ih =>
      have whole : c :: rest = name ++ after :=
        (List.prefix_iff_eq_append.1 (List.isPrefixOf_iff_prefix.1 found.2)).symm
      rw [whole]
      refine passName previous after _ found.1 ?_ ih
      rw [starts_append_iff]
      rintro ⟨-, taken, behind, read⟩
      rw [unread] at read
      cases read
  | case4 previous c rest found after bound ih =>
      have whole : c :: rest = name ++ after :=
        (List.prefix_iff_eq_append.1 (List.isPrefixOf_iff_prefix.1 found.2)).symm
      rw [whole]
      exact passName previous after _ found.1 (fun starts => bound starts.1) ih
  | case5 previous c rest absent ih =>
      refine passChar previous c rest _ ?_ ih
      intro nonempty stands
      exact absent ⟨nonempty, List.isPrefixOf_iff_prefix.2 stands⟩

/-- Nothing of a source is lost, whatever the name is. -/
theorem rewrite_scan (name : List Char) (previous : Option Char) (s : List Char) :
    (scan name previous s).rewrite (·.source name) = s := by
  induction previous, s using scan_induct name with
  | done previous => rfl
  | call previous call rest cuts _ _ ih =>
      rw [rewrite_cons, List.nil_append]
      exact congrArg (call.source name ++ ·) ih
  | passName previous rest cuts _ _ ih => rw [rewrite_prepend, ih]
  | passChar previous c rest cuts _ ih => rw [rewrite_prepend, ih, List.singleton_append]

/-- A text is cut by taking each call that starts at the position looked at, and by passing over a
single character where none does. -/
inductive Cuts (name : List Char) : Option Char → List Char → ImportCuts → Prop
  | done {previous : Option Char} : Cuts name previous [] ⟨[], []⟩
  | call {previous : Option Char} {call : ImportCall} {rest : List Char} {cuts : ImportCuts} :
      previous.all mayFollow = true → IsWritten call → Cuts name (some ')') rest cuts →
      Cuts name previous (call.source name ++ rest) ⟨([], call) :: cuts.calls, cuts.tail⟩
  | pass {previous : Option Char} {c : Char} {rest : List Char} {cuts : ImportCuts} :
      ¬Starts name previous (c :: rest) → Cuts name (some c) rest cuts →
      Cuts name previous (c :: rest) (cuts.prepend [c])

namespace Cuts

theorem unique {other : ImportCuts} (first : Cuts name previous s cuts)
    (second : Cuts name previous s other) : cuts = other := by
  induction first generalizing other with
  | done =>
      generalize nothing : ([] : List Char) = s at second
      cases second with
      | done => rfl
      | call _ _ _ => exact absurd nothing.symm (by simp [source])
      | pass _ _ => cases nothing
  | @call previous call rest cuts free written _ ih =>
      generalize here : call.source name ++ rest = s at second
      cases second with
      | done => exact absurd here (by simp [source])
      | call _ written' second =>
          obtain ⟨rfl, rfl⟩ := source_injective written written' here
          rw [ih second]
      | pass no _ => exact absurd ⟨free, call, rest, written, here.symm⟩ no
  | @pass previous c rest cuts no _ ih =>
      generalize here : c :: rest = s at second
      cases second with
      | done => cases here
      | call free written _ => exact absurd ⟨free, _, _, written, here⟩ no
      | pass _ second =>
          cases here
          rw [ih second]

/-- Where no call may start, characters are passed one by one. -/
theorem prepend (bound : previous.all mayFollow = false) (glued : ∀ c ∈ text, mayFollow c = false)
    (behind : Cuts name (text.getLast?.or previous) s cuts) :
    Cuts name previous (text ++ s) (cuts.prepend text) := by
  induction text generalizing previous with
  | nil => simpa [prepend_nil] using behind
  | cons c text ih =>
      obtain ⟨here, later⟩ := List.forall_mem_cons.1 glued
      rw [getLast?_cons_or] at behind
      have no : ¬Starts name previous (c :: (text ++ s)) := by
        rintro ⟨free, -⟩
        rw [bound] at free
        cases free
      have passed := Cuts.pass no (ih here later behind)
      rwa [prepend_prepend] at passed

end Cuts

/-- The scan leaves out no call: what it passes without looking are positions inside a name, where
none starts. -/
theorem cuts_scan (solid : Solid name) (previous : Option Char) (s : List Char) :
    Cuts name previous s (scan name previous s) := by
  induction previous, s using scan_induct name with
  | done previous => exact .done
  | call previous call rest cuts free written ih => exact .call free written ih
  | passName previous rest cuts nonempty no ih =>
      obtain ⟨c, others, rfl⟩ := List.exists_cons_of_ne_nil nonempty
      obtain ⟨here, later⟩ := List.forall_mem_cons.1 solid.glued
      have last : (c :: others).getLast? = others.getLast?.or (some c) := by
        rw [← getLast?_cons_or c others none, Option.or_none]
      rw [last] at ih
      -- Only the first character is looked at: behind it, the rest of the name lets nothing start.
      have passed := Cuts.pass no (.prepend here later ih)
      rwa [prepend_prepend] at passed
  | passChar previous c rest cuts absent ih =>
      exact .pass (fun starts => absent solid.nonempty starts.isPrefix) ih

theorem Cuts.eq_scan (solid : Solid name) (cut : Cuts name previous s cuts) :
    scan name previous s = cuts :=
  (cuts_scan solid previous s).unique cut

end ImportCuts

end LuaBundle
