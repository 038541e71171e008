import LuaBundle.Trace

/-! # Results and trails of traced computations

What a computation results in does not depend on its trail, so a composed computation can be taken
apart by its result alone: it succeeds if every part does, and fails with the error of the first
part that fails. Its trail is the trail of the first part and, if that succeeds, of the rest.
-/

namespace LuaBundle.Traced

variable {α β σ : Type}

@[simp]
theorem result_tell (events : List Event) : (tell events).result = .ok () := rfl

theorem result_bind (first : Traced α) (next : α → Traced β) :
    (first.bind next).result = first.result.bind fun value => (next value).result := by
  unfold bind
  cases first.result <;> rfl

theorem result_bind_eq_ok {first : Traced α} {next : α → Traced β} {value : β} :
    (first.bind next).result = .ok value ↔
      ∃ middle, first.result = .ok middle ∧ (next middle).result = .ok value := by
  rw [result_bind]
  cases first.result <;> simp [Except.bind]

theorem result_bind_eq_error {first : Traced α} {next : α → Traced β} {error : BuildError} :
    (first.bind next).result = .error error ↔ first.result = .error error ∨
      ∃ middle, first.result = .ok middle ∧ (next middle).result = .error error := by
  rw [result_bind]
  cases first.result <;> simp [Except.bind]

/-- If something is seen of a result, there is a result to see it of. -/
theorem exists_of_map_eq_ok {ε : Type} {result : Except ε α} {view : α → β} {value : β}
    (seen : result.map view = .ok value) : ∃ held, result = .ok held ∧ view held = value := by
  cases result with
  | error error => cases seen
  | ok held => exact ⟨held, rfl, Except.ok.inj seen⟩

theorem result_forEach_append (step : σ → α → Traced σ) (state : σ) (front back : List α) :
    (forEach step state (front ++ back)).result =
      (forEach step state front).result.bind fun middle => (forEach step middle back).result := by
  induction front generalizing state with
  | nil => rfl
  | cons a front ih =>
      simp only [List.cons_append, forEach, result_bind]
      cases (step state a).result with
      | error error => rfl
      | ok middle => exact ih middle

theorem bind_assoc {γ : Type} (first : Traced α) (next : α → Traced β) (last : β → Traced γ) :
    (first.bind next).bind last = first.bind fun value => (next value).bind last := by
  unfold bind
  cases first.result with
  | error error => rfl
  | ok value =>
      simp only
      cases (next value).result with
      | error error => rfl
      | ok value => simp only [List.append_assoc]

theorem tell_bind_tell (earlier later : List Event) (next : Unit → Traced β) :
    ((tell earlier).bind fun _ => (tell later).bind next) =
      (tell (earlier ++ later)).bind next := by
  simp only [bind, tell, List.append_assoc]

theorem events_bind_of_ok {first : Traced α} {value : α} (succeeded : first.result = .ok value)
    (next : α → Traced β) :
    (first.bind next).events = first.events ++ (next value).events := by
  simp only [bind, succeeded]

theorem events_bind_of_error {first : Traced α} {error : BuildError}
    (failed : first.result = .error error) (next : α → Traced β) :
    (first.bind next).events = first.events := by
  simp only [bind, failed]

theorem mem_events_bind {first : Traced α} {next : α → Traced β} {event : Event} :
    event ∈ (first.bind next).events ↔ event ∈ first.events ∨
      ∃ value, first.result = .ok value ∧ event ∈ (next value).events := by
  cases ran : first.result with
  | error error => simp [events_bind_of_error ran]
  | ok value => simp [events_bind_of_ok ran]

theorem mem_events_forEach {step : σ → α → Traced σ} {state : σ} {items : List α} {event : Event}
    (mem : event ∈ (forEach step state items).events) :
    ∃ item ∈ items, ∃ before, event ∈ (step before item).events := by
  induction items generalizing state with
  | nil => cases mem
  | cons item items ih =>
      rcases mem_events_bind.1 mem with here | ⟨next, -, later⟩
      · exact ⟨item, List.mem_cons_self, state, here⟩
      · obtain ⟨other, among, before, inside⟩ := ih later
        exact ⟨other, List.mem_cons_of_mem item among, before, inside⟩

end LuaBundle.Traced
