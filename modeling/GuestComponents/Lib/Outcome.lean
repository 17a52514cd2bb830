/-! Fallible computations: a sequence succeeds when each part of it does, one
after the other (`bind_ok`), and so do a loop that collects results (`mapM_some`) and
a loop of checks (`forM_ok`). -/
namespace GuestComponents.Lib

universe u v

variable {ε : Type u} {α β : Type v}

theorem bind_ok {first : Except ε α} {next : α → Except ε β} {result : β} :
    first >>= next = .ok result ↔ ∃ value, first = .ok value ∧ next value = .ok result := by
  cases first with
  | error error =>
    constructor
    · intro ran
      cases ran
    · rintro ⟨value, ended, _⟩
      cases ended
  | ok value =>
    constructor
    · intro ran
      exact ⟨value, rfl, ran⟩
    · rintro ⟨other, ended, ran⟩
      cases ended
      exact ran

theorem mapM_some {f : α → Option β} {list : List α} {results : List β}
    (ran : list.mapM f = some results) : list.map f = results.map some := by
  induction list generalizing results with
  | nil =>
    cases ran
    rfl
  | cons x rest ih =>
    rw [List.mapM_cons] at ran
    obtain ⟨first, head, ran⟩ := Option.bind_eq_some_iff.mp ran
    obtain ⟨others, tail, ran⟩ := Option.bind_eq_some_iff.mp ran
    cases ran
    simp [head, ih tail]

/-- A loop that collects results succeeds where every element has one. -/
theorem mapM_ok {f : α → Except ε β} {list : List α} {results : List β} :
    list.mapM f = .ok results ↔ list.map (fun x => (f x).toOption) = results.map some := by
  induction list generalizing results with
  | nil =>
    cases results <;> simp [pure, Except.pure]
  | cons x rest ih =>
    rw [List.mapM_cons, bind_ok, List.map_cons]
    constructor
    · rintro ⟨first, head, ran⟩
      obtain ⟨others, tail, same⟩ := bind_ok.mp ran
      cases same
      rw [ih.mp tail, head]
      rfl
    · intro same
      cases results with
      | nil => cases same
      | cons first others =>
        obtain ⟨head, tail⟩ := List.cons.inj same
        cases result : f x with
        | error error =>
          rw [result] at head
          cases head
        | ok value =>
          rw [result] at head
          cases head
          exact ⟨first, rfl, bind_ok.mpr ⟨others, ih.mpr tail, rfl⟩⟩

/-- Nothing is missing from a list of results. -/
theorem all_some_iff {list : List (Option α)} : none ∉ list ↔ ∃ values : List α, list = values.map some := by
  induction list with
  | nil => exact ⟨fun _ => ⟨[], rfl⟩, fun _ => List.not_mem_nil⟩
  | cons x rest ih =>
    rw [List.mem_cons, not_or, ih]
    constructor
    · rintro ⟨present, values, rfl⟩
      cases x with
      | none => exact absurd rfl present
      | some value => exact ⟨value :: values, rfl⟩
    · rintro ⟨values, same⟩
      cases values with
      | nil => cases same
      | cons value values =>
        cases same
        exact ⟨nofun, values, rfl⟩

/-- A loop of checks passes when each of them does. -/
theorem forM_ok {α : Type} {f : α → Except ε Unit} {list : List α} :
    list.forM f = .ok () ↔ ∀ x ∈ list, f x = .ok () := by
  induction list with
  | nil => simp [pure, Except.pure]
  | cons x rest ih =>
    have unfolded : (x :: rest).forM f = (f x >>= fun _ => rest.forM f) := rfl
    rw [unfolded, bind_ok, List.forall_mem_cons, ← ih]
    constructor
    · rintro ⟨⟨⟩, first, others⟩
      exact ⟨first, others⟩
    · rintro ⟨first, others⟩
      exact ⟨(), first, others⟩

end GuestComponents.Lib
