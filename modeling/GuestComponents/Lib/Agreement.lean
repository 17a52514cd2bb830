import GuestComponents.Lib.Panic

/-! Two computations of the same thing. `Answers` says what comes of one, apart from the text of an
error, and two agree if the same comes of both. A conversion that panics on one side is an agreement
about nothing, so it takes part in one only where it succeeds (`agree_fromSlice_bind`). -/
namespace GuestComponents.Lib

variable {α β : Type}

/-- The call returns that value, or some error where there is none. A panic is neither. -/
def Answers (outcome : Outcome α) : Option α → Prop
  | some value => outcome = .ok value
  | none => ∃ message, outcome = .bail message

/-- Both return the same value, or errors. -/
def Agree (one other : Outcome α) : Prop := ∃ answer, Answers one answer ∧ Answers other answer

section Answers

variable {outcome : Outcome α} {answer answer' : Option α} {rest : α → Outcome β} {slice : List α} {n : Nat}

theorem Answers.mapError (answers : Answers outcome answer) (change : String → String) :
    Answers (outcome.mapError change) answer := by
  cases answer with
  | some value =>
    rw [show outcome = .ok value from answers]
    rfl
  | none =>
    obtain ⟨message, rfl⟩ := answers
    exact ⟨change message, rfl⟩

theorem Answers.map (answers : Answers outcome answer) (f : α → β) :
    Answers (outcome >>= fun value => .ok (f value)) (answer.map f) := by
  cases answer with
  | some value =>
    rw [show outcome = .ok value from answers]
    rfl
  | none =>
    obtain ⟨message, rfl⟩ := answers
    exact ⟨message, rfl⟩

theorem Answers.bind {value : α} {answer : Option β} (answers : Answers outcome (some value))
    (later : Answers (rest value) answer) : Answers (outcome >>= rest) answer := by
  rw [show outcome = .ok value from answers]
  exact later

/-- A slice of the right length is taken as the array of it. -/
theorem answers_tryInto (message : String) (array : Vector α n) :
    Answers (tryInto n message array.toList) (some array) := tryInto_ok.mpr rfl

theorem Answers.bind_none (answers : Answers outcome none) : Answers (outcome >>= rest) none := by
  obtain ⟨message, rfl⟩ := answers
  exact ⟨message, rfl⟩

theorem Answers.unique (answers : Answers outcome answer) (answers' : Answers outcome answer') : answer = answer' := by
  cases answer with
  | some value =>
    cases answer' with
    | some value' => rw [← Except.ok.inj (Eq.trans (Eq.symm answers) answers')]
    | none =>
      obtain ⟨message, failed⟩ := answers'
      cases Eq.trans (Eq.symm answers) failed
  | none =>
    obtain ⟨message, rfl⟩ := answers
    cases answer' with
    | some value' => cases answers'
    | none => rfl

theorem not_answers_panic {message : String} : ¬ Answers (.panic message : Outcome α) answer := by
  intro answers
  cases answer with
  | some value => cases answers
  | none =>
    obtain ⟨_, same⟩ := answers
    cases same

theorem agree_iff_of_answers {one other : Outcome α} (answers : Answers one answer) :
    Agree one other ↔ Answers other answer := by
  constructor
  · rintro ⟨_, one', other'⟩
    rwa [answers.unique one']
  · intro answers'
    exact ⟨answer, answers, answers'⟩

theorem not_agree_panic {one : Outcome α} {message : String} : ¬ Agree one (.panic message) := by
  rintro ⟨_, _, answers⟩
  exact not_answers_panic answers

theorem not_panic_agree {other : Outcome α} {message : String} : ¬ Agree (.panic message) other := by
  rintro ⟨_, answers, _⟩
  exact not_answers_panic answers

/-- An array is made of a slice of its length, and of no other. -/
theorem agree_fromSlice_bind {one : Outcome β} {rest : Vector α n → Outcome β} :
    Agree one (fromSlice n slice >>= rest) ↔ ∃ array : Vector α n,
      slice = array.toList ∧ Agree one (rest array) := by
  constructor
  · intro agree
    by_cases fits : slice.length = n
    · refine ⟨⟨slice.toArray, fits⟩, rfl, ?_⟩
      rwa [fromSlice, dif_pos fits] at agree
    · rw [fromSlice, dif_neg fits] at agree
      exact absurd agree not_agree_panic
  · rintro ⟨array, rfl, agree⟩
    rwa [fromSlice_ok.mpr rfl]

/-- Slices that are arrays are those of their length. -/
theorem exists_vector_iff : (∃ array : Vector α n, slice = array.toList) ↔ slice.length = n := by
  constructor
  · rintro ⟨array, rfl⟩
    exact array.length_toList
  · intro fits
    exact ⟨⟨slice.toArray, fits⟩, rfl⟩

end Answers

end GuestComponents.Lib
