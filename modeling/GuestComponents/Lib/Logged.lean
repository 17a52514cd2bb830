/-! Computations that write lines on their way, and two runs of them. Whether two runs of a sequence
show the same lines is a question about its rest where their first parts do and end alike
(`shown_bind_eq`). -/
namespace GuestComponents.Lib

universe u

/-- What was written, and how the computation ended. -/
structure Logged (L ε : Type) (α : Type u) where
  lines : List L
  outcome : Except ε α

/-- Both ended with values that are related, or with the same error. -/
def Both {ε : Type} {α β : Type u} (related : α → β → Prop) : Except ε α → Except ε β → Prop
  | .ok value, .ok value' => related value value'
  | .error error, .error error' => error = error'
  | _, _ => False

theorem both_refl {ε : Type} {α : Type u} (outcome : Except ε α) : Both Eq outcome outcome := by
  cases outcome <;> exact rfl

/-- How two computations that end alike end. -/
theorem Both.cases {ε : Type} {α β : Type u} {related : α → β → Prop} {outcome : Except ε α}
    {outcome' : Except ε β}
    (both : Both related outcome outcome') :
    (∃ value value', outcome = .ok value ∧ outcome' = .ok value' ∧ related value value') ∨
      ∃ error, outcome = .error error ∧ outcome' = .error error := by
  cases outcome with
  | ok value =>
    cases outcome' with
    | ok value' => exact .inl ⟨value, value', rfl, rfl, both⟩
    | error error => exact both.elim
  | error error =>
    cases outcome' with
    | ok value' => exact both.elim
    | error error' => exact .inr ⟨error, rfl, congrArg Except.error (Eq.symm both)⟩

namespace Logged

variable {L ε ε' : Type} {α α' β β' : Type u}

def bind (first : Logged L ε α) (next : α → Logged L ε β) : Logged L ε β :=
  match first.outcome with
  | .ok value => ⟨first.lines ++ (next value).lines, (next value).outcome⟩
  | .error error => ⟨first.lines, .error error⟩

instance : Monad (Logged L ε) where
  pure value := ⟨[], .ok value⟩
  bind := bind

def tell (line : L) : Logged L ε PUnit := ⟨[line], .ok ⟨⟩⟩

def ofExcept (outcome : Except ε α) : Logged L ε α := ⟨[], outcome⟩

/-- `map_err`. -/
def mapError (change : ε → ε') (self : Logged L ε α) : Logged L ε' α :=
  ⟨self.lines, match self.outcome with
    | .ok value => .ok value
    | .error error => .error (change error)⟩

/-- `map_err` with a function that writes. -/
def onError (write : ε → List L) (change : ε → ε') (self : Logged L ε α) : Logged L ε' α :=
  match self.outcome with
  | .ok value => ⟨self.lines, .ok value⟩
  | .error error => ⟨self.lines ++ write error, .error (change error)⟩

/-- The lines that pass the filter. -/
def shown (passes : L → Bool) (self : Logged L ε α) : List L := self.lines.filter passes

variable {passes : L → Bool} {first : Logged L ε α} {first' : Logged L ε α'} {next : α → Logged L ε β}
  {next' : α' → Logged L ε β'} {outcome : Except ε α} {outcome' : Except ε α'}
    {related : α → α' → Prop} {line line' : L}

theorem shown_bind : shown passes (first >>= next) = shown passes first ++
    match first.outcome with
    | .ok value => shown passes (next value)
    | .error _ => [] := by
  show shown passes (bind first next) = _
  unfold bind
  cases first.outcome with
  | ok value => exact List.filter_append ..
  | error error => exact (List.append_nil _).symm

/-- A rest that shows nothing. -/
theorem shown_bind_silent (silent : ∀ value, shown passes (next value) = []) :
    shown passes (first >>= next) = shown passes first := by
  rw [shown_bind]
  cases first.outcome with
  | ok value =>
    show shown passes first ++ shown passes (next value) = _
    rw [silent value, List.append_nil]
  | error error => exact List.append_nil _

/-- What two sequences show, their first parts showing the same and ending alike. -/
theorem shown_bind_eq (same : shown passes first = shown passes first')
    (both : Both related first.outcome first'.outcome) :
    shown passes (first >>= next) = shown passes (first' >>= next') ↔
      ∀ value value', first.outcome = .ok value → first'.outcome = .ok value' →
        shown passes (next value) = shown passes (next' value') := by
  rw [shown_bind, shown_bind, same, List.append_cancel_left_eq]
  rcases both.cases with ⟨value, value', ended, ended', _⟩ | ⟨error, ended, ended'⟩
  · simp [ended, ended']
  · simp [ended, ended']

/-- A first part that is the same in both. -/
theorem shown_same_bind_eq {next next' : α → Logged L ε β} :
    shown passes (first >>= next) = shown passes (first >>= next') ↔
      ∀ value, first.outcome = .ok value → shown passes (next value) = shown passes (next' value) := by
  refine (shown_bind_eq rfl (both_refl first.outcome)).trans ?_
  constructor
  · exact fun all value ended => all value value ended ended
  · intro all value value' ended ended'
    obtain rfl := Except.ok.inj (ended.symm.trans ended')
    exact all value ended

theorem shown_ofExcept_bind_eq (both : Both related outcome outcome') :
    shown passes (ofExcept outcome >>= next) = shown passes (ofExcept outcome' >>= next') ↔
      ∀ value value', outcome = .ok value → outcome' = .ok value' →
        shown passes (next value) = shown passes (next' value') :=
  shown_bind_eq rfl both

theorem shown_tell_bind_eq {next next' : PUnit → Logged L ε β} (passes_ : passes line = true)
    (passes_' : passes line' = true) :
    shown passes (tell line >>= next) = shown passes (tell line' >>= next') ↔
      line = line' ∧ shown passes (next ⟨⟩) = shown passes (next' ⟨⟩) := by
  rw [shown_bind, shown_bind]
  show [line].filter passes ++ shown passes (next ⟨⟩) = [line'].filter passes ++ shown passes (next' ⟨⟩) ↔ _
  rw [List.filter_cons_of_pos passes_, List.filter_cons_of_pos passes_']
  simp

theorem both_bind_outcome {related' : β → β' → Prop} (both : Both related first.outcome first'.outcome)
    (later : ∀ value value', first.outcome = .ok value → first'.outcome = .ok value' →
      Both related' (next value).outcome (next' value').outcome) :
    Both related' (first >>= next).outcome (first' >>= next').outcome := by
  show Both related' (bind first next).outcome (bind first' next').outcome
  unfold bind
  rcases both.cases with ⟨value, value', ended, ended', _⟩ | ⟨error, ended, ended'⟩
  · rw [ended, ended']
    exact later value value' ended ended'
  · rw [ended, ended']
    exact (rfl : error = error)

theorem both_same_bind_outcome {next : α → Logged L ε β} {next' : α → Logged L ε β'}
    {related' : β → β' → Prop}
    (later : ∀ value, first.outcome = .ok value → Both related' (next value).outcome (next' value).outcome) :
    Both related' (first >>= next).outcome (first >>= next').outcome := by
  refine both_bind_outcome (both_refl first.outcome) fun value value' ended ended' => ?_
  obtain rfl := Except.ok.inj (ended.symm.trans ended')
  exact later value ended

theorem bind_outcome_ok {value : β} : (first >>= next).outcome = .ok value ↔
    ∃ middle, first.outcome = .ok middle ∧ (next middle).outcome = .ok value := by
  show (bind first next).outcome = _ ↔ _
  unfold bind
  cases first.outcome with
  | ok middle => simp
  | error error => simp

theorem mapError_ok {change : ε → ε'} {value : α} :
    (first.mapError change).outcome = .ok value ↔ first.outcome = .ok value := by
  rw [mapError]
  cases first.outcome <;> simp

theorem onError_ok {write : ε → List L} {change : ε → ε'} {value : α} :
    (first.onError write change).outcome = .ok value ↔ first.outcome = .ok value := by
  rw [onError]
  cases ended : first.outcome <;> simp

theorem both_mapError {change : ε → ε'} (both : Both related first.outcome first'.outcome) :
    Both related (first.mapError change).outcome (first'.mapError change).outcome := by
  rw [mapError, mapError]
  rcases both.cases with ⟨value, value', ended, ended', related_⟩ | ⟨error, ended, ended'⟩
  · rw [ended, ended']
    exact related_
  · rw [ended, ended']
    exact (rfl : change error = change error)

/-- What is written for an error is the same where both end alike. -/
theorem shown_onError_eq {write : ε → List L} {change : ε → ε'}
    (both : Both related first.outcome first'.outcome) :
    shown passes (first.onError write change) = shown passes (first'.onError write change) ↔
      shown passes first = shown passes first' := by
  rw [onError, onError]
  rcases both.cases with ⟨value, value', ended, ended', _⟩ | ⟨error, ended, ended'⟩
  · rw [ended, ended']
    rfl
  · rw [ended, ended']
    show (first.lines ++ write error).filter passes = (first'.lines ++ write error).filter passes ↔ _
    rw [List.filter_append, List.filter_append, List.append_left_inj]
    rfl

end Logged

end GuestComponents.Lib
