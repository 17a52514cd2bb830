import GuestComponents.Lib.Outcome

/-! Computations that return a value, return an error or panic. A sequence panics
nowhere when its first part does not and what follows a value of it does not
(`panicFree_bind`), so that the steps which can panic, a subtraction or the
conversion to an array of a fixed length, say when the whole does. -/
namespace GuestComponents.Lib

/-- How a call ends that returns no value: with an error for its caller, or with a panic. -/
inductive Fault (ε : Type) where
  | error (error : ε)
  | panic (message : String)
deriving DecidableEq

abbrev Outcome := Except (Fault String)

variable {α β : Type}

def Outcome.bail (message : String) : Outcome α := .error (.error message)

def Outcome.panic (message : String) : Outcome α := .error (.panic message)

/-- `?` on a `Result`. -/
def Outcome.ofResult : Except String α → Outcome α
  | .ok value => .ok value
  | .error message => .bail message

/-- `ok_or`. -/
def Outcome.okOr (message : String) : Option α → Outcome α
  | some value => .ok value
  | none => .bail message

/-- `map_err`, or the context that anyhow adds. -/
def Outcome.mapError (change : String → String) : Outcome α → Outcome α
  | .error (.error message) => .bail (change message)
  | outcome => outcome

/-! Results whose errors are of a type of their own. -/

def Fault.fail {ε : Type} (error : ε) : Except (Fault ε) α := .error (.error error)

/-- `map_err` on a `Result`. -/
def Fault.ofResult {ε : Type} (toError : String → ε) : Except String α → Except (Fault ε) α
  | .ok value => .ok value
  | .error message => .error (.error (toError message))

/-- `map_err` on a call that may panic. -/
def Fault.ofOutcome {ε : Type} (toError : String → ε) : Outcome α → Except (Fault ε) α
  | .ok value => .ok value
  | .error (.error message) => .error (.error (toError message))
  | .error (.panic message) => .error (.panic message)

/-- `ok_or`. -/
def Fault.okOr {ε : Type} (error : ε) : Option α → Except (Fault ε) α
  | some value => .ok value
  | none => .error (.error error)

/-- `-` on `usize`. -/
def checkedSub (a b : Nat) : Outcome Nat :=
  if b ≤ a then .ok (a - b) else .panic "attempt to subtract with overflow"

/-- `GenericArray::from_slice`. -/
def fromSlice (n : Nat) (slice : List α) : Outcome (Vector α n) :=
  if same : slice.length = n then .ok ⟨slice.toArray, same⟩
  else .panic "assertion failed: slice length does not match the array length"

/-- `try_into` an array of a fixed length. -/
def tryInto (n : Nat) (message : String) (list : List α) : Outcome (Vector α n) :=
  if same : list.length = n then .ok ⟨list.toArray, same⟩ else .bail message

/-- `&buffer[..end]`. -/
def sliceTo (buffer : List α) (stop : Nat) : Outcome (List α) :=
  if stop ≤ buffer.length then .ok (buffer.take stop)
  else .panic "range end index out of range for slice"

/-- `slice::split_at`. -/
def splitAt (slice : List α) (mid : Nat) : Outcome (List α × List α) :=
  if mid ≤ slice.length then .ok (slice.splitAt mid) else .panic "mid > len"

/-- The call returns a value or an error. -/
def PanicFree (outcome : Outcome α) : Prop := ∀ message, outcome ≠ .panic message

instance (outcome : Outcome α) : Decidable (PanicFree outcome) :=
  match outcome with
  | .ok _ => .isTrue nofun
  | .error (.error _) => .isTrue nofun
  | .error (.panic message) => .isFalse fun free => free message rfl

@[simp] theorem panicFree_ok (value : α) : PanicFree (.ok value : Outcome α) := nofun

@[simp] theorem panicFree_bail (message : String) : PanicFree (.bail message : Outcome α) := nofun

@[simp] theorem not_panicFree_panic (message : String) : ¬ PanicFree (.panic message : Outcome α) :=
  fun free => free message rfl

@[simp] theorem panicFree_ofResult (result : Except String α) : PanicFree (.ofResult result) := by
  cases result <;> nofun

@[simp] theorem panicFree_okOr (message : String) (option : Option α) :
    PanicFree (.okOr message option) := by
  cases option <;> nofun

@[simp] theorem panicFree_tryInto (n : Nat) (message : String) (list : List α) :
    PanicFree (tryInto n message list) := by
  rw [tryInto]
  split
  · exact panicFree_ok _
  · exact panicFree_bail _

@[simp] theorem panicFree_checkedSub {a b : Nat} : PanicFree (checkedSub a b) ↔ b ≤ a := by
  rw [checkedSub]
  split <;> simp_all

@[simp] theorem panicFree_fromSlice {n : Nat} {slice : List α} :
    PanicFree (fromSlice n slice) ↔ slice.length = n := by
  rw [fromSlice]
  split <;> simp_all

@[simp] theorem panicFree_sliceTo {buffer : List α} {stop : Nat} :
    PanicFree (sliceTo buffer stop) ↔ stop ≤ buffer.length := by
  rw [sliceTo]
  split <;> simp_all

@[simp] theorem panicFree_splitAt {slice : List α} {mid : Nat} :
    PanicFree (splitAt slice mid) ↔ mid ≤ slice.length := by
  rw [splitAt]
  split <;> simp_all

@[simp] theorem panicFree_mapError {change : String → String} {outcome : Outcome α} :
    PanicFree (outcome.mapError change) ↔ PanicFree outcome := by
  rcases outcome with (_ | _) | _
  · exact ⟨fun _ => panicFree_bail _, fun _ => panicFree_bail _⟩
  · rfl
  · rfl

/-- A sequence panics nowhere when no part of it does that is reached. -/
theorem panicFree_bind {first : Outcome α} {next : α → Outcome β} :
    PanicFree (first >>= next) ↔
      PanicFree first ∧ ∀ value, first = .ok value → PanicFree (next value) := by
  cases first with
  | ok value =>
    constructor
    · intro free
      refine ⟨panicFree_ok value, ?_⟩
      rintro _ ⟨⟩
      exact free
    · rintro ⟨_, later⟩
      exact later value rfl
  | error fault =>
    constructor
    · intro free
      refine ⟨fun message panicked => ?_, nofun⟩
      cases panicked
      exact free message rfl
    · rintro ⟨free, _⟩ message panicked
      cases panicked
      exact free message rfl

/-- A sequence fails where its first part does, or what follows a value of it. -/
theorem bind_error {ε : Type} {first : Except ε α} {next : α → Except ε β} {error : ε} :
    first >>= next = .error error ↔
      first = .error error ∨ ∃ value, first = .ok value ∧ next value = .error error := by
  cases first with
  | error other =>
    constructor
    · rintro ⟨⟩
      exact .inl rfl
    · rintro (failed | ⟨value, ended, _⟩)
      · cases failed
        rfl
      · cases ended
  | ok value =>
    constructor
    · exact fun failed => .inr ⟨value, rfl, failed⟩
    · rintro (failed | ⟨_, ended, failed⟩)
      · cases failed
      · cases ended
        exact failed

@[simp] theorem ofResult_ok {result : Except String α} {value : α} :
    Outcome.ofResult result = .ok value ↔ result = .ok value := by
  cases result <;> simp [Outcome.ofResult, Outcome.bail]

@[simp] theorem okOr_ok {message : String} {option : Option α} {value : α} :
    Outcome.okOr message option = .ok value ↔ option = some value := by
  cases option <;> simp [Outcome.okOr, Outcome.bail]

@[simp] theorem mapError_ok {change : String → String} {outcome : Outcome α} {value : α} :
    outcome.mapError change = .ok value ↔ outcome = .ok value := by
  rcases outcome with (_ | _) | _ <;> simp [Outcome.mapError, Outcome.bail]

section Faults

variable {ε : Type} {toError : String → ε} {value : α}

@[simp] theorem Fault.ofResult_ok {result : Except String α} :
    Fault.ofResult toError result = .ok value ↔ result = .ok value := by
  cases result <;> simp [Fault.ofResult]

@[simp] theorem Fault.ofOutcome_ok {outcome : Outcome α} :
    Fault.ofOutcome toError outcome = .ok value ↔ outcome = .ok value := by
  rcases outcome with (_ | _) | _ <;> simp [Fault.ofOutcome]

@[simp] theorem Fault.okOr_ok {error : ε} {option : Option α} :
    Fault.okOr error option = .ok value ↔ option = some value := by
  cases option <;> simp [Fault.okOr]

end Faults

@[simp] theorem checkedSub_ok {a b c : Nat} : checkedSub a b = .ok c ↔ b ≤ a ∧ c = a - b := by
  rw [checkedSub]
  split
  · rename_i fits
    simp [fits, eq_comm]
  · rename_i wraps
    simp [wraps, Outcome.panic]

/-- A list as an array of its length: what both conversions return. -/
theorem fromSlice_ok {n : Nat} {slice : List α} {array : Vector α n} :
    fromSlice n slice = .ok array ↔ slice = array.toList := by
  rw [fromSlice]
  split
  · rename_i same
    constructor
    · rintro ⟨⟩
      rfl
    · rintro rfl
      rfl
  · rename_i differs
    constructor
    · nofun
    · rintro rfl
      exact absurd array.length_toList differs

theorem tryInto_ok {n : Nat} {message : String} {list : List α} {array : Vector α n} :
    tryInto n message list = .ok array ↔ list = array.toList := by
  rw [tryInto]
  split
  · rename_i same
    constructor
    · rintro ⟨⟩
      rfl
    · rintro rfl
      rfl
  · rename_i differs
    constructor
    · nofun
    · rintro rfl
      exact absurd array.length_toList differs

end GuestComponents.Lib
