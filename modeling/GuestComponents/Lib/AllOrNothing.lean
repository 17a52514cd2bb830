import Mathlib.Logic.Basic

/-! Computations that change a world step by step, where any step may be refused, and what
a failure leaves behind. `Action.Clean` says that of a failure nothing is left that a
relation of worlds sees. Its rules are equivalences, so that they turn a sequence of steps
into the exact condition under which it is clean. -/
namespace GuestComponents.Lib

/-- A computation over a world that may fail, and that leaves a world either way. -/
def Action (World ε α : Type) : Type := World → Except ε α × World

namespace Action

variable {World ε ε' α β : Type}

instance : Monad (Action World ε) where
  pure value := fun world => (.ok value, world)
  bind first rest := fun world =>
    match first world with
    | (.ok value, next) => rest value next
    | (.error error, next) => (.error error, next)

theorem bind_apply (first : Action World ε α) (rest : α → Action World ε β) (world : World) :
    (first >>= rest) world =
      match first world with
      | (.ok value, next) => rest value next
      | (.error error, next) => (.error error, next) := rfl

theorem bind_pure_id (action : Action World ε α) : id <$> action = action := by
  funext world
  change (action >>= fun value => pure value) world = action world
  rw [bind_apply]
  rcases action world with ⟨error | value, next⟩ <;> rfl

theorem bind_bind {γ : Type} (first : Action World ε α) (second : α → Action World ε β)
    (third : β → Action World ε γ) :
    ((first >>= second) >>= third) = first >>= fun value => second value >>= third := by
  funext world
  simp only [bind_apply]
  rcases first world with ⟨error | value, next⟩ <;> rfl

instance : LawfulMonad (Action World ε) :=
  LawfulMonad.mk' (Action World ε) bind_pure_id (fun _ _ => rfl) bind_bind

def fail (error : ε) : Action World ε α := fun world => (.error error, world)

def ofExcept : Except ε α → Action World ε α
  | .ok value => pure value
  | .error error => fail error

/-- Looks at the world. -/
def look (read : World → α) : Action World ε α := fun world => (.ok (read world), world)

/-- A step that changes nothing when it is refused. -/
def step (refused : Option ε) (effect : World → World) : Action World ε Unit :=
  match refused with
  | some error => fail error
  | none => fun world => (.ok (), effect world)

/-- A step that the world itself may refuse, too. -/
def stepIf (refused : World → Option ε) (effect : World → World) : Action World ε Unit :=
  fun world => step (refused world) effect world

/-- `let _ =`: whatever comes of it. -/
def ignore (action : Action World ε α) : Action World ε' Unit := fun world => (.ok (), (action world).2)

/-- `map_err`, or the context that anyhow adds. -/
def mapError (change : ε → ε') (action : Action World ε α) : Action World ε' α :=
  fun world => ((action world).1.mapError change, (action world).2)

/-- A computation over a part of the world. -/
def zoom {Part : Type} (get : World → Part) (set : World → Part → World) (action : Action Part ε α) :
    Action World ε α :=
  fun world => ((action (get world)).1, set world (action (get world)).2)

/-- Of a failure nothing is left that `same` sees from `base`. -/
def Clean (same : World → World → Prop) (base : World) (action : Action World ε α) (world : World) : Prop :=
  ∀ error after, action world = (.error error, after) → same base after

section Results

variable {world after : World} {error : ε} {value : α} {result : β} {read : World → α}
  {first : Action World ε α} {rest : α → Action World ε β}
  {refused : Option ε} {effect : World → World}

theorem pure_eq (value : α) (world : World) : (pure value : Action World ε α) world = (.ok value, world) := rfl

theorem bind_ok (ran : first world = (.ok value, after)) : (first >>= rest) world = rest value after := by
  rw [bind_apply, ran]

theorem bind_error (failed : first world = (.error error, after)) :
    (first >>= rest) world = (.error error, after) := by
  rw [bind_apply, failed]

theorem bind_eq_ok : (first >>= rest) world = (.ok result, after) ↔
    ∃ value next, first world = (.ok value, next) ∧ rest value next = (.ok result, after) := by
  rw [bind_apply]
  rcases first world with ⟨error | value, next⟩
  · constructor
    · intro impossible
      cases impossible
    · rintro ⟨_, _, impossible, _⟩
      cases impossible
  · constructor
    · intro ran
      exact ⟨value, next, rfl, ran⟩
    · rintro ⟨_, _, same, ran⟩
      cases same
      exact ran

theorem step_eq_ok : step refused effect world = (.ok (), after) ↔ refused = none ∧ after = effect world := by
  cases refused with
  | none =>
    rw [show step none effect world = ((.ok (), effect world) : Except ε Unit × World) from rfl]
    simp [eq_comm]
  | some error =>
    constructor
    · intro impossible
      cases impossible
    · rintro ⟨impossible, _⟩
      cases impossible

theorem step_bind_eq_ok {rest : Unit → Action World ε α} :
    (step refused effect >>= rest) world = (.ok value, after) ↔
    refused = none ∧ rest () (effect world) = (.ok value, after) := by
  cases refused with
  | none => exact ⟨fun ran => ⟨rfl, ran⟩, fun both => both.2⟩
  | some error =>
    constructor
    · intro impossible
      cases impossible
    · rintro ⟨impossible, _⟩
      cases impossible

theorem ofExcept_eq_ok {outcome : Except ε α} :
    ofExcept outcome world = (.ok value, after) ↔ outcome = .ok value ∧ after = world := by
  cases outcome with
  | ok other =>
    rw [show ofExcept (.ok other) world = ((.ok other, world) : Except ε α × World) from rfl]
    simp [eq_comm]
  | error error =>
    constructor
    · intro impossible
      cases impossible
    · rintro ⟨impossible, _⟩
      cases impossible

theorem zoom_eq {Part : Type} {get : World → Part} {set : World → Part → World} {action : Action Part ε α}
    {outcome : Except ε α} {part : Part} (ran : action (get world) = (outcome, part)) :
    zoom get set action world = (outcome, set world part) := by
  rw [zoom, ran]

theorem step_refused (effect : World → World) (world : World) (refused' : refused ≠ none) :
    ∃ error, step refused effect world = (.error error, world) := by
  cases refused with
  | none => exact absurd rfl refused'
  | some error => exact ⟨error, rfl⟩

/-- A sequence fails where its first part does, leaving what that leaves. -/
theorem bind_fails (rest : α → Action World ε β) (failed : ∃ error, first world = (.error error, after)) :
    ∃ error, (first >>= rest) world = (.error error, after) := by
  obtain ⟨error, failed⟩ := failed
  exact ⟨error, bind_error failed⟩

end Results

section Rules

variable {same : World → World → Prop} {base world : World} {first : Action World ε α}
  {rest : α → Action World ε β} {refused : Option ε} {effect : World → World}

@[simp] theorem clean_pure (value : α) : Clean same base (pure value : Action World ε α) world ↔ True := by
  constructor
  · intro _
    trivial
  · intro _ error after ran
    cases ran

@[simp] theorem clean_fail (error : ε) :
    Clean same base (fail error : Action World ε α) world ↔ same base world := by
  constructor
  · intro clean
    exact clean error world rfl
  · rintro unchanged _ _ ⟨⟩
    exact unchanged

@[simp] theorem clean_step : Clean same base (step refused effect) world ↔ (refused ≠ none → same base world) := by
  cases refused with
  | none =>
    constructor
    · intro _ impossible
      exact absurd rfl impossible
    · intro _ error after ran
      cases ran
  | some error =>
    constructor
    · intro clean _
      exact clean error world rfl
    · rintro unchanged _ _ ⟨⟩
      exact unchanged nofun

/-- A sequence is clean if its first part is, and if what follows a success of it is. -/
theorem clean_bind : Clean same base (first >>= rest) world ↔ Clean same base first world ∧
    ∀ value next, first world = (.ok value, next) → Clean same base (rest value) next := by
  constructor
  · intro clean
    constructor
    · intro error after failed
      exact clean error after (bind_error failed)
    · intro value next ran error after failed
      exact clean error after ((bind_ok ran).trans failed)
  · rintro ⟨one, two⟩ error after failed
    cases ran : first world with
    | mk outcome next =>
      cases outcome with
      | ok value =>
        rw [bind_ok ran] at failed
        exact two value next ran error after failed
      | error error' =>
        rw [bind_error ran] at failed
        cases failed
        exact one _ _ ran

/-- Where the first part of a sequence succeeds, the rest decides. -/
theorem clean_bind_ok {value : α} {after : World} (ran : first world = (.ok value, after)) :
    Clean same base (first >>= rest) world ↔ Clean same base (rest value) after := by
  rw [Clean, bind_ok ran]
  rfl

/-- Where it fails, what it leaves does. -/
theorem clean_error {after : World} (failed : ∃ error, first world = (.error error, after)) :
    Clean same base first world ↔ same base after := by
  obtain ⟨error, failed⟩ := failed
  constructor
  · intro clean
    exact clean error after failed
  · intro unchanged error' after' failed'
    rw [failed] at failed'
    cases failed'
    exact unchanged

@[simp] theorem clean_step_bind {rest : Unit → Action World ε β} :
    Clean same base (step refused effect >>= rest) world ↔
      (refused ≠ none → same base world) ∧ (refused = none → Clean same base (rest ()) (effect world)) := by
  rw [clean_bind, clean_step]
  constructor
  · rintro ⟨one, two⟩
    refine ⟨one, ?_⟩
    rintro rfl
    exact two () _ rfl
  · rintro ⟨one, two⟩
    refine ⟨one, ?_⟩
    intro value next ran
    cases refused with
    | none =>
      cases ran
      exact two rfl
    | some error => cases ran

@[simp] theorem clean_stepIf {refused : World → Option ε} :
    Clean same base (stepIf refused effect) world ↔ (refused world ≠ none → same base world) := clean_step

@[simp] theorem clean_stepIf_bind {refused : World → Option ε} {rest : Unit → Action World ε β} :
    Clean same base (stepIf refused effect >>= rest) world ↔
      (refused world ≠ none → same base world) ∧
        (refused world = none → Clean same base (rest ()) (effect world)) := clean_step_bind

@[simp] theorem clean_look_bind {read : World → α} :
    Clean same base (look read >>= rest) world ↔ Clean same base (rest (read world)) world := Iff.rfl

@[simp] theorem clean_ofExcept_bind {outcome : Except ε α} :
    Clean same base (ofExcept outcome >>= rest) world ↔
      (∀ error, outcome = .error error → same base world) ∧
        ∀ value, outcome = .ok value → Clean same base (rest value) world := by
  cases outcome with
  | ok value =>
    constructor
    · intro clean
      refine ⟨nofun, ?_⟩
      rintro _ ⟨⟩
      exact clean
    · rintro ⟨_, clean⟩
      exact clean value rfl
  | error error =>
    constructor
    · intro clean
      refine ⟨?_, nofun⟩
      rintro _ ⟨⟩
      exact clean error world rfl
    · rintro ⟨unchanged, _⟩ _ _ ⟨⟩
      exact unchanged error rfl

@[simp] theorem clean_ignore_bind {action : Action World ε' α} {rest : Unit → Action World ε β} :
    Clean same base (ignore action >>= rest) world ↔ Clean same base (rest ()) (action world).2 := Iff.rfl

@[simp] theorem clean_mapError {change : ε → ε'} {action : Action World ε α} :
    Clean same base (mapError change action) world ↔ Clean same base action world := by
  constructor
  · intro clean error after failed
    refine clean (change error) after ?_
    rw [mapError, failed]
    rfl
  · intro clean error after failed
    cases ran : action world with
    | mk outcome next =>
      rw [mapError, ran] at failed
      cases outcome with
      | ok value => cases failed
      | error error' =>
        cases failed
        exact clean _ _ ran

end Rules

/-- Whatever comes of it, the worlds before and after are so related. -/
def Keeps (rel : World → World → Prop) (action : Action World ε α) : Prop := ∀ world, rel world (action world).2

section Keeps

variable {rel : World → World → Prop} {first : Action World ε α} {rest : α → Action World ε β}

theorem Keeps.ofExcept (refl : ∀ world, rel world world) (outcome : Except ε α) :
    Keeps rel (ofExcept outcome : Action World ε α) := by
  intro world
  cases outcome <;> exact refl world

theorem Keeps.bind (trans : ∀ one two three, rel one two → rel two three → rel one three)
    (keeps : Keeps rel first) (later : ∀ value, Keeps rel (rest value)) : Keeps rel (first >>= rest) := by
  intro world
  have before := keeps world
  cases ran : first world with
  | mk outcome next =>
    rw [ran] at before
    cases outcome with
    | error error =>
      rw [bind_error ran]
      exact before
    | ok value =>
      rw [bind_ok ran]
      exact trans _ _ _ before (later value next)

end Keeps

/-- The action succeeds exactly under this condition, and the worlds before and after are so related either way. -/
def Decides (rel : World → World → Prop) (succeeds : Prop) (action : Action World ε α) : Prop :=
  ∀ world, rel world (action world).2 ∧ ((∃ value, (action world).1 = .ok value) ↔ succeeds)

section Decides

variable {rel : World → World → Prop} {one two : Prop} {first : Action World ε α}
    {rest : α → Action World ε β}
  {world : World}

theorem Decides.ok {action : Action World ε Unit} (decides : Decides rel one action) (holds : one) :
    ∃ after, action world = (.ok (), after) ∧ rel world after := by
  obtain ⟨value, ok⟩ := (decides world).2.mpr holds
  exact ⟨(action world).2, Prod.ext ok rfl, (decides world).1⟩

theorem Decides.error (decides : Decides rel one first) (fails : ¬ one) :
    ∃ error after, first world = (.error error, after) ∧ rel world after := by
  cases ran : (first world).1 with
  | ok value => exact absurd ((decides world).2.mp ⟨value, ran⟩) fails
  | error error => exact ⟨error, (first world).2, Prod.ext ran rfl, (decides world).1⟩

theorem Decides.congr (decides : Decides rel one first) (same : one ↔ two) : Decides rel two first :=
  fun world => ⟨(decides world).1, (decides world).2.trans same⟩

theorem decides_pure (refl : ∀ world, rel world world) (value : α) :
    Decides rel True (pure value : Action World ε α) :=
  fun world => ⟨refl world, fun _ => trivial, fun _ => ⟨value, rfl⟩⟩

theorem decides_step {refused : Option ε} {effect : World → World} (refl : ∀ world, rel world world)
    (changes : ∀ world, rel world (effect world)) : Decides rel (refused = none) (step refused effect) := by
  intro world
  cases refused with
  | none => exact ⟨changes world, fun _ => rfl, fun _ => ⟨(), rfl⟩⟩
  | some error =>
    refine ⟨refl world, ?_, nofun⟩
    rintro ⟨_, impossible⟩
    cases impossible

theorem Decides.bind (trans : ∀ one two three, rel one two → rel two three → rel one three)
    (decides : Decides rel one first) (later : ∀ value, Decides rel two (rest value)) :
    Decides rel (one ∧ two) (first >>= rest) := by
  intro world
  have before := decides world
  rcases ran : first world with ⟨error | value, next⟩
  · rw [ran] at before
    rw [bind_error ran]
    refine ⟨before.1, ?_, ?_⟩
    · rintro ⟨_, impossible⟩
      cases impossible
    · intro both
      obtain ⟨_, impossible⟩ := before.2.mpr both.1
      cases impossible
  · rw [ran] at before
    rw [bind_ok ran]
    have after := later value next
    exact ⟨trans _ _ _ before.1 after.1, after.2.trans (and_iff_right (before.2.mp ⟨value, rfl⟩)).symm⟩

theorem decides_ofExcept_bind {outcome : Except ε α} {holds : α → Prop} (refl : ∀ world, rel world world)
    (later : ∀ value, outcome = .ok value → Decides rel (holds value) (rest value)) :
    Decides rel (∃ value, outcome = .ok value ∧ holds value) (ofExcept outcome >>= rest) := by
  intro world
  cases outcome with
  | error error =>
    refine ⟨refl world, ?_, ?_⟩
    · rintro ⟨_, impossible⟩
      cases impossible
    · rintro ⟨_, impossible, _⟩
      cases impossible
  | ok value =>
    have decides := later value rfl world
    refine ⟨decides.1, decides.2.trans ⟨fun so => ⟨value, rfl, so⟩, ?_⟩⟩
    rintro ⟨_, ⟨⟩, so⟩
    exact so

end Decides

end Action

end GuestComponents.Lib
