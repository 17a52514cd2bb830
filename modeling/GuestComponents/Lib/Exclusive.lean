import GuestComponents.Lib.Program

/-! Programs that have their world to themselves, one at a time, as the calls of an
object that each borrow it exclusively. A call may be dropped between any two of its
operations. `Service.Upholds` says of a program what holds at each of these points and
at its end; its rules compose along the program text, and `Upholds.reachable` carries
an invariant over every sequence of calls. `Program.AtMost` counts operations. -/
namespace GuestComponents.Lib

variable {Op : Type} {Answer : Op → Type} {World Choice Request Query α β ε : Type}

namespace Program

/-- On every branch at most this many operations are of the kind. -/
def AtMost (kind : Op → Prop) : Program Op Answer α → Nat → Prop
  | done _, _ => True
  | call op next, n =>
    (¬ kind op ∧ ∀ answer, (next answer).AtMost kind n) ∨
      ∃ m, n = m + 1 ∧ ∀ answer, (next answer).AtMost kind m

variable {kind : Op → Prop} {n m : Nat}

theorem AtMost.weaken {program : Program Op Answer α} (bound : program.AtMost kind n) (le : n ≤ m) :
    program.AtMost kind m := by
  induction program generalizing n m with
  | done value => trivial
  | call op next ih =>
    rcases bound with ⟨other, rest⟩ | ⟨k, rfl, rest⟩
    · exact .inl ⟨other, fun answer => ih answer (rest answer) le⟩
    · obtain ⟨l, rfl⟩ := Nat.exists_eq_add_of_le le
      exact .inr ⟨k + l, by omega, fun answer => ih answer (rest answer) (Nat.le_add_right k l)⟩

theorem atMost_pure (value : α) : (pure value : Program Op Answer α).AtMost kind n := trivial

theorem atMost_perform (op : Op) : (perform op : Program Op Answer (Answer op)).AtMost kind 1 :=
  .inr ⟨0, rfl, fun _ => trivial⟩

theorem AtMost.bind {first : Program Op Answer α} {rest : α → Program Op Answer β}
    (one : first.AtMost kind n) (two : ∀ value, (rest value).AtMost kind m) :
    (first >>= rest).AtMost kind (n + m) := by
  induction first generalizing n with
  | done value => exact (two value).weaken (Nat.le_add_left m n)
  | call op next ih =>
    rcases one with ⟨other, later⟩ | ⟨k, rfl, later⟩
    · exact .inl ⟨other, fun answer => ih answer (later answer)⟩
    · exact .inr ⟨k + m, by omega, fun answer => ih answer (later answer)⟩

theorem AtMost.bind_fallible {first : Fallible Op Answer ε α} {rest : α → Fallible Op Answer ε β}
    (one : Program.AtMost kind first.run n) (two : ∀ value, Program.AtMost kind (rest value).run m) :
    Program.AtMost kind (first >>= rest).run (n + m) := by
  refine AtMost.bind one ?_
  rintro (error | value)
  · trivial
  · exact two value

end Program

section Calls

variable (service : Service Op Answer World Choice Request) (pid : Nat) (env : World → Op → Choice)

/-- The world that a program leaves which is dropped after `n` operations, or earlier at its
end. -/
def Service.dropped : Nat → Program Op Answer α → World → World
  | 0, _, world => world
  | _ + 1, .done _, world => world
  | n + 1, .call op next, world =>
    let result := service.perform pid world op (env world op)
    dropped n (next result.1) result.2

/-- From a world with `pre`, alone, the program upholds `inv` wherever it is dropped, and ends
with `post`. -/
def Service.Upholds (inv pre : World → Prop) (program : Program Op Answer α)
    (post : α → World → Prop) : Prop :=
  ∀ world, pre world → (∀ n, inv (service.dropped pid env n program world)) ∧
    post (service.alone pid env program world).1 (service.alone pid env program world).2

/-- A call, the environment it meets, and the operation after which it is dropped. -/
structure Use (Op World Choice Query : Type) where
  query : Query
  env : World → Op → Choice
  dropped : Nat

/-- The calls of an object, one after the other. -/
def Service.calls (program : Query → Program Op Answer Unit) (initial : World → Prop) :
    System World (Use Op World Choice Query) where
  start := initial
  step world use := some (service.dropped 0 use.env use.dropped (program use.query) world)

variable {service pid env} {inv pre pre' : World → Prop} {post post' : α → World → Prop}

namespace Service.Upholds

theorem consequence {program : Program Op Answer α} (upholds : service.Upholds pid env inv pre program post)
    (before : ∀ world, pre' world → pre world)
    (after : ∀ value world, post value world → post' value world) :
    service.Upholds pid env inv pre' program post' :=
  fun world holds =>
    ⟨(upholds world (before world holds)).1, after _ _ (upholds world (before world holds)).2⟩

theorem pure {value : α} (holds : ∀ world, pre world → inv world ∧ post value world) :
    service.Upholds pid env inv pre (Pure.pure value) post := by
  intro world now
  refine ⟨fun n => ?_, (holds world now).2⟩
  cases n <;> exact (holds world now).1

/-- A program upholds the invariant when each of its parts does, the second from what the
first ends with. -/
theorem bind {program : Program Op Answer α} {rest : α → Program Op Answer β}
    {final : β → World → Prop} (post : α → World → Prop)
    (first : service.Upholds pid env inv pre program post)
    (second : ∀ value, service.Upholds pid env inv (post value) (rest value) final) :
    service.Upholds pid env inv pre (program >>= rest) final := by
  intro world holds
  obtain ⟨kept, ends⟩ := first world holds
  refine ⟨?_, ?_⟩
  · clear holds first
    induction program generalizing world with
    | done value => exact (second value world ends).1
    | call op next ih =>
      intro n
      cases n with
      | zero => exact kept 0
      | succ n => exact ih _ _ (fun k => kept (k + 1)) ends n
  · rw [Service.alone_bind]
    exact (second _ _ ends).2

theorem perform {op : Op} {post : Answer op → World → Prop} (before : ∀ world, pre world → inv world)
    (step : ∀ world, pre world →
      inv (service.perform pid world op (env world op)).2 ∧
        post (service.perform pid world op (env world op)).1
          (service.perform pid world op (env world op)).2) :
    service.Upholds pid env inv pre (Program.perform op) post := by
  intro world holds
  refine ⟨?_, (step world holds).2⟩
  rintro (_ | _ | n)
  · exact before world holds
  · exact (step world holds).1
  · exact (step world holds).1

/-- A program whose operations all keep an assertion keeps it. -/
theorem only {program : Program Op Answer α} {kind : Op → Prop} (only : program.Only kind)
    (kept : ∀ world, pre world → inv world)
    (step : ∀ op world, kind op → pre world → pre (service.perform pid world op (env world op)).2) :
    service.Upholds pid env inv pre program fun _ => pre := by
  induction program with
  | done value => exact pure fun world holds => ⟨kept world holds, holds⟩
  | call op next ih =>
    intro world holds
    obtain ⟨later, ends⟩ := ih _ (only.2 _) _ (step op world only.1 holds)
    refine ⟨?_, ends⟩
    rintro (_ | n)
    · exact kept world holds
    · exact later n

theorem assume {fact : Prop} {program : Program Op Answer α}
    (upholds : fact → service.Upholds pid env inv pre program post) :
    service.Upholds pid env inv (fun world => fact ∧ pre world) program post :=
  fun world holds => upholds holds.1 world holds.2

/-- What a program returns on every branch is known at its end. -/
theorem returns {program : Program Op Answer α} {result : α → Prop}
    (upholds : service.Upholds pid env inv pre program post) (returns : program.Returns result) :
    service.Upholds pid env inv pre program fun value world => result value ∧ post value world := by
  intro world holds
  obtain ⟨kept, ends⟩ := upholds world holds
  refine ⟨kept, ?_, ends⟩
  clear upholds holds kept ends
  induction program generalizing world with
  | done value => exact returns
  | call op next ih => exact ih _ (returns _) _

/-- What each call upholds wherever it is dropped holds after any sequence of calls. -/
theorem reachable {program : Query → Program Op Answer Unit} {initial : World → Prop} {world : World}
    (begins : ∀ world, initial world → inv world)
    (calls : ∀ query env, service.Upholds 0 env inv inv (program query) fun _ => inv)
    (reached : (service.calls program initial).Reachable System.Free world) : inv world := by
  refine reached.invariant begins ?_
  rintro world ⟨query, env, n⟩ next holds _ ⟨⟩
  exact (calls query env world holds).1 n

end Service.Upholds

end Calls

end GuestComponents.Lib
