import GuestComponents.Lib.AllOrNothing
import GuestComponents.Lib.Program

/-! A program that runs by itself against a service: its operations are performed one after the
other, and the environment's choice for each is given by its number. A program that may fail
is an action then (`alone_bind`), so that it is taken apart by the rules of actions. -/
namespace GuestComponents.Lib

variable {Op : Type} {Answer : Op → Type} {World Choice α β ε : Type}

/-- The result, the world, and the number of the next operation. -/
def Program.alone (perform : World → (op : Op) → Choice → Answer op × World) (choose : Nat → Choice) :
    Program Op Answer α → World × Nat → α × World × Nat
  | .done value, moment => (value, moment)
  | .call op next, moment =>
    (next (perform moment.1 op (choose moment.2)).1).alone perform choose
      ((perform moment.1 op (choose moment.2)).2, moment.2 + 1)

namespace Fallible

/-- A program that may fail, by itself. -/
def alone (perform : World → (op : Op) → Choice → Answer op × World) (choose : Nat → Choice)
    (program : Fallible Op Answer ε α) : Action (World × Nat) ε α :=
  Program.alone perform choose program.run

variable {perform : World → (op : Op) → Choice → Answer op × World} {choose : Nat → Choice}

theorem program_alone_bind (first : Program Op Answer α) (rest : α → Program Op Answer β) (moment : World × Nat) :
    (first >>= rest).alone perform choose moment =
      (rest (first.alone perform choose moment).1).alone perform choose (first.alone perform choose moment).2 := by
  induction first generalizing moment with
  | done value => rfl
  | call op next ih => exact ih _ _

/-- One program after the other. -/
theorem alone_bind (first : Fallible Op Answer ε α) (rest : α → Fallible Op Answer ε β) :
    alone perform choose (first >>= rest) = alone perform choose first >>= fun value =>
      alone perform choose (rest value) := by
  funext moment
  have whole := @program_alone_bind Op Answer World Choice _ _ perform choose first.run (ExceptT.bindCont rest) moment
  refine Eq.trans whole ?_
  have same : Program.alone perform choose first.run moment = alone perform choose first moment := rfl
  rw [same, Action.bind_apply]
  rcases alone perform choose first moment with ⟨error | value, after⟩ <;> rfl

end Fallible

end GuestComponents.Lib
