import Mathlib.Logic.Basic

/-! Items that are passed from hand to hand. `Custody` says that none of them has two holders;
its rules say how a step keeps that: holders may let go, one may pass what it has to another,
and one may receive what nobody had. -/
namespace GuestComponents.Lib

variable {Holder Item : Type} {holds next : Holder → Option Item}

/-- No item has two holders. -/
def Custody (holds : Holder → Option Item) : Prop :=
  ∀ one other item, holds one = some item → holds other = some item → one = other

namespace Custody

theorem release (custody : Custody holds)
    (kept : ∀ holder item, next holder = some item → holds holder = some item) : Custody next :=
  fun one other item first second => custody one other item (kept one item first) (kept other item second)

/-- One holder passes what it has to another, or drops it. -/
theorem pass (custody : Custody holds) (giver taker : Holder)
    (given : ∀ item, next taker = some item → holds giver = some item) (gone : giver ≠ taker → next giver = none)
    (kept : ∀ holder, holder ≠ taker → ∀ item, next holder = some item → holds holder = some item) :
    Custody next := by
  have apart : ∀ holder item, holder ≠ taker → next taker = some item → next holder ≠ some item := by
    intro holder item different taken held
    obtain rfl := custody giver holder item (given item taken) (kept holder different item held)
    rw [gone different] at held
    cases held
  intro one other item first second
  by_cases isOne : one = taker
  · by_cases isOther : other = taker
    · exact isOne.trans isOther.symm
    · rw [isOne] at first
      exact (apart other item isOther first second).elim
  · by_cases isOther : other = taker
    · rw [isOther] at second
      exact (apart one item isOne second first).elim
    · exact custody one other item (kept one isOne item first) (kept other isOther item second)

/-- A holder receives what nobody has. -/
theorem receive (custody : Custody holds) (taker : Holder)
    (new : ∀ item holder, next taker = some item → holds holder ≠ some item)
    (kept : ∀ holder, holder ≠ taker → ∀ item, next holder = some item → holds holder = some item) :
    Custody next := by
  intro one other item first second
  by_cases isOne : one = taker
  · by_cases isOther : other = taker
    · exact isOne.trans isOther.symm
    · rw [isOne] at first
      exact (new item other first (kept other isOther item second)).elim
  · by_cases isOther : other = taker
    · rw [isOther] at second
      exact (new item one second (kept one isOne item first)).elim
    · exact custody one other item (kept one isOne item first) (kept other isOther item second)

end Custody

end GuestComponents.Lib
