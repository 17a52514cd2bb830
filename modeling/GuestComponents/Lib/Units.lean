import Mathlib.Data.List.Forall2

/-! Streams of units that say themselves where they end, as the members of a gzip file or the
frames of a zstd file do. A reader of one unit is read to the end of the input
(`UnitReader.readAll`) or stops after the first (`UnitReader.readFirst`). What the two make of a stream
of units differs by the units after the first. -/
namespace GuestComponents.Lib

/-- A reader of one unit: what the unit holds, and the input behind it. -/
structure UnitReader (α β : Type) where
  read : List α → Option (List β × List α)
  progress : ∀ {input held rest}, read input = some (held, rest) → rest.length < input.length

namespace UnitReader

variable {α β : Type} (reader : UnitReader α β) {part input : List α} {held : List β}
  {parts : List (List α)} {contents : List (List β)}

/-- This is a unit with this content, whatever comes behind it. -/
def IsUnit (part : List α) (held : List β) : Prop := ∀ rest, reader.read (part ++ rest) = some (held, rest)

/-- Stops behind the first unit. -/
def readFirst (input : List α) : Option (List β) := (reader.read input).map Prod.fst

/-- Reads so many units at most, to the end of the input. -/
def readUnits : Nat → List α → Option (List β)
  | _, [] => some []
  | 0, _ :: _ => none
  | n + 1, a :: input => (reader.read (a :: input)).bind fun (held, rest) => (readUnits n rest).map (held ++ ·)

/-- Reads to the end of the input, in which there are no more units than elements. -/
def readAll (input : List α) : Option (List β) := reader.readUnits input.length input

variable {reader}

/-- A unit is not empty, as its reader moves on. -/
theorem IsUnit.ne_nil (unit : reader.IsUnit part held) : part ≠ [] := by
  rintro rfl
  exact absurd (reader.progress (unit [])) (Nat.lt_irrefl 0)

theorem readUnits_append {n : Nat} (unit : reader.IsUnit part held) (rest : List α) :
    reader.readUnits (n + 1) (part ++ rest) = (reader.readUnits n rest).map (held ++ ·) := by
  obtain ⟨a, part, rfl⟩ := List.exists_cons_of_ne_nil unit.ne_nil
  have first := unit rest
  rw [List.cons_append] at first ⊢
  rw [readUnits, first]
  rfl

/-- A stream of units is read as the sequence of what they hold. -/
theorem readUnits_flatten (units : List.Forall₂ reader.IsUnit parts contents) {n : Nat} (enough : parts.length ≤ n) :
    reader.readUnits n parts.flatten = some contents.flatten := by
  induction units generalizing n with
  | nil => cases n <;> rfl
  | cons unit units ih =>
    cases n with
    | zero => exact absurd enough (Nat.not_succ_le_zero _)
    | succ n =>
      rw [List.flatten_cons, readUnits_append unit, ih (Nat.le_of_succ_le_succ enough)]
      rfl

theorem length_le_flatten (units : List.Forall₂ reader.IsUnit parts contents) :
    parts.length ≤ parts.flatten.length := by
  induction units with
  | nil => exact Nat.le_refl 0
  | cons unit units ih =>
    rw [List.flatten_cons, List.length_append, List.length_cons]
    have here := List.length_pos_of_ne_nil unit.ne_nil
    omega

theorem readAll_flatten (units : List.Forall₂ reader.IsUnit parts contents) :
    reader.readAll parts.flatten = some contents.flatten :=
  readUnits_flatten units (length_le_flatten units)

theorem readFirst_append (unit : reader.IsUnit part held) (rest : List α) :
    reader.readFirst (part ++ rest) = some held := by
  rw [readFirst, unit rest]
  rfl

end UnitReader
end GuestComponents.Lib
