import Mathlib.Data.List.Basic

/-! Additive stream ciphers: data is combined with the keystream byte at its own
position. What is enciphered in pieces is what is enciphered at once
(`apply_append`), and enciphering twice gives the data back (`apply_apply`). -/
namespace GuestComponents.Lib.Keystream

variable (stream : Nat → UInt8)

/-- The data with the keystream from `position` on. -/
def apply (position : Nat) : List UInt8 → List UInt8
  | [] => []
  | b :: rest => (b ^^^ stream position) :: apply (position + 1) rest

@[simp] theorem apply_nil (position : Nat) : apply stream position [] = [] := rfl

@[simp] theorem apply_length (position : Nat) (data : List UInt8) :
    (apply stream position data).length = data.length := by
  induction data generalizing position with
  | nil => rfl
  | cons b rest ih => simp [apply, ih]

theorem apply_append (position : Nat) (data more : List UInt8) :
    apply stream position (data ++ more) =
      apply stream position data ++ apply stream (position + data.length) more := by
  induction data generalizing position with
  | nil => rfl
  | cons b rest ih =>
    rw [List.cons_append, apply, ih, apply, List.cons_append, List.length_cons]
    congr 3
    omega

/-- The same keystream takes itself off again. -/
theorem apply_apply (position : Nat) (data : List UInt8) :
    apply stream position (apply stream position data) = data := by
  induction data generalizing position with
  | nil => rfl
  | cons b rest ih => rw [apply, apply, ih, UInt8.xor_assoc, UInt8.xor_self, UInt8.xor_zero]

theorem apply_eq_nil {position : Nat} {data : List UInt8} :
    apply stream position data = [] ↔ data = [] := by
  rw [← List.length_eq_zero_iff, apply_length, List.length_eq_zero_iff]

end GuestComponents.Lib.Keystream
