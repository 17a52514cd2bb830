import Mathlib.Data.Nat.Digits.Lemmas
import Mathlib.Tactic.NormNum

/-! Numbers as bytes, the most significant first: what bytes stand for, the shortest bytes of a
number, and those of a fixed width, which have zeros in front. Bytes behind a number make it
another number (`value_append`), so only the one padding keeps it. -/
namespace GuestComponents.Lib.BigEndian

def value (bytes : List UInt8) : Nat := Nat.ofDigits 256 (bytes.reverse.map UInt8.toNat)

/-- The digits of a number, and none for zero. -/
def shortest (n : Nat) : List UInt8 := (Nat.digits 256 n).reverse.map UInt8.ofNat

def fixed (width n : Nat) : List UInt8 := List.replicate (width - (shortest n).length) 0 ++ shortest n

variable {n width : Nat}

theorem value_append (front back : List UInt8) :
    value (front ++ back) = value front * 256 ^ back.length + value back := by
  rw [value, List.reverse_append, List.map_append, Nat.ofDigits_append, List.length_map, List.length_reverse, ← value,
    ← value]
  ring

theorem value_zeros (n : Nat) : value (List.replicate n 0) = 0 := by
  rw [value, List.reverse_replicate, List.map_replicate]
  exact (Nat.ofDigits_append_replicate_zero (b := 256) (k := n) []).trans Nat.ofDigits_nil

theorem value_shortest (n : Nat) : value (shortest n) = n := by
  have digits : (Nat.digits 256 n).map (UInt8.toNat ∘ UInt8.ofNat) = Nat.digits 256 n := by
    rw [List.map_congr_left (g := id) ?_, List.map_id]
    intro d listed
    exact UInt8.toNat_ofNat_of_lt (Nat.digits_lt_base (by norm_num) listed)
  rw [value, shortest, ← List.map_reverse, List.map_map, List.reverse_reverse, digits, Nat.ofDigits_digits]

theorem value_fixed (width n : Nat) : value (fixed width n) = n := by
  rw [fixed, value_append, value_zeros, value_shortest, Nat.zero_mul, Nat.zero_add]

theorem shortest_length_le_iff : (shortest n).length ≤ width ↔ n < 256 ^ width := by
  rw [shortest, List.length_map, List.length_reverse]
  exact Nat.digits_length_le_iff (by norm_num) n

theorem fixed_length (fits : n < 256 ^ width) : (fixed width n).length = width := by
  rw [fixed, List.length_append, List.length_replicate]
  have short := shortest_length_le_iff.mpr fits
  omega

/-- A number that needs all the bytes has no others. -/
theorem fixed_eq_shortest (fits : n < 256 ^ width) (fills : 256 ^ (width - 1) ≤ n) : fixed width n = shortest n := by
  have short := shortest_length_le_iff.mpr fits
  have long : ¬ (shortest n).length ≤ width - 1 := by
    rw [shortest_length_le_iff]
    omega
  have exact_ : width - (shortest n).length = 0 := by omega
  rw [fixed, exact_, List.replicate_zero, List.nil_append]

end GuestComponents.Lib.BigEndian
