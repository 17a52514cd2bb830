import GuestComponents.Lib.Sha2
import Mathlib.Data.List.TakeDrop

/-! A hasher that is fed a message in pieces: it absorbs the blocks that are full and keeps the rest,
which is less than a block. The digest depends on the bytes and their order alone, not on the pieces
that they came in (`finalize_foldl`). -/
namespace GuestComponents.Lib.Sha2

/-- What is kept of a message between two updates. -/
structure Hasher where
  state : List Nat
  pending : List Nat
  length : Nat
  deriving DecidableEq

namespace Params

variable (p : Params)

def blockBytes : Nat := 16 * p.wordBytes

def newHasher : Hasher := ⟨p.initial, [], 0⟩

def update (hasher : Hasher) (bytes : List UInt8) : Hasher :=
  let data := hasher.pending ++ bytes.map UInt8.toNat
  let blocks := data.length / p.blockBytes
  ⟨p.absorb blocks hasher.state data, data.drop (blocks * p.blockBytes), hasher.length + bytes.length⟩

/-- What is put behind a message of this length. -/
def padding (length : Nat) : List Nat :=
  let tail := 2 * p.wordBytes
  0x80 :: List.replicate ((2 * p.blockBytes - tail - 1 - length % p.blockBytes) % p.blockBytes) 0 ++
    bytesOf tail (8 * length)

def output (final : List Nat) : List UInt8 :=
  (List.range p.kept).flatMap fun i => (bytesOf p.wordBytes (final.getD i 0)).map UInt8.ofNat

def finalize (hasher : Hasher) : List UInt8 :=
  let data := hasher.pending ++ p.padding hasher.length
  p.output (p.absorb (data.length / p.blockBytes) hasher.state data)

/-- The full blocks of a message are in the state, and the rest is pending. -/
structure Holds (hasher : Hasher) (message : List Nat) : Prop where
  state : hasher.state = p.absorb (message.length / p.blockBytes) p.initial message
  pending : hasher.pending = message.drop (message.length / p.blockBytes * p.blockBytes)
  length : hasher.length = message.length

variable {p} {hasher : Hasher}

theorem absorb_add (first second : Nat) (state message : List Nat) : p.absorb (first + second) state message =
    p.absorb second (p.absorb first state message) (message.drop (first * p.blockBytes)) := by
  induction first generalizing state message with
  | zero => rw [Nat.zero_add, absorb, Nat.zero_mul, List.drop_zero]
  | succ n ih =>
    have further : (n + 1) * p.blockBytes = p.blockBytes + n * p.blockBytes := by rw [Nat.succ_mul, Nat.add_comm]
    rw [Nat.add_right_comm, absorb, ih, absorb, further, ← List.drop_drop]
    rfl

/-- Full blocks are absorbed alike whatever is behind them. -/
theorem absorb_append {blocks : Nat} {state message rest : List Nat} (full : blocks * p.blockBytes ≤ message.length) :
    p.absorb blocks state (message ++ rest) = p.absorb blocks state message := by
  induction blocks generalizing state message with
  | zero => rfl
  | succ n ih =>
    rw [Nat.succ_mul] at full
    have first : p.blockBytes ≤ message.length := by omega
    have others : n * p.blockBytes ≤ (message.drop p.blockBytes).length := by
      rw [List.length_drop]
      omega
    rw [blockBytes] at first others
    rw [absorb, absorb, List.take_append_of_le_length first, List.drop_append_of_le_length first, ih others]

/-- Absorbing goes on from a message's state with what is pending of it. -/
theorem absorb_resume (state message rest : List Nat) :
    let blocks := message.length / p.blockBytes
    let data := message.drop (blocks * p.blockBytes) ++ rest
    let more := data.length / p.blockBytes
    (message ++ rest).length / p.blockBytes = blocks + more ∧
      p.absorb (blocks + more) state (message ++ rest) = p.absorb more (p.absorb blocks state message) data := by
  intro blocks data more
  have within : blocks * p.blockBytes ≤ message.length := Nat.div_mul_le_self _ _
  have split : (message ++ rest).drop (blocks * p.blockBytes) = data := List.drop_append_of_le_length within
  constructor
  · have whole : (message ++ rest).length = data.length + blocks * p.blockBytes := by
      rw [← split, List.length_drop, List.length_append]
      omega
    rcases Nat.eq_zero_or_pos p.blockBytes with none_ | some_
    · simp only [blocks, more, none_, Nat.div_zero]
    · rw [whole, Nat.add_mul_div_right _ _ some_, Nat.add_comm]
  · rw [absorb_add, split, absorb_append within]

theorem holds_new : p.Holds p.newHasher [] := by
  constructor
  · simp [newHasher, absorb]
  · exact List.drop_nil.symm
  · rfl

theorem Holds.update {message : List UInt8} (holds : p.Holds hasher (message.map UInt8.toNat)) (bytes : List UInt8) :
    p.Holds (p.update hasher bytes) ((message ++ bytes).map UInt8.toNat) := by
  obtain ⟨counted, absorbed⟩ := @absorb_resume p p.initial (message.map UInt8.toNat) (bytes.map UInt8.toNat)
  constructor
  · rw [List.map_append, counted, absorbed, Params.update, holds.state, holds.pending]
  · rw [List.map_append, counted, Nat.add_mul, ← List.drop_drop,
      List.drop_append_of_le_length (Nat.div_mul_le_self _ _), Params.update, holds.pending]
  · rw [Params.update, holds.length]
    simp

theorem Holds.finalize {message : List UInt8} (holds : p.Holds hasher (message.map UInt8.toNat)) :
    p.finalize hasher = p.digest message := by
  obtain ⟨counted, absorbed⟩ := @absorb_resume p p.initial (message.map UInt8.toNat)
    (p.padding (message.map UInt8.toNat).length)
  have padded : p.pad (message.map UInt8.toNat) =
      message.map UInt8.toNat ++ p.padding (message.map UInt8.toNat).length := by
    rw [pad, padding, List.append_assoc]
    rfl
  have whole : p.digest message = p.output (p.absorb ((p.pad (message.map UInt8.toNat)).length / p.blockBytes) p.initial
      (p.pad (message.map UInt8.toNat))) := rfl
  rw [whole, padded, counted, absorbed, Params.finalize, holds.state, holds.pending, holds.length]

theorem Holds.foldl {message : List UInt8} (holds : p.Holds hasher (message.map UInt8.toNat))
    (pieces : List (List UInt8)) :
    p.Holds (pieces.foldl p.update hasher) ((message ++ pieces.flatten).map UInt8.toNat) := by
  induction pieces generalizing hasher message with
  | nil => rwa [List.flatten_nil, List.append_nil]
  | cons bytes pieces ih =>
    rw [List.foldl_cons, List.flatten_cons, ← List.append_assoc]
    exact ih (holds.update bytes)

/-- The digest of what was fed, in whatever pieces. -/
theorem finalize_foldl (pieces : List (List UInt8)) :
    p.finalize (pieces.foldl p.update p.newHasher) = p.digest pieces.flatten := by
  have holds : p.Holds p.newHasher (([] : List UInt8).map UInt8.toNat) := holds_new
  exact (holds.foldl pieces).finalize

end Params

end GuestComponents.Lib.Sha2
