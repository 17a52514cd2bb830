import GuestComponents.KbsProtocol.Client

/-! How often the calls of the clients ask. Each makes a bounded number of attempts,
messages to the server or to the token provider, on every branch of answers. -/
namespace GuestComponents.KbsProtocol
open Lib Crypto

variable {backend : Backend} {α ε : Type}

/-- The operation is a message to the server or to the token provider. -/
def IsAttempt : Op backend → Prop
  | .ask question => question.IsAttempt
  | _ => False

/-- The call makes this many attempts at most, whatever is answered. -/
def Bounded (call : Fallible (Op backend) (Answer backend) ε α) (n : Nat) : Prop :=
  Program.AtMost IsAttempt call.run n

namespace Bounded

theorem bind {β : Type} {first : Fallible (Op backend) (Answer backend) ε α}
    {rest : α → Fallible (Op backend) (Answer backend) ε β} {n m : Nat} (one : Bounded first n)
    (two : ∀ value, Bounded (rest value) m) : Bounded (first >>= rest) (n + m) :=
  Program.AtMost.bind_fallible one two

theorem weaken {call : Fallible (Op backend) (Answer backend) ε α} {n m : Nat} (bound : Bounded call n)
    (le : n ≤ m) : Bounded call m :=
  Program.AtMost.weaken bound le

theorem pure (value : α) (n : Nat) :
    Bounded (Pure.pure value : Fallible (Op backend) (Answer backend) ε α) n := trivial

theorem throw (error : ε) (n : Nat) :
    Bounded (throw error : Fallible (Op backend) (Answer backend) ε α) n := trivial

theorem ofOutcome (outcome : Except ε α) (n : Nat) :
    Bounded (ofOutcome outcome : Fallible (Op backend) (Answer backend) ε α) n := trivial

/-- An operation that is no attempt. -/
theorem perform {op : Op backend} (free : ¬ IsAttempt op) :
    Bounded (perform op : Fallible (Op backend) (Answer backend) ε (Answer backend op)) 0 :=
  .inl ⟨free, fun _ => trivial⟩

theorem free {question : Ask} (free : ¬ question.IsAttempt) :
    Bounded (attempt (asked question) : Fallible (Op backend) (Answer backend) ε (Reply backend question)) 0 :=
  .inl ⟨free, fun _ => trivial⟩

theorem asked (question : Ask) :
    Bounded (attempt (asked question) : Fallible (Op backend) (Answer backend) ε (Reply backend question)) 1 :=
  .inr ⟨0, rfl, fun _ => trivial⟩

theorem attempt {program : Prog backend α} {n : Nat} (bound : Program.AtMost IsAttempt program n) :
    Bounded (attempt program : Fallible (Op backend) (Answer backend) ε α) n :=
  @Program.AtMost.bind _ _ _ _ _ n 0 _ _ bound fun _ => trivial

end Bounded

variable (formats)

theorem getTee_bounded : Bounded (getTee : Anyhow backend Tee) 0 := by
  apply Bounded.bind (n := 0) (m := 0) (Bounded.perform id)
  intro own
  cases own.tee with
  | initializated tee => exact Bounded.pure tee 0
  | unitialized =>
    apply Bounded.bind (n := 0) (m := 0) (Bounded.free id)
    intro answer
    apply Bounded.bind (n := 0) (m := 0) (Bounded.ofOutcome _ 0)
    intro tee
    exact Bounded.bind (n := 0) (m := 0) (Bounded.perform id) fun _ => Bounded.pure tee 0

theorem requestChallenge_bounded (tee : Tee) :
    Bounded (requestChallenge formats tee : Anyhow backend Challenge) 1 := by
  apply Bounded.bind (n := 0) (m := 1) (Bounded.perform id)
  intro own
  apply Bounded.bind (n := 1) (m := 0) (Bounded.asked _)
  intro answer
  apply Bounded.bind (n := 0) (m := 0) (Bounded.ofOutcome _ 0)
  intro response
  split
  · exact Bounded.ofOutcome _ 0
  · exact Bounded.throw _ 0

theorem attestationFor_bounded (tee : Tee) (challenge : Challenge) :
    Bounded (attestationFor formats tee challenge : Anyhow backend Attestation) 0 := by
  apply Bounded.bind (n := 0) (m := 0) (Bounded.ofOutcome _ 0)
  intro algorithm
  apply Bounded.bind (n := 0) (m := 0) (Bounded.perform id)
  intro own
  apply Bounded.bind (n := 0) (m := 0) (Bounded.ofOutcome _ 0)
  intro pubkey
  apply Bounded.bind (n := 0) (m := 0)
  · apply Bounded.bind (n := 0) (m := 0) (Bounded.free id)
    intro answer
    split
    · exact Bounded.pure _ 0
    · exact Bounded.throw _ 0
  intro evidence
  exact Bounded.bind (n := 0) (m := 0) (Bounded.ofOutcome _ 0) fun _ => Bounded.pure _ 0

theorem sendAttestation_bounded (url : Text) (attestation : Attestation) (retries : Nat) :
    Program.AtMost IsAttempt (sendAttestation url attestation retries : Prog backend _) (retries + 1) := by
  induction retries with
  | zero => exact .inr ⟨0, rfl, fun _ => trivial⟩
  | succ retries ih =>
    refine .inr ⟨retries + 1, rfl, ?_⟩
    rintro (cause | response)
    · change Program.AtMost IsAttempt (if _ then _ else _) _
      split
      · exact ih
      · trivial
    · trivial

theorem rcarHandshake_bounded : Bounded (rcarHandshake formats : Anyhow backend Unit) 4 := by
  apply Bounded.bind (n := 0) (m := 4) getTee_bounded
  intro tee
  apply Bounded.bind (n := 1) (m := 3) (requestChallenge_bounded formats tee)
  intro challenge
  apply Bounded.bind (n := 0) (m := 3) (attestationFor_bounded formats tee challenge)
  intro attestation
  apply Bounded.bind (n := 0) (m := 3) (Bounded.perform id)
  intro own
  apply Bounded.bind (n := 3) (m := 0) (Bounded.attempt (sendAttestation_bounded _ attestation 2))
  intro result
  apply Bounded.bind (n := 0) (m := 0) (Bounded.ofOutcome _ 0)
  intro response
  exact Bounded.bind (n := 0) (m := 0) (Bounded.ofOutcome _ 0) fun _ => Bounded.perform id

theorem repeatRcarHandshakeFrom_bounded (retries : Nat) :
    Bounded (repeatRcarHandshakeFrom formats retries : Call backend Unit) (4 * (retries + 1)) := by
  have once : Bounded (attempt (rcarHandshake formats).run : Call backend _) 4 :=
    Bounded.attempt (rcarHandshake_bounded formats)
  induction retries with
  | zero =>
    apply Bounded.bind (m := 0) once
    rintro ((cause | message) | ⟨⟩)
    · exact Bounded.throw _ 0
    · exact Bounded.throw _ 0
    · exact Bounded.pure () 0
  | succ retries ih =>
    apply Bounded.weaken (n := 4 + 4 * (retries + 1))
    · apply Bounded.bind once
      rintro ((cause | message) | ⟨⟩)
      · exact (Bounded.bind (n := 0) (Bounded.free id) fun _ => ih).weaken (by omega)
      · exact Bounded.throw _ _
      · exact Bounded.pure () _
    · omega

/-- `get_token` asks for a challenge five times and sends fifteen attestations at most. -/
theorem getToken_bounded : Bounded (getToken formats : Call backend _) 20 := by
  apply Bounded.bind (n := 20) (m := 0)
  · apply Bounded.bind (n := 0) (m := 20) (Bounded.perform id)
    intro own
    cases own.token with
    | none => exact repeatRcarHandshakeFrom_bounded formats 4
    | some token =>
      apply Bounded.bind (n := 0) (m := 20) (Bounded.free id)
      intro now
      split
      · exact Bounded.pure () 20
      · exact repeatRcarHandshakeFrom_bounded formats 4
  intro _
  apply Bounded.bind (n := 0) (m := 0) (Bounded.perform id)
  intro own
  cases own.token with
  | some token => exact Bounded.pure _ 0
  | none => exact Bounded.throw _ 0

theorem requestResource_bounded (url : Text) (bearerAuth : Option Text) :
    Bounded (requestResource formats url bearerAuth : Call backend _) 1 := by
  apply Bounded.bind (n := 1) (m := 0) (Bounded.asked _)
  intro answer
  apply Bounded.bind (n := 0) (m := 0) (Bounded.ofOutcome _ 0)
  intro response
  exact Bounded.bind (n := 0) (m := 0) (Bounded.perform id) fun _ => Bounded.ofOutcome _ 0

theorem rcarGetResourceFrom_bounded (url : Text) (attempts : Nat) :
    Bounded (rcarGetResourceFrom formats url attempts : Call backend _) (5 * attempts) := by
  induction attempts with
  | zero => exact Bounded.throw _ 0
  | succ attempts ih =>
    apply Bounded.weaken (n := 1 + (4 + 5 * attempts))
    · apply Bounded.bind (requestResource_bounded formats url none)
      rintro (_ | payload)
      · apply Bounded.bind (Bounded.attempt (rcarHandshake_bounded formats))
        intro result
        exact (Bounded.bind (n := 0) (Bounded.ofOutcome _ 0) fun _ => ih).weaken (by omega)
      · exact Bounded.pure payload _
    · omega

theorem updateToken_bounded : Bounded (updateToken : Call backend Unit) 1 := by
  apply Bounded.bind (n := 1) (m := 0) (Bounded.asked _)
  intro answer
  exact Bounded.bind (n := 0) (m := 0) (Bounded.ofOutcome _ 0) fun _ => Bounded.perform id

theorem tokenGetResourceFrom_bounded (url : Text) (attempts : Nat) :
    Bounded (tokenGetResourceFrom formats url attempts : Call backend _) (3 * attempts) := by
  induction attempts with
  | zero => exact Bounded.throw _ 0
  | succ attempts ih =>
    apply Bounded.weaken (n := 1 + (0 + (1 + (1 + 3 * attempts))))
    · apply Bounded.bind
      · apply Bounded.bind (n := 0) (m := 1) (Bounded.perform id)
        intro own
        split
        · exact updateToken_bounded
        · exact Bounded.pure () 1
      intro _
      apply Bounded.bind
      · apply Bounded.bind (n := 0) (m := 0) (Bounded.perform id)
        intro own
        cases own.token with
        | some token => exact Bounded.pure token 0
        | none => exact Bounded.throw _ 0
      intro token
      apply Bounded.bind (requestResource_bounded formats url _)
      rintro (_ | payload)
      · exact Bounded.bind updateToken_bounded fun _ => ih
      · exact Bounded.pure payload _
    · omega

end GuestComponents.KbsProtocol
