import GuestComponents.Lib.AllOrNothing
import GuestComponents.Lib.Panic
import GuestComponents.Lib.Sha2

/-! Runtime measurements on the two vTPM attesters, which share one function. It takes
an index of 8 bits and refuses those above the last PCR, and its callers cut the index of the
request, of 64 bits, before they hand it over. An index that is cut down to a PCR of
the TPM is not refused any more. -/
namespace GuestComponents.EventLog
open Lib

/-- A vTPM, by the extensions it has carried out, the last one first. -/
structure Vtpm where
  extensions : List (UInt8 × Vector UInt8 32)

namespace Vtpm

def extended (tpm : Vtpm) (pcr : UInt8) (digest : Vector UInt8 32) : Vtpm :=
  ⟨(pcr, digest) :: tpm.extensions⟩

/-- What a list of extensions makes of a PCR: `PCR' = SHA256(PCR || d)`, from zeros. -/
def pcrAfter (pcr : UInt8) : List (UInt8 × Vector UInt8 32) → List UInt8
  | [] => List.replicate 32 0
  | (extended, digest) :: before =>
    if extended = pcr then Sha2.sha256.digest (pcrAfter pcr before ++ digest.toList) else pcrAfter pcr before

def pcr (tpm : Vtpm) (pcr : UInt8) : List UInt8 := pcrAfter pcr tpm.extensions

end Vtpm

section Attesters

variable (refused : Option String)

/-- `utils::extend_pcr`, and what the access to the TPM is refused with, if it is. -/
def extendPcr (digest : List UInt8) (pcr : UInt8) : Action Vtpm (Fault String) Unit := do
  let sha256Digest ← Action.ofExcept (tryInto 32 "expected sha256 digest" digest)
  if 23 < pcr then Action.fail (.error s!"Invalid PCR index: {pcr}")
  else Action.step (refused.map .error) fun tpm => tpm.extended pcr sha256Digest

/-- `AzSnpVtpmAttester::extend_runtime_measurement`. -/
def azSnpExtendRuntimeMeasurement (eventDigest : List UInt8) (registerIndex : UInt64) :
    Action Vtpm (Fault String) Unit :=
  extendPcr refused eventDigest registerIndex.toUInt8

/-- `AzTdxVtpmAttester::extend_runtime_measurement`. -/
def azTdxExtendRuntimeMeasurement (eventDigest : List UInt8) (registerIndex : UInt64) :
    Action Vtpm (Fault String) Unit :=
  extendPcr refused eventDigest registerIndex.toUInt8

end Attesters

inductive VtpmAttester where
  | azSnp
  | azTdx

/-- A call of an attester, with what the TPM answers to it. -/
structure Measurement where
  eventDigest : List UInt8
  registerIndex : UInt64
  refused : Option String

def VtpmAttester.extendRuntimeMeasurement (attester : VtpmAttester) (call : Measurement) :
    Action Vtpm (Fault String) Unit :=
  match attester with
  | .azSnp => azSnpExtendRuntimeMeasurement call.refused call.eventDigest call.registerIndex
  | .azTdx => azTdxExtendRuntimeMeasurement call.refused call.eventDigest call.registerIndex

variable (attester : VtpmAttester) {refused : Option String} {tpm : Vtpm} {call : Measurement} {pcr : UInt8}

/-- The call extends this PCR, whatever the state of the TPM. -/
def Extends (call : Measurement) (pcr : UInt8) : Prop :=
  ∃ digest, digest.toList = call.eventDigest ∧
    ∀ tpm, attester.extendRuntimeMeasurement call tpm = (.ok (), tpm.extended pcr digest)

def LeavesAlone (call : Measurement) : Prop :=
  ∀ tpm, ∃ error, attester.extendRuntimeMeasurement call tpm = (.error error, tpm)

/-- The call fails and leaves the TPM alone, or it extends the PCR with its index, one of 24. -/
def HitsOwn (call : Measurement) : Prop :=
  LeavesAlone attester call ∨
    ∃ pcr : UInt8, pcr.toNat = call.registerIndex.toNat ∧ pcr.toNat ≤ 23 ∧ Extends attester call pcr

/-- The index is one of a PCR, or not even its last 8 bits are; or the call fails for another reason. -/
def Uncut (call : Measurement) : Prop :=
  call.registerIndex.toNat ≤ 23 ∨ 23 < call.registerIndex.toNat % 256 ∨
    call.eventDigest.length ≠ 32 ∨ call.refused ≠ none

/-- What the shared function does: it extends the PCR, or it leaves the TPM alone. -/
theorem extendPcr_cases (digest : List UInt8) (pcr : UInt8) :
    (∃ sha256Digest : Vector UInt8 32, sha256Digest.toList = digest ∧ pcr.toNat ≤ 23 ∧ refused = none ∧
        ∀ tpm, extendPcr refused digest pcr tpm = (.ok (), tpm.extended pcr sha256Digest)) ∨
      (digest.length ≠ 32 ∨ 23 < pcr.toNat ∨ refused ≠ none) ∧
        ∀ tpm, ∃ error, extendPcr refused digest pcr tpm = (.error error, tpm) := by
  unfold extendPcr
  cases converted : tryInto 32 "expected sha256 digest" digest with
  | error error =>
    refine .inr ⟨.inl fun length => ?_, fun tpm => ⟨error, rfl⟩⟩
    rw [tryInto, dif_pos length] at converted
    cases converted
  | ok sha256Digest =>
    have same := tryInto_ok.mp converted
    by_cases above : 23 < pcr
    · refine .inr ⟨.inr (.inl (UInt8.lt_iff_toNat_lt.mp above)), fun tpm =>
        ⟨.error s!"Invalid PCR index: {pcr}", ?_⟩⟩
      exact (Action.bind_ok rfl).trans (by rw [if_pos above]; rfl)
    · cases refused with
      | some message =>
        refine .inr ⟨.inr (.inr (Option.some_ne_none message)), fun tpm => ⟨.error message, ?_⟩⟩
        exact (Action.bind_ok rfl).trans (by rw [if_neg above]; rfl)
      | none =>
        refine .inl ⟨sha256Digest, same.symm, Nat.not_lt.mp fun less => above (UInt8.lt_iff_toNat_lt.mpr less), rfl,
          fun tpm => ?_⟩
        exact (Action.bind_ok rfl).trans (by rw [if_neg above]; rfl)

/-- A call extends the PCR of the last 8 bits of its index, or it leaves the TPM alone. -/
theorem measurement_cases (call : Measurement) :
    (call.registerIndex.toNat % 256 ≤ 23 ∧ call.eventDigest.length = 32 ∧ call.refused = none ∧
        Extends attester call call.registerIndex.toUInt8) ∨
      (23 < call.registerIndex.toNat % 256 ∨ call.eventDigest.length ≠ 32 ∨ call.refused ≠ none) ∧
        LeavesAlone attester call := by
  have shared : attester.extendRuntimeMeasurement call =
      extendPcr call.refused call.eventDigest call.registerIndex.toUInt8 := by
    cases attester <;> rfl
  have low : call.registerIndex.toUInt8.toNat = call.registerIndex.toNat % 256 := UInt64.toNat_toUInt8 _
  unfold Extends LeavesAlone
  rw [shared]
  rcases @extendPcr_cases call.refused call.eventDigest call.registerIndex.toUInt8 with
    ⟨digest, same, below, accepted, runs⟩ | ⟨reason, fails⟩
  · left
    rw [low] at below
    refine ⟨below, ?_, accepted, digest, same, runs⟩
    rw [← same]
    exact digest.length_toList
  · right
    rw [low] at reason
    refine ⟨?_, fails⟩
    rcases reason with length | above | answered
    · exact .inr (.inl length)
    · exact .inl above
    · exact .inr (.inr answered)

/-- A call extends one PCR at most. -/
theorem Extends.unique {other : UInt8} (one : Extends attester call pcr) (two : Extends attester call other) :
    pcr = other := by
  obtain ⟨digest, _, runs⟩ := one
  obtain ⟨digest', _, runs'⟩ := two
  have same := (runs ⟨[]⟩).symm.trans (runs' ⟨[]⟩)
  simp only [Vtpm.extended, Prod.mk.injEq, Vtpm.mk.injEq, List.cons.injEq] at same
  exact same.2.1.1

theorem Extends.not_leavesAlone (one : Extends attester call pcr) : ¬ LeavesAlone attester call := by
  intro alone
  obtain ⟨digest, _, runs⟩ := one
  obtain ⟨error, failed⟩ := alone ⟨[]⟩
  rw [runs] at failed
  cases failed

/-- One call keeps to its own PCR exactly where its index is not cut down to that of another. -/
theorem hitsOwn_iff (call : Measurement) : HitsOwn attester call ↔ Uncut call := by
  have cut : call.registerIndex.toUInt8.toNat = call.registerIndex.toNat % 256 := UInt64.toNat_toUInt8 _
  rcases measurement_cases attester call with ⟨below, length, accepted, extend⟩ | ⟨reason, alone⟩
  · constructor
    · rintro (left | ⟨pcr, own, last, extend'⟩)
      · exact absurd left (extend.not_leavesAlone attester)
      · exact .inl (own ▸ last)
    · rintro (small | above | wrong | answered)
      · refine .inr ⟨_, ?_, ?_, extend⟩
        · rw [cut, Nat.mod_eq_of_lt (by omega)]
        · rw [cut]
          exact below
      · exact absurd below (Nat.not_le.mpr above)
      · exact absurd length wrong
      · exact absurd accepted answered
  · exact ⟨fun _ => .inr reason, fun _ => .inl alone⟩

/-- Of any calls each keeps to its own PCR, and no two indices share one, exactly where no
index is cut down to that of a PCR. -/
theorem own_registers_iff (calls : Set Measurement) :
    ((∀ call ∈ calls, HitsOwn attester call) ∧
        ∀ call ∈ calls, ∀ call' ∈ calls, call.registerIndex ≠ call'.registerIndex →
          ∀ pcr, Extends attester call pcr → ¬ Extends attester call' pcr) ↔
      ∀ call ∈ calls, Uncut call := by
  constructor
  · intro ⟨own, _⟩ call listed
    exact (hitsOwn_iff attester call).mp (own call listed)
  · intro uncut
    have own : ∀ call ∈ calls, HitsOwn attester call :=
      fun call listed => (hitsOwn_iff attester call).mpr (uncut call listed)
    refine ⟨own, fun call listed call' listed' apart pcr extend extend' => apart ?_⟩
    -- Both extend the PCR with their own index.
    have index : ∀ call ∈ calls, Extends attester call pcr → pcr.toNat = call.registerIndex.toNat := by
      intro call listed extend
      rcases own call listed with alone | ⟨pcr', same, _, extend'⟩
      · exact absurd alone (extend.not_leavesAlone attester)
      · rw [extend.unique attester extend', same]
    exact UInt64.toNat_inj.mp ((index call listed extend).symm.trans (index call' listed' extend'))

/-- The calls with the indices 0 and 256 extend the same PCR, the one with the index 0. -/
theorem index_256_extends_pcr_0 :
    Extends .azSnp ⟨List.replicate 32 0, 256, none⟩ 0 ∧ Extends .azSnp ⟨List.replicate 32 0, 0, none⟩ 0 ∧
      ¬ HitsOwn .azSnp ⟨List.replicate 32 0, 256, none⟩ := by
  refine ⟨⟨Vector.replicate 32 0, rfl, fun _ => rfl⟩, ⟨Vector.replicate 32 0, rfl, fun _ => rfl⟩, ?_⟩
  rw [hitsOwn_iff]
  rintro (small | above | wrong | answered)
  · exact absurd small (by decide)
  · exact absurd above (by decide)
  · exact wrong rfl
  · exact answered rfl

end GuestComponents.EventLog
