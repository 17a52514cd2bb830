import GuestComponents.EventLog.InStep
import GuestComponents.EventLog.RoundTrip

/-! The replay of the log against a TDX register. The attester writes every
digest as 48 bytes and the hardware hashes with SHA-384, while the replay hashes
with the log's algorithm throughout. For a SHA-384 log the two accumulators make
the same steps; for any other the results do not even have one length. -/
namespace GuestComponents.EventLog
open Lib Lib.Text

/-- `utils.rs::pad`: zeros up to the width, or the bytes beyond it cut off. -/
def pad (width : Nat) (input : List UInt8) : List UInt8 :=
  if width < input.length then input.take width
  else input ++ List.replicate (width - input.length) 0

theorem pad_of_length {width : Nat} {input : List UInt8} (full : input.length = width) :
    pad width input = input := by
  simp [pad, full]

/-- `TdxAttester::pcr_to_rtmr`. -/
def pcrToRtmr (registerIndex : Nat) : Nat :=
  if registerIndex = 1 ∨ registerIndex = 7 then 0
  else if 2 ≤ registerIndex ∧ registerIndex ≤ 6 then 1
  else if 8 ≤ registerIndex ∧ registerIndex ≤ 15 then 2
  else 3

/-- The TDX attester over the hardware's `RTMR' = SHA384(RTMR || d)`. -/
def tdx : Platform := ⟨pcrToRtmr, ⟨fun rtmr digest => Sha2.sha384.digest (rtmr ++ pad 48 digest)⟩⟩

/-- A digest has the length of its algorithm. -/
theorem sha2_length (alg : HashAlgorithm) (message : List UInt8) :
    (sha2 alg message).length = alg.digestLen := by
  cases alg
  · exact Sha2.Params.digest_length Sha2.sha256 message
  · exact Sha2.Params.digest_length Sha2.sha384 message
  · exact Sha2.Params.digest_length Sha2.sha512 message

/-- A SHA-384 digest is written as it is, so the hardware hashes what the replay
hashes. -/
theorem tdx_hashes : HashesWith sha2 tdx .sha384 := by
  intro value text
  have whole : pad 48 (sha2 .sha384 (utf8 text)) = sha2 .sha384 (utf8 text) :=
    pad_of_length (sha2_length .sha384 _)
  show Sha2.sha384.digest (value ++ pad 48 (sha2 .sha384 (utf8 text))) = _
  rw [whole]
  rfl

/-- A replay ends with a digest of the log's algorithm. -/
theorem accumulateHash_length (log : AAEventlog) :
    (log.accumulateHash sha2).length = log.hashAlgorithm.digestLen := by
  obtain ⟨alg, initState, events⟩ := log
  rcases List.eq_nil_or_concat events with rfl | ⟨front, event, rfl⟩
  · exact sha2_length alg _
  · rw [List.concat_eq_append, accumulateHash_append]
    exact sha2_length alg _

/-- No effect changes the width of a TDX register. -/
theorem tdx_width {m : Machine} {rtmr : Nat} (wide : (m.registers rtmr).length = 48)
    (effects : List Effect) : ((tdx.run m effects).registers rtmr).length = 48 := by
  induction effects generalizing m with
  | nil => exact wide
  | cons effect effects ih =>
    apply ih
    cases effect with
    | create => exact wide
    | append line => exact wide
    | extend pcr digest =>
      by_cases here : rtmr = tdx.register pcr
      · subst here
        simp only [Platform.onRegister, Effect.apply, Function.update_self]
        exact Sha2.Params.digest_length Sha2.sha384 _
      · simpa [Platform.onRegister, Effect.apply, Function.update_of_ne here] using wide

section Entries

variable {sha : Sha} {platform : Platform} {initPcr pcr : Nat}

/-- On a platform that extends with the log's algorithm, the register after the
entries is the replay of their lines, readable or not. -/
theorem entries_replay {alg : HashAlgorithm} (hashes : HashesWith sha platform alg)
    (own : platform.register pcr = platform.register initPcr) {m : Machine}
    {initState : List UInt8} {events : List Text}
    (before : platform.bound initPcr m = AAEventlog.accumulateHash sha ⟨alg, initState, events⟩)
    (entries : List LoggedEvent) :
    platform.bound initPcr (platform.run m (extendEntries sha ⟨alg, initPcr⟩ pcr entries)) =
      AAEventlog.accumulateHash sha ⟨alg, initState, events ++ entries.map LoggedEvent.line⟩ := by
  induction entries generalizing m events with
  | nil => simpa [extendEntries] using before
  | cons event entries ih =>
    have split : platform.run m (extendEntries sha ⟨alg, initPcr⟩ pcr (event :: entries)) =
        platform.run (platform.run m (extendEntry sha ⟨alg, initPcr⟩ event.entry pcr))
          (extendEntries sha ⟨alg, initPcr⟩ pcr entries) := by
      simp [Platform.run, Machine.run, extendEntries]
    have first : platform.bound initPcr
        (platform.run m (extendEntry sha ⟨alg, initPcr⟩ event.entry pcr)) =
          AAEventlog.accumulateHash sha ⟨alg, initState, events ++ [event.line]⟩ := by
      rw [entry_extends m alg event.entry own, hashes, accumulateHash_append, before]
      rfl
    rw [split, ih first]
    simp

/-- The platform decides which register a digest goes to, and not what the file holds. -/
theorem run_file (attester : Attester) {m m' : Machine} (same : m.aael = m'.aael)
    (effects : List Effect) :
    (platform.run m effects).aael = (m'.run attester effects).aael := by
  induction effects generalizing m m' with
  | nil => exact same
  | cons effect effects ih =>
    apply ih
    cases effect with
    | create => rfl
    | append line => simp [Platform.onRegister, Effect.apply, same]
    | extend pcr digest => exact same

end Entries

section Tdx

variable (alg : HashAlgorithm) (initPcr pcr : Nat) (m : Machine) (entries : List LoggedEvent)

/-- The machine after the agent's first start on TDX and these entries. -/
def tdxLogged : Machine :=
  tdx.run (agentInit sha2 tdx initPcr m alg false).machine
    (extendEntries sha2 ⟨alg, initPcr⟩ pcr entries)

/-- The log of these entries. -/
def tdxLog : AAEventlog := ⟨alg, tdx.bound initPcr m, entries.map LoggedEvent.line⟩

/-- The replay accepts the RTMR of the logged entries exactly where the log is a
SHA-384 one; and it is this log that the file is read as where its lines are
readable. -/
theorem tdx_replay_iff (absent : m.aael = none) (wide : (tdx.bound initPcr m).length = 48)
    (own : pcrToRtmr pcr = pcrToRtmr initPcr) :
    ((tdxLog alg initPcr m entries).integrityCheck sha2
        (tdx.bound initPcr (tdxLogged alg initPcr pcr m entries)) = true ↔ alg = .sha384) ∧
      ((∀ event ∈ entries, Readable event.line) →
        (tdxLogged alg initPcr pcr m entries).parsed = some (tdxLog alg initPcr m entries)) := by
  have unpadded : alg.digestLen ≤ 2 * (tdx.bound initPcr m).length := by
    cases alg <;> rw [wide] <;> decide
  obtain ⟨file, extended⟩ := @first_start sha2 tdx initPcr m alg absent unpadded
  constructor
  · constructor
    · intro accepted
      have same := congrArg List.length (beq_iff_eq.mp accepted)
      have size : (tdx.bound initPcr (tdxLogged alg initPcr pcr m entries)).length = 48 := by
        apply tdx_width
        have started : (tdx.bound initPcr (agentInit sha2 tdx initPcr m alg false).machine).length = 48 := by
          rw [extended]
          exact Sha2.Params.digest_length Sha2.sha384 _
        exact started
      rw [size, accumulateHash_length] at same
      cases alg with
      | sha256 => cases same
      | sha384 => rfl
      | sha512 => cases same
    · intro native
      subst native
      have started : tdx.bound initPcr (agentInit sha2 tdx initPcr m .sha384 false).machine =
          AAEventlog.accumulateHash sha2 ⟨.sha384, tdx.bound initPcr m, []⟩ := by
        rw [extended, tdx_hashes]
        rfl
      exact beq_iff_eq.mpr (entries_replay tdx_hashes own started entries)
  · intro readable
    have text : (tdxLogged alg initPcr pcr m entries).aael =
        some (render alg (tdx.bound initPcr m) [] ++ body entries) := by
      rw [tdxLogged, run_file bank rfl]
      exact written_body sha2 bank _ file pcr entries
    have recovered := (lines_of_body_iff entries).mpr readable
    have whole : render alg (tdx.bound initPcr m) [] ++ body entries =
        initLine alg (hexEncode (tdx.bound initPcr m)) ++ '\n' :: body entries := by
      simp [render]
    simp [Machine.parsed, text, whole, fromStr_initLine, recovered, tdxLog, Except.toOption]

end Tdx

/-- A TD that has just booted, all registers zero. -/
def blankTd : Machine := ⟨none, fun _ => List.replicate 48 0⟩

theorem three_clean : '\n' ∉ "three".toList := by decide

def tdEvent : LoggedEvent := ⟨"one".toList, "two".toList, ⟨"three".toList, three_clean⟩⟩

/-- `tdx_replay_iff` for one event of PCR 20 in a SHA-384 log bound to PCR 17:
both stand for RTMR 3. -/
theorem tdx_replay_one_event :
    (tdxLog .sha384 17 blankTd [tdEvent]).integrityCheck sha2
        (tdx.bound 17 (tdxLogged .sha384 17 20 blankTd [tdEvent])) = true :=
  (tdx_replay_iff .sha384 17 20 blankTd [tdEvent] rfl (by decide) rfl).1.mpr rfl

/-- The replay of a SHA-256 log refuses the RTMR, with an event or without. -/
theorem tdx_refuses_sha256 :
    (tdxLog .sha256 17 blankTd []).integrityCheck sha2
        (tdx.bound 17 (tdxLogged .sha256 17 17 blankTd [])) = false ∧
      (tdxLog .sha256 17 blankTd [tdEvent]).integrityCheck sha2
        (tdx.bound 17 (tdxLogged .sha256 17 17 blankTd [tdEvent])) = false := by
  constructor
  · decide +kernel
  · decide +kernel

end GuestComponents.EventLog
