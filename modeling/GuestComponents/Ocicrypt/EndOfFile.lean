import GuestComponents.Ocicrypt.Streaming
import GuestComponents.Lib.Transition

/-! What a clean end of file means. A read that gets nothing sets `done` before
the HMAC is compared, and a read into an empty buffer gets nothing wherever the
stream stands; after that every read says that the stream has ended. `true_end`
says that a caller who avoids the two is told the truth, in every state of every
sequence of calls, of either reader. -/
namespace GuestComponents.Ocicrypt
open Lib

/-- A reader, and the last call made to it: the room in the buffer, and the response. -/
structure ReaderState where
  cipher : AESCTRBlockCipher
  last : Option (Nat × Poll (Except IoError Bytes))

section Runs

variable (crypto : Crypto) (encrypt : Bool) (input : Bytes) (opts : LayerBlockCipherOptions)

/-- Sequences of calls to a reader that was set up over this input. -/
def readerSystem : System ReaderState Call where
  start s := s.last = none ∧ ∃ (blank : AESCTRBlockCipher) (random : Except String Nonce)
    (opts' : LayerBlockCipherOptions), blank.init encrypt ⟨input⟩ random opts = .ok (s.cipher, opts')
  step s call :=
    let response := s.cipher.respond crypto call
    some ⟨response.2, some (call.room, response.1)⟩

/-- An end of file that was reported is one, and verified; a tag that is exported
is the tag of the complete ciphertext. -/
structure TrueEnd (s : ReaderState) : Prop where
  reached : ∀ room, s.last = some (room, .ready (.ok [])) → room ≠ 0 →
    ∃ state, s.cipher.state = some state ∧ state.reader.remaining = [] ∧
      (encrypt = false → crypto.hmac opts.priv.symmetricKey input = opts.pub.hmac)
  exported : encrypt = true → ∀ before after, s.cipher.finalizedLbco before = .ok after →
    ∃ state, s.cipher.state = some state ∧ after.pub.hmac = crypto.hmac opts.priv.symmetricKey
      (Keystream.apply (crypto.keystream opts.priv.symmetricKey state.cipher.nonce) 0 input)

/-- A read into an empty buffer is made only at the end of the input, and no read
into a buffer with room once a verification has failed. -/
def Careful (s : ReaderState) (call : Call) : Prop :=
  ∀ state, s.cipher.state = some state →
    (state.done = false → call.room = 0 → (∃ count, call.answer = .ready (.ok count)) →
      state.reader.remaining = []) ∧
    (state.done = true → s.cipher.encrypting = false → call.room ≠ 0 →
      state.hmac.verifySlice crypto state.expHmac = true)

/-- The states of a careful run: a stage of the reader over this input, at the end
of it when `done` is set, and a last response that is true. -/
structure Honest (s : ReaderState) (job : Job) (done : Bool) (consumed remaining : Bytes) : Prop where
  stage : s.cipher = job.stage crypto done consumed remaining
  whole : consumed ++ remaining = input
  direction : job.encrypting = encrypt
  key : job.key = opts.priv.symmetricKey
  expHmac : job.expHmac = opts.pub.hmac
  ended : done = true → remaining = []
  told : ∀ room, s.last = some (room, .ready (.ok [])) → room ≠ 0 →
    done = true ∧ job.Verifies crypto input

variable {crypto encrypt input opts}

theorem Honest.trueEnd {s : ReaderState} {job : Job} {done : Bool} {consumed remaining : Bytes}
    (honest : Honest crypto encrypt input opts s job done consumed remaining) :
    TrueEnd crypto encrypt input opts s where
  reached := by
    intro room last space
    obtain ⟨isDone, verified⟩ := honest.told room last space
    refine ⟨_, by rw [honest.stage]; rfl, honest.ended isDone, fun decrypting => ?_⟩
    rcases verified with encrypting | tag
    · rw [honest.direction, decrypting] at encrypting
      cases encrypting
    · rw [← honest.key, ← honest.expHmac]
      exact tag
  exported := by
    intro encrypting before after finalized
    have direction : job.encrypting = true := honest.direction.trans encrypting
    refine ⟨_, by rw [honest.stage]; rfl, ?_⟩
    cases done with
    | false =>
      rw [honest.stage] at finalized
      cases finalized
    | true =>
      have all : consumed = input := by
        rw [← honest.whole, honest.ended rfl, List.append_nil]
      rw [honest.stage, finalizedLbco_stage direction] at finalized
      cases finalized
      rw [← honest.key, all]
      rfl

/-- What one careful call keeps. -/
theorem call_honest {s : ReaderState} {call : Call} {job : Job} {done : Bool}
    {consumed remaining : Bytes}
    (honest : Honest crypto encrypt input opts s job done consumed remaining)
    (careful : Careful crypto s call) :
    ∃ done' consumed' remaining', Honest crypto encrypt input opts
      ⟨(s.cipher.respond crypto call).2, some (call.room, (s.cipher.respond crypto call).1)⟩
      job done' consumed' remaining' := by
  obtain ⟨cipher, last⟩ := s
  obtain ⟨stage, whole, direction, key, expHmac, ended, told⟩ := honest
  simp only at stage
  subst stage
  obtain ⟨roomy, verified⟩ := careful _ rfl
  cases done with
  | true =>
    -- nothing is read any more, and the verdict stands
    have same : (job.stage crypto true consumed remaining).respond crypto call =
        (.ready (.ok []), job.stage crypto true consumed remaining) := by
      cases answer : call.answer with
      | pending => rw [respond_pending answer]; rfl
      | ready result => rw [respond_ready _ answer, read_done]
    simp only [same]
    refine ⟨true, consumed, remaining, rfl, whole, direction, key, expHmac, ended, ?_⟩
    intro room now space
    cases now
    refine ⟨rfl, ?_⟩
    by_cases encrypting : job.encrypting = true
    · exact .inl encrypting
    · have tag := verified rfl (Bool.not_eq_true _ ▸ encrypting) space
      have all : consumed = input := by
        rw [← whole, ended rfl, List.append_nil]
      simp only [Bool.not_eq_true] at encrypting
      simp [HmacSha256.verifySlice, HmacSha256.finalize, Job.covered, encrypting, all] at tag
      exact .inr tag
  | false =>
    cases answer : call.answer with
    | pending =>
      rw [respond_pending answer]
      refine ⟨false, consumed, remaining, rfl, whole, direction, key, expHmac, ended, ?_⟩
      intro room now space
      cases now
    | ready result =>
      rw [respond_ready _ answer]
      cases result with
      | error error =>
        rw [read_error]
        refine ⟨false, consumed, remaining, rfl, whole, direction, key, expHmac, ended, ?_⟩
        intro room now space
        cases now
      | ok count =>
        by_cases nothing : call.room = 0 ∨ remaining = []
        · have used : remaining = [] :=
            nothing.elim (fun empty => roomy rfl empty ⟨count, answer⟩) id
          rw [read_none nothing]
          refine ⟨true, consumed, remaining, rfl, whole, direction, key, expHmac, fun _ => used, ?_⟩
          intro room now space
          have all : consumed = input := by
            rw [← whole, used, List.append_nil]
          simp only [Option.some.injEq, Prod.mk.injEq, Poll.ready.injEq, Job.verdict, all] at now
          refine ⟨rfl, ?_⟩
          by_contra differs
          rw [if_neg differs] at now
          cases now.2
        · rw [not_or] at nothing
          obtain ⟨n, some_, fits, ran⟩ :=
            @read_some crypto job consumed remaining call.room count nothing.1 nothing.2
          rw [ran]
          refine ⟨false, consumed ++ remaining.take n, remaining.drop n, rfl, ?_, direction, key,
            expHmac, fun no => (Bool.false_ne_true no).elim, ?_⟩
          · rw [List.append_assoc, List.take_append_drop, whole]
          · intro room now space
            simp only [Option.some.injEq, Prod.mk.injEq, Poll.ready.injEq, Except.ok.injEq, Job.under,
              Keystream.apply_eq_nil] at now
            have size : (remaining.take n).length = n := by rw [List.length_take]; omega
            rw [now.2] at size
            simp at size
            omega

end Runs

/-- In every state that careful calls reach, an end of file that was reported is
the end of the input with a verified tag, and an exported tag is that of the
complete ciphertext. -/
theorem true_end (crypto : Crypto) (encrypt : Bool) (input : Bytes) (opts : LayerBlockCipherOptions)
    {s : ReaderState}
    (reached : (readerSystem crypto encrypt input opts).Reachable (Careful crypto) s) :
    TrueEnd crypto encrypt input opts s := by
  have initial : ∀ s, (readerSystem crypto encrypt input opts).start s →
      ∃ job done consumed remaining, Honest crypto encrypt input opts s job done consumed remaining := by
    rintro s ⟨fresh, blank, random, opts', set⟩
    obtain ⟨nonce, _, _, stage, _, _, _⟩ := init_stage crypto set
    refine ⟨_, false, [], input, stage, rfl, rfl, rfl, rfl, fun no => (Bool.false_ne_true no).elim, ?_⟩
    intro room now
    rw [fresh] at now
    cases now
  have preserved : ∀ s call next,
      (∃ job done consumed remaining, Honest crypto encrypt input opts s job done consumed remaining) →
      Careful crypto s call → (readerSystem crypto encrypt input opts).step s call = some next →
      ∃ job done consumed remaining,
        Honest crypto encrypt input opts next job done consumed remaining := by
    rintro s call next ⟨job, done, consumed, remaining, honest⟩ careful ran
    cases ran
    exact ⟨job, call_honest honest careful⟩
  obtain ⟨job, done, consumed, remaining, honest⟩ := reached.invariant initial preserved
  exact honest.trueEnd

/-- Options with a key, a nonce of sixteen bytes and a tag of one byte. -/
def taggedOptions : LayerBlockCipherOptions :=
  ⟨⟨"", [], [0]⟩, ⟨List.replicate 32 7, [("nonce", List.replicate 16 9)], ""⟩⟩

def taggedJob (encrypt : Bool) : Job :=
  ⟨aes256KeySize, encrypt, List.replicate 32 7, List.replicate 16 9, [0]⟩

/-- The reader that these options set up. -/
def readerAt (encrypt done : Bool) (consumed remaining : Bytes) : AESCTRBlockCipher :=
  (taggedJob encrypt).stage rustCrypto done consumed remaining

theorem readerAt_starts (encrypt : Bool) (input : Bytes) :
    (readerSystem rustCrypto encrypt input taggedOptions).start
      ⟨readerAt encrypt false [] input, none⟩ := by
  refine ⟨rfl, freshCipher, .ok freshNonce, taggedOptions, ?_⟩
  cases encrypt <;> rfl

/-- `true_end` after an encrypting reader gave its one byte and reported the end. -/
theorem true_end_one_byte :
    ∃ s, (readerSystem rustCrypto true [1] taggedOptions).exec
        ⟨readerAt true false [] [1], none⟩ [.read 8 (.ok 8), .read 8 (.ok 8)] = some s ∧
      s.last = some (8, .ready (.ok [])) ∧ TrueEnd rustCrypto true [1] taggedOptions s := by
  have roomy : ∀ consumed remaining last,
      Careful rustCrypto ⟨readerAt true false consumed remaining, last⟩ (.read 8 (.ok 8)) := by
    intro consumed remaining last state same
    cases same
    constructor
    · intro _ empty
      cases empty
    · intro isDone
      cases isDone
  obtain ⟨n, some_, fits, first⟩ :=
    @read_some rustCrypto (taggedJob true) [] [1] 8 8 (by decide) (by decide)
  have one : n = 1 := Nat.le_antisymm fits some_
  subst one
  have second := @read_none rustCrypto (taggedJob true) [1] [] 8 8 (.inr rfl)
  have clean : (taggedJob true).verdict rustCrypto [1] = .ok [] := if_pos (.inl rfl)
  have gave : (readerSystem rustCrypto true [1] taggedOptions).step
      ⟨readerAt true false [] [1], none⟩ (.read 8 (.ok 8)) = some ⟨readerAt true false [1] [],
        some (8, .ready (.ok ((taggedJob true).under rustCrypto 0 [1])))⟩ := by
    simp only [readerSystem, AESCTRBlockCipher.respond, readerAt, first, Call.room]
    rfl
  have ended : (readerSystem rustCrypto true [1] taggedOptions).step
      ⟨readerAt true false [1] [], some (8, .ready (.ok ((taggedJob true).under rustCrypto 0 [1])))⟩
      (.read 8 (.ok 8)) = some ⟨readerAt true true [1] [], some (8, .ready (.ok []))⟩ := by
    simp only [readerSystem, AESCTRBlockCipher.respond, readerAt, second, clean, Call.room]
  have reached : (readerSystem rustCrypto true [1] taggedOptions).Reachable (Careful rustCrypto)
      ⟨readerAt true true [1] [], some (8, .ready (.ok []))⟩ :=
    .step (.step (.start (readerAt_starts true [1])) (roomy [] [1] none) gave) (roomy [1] [] _) ended
  refine ⟨_, ?_, rfl, true_end rustCrypto true [1] taggedOptions reached⟩
  simp only [System.exec, gave, ended]

/-- A read into an empty buffer and then one into a buffer with room: the second
reports a clean end before any of the input was read. -/
theorem early_end (encrypt : Bool) :
    (readerSystem rustCrypto encrypt [1, 2, 3] taggedOptions).Reachable System.Free
        ⟨readerAt encrypt true [] [1, 2, 3], some (8, .ready (.ok []))⟩ ∧
      ¬ TrueEnd rustCrypto encrypt [1, 2, 3] taggedOptions
        ⟨readerAt encrypt true [] [1, 2, 3], some (8, .ready (.ok []))⟩ := by
  have ended : (readerSystem rustCrypto encrypt [1, 2, 3] taggedOptions).step
      ⟨readerAt encrypt false [] [1, 2, 3], none⟩ (.read 0 (.ok 0)) =
        some ⟨readerAt encrypt true [] [1, 2, 3],
          some (0, .ready ((taggedJob encrypt).verdict rustCrypto []))⟩ := by
    have ran := @read_none rustCrypto (taggedJob encrypt) [] [1, 2, 3] 0 0 (.inl rfl)
    simp only [readerSystem, AESCTRBlockCipher.respond, readerAt, ran, Call.room]
  have reported : (readerSystem rustCrypto encrypt [1, 2, 3] taggedOptions).step
      ⟨readerAt encrypt true [] [1, 2, 3],
        some (0, .ready ((taggedJob encrypt).verdict rustCrypto []))⟩ (.read 8 (.ok 8)) =
        some ⟨readerAt encrypt true [] [1, 2, 3], some (8, .ready (.ok []))⟩ := rfl
  refine ⟨.step (.step (.start (readerAt_starts encrypt [1, 2, 3])) trivial ended) trivial reported, ?_⟩
  intro true_
  obtain ⟨state, same, used, _⟩ := true_.reached 8 rfl (by decide)
  cases same
  cases used

/-- An early end is reported when decrypting under a wrong tag, and when encrypting,
where the tag of no bytes is exported. -/
theorem false_end :
    (∃ s, (readerSystem rustCrypto false [1, 2, 3] taggedOptions).Reachable System.Free s ∧
      ¬ TrueEnd rustCrypto false [1, 2, 3] taggedOptions s ∧ s.last = some (8, .ready (.ok []))) ∧
    ∃ s, (readerSystem rustCrypto true [1, 2, 3] taggedOptions).Reachable System.Free s ∧
      ¬ TrueEnd rustCrypto true [1, 2, 3] taggedOptions s ∧ s.last = some (8, .ready (.ok [])) ∧
      (s.cipher.finalizedLbco taggedOptions).map (·.pub.hmac) =
        .ok (rustCrypto.hmac (List.replicate 32 7) []) := by
  obtain ⟨reached, false_⟩ := early_end false
  obtain ⟨reached', false_'⟩ := early_end true
  refine ⟨⟨_, reached, false_, rfl⟩, _, reached', false_', rfl, ?_⟩
  show (((taggedJob true).stage rustCrypto true [] [1, 2, 3]).finalizedLbco taggedOptions).map
    (·.pub.hmac) = _
  rw [finalizedLbco_stage rfl]
  simp [Except.map, Job.under, taggedJob]

end GuestComponents.Ocicrypt
