import GuestComponents.Ocicrypt.BlockCipher

/-! The cipher readers over whole streams. Whatever the reads, the state is
determined by how much of the input has gone through (`Job.stage`): the output
so far is the input so far under the keystream, and the HMAC has covered the
ciphertext side of it. `drain_stage` follows a schedule of reads from such a state
to the end, and `layer_round_trip` puts an encryption and a decryption together. -/
namespace GuestComponents.Ocicrypt
open Lib

/-- What is fixed when a reader is set up. -/
structure Job where
  keyLen : Nat
  encrypting : Bool
  key : Bytes
  nonce : Bytes
  expHmac : Bytes

section Stages

variable (crypto : Crypto)

namespace Job

variable (job : Job)

/-- The bytes under the job's keystream. -/
def under (position : Nat) (data : Bytes) : Bytes :=
  Keystream.apply (crypto.keystream job.key job.nonce) position data

/-- The ciphertext side of the input so far, which the HMAC covers. -/
def covered (consumed : Bytes) : Bytes :=
  if job.encrypting then job.under crypto 0 consumed else consumed

/-- The reader when this much of the input has gone through it. -/
def stage (done : Bool) (consumed remaining : Bytes) : AESCTRBlockCipher where
  keyLen := job.keyLen
  encrypting := job.encrypting
  state := some
    { done := done
      cipher := ⟨job.key, job.nonce, consumed.length⟩
      expHmac :=
        if done && job.encrypting then crypto.hmac job.key (job.covered crypto consumed)
        else job.expHmac
      hmac := ⟨job.key, job.covered crypto consumed⟩
      reader := ⟨remaining⟩ }

/-- The HMAC that was supplied is that of these bytes, or none was asked for. -/
def Verifies (consumed : Bytes) : Prop :=
  job.encrypting = true ∨ crypto.hmac job.key consumed = job.expHmac

instance (consumed : Bytes) : Decidable (job.Verifies crypto consumed) :=
  inferInstanceAs (Decidable (_ ∨ _))

/-- What the reader says at the end of its input. -/
def verdict (consumed : Bytes) : Except IoError Bytes :=
  if job.Verifies crypto consumed then .ok []
  else .error (.failedDecrypt job.expHmac (crypto.hmac job.key consumed))

theorem covered_append (consumed data : Bytes) :
    job.covered crypto (consumed ++ data) =
      job.covered crypto consumed ++
        if job.encrypting then job.under crypto consumed.length data else data := by
  unfold covered
  split
  · simp [under, Keystream.apply_append]
  · rfl

end Job

variable {crypto}

/-- A read that the inner reader answers with bytes puts them under the keystream
and moves on. -/
theorem read_some {job : Job} {consumed remaining : Bytes} {room count : Nat} (space : room ≠ 0)
    (more : remaining ≠ []) :
    ∃ n, 0 < n ∧ n ≤ remaining.length ∧
      (job.stage crypto false consumed remaining).read crypto room (.ok count) =
        (.ok (job.under crypto consumed.length (remaining.take n)),
          job.stage crypto false (consumed ++ remaining.take n) (remaining.drop n)) := by
  have some_ : 0 < remaining.length := List.length_pos_of_ne_nil more
  let n := min (min (max 1 count) room) remaining.length
  have same : remaining.take (min (max 1 count) room) = remaining.take n := by
    rw [List.take_eq_take_iff]
    omega
  have same' : remaining.drop (min (max 1 count) room) = remaining.drop n := by
    rw [List.drop_eq_drop_iff]
    omega
  have size : 0 < (remaining.take n).length := by
    rw [List.length_take]
    omega
  obtain ⟨first, rest, chunk⟩ := List.exists_cons_of_length_pos size
  refine ⟨n, by omega, by omega, ?_⟩
  rw [chunk]
  cases encrypting : job.encrypting <;>
    simp [AESCTRBlockCipher.read, Job.stage, Source.read, Source.give, same.trans chunk, same',
      encrypting, HmacSha256.update, Aes256Ctr.applyKeystream, Job.covered_append, Job.under]

/-- A read that gets nothing, because the input is used up or the buffer has no
room, ends the stream with the verdict on what was read. -/
theorem read_none {job : Job} {consumed remaining : Bytes} {room count : Nat}
    (nothing : room = 0 ∨ remaining = []) :
    (job.stage crypto false consumed remaining).read crypto room (.ok count) =
      (job.verdict crypto consumed, job.stage crypto true consumed remaining) := by
  have empty : remaining.take (min (max 1 count) room) = [] := by
    rcases nothing with rfl | rfl <;> simp
  have same : remaining.drop (min (max 1 count) room) = remaining := by
    rcases nothing with rfl | rfl <;> simp
  cases encrypting : job.encrypting
  · by_cases verified : crypto.hmac job.key consumed = job.expHmac <;>
      simp [AESCTRBlockCipher.read, Job.stage, Source.read, Source.give, empty, same, encrypting,
        HmacSha256.verifySlice, HmacSha256.finalize, Job.verdict, Job.Verifies, verified, Job.covered]
  · simp [AESCTRBlockCipher.read, Job.stage, Source.read, Source.give, empty, same, encrypting,
      HmacSha256.finalize, Job.verdict, Job.Verifies]

theorem read_error {job : Job} {consumed remaining : Bytes} {room : Nat} {error : IoError} :
    (job.stage crypto false consumed remaining).read crypto room (.error error) =
      (.error error, job.stage crypto false consumed remaining) := rfl

theorem read_done {job : Job} {consumed remaining : Bytes} {room : Nat}
    {answer : Except IoError Nat} :
    (job.stage crypto true consumed remaining).read crypto room answer =
      (.ok [], job.stage crypto true consumed remaining) := rfl

/-- The asynchronous reader does what the synchronous one does with the room
that is left in its buffer, and appends. -/
theorem pollRead_ready (cipher : AESCTRBlockCipher) (buf : ReadBuf) (answer : Except IoError Nat) :
    cipher.pollRead crypto buf (.ready answer) =
      (.ready ((cipher.read crypto buf.room answer).1.map (buf.filled ++ ·)),
        (cipher.read crypto buf.room answer).2) := by
  obtain ⟨keyLen, encrypting, state⟩ := cipher
  cases state with
  | none => rfl
  | some state =>
    obtain ⟨done, stream, expHmac, hmac, reader⟩ := state
    cases done with
    | true => simp [AESCTRBlockCipher.pollRead, AESCTRBlockCipher.read, Except.map]
    | false =>
      cases answer with
      | error error => simp [AESCTRBlockCipher.pollRead, AESCTRBlockCipher.read, Source.pollRead,
          Source.read, Except.map]
      | ok count =>
        cases given : (reader.give buf.room count).1 with
        | nil =>
          cases encrypting <;> cases verified : hmac.verifySlice crypto expHmac <;>
            simp [AESCTRBlockCipher.pollRead, AESCTRBlockCipher.read, Source.pollRead, Source.read,
              given, verified, Except.map]
        | cons first rest =>
          cases encrypting <;>
            simp [AESCTRBlockCipher.pollRead, AESCTRBlockCipher.read, Source.pollRead, Source.read,
              given, Except.map]

/-- An inner reader that has nothing yet leaves the asynchronous one as it is. -/
theorem pollRead_pending {job : Job} {consumed remaining : Bytes} (done : Bool) (buf : ReadBuf) :
    (job.stage crypto done consumed remaining).pollRead crypto buf .pending =
      (if done then .ready (.ok buf.filled) else .pending,
        job.stage crypto done consumed remaining) := by
  cases done <;> rfl

end Stages

/-- One call of either reader, and what the inner reader does in it. -/
inductive Call where
  | read (room : Nat) (answer : Except IoError Nat)
  | pollRead (buf : ReadBuf) (answer : Poll (Except IoError Nat))

namespace Call

def room : Call → Nat
  | read room _ => room
  | pollRead buf _ => buf.room

def answer : Call → Poll (Except IoError Nat)
  | read _ answer => .ready answer
  | pollRead _ answer => answer

def answered (call : Call) : Bool :=
  match call.answer with
  | .ready _ => true
  | .pending => false

end Call

section Runs

variable (crypto : Crypto)

/-- The bytes a call adds to its buffer. -/
def AESCTRBlockCipher.respond (cipher : AESCTRBlockCipher) :
    Call → Poll (Except IoError Bytes) × AESCTRBlockCipher
  | .read room answer =>
    let result := cipher.read crypto room answer
    (.ready result.1, result.2)
  | .pollRead buf answer =>
    match cipher.pollRead crypto buf answer with
    | (.pending, cipher) => (.pending, cipher)
    | (.ready result, cipher) => (.ready (result.map (·.drop buf.filled.length)), cipher)

/-- What reading to the end gives: the bytes, whether the end was clean or an
error (none: the calls ran out), and the reader afterwards. -/
structure Drained where
  output : Bytes
  ending : Option (Except IoError Unit)
  cipher : AESCTRBlockCipher

/-- The loop of a caller who reads until a read gives nothing or fails. -/
def AESCTRBlockCipher.drain (cipher : AESCTRBlockCipher) : List Call → Drained
  | [] => ⟨[], none, cipher⟩
  | call :: calls =>
    match cipher.respond crypto call with
    | (.pending, cipher) => cipher.drain calls
    | (.ready (.error error), cipher) => ⟨[], some (.error error), cipher⟩
    | (.ready (.ok []), cipher) => ⟨[], some (.ok ()), cipher⟩
    | (.ready (.ok (first :: rest)), cipher) =>
      let later := cipher.drain calls
      ⟨first :: rest ++ later.output, later.ending, later.cipher⟩

variable {crypto}

/-- Both readers, asked for bytes the inner reader has an answer for, do the same. -/
theorem respond_ready (cipher : AESCTRBlockCipher) {call : Call} {answer : Except IoError Nat}
    (ready : call.answer = .ready answer) :
    cipher.respond crypto call =
      (.ready (cipher.read crypto call.room answer).1, (cipher.read crypto call.room answer).2) := by
  cases call with
  | read room given =>
    cases ready
    rfl
  | pollRead buf given =>
    cases ready
    simp only [AESCTRBlockCipher.respond, pollRead_ready, Call.room]
    cases (cipher.read crypto buf.room answer).1 <;> simp [Except.map]

theorem respond_pending {job : Job} {consumed remaining : Bytes} {call : Call}
    (pending : call.answer = .pending) (done : Bool) :
    (job.stage crypto done consumed remaining).respond crypto call =
      (if done then .ready (.ok []) else .pending, job.stage crypto done consumed remaining) := by
  cases call with
  | read room given => cases pending
  | pollRead buf given =>
    cases pending
    cases done <;> simp [AESCTRBlockCipher.respond, pollRead_pending, Except.map]

/-- Reads with room, an inner reader that does not fail, and enough of them for
this many bytes. -/
structure Schedule (size : Nat) where
  calls : List Call
  room : ∀ call ∈ calls, call.room ≠ 0
  answers : ∀ call ∈ calls, ∀ error, call.answer ≠ .ready (.error error)
  enough : size < calls.countP Call.answered

/-- Single bytes, as many as it takes. -/
def Schedule.bytewise (size : Nat) : Schedule size where
  calls := List.replicate (size + 1) (.read 1 (.ok 1))
  room := by
    intro call member
    rw [List.eq_of_mem_replicate member]
    decide
  answers := by
    intro call member error
    rw [List.eq_of_mem_replicate member]
    simp [Call.answer]
  enough := by simp [List.countP_replicate, Call.answered, Call.answer]

/-- What reading to the end says. -/
def Job.ending (crypto : Crypto) (job : Job) (consumed : Bytes) : Except IoError Unit :=
  if job.Verifies crypto consumed then .ok ()
  else .error (.failedDecrypt job.expHmac (crypto.hmac job.key consumed))

theorem under_take (crypto : Crypto) (job : Job) (consumed remaining : Bytes) (n : Nat) :
    job.under crypto consumed.length remaining =
      job.under crypto consumed.length (remaining.take n) ++
        job.under crypto (consumed ++ remaining.take n).length (remaining.drop n) := by
  rw [List.length_append, Job.under, Job.under, Job.under, ← Keystream.apply_append,
    List.take_append_drop]

/-- Bytes that were read leave bytes under the keystream. -/
theorem under_take_ne_nil (crypto : Crypto) (job : Job) (consumed remaining : Bytes) {n : Nat} (some_ : 0 < n)
    (fits : n ≤ remaining.length) : job.under crypto consumed.length (remaining.take n) ≠ [] := by
  rw [Job.under, Ne, Keystream.apply_eq_nil]
  intro empty
  have size := congrArg List.length empty
  rw [List.length_take, List.length_nil] at size
  omega

/-- From any point of a stream, the reads of a schedule give the rest of the
input under the keystream and then the verdict. -/
theorem drain_stage (crypto : Crypto) (job : Job) (consumed : Bytes) {remaining : Bytes}
    (schedule : Schedule remaining.length) :
    (job.stage crypto false consumed remaining).drain crypto schedule.calls =
      ⟨job.under crypto consumed.length remaining,
        some (job.ending crypto (consumed ++ remaining)),
        job.stage crypto true (consumed ++ remaining) []⟩ := by
  obtain ⟨calls, room, answers, enough⟩ := schedule
  simp only
  induction calls generalizing consumed remaining with
  | nil => cases enough
  | cons call calls ih =>
    have laterRoom : ∀ later ∈ calls, later.room ≠ 0 := fun later member => room later (by simp [member])
    have laterAnswers : ∀ later ∈ calls, ∀ error, later.answer ≠ .ready (.error error) :=
      fun later member => answers later (by simp [member])
    rw [AESCTRBlockCipher.drain]
    cases answer : call.answer with
    | pending =>
      -- the inner reader has nothing yet: the call counts for nothing
      have unanswered : call.answered = false := by simp [Call.answered, answer]
      rw [List.countP_cons_of_neg (by simp [unanswered])] at enough
      rw [respond_pending answer]
      exact ih consumed laterRoom laterAnswers enough
    | ready result =>
      have answered : call.answered = true := by simp [Call.answered, answer]
      rw [List.countP_cons_of_pos answered] at enough
      rw [respond_ready _ answer]
      cases result with
      | error error => exact absurd answer (answers call (by simp) error)
      | ok count =>
        by_cases used : remaining = []
        · subst used
          rw [read_none (.inr rfl), List.append_nil]
          by_cases verified : job.Verifies crypto consumed <;>
            simp [Job.verdict, Job.ending, Job.under, verified]
        · obtain ⟨n, some_, fits, ran⟩ :=
            @read_some crypto job consumed remaining call.room count (room call (by simp)) used
          have shorter : (remaining.drop n).length < calls.countP Call.answered := by
            rw [List.length_drop]
            omega
          have later := ih (consumed ++ remaining.take n) laterRoom laterAnswers shorter
          have whole := under_take crypto job consumed remaining n
          rw [ran, whole]
          cases chunk : job.under crypto consumed.length (remaining.take n) with
          | nil => exact absurd chunk (under_take_ne_nil crypto job consumed remaining some_ fits)
          | cons first rest =>
            simp only [later, List.append_assoc, List.take_append_drop]

/-- A stream that was read to a clean end, whatever the reads, has gone through and
verified. -/
theorem drain_ended (crypto : Crypto) (job : Job) (consumed remaining : Bytes) {calls : List Call}
    (room : ∀ call ∈ calls, call.room ≠ 0)
    (ended : ((job.stage crypto false consumed remaining).drain crypto calls).ending = some (.ok ())) :
    job.Verifies crypto (consumed ++ remaining) ∧
      (job.stage crypto false consumed remaining).drain crypto calls =
        ⟨job.under crypto consumed.length remaining, some (.ok ()),
          job.stage crypto true (consumed ++ remaining) []⟩ := by
  induction calls generalizing consumed remaining with
  | nil => cases ended
  | cons call calls ih =>
    have laterRoom : ∀ later ∈ calls, later.room ≠ 0 := fun later member => room later (by simp [member])
    rw [AESCTRBlockCipher.drain] at ended ⊢
    cases answer : call.answer with
    | pending =>
      rw [respond_pending answer] at ended ⊢
      exact ih consumed remaining laterRoom ended
    | ready result =>
      rw [respond_ready _ answer] at ended ⊢
      cases result with
      | error error => cases ended
      | ok count =>
        by_cases used : remaining = []
        · subst used
          rw [read_none (.inr rfl)] at ended ⊢
          by_cases verified : job.Verifies crypto consumed
          · simp [Job.verdict, verified, Job.under]
          · simp [Job.verdict, verified] at ended
        · obtain ⟨n, some_, fits, ran⟩ :=
            @read_some crypto job consumed remaining call.room count (room call (by simp)) used
          have whole := under_take crypto job consumed remaining n
          rw [ran] at ended ⊢
          cases chunk : job.under crypto consumed.length (remaining.take n) with
          | nil => exact absurd chunk (under_take_ne_nil crypto job consumed remaining some_ fits)
          | cons first rest =>
            simp only [chunk] at ended ⊢
            obtain ⟨verified, drained⟩ :=
              ih (consumed ++ remaining.take n) (remaining.drop n) laterRoom ended
            rw [List.append_assoc, List.take_append_drop] at verified drained
            rw [whole, chunk, drained]
            exact ⟨verified, rfl⟩

end Runs

section RoundTrip

theorem lookup_orInsert (options : CipherOptions) (key : String) (value : Bytes) :
    (orInsert options key value).lookup key = some ((options.lookup key).getD value) := by
  unfold orInsert
  split
  · rename_i found known
    rw [known]
    rfl
  · rename_i absent
    simp [absent]

/-- A nonce is chosen as the options say, or freshly when they say nothing. -/
theorem chooseNonce_ok {random : Except String Nonce} {opts : LayerBlockCipherOptions}
    {nonce : Bytes} (chosen : AESCTRBlockCipher.chooseNonce random opts = .ok nonce) :
    nonce.length = aes256NonceSize ∧ (opts.getOpt "nonce" = some nonce ∨ opts.getOpt "nonce" = none) := by
  unfold AESCTRBlockCipher.chooseNonce at chosen
  split at chosen
  · rename_i value found
    split at chosen
    · cases chosen
    · rename_i right
      cases chosen
      exact ⟨not_not.mp right, .inl found⟩
  · rename_i absent
    cases random with
    | error error => cases chosen
    | ok fresh =>
      cases chosen
      exact ⟨fresh.property, .inr absent⟩

/-- The nonce that `init` leaves in the private options is the one it works with. -/
theorem getOpt_orInsert {opts : LayerBlockCipherOptions} {nonce : Bytes}
    (chosen : opts.getOpt "nonce" = some nonce ∨ opts.getOpt "nonce" = none) :
    LayerBlockCipherOptions.getOpt { opts with priv := { opts.priv with
      cipherOptions := orInsert opts.priv.cipherOptions "nonce" nonce } } "nonce" = some nonce := by
  unfold LayerBlockCipherOptions.getOpt at chosen ⊢
  simp only [lookup_orInsert]
  cases public_ : opts.pub.cipherOptions.lookup "nonce" with
  | some value => simpa [public_] using chosen
  | none =>
    rw [public_] at chosen
    rcases chosen with known | absent
    · simp only at known
      simp [known]
    · simp only at absent
      simp [absent]

/-- A reader that was set up is at the start of its input, under the key of the
options and the nonce that the options it leaves name. -/
theorem init_stage (crypto : Crypto) {cipher next : AESCTRBlockCipher} {encrypt : Bool}
    {input : Bytes} {random : Except String Nonce} {opts opts' : LayerBlockCipherOptions}
    (accepted : cipher.init encrypt ⟨input⟩ random opts = .ok (next, opts')) :
    ∃ nonce : Bytes, nonce.length = aes256NonceSize ∧ opts'.getOpt "nonce" = some nonce ∧
      next = Job.stage crypto ⟨cipher.keyLen, encrypt, opts.priv.symmetricKey, nonce,
        opts.pub.hmac⟩ false [] input ∧
      opts'.pub = opts.pub ∧ opts'.priv.symmetricKey = opts.priv.symmetricKey ∧
      opts.priv.symmetricKey.length = aes256KeySize := by
  simp only [AESCTRBlockCipher.init] at accepted
  split at accepted
  · cases accepted
  rename_i keySize
  split at accepted
  · cases accepted
  split at accepted
  · cases accepted
  rename_i nonce chosen
  cases accepted
  have named := chooseNonce_ok chosen
  refine ⟨nonce, named.1, getOpt_orInsert named.2, ?_, rfl, rfl, not_not.mp keySize⟩
  simp [Job.stage, Job.covered, Job.under]

/-- Options with a key, a nonce and a tag set up a decryption. -/
theorem decrypt_accepts (crypto : Crypto) (cipher : AESCTRBlockCipher) (input : Bytes)
    (random : Except String Nonce) {opts : LayerBlockCipherOptions} {nonce : Bytes}
    (keySize : opts.priv.symmetricKey.length = aes256KeySize) (tag : opts.pub.hmac ≠ [])
    (named : opts.getOpt "nonce" = some nonce) (nonceSize : nonce.length = aes256NonceSize) :
    ∃ opts', cipher.decrypt ⟨input⟩ random opts = .ok (Job.stage crypto ⟨cipher.keyLen, false,
      opts.priv.symmetricKey, nonce, opts.pub.hmac⟩ false [] input, opts') := by
  refine ⟨{ opts with priv := { opts.priv with
    cipherOptions := orInsert opts.priv.cipherOptions "nonce" nonce } }, ?_⟩
  simp [AESCTRBlockCipher.decrypt, AESCTRBlockCipher.init, AESCTRBlockCipher.chooseNonce, keySize,
    tag, named, nonceSize, Job.stage, Job.covered]

/-- Finalising changes nothing but the public tag. -/
theorem finalizedLbco_stage {crypto : Crypto} {job : Job} (encrypting : job.encrypting = true)
    (consumed remaining : Bytes) (opts : LayerBlockCipherOptions) :
    (job.stage crypto true consumed remaining).finalizedLbco opts =
      .ok { opts with pub := { opts.pub with
        hmac := crypto.hmac job.key (job.under crypto 0 consumed) } } := by
  simp [AESCTRBlockCipher.finalizedLbco, Job.stage, Job.covered, encrypting]

/-- There is one ciphertext and one tag that reading to the end gives under every
schedule, and with the finalised options every decryption of that ciphertext gives
the plaintext and a clean end under every schedule. -/
def RoundTrips (crypto : Crypto) (encrypting : AESCTRBlockCipher)
    (encrypted : LayerBlockCipherOptions) (plaintext : Bytes) : Prop :=
  ∃ ciphertext finalized,
    (∀ schedule : Schedule plaintext.length,
      let run := encrypting.drain crypto schedule.calls
      run.output = ciphertext ∧ run.ending = some (.ok ()) ∧
        run.cipher.finalizedLbco encrypted = .ok finalized) ∧
    ∀ (decryptor : AESCTRBlockCipher) (random : Except String Nonce),
      ∃ decrypting decrypted,
        decryptor.decrypt ⟨ciphertext⟩ random finalized = .ok (decrypting, decrypted) ∧
        ∀ schedule : Schedule ciphertext.length,
          let run := decrypting.drain crypto schedule.calls
          run.output = plaintext ∧ run.ending = some (.ok ())

/-- Every encryption that is set up round-trips, with the synchronous and the
asynchronous reader and any mixture of their calls on both sides. -/
theorem layer_round_trip (crypto : Crypto) {cipher encrypting : AESCTRBlockCipher}
    {plaintext : Bytes} {random : Except String Nonce} {opts encrypted : LayerBlockCipherOptions}
    (accepted : cipher.encrypt ⟨plaintext⟩ random opts = .ok (encrypting, encrypted)) :
    RoundTrips crypto encrypting encrypted plaintext := by
  obtain ⟨nonce, nonceSize, named, stage, pub, key, keySize⟩ := init_stage crypto accepted
  let job : Job := ⟨cipher.keyLen, true, opts.priv.symmetricKey, nonce, opts.pub.hmac⟩
  let ciphertext := job.under crypto 0 plaintext
  let tag := crypto.hmac job.key ciphertext
  let finalized : LayerBlockCipherOptions :=
    { encrypted with pub := { encrypted.pub with hmac := tag } }
  refine ⟨ciphertext, finalized, ?_, ?_⟩
  · intro schedule
    subst stage
    have drained := drain_stage crypto job [] schedule
    have ending : job.ending crypto plaintext = .ok () := if_pos (.inl rfl)
    refine ⟨?_, ?_, ?_⟩
    · exact congrArg Drained.output drained
    · rw [drained]
      exact congrArg some ending
    · rw [drained]
      exact finalizedLbco_stage rfl _ _ encrypted
  · intro decryptor random'
    have finalizedKey : finalized.priv.symmetricKey.length = aes256KeySize := by
      rw [← keySize, ← key]
    obtain ⟨decrypted, set⟩ := decrypt_accepts crypto decryptor ciphertext random' finalizedKey
      (crypto.tagged _ _) named nonceSize
    let reverse : Job := ⟨decryptor.keyLen, false, encrypted.priv.symmetricKey, nonce, tag⟩
    refine ⟨_, decrypted, set, ?_⟩
    intro schedule
    have drained := drain_stage crypto reverse [] schedule
    rw [drained]
    have verified : reverse.Verifies crypto ciphertext := .inr <| by
      show crypto.hmac encrypted.priv.symmetricKey ciphertext = tag
      rw [key]
    constructor
    · show Keystream.apply (crypto.keystream encrypted.priv.symmetricKey nonce) 0 ciphertext = plaintext
      rw [key]
      exact Keystream.apply_apply _ 0 plaintext
    · exact congrArg some (if_pos verified)

/-- A reader that was just made. -/
def freshCipher : AESCTRBlockCipher := ⟨aes256KeySize, false, none⟩

/-- Options that name a key and leave the nonce to `init`. -/
def keyedOptions : LayerBlockCipherOptions := ⟨⟨"", [], []⟩, ⟨List.replicate 32 7, [], ""⟩⟩

def freshNonce : Nonce := ⟨List.replicate 16 9, rfl⟩

/-- `layer_round_trip` for a three-byte layer under a fresh nonce. -/
theorem layer_round_trip_fresh_nonce :
    ∃ encrypting encrypted,
      freshCipher.encrypt ⟨[1, 2, 3]⟩ (.ok freshNonce) keyedOptions = .ok (encrypting, encrypted) ∧
        RoundTrips rustCrypto encrypting encrypted [1, 2, 3] :=
  ⟨_, _, rfl, layer_round_trip rustCrypto
    (show freshCipher.encrypt ⟨[1, 2, 3]⟩ (.ok freshNonce) keyedOptions = _ from rfl)⟩

end RoundTrip

end GuestComponents.Ocicrypt
