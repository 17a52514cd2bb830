import GuestComponents.KbsProtocol.Attempts

/-! The token and the key pair that a client holds. `Paired` says that an exchange of the
client's history certifies the two together: an attestation of this key, answered with
this token, or a pair that the token provider gave. `Since` says that the pair is as
it was, or that an exchange since then has certified it. Each part of a call gives the
second, wherever the call is dropped; the first follows for every sequence of calls. -/
namespace GuestComponents.KbsProtocol
open Lib Crypto

variable {backend : Backend} (formats : Formats)

/-- The exchange is the end of a handshake that makes this pair. -/
inductive Certifies : Exchange backend → TeeKeyPair backend → Token → Prop
  | attested {url : Text} {attestation : Attestation} {response : HttpResponse}
    {teeKey : TeeKeyPair backend} {token : Token} :
    teeKey.exportPubkey = .ok attestation.teePubkey → tokenOf formats response = .ok token →
    Certifies ⟨.postAttest url attestation, .ok response⟩ teeKey token
  | provided {teeKey : TeeKeyPair backend} {token : Token} :
    Certifies ⟨.getToken, .ok (token, teeKey)⟩ teeKey token

/-- What the client holds is of one handshake. -/
def Paired (world : World backend) : Prop :=
  ∀ token, world.client.token = some token →
    ∃ exchange ∈ world.history, Certifies formats exchange world.client.teeKey token

/-- The client holds the pair that it held before what was exchanged since. -/
structure Same (client : KbsClient backend) (past : List (Exchange backend)) (world : World backend) :
    Prop where
  grown : past <+: world.history
  token : world.client.token = client.token
  teeKey : world.client.teeKey = client.teeKey

/-- The client holds a pair that was certified since. -/
structure Renewed (past : List (Exchange backend)) (world : World backend) : Prop where
  grown : past <+: world.history
  pair : ∃ token, world.client.token = some token ∧
    ∃ exchange ∈ world.history.drop past.length, Certifies formats exchange world.client.teeKey token

def Since (client : KbsClient backend) (past : List (Exchange backend)) (world : World backend) : Prop :=
  Same client past world ∨ Renewed formats past world

variable {formats} {client : KbsClient backend} {past : List (Exchange backend)} {world : World backend}

theorem Same.refl (world : World backend) : Same world.client world.history world :=
  ⟨List.prefix_rfl, rfl, rfl⟩

/-- An exchange that is later than the past is later than an earlier past. -/
theorem mem_drop_of_prefix {early late : List (Exchange backend)} {history : List (Exchange backend)}
    {exchange : Exchange backend} (grown : early <+: late) (recent : exchange ∈ history.drop late.length) :
    exchange ∈ history.drop early.length := by
  have shorter : early.length ≤ late.length := grown.length_le
  rw [show late.length = early.length + (late.length - early.length) by omega, ← List.drop_drop] at recent
  exact List.mem_of_mem_drop recent

theorem Renewed.earlier {late : List (Exchange backend)} (renewed : Renewed formats late world)
    (grown : past <+: late) : Renewed formats past world := by
  obtain ⟨later, token, held, exchange, recent, certifies⟩ := renewed
  exact ⟨grown.trans later, token, held, exchange, mem_drop_of_prefix grown recent, certifies⟩

/-- A pair that stays the same after it was renewed was renewed. -/
theorem Renewed.stays {before : World backend} (renewed : Renewed formats past before)
    (same : Same before.client before.history world) : Renewed formats past world := by
  obtain ⟨grown, token, held, exchange, recent, certifies⟩ := renewed
  have kept : exchange ∈ world.history.drop past.length := by
    obtain ⟨more, whole⟩ := same.grown
    rw [← whole, List.drop_append_of_le_length grown.length_le]
    exact List.mem_append_left _ recent
  refine ⟨grown.trans same.grown, token, same.token.trans held, exchange, kept, ?_⟩
  rw [same.teeKey]
  exact certifies

theorem Since.trans {before : World backend} (first : Since formats client past before)
    (second : Since formats before.client before.history world) : Since formats client past world := by
  rcases second with same | renewed
  · rcases first with earlier | renewed
    · exact .inl ⟨earlier.grown.trans same.grown, same.token.trans earlier.token,
        same.teeKey.trans earlier.teeKey⟩
    · exact .inr (renewed.stays same)
  · rcases first with earlier | earlier
    · exact .inr (renewed.earlier earlier.grown)
    · exact .inr (renewed.earlier earlier.grown)

/-- A client whose pair is of one handshake still holds one after what happened since. -/
theorem Paired.since {before : World backend} (paired : Paired formats before)
    (since : Since formats before.client before.history world) : Paired formats world := by
  intro token held
  rcases since with same | renewed
  · obtain ⟨exchange, known, certifies⟩ := paired token (same.token.symm.trans held)
    rw [same.teeKey]
    exact ⟨exchange, same.grown.subset known, certifies⟩
  · obtain ⟨_, other, heldOther, exchange, recent, certifies⟩ := renewed
    cases heldOther.symm.trans held
    exact ⟨exchange, List.mem_of_mem_drop recent, certifies⟩

section Programs

variable {α β ε : Type} {env : World backend → Op backend → Choice backend}

/-- The operation assigns neither the token nor the key pair. -/
def Plain : Op backend → Prop
  | .setToken _ | .setPair _ _ => False
  | _ => True

variable (backend formats) in
/-- Where a call ends in a panic, an operation of the key pair has panicked. -/
def FromKey (fault : Fault ε) : Prop :=
  ∀ message, fault = .panic message → (∃ teeKey : TeeKeyPair backend, teeKey.exportPubkey = .panic message) ∨
    ∃ (teeKey : TeeKeyPair backend) (response : Response),
      teeKey.decryptResponse formats.generateAad response = .panic message

theorem fromKey_error (error : ε) : FromKey backend formats (.error error) := nofun

theorem fromKey_of_panicFree {outcome : Outcome α} (free : PanicFree outcome) {fault : Fault String}
    (failed : outcome = .error fault) : FromKey backend formats fault := by
  rintro message rfl
  exact absurd failed (free message)

theorem same_perform {op : Op backend} (plain : Plain op) {choice : Choice backend}
    (same : Same client past world) : Same client past (service.perform 0 world op choice).2 := by
  obtain ⟨grown, token, teeKey⟩ := same
  cases op with
  | self => exact ⟨grown, token, teeKey⟩
  | setTee tee => exact ⟨grown, token, teeKey⟩
  | setToken token => exact absurd plain id
  | setPair token teeKey => exact absurd plain id
  | ask question => exact ⟨grown.trans (List.prefix_append _ _), token, teeKey⟩

variable (formats) in
/-- How a part of a call ends. -/
def Ended (post : α → World backend → Prop) (failed : World backend → Prop) :
    Except (Fault ε) α → World backend → Prop
  | .ok value => post value
  | .error fault => fun world => failed world ∧ FromKey backend formats fault

variable (env formats) in
/-- From worlds with `pre` and the pair of `client`, the pair is that or a new one wherever the
call is dropped; it ends with `post`, or with `failed` and no panic of its own. -/
def Tries (client : KbsClient backend) (past : List (Exchange backend)) (pre : World backend → Prop)
    (program : Fallible (Op backend) (Answer backend) (Fault ε) α) (post : α → World backend → Prop)
    (failed : World backend → Prop) : Prop :=
  service.Upholds 0 env (Since formats client past) pre program.run (Ended formats post failed)

/-- What a part without assignments of the pair returns is no panic, or one of the key pair. -/
def Quiet (formats : Formats) (program : Fallible (Op backend) (Answer backend) (Fault ε) α) : Prop :=
  Program.Only Plain program.run ∧ Program.Returns
    (fun result => ∀ fault, result = .error fault → FromKey backend formats fault) program.run

namespace Tries

variable {pre pre' : World backend → Prop} {post post' : α → World backend → Prop}
  {failed : World backend → Prop}

theorem bind {program : Fallible (Op backend) (Answer backend) (Fault ε) α}
    {rest : α → Fallible (Op backend) (Answer backend) (Fault ε) β} {final : β → World backend → Prop}
    (middle : α → World backend → Prop) (safe : ∀ world, failed world → Since formats client past world)
    (first : Tries formats env client past pre program middle failed)
    (second : ∀ value, Tries formats env client past (middle value) (rest value) final failed) :
    Tries formats env client past pre (program >>= rest) final failed := by
  refine Service.Upholds.bind _ first ?_
  rintro (fault | value)
  · exact Service.Upholds.pure fun world holds => ⟨safe world holds.1, holds⟩
  · exact second value

theorem consequence {program : Fallible (Op backend) (Answer backend) (Fault ε) α}
    (tries : Tries formats env client past pre program post failed)
    (before : ∀ world, pre' world → pre world) (after : ∀ value world, post value world → post' value world) :
    Tries formats env client past pre' program post' failed := by
  refine Service.Upholds.consequence tries before ?_
  rintro (fault | value) world holds
  · exact holds
  · exact after value world holds

theorem pure {value : α} (holds : ∀ world, pre world → Since formats client past world ∧ post value world) :
    Tries formats env client past pre
      (Pure.pure value : Fallible (Op backend) (Answer backend) (Fault ε) α) post failed :=
  Service.Upholds.pure holds

theorem throw {fault : Fault ε} (sound : FromKey backend formats fault)
    (holds : ∀ world, pre world → Since formats client past world ∧ failed world) :
    Tries formats env client past pre
      (throw fault : Fallible (Op backend) (Answer backend) (Fault ε) α) post failed :=
  Service.Upholds.pure fun world now => ⟨(holds world now).1, (holds world now).2, sound⟩

theorem ofOutcome {outcome : Except (Fault ε) α}
    (sound : ∀ fault, outcome = .error fault → FromKey backend formats fault)
    (ok : ∀ value world, outcome = .ok value → pre world → Since formats client past world ∧ post value world)
    (error : ∀ world, pre world → Since formats client past world ∧ failed world) :
    Tries formats env client past pre (ofOutcome outcome) post failed := by
  refine Service.Upholds.pure fun world now => ?_
  cases outcome with
  | ok value => exact ok value world rfl now
  | error fault => exact ⟨(error world now).1, (error world now).2, sound fault rfl⟩

/-- A part of a call whose own result is looked at. -/
theorem attempt {program : Prog backend α}
    (safe : ∀ value world, post value world → Since formats client past world)
    (upholds : service.Upholds 0 env (Since formats client past) pre program post) :
    Tries formats env client past pre
      (attempt program : Fallible (Op backend) (Answer backend) (Fault ε) α) post failed :=
  Service.Upholds.bind _ upholds fun value =>
    Service.Upholds.pure fun world holds => ⟨safe value world holds, holds⟩

theorem quiet {program : Fallible (Op backend) (Answer backend) (Fault ε) α} (quiet : Quiet formats program) :
    Tries formats env client past (Same client past) program (fun _ => Same client past)
      (Same client past) := by
  have kept : service.Upholds 0 env (Since formats client past) (Same client past) program.run
      fun _ => Same client past :=
    Service.Upholds.only quiet.1 (fun _ same => .inl same) fun _ _ plain same => same_perform plain same
  refine Service.Upholds.consequence (kept.returns quiet.2) (fun _ same => same) ?_
  rintro (fault | value) world ⟨sound, same⟩
  · exact ⟨same, sound fault rfl⟩
  · exact same

end Tries

namespace Quiet

theorem bind {program : Fallible (Op backend) (Answer backend) (Fault ε) α}
    {rest : α → Fallible (Op backend) (Answer backend) (Fault ε) β} (first : Quiet formats program)
    (second : ∀ value, Quiet formats (rest value)) : Quiet formats (program >>= rest) := by
  constructor
  · exact Program.Only.bind_fallible first.1 fun value => (second value).1
  · refine Program.Returns.bind first.2 ?_
    rintro (fault | value) sound
    · rintro _ ⟨⟩
      exact sound fault rfl
    · exact (second value).2

theorem pure (value : α) :
    Quiet formats (Pure.pure value : Fallible (Op backend) (Answer backend) (Fault ε) α) :=
  ⟨trivial, nofun⟩

theorem throw {fault : Fault ε} (sound : FromKey backend formats fault) :
    Quiet formats (throw fault : Fallible (Op backend) (Answer backend) (Fault ε) α) :=
  ⟨trivial, fun _ same => by cases same; exact sound⟩

theorem ofOutcome {outcome : Except (Fault ε) α}
    (sound : ∀ fault, outcome = .error fault → FromKey backend formats fault) :
    Quiet formats (ofOutcome outcome : Fallible (Op backend) (Answer backend) (Fault ε) α) :=
  ⟨trivial, sound⟩

theorem ofResult (result : Except String α) : Quiet formats
    (KbsProtocol.ofOutcome (Outcome.ofResult result) : Anyhow backend α) := by
  apply ofOutcome
  cases result with
  | ok value => nofun
  | error cause =>
    rintro _ ⟨⟩
    exact fromKey_error cause

theorem perform {op : Op backend} (plain : Plain op) :
    Quiet formats (perform op : Fallible (Op backend) (Answer backend) (Fault ε) (Answer backend op)) :=
  ⟨⟨plain, fun _ => trivial⟩, fun _ => nofun⟩

theorem asked (question : Ask) : Quiet formats
    (KbsProtocol.attempt (asked question) : Fallible (Op backend) (Answer backend) (Fault ε)
      (Reply backend question)) :=
  ⟨⟨trivial, fun _ => trivial⟩, fun _ => nofun⟩

end Quiet

variable (formats)

theorem getTee_quiet : Quiet formats (getTee : Anyhow backend Tee) := by
  refine Quiet.bind (Quiet.perform trivial) fun client => ?_
  cases client.tee with
  | initializated tee => exact Quiet.pure tee
  | unitialized =>
    refine Quiet.bind (Quiet.asked _) fun answer => Quiet.bind (Quiet.ofResult _) fun tee => ?_
    exact Quiet.bind (Quiet.perform trivial) fun _ => Quiet.pure tee

/-- A refused response is an error. -/
theorem refusal_fromKey (unauthorized : String) (response : HttpResponse) :
    FromKey backend formats (refusal formats unauthorized response) := by
  rw [refusal]
  split
  · split <;> exact fromKey_error _
  · split <;> exact fromKey_error _

theorem requestChallenge_quiet (tee : Tee) :
    Quiet formats (requestChallenge formats tee : Anyhow backend Challenge) := by
  refine Quiet.bind (Quiet.perform trivial) fun client => Quiet.bind (Quiet.asked _) fun answer => ?_
  refine Quiet.bind (Quiet.ofOutcome ?_) fun response => ?_
  · intro fault failed
    split at failed
    · cases failed
    · cases failed
      exact fromKey_error _
  · split
    · exact Quiet.ofResult _
    · exact Quiet.throw (refusal_fromKey formats _ response)

theorem generateEvidence_quiet (tee : Tee) (runtimeData nonce : Text) (algorithm : EventLog.HashAlgorithm) :
    Quiet formats (generateEvidence formats tee runtimeData nonce algorithm : Anyhow backend Text) := by
  refine Quiet.bind (Quiet.asked _) fun answer => ?_
  split
  · exact Quiet.pure _
  · exact Quiet.throw (fromKey_error _)

variable (client past)

/-- An attestation is made for the key pair that the client holds. -/
theorem attestationFor_tries (tee : Tee) (challenge : Challenge) :
    Tries formats env client past (Same client past) (attestationFor formats tee challenge)
      (fun attestation world =>
        client.teeKey.exportPubkey = .ok attestation.teePubkey ∧ Same client past world)
      (Same client past) := by
  have safe : ∀ world, Same client past world → Since formats client past world := fun _ => .inl
  apply Tries.bind (fun _ => Same client past) safe
  · apply Tries.quiet
    apply Quiet.ofOutcome
    intro fault failed
    split at failed
    · cases failed
    · cases failed
      exact fromKey_error _
  intro algorithm
  apply Tries.bind (fun own world => own.teeKey = client.teeKey ∧ Same client past world) safe
  · apply Tries.attempt
    · exact fun _ _ holds => .inl holds.2
    · apply Service.Upholds.perform safe
      exact fun _ same => ⟨.inl same, same.teeKey, same⟩
  intro own
  apply Tries.bind
    (fun pubkey world => client.teeKey.exportPubkey = .ok pubkey ∧ Same client past world) safe
  · apply Tries.ofOutcome
    · rintro fault panicked message rfl
      exact .inl ⟨own.teeKey, panicked⟩
    · rintro pubkey world exported ⟨mine, same⟩
      rw [mine] at exported
      exact ⟨.inl same, exported, same⟩
    · exact fun _ holds => ⟨.inl holds.2, holds.2⟩
  intro pubkey
  apply Service.Upholds.assume
  intro exported
  apply Tries.bind (fun _ => Same client past) safe
  · exact Tries.quiet (generateEvidence_quiet formats tee _ _ algorithm)
  intro evidence
  apply Tries.bind (fun _ => Same client past) safe
  · exact Tries.quiet (Quiet.ofResult _)
  intro teeEvidence
  apply Tries.pure
  exact fun _ same => ⟨.inl same, exported, same⟩

/-- A response to the attestation is among what was exchanged since. -/
theorem sendAttestation_recorded (url : Text) (attestation : Attestation) (retries : Nat) :
    service.Upholds 0 env (Since formats client past) (Same client past)
      (sendAttestation url attestation retries) fun result world => Same client past world ∧
        ∀ response, result = .ok response →
          ⟨.postAttest url attestation, .ok response⟩ ∈ world.history.drop past.length := by
  have asks : service.Upholds 0 env (Since formats client past) (Same client past)
      (asked (.postAttest url attestation)) fun result world => Same client past world ∧
        ∀ response, result = .ok response →
          ⟨.postAttest url attestation, .ok response⟩ ∈ world.history.drop past.length := by
    apply Service.Upholds.perform
    · exact fun _ same => .inl same
    intro world same
    have still := @same_perform _ client past world (.ask (.postAttest url attestation)) trivial
      (env world (.ask (.postAttest url attestation))) same
    refine ⟨.inl still, still, ?_⟩
    intro response answered
    change _ ∈ (world.history ++ [_]).drop past.length
    rw [List.drop_append_of_le_length same.grown.length_le, List.mem_append, List.mem_singleton]
    exact .inr (congrArg (Sigma.mk (Ask.postAttest url attestation)) answered.symm)
  induction retries with
  | zero => exact asks
  | succ retries ih =>
    apply Service.Upholds.bind _ asks
    rintro (cause | response)
    · change service.Upholds 0 env _ _ (if _ then _ else _) _
      split
      · exact ih.consequence (fun _ holds => holds.1) fun _ _ holds => holds
      · apply Service.Upholds.pure
        exact fun _ holds => ⟨.inl holds.1, holds.1, nofun⟩
    · exact Service.Upholds.pure fun _ holds => ⟨.inl holds.1, holds⟩

/-- A handshake that succeeds renews the pair, with the same key; one that fails leaves the
pair there was. -/
theorem rcarHandshake_tries :
    Tries formats env client past (Same client past) (rcarHandshake formats)
      (fun _ world => Renewed formats past world ∧ world.client.teeKey = client.teeKey)
      (Same client past) := by
  have safe : ∀ world, Same client past world → Since formats client past world := fun _ => .inl
  apply Tries.bind (fun _ => Same client past) safe
  · exact Tries.quiet (getTee_quiet formats)
  intro tee
  apply Tries.bind (fun _ => Same client past) safe
  · exact Tries.quiet (requestChallenge_quiet formats tee)
  intro challenge
  apply Tries.bind _ safe (attestationFor_tries formats client past tee challenge)
  intro attestation
  apply Service.Upholds.assume
  intro exported
  apply Tries.bind (fun _ => Same client past) safe
  · exact Tries.quiet (Quiet.perform trivial)
  intro own
  apply Tries.bind _ safe
  · refine Tries.attempt ?_
      (sendAttestation_recorded formats client past (endpoint own "attest".toList) attestation _)
    exact fun _ _ holds => .inl holds.1
  intro result
  apply Tries.bind (fun response world => Same client past world ∧
    ⟨.postAttest (endpoint own "attest".toList) attestation, .ok response⟩ ∈
      world.history.drop past.length) safe
  · apply Tries.ofOutcome
    · intro fault failed
      split at failed
      · cases failed
      · cases failed
        exact fromKey_error _
    · intro response world received holds
      split at received
      · cases received
        exact ⟨.inl holds.1, holds.1, holds.2 _ rfl⟩
      · cases received
    · exact fun _ holds => ⟨.inl holds.1, holds.1⟩
  intro response
  apply Tries.bind (fun token world => tokenOf formats response = .ok token ∧ Same client past world ∧
    ⟨.postAttest (endpoint own "attest".toList) attestation, .ok response⟩ ∈
      world.history.drop past.length) safe
  · apply Tries.ofOutcome
    · intro fault failed
      rw [tokenOf] at failed
      split at failed
      · exact fromKey_of_panicFree (by simp [panicFree_bind]) failed
      · cases failed
        exact refusal_fromKey formats _ response
    · exact fun token world read holds => ⟨.inl holds.1, read, holds⟩
    · exact fun _ holds => ⟨.inl holds.1, holds.1⟩
  intro token
  apply Tries.attempt
  · intro _ world (holds : Renewed formats past world ∧ world.client.teeKey = client.teeKey)
    exact .inr holds.1
  apply Service.Upholds.perform
  · exact fun _ holds => .inl holds.2.1
  rintro world ⟨read, same, recorded⟩
  have certified : Certifies formats ⟨.postAttest (endpoint own "attest".toList) attestation, .ok response⟩
      world.client.teeKey token := by
    rw [same.teeKey]
    exact .attested exported read
  have renewed : Renewed formats past { world with client := { world.client with token := some token } } :=
    ⟨same.grown, token, rfl, _, recorded, certified⟩
  exact ⟨.inr renewed, renewed, same.teeKey⟩

variable {client past}

/-- What is shown from the pair that a part of a call finds is known from any earlier one, where
the passage from the earlier pair carries it. -/
theorem Tries.carried {program : Fallible (Op backend) (Answer backend) (Fault ε) α}
    (post : KbsClient backend → List (Exchange backend) → α → World backend → Prop)
    (carry : ∀ before value world, Since formats client past before →
      post before.client before.history value world → post client past value world)
    (tries : ∀ client past, Tries formats env client past (Same client past) program (post client past)
      (Since formats client past)) :
    Tries formats env client past (Since formats client past) program (post client past)
      (Since formats client past) := by
  intro world since
  obtain ⟨kept, ends⟩ := tries world.client world.history world (Same.refl world)
  refine ⟨fun n => since.trans (kept n), ?_⟩
  cases result : (service.alone 0 env program.run world).1 with
  | ok value =>
    rw [result] at ends
    exact carry world value _ since ends
  | error fault =>
    rw [result] at ends
    exact ⟨since.trans ends.1, ends.2⟩

theorem Tries.anywhere {program : Fallible (Op backend) (Answer backend) (Fault ε) α}
    (tries : ∀ client past, Tries formats env client past (Same client past) program
      (fun _ => Since formats client past) (Since formats client past)) :
    Tries formats env client past (Since formats client past) program
      (fun _ => Since formats client past) (Since formats client past) :=
  Tries.carried formats (fun client past _ => Since formats client past)
    (fun _ _ _ first second => first.trans second) tries

/-- The client holds a token. -/
def HasToken (world : World backend) : Prop := world.client.token.isSome

theorem Renewed.hasToken (renewed : Renewed formats past world) : HasToken world := by
  obtain ⟨_, token, held, _⟩ := renewed
  rw [HasToken, held]
  rfl

/-- Handshakes are repeated until one renews the pair; when all fail the pair is as it was. -/
theorem repeatRcarHandshakeFrom_tries (retries : Nat) :
    Tries formats env client past (Same client past) (repeatRcarHandshakeFrom formats retries)
      (fun _ world => Since formats client past world ∧ HasToken world) (Same client past) := by
  have safe : ∀ world, Same client past world → Since formats client past world := fun _ => .inl
  have once : Tries formats env client past (Same client past)
      (attempt (rcarHandshake formats).run : Call backend _)
      (Ended formats (fun _ world => Renewed formats past world ∧ world.client.teeKey = client.teeKey)
        (Same client past)) (Same client past) := by
    refine Tries.attempt ?_ (rcarHandshake_tries formats client past)
    rintro (fault | ⟨⟩) world holds
    · exact .inl holds.1
    · exact .inr holds.1
  have renewed : Tries formats env client past
      (fun world => Renewed formats past world ∧ world.client.teeKey = client.teeKey)
      (pure () : Call backend Unit) (fun _ world => Since formats client past world ∧ HasToken world)
      (Same client past) :=
    Tries.pure fun _ holds => ⟨.inr holds.1, .inr holds.1, holds.1.hasToken⟩
  induction retries with
  | zero =>
    apply Tries.bind _ safe once
    rintro ((cause | message) | ⟨⟩)
    · exact Tries.throw (fromKey_error _) fun _ holds => ⟨.inl holds.1, holds.1⟩
    · rintro world ⟨same, sound⟩
      exact Tries.throw (fun m panicked => sound m (by cases panicked; rfl))
        (fun _ holds => ⟨.inl holds, holds⟩) world same
    · exact renewed
  | succ retries ih =>
    apply Tries.bind _ safe once
    rintro ((cause | message) | ⟨⟩)
    · apply Tries.bind (fun _ => Same client past) safe
      · exact (Tries.quiet (Quiet.asked _)).consequence (fun _ holds => holds.1) fun _ _ same => same
      · exact fun _ => ih
    · rintro world ⟨same, sound⟩
      exact Tries.throw (fun m panicked => sound m (by cases panicked; rfl))
        (fun _ holds => ⟨.inl holds, holds⟩) world same
    · exact renewed

/-- The client as it is read. -/
theorem self_tries {pre : World backend → Prop} {failed : World backend → Prop}
    (safe : ∀ world, pre world → Since formats client past world) :
    Tries formats env client past pre (perform .self : Call backend (KbsClient backend))
      (fun own world => own = world.client ∧ pre world) failed := by
  apply Tries.attempt
  · exact fun _ world holds => safe world holds.2
  · apply Service.Upholds.perform safe
    exact fun world holds => ⟨safe world holds, rfl, holds⟩

/-- A client that holds a token has its pair to return. -/
theorem heldPair_tries (failed : World backend → Prop)
    (safe : ∀ world, failed world → Since formats client past world) :
    Tries formats env client past (fun world => Since formats client past world ∧ HasToken world)
      (heldPair : Call backend _)
      (fun pair world => Since formats client past world ∧
        world.client.token = some pair.1 ∧ world.client.teeKey = pair.2) failed := by
  apply Tries.bind _ safe (self_tries formats fun _ holds => holds.1)
  intro own
  cases held : own.token with
  | some token =>
    apply Tries.pure
    rintro world ⟨rfl, since, _⟩
    exact ⟨since, since, held, rfl⟩
  | none =>
    rintro world ⟨rfl, _, has⟩
    rw [HasToken, held] at has
    cases has

/-- What `get_token` returns is what the client holds then; when it fails the pair is as it
was. -/
theorem getToken_tries :
    Tries formats env client past (Same client past) (getToken formats)
      (fun pair world => Since formats client past world ∧
        world.client.token = some pair.1 ∧ world.client.teeKey = pair.2) (Same client past) := by
  have safe : ∀ world, Same client past world → Since formats client past world := fun _ => .inl
  apply Tries.bind (fun _ world => Since formats client past world ∧ HasToken world) safe
  · apply Tries.bind _ safe (self_tries formats safe)
    intro own
    cases held : own.token with
    | none =>
      apply (repeatRcarHandshakeFrom_tries formats _).consequence
      · exact fun _ holds => holds.2
      · exact fun _ _ holds => holds
    | some token =>
      have begins : ∀ world, own = world.client ∧ Same client past world →
          client.token = some token ∧ Same client past world := by
        rintro world ⟨rfl, same⟩
        exact ⟨same.token.symm.trans held, same⟩
      refine Service.Upholds.consequence (Service.Upholds.assume fun mine => ?_) begins fun _ _ holds => holds
      apply Tries.bind (fun _ => Same client past) safe
      · exact Tries.quiet (Quiet.asked _)
      intro now
      split
      · apply Tries.pure
        intro world same
        rw [HasToken, same.token, mine]
        exact ⟨.inl same, .inl same, rfl⟩
      · exact repeatRcarHandshakeFrom_tries formats _
  · exact fun _ => heldPair_tries formats _ safe

/-- A response to a resource request makes a call panic only where the key pair does. -/
theorem resourceOf_fromKey {teeKey : TeeKeyPair backend} {response : HttpResponse} {fault : Fault Error}
    (failed : resourceOf formats teeKey response = .error fault) : FromKey backend formats fault := by
  have unread {γ : Type} {result : Except String γ}
      (failed : orElse Error.kbsResponseDeserializationFailed result = .error fault) :
      FromKey backend formats fault := by
    cases result <;> cases failed
    exact fromKey_error _
  rw [resourceOf] at failed
  split at failed
  · rcases bind_error.mp failed with failed | ⟨inner, _, failed⟩
    · exact unread failed
    rcases bind_error.mp failed with failed | ⟨payload, _, failed⟩
    · cases opened : teeKey.decryptResponse formats.generateAad inner with
      | ok payload =>
        rw [opened] at failed
        cases failed
      | error other =>
        rw [opened] at failed
        cases other with
        | error cause =>
          cases failed
          exact fromKey_error _
        | panic message =>
          cases failed
          rintro _ ⟨⟩
          exact .inr ⟨teeKey, inner, opened⟩
    · cases failed
  · rcases bind_error.mp failed with failed | ⟨info, _, failed⟩
    · exact unread failed
    split at failed
    · cases failed
    split at failed
    · cases failed
      exact fromKey_error _
    · cases failed
      exact fromKey_error _

theorem requestResource_quiet (url : Text) (bearerAuth : Option Text) :
    Quiet formats (requestResource formats url bearerAuth : Call backend _) := by
  apply Quiet.bind (Quiet.asked _)
  intro answer
  apply Quiet.bind
  · apply Quiet.ofOutcome
    intro fault failed
    split at failed
    · cases failed
    · cases failed
      exact fromKey_error _
  intro response
  apply Quiet.bind (@Quiet.perform _ _ _ .self trivial)
  intro own
  exact Quiet.ofOutcome fun _ failed => resourceOf_fromKey formats failed

/-- A part without assignments of the pair, from any pair. -/
theorem Quiet.anywhere {program : Fallible (Op backend) (Answer backend) (Fault ε) α}
    (quiet : Quiet formats program) :
    Tries formats env client past (Since formats client past) program
      (fun _ => Since formats client past) (Since formats client past) := by
  apply Tries.anywhere
  intro client past
  apply Service.Upholds.consequence (Tries.quiet quiet)
  · exact fun _ same => same
  · rintro (fault | value) world holds
    · exact ⟨.inl holds.1, holds.2⟩
    · exact .inl holds

/-- A handshake as a part of another call. -/
theorem rcarHandshake_anywhere :
    Tries formats env client past (Since formats client past) (rcarHandshake formats)
      (fun _ => Since formats client past) (Since formats client past) := by
  apply Tries.anywhere
  intro client past
  apply Service.Upholds.consequence (rcarHandshake_tries formats client past)
  · exact fun _ same => same
  · rintro (fault | ⟨⟩) world holds
    · exact ⟨.inl holds.1, holds.2⟩
    · exact .inr holds.1

/-- `get_resource` of the RCAR client holds the old pair or a new one throughout. -/
theorem rcarGetResourceFrom_tries (url : Text) (attempts : Nat) :
    Tries formats env client past (Since formats client past)
      (rcarGetResourceFrom formats url attempts : Call backend _)
      (fun _ => Since formats client past) (Since formats client past) := by
  have safe : ∀ world, Since formats client past world → Since formats client past world := fun _ => id
  induction attempts with
  | zero => exact Tries.throw (fromKey_error _) fun _ since => ⟨since, since⟩
  | succ attempts ih =>
    apply Tries.bind _ safe (Quiet.anywhere formats (requestResource_quiet formats url none))
    rintro (_ | payload)
    · apply Tries.bind _ safe
      · refine Tries.attempt ?_ (rcarHandshake_anywhere formats)
        rintro (fault | ⟨⟩) world holds
        · exact holds.1
        · exact holds
      intro result
      apply Tries.bind (fun _ => Since formats client past) safe
      · rcases result with (cause | message) | ⟨⟩
        · exact Tries.throw (fromKey_error _) fun _ holds => ⟨holds.1, holds.1⟩
        · rintro world ⟨since, sound⟩
          exact Tries.throw (fun m panicked => sound m (by cases panicked; rfl))
            (fun _ since => ⟨since, since⟩) world since
        · exact Tries.pure fun _ since => ⟨since, since⟩
      · exact fun _ => ih
    · exact Tries.pure fun _ since => ⟨since, since⟩

/-- `get_resource` of the RCAR client. -/
theorem rcarGetResource_tries (uri : ResourceUri) :
    Tries formats env client past (Since formats client past)
      (rcarGetResource formats uri : Call backend _)
      (fun _ => Since formats client past) (Since formats client past) := by
  apply Tries.bind _ (fun _ => id) (self_tries formats fun _ since => since)
  intro own
  exact (rcarGetResourceFrom_tries formats _ _).consequence (fun _ holds => holds.2) fun _ _ since => since

/-- An answer of the token provider renews token and key pair together; no answer leaves them. -/
theorem updateToken_tries :
    Tries formats env client past (Same client past) (updateToken : Call backend Unit)
      (fun _ world => Renewed formats past world) (Same client past) := by
  have safe : ∀ world, Same client past world → Since formats client past world := fun _ => .inl
  apply Tries.bind (fun answer world => Same client past world ∧
    ⟨.getToken, answer⟩ ∈ world.history.drop past.length) safe
  · apply Tries.attempt
    · exact fun _ _ holds => .inl holds.1
    apply Service.Upholds.perform safe
    intro world same
    have still := @same_perform _ client past world (.ask .getToken) trivial
      (env world (.ask .getToken)) same
    refine ⟨.inl still, still, ?_⟩
    change _ ∈ (world.history ++ [_]).drop past.length
    rw [List.drop_append_of_le_length same.grown.length_le, List.mem_append, List.mem_singleton]
    exact .inr rfl
  intro answer
  cases answer with
  | error cause =>
    apply Tries.bind (fun _ _ => False) safe
    · apply Tries.ofOutcome
      · rintro _ ⟨⟩
        exact fromKey_error _
      · nofun
      · exact fun _ holds => ⟨.inl holds.1, holds.1⟩
    · exact fun _ _ impossible => absurd impossible id
  | ok pair =>
    apply Tries.bind (fun given world => given = pair ∧ Same client past world ∧
      ⟨.getToken, .ok pair⟩ ∈ world.history.drop past.length) safe
    · apply Tries.ofOutcome
      · nofun
      · rintro given world ⟨⟩ holds
        exact ⟨.inl holds.1, rfl, holds⟩
      · exact fun _ holds => ⟨.inl holds.1, holds.1⟩
    intro given
    apply Tries.attempt
    · exact fun _ _ renewed => .inr renewed
    apply Service.Upholds.perform
    · exact fun _ holds => .inl holds.2.1
    rintro world ⟨rfl, same, recorded⟩
    have renewed : Renewed formats past
        { world with client := { world.client with token := some given.1, teeKey := given.2 } } :=
      ⟨same.grown, given.1, rfl, _, recorded, .provided⟩
    exact ⟨.inr renewed, renewed⟩

theorem ensureBearerToken_tries :
    Tries formats env client past (Same client past) (ensureBearerToken : Call backend Unit)
      (fun _ world => Since formats client past world ∧ HasToken world) (Same client past) := by
  have safe : ∀ world, Same client past world → Since formats client past world := fun _ => .inl
  apply Tries.bind _ safe (self_tries formats safe)
  intro own
  split
  · apply (updateToken_tries formats).consequence
    · exact fun _ holds => holds.2
    · exact fun _ _ renewed => ⟨.inr renewed, renewed.hasToken⟩
  · rename_i held
    apply Tries.pure
    rintro world ⟨rfl, same⟩
    refine ⟨.inl same, .inl same, ?_⟩
    rw [HasToken, Option.isSome_iff_ne_none]
    exact fun none => held (by rw [none]; rfl)

theorem ensureBearerToken_anywhere :
    Tries formats env client past (Since formats client past) (ensureBearerToken : Call backend Unit)
      (fun _ world => Since formats client past world ∧ HasToken world) (Since formats client past) := by
  apply Tries.carried formats fun client past _ world => Since formats client past world ∧ HasToken world
  · exact fun _ _ _ first second => ⟨first.trans second.1, second.2⟩
  intro client past
  apply Service.Upholds.consequence (ensureBearerToken_tries formats)
  · exact fun _ same => same
  · rintro (fault | ⟨⟩) world holds
    · exact ⟨.inl holds.1, holds.2⟩
    · exact holds

/-- The token client has a token when it needs one. -/
theorem bearerToken_tries (failed : World backend → Prop)
    (safe : ∀ world, failed world → Since formats client past world) :
    Tries formats env client past (fun world => Since formats client past world ∧ HasToken world)
      (bearerToken : Call backend Token) (fun _ => Since formats client past) failed := by
  apply Tries.bind _ safe (self_tries formats fun _ holds => holds.1)
  intro own
  cases held : own.token with
  | some token => exact Tries.pure fun _ holds => ⟨holds.2.1, holds.2.1⟩
  | none =>
    rintro world ⟨rfl, _, has⟩
    rw [HasToken, held] at has
    cases has

theorem updateToken_anywhere :
    Tries formats env client past (Since formats client past) (updateToken : Call backend Unit)
      (fun _ => Since formats client past) (Since formats client past) := by
  apply Tries.anywhere
  intro client past
  apply Service.Upholds.consequence (updateToken_tries formats)
  · exact fun _ same => same
  · rintro (fault | ⟨⟩) world holds
    · exact ⟨.inl holds.1, holds.2⟩
    · exact .inr holds

/-- `get_resource` of the token client holds the old pair or a new one throughout. -/
theorem tokenGetResourceFrom_tries (url : Text) (attempts : Nat) :
    Tries formats env client past (Since formats client past)
      (tokenGetResourceFrom formats url attempts : Call backend _)
      (fun _ => Since formats client past) (Since formats client past) := by
  have safe : ∀ world, Since formats client past world → Since formats client past world := fun _ => id
  induction attempts with
  | zero => exact Tries.throw (fromKey_error _) fun _ since => ⟨since, since⟩
  | succ attempts ih =>
    apply Tries.bind _ safe (ensureBearerToken_anywhere formats)
    intro _
    apply Tries.bind _ safe (bearerToken_tries formats _ safe)
    intro token
    apply Tries.bind _ safe (Quiet.anywhere formats (requestResource_quiet formats url _))
    rintro (_ | payload)
    · apply Tries.bind _ safe (updateToken_anywhere formats)
      exact fun _ => ih
    · exact Tries.pure fun _ since => ⟨since, since⟩

/-- `get_resource` of the token client. -/
theorem tokenGetResource_tries (uri : ResourceUri) :
    Tries formats env client past (Since formats client past)
      (tokenGetResource formats uri : Call backend _)
      (fun _ => Since formats client past) (Since formats client past) := by
  apply Tries.bind _ (fun _ => id) (self_tries formats fun _ since => since)
  intro own
  exact (tokenGetResourceFrom_tries formats _ _).consequence (fun _ holds => holds.2) fun _ _ since => since

end Programs

section Sessions

variable {α : Type} (formats)

/-- A client as the builder makes it. A token that the builder is given is of an earlier
handshake, with the key that it is given; no caller gives one. -/
def Started (world : World backend) : Prop :=
  ∃ fromPem fresh builder, KbsClientBuilder.build formats fromPem fresh builder = .ok world.client ∧
    (builder.token = none ∨ Paired formats world)

/-- The calls of the RCAR client. -/
inductive RcarQuery where
  | getToken
  | getResource (uri : ResourceUri)

def rcarCall : RcarQuery → Prog backend Unit
  | .getToken => do discard (getToken formats).run
  | .getResource uri => do discard (rcarGetResource formats uri).run

/-- The call of the token client. -/
def tokenCall (uri : ResourceUri) : Prog backend Unit := do discard (tokenGetResource formats uri).run

variable {formats}

theorem Started.paired {world : World backend} (started : Started formats world) : Paired formats world := by
  obtain ⟨fromPem, fresh, builder, built, given⟩ := started
  rcases given with none | paired
  · intro token held
    rw [KbsClientBuilder.build, none] at built
    obtain ⟨teeKey, _, built⟩ := bind_ok.mp built
    obtain ⟨_, ⟨⟩, built⟩ := bind_ok.mp built
    rw [← Except.ok.inj built] at held
    cases held
  · exact paired

variable {env : World backend → Op backend → Choice backend}

/-- A call that holds the old pair or a new one throughout keeps the client paired. -/
theorem paired_upheld {call : Call backend α}
    (tries : ∀ client past, Tries formats env client past (Since formats client past) call
      (fun _ => Since formats client past) (Since formats client past)) :
    service.Upholds 0 env (Paired formats) (Paired formats) (discard call.run : Prog backend Unit)
      fun _ => Paired formats := by
  have upheld : service.Upholds 0 env (Paired formats) (Paired formats) call.run fun _ => Paired formats := by
    intro world paired
    obtain ⟨kept, ends⟩ := tries world.client world.history world (.inl (Same.refl world))
    refine ⟨fun n => paired.since (kept n), paired.since ?_⟩
    cases result : (service.alone 0 env call.run world).1 with
    | ok value =>
      rw [result] at ends
      exact ends
    | error fault =>
      rw [result] at ends
      exact ends.1
  exact Service.Upholds.bind _ upheld fun _ => Service.Upholds.pure fun _ paired => ⟨paired, paired⟩

variable (formats)

theorem getToken_anywhere {client : KbsClient backend} {past : List (Exchange backend)} :
    Tries formats env client past (Since formats client past) (getToken formats : Call backend _)
      (fun _ => Since formats client past) (Since formats client past) := by
  apply Tries.anywhere
  intro client past
  apply Service.Upholds.consequence (getToken_tries formats)
  · exact fun _ same => same
  · rintro (fault | pair) world holds
    · exact ⟨.inl holds.1, holds.2⟩
    · exact holds.1

theorem rcarCall_upholds (query : RcarQuery) :
    service.Upholds 0 env (Paired formats) (Paired formats) (rcarCall formats query)
      fun _ => Paired formats := by
  cases query with
  | getToken => exact paired_upheld fun _ _ => getToken_anywhere formats
  | getResource uri => exact paired_upheld fun _ _ => rcarGetResource_tries formats uri

theorem tokenCall_upholds (uri : ResourceUri) :
    service.Upholds 0 env (Paired formats) (Paired formats) (tokenCall formats uri)
      fun _ => Paired formats :=
  paired_upheld fun _ _ => tokenGetResource_tries formats uri

variable (env) in
/-- Where the call ends in a panic, an operation of the key pair has panicked. -/
def PanicsFromKey (call : Call backend α) : Prop :=
  ∀ world fault, (service.alone 0 env call.run world).1 = .error fault → FromKey backend formats fault

variable {formats} in
theorem panicsFromKey_of_tries {call : Call backend α}
    (tries : ∀ client past, Tries formats env client past (Since formats client past) call
      (fun _ => Since formats client past) (Since formats client past)) : PanicsFromKey formats env call := by
  intro world fault failed
  have ends := (tries world.client world.history world (.inl (Same.refl world))).2
  rw [failed] at ends
  exact ends.2

variable (env) in
/-- A call, or a part of one, that fails leaves the pair that it found. -/
def LeavesPair (call : Fallible (Op backend) (Answer backend) (Fault ε) α) : Prop :=
  ∀ world fault, (service.alone 0 env call.run world).1 = .error fault →
    Same world.client world.history (service.alone 0 env call.run world).2

theorem leavesPair_of_tries {call : Fallible (Op backend) (Answer backend) (Fault ε) α}
    {post : KbsClient backend → List (Exchange backend) → α → World backend → Prop}
    (tries : ∀ client past, Tries formats env client past (Same client past) call (post client past)
      (Same client past)) : LeavesPair env call := by
  intro world fault failed
  have ends := (tries world.client world.history world (Same.refl world)).2
  rw [failed] at ends
  exact ends.1

end Sessions

/-- Both clients hold a token and a key pair of one handshake, after any calls, answered in any
way and dropped anywhere. A handshake that fails leaves them; `get_token` returns them; each
call makes a bounded number of attempts, and where it ends in a panic it is an operation of
the key pair that has panicked. -/
theorem session_pairs_held (formats : Formats) :
    (∀ world : World backend,
      (service.calls (rcarCall formats) (Started formats)).Reachable System.Free world →
        Paired formats world) ∧
    (∀ world : World backend,
      (service.calls (tokenCall formats) (Started formats)).Reachable System.Free world →
        Paired formats world) ∧
    (∀ env : World backend → Op backend → Choice backend,
      LeavesPair env (rcarHandshake formats) ∧ LeavesPair env (getToken formats) ∧
        LeavesPair env updateToken) ∧
    (∀ (env : World backend → Op backend → Choice backend) world token teeKey,
      (service.alone 0 env (getToken formats).run world).1 = .ok (token, teeKey) →
        (service.alone 0 env (getToken formats).run world).2.client.token = some token ∧
          (service.alone 0 env (getToken formats).run world).2.client.teeKey = teeKey) ∧
    (Bounded (getToken formats : Call backend _) 20 ∧ ∀ uri,
      Bounded (rcarGetResource formats uri : Call backend _) 15 ∧
        Bounded (tokenGetResource formats uri : Call backend _) 9) ∧
    (∀ env : World backend → Op backend → Choice backend, PanicsFromKey formats env (getToken formats) ∧
      ∀ uri, PanicsFromKey formats env (rcarGetResource formats uri) ∧
        PanicsFromKey formats env (tokenGetResource formats uri)) := by
  constructor
  · exact fun _ reached => Service.Upholds.reachable (fun _ => Started.paired)
      (fun query _ => rcarCall_upholds formats query) reached
  constructor
  · exact fun _ reached => Service.Upholds.reachable (fun _ => Started.paired)
      (fun uri _ => tokenCall_upholds formats uri) reached
  constructor
  · intro env
    constructor
    · exact leavesPair_of_tries formats fun client past => rcarHandshake_tries formats client past
    constructor
    · exact leavesPair_of_tries formats fun _ _ => getToken_tries formats
    · exact leavesPair_of_tries formats fun _ _ => updateToken_tries formats
  constructor
  · intro env world token teeKey returned
    have ends := (@getToken_tries backend formats world.client world.history env world (Same.refl world)).2
    rw [returned] at ends
    exact ends.2
  constructor
  · constructor
    · exact getToken_bounded formats
    intro uri
    constructor
    · exact Bounded.bind (n := 0) (m := 15) (Bounded.perform id) fun own =>
        rcarGetResourceFrom_bounded formats _ 3
    · exact Bounded.bind (n := 0) (m := 9) (Bounded.perform id) fun own =>
        tokenGetResourceFrom_bounded formats _ 3
  · intro env
    constructor
    · exact panicsFromKey_of_tries fun _ _ => getToken_anywhere formats
    intro uri
    constructor
    · exact panicsFromKey_of_tries fun _ _ => rcarGetResource_tries formats uri
    · exact panicsFromKey_of_tries fun _ _ => tokenGetResource_tries formats uri

end GuestComponents.KbsProtocol
