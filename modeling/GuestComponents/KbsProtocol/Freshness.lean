import GuestComponents.KbsProtocol.SessionPairing
import GuestComponents.Lib.Trace

/-! What the RCAR client attests. `Due` is the rule that every exchange of the client's history
meets: evidence is asked for right after a challenge, over the client's key and the nonce of
this challenge, and an attestation is sent right after its evidence, or again after sends of it
that found no server. The operations that add an exchange meet the rule by what the part of
the handshake before them ends with. -/
namespace GuestComponents.KbsProtocol
open Lib Crypto
open EventLog (HashAlgorithm)

variable {backend : Backend} (formats : Formats)

/-- The exchange is an authentication request for the TEE that was answered with the challenge. -/
def Challenges (tee : Tee) (challenge : Challenge) (exchange : Exchange backend) : Prop :=
  ∃ url response, exchange = ⟨.postAuth url (buildRequest tee), .ok response⟩ ∧
    response.status = 200 ∧ response.json formats.challenge = .ok challenge

/-- The data of evidence for a challenge: the key and the nonce, hashed as the challenge selects. -/
def evidenceData (tee : Tee) (challenge : Challenge) (algorithm : HashAlgorithm) (pubkey : TeePubKey) :
    List UInt8 :=
  hashRuntimeData formats (formats.write (.object [("tee-pubkey".toList, formats.pubkey pubkey),
    ("nonce".toList, .string challenge.nonce)])) challenge.nonce algorithm tee

/-- Evidence over the data may be asked for: the last exchange is a challenge for it. -/
def EvidenceDue (teeKey : TeeKeyPair backend) (data : List UInt8) (pubkey : TeePubKey)
    (before : List (Exchange backend)) : Prop :=
  ∃ earlier exchange tee challenge algorithm, before = earlier ++ [exchange] ∧
    Challenges formats tee challenge exchange ∧
    getHashAlgorithm formats challenge.extraParams = .ok algorithm ∧
    teeKey.exportPubkey = .ok pubkey ∧ data = evidenceData formats tee challenge algorithm pubkey

/-- The history ends with a challenge and with the evidence for it that the attestation carries. -/
def Evidenced (teeKey : TeeKeyPair backend) (attestation : Attestation)
    (before : List (Exchange backend)) : Prop :=
  ∃ earlier data evidence, before = earlier ++ [⟨.getEvidence data, .ok evidence⟩] ∧
    EvidenceDue formats teeKey data attestation.teePubkey earlier ∧
    formats.parse evidence = .ok attestation.teeEvidence

/-- The exchange is a send of the attestation that found no server. -/
def Unsent (url : Text) (attestation : Attestation) (exchange : Exchange backend) : Prop :=
  ∃ cause, exchange = ⟨.postAttest url attestation, .error cause⟩ ∧ (cause.isConnect || cause.isRequest) = true

/-- After the challenge and the evidence of the attestation there are only failed sends of it,
this many at most. -/
def AttestationDue (teeKey : TeeKeyPair backend) (url : Text) (attestation : Attestation) (sends : Nat)
    (before : List (Exchange backend)) : Prop :=
  ∃ fresh resends, before = fresh ++ resends ∧ Evidenced formats teeKey attestation fresh ∧
    resends.length ≤ sends ∧ ∀ exchange ∈ resends, Unsent url attestation exchange

/-- What precedes an exchange of the history. A token provider is not asked. -/
def Due (teeKey : TeeKeyPair backend) (before : List (Exchange backend)) : Exchange backend → Prop
  | ⟨.getEvidence data, _⟩ => ∃ pubkey, EvidenceDue formats teeKey data pubkey before
  | ⟨.postAttest url attestation, _⟩ => AttestationDue formats teeKey url attestation 2 before
  | ⟨.getToken, _⟩ => False
  | _ => True

/-- The client has this key, and each exchange of its history was due. -/
structure Fresh (teeKey : TeeKeyPair backend) (world : World backend) : Prop where
  key : world.client.teeKey = teeKey
  due : Always (Due formats teeKey) world.history

/-- The operation neither assigns the key nor asks for evidence or a token, nor sends evidence. -/
def Neutral : Op backend → Prop
  | .setPair _ _ | .ask (.getEvidence _) | .ask (.postAttest _ _) | .ask .getToken => False
  | _ => True

section Handshake

variable {formats} {teeKey : TeeKeyPair backend} {env : World backend → Op backend → Choice backend}
  {α ε : Type}

variable (formats teeKey env) in
/-- The part of a call keeps the history fresh wherever it is dropped or fails. -/
abbrev KeepsFresh (pre : World backend → Prop) (program : Fallible (Op backend) (Answer backend) ε α)
    (post : α → World backend → Prop) : Prop :=
  service.Attempts 0 env (Fresh formats teeKey) pre program post

theorem fresh_ask {question : Ask} {world : World backend} {choice : Choice backend}
    (fresh : Fresh formats teeKey world)
    (due : Due formats teeKey world.history ⟨question, choice question⟩) :
    Fresh formats teeKey (service.perform 0 world (.ask question) choice).2 :=
  ⟨fresh.key, fresh.due.concat due⟩

theorem fresh_neutral {op : Op backend} {world : World backend} {choice : Choice backend}
    (neutral : Neutral op) (fresh : Fresh formats teeKey world) :
    Fresh formats teeKey (service.perform 0 world op choice).2 := by
  cases op with
  | self => exact fresh
  | setTee tee => exact ⟨fresh.key, fresh.due⟩
  | setToken token => exact ⟨fresh.key, fresh.due⟩
  | setPair token teeKey => exact absurd neutral id
  | ask question =>
    cases question with
    | getEvidence data => exact absurd neutral id
    | postAttest url attestation => exact absurd neutral id
    | getTeeType => exact fresh_ask fresh trivial
    | postAuth url request => exact fresh_ask fresh trivial
    | getResource url bearerAuth => exact fresh_ask fresh trivial
    | getToken => exact absurd neutral id
    | now => exact fresh_ask fresh trivial
    | sleep seconds => exact fresh_ask fresh trivial

theorem keeps_neutral {program : Fallible (Op backend) (Answer backend) ε α}
    (neutral : Program.Only Neutral program.run) : service.Keeps 0 env (Fresh formats teeKey) program :=
  Service.Attempts.only neutral fun _ _ is fresh => fresh_neutral is fresh

/-- Reading the client. -/
theorem self_keeps {pre : World backend → Prop} (before : ∀ world, pre world → Fresh formats teeKey world) :
    KeepsFresh formats teeKey env pre
      (perform .self : Fallible (Op backend) (Answer backend) ε (KbsClient backend))
      fun own world => own = world.client ∧ pre world := by
  apply Service.Attempts.lift
  exact Service.Upholds.perform before fun world holds => ⟨before world holds, before world holds, rfl, holds⟩

theorem keeps_perform {op : Op backend} (neutral : Neutral op) : service.Keeps 0 env (Fresh formats teeKey)
    (perform op : Fallible (Op backend) (Answer backend) ε (Answer backend op)) :=
  keeps_neutral (Program.Only.lift (Program.only_perform neutral))

theorem keeps_asked {question : Ask} (neutral : Neutral (.ask question : Op backend)) :
    service.Keeps 0 env (Fresh formats teeKey)
      (attempt (asked question) : Fallible (Op backend) (Answer backend) ε (Reply backend question)) :=
  keeps_neutral (Program.Only.lift (Program.only_perform neutral))

theorem getTee_neutral : Program.Only Neutral (getTee : Anyhow backend Tee).run := by
  refine Program.Only.bind_fallible (Program.Only.lift (Program.only_perform trivial)) fun own => ?_
  split
  · refine Program.Only.bind_fallible (Program.Only.lift (Program.only_perform trivial)) fun answer => ?_
    refine Program.Only.bind_fallible trivial fun tee => ?_
    exact Program.Only.bind_fallible (Program.Only.lift (Program.only_perform trivial)) fun _ => trivial
  · trivial

/-- The handshake's first answer from the server is the challenge. -/
theorem requestChallenge_keeps (tee : Tee) :
    KeepsFresh formats teeKey env (Fresh formats teeKey) (requestChallenge formats tee)
      fun challenge world => ∃ earlier exchange, world.history = earlier ++ [exchange] ∧
        Challenges formats tee challenge exchange := by
  apply Service.Attempts.bind _ (self_keeps fun _ fresh => fresh)
  intro own
  apply Service.Attempts.bind fun answer world => ∃ earlier,
    world.history = earlier ++ [⟨.postAuth (endpoint own "auth".toList) (buildRequest tee), answer⟩]
  · apply Service.Attempts.lift
    refine Service.Upholds.perform (fun _ holds => holds.1) fun world holds => ?_
    have fresh := @fresh_ask _ formats teeKey (.postAuth (endpoint own "auth".toList) (buildRequest tee))
      world (env world (.ask (.postAuth (endpoint own "auth".toList) (buildRequest tee)))) holds.1 trivial
    exact ⟨fresh, fresh, world.history, rfl⟩
  intro answer
  apply Service.Attempts.bind fun response world => ∃ earlier, world.history = earlier ++
    [⟨.postAuth (endpoint own "auth".toList) (buildRequest tee), .ok response⟩]
  · refine Service.Attempts.result (fun _ holds => holds.1) fun response world same holds => ?_
    cases answer with
    | ok given =>
      cases same
      exact holds.2
    | error cause => cases same
  intro response
  split
  · rename_i success
    refine Service.Attempts.result (fun _ holds => holds.1) fun challenge world read holds => ?_
    obtain ⟨earlier, recorded⟩ := holds.2
    refine ⟨earlier, _, recorded, endpoint own "auth".toList, response, rfl, success, ?_⟩
    exact ofResult_ok.mp read
  · exact Service.Attempts.throw fun _ holds => holds.1

variable (teeKey) in
/-- The evidence is over the client's key and the nonce of the challenge before it. -/
theorem attestationFor_keeps (tee : Tee) (challenge : Challenge) :
    KeepsFresh formats teeKey env (fun world => Fresh formats teeKey world ∧ ∃ earlier exchange,
        world.history = earlier ++ [exchange] ∧ Challenges formats tee challenge exchange)
      (attestationFor formats tee challenge)
      fun attestation world => Evidenced formats teeKey attestation world.history := by
  apply Service.Attempts.bind fun algorithm world =>
    getHashAlgorithm formats challenge.extraParams = .ok algorithm ∧ ∃ earlier exchange,
      world.history = earlier ++ [exchange] ∧ Challenges formats tee challenge exchange
  · refine Service.Attempts.result (fun _ holds => holds.1) fun algorithm world selected holds => ?_
    split at selected
    · rename_i given
      cases selected
      exact ⟨given, holds.2⟩
    · cases selected
  intro algorithm
  apply Service.Attempts.bind _ (self_keeps fun _ holds => holds.1)
  intro own
  apply Service.Attempts.bind fun pubkey world => EvidenceDue formats teeKey
    (evidenceData formats tee challenge algorithm pubkey) pubkey world.history
  · refine Service.Attempts.result (fun _ holds => holds.1) fun pubkey world exported holds => ?_
    obtain ⟨fresh, rfl, _, selected, earlier, exchange, recorded, challenges⟩ := holds
    rw [fresh.key] at exported
    exact ⟨earlier, exchange, tee, challenge, algorithm, recorded, challenges, selected, exported, rfl⟩
  intro pubkey
  apply Service.Attempts.bind fun evidence world => ∃ earlier data,
    world.history = earlier ++ [⟨.getEvidence data, .ok evidence⟩] ∧
      EvidenceDue formats teeKey data pubkey earlier
  · apply Service.Attempts.bind fun answer world => ∃ earlier data,
      world.history = earlier ++ [⟨.getEvidence data, answer⟩] ∧
        EvidenceDue formats teeKey data pubkey earlier
    · apply Service.Attempts.lift
      refine Service.Upholds.perform (fun _ holds => holds.1) fun world holds => ?_
      let data := evidenceData formats tee challenge algorithm pubkey
      have fresh := @fresh_ask _ formats teeKey (.getEvidence data) world
        (env world (.ask (.getEvidence data))) holds.1 ⟨pubkey, holds.2⟩
      exact ⟨fresh, fresh, world.history, data, rfl, holds.2⟩
    intro answer
    split
    · exact Service.Attempts.pure fun _ holds => holds
    · exact Service.Attempts.throw fun _ holds => holds.1
  intro evidence
  apply Service.Attempts.bind fun teeEvidence world =>
    Evidenced formats teeKey ⟨pubkey, teeEvidence⟩ world.history
  · refine Service.Attempts.result (fun _ holds => holds.1) fun teeEvidence world parsed holds => ?_
    obtain ⟨earlier, data, recorded, due⟩ := holds.2
    exact ⟨earlier, data, evidence, recorded, due, ofResult_ok.mp parsed⟩
  intro teeEvidence
  exact Service.Attempts.pure fun _ holds => holds

variable (teeKey) in
/-- One send of an attestation, after some failed ones. -/
theorem postAttest_keeps (url : Text) (attestation : Attestation) {sends : Nat} (le : sends ≤ 2) :
    service.Upholds 0 env (Fresh formats teeKey)
      (fun world => Fresh formats teeKey world ∧
        AttestationDue formats teeKey url attestation sends world.history)
      (asked (.postAttest url attestation)) fun answer world => Fresh formats teeKey world ∧
        ∀ cause, answer = .error cause → (cause.isConnect || cause.isRequest) = true →
          AttestationDue formats teeKey url attestation (sends + 1) world.history := by
  refine Service.Upholds.perform (fun _ holds => holds.1) fun world holds => ?_
  obtain ⟨fresh, earlier, resends, recorded, evidenced, short, unsent⟩ := holds
  have kept := @fresh_ask _ formats teeKey (.postAttest url attestation) world
    (env world (.ask (.postAttest url attestation))) fresh
    ⟨earlier, resends, recorded, evidenced, short.trans le, unsent⟩
  refine ⟨kept, kept, fun cause failed again => ?_⟩
  refine ⟨earlier, resends ++ [⟨.postAttest url attestation, .error cause⟩], ?_, evidenced, ?_, ?_⟩
  · rw [← List.append_assoc, ← recorded, ← failed]
    rfl
  · rw [List.length_append, List.length_singleton]
    exact Nat.succ_le_succ short
  · rw [List.forall_mem_append]
    exact ⟨unsent, List.forall_mem_singleton.mpr ⟨cause, rfl, again⟩⟩

variable (teeKey) in
theorem sendAttestation_keeps (url : Text) (attestation : Attestation) (retries sends : Nat)
    (le : sends + retries ≤ 2) :
    service.Upholds 0 env (Fresh formats teeKey)
      (fun world => Fresh formats teeKey world ∧
        AttestationDue formats teeKey url attestation sends world.history)
      (sendAttestation url attestation retries) fun _ => Fresh formats teeKey := by
  induction retries generalizing sends with
  | zero =>
    exact (postAttest_keeps teeKey url attestation le).consequence (fun _ holds => holds)
      fun _ _ holds => holds.1
  | succ retries ih =>
    apply Service.Upholds.bind _ (postAttest_keeps teeKey url attestation (by omega))
    rintro (cause | response)
    · change service.Upholds 0 env _ _ (if _ then _ else _) _
      split
      · rename_i again
        exact (ih (sends + 1) (by omega)).consequence (fun _ holds => ⟨holds.1, holds.2 cause rfl again⟩)
          fun _ _ holds => holds
      · exact Service.Upholds.pure fun _ holds => ⟨holds.1, holds.1⟩
    · exact Service.Upholds.pure fun _ holds => ⟨holds.1, holds.1⟩

variable (formats teeKey) in
theorem rcarHandshake_keeps :
    service.Keeps 0 env (Fresh formats teeKey) (rcarHandshake formats) := by
  apply Service.Attempts.bind _ (keeps_neutral getTee_neutral)
  intro tee
  apply Service.Attempts.bind _ ((requestChallenge_keeps tee).consequence (fun _ holds => holds.1)
    fun _ _ _ challenged => challenged)
  intro challenge
  apply Service.Attempts.bind _ (attestationFor_keeps teeKey tee challenge)
  intro attestation
  apply Service.Attempts.bind _ (self_keeps fun _ holds => holds.1)
  intro own
  apply Service.Attempts.bind fun _ _ => True
  · apply Service.Attempts.lift
    refine (sendAttestation_keeps teeKey (endpoint own "attest".toList) attestation 2 0 le_rfl).consequence
      (fun world holds => ⟨holds.1, ?_⟩) fun _ _ fresh => ⟨fresh, trivial⟩
    exact ⟨world.history, [], (List.append_nil _).symm, holds.2.2.2, le_rfl, List.forall_mem_nil _⟩
  intro answer
  apply Service.Attempts.bind fun _ _ => True
  · exact Service.Attempts.result (fun _ holds => holds.1) fun _ _ _ _ => trivial
  intro response
  apply Service.Attempts.bind fun _ _ => True
  · exact Service.Attempts.result (fun _ holds => holds.1) fun _ _ _ _ => trivial
  intro token
  have sets : service.Keeps 0 env (Fresh formats teeKey)
      (perform (.setToken token) : Anyhow backend Unit) := keeps_perform trivial
  exact sets.consequence (fun _ holds => holds.1) fun _ _ _ holds => holds

variable (formats teeKey) in
theorem repeatRcarHandshakeFrom_keeps (retries : Nat) :
    service.Keeps 0 env (Fresh formats teeKey) (repeatRcarHandshakeFrom formats retries) := by
  have once := @rcarHandshake_keeps _ formats teeKey env
  induction retries with
  | zero =>
    refine Service.Keeps.bind (Service.Keeps.lift once.run) fun result => ?_
    rcases result with (cause | message) | done
    · exact Service.Keeps.throw _
    · exact Service.Keeps.throw _
    · exact Service.Keeps.pure ()
  | succ retries ih =>
    refine Service.Keeps.bind (Service.Keeps.lift once.run) fun result => ?_
    rcases result with (cause | message) | done
    · exact Service.Keeps.bind (keeps_asked trivial) fun _ => ih
    · exact Service.Keeps.throw _
    · exact Service.Keeps.pure ()

variable (formats teeKey) in
theorem getToken_keeps : service.Keeps 0 env (Fresh formats teeKey) (getToken formats) := by
  apply Service.Keeps.bind
  · refine Service.Keeps.bind (keeps_perform trivial) fun own => ?_
    split
    · refine Service.Keeps.bind (keeps_asked trivial) fun now => ?_
      split
      · exact Service.Keeps.pure ()
      · exact repeatRcarHandshakeFrom_keeps formats teeKey _
    · exact repeatRcarHandshakeFrom_keeps formats teeKey _
  · intro _
    refine Service.Keeps.bind (keeps_perform trivial) fun own => ?_
    split
    · exact Service.Keeps.pure _
    · exact Service.Keeps.throw _

theorem requestResource_keeps (url : Text) (bearerAuth : Option Text) :
    service.Keeps 0 env (Fresh formats teeKey) (requestResource formats url bearerAuth) := by
  refine Service.Keeps.bind (keeps_asked trivial) fun answer => ?_
  refine Service.Keeps.bind (Service.Keeps.result _) fun response => ?_
  exact Service.Keeps.bind (keeps_perform trivial) fun own => Service.Keeps.result _

variable (formats teeKey) in
theorem rcarGetResourceFrom_keeps (url : Text) (attempts : Nat) :
    service.Keeps 0 env (Fresh formats teeKey) (rcarGetResourceFrom formats url attempts) := by
  induction attempts with
  | zero => exact Service.Keeps.throw _
  | succ attempts ih =>
    refine Service.Keeps.bind (requestResource_keeps url none) fun payload => ?_
    cases payload with
    | some payload => exact Service.Keeps.pure payload
    | none =>
      refine Service.Keeps.bind (Service.Keeps.lift (rcarHandshake_keeps formats teeKey).run) fun result => ?_
      exact Service.Keeps.bind (Service.Keeps.result _) fun _ => ih

variable (formats teeKey) in
/-- A call of the RCAR client, dropped anywhere, keeps its history fresh. -/
theorem rcarCall_keeps (query : RcarQuery) :
    service.Upholds 0 env (Fresh formats teeKey) (Fresh formats teeKey) (rcarCall formats query)
      fun _ => Fresh formats teeKey := by
  have discards {β ε : Type} {call : Fallible (Op backend) (Answer backend) ε β}
      (keeps : service.Keeps 0 env (Fresh formats teeKey) call) :
      service.Upholds 0 env (Fresh formats teeKey) (Fresh formats teeKey)
        (discard call.run : Prog backend Unit) fun _ => Fresh formats teeKey :=
    Service.Upholds.bind _ keeps.run fun _ => Service.Upholds.pure fun _ holds => ⟨holds, holds⟩
  cases query with
  | getToken => exact discards (getToken_keeps formats teeKey)
  | getResource uri =>
    exact discards (Service.Keeps.bind (keeps_perform trivial) fun own =>
      rcarGetResourceFrom_keeps formats teeKey _ _)

end Handshake

/-- A client as the builder makes it, before its first exchange. -/
def Unused (world : World backend) : Prop :=
  (∃ fromPem fresh builder, KbsClientBuilder.build formats fromPem fresh builder = .ok world.client) ∧
    world.history = []

/-- The client has the key that it was built with, and its history is fresh for that. -/
def FreshAsBuilt (world : World backend) : Prop :=
  ∃ built, Unused formats built ∧ Fresh formats built.client.teeKey world

section OneHandshake

/-- RSA keys by their modulus and exponent. Nothing is decrypted in a handshake. -/
def numberedKeys : Backend where
  RsaKeyPair := List UInt8 × List UInt8
  EcKeyPair := Empty
  curve key := key.elim
  n key := key.1
  e key := key.2
  x key := key.elim
  y key := key.elim
  rsaDecrypt _ _ _ := .bail "RSA key decrypt OAEP failed"
  unwrapKey key := key.elim
  gcmEncryptDetached _ _ _ _ := .bail "aes-256-gcm encrypt failed"
  gcmDecryptDetached _ _ _ _ _ := .bail "aes-256-gcm decrypt failed"
  gcmEncrypt _ _ _ := .bail "aes-256-gcm encrypt failed"
  gcmDecrypt _ _ _ := .bail "aes-256-gcm decrypt failed"
  ctrEncrypt _ _ _ := .bail "aes-256-ctr encrypt failed"
  ctrDecrypt _ _ _ := .bail "aes-256-ctr decrypt failed"

def challengeBody : List UInt8 := Text.utf8 "\x7b\"nonce\":\"MTIz\",\"extra-params\":\"\"\x7d".toList

def tokenBody : List UInt8 := Text.utf8 "\x7b\"token\":\"e30.e30.e30\"\x7d".toList

/-- A public key as it is written. -/
def TeePubKey.toJson : TeePubKey → Json
  | .rsa alg kMod kExp => .object [("kty".toList, .string "RSA".toList), ("alg".toList, .string alg),
      ("n".toList, .string kMod), ("e".toList, .string kExp)]
  | .ec crv alg x y => .object [("kty".toList, .string "EC".toList), ("crv".toList, .string crv),
      ("alg".toList, .string alg), ("x".toList, .string x), ("y".toList, .string y)]

/-- The formats, on the messages of one handshake. -/
def handshakeFormats : Formats where
  challenge body := if body = challengeBody then
    .ok ⟨"MTIz".toList, .string []⟩ else .error "expected value"
  response _ := .error "expected value"
  attestationResponseData body := if body = tokenBody then
    .ok "e30.e30.e30".toList else .error "expected value"
  claims body := if body = Text.utf8 "\x7b\x7d".toList then .ok (none, none) else .error "expected value"
  errorInformation _ := .error "expected value"
  text _ := ""
  pubkey := TeePubKey.toJson
  write _ := ("\x7b\"nonce\":\"MTIz\",\"tee-pubkey\":\x7b\"alg\":\"RSA-OAEP\",\"e\":\"Aw\",\"kty\":\"RSA\"," ++
    "\"n\":\"IQ\"\x7d\x7d").toList
  parse text := if text = "\x7b\x7d".toList then .ok (.object []) else .error "expected value"
  generateAad _ := .ok []
  sha
    | .sha256, bytes => Sha2.sha256.digest bytes
    | .sha384, bytes => Sha2.sha384.digest bytes
    | .sha512, bytes => Sha2.sha512.digest bytes

/-- A server that is not there for the first attestation. -/
def handshakeReplies (asked : Nat) : Choice backend
  | .getTeeType => .ok (.other "sample".toList)
  | .getEvidence _ => .ok "\x7b\x7d".toList
  | .postAuth _ _ => .ok ⟨200, .ok challengeBody⟩
  | .postAttest _ _ =>
    if asked = 3 then .error ⟨true, false, "error sending request"⟩
    else .ok ⟨200, .ok tokenBody⟩
  | .getResource _ _ => .error ⟨true, false, "error sending request"⟩
  | .getToken => .error "no token"
  | .now => Nat.zero
  | .sleep _ => ()

def numberedClient : World numberedKeys :=
  ⟨⟨.unitialized, ⟨.rsa ([33], [3])⟩, "http://kbs".toList, none⟩, []⟩

/-- The client after `get_token`. -/
def handshaken : World numberedKeys :=
  service.dropped 0 (fun world _ => handshakeReplies world.history.length) 20
    (rcarCall handshakeFormats .getToken) numberedClient

theorem numberedClient_unused : Unused handshakeFormats numberedClient :=
  ⟨⟨fun _ => .ok ⟨.rsa ([33], [3])⟩, ⟨.rsa ([33], [3])⟩, .new "http://kbs".toList, rfl⟩, rfl⟩

end OneHandshake

end GuestComponents.KbsProtocol
