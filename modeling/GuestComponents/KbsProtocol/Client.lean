import GuestComponents.EventLog.Log
import GuestComponents.KbsProtocol.KeyPair
import GuestComponents.KbsProtocol.ResourceUri
import GuestComponents.Lib.Exclusive

/-! The two clients of the KBS (`rcar_client.rs`, `token_client.rs`), as programs. An
operation reads or assigns a field of the client, or asks something outside: the
server, the provider, the clock. The world is the client and what was asked and
answered. Every answer is the environment's, and the formats of the messages, which
other crates define, are parameters. -/
namespace GuestComponents.KbsProtocol
open Lib Crypto
open EventLog (HashAlgorithm Sha)

def KBS_PROTOCOL_VERSION : Text := "0.2.0".toList

def KBS_GET_RESOURCE_MAX_ATTEMPT : Nat := 3

def KBS_PREFIX : Text := "kbs/v0".toList

def RCAR_MAX_ATTEMPT : Nat := 5

def RCAR_RETRY_TIMEOUT_SECOND : Nat := 1

/-- The TEE types, of which the client tells one from the others. -/
inductive Tee where
  | se
  | other (name : Text)

structure Token where
  content : Text
  exp : Option Nat
  nbf : Option Nat
deriving DecidableEq

structure Challenge where
  nonce : Text
  extraParams : Json

/-- `kbs_types::Request`. -/
structure AuthRequest where
  version : Text
  tee : Tee
  extraParams : Json

structure Attestation where
  teePubkey : TeePubKey
  teeEvidence : Json

/-- `error.rs::Error`, the variants that the clients return. -/
inductive Error where
  | decryptResponseFailed (cause : String)
  | getEvidence (cause : String)
  | getTokenFailed (cause : String)
  | httpError (cause : String)
  | kbsInternalError (cause : String)
  | kbsResponseDeserializationFailed (cause : String)
  | rcarHandshake (cause : String)
  | resourceNotFound (cause : String)
  | unAuthorized
  | invalidHashAlgorithm (name : String)
  | unexpectedJsonDataType (expected got : String)

def Error.display : Error → String
  | decryptResponseFailed cause => s!"decrypt KBS response body failed: {cause}"
  | getEvidence cause => s!"get evidence failed: {cause}"
  | getTokenFailed cause => s!"get token failed: {cause}"
  | httpError cause => s!"http request failed: {cause}"
  | kbsInternalError cause => s!"KBS internal error: {cause}"
  | kbsResponseDeserializationFailed cause => s!"deserialize http response failed: {cause}"
  | rcarHandshake cause => s!"RCAR handshake failed: {cause}"
  | resourceNotFound cause => s!"KBS resource not found: {cause}"
  | unAuthorized => "request unauthorized"
  | invalidHashAlgorithm name => s!"invalid hash algorithm: {name}"
  | unexpectedJsonDataType expected got => s!"unexpected JSON data type: expected {expected}, got {got}"

/-- An HTTP response: its status, and its body where it could be read. -/
structure HttpResponse where
  status : Nat
  body : Except String (List UInt8)

/-- Why no response came. -/
structure SendError where
  isConnect : Bool
  isRequest : Bool
  message : String

/-- What the clients read and write in messages: serde_json on the types of the protocol, and
the crates that hash. -/
structure Formats where
  challenge : List UInt8 → Except String Challenge
  response : List UInt8 → Except String Response
  attestationResponseData : List UInt8 → Except String Text
  /-- The `exp` and `nbf` of a token's claims. -/
  claims : List UInt8 → Except String (Option Nat × Option Nat)
  /-- An `ErrorInformation`, as its debug text. -/
  errorInformation : List UInt8 → Except String String
  text : List UInt8 → String
  pubkey : TeePubKey → Json
  write : Json → Text
  parse : Text → Except String Json
  generateAad : ProtectedHeader → Except String (List UInt8)
  sha : Sha

inductive ClientTee where
  | unitialized
  | initializated (tee : Tee)

structure KbsClient (backend : Backend) where
  tee : ClientTee
  teeKey : TeeKeyPair backend
  kbsHostUrl : Text
  token : Option Token

variable {backend : Backend}

/-- What is asked of the outside: of the evidence provider, the server, the token provider and
the clock. -/
inductive Ask where
  | getTeeType
  | getEvidence (runtimeData : List UInt8)
  | postAuth (url : Text) (request : AuthRequest)
  | postAttest (url : Text) (attestation : Attestation)
  | getResource (url : Text) (bearerAuth : Option Text)
  | getToken
  | now
  | sleep (seconds : Nat)

/-- A message to the server or to the token provider. -/
def Ask.IsAttempt : Ask → Prop
  | .postAuth .. | .postAttest .. | .getResource .. | .getToken => True
  | _ => False

variable (backend) in
/-- What may be answered. -/
def Reply : Ask → Type
  | .getTeeType => Except String Tee
  | .getEvidence _ => Except String Text
  | .postAuth _ _ | .postAttest _ _ | .getResource _ _ => Except SendError HttpResponse
  | .getToken => Except String (Token × TeeKeyPair backend)
  | .now => Nat
  | .sleep _ => Unit

variable (backend) in
/-- The operations of a call. -/
inductive Op where
  | self
  | setTee (tee : Tee)
  | setToken (token : Token)
  | setPair (token : Token) (teeKey : TeeKeyPair backend)
  | ask (question : Ask)

variable (backend) in
def Answer : Op backend → Type
  | .self => KbsClient backend
  | .setTee _ | .setToken _ | .setPair _ _ => Unit
  | .ask question => Reply backend question

variable (backend) in
/-- A question and its answer. -/
abbrev Exchange := (question : Ask) × Reply backend question

variable (backend) in
structure World where
  client : KbsClient backend
  history : List (Exchange backend)

variable (backend) in
/-- The environment's answers. -/
abbrev Choice := (question : Ask) → Reply backend question

/-- What the operations do. -/
def service : Service (Op backend) (Answer backend) (World backend) (Choice backend) Unit where
  perform _ world op choice :=
    match op with
    | .self => (world.client, world)
    | .setTee tee => ((), { world with client := { world.client with tee := .initializated tee } })
    | .setToken token => ((), { world with client := { world.client with token := some token } })
    | .setPair token teeKey => ((), { world with client := { world.client with token := some token, teeKey } })
    | .ask question =>
      (choice question, { world with history := world.history ++ [⟨question, choice question⟩] })
  began _ _ world := world
  died _ world := world

abbrev Prog (backend : Backend) := Program (Op backend) (Answer backend)

/-- A call with `anyhow::Result`, and one with the errors of the crate. -/
abbrev Anyhow (backend : Backend) := Fallible (Op backend) (Answer backend) (Fault String)

abbrev Call (backend : Backend) := Fallible (Op backend) (Answer backend) (Fault Error)

section Lifting

variable {α ε : Type}

/-- A question, and its answer. -/
def asked (question : Ask) : Prog backend (Reply backend question) := Program.perform (Op.ask question)

/-- A part of a call that has a result of its own. -/
def attempt (program : Prog backend α) : Fallible (Op backend) (Answer backend) ε α :=
  ExceptT.lift program

def perform (op : Op backend) : Fallible (Op backend) (Answer backend) ε (Answer backend op) :=
  attempt (Program.perform op)

/-- The result of a computation without operations. -/
def ofOutcome (outcome : Except ε α) : Fallible (Op backend) (Answer backend) ε α :=
  ExceptT.mk (pure outcome)

/-- `map_err` on a computation that may panic. -/
def mapError {δ : Type} (change : δ → ε) : Except (Fault δ) α → Except (Fault ε) α
  | .ok value => .ok value
  | .error (.error cause) => .error (.error (change cause))
  | .error (.panic message) => .error (.panic message)

/-- `map_err` on a `Result`. -/
def orElse (change : String → ε) (result : Except String α) : Except (Fault ε) α :=
  mapError change (Outcome.ofResult result)

end Lifting

variable (formats : Formats)

/-- `Token::new`. -/
def Token.new (token : Text) : Except String Token := do
  let claimsB64 ← match (token.splitOn '.')[1]? with
    | some claims => .ok claims
    | none => .error "illegal token format"
  let claims ← match Base64.decodeUrlSafe claimsB64 with
    | some claims => .ok claims
    | none => .error "Invalid symbol or padding"
  let (exp, nbf) ← formats.claims claims
  return { content := token, exp, nbf }

/-- `Token::check_valid`. -/
def Token.checkValid (token : Token) (now : Nat) : Except String Unit :=
  if token.exp.any (· < now) then .error "token expired"
  else if token.nbf.any (now < ·) then .error "before validity"
  else .ok ()

/-- `builder.rs::KbsClientBuilder`, but for the certificates. -/
structure KbsClientBuilder where
  kbsHostUrl : Text
  token : Option Text
  teeKey : Option Text

/-- `with_evidence_provider` and `with_token_provider`. -/
def KbsClientBuilder.new (kbsHostUrl : Text) : KbsClientBuilder where
  kbsHostUrl := kbsHostUrl.rdropWhile (· = '/')
  token := none
  teeKey := none

/-- `builder.rs::build`: the key pair that is given, or a fresh one. -/
def buildTeeKey (fromPem : Text → Except String (TeeKeyPair backend)) (fresh : TeeKeyPair backend) :
    Option Text → Except String (TeeKeyPair backend)
  | some key => (fromPem key).mapError fun _ => "read tee public key"
  | none => .ok fresh

/-- `builder.rs::build`: the token that is given. -/
def buildToken : Option Text → Except String (Option Token)
  | some token => ((Token.new formats token).mapError fun _ => "read token").map some
  | none => .ok none

/-- `builder.rs::build`, with the reader of PEM texts and the key pair that is made where none
is given. -/
def KbsClientBuilder.build (fromPem : Text → Except String (TeeKeyPair backend))
    (fresh : TeeKeyPair backend) (builder : KbsClientBuilder) : Except String (KbsClient backend) := do
  let teeKey ← buildTeeKey fromPem fresh builder.teeKey
  let token ← buildToken formats builder.token
  return { tee := .unitialized, teeKey, kbsHostUrl := builder.kbsHostUrl, token }

/-- `get_request_extra_params`. -/
def getRequestExtraParams : Json :=
  .object [("supported-hash-algorithms".toList,
    .array ([HashAlgorithm.sha256, .sha384, .sha512].map fun algorithm => .string algorithm.asRef))]

/-- `get_hash_algorithm`. No character outside ASCII lowercases to one of an algorithm's name. -/
def getHashAlgorithm (extraParams : Json) : Except Error HashAlgorithm :=
  match extraParams.get "selected-hash-algorithm".toList with
  | none => .ok .sha384
  | some selected =>
    match selected.asStr with
    | none => .error (.unexpectedJsonDataType "string" (String.ofList (formats.write selected)))
    | some name =>
      let name := name.map Char.toLower
      match HashAlgorithm.fromStr name with
      | some algorithm => .ok algorithm
      | none => .error (.invalidHashAlgorithm (String.ofList name))

/-- `build_request`. -/
def buildRequest (tee : Tee) : AuthRequest where
  version := KBS_PROTOCOL_VERSION
  tee := tee
  extraParams := getRequestExtraParams

/-- `{host}/kbs/v0/{path}`. -/
def endpoint (client : KbsClient backend) (path : Text) : Text :=
  client.kbsHostUrl ++ '/' :: KBS_PREFIX ++ '/' :: path

/-- `hash_runtime_data`: IBM SE passes the nonce. -/
def hashRuntimeData (runtimeData nonce : Text) (algorithm : HashAlgorithm) : Tee → List UInt8
  | .se => nonce.utf8
  | .other _ => formats.sha algorithm runtimeData.utf8

/-- Reading a response as JSON: its body, and what is in it. -/
def HttpResponse.json {α : Type} (parse : List UInt8 → Except String α) (response : HttpResponse) :
    Except String α :=
  response.body >>= parse

/-- The error of a handshake for a response that is no success. -/
def refusal (unauthorized : String) (response : HttpResponse) : Fault String :=
  if response.status = 401 then
    match response.json formats.errorInformation with
    | .ok info => .error (unauthorized ++ info)
    | .error cause => .error cause
  else match response.body with
    | .ok bytes => .error ("KBS Server Internal Failed, Response: " ++ (formats.text bytes).quote)
    | .error cause => .error cause

/-- `rcar_handshake`: the TEE type, asked for once. -/
def getTee : Anyhow backend Tee := do
  match (← perform .self).tee with
  | .unitialized =>
    let tee ← ofOutcome (Outcome.ofResult (← attempt (asked .getTeeType)))
    perform (.setTee tee)
    return tee
  | .initializated tee => return tee

/-- `rcar_handshake`: the authentication request and the challenge. -/
def requestChallenge (tee : Tee) : Anyhow backend Challenge := do
  let url := endpoint (← perform .self) "auth".toList
  let response ← ofOutcome (match ← attempt (asked (.postAuth url (buildRequest tee))) with
    | .ok response => .ok response
    | .error cause => .error (Fault.error cause.message))
  if response.status = 200 then ofOutcome (Outcome.ofResult (response.json formats.challenge))
  else throw (refusal formats "KBS request unauthorized, ErrorInformation: " response)

/-- `generate_evidence`, on the runtime data of the handshake. -/
def generateEvidence (tee : Tee) (runtimeData nonce : Text) (algorithm : HashAlgorithm) :
    Anyhow backend Text := do
  let hashedData := hashRuntimeData formats runtimeData nonce algorithm tee
  match ← attempt (asked (.getEvidence hashedData)) with
  | .ok evidence => return evidence
  | .error _ => throw (.error (Error.getEvidence "Get TEE evidence failed").display)

/-- `rcar_handshake`: the evidence for a challenge. -/
def attestationFor (tee : Tee) (challenge : Challenge) : Anyhow backend Attestation := do
  let algorithm ← ofOutcome (match getHashAlgorithm formats challenge.extraParams with
    | .ok algorithm => .ok algorithm
    | .error error => .error (Fault.error error.display))
  let teePubkey ← ofOutcome (← perform .self).teeKey.exportPubkey
  let runtimeData := formats.write (.object [("tee-pubkey".toList, formats.pubkey teePubkey),
    ("nonce".toList, .string challenge.nonce)])
  let evidence ← generateEvidence formats tee runtimeData challenge.nonce algorithm
  let teeEvidence ← ofOutcome (Outcome.ofResult (formats.parse evidence))
  return { teePubkey, teeEvidence }

/-- `rcar_handshake`: sending the attestation, and again after a failed connection, this many
times at most. -/
def sendAttestation (url : Text) (attestation : Attestation) :
    Nat → Prog backend (Except SendError HttpResponse)
  | 0 => asked (.postAttest url attestation)
  | retries + 1 => do
    match ← asked (.postAttest url attestation) with
    | .ok response => return .ok response
    | .error cause =>
      if cause.isConnect || cause.isRequest then sendAttestation url attestation retries
      else return .error cause

/-- `rcar_handshake`: the token of a response to the attestation. -/
def tokenOf (response : HttpResponse) : Except (Fault String) Token :=
  if response.status = 200 then do
    let content ← Outcome.ofResult (response.json formats.attestationResponseData)
    Outcome.ofResult (Token.new formats content)
  else .error (refusal formats "KBS attest unauthorized, Error Info: " response)

/-- `rcar_handshake`. -/
def rcarHandshake : Anyhow backend Unit := do
  let tee ← getTee
  let challenge ← requestChallenge formats tee
  let attestation ← attestationFor formats tee challenge
  let url := endpoint (← perform .self) "attest".toList
  let maxRetries := 3
  let response ← ofOutcome (match ← attempt (sendAttestation url attestation (maxRetries - 1)) with
    | .ok response => .ok response
    | .error cause => .error (Fault.error cause.message))
  let token ← ofOutcome (tokenOf formats response)
  perform (.setToken token)

/-- `repeat_rcar_handshake`, with this many further tries. -/
def repeatRcarHandshakeFrom : Nat → Call backend Unit
  | 0 => do
    match ← attempt (rcarHandshake formats).run with
    | .ok () => return ()
    | .error (.panic message) => throw (.panic message)
    | .error (.error cause) =>
      let e := "RcarHandshake(" ++ cause.quote ++ ")"
      throw (.error (.rcarHandshake (s!"Unable to get token. RCAR handshake retried {RCAR_MAX_ATTEMPT} " ++
        s!"times. Final attempt failed with: {e}")))
  | retries + 1 => do
    match ← attempt (rcarHandshake formats).run with
    | .ok () => return ()
    | .error (.panic message) => throw (.panic message)
    | .error (.error _) =>
      attempt (asked (.sleep RCAR_RETRY_TIMEOUT_SECOND))
      repeatRcarHandshakeFrom retries

/-- `repeat_rcar_handshake`. -/
def repeatRcarHandshake : Call backend Unit := repeatRcarHandshakeFrom formats (RCAR_MAX_ATTEMPT - 1)

/-- `get_token`: a handshake, where the client holds no token that is valid. -/
def ensureToken : Call backend Unit := do
  match (← perform .self).token with
  | some token =>
    match token.checkValid (← attempt (asked .now)) with
    | .ok () => return ()
    | .error _ => repeatRcarHandshake formats
  | none => repeatRcarHandshake formats

/-- `get_token`: the token that is held then, and the key pair. -/
def heldPair : Call backend (Token × TeeKeyPair backend) := do
  let client ← perform .self
  match client.token with
  | some token => return (token, client.teeKey)
  | none => throw (.panic "assertion failed: self.token.is_some()")

/-- `get_token`. -/
def getToken : Call backend (Token × TeeKeyPair backend) := do
  ensureToken formats
  heldPair

/-- The URL of a resource. -/
def resourceUrl (client : KbsClient backend) (uri : ResourceUri) : Text :=
  let url := endpoint client ("resource/".toList ++ uri.resourcePath)
  match uri.query with
  | some q => url ++ '?' :: q
  | none => url

/-- What both clients do with a response to a resource request: the resource, or nothing where
the client has to authenticate. -/
def resourceOf (teeKey : TeeKeyPair backend) (response : HttpResponse) :
    Except (Fault Error) (Option (List UInt8)) :=
  if response.status = 200 then do
    let response ← orElse .kbsResponseDeserializationFailed (response.json formats.response)
    let payload ← mapError .decryptResponseFailed (teeKey.decryptResponse formats.generateAad response)
    return some payload
  else do
    let info ← orElse .kbsResponseDeserializationFailed (response.json formats.errorInformation)
    if response.status = 401 then return none
    else if response.status = 404 then
      .error (.error (.resourceNotFound s!"KBS resource Not Found (Error 404): {info}"))
    else .error (.error (.kbsInternalError s!"KBS Server Internal Failed, Response: {info}"))

/-- One request for a resource. -/
def requestResource (url : Text) (bearerAuth : Option Text) : Call backend (Option (List UInt8)) := do
  let response ← ofOutcome (match ← attempt (asked (.getResource url bearerAuth)) with
    | .ok response => .ok response
    | .error cause => .error (Fault.error (Error.httpError ("get failed: " ++ cause.message))))
  ofOutcome (resourceOf formats (← perform .self).teeKey response)

/-- `get_resource` of the RCAR client, with this many attempts left. -/
def rcarGetResourceFrom (url : Text) : Nat → Call backend (List UInt8)
  | 0 => throw (.error .unAuthorized)
  | attempts + 1 => do
    match ← requestResource formats url none with
    | some payload => return payload
    | none =>
      ofOutcome (mapError Error.rcarHandshake (← attempt (rcarHandshake formats).run))
      rcarGetResourceFrom url attempts

/-- `get_resource` of the RCAR client. -/
def rcarGetResource (uri : ResourceUri) : Call backend (List UInt8) := do
  rcarGetResourceFrom formats (resourceUrl (← perform .self) uri) KBS_GET_RESOURCE_MAX_ATTEMPT

/-- `update_token`. -/
def updateToken : Call backend Unit := do
  let (token, teeKey) ← ofOutcome (orElse .getTokenFailed (← attempt (asked .getToken)))
  perform (.setPair token teeKey)

/-- `get_resource` of the token client: a token from the provider, where none is held. -/
def ensureBearerToken : Call backend Unit := do
  if (← perform .self).token.isNone then updateToken

/-- `get_resource` of the token client: the token that is held then. -/
def bearerToken : Call backend Token := do
  match (← perform .self).token with
  | some token => return token
  | none => throw (.panic "token must have been got")

/-- `get_resource` of the token client, with this many attempts left. -/
def tokenGetResourceFrom (url : Text) : Nat → Call backend (List UInt8)
  | 0 => throw (.error .unAuthorized)
  | attempts + 1 => do
    ensureBearerToken
    let token ← bearerToken
    match ← requestResource formats url (some token.content) with
    | some payload => return payload
    | none =>
      updateToken
      tokenGetResourceFrom url attempts

/-- `get_resource` of the token client. -/
def tokenGetResource (uri : ResourceUri) : Call backend (List UInt8) := do
  tokenGetResourceFrom formats (resourceUrl (← perform .self) uri) KBS_GET_RESOURCE_MAX_ATTEMPT

end GuestComponents.KbsProtocol
