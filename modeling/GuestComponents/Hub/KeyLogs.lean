import GuestComponents.Hub.AnnotationPacket
import GuestComponents.Hub.Secret
import GuestComponents.Hub.UnwrapExchange
import GuestComponents.Lib.Logged

/-! What the hub logs while it unwraps a key or unseals an envelope: the lines of the first version of
the annotation packet, of the `un_wrap_key` service and of the crypto crate, with their levels. A KEK
that a KBS client has fetched is logged in full, and so is every key that the OpenSSL back end decrypts
with under AES-GCM; nothing else that is logged depends on a key (`logs_tell_iff`). -/
namespace GuestComponents.Hub
open Lib Lib.Text Crypto
open KbsProtocol (ResourceUri Url)
open KeyProvider (KeyProviderInput)

/-- `log::Level`. -/
inductive Level where
  | error
  | info
  | debug
deriving DecidableEq

structure LogLine where
  level : Level
  text : Text
deriving DecidableEq

def atInfo (line : LogLine) : Bool := line.level != .debug

/-- The features of the crypto crate. -/
inductive Build where
  | rustCrypto (crates : RustCrates)
  | openssl (crate : OpenSsl)

def Build.backend : Build → Backend
  | .rustCrypto crates => crates.backend
  | .openssl crate => crate.backend

/-- What the hub is built with and reads with. -/
structure Site where
  parse : Text → Option Url
  build : Build
  fromSlice : List UInt8 → Except String Json
  /-- The error of a text that is no base64. -/
  decodeError : Text → Text

/-- The messages of an error and of those that caused it. -/
abbrev Chain := List Text

/-- `format_error!`. -/
def formatError (chain : Chain) : Text := "\nCaused by: ".toList.intercalate chain

abbrev LoggedCall := Logged LogLine (Fault Chain)

def info (text : Text) : LoggedCall Unit := .tell ⟨.info, text⟩

section Texts

def digits (n : Nat) : Text := Nat.toDigits 10 n

/-- `{:#?}` of a list of bytes. -/
def debugPretty : List UInt8 → Text
  | [] => "[]".toList
  | bytes => "[\n".toList ++ (bytes.flatMap fun b => "    ".toList ++ digits b.toNat ++ ",\n".toList) ++ "]".toList

/-- `{:02x?}` of a slice of bytes. -/
def debugHex (bytes : List UInt8) : Text :=
  '[' :: ", ".toList.intercalate (bytes.map fun b => hexEncode [b]) ++ "]".toList

/-- `{:?}` of a character in a string. Those beyond ASCII that are not printable are in no URL. -/
def debugChar (c : Char) : Text :=
  if c = '\x00' then "\\0".toList
  else if c = '\t' then "\\t".toList
  else if c = '\r' then "\\r".toList
  else if c = '\n' then "\\n".toList
  else if c = '"' ∨ c = '\\' then ['\\', c]
  else if c.toNat < 0x20 ∨ c.toNat = 0x7F then "\\u\x7b".toList ++ Nat.toDigits 16 c.toNat ++ "\x7d".toList
  else [c]

def debugStr (text : Text) : Text := '"' :: text.flatMap debugChar ++ ['"']

end Texts

section Crypto

/-- What `symmetric.rs::decrypt` writes: `native/aes256gcm.rs` has the length of the key and its bytes
before it decrypts. -/
def Build.decryptLines (build : Build) (key ciphertext : List UInt8) (wrapType : WrapType) : List LogLine :=
  match build, wrapType with
  | .openssl _, .aes256Gcm =>
    if ciphertext.length < OpenSsl.TAG_LENGTH then []
    else [⟨.info, "The length of the key: ".toList ++ digits key.length⟩,
      ⟨.info, "Key bytes (hex): ".toList ++ debugHex key⟩]
  | _, _ => []

/-- `symmetric.rs::decrypt`. -/
def Build.decrypt (build : Build) (key ciphertext iv : List UInt8) (wrapType : WrapType) :
    Logged LogLine (Fault String) (List UInt8) :=
  ⟨build.decryptLines key ciphertext wrapType, build.backend.decrypt key iv ciphertext wrapType⟩

/-- An error of the crate as the cause of another. -/
def decryptFailed (context : String) : Fault String → Fault Chain
  | .error message => .error [context.toList, message.toList]
  | .panic message => .panic message

end Crypto

section Calls

variable (site : Site) (kms : Kms)

/-- `Error::KmsError`, with the error of the KMS and its causes. -/
def kmsError (context cause : String) : Chain := [s!"kms interface when {context}".toList, cause.toList]

def fromKms {α : Type} (context : String) (result : Except String α) : LoggedCall α :=
  .ofExcept (Fault.ofResult (kmsError context) result)

/-- `STANDARD.decode`, with `Error::Base64DecodeFailed`. -/
def decodeBase64 (context : String) (text : Text) : LoggedCall (List UInt8) :=
  .ofExcept (Fault.okOr [s!"base64 decoding failed when {context}".toList, site.decodeError text] (Base64.decode text))

/-- `v1.rs::unwrap_key`, with what it logs. -/
def V1.AnnotationPacket.unwrapKeyLogged (self : V1.AnnotationPacket) : LoggedCall (List UInt8) :=
  match wrapTypeTryFrom self.wrapType with
  | none => .ofExcept (Fault.fail ["Unknown WrapType: ".toList ++ self.wrapType])
  | some wrapType => do
    fromKms "create KBC failed" kms.newClient
    let name := self.kid.wholeUri
    info ("name=".toList ++ debugStr name)
    let kek ← fromKms "get KEK failed" (getSecret site.parse kms name)
    info ("kek=".toList ++ debugPretty kek)
    let wrappedData ← decodeBase64 site "decode `wrapped_data`" self.wrappedData
    let iv ← decodeBase64 site "decode `iv`" self.iv
    let lek ← (site.build.decrypt kek wrappedData iv wrapType).mapError (decryptFailed "decrypt LEK using KEK failed")
    info ("lek=".toList ++ debugPretty lek)
    pure lek

/-- The messages of an error of the image module. -/
def chainOf : Error → Chain
  | .unknownWrapType wrapType => ["Unknown WrapType: ".toList ++ wrapType]
  | .kmsError context cause => kmsError context cause
  | .base64DecodeFailed context => [s!"base64 decoding failed when {context}".toList]
  | .decryptFailed cause => ["decrypt LEK using KEK failed".toList, cause.toList]
  | .parseAnnotationPacket cause => ["malwared AnnotationPacket format".toList, cause.toList]

def faultChain : Fault Error → Fault Chain
  | .error error => .error (chainOf error)
  | .panic message => .panic message

/-- `v2.rs::unwrap_key`, with what it logs. -/
def AnnotationPacket.unwrapKeyLogged (self : AnnotationPacket) : LoggedCall (List UInt8) :=
  if self.provider = "kbs".toList then do
    let annoV1 ← (Logged.ofExcept (self.tryInto site.parse)).mapError faultChain
    annoV1.unwrapKeyLogged site kms
  else do
    let kmsClient ← fromKms "create KMS client" (kms.newDecryptor self.provider self.providerSettings)
    let wrappedData ← decodeBase64 site "base64 decode `wrapped_data`" self.wrappedData
    fromKms "decrypt LEK with KEK" (kms.decrypt kmsClient wrappedData self.kid self.annotations)

/-- The packet of `image/mod.rs::unwrap_key`. -/
def readPacket (annotationPacket : List UInt8) : Except (Fault Error) AnnotationPacket :=
  match site.fromSlice annotationPacket >>= AnnotationPacket.ofJson with
  | .error e => Fault.fail (.parseAnnotationPacket s!"deserialize failed, {e}")
  | .ok packet => .ok packet

/-- `hub.rs::unwrap_key`. -/
def hubUnwrapKey (annotationPacket : List UInt8) : LoggedCall (List UInt8) := do
  info "unwrap key called".toList
  let packet ← (Logged.ofExcept (readPacket site annotationPacket)).mapError faultChain
  packet.unwrapKeyLogged site kms

/-- The line for an error of the hub. A panic leaves none. -/
def unwrapFailedLines : Fault Chain → List LogLine
  | .error chain => [⟨.error, "[ttRPC CDH] UnWrapKey :\n".toList ++
      formatError ("decrypt image (unwrap key) failed".toList :: chain)⟩]
  | .panic _ => []

/-- The status that answers a request. -/
def statusOf (message : String) : Fault Chain → Fault String
  | .error _ => .error message
  | .panic text => .panic text

/-- The end of `un_wrap_key`. The output always serializes. -/
def replyWith (decryptedOptsdata : List UInt8) : Logged LogLine (Fault String) Json := do
  .tell ⟨.debug, "[ttRPC CDH] unwrap key succeeded.".toList⟩
  pure (KeyUnwrapOutput.toJson ⟨⟨decryptedOptsdata⟩⟩)

/-- `un_wrap_key` of the service. -/
def unWrapKeyLogged (request : List UInt8) : Logged LogLine (Fault String) Json := do
  .tell ⟨.debug, "[ttRPC CDH] get new UnWrapKey request".toList⟩
  let keyProviderInput ← (Logged.ofExcept (site.fromSlice request >>= KeyProviderInput.ofJson)).onError
    (fun e => [⟨.error, "[ttRPC CDH] UnwrapKey parse KeyProviderInput failed : ".toList ++ e.toList⟩])
    fun _ => .error "[ERROR] UnwrapKey Parse request failed"
  let annotationPacket ← (Logged.ofExcept ( getAnnotation keyProviderInput)).onError
    (fun e => [⟨.error, "[ttRPC CDH] UnwrapKey get AnnotationPacket failed: ".toList ++ e.toList⟩])
    fun _ => .error "[ERROR] UnwrapKey Parse request failed"
  .tell ⟨.debug, "[ttRPC CDH] Call CDH to Unwrap Key...".toList⟩
  let decryptedOptsdata ← (hubUnwrapKey site kms annotationPacket).onError unwrapFailedLines
    (statusOf "[CDH] [ERROR]: UnwrapKey failed")
  replyWith decryptedOptsdata

/-- `envelope.rs::unseal`, with what it logs. -/
def EnvelopeSecret.unsealLogged (self : EnvelopeSecret JsonMap) : LoggedCall (List UInt8) := do
  let encDek ← decodeBase64 site "decode `encrypted_key`" self.encryptedKey
  let provider ← fromKms "create KMS provider" (kms.newDecryptor self.provider self.providerSettings)
  let dek ← fromKms "decrypt encryption key" (kms.decrypt provider encDek self.keyId self.annotations)
  let iv ← decodeBase64 site "decode iv" self.iv
  let encryptedData ← decodeBase64 site "decode encrypted_data" self.encryptedData
  (site.build.decrypt dek encryptedData iv self.wrapType).mapError (decryptFailed "decrypt envelope")

end Calls

section Outcomes

variable {site : Site} {kms : Kms} {lek : List UInt8}

theorem fromKms_ok {α : Type} {context : String} {result : Except String α} {value : α} :
    (fromKms context result).outcome = .ok value ↔ result = .ok value := Fault.ofResult_ok

theorem decodeBase64_ok {context : String} {text : Text} {bytes : List UInt8} :
    (decodeBase64 site context text).outcome = .ok bytes ↔ Base64.decode text = some bytes := Fault.okOr_ok

/-- What is logged changes nothing of what the first version returns. -/
theorem V1.unwrapKeyLogged_ok {packet : V1.AnnotationPacket} :
    (packet.unwrapKeyLogged site kms).outcome = .ok lek ↔
      packet.unwrapKey site.parse kms site.build.backend = .ok lek := by
  rw [V1.AnnotationPacket.unwrapKey_ok]
  unfold V1.AnnotationPacket.unwrapKeyLogged
  cases wrapTypeTryFrom packet.wrapType with
  | none => simp [Logged.ofExcept, Fault.fail]
  | some wrapType =>
    simp only [Logged.bind_outcome_ok, fromKms_ok, decodeBase64_ok, Logged.mapError_ok]
    constructor
    · rintro ⟨_, client, _, _, kek, fetched, _, _, wrappedData, data, iv, vector, opened, decrypted, _, _, returned⟩
      cases returned
      exact ⟨wrapType, kek, wrappedData, iv, rfl, client, fetched, data, vector, decrypted⟩
    · rintro ⟨_, kek, wrappedData, iv, named, client, fetched, data, vector, decrypted⟩
      cases named
      exact ⟨(), client, (), rfl, kek, fetched, (), rfl, wrappedData, data, iv, vector, lek, decrypted, (), rfl, rfl⟩

/-- Nor of what the second version returns. -/
theorem unwrapKeyLogged_ok {packet : AnnotationPacket} :
    (packet.unwrapKeyLogged site kms).outcome = .ok lek ↔
      packet.unwrapKey site.parse kms site.build.backend = .ok lek := by
  unfold AnnotationPacket.unwrapKeyLogged AnnotationPacket.unwrapKey
  split
  · simp only [Logged.bind_outcome_ok, Logged.mapError_ok, bind_ok, V1.unwrapKeyLogged_ok]
    rfl
  · simp only [Logged.bind_outcome_ok, fromKms_ok, decodeBase64_ok, bind_ok, Fault.ofResult_ok, Fault.okOr_ok]

end Outcomes

section Texts

theorem debugPretty_injective {bytes bytes' : List UInt8} (same : debugPretty bytes = debugPretty bytes') :
    bytes = bytes' := by
  have noComma (b : UInt8) : ',' ∉ "    ".toList ++ digits b.toNat := by
    intro listed
    rcases List.mem_append.mp listed with blank | digit
    · exact absurd blank (by decide)
    · exact absurd (Nat.isDigit_of_mem_toDigits (by decide) (by decide) digit) (by decide)
  have items : ∀ bytes bytes' : List UInt8,
      (bytes.flatMap fun b => "    ".toList ++ digits b.toNat ++ ",\n".toList) ++ "]".toList =
        (bytes'.flatMap fun b => "    ".toList ++ digits b.toNat ++ ",\n".toList) ++ "]".toList → bytes = bytes' := by
    intro bytes
    induction bytes with
    | nil =>
      intro bytes' same
      cases bytes' with
      | nil => rfl
      | cons b rest => exact absurd (List.cons.inj same).1 (by decide)
    | cons b rest ih =>
      intro bytes' same
      cases bytes' with
      | nil => exact absurd (List.cons.inj same).1 (by decide)
      | cons b' rest' =>
        rw [List.flatMap_cons, List.flatMap_cons, show ",\n".toList = [',', '\n'] from rfl] at same
        simp only [List.append_assoc, List.cons_append] at same
        rw [← List.append_assoc, ← List.append_assoc] at same
        obtain ⟨number, later⟩ := separated_inj (noComma b) (noComma b') same
        have value := congrArg (Nat.ofDigitChars 10 · 0) (List.append_cancel_left number)
        have here : b = b' := UInt8.toNat_inj.mp (by simpa [digits] using value)
        rw [here, ih rest' (List.cons.inj later).2]
  cases bytes with
  | nil =>
    cases bytes' with
    | nil => rfl
    | cons b rest => exact absurd (List.cons.inj (List.cons.inj same).2).1 (by decide)
  | cons b rest =>
    cases bytes' with
    | nil => exact absurd (List.cons.inj (List.cons.inj same).2).1 (by decide)
    | cons b' rest' =>
      rw [debugPretty, debugPretty, List.append_assoc, List.append_assoc] at same
      · exact items _ _ (List.append_cancel_left same)
      · exact List.cons_ne_nil _ _
      · exact List.cons_ne_nil _ _

/-- The digits of the bytes are all of their text that are digits. -/
theorem filter_debugHex (bytes : List UInt8) :
    ((debugHex bytes).filter fun c => (hexValue c).isSome) = hexEncode bytes := by
  have digit (b : UInt8) : ((hexEncode [b]).filter fun c => (hexValue c).isSome) = hexEncode [b] := by
    refine List.filter_eq_self.mpr fun c listed => ?_
    have below : b.toNat < 256 := b.toNat_lt
    have high : b.toNat / 16 < 16 := by omega
    have low : b.toNat % 16 < 16 := Nat.mod_lt _ (by decide)
    simp only [hexEncode, List.flatMap_cons, List.flatMap_nil, List.append_nil, List.mem_cons, List.not_mem_nil,
      or_false] at listed
    rcases listed with rfl | rfl
    · rw [hexValue_hexDigit high]
      rfl
    · rw [hexValue_hexDigit low]
      rfl
  have joined : ((", ".toList.intercalate (bytes.map fun b => hexEncode [b])).filter fun c => (hexValue c).isSome) =
      hexEncode bytes := by
    induction bytes with
    | nil => rfl
    | cons b rest ih =>
      have split : hexEncode (b :: rest) = hexEncode [b] ++ hexEncode rest := hexEncode_append [b] rest
      cases rest with
      | nil => simpa using digit b
      | cons next rest =>
        rw [List.map_cons, List.intercalate_cons_of_ne_nil (by simp), List.filter_append, List.filter_append,
          ih, digit, split]
        rfl
  rw [debugHex, List.filter_append, List.filter_cons_of_neg (by decide), joined]
  exact List.append_nil _

theorem debugHex_injective {bytes bytes' : List UInt8} (same : debugHex bytes = debugHex bytes') : bytes = bytes' := by
  have digits : hexEncode bytes = hexEncode bytes' := by rw [← filter_debugHex, same, filter_debugHex]
  have decoded := hexDecode_hexEncode bytes
  rw [digits, hexDecode_hexEncode] at decoded
  exact (Option.some.inj decoded).symm

end Texts

section Runs

variable {site : Site} {kms kms' : Kms} {α β : Type} {related : α → β → Prop} {result : Except String α}
  {result' : Except String β} {next : α → LoggedCall (List UInt8)} {next' : β → LoggedCall (List UInt8)}

def SameLength (bytes bytes' : List UInt8) : Prop := bytes.length = bytes'.length

theorem both_fault {toError : String → Chain} (both : Both related result result') :
    Both related (Fault.ofResult toError result) (Fault.ofResult toError result') := by
  rcases both.cases with ⟨value, value', rfl, rfl, known⟩ | ⟨error, rfl, rfl⟩
  · exact known
  · exact rfl

theorem shown_fromKms_bind_eq {context : String} (both : Both related result result') :
    Logged.shown atInfo (fromKms context result >>= next) = Logged.shown atInfo (fromKms context result' >>= next') ↔
      ∀ value value', result = .ok value → result' = .ok value' →
        Logged.shown atInfo (next value) = Logged.shown atInfo (next' value') := by
  refine (Logged.shown_ofExcept_bind_eq (both_fault both)).trans ?_
  simp only [Fault.ofResult_ok]

theorem shown_info_bind_eq {text text' : Text} {next next' : Unit → LoggedCall (List UInt8)} :
    Logged.shown atInfo (info text >>= next) = Logged.shown atInfo (info text' >>= next') ↔
      text = text' ∧ Logged.shown atInfo (next ()) = Logged.shown atInfo (next' ()) := by
  refine (Logged.shown_tell_bind_eq rfl rfl).trans ?_
  rw [LogLine.mk.injEq, and_iff_right rfl]

/-- Two runs of the first version in which the replies differ in the bytes of keys only, and every step
ends alike. -/
structure V1.AlikeRuns (site : Site) (kms kms' : Kms) (packet : V1.AnnotationPacket) : Prop where
  client : Both (fun _ _ => True) kms.newClient kms'.newClient
  kek : Both SameLength (getSecret site.parse kms packet.kid.wholeUri) (getSecret site.parse kms' packet.kid.wholeUri)
  lek : ∀ {wrapType kek kek' wrappedData iv}, wrapTypeTryFrom packet.wrapType = some wrapType →
    getSecret site.parse kms packet.kid.wholeUri = .ok kek →
    getSecret site.parse kms' packet.kid.wholeUri = .ok kek' →
      Base64.decode packet.wrappedData = some wrappedData → Base64.decode packet.iv = some iv →
        Both SameLength (site.build.backend.decrypt kek iv wrappedData wrapType)
          (site.build.backend.decrypt kek' iv wrappedData wrapType)

/-- The KEK of the packet is fetched in both runs, and is another one. -/
def V1.Tells (site : Site) (kms kms' : Kms) (packet : V1.AnnotationPacket) : Prop :=
  ∃ wrapType kek kek', wrapTypeTryFrom packet.wrapType = some wrapType ∧ kms.newClient = .ok () ∧
    getSecret site.parse kms packet.kid.wholeUri = .ok kek ∧
    getSecret site.parse kms' packet.kid.wholeUri = .ok kek' ∧
      kek ≠ kek'

theorem V1.shown_eq_iff {packet : V1.AnnotationPacket} (alike : V1.AlikeRuns site kms kms' packet) :
    Logged.shown atInfo (packet.unwrapKeyLogged site kms) = Logged.shown atInfo (packet.unwrapKeyLogged site kms') ↔
      ¬ V1.Tells site kms kms' packet := by
  unfold V1.AnnotationPacket.unwrapKeyLogged
  cases named : wrapTypeTryFrom packet.wrapType with
  | none =>
    refine iff_of_true rfl ?_
    rintro ⟨wrapType, _, _, other, _⟩
    rw [named] at other
    cases other
  | some wrapType =>
    dsimp only
    rw [shown_fromKms_bind_eq alike.client]
    simp only [shown_info_bind_eq, shown_fromKms_bind_eq alike.kek]
    constructor
    · rintro same ⟨_, kek, kek', _, made, fetched, fetched', differs⟩
      rcases alike.client.cases with ⟨_, _, _, made', _⟩ | ⟨error, failed, _⟩
      · have told := ((same () () made made').2 kek kek' fetched fetched').1
        exact differs (debugPretty_injective (List.append_cancel_left told))
      · rw [made] at failed
        cases failed
    · intro silent _ _ made _
      refine ⟨trivial, fun kek kek' fetched fetched' => ?_⟩
      have same : kek = kek' := by
        by_contra differs
        exact silent ⟨wrapType, kek, kek', named, made, fetched, fetched', differs⟩
      subst same
      exact ⟨rfl, rfl⟩

/-- Both runs of the first version end alike. -/
theorem V1.both_outcomes {packet : V1.AnnotationPacket} (alike : V1.AlikeRuns site kms kms' packet) :
    Both SameLength (packet.unwrapKeyLogged site kms).outcome (packet.unwrapKeyLogged site kms').outcome := by
  unfold V1.AnnotationPacket.unwrapKeyLogged
  cases named : wrapTypeTryFrom packet.wrapType with
  | none => exact rfl
  | some wrapType =>
    refine Logged.both_bind_outcome (both_fault alike.client) fun _ _ _ _ => ?_
    refine Logged.both_same_bind_outcome fun _ _ => ?_
    refine Logged.both_bind_outcome (both_fault alike.kek) fun kek kek' fetched fetched' => ?_
    refine Logged.both_bind_outcome (both_refl (.ok ())) fun _ _ _ _ => ?_
    refine Logged.both_same_bind_outcome fun wrappedData data => ?_
    refine Logged.both_same_bind_outcome fun iv vector => ?_
    have decrypts :=
      alike.lek named (Fault.ofResult_ok.mp fetched) (Fault.ofResult_ok.mp fetched') (Fault.okOr_ok.mp data)
      (Fault.okOr_ok.mp vector)
    refine Logged.both_bind_outcome (Logged.both_mapError decrypts) fun lek lek' opened opened' => ?_
    have lek_ : site.build.backend.decrypt kek iv wrappedData wrapType = .ok lek := Logged.mapError_ok.mp opened
    have lek_' : site.build.backend.decrypt kek' iv wrappedData wrapType = .ok lek' := Logged.mapError_ok.mp opened'
    rw [lek_, lek_'] at decrypts
    exact decrypts

/-- Two runs of the second version in which the replies differ in the bytes of keys only. -/
structure AlikeRuns (site : Site) (kms kms' : Kms) (packet : AnnotationPacket) : Prop where
  kbs : packet.provider = "kbs".toList → ∀ {annoV1}, packet.tryInto site.parse = .ok annoV1 →
    V1.AlikeRuns site kms kms' annoV1
  client : packet.provider ≠ "kbs".toList → Both (fun _ _ => True)
    (kms.newDecryptor packet.provider packet.providerSettings)
      (kms'.newDecryptor packet.provider packet.providerSettings)
  lek : packet.provider ≠ "kbs".toList → ∀ {client client' wrappedData},
    kms.newDecryptor packet.provider packet.providerSettings = .ok client →
      kms'.newDecryptor packet.provider packet.providerSettings = .ok client' →
        Base64.decode packet.wrappedData = some wrappedData →
          Both SameLength (kms.decrypt client wrappedData packet.kid packet.annotations)
            (kms'.decrypt client' wrappedData packet.kid packet.annotations)

/-- It is a packet for the first version that tells its KEK. -/
def Tells (site : Site) (kms kms' : Kms) (packet : AnnotationPacket) : Prop :=
  packet.provider = "kbs".toList ∧ ∃ annoV1, packet.tryInto site.parse = .ok annoV1 ∧ V1.Tells site kms kms' annoV1

theorem tryInto_outcome {packet : AnnotationPacket} {annoV1 : V1.AnnotationPacket} :
    ((Logged.ofExcept (L := LogLine) (packet.tryInto site.parse)).mapError faultChain).outcome = .ok annoV1 ↔
      packet.tryInto site.parse = .ok annoV1 :=
  Logged.mapError_ok

theorem shown_eq_iff {packet : AnnotationPacket} (alike : AlikeRuns site kms kms' packet) :
    Logged.shown atInfo (packet.unwrapKeyLogged site kms) = Logged.shown atInfo (packet.unwrapKeyLogged site kms') ↔
      ¬ Tells site kms kms' packet := by
  unfold AnnotationPacket.unwrapKeyLogged
  by_cases provider : packet.provider = "kbs".toList
  · rw [if_pos provider, if_pos provider, Logged.shown_same_bind_eq]
    simp only [tryInto_outcome]
    constructor
    · rintro same ⟨_, annoV1, converted, tells⟩
      exact (V1.shown_eq_iff (alike.kbs provider converted)).mp (same annoV1 converted) tells
    · intro silent annoV1 converted
      exact (V1.shown_eq_iff (alike.kbs provider converted)).mpr fun tells =>
        silent ⟨provider, annoV1, converted, tells⟩
  · rw [if_neg provider, if_neg provider, shown_fromKms_bind_eq (alike.client provider)]
    refine iff_of_true ?_ fun tells => provider tells.1
    intro client client' _ _
    exact Logged.shown_same_bind_eq.mpr fun _ _ => rfl

theorem both_outcomes {packet : AnnotationPacket} (alike : AlikeRuns site kms kms' packet) :
    Both SameLength (packet.unwrapKeyLogged site kms).outcome (packet.unwrapKeyLogged site kms').outcome := by
  unfold AnnotationPacket.unwrapKeyLogged
  by_cases provider : packet.provider = "kbs".toList
  · rw [if_pos provider, if_pos provider]
    exact Logged.both_same_bind_outcome fun annoV1 converted =>
      V1.both_outcomes (alike.kbs provider (tryInto_outcome.mp converted))
  · rw [if_neg provider, if_neg provider]
    refine Logged.both_bind_outcome (both_fault (alike.client provider)) fun client client' made made' => ?_
    refine Logged.both_same_bind_outcome fun wrappedData data => ?_
    exact both_fault
      (alike.lek provider (Fault.ofResult_ok.mp made) (Fault.ofResult_ok.mp made') (Fault.okOr_ok.mp data))

/-- A request asks for a packet to be unwrapped. -/
def Asks (site : Site) (request : List UInt8) (packet : AnnotationPacket) : Prop :=
  ∃ keyProviderInput annotationPacket, (site.fromSlice request >>= KeyProviderInput.ofJson) = .ok keyProviderInput ∧
    getAnnotation keyProviderInput = .ok annotationPacket ∧ readPacket site annotationPacket = .ok packet

theorem readPacket_outcome {annotationPacket : List UInt8} {packet : AnnotationPacket} :
    ((Logged.ofExcept (L := LogLine) (readPacket site annotationPacket)).mapError faultChain).outcome = .ok packet ↔
      readPacket site annotationPacket = .ok packet :=
  Logged.mapError_ok

theorem shown_hubUnwrapKey_eq_iff {annotationPacket : List UInt8}
    (alike : ∀ {packet}, readPacket site annotationPacket = .ok packet → AlikeRuns site kms kms' packet) :
    Logged.shown atInfo (hubUnwrapKey site kms annotationPacket) = Logged.shown atInfo
      (hubUnwrapKey site kms' annotationPacket) ↔
      ∀ packet, readPacket site annotationPacket = .ok packet → ¬ Tells site kms kms' packet := by
  unfold hubUnwrapKey
  rw [shown_info_bind_eq, and_iff_right rfl, Logged.shown_same_bind_eq]
  simp only [readPacket_outcome]
  exact forall_congr' fun packet => forall_congr' fun read => shown_eq_iff (alike read)

theorem both_hubUnwrapKey {annotationPacket : List UInt8}
    (alike : ∀ {packet}, readPacket site annotationPacket = .ok packet → AlikeRuns site kms kms' packet) :
    Both SameLength (hubUnwrapKey site kms annotationPacket).outcome
      (hubUnwrapKey site kms' annotationPacket).outcome := by
  unfold hubUnwrapKey
  refine Logged.both_same_bind_outcome fun _ _ => ?_
  exact Logged.both_same_bind_outcome fun packet read => both_outcomes (alike (readPacket_outcome.mp read))

/-- The service logs as the packet of the request is unwrapped. -/
theorem shown_unWrapKey_eq_iff {request : List UInt8}
    (alike : ∀ {packet}, Asks site request packet → AlikeRuns site kms kms' packet) :
    Logged.shown atInfo (unWrapKeyLogged site kms request) = Logged.shown atInfo (unWrapKeyLogged site kms' request) ↔
      ∀ packet, Asks site request packet → ¬ Tells site kms kms' packet := by
  have served {keyProviderInput : KeyProviderInput} {annotationPacket : List UInt8}
      (parsed : (site.fromSlice request >>= KeyProviderInput.ofJson) = .ok keyProviderInput)
      (got : getAnnotation keyProviderInput = .ok annotationPacket) :
      Logged.shown atInfo ((hubUnwrapKey site kms annotationPacket).onError unwrapFailedLines
            (statusOf "[CDH] [ERROR]: UnwrapKey failed") >>= replyWith) =
          Logged.shown atInfo ((hubUnwrapKey site kms' annotationPacket).onError unwrapFailedLines
            (statusOf "[CDH] [ERROR]: UnwrapKey failed") >>= replyWith) ↔
        ∀ packet, readPacket site annotationPacket = .ok packet → ¬ Tells site kms kms' packet := by
    have alike_ {packet : AnnotationPacket} (read : readPacket site annotationPacket = .ok packet) :
        AlikeRuns site kms kms' packet := alike ⟨keyProviderInput, annotationPacket, parsed, got, read⟩
    have silent (optsdata : List UInt8) : Logged.shown atInfo (replyWith optsdata) = [] := rfl
    rw [Logged.shown_bind_silent silent, Logged.shown_bind_silent silent,
      Logged.shown_onError_eq (both_hubUnwrapKey alike_)]
    exact shown_hubUnwrapKey_eq_iff alike_
  unfold unWrapKeyLogged
  simp only [Logged.shown_same_bind_eq, Logged.onError_ok]
  constructor
  · rintro same packet ⟨keyProviderInput, annotationPacket, parsed, got, read⟩
    exact (served parsed got).mp (same () rfl keyProviderInput parsed annotationPacket got () rfl) packet read
  · intro silent _ _ keyProviderInput parsed annotationPacket got _ _
    exact (served parsed got).mpr fun packet read =>
      silent packet ⟨keyProviderInput, annotationPacket, parsed, got, read⟩

/-- Two runs of an unsealing in which the replies differ in the bytes of keys only. -/
structure EnvelopeSecret.AlikeRuns (kms kms' : Kms) (secret : EnvelopeSecret JsonMap) : Prop where
  client : Both (fun _ _ => True) (kms.newDecryptor secret.provider secret.providerSettings)
    (kms'.newDecryptor secret.provider secret.providerSettings)
  dek : ∀ {provider provider' encDek}, kms.newDecryptor secret.provider secret.providerSettings = .ok provider →
    kms'.newDecryptor secret.provider secret.providerSettings = .ok provider' →
      Base64.decode secret.encryptedKey = some encDek →
        Both SameLength (kms.decrypt provider encDek secret.keyId secret.annotations)
          (kms'.decrypt provider' encDek secret.keyId secret.annotations)

def Build.isOpenssl : Build → Bool
  | .rustCrypto _ => false
  | .openssl _ => true

/-- The OpenSSL back end decrypts with another DEK under AES-GCM. -/
def EnvelopeSecret.Tells (site : Site) (kms kms' : Kms) (secret : EnvelopeSecret JsonMap) : Prop :=
  site.build.isOpenssl = true ∧ secret.wrapType = .aes256Gcm ∧
    ∃ encDek provider provider' dek dek' iv encryptedData, Base64.decode secret.encryptedKey = some encDek ∧
      kms.newDecryptor secret.provider secret.providerSettings = .ok provider ∧
      kms'.newDecryptor secret.provider secret.providerSettings = .ok provider' ∧
      kms.decrypt provider encDek secret.keyId secret.annotations = .ok dek ∧
      kms'.decrypt provider' encDek secret.keyId secret.annotations = .ok dek' ∧
      Base64.decode secret.iv = some iv ∧ Base64.decode secret.encryptedData = some encryptedData ∧
      OpenSsl.TAG_LENGTH ≤ encryptedData.length ∧ dek ≠ dek'

/-- What is written for a decryption has the key in it under AES-GCM with OpenSSL. -/
theorem decryptLines_eq_iff {build : Build} {key key' ciphertext : List UInt8} {wrapType : WrapType} :
    (build.decryptLines key ciphertext wrapType).filter atInfo =
      (build.decryptLines key' ciphertext wrapType).filter atInfo ↔
      (build.isOpenssl = true → wrapType = .aes256Gcm → OpenSsl.TAG_LENGTH ≤ ciphertext.length →
        key = key') := by
  cases build with
  | rustCrypto crates => exact iff_of_true rfl nofun
  | openssl crate =>
    cases wrapType with
    | aes256Ctr => exact iff_of_true rfl nofun
    | aes256Gcm =>
      rw [Build.decryptLines, Build.decryptLines]
      split
      · rename_i short
        exact iff_of_true rfl fun _ _ long => absurd short (Nat.not_lt.mpr long)
      · rename_i long
        constructor
        · intro same _ _ _
          have told : "Key bytes (hex): ".toList ++ debugHex key = "Key bytes (hex): ".toList ++ debugHex key' :=
            congrArg LogLine.text (List.cons.inj (List.cons.inj same).2).1
          exact debugHex_injective (List.append_cancel_left told)
        · intro same
          rw [same rfl rfl (Nat.not_lt.mp long)]

theorem EnvelopeSecret.shown_eq_iff {secret : EnvelopeSecret JsonMap} (alike : secret.AlikeRuns kms kms') :
    Logged.shown atInfo (secret.unsealLogged site kms) = Logged.shown atInfo (secret.unsealLogged site kms') ↔
      ¬ secret.Tells site kms kms' := by
  have ending (dek dek' iv encryptedData : List UInt8) :
      Logged.shown atInfo
        ((site.build.decrypt dek encryptedData iv secret.wrapType).mapError (decryptFailed "decrypt envelope")) =
          Logged.shown atInfo ((site.build.decrypt dek' encryptedData iv secret.wrapType).mapError
            (decryptFailed "decrypt envelope")) ↔
        (site.build.isOpenssl = true → secret.wrapType = .aes256Gcm →
          OpenSsl.TAG_LENGTH ≤ encryptedData.length → dek = dek') :=
    decryptLines_eq_iff
  unfold EnvelopeSecret.unsealLogged
  simp only [Logged.shown_same_bind_eq, decodeBase64_ok, shown_fromKms_bind_eq alike.client]
  constructor
  · rintro same ⟨openssl, gcm, encDek, provider, provider', dek, dek', iv, data, key, made, made',
      got, got', vector, cipher,
      long, differs⟩
    have later := (shown_fromKms_bind_eq (alike.dek made made' key)).mp (same encDek key provider provider' made made')
      dek dek' got got'
    rw [Logged.shown_same_bind_eq] at later
    have last := later iv (decodeBase64_ok.mpr vector)
    rw [Logged.shown_same_bind_eq] at last
    exact differs ((ending dek dek' iv data).mp (last data (decodeBase64_ok.mpr cipher)) openssl gcm long)
  · intro silent encDek key provider provider' made made'
    rw [shown_fromKms_bind_eq (alike.dek made made' key)]
    intro dek dek' got got'
    rw [Logged.shown_same_bind_eq]
    intro iv vector
    rw [Logged.shown_same_bind_eq]
    intro data cipher
    refine (ending dek dek' iv data).mpr fun openssl gcm long => ?_
    by_contra differs
    exact silent ⟨openssl, gcm, encDek, provider, provider', dek, dek', iv, data, key, made, made', got, got',
      decodeBase64_ok.mp vector, decodeBase64_ok.mp cipher, long, differs⟩

/-- Two runs whose replies differ in the bytes of keys only show the same lines, at the level of
information and above, exactly where no packet tells its KEK and no envelope its DEK. -/
theorem logs_tell_iff (site : Site) (kms kms' : Kms) :
    (∀ packet : V1.AnnotationPacket, V1.AlikeRuns site kms kms' packet →
      (Logged.shown atInfo (packet.unwrapKeyLogged site kms) = Logged.shown atInfo (packet.unwrapKeyLogged site kms') ↔
        ¬ V1.Tells site kms kms' packet)) ∧
    (∀ packet : AnnotationPacket, AlikeRuns site kms kms' packet →
      (Logged.shown atInfo (packet.unwrapKeyLogged site kms) = Logged.shown atInfo (packet.unwrapKeyLogged site kms') ↔
        ¬ Tells site kms kms' packet)) ∧
    (∀ request : List UInt8, (∀ packet, Asks site request packet → AlikeRuns site kms kms' packet) →
      (Logged.shown atInfo (unWrapKeyLogged site kms request) = Logged.shown atInfo
        (unWrapKeyLogged site kms' request) ↔
        ∀ packet, Asks site request packet → ¬ Tells site kms kms' packet)) ∧
    ∀ secret : EnvelopeSecret JsonMap, secret.AlikeRuns kms kms' →
      (Logged.shown atInfo (secret.unsealLogged site kms) = Logged.shown atInfo (secret.unsealLogged site kms') ↔
        ¬ secret.Tells site kms kms') :=
  ⟨fun _ alike => V1.shown_eq_iff alike, fun _ alike => shown_eq_iff alike,
    fun _ alike => shown_unWrapKey_eq_iff fun {packet} asks => alike packet asks,
    fun _ alike => EnvelopeSecret.shown_eq_iff alike⟩

end Runs

section Samples

/-- OpenSSL where no tag fits. -/
def forgedOpenSsl : OpenSsl where
  RsaKeyPair := Empty
  PrivateKey := Empty
  PublicKey := Empty
  UnwrappingKey := Empty
  n := nofun
  e := nofun
  affineCoordinates := nofun
  privateDecrypt := nofun
  publicKey _ _ := .error "ErrorStack"
  deriveToVec := nofun
  newDecrypt _ := .error "KeyError"
  unwrapKey := nofun
  encryptAead _ _ _ _ _ := .bail "ErrorStack"
  decryptAead _ _ _ _ _ := .bail "ErrorStack"
  encryptCtr _ _ _ := .bail "ErrorStack"
  decryptCtr _ _ _ := .bail "ErrorStack"

def sampleSite : Site where
  parse text := if text = "kbs:///default/key/1".toList
    then some ⟨"kbs".toList, none, none, "/default/key/1".toList, none⟩ else none
  build := .openssl forgedOpenSsl
  fromSlice _ := .error "EOF while parsing a value"
  decodeError _ := "Invalid padding".toList

/-- A KMS that answers with a key. -/
def answering (key : List UInt8) : Kms where
  newClient := .ok ()
  getResource _ := .ok key
  Decryptor := Unit
  newDecryptor _ _ := .ok ()
  decrypt _ _ _ _ := .ok key

def zeroKey : List UInt8 := List.replicate 32 0

def oneKey : List UInt8 := List.replicate 32 1

/-- A packet with a nonce and a tag of zeros around nothing. -/
def forgedPacket : V1.AnnotationPacket where
  kid := ⟨[], "default".toList, "key".toList, "1".toList, none⟩
  wrappedData := Base64.encode (List.replicate 16 0)
  iv := Base64.encode (List.replicate 12 0)
  wrapType := "A256GCM".toList

def forgedSecret : EnvelopeSecret JsonMap where
  keyId := "key".toList
  encryptedKey := Base64.encode (List.replicate 16 0)
  encryptedData := Base64.encode (List.replicate 16 0)
  wrapType := .aes256Gcm
  iv := Base64.encode (List.replicate 12 0)
  provider := "aliyun".toList
  providerSettings := []
  annotations := []

/-- A packet of another provider. -/
def otherPacket : AnnotationPacket where
  version := DEFAULT_VERSION
  kid := "key".toList
  wrappedData := []
  provider := "aliyun".toList
  iv := none
  wrapType := none
  providerSettings := []
  annotations := []

theorem forged_refused (key key' data iv : List UInt8) (wrapType : WrapType) :
    Both SameLength (forgedOpenSsl.backend.decrypt key iv data wrapType)
      (forgedOpenSsl.backend.decrypt key' iv data wrapType) := by
  have same : forgedOpenSsl.backend.decrypt key iv data wrapType =
      forgedOpenSsl.backend.decrypt key' iv data wrapType := by
    cases wrapType <;> rfl
  rw [← same]
  rcases (both_refl (forgedOpenSsl.backend.decrypt key iv data wrapType)).cases with
    ⟨value, _, ended, _⟩ | ⟨error, ended, _⟩
  · rw [ended]
    exact (rfl : value.length = value.length)
  · rw [ended]
    exact (rfl : error = error)

theorem forged_alike : V1.AlikeRuns sampleSite (answering zeroKey) (answering oneKey) forgedPacket where
  client := trivial
  kek := by
    have fetched (key : List UInt8) : getSecret sampleSite.parse
        (answering key) forgedPacket.kid.wholeUri = .ok key := rfl
    rw [fetched, fetched]
    exact (rfl : zeroKey.length = oneKey.length)
  lek _ _ _ _ _ := forged_refused _ _ _ _ _

theorem forgedSecret_alike : forgedSecret.AlikeRuns (answering zeroKey) (answering oneKey) where
  client := trivial
  dek _ _ _ := (rfl : zeroKey.length = oneKey.length)

/-- The forged packet and secret, a packet of another provider, and a request that is none. -/
theorem logs_tell_iff_sample :
    V1.Tells sampleSite (answering zeroKey) (answering oneKey) forgedPacket ∧
    (Logged.shown atInfo (forgedPacket.unwrapKeyLogged sampleSite (answering zeroKey)) =
        Logged.shown atInfo (forgedPacket.unwrapKeyLogged sampleSite (answering oneKey)) ↔
      ¬ V1.Tells sampleSite (answering zeroKey) (answering oneKey) forgedPacket) ∧
    Logged.shown atInfo (otherPacket.unwrapKeyLogged sampleSite (answering zeroKey)) =
      Logged.shown atInfo (otherPacket.unwrapKeyLogged sampleSite (answering oneKey)) ∧
    Logged.shown atInfo (unWrapKeyLogged sampleSite (answering zeroKey) []) =
      Logged.shown atInfo (unWrapKeyLogged sampleSite (answering oneKey) []) ∧
    (Logged.shown atInfo (forgedSecret.unsealLogged sampleSite (answering zeroKey)) =
        Logged.shown atInfo (forgedSecret.unsealLogged sampleSite (answering oneKey)) ↔
      ¬ forgedSecret.Tells sampleSite (answering zeroKey) (answering oneKey)) := by
  obtain ⟨first, second, service, envelope⟩ := logs_tell_iff sampleSite (answering zeroKey) (answering oneKey)
  have other : otherPacket.provider ≠ "kbs".toList := by decide
  refine ⟨⟨.aes256Gcm, zeroKey, oneKey, by decide, rfl, rfl, rfl, by decide⟩, first _ forged_alike,
    (second otherPacket ?_).mpr fun tells => other tells.1, (service [] ?_).mpr ?_, envelope _ forgedSecret_alike⟩
  · exact ⟨fun kbs => absurd kbs other, fun _ => trivial, fun _ _ _ _ _ _ _ =>
      (rfl : zeroKey.length = oneKey.length)⟩
  · rintro packet ⟨_, _, parsed, _⟩
    cases parsed
  · rintro packet ⟨_, _, parsed, _⟩
    cases parsed

/-- Two runs that differ in a key and log other lines: of a packet and of an envelope. -/
theorem keys_logged :
    (V1.AlikeRuns sampleSite (answering zeroKey) (answering oneKey) forgedPacket ∧
      Logged.shown atInfo (forgedPacket.unwrapKeyLogged sampleSite (answering zeroKey)) ≠
        Logged.shown atInfo (forgedPacket.unwrapKeyLogged sampleSite (answering oneKey))) ∧
    forgedSecret.AlikeRuns (answering zeroKey) (answering oneKey) ∧
      Logged.shown atInfo (forgedSecret.unsealLogged sampleSite (answering zeroKey)) ≠
        Logged.shown atInfo (forgedSecret.unsealLogged sampleSite (answering oneKey)) :=
  ⟨⟨forged_alike, by decide +kernel⟩, forgedSecret_alike, by decide +kernel⟩

end Samples

end GuestComponents.Hub
