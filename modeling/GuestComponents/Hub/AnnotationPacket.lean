import GuestComponents.Crypto.Backends
import GuestComponents.KbsProtocol.ResourceUri
import GuestComponents.Lib.Base64
import GuestComponents.Lib.Json
import GuestComponents.Lib.Outcome

/-! The annotation packets of encrypted images and the two ways in which a guest
unwraps one: the hub's (`image/annotation_packet`), which asks a KBS client for the key
that the packet names, and that of the KBC with a file of keys (`offline_fs_kbc`). -/
namespace GuestComponents.Hub
open Lib Crypto
open KbsProtocol (ResourceUri Url)

def DEFAULT_VERSION : Text := "0.1.0".toList

/-- `image/error.rs::Error`. -/
inductive Error where
  | unknownWrapType (wrapType : Text)
  | kmsError (context cause : String)
  | base64DecodeFailed (context : String)
  | decryptFailed (cause : String)
  | parseAnnotationPacket (cause : String)

/-- A call of the hub: a value, an error of its own, or a panic. -/
abbrev Result := Except (Fault Error)

/-- The key management services (the crate `kms`): the KBS client behind `KbcClient`, and the
decryptors of other providers. -/
structure Kms where
  /-- `KbcClient::new`: whether the client that serves all calls can be made. -/
  newClient : Except String Unit
  getResource : ResourceUri → Except String (List UInt8)
  Decryptor : Type
  newDecryptor : (provider : Text) → (settings : JsonMap) → Except String Decryptor
  decrypt : Decryptor → (ciphertext : List UInt8) → (keyid : Text) → (annotations : JsonMap) →
    Except String (List UInt8)

/-- `WrapType::try_from`. -/
def wrapTypeTryFrom (name : Text) : Option WrapType :=
  if name = WrapType.aes256Gcm.asRef then some .aes256Gcm
  else if name = WrapType.aes256Ctr.asRef then some .aes256Ctr
  else none

/-- `KbcClient::get_secret`. -/
def getSecret (parse : Text → Option Url) (kms : Kms) (name : Text) : Except String (List UInt8) :=
  match ResourceUri.tryFrom parse name with
  | .error _ => .error s!"Kbs client error: illegal kbs resource uri: {String.ofList name}"
  | .ok resourceUri => kms.getResource resourceUri

namespace V1

structure AnnotationPacket where
  kid : ResourceUri
  wrappedData : Text
  iv : Text
  wrapType : Text

/-- `v1.rs::unwrap_key`. -/
def AnnotationPacket.unwrapKey (parse : Text → Option Url) (kms : Kms) (backend : Backend)
    (self : AnnotationPacket) : Result (List UInt8) :=
  match wrapTypeTryFrom self.wrapType with
  | none => Fault.fail (.unknownWrapType self.wrapType)
  | some wrapType => do
    Fault.ofResult (.kmsError "create KBC failed") kms.newClient
    let name := self.kid.wholeUri
    let kek ← Fault.ofResult (.kmsError "get KEK failed") (getSecret parse kms name)
    let wrappedData ← Fault.okOr (.base64DecodeFailed "decode `wrapped_data`") (Base64.decode self.wrappedData)
    let iv ← Fault.okOr (.base64DecodeFailed "decode `iv`") (Base64.decode self.iv)
    Fault.ofOutcome .decryptFailed (backend.decrypt kek iv wrappedData wrapType)

variable {parse : Text → Option Url} {kms : Kms} {backend : Backend} {lek : List UInt8}

/-- What a packet is unwrapped with. -/
theorem AnnotationPacket.unwrapKey_ok {self : AnnotationPacket} :
    self.unwrapKey parse kms backend = .ok lek ↔
      ∃ wrapType kek wrappedData iv, wrapTypeTryFrom self.wrapType = some wrapType ∧
        kms.newClient = .ok () ∧ getSecret parse kms self.kid.wholeUri = .ok kek ∧
        Base64.decode self.wrappedData = some wrappedData ∧ Base64.decode self.iv = some iv ∧
        backend.decrypt kek iv wrappedData wrapType = .ok lek := by
  rw [AnnotationPacket.unwrapKey]
  cases wrapTypeTryFrom self.wrapType with
  | none => simp [Fault.fail]
  | some wrapType =>
    constructor
    · intro unwrapped
      obtain ⟨⟨⟩, client, unwrapped⟩ := bind_ok.mp unwrapped
      obtain ⟨kek, secret, unwrapped⟩ := bind_ok.mp unwrapped
      obtain ⟨wrappedData, data, unwrapped⟩ := bind_ok.mp unwrapped
      obtain ⟨iv, vector, unwrapped⟩ := bind_ok.mp unwrapped
      exact ⟨wrapType, kek, wrappedData, iv, rfl, Fault.ofResult_ok.mp client, Fault.ofResult_ok.mp secret,
        Fault.okOr_ok.mp data, Fault.okOr_ok.mp vector, Fault.ofOutcome_ok.mp unwrapped⟩
    · intro ⟨_, kek, wrappedData, iv, named, client, secret, data, vector, decrypted⟩
      cases named
      exact bind_ok.mpr ⟨(), Fault.ofResult_ok.mpr client, bind_ok.mpr ⟨kek, Fault.ofResult_ok.mpr secret,
        bind_ok.mpr ⟨wrappedData, Fault.okOr_ok.mpr data, bind_ok.mpr ⟨iv, Fault.okOr_ok.mpr vector,
          Fault.ofOutcome_ok.mpr decrypted⟩⟩⟩⟩

end V1

/-- `v2.rs::AnnotationPacketV2`. -/
structure AnnotationPacket where
  version : Text
  kid : Text
  wrappedData : Text
  provider : Text
  iv : Option Text
  wrapType : Option Text
  providerSettings : JsonMap
  annotations : JsonMap

namespace AnnotationPacket

def defaultProvider : Text := "kbs".toList

/-- `Deserialize`. -/
def ofJson (value : Json) : Except String AnnotationPacket := do
  let version ← value.fieldOr Json.readString DEFAULT_VERSION "version"
  let kid ← value.field Json.readString "kid"
  let wrappedData ← value.field Json.readString "wrapped_data"
  let provider ← value.fieldOr Json.readString defaultProvider "provider"
  let iv ← value.fieldOr (Json.readOption Json.readString) none "iv"
  let wrapType ← value.fieldOr (Json.readOption Json.readString) none "wrap_type"
  let providerSettings ← value.fieldOr (Json.readMap .ok) [] "provider_settings"
  let annotations ← value.fieldOr (Json.readMap .ok) [] "annotations"
  return { version, kid, wrappedData, provider, iv, wrapType, providerSettings, annotations }

/-- `TryInto` the first version. -/
def tryInto (parse : Text → Option Url) (self : AnnotationPacket) : Result V1.AnnotationPacket :=
  if self.version ≠ DEFAULT_VERSION then
    Fault.fail (.parseAnnotationPacket s!"version` must be {String.ofList DEFAULT_VERSION}.")
  else if self.provider ≠ defaultProvider then
    Fault.fail (.parseAnnotationPacket "Provider must be `kbs`.")
  else match self.wrapType, self.iv with
    | none, _ => Fault.fail (.parseAnnotationPacket "no `WrapType` given.")
    | some _, none => Fault.fail (.parseAnnotationPacket "no `iv` given.")
    | some wrapType, some iv =>
      match ResourceUri.tryFrom parse self.kid with
      | .error e => Fault.fail (.parseAnnotationPacket s!"illegal ResourceUri in `kid` field: \"{e}\"")
      | .ok kid => .ok { kid, wrappedData := self.wrappedData, iv, wrapType }

variable {parse : Text → Option Url}

/-- A packet of this version and this provider, with its two optional fields and an identifier of a
resource. -/
theorem tryInto_ok {self : AnnotationPacket} {packet : V1.AnnotationPacket} :
    self.tryInto parse = .ok packet ↔
      self.version = DEFAULT_VERSION ∧ self.provider = defaultProvider ∧ self.wrapType = some packet.wrapType ∧
        self.iv = some packet.iv ∧ self.wrappedData = packet.wrappedData ∧
        ResourceUri.tryFrom parse self.kid = .ok packet.kid := by
  obtain ⟨kid, wrappedData, iv, wrapType⟩ := packet
  rw [tryInto]
  split
  · rename_i other
    simp [other, Fault.fail]
  · rename_i version
    split
    · rename_i other
      simp [other, Fault.fail]
    · rename_i provider
      split
      · rename_i missing
        simp [missing, Fault.fail]
      · rename_i missing
        simp [missing, Fault.fail]
      · rename_i wrapTypeGiven ivGiven
        cases ResourceUri.tryFrom parse self.kid with
        | error e => simp [Fault.fail]
        | ok uri =>
          simp only [wrapTypeGiven, ivGiven, Except.ok.injEq, Option.some.injEq, V1.AnnotationPacket.mk.injEq]
          constructor
          · intro ⟨sameKid, sameData, sameIv, sameType⟩
            exact ⟨not_not.mp version, not_not.mp provider, sameType, sameIv, sameData, sameKid⟩
          · intro ⟨_, _, sameType, sameIv, sameData, sameKid⟩
            exact ⟨sameKid, sameData, sameIv, sameType⟩

/-- `v2.rs::unwrap_key`. -/
def unwrapKey (parse : Text → Option Url) (kms : Kms) (backend : Backend) (self : AnnotationPacket) :
    Result (List UInt8) :=
  if self.provider = "kbs".toList then do
    let annoV1 ← self.tryInto parse
    annoV1.unwrapKey parse kms backend
  else do
    let decryptor ← Fault.ofResult (.kmsError "create KMS client")
      (kms.newDecryptor self.provider self.providerSettings)
    let wrappedData ← Fault.okOr (.base64DecodeFailed "base64 decode `wrapped_data`") (Base64.decode self.wrappedData)
    Fault.ofResult (.kmsError "decrypt LEK with KEK")
      (kms.decrypt decryptor wrappedData self.kid self.annotations)

end AnnotationPacket

/-- `image/mod.rs::unwrap_key`, on the JSON of a packet. -/
def unwrapKey (parse : Text → Option Url) (kms : Kms) (backend : Backend) (annotationPacket : Json) :
    Result (List UInt8) :=
  match AnnotationPacket.ofJson annotationPacket with
  | .error e => Fault.fail (.parseAnnotationPacket s!"deserialize failed, {e}")
  | .ok packet => packet.unwrapKey parse kms backend

end GuestComponents.Hub

namespace GuestComponents.Kbc
open Lib Crypto
open KbsProtocol (ResourceUri Url)
open Hub (wrapTypeTryFrom)

/-- The characters that serde_json escapes in a string. -/
def escaped (c : Char) : Bool := c = '"' || c = '\\' || c.toNat < 32

/-- `Deserialize` of a `ResourceUri`. It borrows the string from the JSON text, which has the string as
it is only where nothing in it is escaped. -/
def readResourceUri (parse : Text → Option Url) : Json → Except String ResourceUri
  | .string value =>
    if value.any escaped then .error "invalid type, expected a borrowed string"
    else ResourceUri.tryFrom parse value
  | _ => .error "invalid type, expected a borrowed string"

structure AnnotationPacket where
  kid : ResourceUri
  wrappedData : Text
  iv : Text
  wrapType : Text

def AnnotationPacket.ofJson (parse : Text → Option Url) (value : Json) : Except String AnnotationPacket := do
  let kid ← value.field (readResourceUri parse) "kid"
  let wrappedData ← value.field Json.readString "wrapped_data"
  let iv ← value.field Json.readString "iv"
  let wrapType ← value.field Json.readString "wrap_type"
  return { kid, wrappedData, iv, wrapType }

/-- The table of keys, if its file could be loaded. -/
structure OfflineFsKbc where
  keys : Except String (List (Text × List UInt8))

namespace OfflineFsKbc

variable (self : OfflineFsKbc)

def getKey (keyid : Text) : Outcome (List UInt8) := do
  let keys ← Outcome.ofResult self.keys
  Outcome.okOr s!"Received unknown key ID: {String.ofList keyid}" (keys.lookup keyid)

/-- `decrypt_payload`. -/
def decryptPayload (backend : Backend) (annotationPacket : AnnotationPacket) : Outcome (List UInt8) := do
  let key ← self.getKey annotationPacket.kid.resourcePath
  let wrapType ← Outcome.okOr "Matching variant not found" (wrapTypeTryFrom annotationPacket.wrapType)
  let wrappedData ← Outcome.okOr "Invalid base64" (Base64.decode annotationPacket.wrappedData)
  let iv ← Outcome.okOr "Invalid base64" (Base64.decode annotationPacket.iv)
  backend.decrypt key iv wrappedData wrapType

/-- What a payload is decrypted with. -/
theorem decryptPayload_ok {backend : Backend} {packet : AnnotationPacket} {payload : List UInt8} :
    self.decryptPayload backend packet = .ok payload ↔
      ∃ keys key wrapType wrappedData iv, self.keys = .ok keys ∧ keys.lookup packet.kid.resourcePath = some key ∧
        wrapTypeTryFrom packet.wrapType = some wrapType ∧ Base64.decode packet.wrappedData = some wrappedData ∧
        Base64.decode packet.iv = some iv ∧ backend.decrypt key iv wrappedData wrapType = .ok payload := by
  constructor
  · intro decrypted
    obtain ⟨key, got, decrypted⟩ := bind_ok.mp decrypted
    obtain ⟨keys, loaded, found⟩ := bind_ok.mp got
    obtain ⟨wrapType, named, decrypted⟩ := bind_ok.mp decrypted
    obtain ⟨wrappedData, data, decrypted⟩ := bind_ok.mp decrypted
    obtain ⟨iv, vector, decrypted⟩ := bind_ok.mp decrypted
    exact ⟨keys, key, wrapType, wrappedData, iv, ofResult_ok.mp loaded, okOr_ok.mp found, okOr_ok.mp named,
      okOr_ok.mp data, okOr_ok.mp vector, decrypted⟩
  · intro ⟨keys, key, wrapType, wrappedData, iv, loaded, found, named, data, vector, decrypted⟩
    have got : self.getKey packet.kid.resourcePath = .ok key :=
      bind_ok.mpr ⟨keys, ofResult_ok.mpr loaded, okOr_ok.mpr found⟩
    exact bind_ok.mpr ⟨key, got, bind_ok.mpr ⟨wrapType, okOr_ok.mpr named, bind_ok.mpr ⟨wrappedData,
      okOr_ok.mpr data, bind_ok.mpr ⟨iv, okOr_ok.mpr vector, decrypted⟩⟩⟩⟩

end OfflineFsKbc
end GuestComponents.Kbc
