import GuestComponents.Crypto.CrossDecryption
import GuestComponents.Hub.SealedSecret

/-! Sealing on the owner's side (`bin/secret_cli.rs`) and unsealing in the guest (`secret/mod.rs` and
its layouts), which may be built with different back ends. What is sealed is unsealed, whatever
becomes of the sections of its text that are not read (`sealed_unseals`), and what is unsealed from an
envelope was encrypted with the key that the KMS gives for it (`unsealed_was_sealed`). -/
namespace GuestComponents.Hub.SealedSecret
open Lib Lib.Text Lib.Base64 Crypto
open Lib.JsonText (Floats readMap)

def VERSION : Text := "0.1.0".toList

inductive EnvelopeError where
  | base64DecodeFailed (context : String)
  | kmsError (context cause : String)
  | decrypt (cause : String)

inductive VaultError where
  | kmsError (context cause : String)

inductive SecretError where
  | versionError
  | unsealEnvelopeFailed (error : EnvelopeError)
  | unsealVaultFailed (error : VaultError)
  | parseFailed (text : Text)

/-- The drivers of the guest: `Decrypter` and `Getter` of the crate `kms`. -/
structure Drivers (Map : Type) where
  Decrypter : Type
  newDecryptor : (provider : Text) → (settings : Map) → Except String Decrypter
  decrypt : Decrypter → (ciphertext : List UInt8) → (keyId : Text) → (annotations : Map) →
  Except String (List UInt8)
  Getter : Type
  newGetter : (provider : Text) → (settings : Map) → Except String Getter
  getSecret : Getter → (name : Text) → (annotations : Map) → Except String (List UInt8)

/-- `?` on an error that is made into another. -/
def into {ε ε' α : Type} (change : ε → ε') : Except (Fault ε) α → Except (Fault ε') α
  | .ok value => .ok value
  | .error (.error error) => .error (.error (change error))
  | .error (.panic message) => .error (.panic message)

section Unseal

variable {M F : Type} (guest : Backend)

/-- `EnvelopeSecret::unseal`. -/
def unsealEnvelope (drivers : Drivers M) (self : EnvelopeSecret M) : Except (Fault EnvelopeError) (List UInt8) := do
  let encDek ← Fault.okOr (.base64DecodeFailed "decode `encrypted_key`") (Base64.decode self.encryptedKey)
  let provider ← Fault.ofResult (.kmsError "create KMS provider")
    (drivers.newDecryptor self.provider self.providerSettings)
  let dek ← Fault.ofResult (.kmsError "decrypt encryption key")
    (drivers.decrypt provider encDek self.keyId self.annotations)
  let iv ← Fault.okOr (.base64DecodeFailed "decode iv") (Base64.decode self.iv)
  let encryptedData ← Fault.okOr (.base64DecodeFailed "decode encrypted_data") (Base64.decode self.encryptedData)
  Fault.ofOutcome .decrypt (guest.decrypt dek iv encryptedData self.wrapType)

/-- `VaultSecret::unseal`. -/
def unsealVault (drivers : Drivers M) (self : VaultSecret M) : Except (Fault VaultError) (List UInt8) := do
  let provider ← Fault.ofResult (.kmsError "create kms provider")
    (drivers.newGetter self.provider self.providerSettings)
  Fault.ofResult (.kmsError "get secret from provider") (drivers.getSecret provider self.name self.annotations)

def unsealContent (drivers : Drivers M) : SecretContent M → Except (Fault SecretError) (List UInt8)
  | .envelope env => into .unsealEnvelopeFailed (unsealEnvelope guest drivers env)
  | .vault v => into .unsealVaultFailed (unsealVault drivers v)

/-- `Secret::unseal`. -/
def unsealVersioned (drivers : Drivers M) (self : Secret M) : Except (Fault SecretError) (List UInt8) :=
  if self.version ≠ VERSION then Fault.fail .versionError else unsealContent guest drivers self.type

/-- `secret::unseal_secret`. -/
def unsealSecret (floats : Floats F) (drivers : Drivers (Map F)) (secret : List UInt8) :
    Except (Fault SecretError) (List UInt8) :=
  match fromUtf8 secret with
  | none => Fault.fail (.parseFailed "Secret string must be UTF-8".toList)
  | some secretString =>
    match fromSignedBase64String floats secretString with
    | .error text => Fault.fail (.parseFailed text)
    | .ok secret => unsealVersioned guest drivers secret

/-- The message of the status that answers a request. -/
def unsealFailed {ε : Type} (_ : ε) : String := "[CDH] [ERROR]: Unseal Secret failed"

/-- `unseal_secret` of the service. -/
def serveUnsealSecret (floats : Floats F) (drivers : Drivers (Map F)) (input : List UInt8) : Outcome (List UInt8) :=
  into unsealFailed (unsealSecret guest floats drivers input)

end Unseal

section Seal

variable {F : Type}

/-- `expect`. -/
def expect {α : Type} (message : String) : Outcome α → Outcome α
  | .error (.error cause) => .panic (message ++ ": " ++ cause)
  | outcome => outcome

/-- `EnvelopeCommand`, with the file that is read and what `handle_envelope_provider` returns. -/
structure EnvelopeCommand (Map : Type) where
  keyId : Text
  blob : List UInt8
  encrypt : (data : List UInt8) → (keyId : Text) → Except String (List UInt8 × Map)
  providerSettings : Map
  provider : Text

structure VaultCommand where
  resourceUri : Text
  provider : Text
  providerSettings : Option Text
  annotations : Option Text

/-- `TypeArgs`, with the bytes that are drawn for an envelope. -/
inductive TypeArgs (Map : Type) where
  | envelope (command : EnvelopeCommand Map) (iv : Vector UInt8 12) (key : Vector UInt8 32)
  | vault (args : VaultCommand)

/-- `serde_json::Map::new`. -/
def newMap : Map F := ⟨[], List.nodup_nil, trivial⟩

/-- `serde_json::from_str`, of an argument that may be left out. -/
def mapArgument (floats : Floats F) (message : String) : Option Text → Outcome (Map F)
  | none => .ok newMap
  | some text =>
    match (JsonText.read floats text).bind readMap with
    | some map => .ok map
    | none => .panic message

def sealEnvelope (sealer : Backend) (env : EnvelopeCommand (Map F)) (iv : Vector UInt8 12) (key : Vector UInt8 32) :
    Outcome (EnvelopeSecret (Map F)) := do
  let encryptedData ← expect "encryption failed" (sealer.encrypt key.toList iv.toList env.blob .aes256Gcm)
  let encrypted ← expect "encrypt the key using kms failed" (.ofResult (env.encrypt key.toList env.keyId))
  return {
    keyId := env.keyId
    encryptedKey := Base64.encode encrypted.1
    encryptedData := Base64.encode encryptedData
    wrapType := .aes256Gcm
    iv := Base64.encode iv.toList
    provider := env.provider
    providerSettings := env.providerSettings
    annotations := encrypted.2 }

def sealVault (floats : Floats F) (args : VaultCommand) : Outcome (VaultSecret (Map F)) := do
  let providerSettings ← mapArgument floats "Provider Settings Malformed" args.providerSettings
  let annotations ← mapArgument floats "Annotations Malformed" args.annotations
  return { name := args.resourceUri, provider := args.provider, providerSettings, annotations }

def sealContent (floats : Floats F) (sealer : Backend) : TypeArgs (Map F) → Outcome (SecretContent (Map F))
  | .envelope env iv key => (sealEnvelope sealer env iv key).map .envelope
  | .vault args => (sealVault floats args).map .vault

/-- `seal_secret`, with the secret and the line that is printed. -/
def sealSecret (floats : Floats F) (sealer : Backend) (sealArgs : TypeArgs (Map F)) :
    Outcome (Secret (Map F) × Text) := do
  let sc ← sealContent floats sealer sealArgs
  let secret : Secret (Map F) := ⟨VERSION, sc⟩
  match toSignedBase64String floats secret with
  | .ok secretString => return (secret, secretString)
  | .error _ => .panic "failed to serialize secret"

end Seal

section Outcomes

variable {F : Type} {M : Type} {floats : Floats F} {guest sealer : Backend} {plaintext : List UInt8}

@[simp] theorem into_ok {ε ε' α : Type} {change : ε → ε'} {result : Except (Fault ε) α} {value : α} :
    into change result = .ok value ↔ result = .ok value := by
  rcases result with (_ | _) | _ <;> simp [into]

/-- Another error does not change the answer. -/
theorem into_unsealFailed {ε ε' α : Type} {change : ε → ε'} {result : Except (Fault ε) α} :
    into unsealFailed (into change result) = into unsealFailed result := by
  rcases result with (_ | _) | _ <;> rfl

theorem expect_ok {α : Type} {message : String} {outcome : Outcome α} {value : α} :
    expect message outcome = .ok value ↔ outcome = .ok value := by
  rcases outcome with (_ | _) | _ <;> simp [expect, Outcome.panic]

/-- What an envelope is unsealed with. -/
theorem unsealEnvelope_ok {drivers : Drivers M} {self : EnvelopeSecret M} :
    unsealEnvelope guest drivers self = .ok plaintext ↔ ∃ encDek provider dek iv encryptedData,
      Base64.decode self.encryptedKey = some encDek ∧
      drivers.newDecryptor self.provider self.providerSettings = .ok provider ∧
      drivers.decrypt provider encDek self.keyId self.annotations = .ok dek ∧
      Base64.decode self.iv = some iv ∧ Base64.decode self.encryptedData = some encryptedData ∧
      guest.decrypt dek iv encryptedData self.wrapType = .ok plaintext := by
  rw [unsealEnvelope]
  simp only [bind_ok, Fault.okOr_ok, Fault.ofResult_ok, Fault.ofOutcome_ok]
  constructor
  · rintro ⟨encDek, key, provider, made, dek, got, iv, vector, encryptedData, data, decrypted⟩
    exact ⟨encDek, provider, dek, iv, encryptedData, key, made, got, vector, data, decrypted⟩
  · rintro ⟨encDek, provider, dek, iv, encryptedData, key, made, got, vector, data, decrypted⟩
    exact ⟨encDek, key, provider, made, dek, got, iv, vector, encryptedData, data, decrypted⟩

theorem unsealVault_ok {drivers : Drivers M} {self : VaultSecret M} :
    unsealVault drivers self = .ok plaintext ↔ ∃ provider,
      drivers.newGetter self.provider self.providerSettings = .ok provider ∧
      drivers.getSecret provider self.name self.annotations = .ok plaintext := by
  rw [unsealVault]
  simp only [bind_ok, Fault.ofResult_ok]

theorem unsealVersioned_eq {drivers : Drivers M} {content : SecretContent M} :
    unsealVersioned guest drivers ⟨VERSION, content⟩ = unsealContent guest drivers content :=
  if_neg (not_not_intro rfl)

theorem unsealSecret_ok {drivers : Drivers (Map F)} {bytes : List UInt8} :
    unsealSecret guest floats drivers bytes = .ok plaintext ↔ ∃ text content, fromUtf8 bytes = some text ∧
      fromSignedBase64String floats text = .ok ⟨VERSION, content⟩ ∧
      unsealContent guest drivers content = .ok plaintext := by
  constructor
  · intro unsealed
    rw [unsealSecret] at unsealed
    split at unsealed
    · cases unsealed
    rename_i text decoded
    split at unsealed
    · cases unsealed
    rename_i secret read
    obtain ⟨version, content⟩ := secret
    rw [unsealVersioned] at unsealed
    split at unsealed
    · cases unsealed
    rename_i same
    cases not_not.mp same
    exact ⟨text, content, decoded, read, unsealed⟩
  · rintro ⟨text, content, decoded, read, unsealed⟩
    rw [unsealSecret, decoded]
    dsimp only
    rw [read]
    dsimp only
    rw [unsealVersioned_eq, unsealed]

theorem sealEnvelope_ok {env : EnvelopeCommand (Map F)} {iv : Vector UInt8 12} {key : Vector UInt8 32}
    {secret : EnvelopeSecret (Map F)} :
    sealEnvelope sealer env iv key = .ok secret ↔ ∃ encryptedData encryptedKey annotations,
      sealer.encrypt key.toList iv.toList env.blob .aes256Gcm = .ok encryptedData ∧
      env.encrypt key.toList env.keyId = .ok (encryptedKey, annotations) ∧
      secret = ⟨env.keyId, Base64.encode encryptedKey, Base64.encode encryptedData, .aes256Gcm,
        Base64.encode iv.toList, env.provider, env.providerSettings, annotations⟩ := by
  rw [sealEnvelope]
  simp only [bind_ok, expect_ok, ofResult_ok]
  constructor
  · rintro ⟨encryptedData, data, ⟨encryptedKey, annotations⟩, wrapped, same⟩
    cases same
    exact ⟨encryptedData, encryptedKey, annotations, data, wrapped, rfl⟩
  · rintro ⟨encryptedData, encryptedKey, annotations, data, wrapped, rfl⟩
    exact ⟨encryptedData, data, (encryptedKey, annotations), wrapped, rfl⟩

theorem sealVault_ok {args : VaultCommand} {secret : VaultSecret (Map F)} :
    sealVault floats args = .ok secret ↔ ∃ providerSettings annotations,
      mapArgument floats "Provider Settings Malformed" args.providerSettings = .ok providerSettings ∧
      mapArgument floats "Annotations Malformed" args.annotations = .ok annotations ∧
      secret = ⟨args.resourceUri, args.provider, providerSettings, annotations⟩ := by
  rw [sealVault]
  simp only [bind_ok]
  constructor
  · rintro ⟨providerSettings, settings, annotations, others, same⟩
    cases same
    exact ⟨providerSettings, annotations, settings, others, rfl⟩
  · rintro ⟨providerSettings, annotations, settings, others, rfl⟩
    exact ⟨providerSettings, settings, annotations, others, rfl⟩

theorem map_ok {ε α β : Type} {f : α → β} {result : Except ε α} {value : β} :
    result.map f = .ok value ↔ ∃ given, result = .ok given ∧ f given = value := by
  cases result <;> simp [Except.map]

/-- The line is the text of a secret of this version with the content that was sealed. -/
theorem sealSecret_ok {sealArgs : TypeArgs (Map F)} {secret : Secret (Map F)} {line : Text} :
    sealSecret floats sealer sealArgs = .ok (secret, line) ↔ ∃ content,
      sealContent floats sealer sealArgs = .ok content ∧ secret = ⟨VERSION, content⟩ ∧
      line = sections floats "sealed".toList secret := by
  rw [sealSecret]
  simp only [bind_ok, toSigned_sections]
  constructor
  · rintro ⟨content, made, same⟩
    cases same
    exact ⟨content, made, rfl, rfl⟩
  · rintro ⟨content, made, rfl, rfl⟩
    exact ⟨content, made, rfl⟩

end Outcomes

section RoundTrip

variable {F : Type} {openssl : OpenSsl} {crates : RustCrates} {shared : SharedCiphers openssl crates}
  {floats : Floats F} {guest sealer : Backend} {drivers : Drivers (Map F)}

/-- The texts have four sections each, and the same third one. -/
def SameBody (line text : Text) : Prop :=
  ∃ first header body signature first' header' signature',
    split '.' line = [first, header, body, signature] ∧ split '.' text = [first', header', body, signature']

/-- The guest's driver for the command's provider decrypts what the command's encrypter encrypts. -/
def Decrypts (drivers : Drivers (Map F)) (env : EnvelopeCommand (Map F)) : Prop :=
  ∀ key encryptedKey annotations, env.encrypt key env.keyId = .ok (encryptedKey, annotations) →
    ∃ provider, drivers.newDecryptor env.provider env.providerSettings = .ok provider ∧
      drivers.decrypt provider encryptedKey env.keyId annotations = .ok key

/-- An envelope comes back as the file that was sealed, and a vault secret is what the driver has for it. -/
def Recovers (floats : Floats F) (drivers : Drivers (Map F)) (unsealed : Outcome (List UInt8)) :
    TypeArgs (Map F) → Prop
  | .envelope env _ _ => Decrypts drivers env → unsealed = .ok env.blob
  | .vault args => ∃ providerSettings annotations,
      mapArgument floats "Provider Settings Malformed" args.providerSettings = .ok providerSettings ∧
      mapArgument floats "Annotations Malformed" args.annotations = .ok annotations ∧
      unsealed = into unsealFailed
        (unsealVault drivers ⟨args.resourceUri, args.provider, providerSettings, annotations⟩)

theorem sealEnvelope_unseals (inverse : Inverse shared) (sealing : Built openssl crates sealer)
    (opening : Built openssl crates guest) {env : EnvelopeCommand (Map F)} {iv : Vector UInt8 12}
    {key : Vector UInt8 32} {secret : EnvelopeSecret (Map F)} (made : sealEnvelope sealer env iv key = .ok secret)
    (decrypts : Decrypts drivers env) : unsealEnvelope guest drivers secret = .ok env.blob := by
  obtain ⟨encryptedData, encryptedKey, annotations, data, wrapped, rfl⟩ := sealEnvelope_ok.mp made
  obtain ⟨provider, client, unwrapped⟩ := decrypts key.toList encryptedKey annotations wrapped
  refine unsealEnvelope_ok.mpr ⟨encryptedKey, provider, key.toList, iv.toList, encryptedData,
    Base64.decode_encode _, client, unwrapped, Base64.decode_encode _, Base64.decode_encode _, ?_⟩
  exact (decrypt_iff inverse sealing opening key.length_toList iv.length_toList).mpr data

/-- A text is read by its third section alone. -/
theorem fromSigned_sameBody {line text : Text} (same : SameBody line text) :
    fromSignedBase64String floats text = fromSignedBase64String floats line := by
  obtain ⟨first, header, body, signature, first', header', signature', ofLine, ofText⟩ := same
  rw [fromSignedBase64String, ofText, fromSignedBase64String, ofLine]

end RoundTrip

/-- What is sealed with one back end is unsealed with the same or the other, from any text that has
the third section of the line that was printed. -/
theorem sealed_unseals {F : Type} {openssl : OpenSsl} {crates : RustCrates} {shared : SharedCiphers openssl crates}
    (inverse : Inverse shared) {floats : Floats F} {guest sealer : Backend} (sealing : Built openssl crates sealer)
    (opening : Built openssl crates guest) (drivers : Drivers (Map F)) {sealArgs : TypeArgs (Map F)}
    {secret : Secret (Map F)} {line : Text} (printed : sealSecret floats sealer sealArgs = .ok (secret, line))
    (fits : Fits floats secret) {text : Text} (same : SameBody line text) :
    Recovers floats drivers (serveUnsealSecret guest floats drivers (utf8 text)) sealArgs := by
  obtain ⟨content, made, rfl, rfl⟩ := sealSecret_ok.mp printed
  have read : fromSignedBase64String floats text = .ok ⟨VERSION, content⟩ := by
    rw [fromSigned_sameBody same, fromSigned_written (by decide), fromBody_fits fits]
  have unsealed : unsealSecret guest floats drivers (utf8 text) = unsealContent guest drivers content := by
    rw [unsealSecret, fromUtf8_utf8]
    dsimp only
    rw [read]
    exact unsealVersioned_eq
  rw [serveUnsealSecret, unsealed]
  cases sealArgs with
  | envelope env iv key =>
    intro decrypts
    obtain ⟨envelope, kept, rfl⟩ := map_ok.mp made
    exact into_ok.mpr (into_ok.mpr (sealEnvelope_unseals inverse sealing opening kept decrypts))
  | vault args =>
    obtain ⟨vault, kept, rfl⟩ := map_ok.mp made
    obtain ⟨providerSettings, annotations, settings, others, rfl⟩ := sealVault_ok.mp kept
    exact ⟨providerSettings, annotations, settings, others, into_unsealFailed⟩

/-- What the content holds for a driver: the encryption of the plaintext with the key that the driver
gives, or what the driver itself keeps. -/
def Holds {M : Type} (sealer : Backend) (drivers : Drivers M) (plaintext : List UInt8) : SecretContent M → Prop
  | .envelope env => ∃ encDek provider dek iv encryptedData, Base64.decode env.encryptedKey = some encDek ∧
      drivers.newDecryptor env.provider env.providerSettings = .ok provider ∧
      drivers.decrypt provider encDek env.keyId env.annotations = .ok dek ∧ Base64.decode env.iv = some iv ∧
      Base64.decode env.encryptedData = some encryptedData ∧
      (dek.length = 32 → iv.length = ivLength env.wrapType →
        sealer.encrypt dek iv plaintext env.wrapType = .ok encryptedData)
  | .vault v => ∃ provider, drivers.newGetter v.provider v.providerSettings = .ok provider ∧
      drivers.getSecret provider v.name v.annotations = .ok plaintext

/-- Whatever text a guest unseals, it is of this version, and the plaintext is what either back end
encrypts to the data of its envelope with the key of the KMS, or what the vault keeps for its name. -/
theorem unsealed_was_sealed {F : Type} {openssl : OpenSsl} {crates : RustCrates}
    {shared : SharedCiphers openssl crates} (inverse : Inverse shared) {floats : Floats F} {guest sealer : Backend}
    (sealing : Built openssl crates sealer) (opening : Built openssl crates guest) {drivers : Drivers (Map F)}
    {input plaintext : List UInt8} (unsealed : serveUnsealSecret guest floats drivers input = .ok plaintext) :
    ∃ text content, fromUtf8 input = some text ∧ fromSignedBase64String floats text = .ok ⟨VERSION, content⟩ ∧
      Holds sealer drivers plaintext content := by
  obtain ⟨text, content, decoded, read, opened⟩ := unsealSecret_ok.mp (into_ok.mp unsealed)
  refine ⟨text, content, decoded, read, ?_⟩
  cases content with
  | envelope env =>
    obtain ⟨encDek, provider, dek, iv, encryptedData, key, client, got, vector, data, decrypted⟩ :=
      unsealEnvelope_ok.mp (into_ok.mp opened)
    exact ⟨encDek, provider, dek, iv, encryptedData, key, client, got, vector, data, fun keyFits ivFits =>
      (decrypt_iff inverse sealing opening keyFits ivFits).mp decrypted⟩
  | vault v => exact unsealVault_ok.mp (into_ok.mp opened)

section Samples

/-- AES-256-GCM on sixteen zeros, with a key and a vector of zeros: the ciphertext and the tag. -/
def zerosSealed : List UInt8 × Vector UInt8 16 :=
  ([0xce, 0xa7, 0x40, 0x3d, 0x4d, 0x60, 0x6b, 0x6e, 0x07, 0x4e, 0xc5, 0xd3, 0xba, 0xf3, 0x9d, 0x18],
    #v[0xd0, 0xd1, 0xc8, 0xa7, 0x99, 0x99, 0x6b, 0xf0, 0x26, 0x5b, 0x98, 0xb5, 0xd4, 0x8a, 0xb9, 0x19])

def zeros (n : Nat) : List UInt8 := List.replicate n 0

/-- The cipher, on these bytes alone. -/
def zerosSeal (key iv aad data : List UInt8) : Option (List UInt8 × Vector UInt8 16) :=
  if key = zeros 32 ∧ iv = zeros 12 ∧ aad = [] ∧ data = zeros 16 then some zerosSealed else none

def zerosOpen (key iv aad body tag : List UInt8) : Option (List UInt8) :=
  if key = zeros 32 ∧ iv = zeros 12 ∧ aad = [] ∧ body = zerosSealed.1 ∧
    tag = zerosSealed.2.toList then some (zeros 16)
  else none

def orError {α : Type} : Option α → Except String α
  | some value => .ok value
  | none => .error "aead::Error"

theorem orError_answers {α : Type} (answer : Option α) : Answers (.ofResult (orError answer)) answer := by
  cases answer with
  | some value => rfl
  | none => exact ⟨_, rfl⟩

theorem okOr_answers {α : Type} (message : String) (answer : Option α) : Answers (.okOr message answer) answer := by
  cases answer with
  | some value => rfl
  | none => exact ⟨_, rfl⟩

def zerosOpenSsl : OpenSsl :=
  { oneOpenSsl with
    encryptAead := fun key iv aad data n =>
      if same : 16 = n then .okOr "ErrorStack" ((zerosSeal key iv aad data).map fun parts => (parts.1, same ▸ parts.2))
      else .bail "ErrorStack"
    decryptAead := fun key iv aad data tag => .okOr "ErrorStack" (zerosOpen key iv aad data tag) }

def zerosCrates : RustCrates :=
  { oneCrates with
    encryptInPlaceDetached := fun key nonce aad data => orError (zerosSeal key.toList nonce.toList aad data)
    decryptInPlaceDetached := fun key nonce aad data tag =>
      orError (zerosOpen key.toList nonce.toList aad data tag.toList)
    aeadEncrypt := fun key nonce data =>
      orError ((zerosSeal key.toList nonce.toList [] data).map fun parts => parts.1 ++ parts.2.toList)
    aeadDecrypt := fun key nonce bytes =>
      if bytes.length < 16 then .error "aead::Error"
      else orError
        (zerosOpen key.toList nonce.toList [] (bytes.take (bytes.length - 16)) (bytes.drop (bytes.length - 16))) }

theorem zerosOpenSsl_seals (key : Vector UInt8 32) (iv : Vector UInt8 12) (aad data : List UInt8) :
    Answers (zerosOpenSsl.encryptAead key.toList iv.toList aad data 16) (zerosSeal key.toList iv.toList aad data) := by
  have whole : (zerosSeal key.toList iv.toList aad data).map (fun parts => (parts.1, parts.2)) =
      zerosSeal key.toList iv.toList aad data := by
    cases zerosSeal key.toList iv.toList aad data <;> rfl
  have answers :=
    okOr_answers "ErrorStack" ((zerosSeal key.toList iv.toList aad data).map fun parts => (parts.1, parts.2))
  exact (congrArg (Answers _) whole).mp answers

theorem zerosOpenSsl_ctr (key : Vector UInt8 32) (iv : Vector UInt8 16) (data : List UInt8) :
    zerosOpenSsl.encryptCtr key.toList iv.toList data = .ok data ∧
      zerosOpenSsl.decryptCtr key.toList iv.toList data = .ok data :=
  ⟨if_pos ⟨key.length_toList, iv.length_toList⟩, if_pos ⟨key.length_toList, iv.length_toList⟩⟩

theorem zerosCrates_opens (key : Vector UInt8 32) (iv : Vector UInt8 12) (data : List UInt8) (tag : Vector UInt8 16) :
    Answers (.ofResult (zerosCrates.aeadDecrypt key iv (data ++ tag.toList)))
      (zerosOpen key.toList iv.toList [] data tag.toList) := by
  have long : ¬ (data ++ tag.toList).length < 16 := by
    rw [List.length_append, tag.length_toList]
    omega
  have cut : (data ++ tag.toList).length - 16 = data.length := by
    rw [List.length_append, tag.length_toList]
    omega
  have front : (data ++ tag.toList).take ((data ++ tag.toList).length - 16) = data := by rw [cut, List.take_left]
  have back : (data ++ tag.toList).drop ((data ++ tag.toList).length - 16) = tag.toList := by rw [cut, List.drop_left]
  have opened : zerosCrates.aeadDecrypt key iv (data ++ tag.toList) =
      orError (zerosOpen key.toList iv.toList [] data tag.toList) :=
    (if_neg long).trans (by rw [front, back])
  rw [opened]
  exact orError_answers _

theorem zerosCrates_short (key : Vector UInt8 32) (iv : Vector UInt8 12) (bytes : List UInt8)
    (short : bytes.length < 16) :
    Answers (.ofResult (zerosCrates.aeadDecrypt key iv bytes)) none := by
  have refused : zerosCrates.aeadDecrypt key iv bytes = .error "aead::Error" := if_pos short
  rw [refused]
  exact ⟨_, rfl⟩

def zerosCiphers : SharedCiphers zerosOpenSsl zerosCrates where
  gcmSeal key iv aad data := zerosSeal key.toList iv.toList aad data
  gcmOpen key iv aad data tag := zerosOpen key.toList iv.toList aad data tag.toList
  keystream _ _ data := data
  encryptAead := zerosOpenSsl_seals
  decryptAead _ _ _ _ _ := okOr_answers _ _
  encryptCtr key iv data := (zerosOpenSsl_ctr key iv data).1
  decryptCtr key iv data := (zerosOpenSsl_ctr key iv data).2
  encryptInPlaceDetached _ _ _ _ := orError_answers _
  decryptInPlaceDetached _ _ _ _ _ := orError_answers _
  aeadEncrypt _ _ _ := orError_answers _
  aeadDecrypt := zerosCrates_opens
  aeadDecryptShort := zerosCrates_short
  applyKeystream _ _ _ := rfl
  applyKeystreamB2b _ _ _ := rfl

theorem zerosCiphers_inverse : Inverse zerosCiphers where
  gcm key iv aad data body tag := by
    change zerosOpen key.toList iv.toList aad body tag.toList = some data ↔
      zerosSeal key.toList iv.toList aad data = some (body, tag)
    constructor
    · intro opened
      rw [zerosOpen] at opened
      split at opened
      · rename_i same
        obtain ⟨sameKey, sameIv, noAad, rfl, sameTag⟩ := same
        cases opened
        rw [zerosSeal, if_pos ⟨sameKey, sameIv, noAad, rfl⟩, Vector.toList_inj.mp sameTag]
      · cases opened
    · intro made
      rw [zerosSeal] at made
      split at made
      · rename_i same
        obtain ⟨sameKey, sameIv, noAad, rfl⟩ := same
        cases made
        rw [zerosOpen, if_pos ⟨sameKey, sameIv, noAad, rfl, rfl⟩]
      · cases made
  ctr _ _ _ := rfl

/-- A KMS that knows a data key by its bytes. -/
def sampleDrivers : Drivers (Map Empty) where
  Decrypter := Unit
  newDecryptor _ _ := .ok ()
  decrypt _ ciphertext _ _ := .ok ciphertext
  Getter := Unit
  newGetter _ _ := .error "Unsupported provider"
  getSecret _ _ _ := .error "Unsupported provider"

def sampleCommand : EnvelopeCommand (Map Empty) where
  keyId := "xxx".toList
  blob := zeros 16
  encrypt data _ := .ok (data, newMap)
  providerSettings := newMap
  provider := "aliyun".toList

def sampleEnvelope : EnvelopeSecret (Map Empty) :=
  ⟨"xxx".toList, Base64.encode (zeros 32), Base64.encode (zerosSealed.1 ++ zerosSealed.2.toList), .aes256Gcm,
    Base64.encode (zeros 12), "aliyun".toList, newMap, newMap⟩

def sampleSealed : Secret (Map Empty) := ⟨VERSION, .envelope sampleEnvelope⟩

/-- The line as it is read from a file, with the end of the line. -/
def sampleFile : Text :=
  ['.'].intercalate ["sealed".toList, "fakejwsheader".toList, encodeUrlSafe (utf8 (serialized noFloats sampleSealed)),
    "fakesignature\n".toList]

theorem sampleFile_sameBody : SameBody (sections noFloats "sealed".toList sampleSealed) sampleFile := by
  rw [sampleFile, sections]
  refine ⟨_, _, _, _, _, _, _, split_intercalate ?_ (List.cons_ne_nil _ _),
    split_intercalate ?_ (List.cons_ne_nil _ _)⟩
  · simp only [List.forall_mem_cons]
    exact ⟨by decide, by decide, dot_not_mem_encodeUrlSafe _, by decide, fun _ impossible => by cases impossible⟩
  · simp only [List.forall_mem_cons]
    exact ⟨by decide, by decide, dot_not_mem_encodeUrlSafe _, by decide, fun _ impossible => by cases impossible⟩

theorem sampleSealed_printed : sealSecret noFloats zerosOpenSsl.backend
    (.envelope sampleCommand (Vector.replicate 12 0) (Vector.replicate 32 0)) =
      .ok (sampleSealed, sections noFloats "sealed".toList sampleSealed) :=
  sealSecret_ok.mpr ⟨.envelope sampleEnvelope, rfl, rfl, rfl⟩

theorem sampleCommand_decrypts : Decrypts sampleDrivers sampleCommand := by
  intro key encryptedKey annotations same
  cases same
  exact ⟨(), rfl, rfl⟩

theorem sampleSealed_unseals :
    serveUnsealSecret zerosCrates.backend noFloats sampleDrivers (utf8 sampleFile) = .ok (zeros 16) :=
  sealed_unseals zerosCiphers_inverse .native .rust sampleDrivers sampleSealed_printed
    ⟨by decide, sample_readable _⟩ sampleFile_sameBody sampleCommand_decrypts

theorem sampleFile_read : fromSignedBase64String noFloats sampleFile = .ok sampleSealed := by
  rw [fromSigned_sameBody sampleFile_sameBody, fromSigned_written (by decide),
    fromBody_fits ⟨by decide, sample_readable _⟩]

theorem sampleSealed_was_sealed :
    ∃ text content, fromUtf8 (utf8 sampleFile) = some text ∧
      fromSignedBase64String noFloats text = .ok ⟨VERSION, content⟩ ∧
      Holds zerosOpenSsl.backend sampleDrivers (zeros 16) content := by
  refine unsealed_was_sealed zerosCiphers_inverse .native .rust (into_ok.mpr ?_)
  refine unsealSecret_ok.mpr ⟨sampleFile, .envelope sampleEnvelope, fromUtf8_utf8 _, sampleFile_read, ?_⟩
  rw [unsealContent, into_ok]
  exact unsealEnvelope_ok.mpr ⟨zeros 32, (), zeros 32, zeros 12, zerosSealed.1 ++ zerosSealed.2.toList,
    Base64.decode_encode _, rfl, rfl, Base64.decode_encode _, Base64.decode_encode _, rfl⟩

end Samples

end GuestComponents.Hub.SealedSecret
