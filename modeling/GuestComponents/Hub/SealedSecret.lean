import GuestComponents.Hub.Secret
import GuestComponents.Lib.Base64
import GuestComponents.Lib.JsonMap
import GuestComponents.Lib.JsonTextLaws

/-! `secret/mod.rs`: the text of a sealed secret. It has four sections, of which the third is JSON in
base64url and the others are not read (`fromSigned_sections`). A secret is found again in its text, up to the
depth that serde_json reads and to the floating-point numbers that it reads as they are written
(`sealed_format`). -/
namespace GuestComponents.Hub.SealedSecret
open Lib Lib.Text Lib.Base64 Crypto
open Lib.JsonText (Value Floats readMap depthLimit)

section Derived

variable {F α : Type}

/-- A field of a struct, which is there once. -/
def field (name : String) (read : Value F → Option α) (fields : List (Text × Value F)) : Option α :=
  match fields.filter fun entry => entry.1 = name.toList with
  | [(_, value)] => read value
  | _ => none

def without (name : String) (fields : List (Text × Value F)) : List (Text × Value F) :=
  fields.filter fun entry => entry.1 ≠ name.toList

def readText : Value F → Option Text
  | .string text => some text
  | _ => none

def wrapTypeNamed (name : Text) : Option WrapType :=
  if name = WrapType.aes256Gcm.asRef then some .aes256Gcm
  else if name = WrapType.aes256Ctr.asRef then some .aes256Ctr
  else none

/-- A variant with nothing in it is a string, or the only key of an object with nothing behind it. -/
def readWrapType : Value F → Option WrapType
  | .string name => wrapTypeNamed name
  | .object [(name, .null)] => wrapTypeNamed name
  | .object [(name, .object [])] => wrapTypeNamed name
  | _ => none

inductive Variant where
  | envelope
  | vault
  deriving DecidableEq

/-- A tag is a name, or the number of a variant. -/
def readVariant : Value F → Option Variant
  | .string name =>
    if name = "envelope".toList then some .envelope else if name = "vault".toList then some .vault else none
  | .integer index => if index.val = 0 then some .envelope else if index.val = 1 then some .vault else none
  | _ => none

abbrev Map (F : Type) := JsonText.Map F

end Derived

variable {F : Type}

def envelopeFields (secret : EnvelopeSecret (Map F)) : List (Text × Value F) :=
  [("key_id".toList, .string secret.keyId), ("encrypted_key".toList, .string secret.encryptedKey),
    ("encrypted_data".toList, .string secret.encryptedData), ("wrap_type".toList, .string secret.wrapType.asRef),
    ("iv".toList, .string secret.iv), ("provider".toList, .string secret.provider),
    ("provider_settings".toList, secret.providerSettings.value), ("annotations".toList, secret.annotations.value)]

def vaultFields (secret : VaultSecret (Map F)) : List (Text × Value F) :=
  [("name".toList, .string secret.name), ("provider".toList, .string secret.provider),
    ("provider_settings".toList, secret.providerSettings.value), ("annotations".toList, secret.annotations.value)]

def contentFields : SecretContent (Map F) → List (Text × Value F)
  | .envelope secret => ("type".toList, .string "envelope".toList) :: envelopeFields secret
  | .vault secret => ("type".toList, .string "vault".toList) :: vaultFields secret

/-- The JSON of a secret, with the fields of its content flattened into it. -/
def toValue (secret : Secret (Map F)) : Value F :=
  .object (("version".toList, .string secret.version) :: contentFields secret.type)

def readEnvelope (fields : List (Text × Value F)) : Option (EnvelopeSecret (Map F)) := do
  let keyId ← field "key_id" readText fields
  let encryptedKey ← field "encrypted_key" readText fields
  let encryptedData ← field "encrypted_data" readText fields
  let wrapType ← field "wrap_type" readWrapType fields
  let iv ← field "iv" readText fields
  let provider ← field "provider" readText fields
  let providerSettings ← field "provider_settings" readMap fields
  let annotations ← field "annotations" readMap fields
  some { keyId, encryptedKey, encryptedData, wrapType, iv, provider, providerSettings, annotations }

def readVault (fields : List (Text × Value F)) : Option (VaultSecret (Map F)) := do
  let name ← field "name" readText fields
  let provider ← field "provider" readText fields
  let providerSettings ← field "provider_settings" readMap fields
  let annotations ← field "annotations" readMap fields
  some { name, provider, providerSettings, annotations }

def readContent (fields : List (Text × Value F)) : Option (SecretContent (Map F)) := do
  let variant ← field "type" readVariant fields
  match variant with
  | .envelope => (readEnvelope (without "type" fields)).map .envelope
  | .vault => (readVault (without "type" fields)).map .vault

def ofValue : Value F → Option (Secret (Map F))
  | .object fields => do
    let version ← field "version" readText fields
    let type ← readContent (without "version" fields)
    some { version, type }
  | _ => none

variable (floats : Floats F)

/-- `serde_json::from_slice`. -/
def fromSlice (json : List UInt8) : Option (Secret (Map F)) := do
  let text ← fromUtf8 json
  let value ← JsonText.read floats text
  ofValue value

/-- `serde_json::to_string`. -/
def serialized (secret : Secret (Map F)) : Text := (toValue secret).write floats

/-- The third section. -/
def fromBody (body : Text) : Except Text (Secret (Map F)) :=
  match decodeUrlSafe body with
  | none => .error "base64 decode Secret body".toList
  | some json =>
    match fromSlice floats json with
    | none => .error "malformed input sealed secret format (json deserialization failed)".toList
    | some secret => .ok secret

/-- `Secret::from_signed_base64_string`. -/
def fromSignedBase64String (secret : Text) : Except Text (Secret (Map F)) :=
  match split '.' secret with
  | [_, _, body, _] => fromBody floats body
  | _ => .error "malformed input sealed secret".toList

/-- `Secret::to_signed_base64_string`. -/
def toSignedBase64String (secret : Secret (Map F)) : Except Text Text :=
  .ok ("sealed.fakejwsheader.".toList ++ encodeUrlSafe (utf8 (serialized floats secret)) ++ ".fakesignature".toList)

variable {floats}

section Laws

theorem wrapTypeNamed_asRef (wrapType : WrapType) : wrapTypeNamed wrapType.asRef = some wrapType := by
  cases wrapType <;> rfl

theorem readEnvelope_fields (secret : EnvelopeSecret (Map F)) : readEnvelope (envelopeFields secret) = some secret := by
  have keyId : field "key_id" readText (envelopeFields secret) = some secret.keyId := rfl
  have encryptedKey : field "encrypted_key" readText (envelopeFields secret) = some secret.encryptedKey := rfl
  have encryptedData : field "encrypted_data" readText (envelopeFields secret) = some secret.encryptedData := rfl
  have wrapType : field "wrap_type" readWrapType (envelopeFields secret) = some secret.wrapType :=
    wrapTypeNamed_asRef secret.wrapType
  have iv : field "iv" readText (envelopeFields secret) = some secret.iv := rfl
  have provider : field "provider" readText (envelopeFields secret) = some secret.provider := rfl
  have providerSettings : field "provider_settings" readMap (envelopeFields secret) = some secret.providerSettings :=
    JsonText.readMap_value secret.providerSettings
  have annotations : field "annotations" readMap (envelopeFields secret) = some secret.annotations :=
    JsonText.readMap_value secret.annotations
  rw [readEnvelope, keyId, encryptedKey, encryptedData, wrapType, iv, provider, providerSettings, annotations]
  rfl

theorem readVault_fields (secret : VaultSecret (Map F)) : readVault (vaultFields secret) = some secret := by
  have name : field "name" readText (vaultFields secret) = some secret.name := rfl
  have provider : field "provider" readText (vaultFields secret) = some secret.provider := rfl
  have providerSettings : field "provider_settings" readMap (vaultFields secret) = some secret.providerSettings :=
    JsonText.readMap_value secret.providerSettings
  have annotations : field "annotations" readMap (vaultFields secret) = some secret.annotations :=
    JsonText.readMap_value secret.annotations
  rw [readVault, name, provider, providerSettings, annotations]
  rfl

theorem readContent_fields (content : SecretContent (Map F)) : readContent (contentFields content) = some content := by
  cases content with
  | envelope secret =>
    have variant : field "type" readVariant (contentFields (.envelope secret)) = some .envelope := rfl
    have fields : without "type" (contentFields (.envelope secret)) = envelopeFields secret := rfl
    rw [readContent, variant, fields]
    exact congrArg (Option.map _) (readEnvelope_fields secret)
  | vault secret =>
    have variant : field "type" readVariant (contentFields (.vault secret)) = some .vault := rfl
    have fields : without "type" (contentFields (.vault secret)) = vaultFields secret := rfl
    rw [readContent, variant, fields]
    exact congrArg (Option.map _) (readVault_fields secret)

/-- A secret is found again in its JSON. -/
theorem ofValue_toValue (secret : Secret (Map F)) : ofValue (toValue secret) = some secret := by
  obtain ⟨version, content⟩ := secret
  have version_ : field "version" readText (("version".toList, .string version) :: contentFields content) =
      some version := by
    cases content <;> rfl
  have fields : without "version" (("version".toList, .string version) :: contentFields content) =
      contentFields content := by
    cases content <;> rfl
  rw [toValue, ofValue, version_, fields, readContent_fields]
  rfl

theorem fromBody_ok {body : Text} {secret : Secret (Map F)} : fromBody floats body = .ok secret ↔
    ∃ json, decodeUrlSafe body = some json ∧ fromSlice floats json = some secret := by
  rw [fromBody]
  cases decodeUrlSafe body with
  | none => exact ⟨nofun, fun ⟨_, decoded, _⟩ => nomatch decoded⟩
  | some json =>
    dsimp only
    constructor
    · intro read
      refine ⟨json, rfl, ?_⟩
      revert read
      cases fromSlice floats json with
      | none => exact nofun
      | some other =>
        intro read
        cases read
        rfl
    · rintro ⟨other, decoded, parsed⟩
      cases decoded
      rw [parsed]

/-- Four sections, of which only the third is read. -/
theorem fromSigned_sections {first header body signature : Text}
    (absent : ∀ section_ ∈ [first, header, body, signature], '.' ∉ section_) :
    fromSignedBase64String floats (['.'].intercalate [first, header, body, signature]) = fromBody floats body := by
  rw [fromSignedBase64String, split_intercalate absent (List.cons_ne_nil _ _)]

/-- What a text was read as is in its third section. -/
theorem fromSigned_ok {text : Text} {secret : Secret (Map F)} (read : fromSignedBase64String floats text = .ok secret) :
    ∃ first header body signature json, split '.' text = [first, header, body, signature] ∧
      decodeUrlSafe body = some json ∧ fromSlice floats json = some secret := by
  rw [fromSignedBase64String] at read
  split at read
  · rename_i first header body signature sections
    obtain ⟨json, decoded, parsed⟩ := fromBody_ok.mp read
    exact ⟨first, header, body, signature, json, sections, decoded, parsed⟩
  · cases read

/-- The sections of a text that is written. -/
def sections (floats : Floats F) (first : Text) (secret : Secret (Map F)) : Text :=
  ['.'].intercalate [first, "fakejwsheader".toList, encodeUrlSafe (utf8 (serialized floats secret)),
    "fakesignature".toList]

theorem toSigned_sections (secret : Secret (Map F)) :
    toSignedBase64String floats secret = .ok (sections floats "sealed".toList secret) := by
  rw [toSignedBase64String, sections]
  congr 1

theorem fromSigned_written {first : Text} (absent : '.' ∉ first) (secret : Secret (Map F)) :
    fromSignedBase64String floats (sections floats first secret) =
      fromBody floats (encodeUrlSafe (utf8 (serialized floats secret))) := by
  refine fromSigned_sections ?_
  simp only [List.forall_mem_cons]
  exact ⟨absent, by decide, dot_not_mem_encodeUrlSafe _, by decide, nofun⟩

theorem fromSlice_written (secret : Secret (Map F)) :
    fromSlice floats
      (utf8 (serialized floats secret)) = (JsonText.read floats ((toValue secret).write floats)).bind ofValue := by
  rw [fromSlice, fromUtf8_utf8, serialized]
  rfl

/-- serde_json reads the secret again: it is not too deep, and its floating-point numbers are read
as they are written. -/
structure Fits (floats : Floats F) (secret : Secret (Map F)) : Prop where
  shallow : (toValue secret).nesting < depthLimit
  readable : (toValue secret).Readable floats

theorem fromBody_fits {secret : Secret (Map F)} (fits : Fits floats secret) :
    fromBody floats (encodeUrlSafe (utf8 (serialized floats secret))) = .ok secret := by
  refine fromBody_ok.mpr ⟨_, decodeUrlSafe_encodeUrlSafe _, ?_⟩
  rw [fromSlice_written, JsonText.read_write fits.shallow fits.readable]
  exact ofValue_toValue secret

/-- A secret that serde_json reads again is found again in its text, and what is read of a text is
what the third of its four sections decodes to. -/
theorem sealed_format (floats : Floats F) :
    (∀ secret : Secret (Map F), Fits floats secret →
      ∃ text, toSignedBase64String floats secret = .ok text ∧ fromSignedBase64String floats text = .ok secret) ∧
    ∀ (text : Text) (secret : Secret (Map F)), fromSignedBase64String floats text = .ok secret →
      ∃ first header body signature json, split '.' text = [first, header, body, signature] ∧
        decodeUrlSafe body = some json ∧ fromSlice floats json = some secret := by
  constructor
  · intro secret fits
    refine ⟨_, toSigned_sections secret, ?_⟩
    rw [fromSigned_written (by decide), fromBody_fits fits]
  · intro text secret read
    exact fromSigned_ok read

/-- Nothing is read of the text of a secret that is too deep. -/
theorem fromSigned_deep {secret : Secret (Map F)} (readable : (toValue secret).Readable floats)
    (deep : depthLimit ≤ (toValue secret).nesting) {text : Text}
    (written : toSignedBase64String floats secret = .ok text)
    (other : Secret (Map F)) : fromSignedBase64String floats text ≠ .ok other := by
  rw [toSigned_sections] at written
  cases written
  rw [fromSigned_written (by decide)]
  intro read
  obtain ⟨json, decoded, parsed⟩ := fromBody_ok.mp read
  rw [decodeUrlSafe_encodeUrlSafe] at decoded
  cases decoded
  rw [fromSlice_written] at parsed
  obtain ⟨value, found, _⟩ := Option.bind_eq_some_iff.mp parsed
  have shallow := (JsonText.read_write_iff readable).mp (by rw [found]; rfl)
  omega

end Laws

section Samples

/-- No floating-point numbers. -/
def noFloats : Floats Empty where
  write number := nomatch number
  read _ := none
  valid number := nomatch number
  marked number := nomatch number

/-- Arrays within arrays. -/
def nested : Nat → Value Empty
  | 0 => .null
  | n + 1 => .array [nested n]

theorem nesting_nested (n : Nat) : (nested n).nesting = n := by
  induction n with
  | zero => rfl
  | succ n ih =>
    have step : (nested (n + 1)).nesting = max (nested n).nesting 0 + 1 := by
      rw [nested, Value.nesting, JsonText.nestingItems, JsonText.nestingItems]
    rw [step, ih, Nat.max_zero]

theorem distinct_nested (n : Nat) : (nested n).Distinct := by
  induction n with
  | zero => exact trivial
  | succ n ih => exact ⟨ih, trivial⟩

def emptyMap : Map Empty := ⟨[], List.nodup_nil, trivial⟩

def deepMap (n : Nat) : Map Empty := ⟨[("a".toList, nested n)], List.nodup_singleton _, distinct_nested n, trivial⟩

/-- A secret of the vault, with nested annotations. -/
def sampleSecret (annotations : Map Empty) : Secret (Map Empty) :=
  ⟨"0.1.0".toList, .vault ⟨"xxx".toList, "aliyun".toList, emptyMap, annotations⟩⟩

theorem sampleSecret_nesting (n : Nat) : (toValue (sampleSecret (deepMap n))).nesting = n + 2 := by
  simp [toValue, sampleSecret, contentFields, vaultFields, deepMap, emptyMap, JsonText.Map.value, Value.nesting,
    JsonText.nestingFields, nesting_nested]

theorem sample_readable (secret : Secret (Map Empty)) : (toValue secret).Readable noFloats :=
  fun number => nomatch number

theorem sealed_format_sample :
    (∃ text, toSignedBase64String noFloats (sampleSecret (deepMap 3)) = .ok text ∧
      fromSignedBase64String noFloats text = .ok (sampleSecret (deepMap 3))) ∧
    ∃ first header body signature json,
      split '.' (sections noFloats "sealed".toList (sampleSecret (deepMap 3))) = [first, header, body, signature] ∧
        decodeUrlSafe body = some json ∧ fromSlice noFloats json = some (sampleSecret (deepMap 3)) := by
  have fits : Fits noFloats (sampleSecret (deepMap 3)) :=
    ⟨by rw [sampleSecret_nesting]; decide, sample_readable _⟩
  have read : fromSignedBase64String noFloats (sections noFloats "sealed".toList (sampleSecret (deepMap 3))) =
      .ok (sampleSecret (deepMap 3)) := by
    rw [fromSigned_written (by decide), fromBody_fits fits]
  exact ⟨(sealed_format noFloats).1 _ fits, (sealed_format noFloats).2 _ _ read⟩

/-- A text with another first section is read, and a secret that is too deep is not found again in
its text. -/
theorem first_section_unread :
    (∃ (text : Text) (secret : Secret (Map Empty)), fromSignedBase64String noFloats text = .ok secret ∧
      (split '.' text).head? = some "unsealed".toList) ∧
    ∃ secret : Secret (Map Empty), ∀ text, toSignedBase64String noFloats secret = .ok text →
      fromSignedBase64String noFloats text ≠ .ok secret := by
  constructor
  · refine ⟨sections noFloats "unsealed".toList (sampleSecret emptyMap), sampleSecret emptyMap, ?_, ?_⟩
    · rw [fromSigned_written (by decide)]
      exact fromBody_fits ⟨by decide, sample_readable _⟩
    · rw [sections, split_intercalate]
      · rfl
      · simp only [List.forall_mem_cons]
        exact ⟨by decide, by decide, dot_not_mem_encodeUrlSafe _, by decide, nofun⟩
      · exact List.cons_ne_nil _ _
  · refine ⟨sampleSecret (deepMap 126), fun text written => fromSigned_deep (sample_readable _) ?_ written _⟩
    rw [sampleSecret_nesting]
    decide

end Samples

end GuestComponents.Hub.SealedSecret
