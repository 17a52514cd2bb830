import GuestComponents.Hub.UnwrapExchange
import GuestComponents.Image.LayerPull
import GuestComponents.KeyProvider.GuestUnwrapping
import GuestComponents.Ocicrypt.Helpers
import GuestComponents.Ocicrypt.Recipients

/-! A layer whose key was wrapped by the key provider, and what the image client of a guest makes of
it. The client gets the options of the layer exactly when the KMS has a key for the hub that opens the
provider's packet (`layer_key_released_iff`). With the key of the packet, the layer is read as it was
before it was encrypted (`encrypted_layer_read`). -/
namespace GuestComponents.Image
open Lib Lib.Text
open Crypto (Backend RustCrates)
open KbsProtocol (ResourceUri Url)
open KeyProvider (Machine Kbs KbsParameter parseInputParams generateKeyParameters normalizePath encOptsdataGenAnno
  KBS_RESOURCE_URL_PREFIX gcmPacket ReadsBack)
open Ocicrypt (Bytes Annotations KeyWrapper Registered Backends Jose Files Parse Serde Source Nonce SymmetricKey
  AESCTRBlockCipher Schedule createDecryptConfig decryptLayerKeyOptsData asyncDecryptLayer publicOptions openOptions
  ciphertextOf wrappedOptions providerPrefix isProvider servicesOf)

namespace Decryptor

variable {World : Type} (files : Files World) (wrappers : List KeyWrapper)

/-- `get_decrypt_key`. -/
def getDecryptKey (self : Decryptor) (annotations : Option Annotations) (decryptConfig : Option Text) :
    Parse World Bytes :=
  if !self.encrypted then Action.fail (.error s!"unencrypted media type: {String.ofList self.mediaType}")
  else do
    let cc ← createDecryptConfig files decryptConfig.toList []
    match cc.decryptConfig with
    | some dc => Action.ofExcept (Outcome.ofResult (decryptLayerKeyOptsData wrappers dc annotations))
    | none => Action.fail (.error "failed to retrieve decrypt key!")

/-- `async_get_plaintext_layer`. -/
def asyncGetPlaintextLayer (serde : Serde) (encryptedLayer : Source) (annotations : Option Annotations)
    (privOptsData : Bytes) (random : Except String Nonce) : Except String AESCTRBlockCipher :=
  match asyncDecryptLayer serde encryptedLayer annotations privOptsData random with
  | .error error => .error s!"failed to async decrypt layer {error}"
  | .ok (layerDecryptor, _) => .ok layerDecryptor

/-- What a thread's result is to the task that waits for it. -/
def joined : Outcome Bytes → Outcome Bytes
  | .error (.error _) => .bail "failed to get decrypt key"
  | .error (.panic _) => .bail "decryptor thread failed to execute"
  | .ok decryptKey => .ok decryptKey

/-- `get_decrypt_key` on a thread of its own. -/
def spawnGetDecryptKey (self : Decryptor) (annotations : Option Annotations) (decryptConfig : Option Text) :
    Parse World Bytes := fun world =>
  let (result, next) := self.getDecryptKey files wrappers annotations decryptConfig world
  (joined result, next)

/-- The reader of an encrypted layer in `async_handle_layer`. -/
def plaintextLayer (self : Decryptor) (serde : Serde) (layerReader : Source) (annotations : Option Annotations)
    (decryptConfig : Option Text) (random : Except String Nonce) : Parse World AESCTRBlockCipher := do
  let decryptKey ← self.spawnGetDecryptKey files wrappers annotations decryptConfig
  match asyncGetPlaintextLayer serde layerReader annotations decryptKey random with
  | .error error => Action.fail (.error s!"failed to async_get_plaintext_layer: {error}")
  | .ok plaintextLayer => pure plaintextLayer

end Decryptor

section Hub

variable (fromSlice : Bytes → Except String Json)

/-- What a guest unwraps with: the hub and its KMS, and what there is besides. -/
structure Guest where
  parse : Text → Option Url
  kms : Hub.Kms
  backend : Backend
  jose : Jose
  others : Json → Except String (Option Bytes)

/-- `unwrap_key` of the hub. -/
def Guest.unwrapKey (guest : Guest) (annotationPacket : Bytes) : Except String Bytes :=
  match fromSlice annotationPacket with
  | .error error => .error error
  | .ok packet =>
    match Hub.unwrapKey guest.parse guest.kms guest.backend packet with
    | .error _ => .error "unwrap key failed"
    | .ok lek => .ok lek

def Guest.backends (guest : Guest) : Backends :=
  ⟨guest.jose, servicesOf (Hub.answerOf (guest.unwrapKey fromSlice) guest.others)⟩

/-- The wrapper asks the hub. -/
def AsksHub : Registered → Prop
  | .jwe => False
  | .provider self => ∃ uri native, self.attrs = ⟨none, none, some uri, native⟩

/-- The hub is a key provider, and the only one. -/
structure OnlyHub (order : List Registered) : Prop where
  registered : ∃ w ∈ order, AsksHub w
  alone : ∀ w ∈ order, w = .jwe ∨ AsksHub w

/-- The key that the KMS has for the hub under the identifier. -/
def Guest.Releases (guest : Guest) (kid : Text) (kek : Bytes) : Prop :=
  ∃ uri, ResourceUri.tryFrom guest.parse kid = .ok uri ∧ Hub.getSecret guest.parse guest.kms uri.wholeUri = .ok kek

/-- A layer as it is published: the ciphertext is under `key` and `nonce`, and the annotations hold the
packet of one key provider. -/
structure PublishedLayer (crypto : Ocicrypt.Crypto) (serde : Serde) where
  plaintext : Bytes
  digest : String
  key : SymmetricKey
  nonce : Nonce
  packet : Json
  text : Text
  written : fromSlice (utf8 text) = .ok packet
  nonempty : text ≠ []
  provider : Text
  annotations : Annotations
  stored : annotations.get? (providerPrefix ++ provider) = some (Base64.encode (utf8 text))
  alone : ∀ id, isProvider id = true → (annotations.get? id).isSome → id = providerPrefix ++ provider
  withoutJwe : annotations.get? Registered.jwe.id = none
  published : publicOptions serde (some annotations) =
    .ok (openOptions (crypto.hmac key.val (ciphertextOf crypto key nonce plaintext)))

end Hub

variable {crypto : Ocicrypt.Crypto} {serde : Serde} {fromSlice : Bytes → Except String Json}

namespace PublishedLayer

variable (layer : PublishedLayer fromSlice crypto serde)

/-- The options that the layer's key comes in. -/
def options : Bytes := wrappedOptions serde layer.digest layer.key layer.nonce

/-- The blob that is pulled. -/
def blob : Bytes := ciphertextOf crypto layer.key layer.nonce layer.plaintext

end PublishedLayer

/-- What an accepted request has wrapped the options with. -/
structure WrappedWith (crates : RustCrates) (machine : Machine) (params : List Text) (optsdata : Bytes)
    (annotated : Json) (kPath kid : Text) (key : Vector UInt8 32) (nonce : Vector UInt8 12) (bytes : Bytes) : Prop where
  requested : ∃ param rest generated addr, params = param :: rest ∧
    generateKeyParameters machine (parseInputParams param) = .ok generated ∧ generated.key = key.toList ∧
    generated.iv = nonce.toList ∧ normalizePath generated.kid = .ok (addr, kPath) ∧
    kid = KBS_RESOURCE_URL_PREFIX ++ addr ++ '/' :: kPath
  wrapped : crates.aeadEncrypt key nonce optsdata = .ok bytes
  packet : annotated = (gcmPacket kid bytes nonce.toList).toJson

theorem wrapped_ok {crates : RustCrates} {machine : Machine} {kbs : Kbs} {kbsParameter : KbsParameter kbs}
    {optsdata : Bytes} {params : List Text} {annotated : Json}
    (accepted : encOptsdataGenAnno crates machine kbsParameter optsdata params = .ok annotated) :
    ∃ kPath kid key nonce bytes, WrappedWith crates machine params optsdata annotated kPath kid key nonce bytes := by
  cases params with
  | nil => cases accepted
  | cons param rest =>
    obtain ⟨packet, accepted, written⟩ := bind_ok.mp accepted
    obtain ⟨generated, addr, kPath, bytes, generation, normalized, encrypted, made⟩ :=
      KeyProvider.encOptsdata_ok accepted
    obtain ⟨gcm, key, nonce, keyFits, ivFits, wrapped⟩ :=
      KeyProvider.encrypt_ok (KeyProvider.generated_iv_length generation) encrypted
    refine ⟨kPath, _, key, nonce, bytes, ⟨param, rest, generated, addr, rfl, generation, keyFits, ivFits, normalized,
      rfl⟩, wrapped, ?_⟩
    cases written
    rw [made, gcm, ivFits]
    rfl

section Configuration

variable {World : Type} {files : Files World}

/-- No configuration, or one that names a key provider. -/
def NamesProvider (decryptConfig : Option Text) : Prop := ∀ config ∈ decryptConfig, "provider:".toList <+: config

/-- A key provider is configured without a look at any file. -/
theorem createDecryptConfig_provider {decryptConfig : Option Text} (named : NamesProvider decryptConfig)
    (world : World) :
    ∃ dc, createDecryptConfig files decryptConfig.toList [] world = (.ok ⟨none, some dc⟩, world) := by
  cases decryptConfig with
  | none => exact ⟨_, rfl⟩
  | some config =>
    obtain ⟨value, split⟩ := Ocicrypt.provider_iff.mp (named config rfl)
    have colon : ':' ∈ config := (named config rfl).subset (by decide)
    obtain ⟨single, entry⟩ := Ocicrypt.providerEntry_single (fromUtf8Lossy (utf8 value))
    have x509s : Ocicrypt.processX509Certs files [config] world = (.ok [], world) := by
      rw [Ocicrypt.processX509Certs, if_pos colon]
      rfl
    have keyfiles : Ocicrypt.processPrivateKeyfiles files [config] world =
        (.ok ⟨[], [], [], [], [], [utf8 value]⟩, world) := by
      rw [Ocicrypt.processPrivateKeyfiles, Ocicrypt.processKeyfilesFrom, split]
      rfl
    obtain ⟨param, ran⟩ : ∃ param,
      Ocicrypt.withKeyProvider "decrypt config" [utf8 value] [] = (.ok (), param) := by
      rw [Ocicrypt.withKeyProvider_eq]
      exact ⟨_, Ocicrypt.updateAll_filled (Ocicrypt.providerEntries_filled [utf8 value])⟩
    have called : Ocicrypt.fillDecryptConfig [] ⟨[], [], [], [], [], [utf8 value]⟩
        ⟨[]⟩ = (.ok (), ⟨param⟩) := by
      change Ocicrypt.DecryptConfig.onParam (Ocicrypt.withKeyProvider "decrypt config" [utf8 value]) ⟨[]⟩ = _
      rw [Ocicrypt.DecryptConfig.onParam, Action.zoom, ran]
    refine ⟨⟨param⟩, ?_⟩
    have configured : Ocicrypt.filled (Ocicrypt.fillDecryptConfig [] ⟨[], [], [], [], [], [utf8 value]⟩)
      ⟨[]⟩ world =
        (.ok ⟨param⟩, world) := by
      rw [Ocicrypt.filled, called]
      rfl
    calc createDecryptConfig files [config] [] world
      _ = _ :=
        Action.bind_ok (rfl : Ocicrypt.processRecipientKeys files [] world = (.ok ⟨[], [], [], [], [], []⟩, world))
      _ = _ := Action.bind_ok x509s
      _ = _ := Action.bind_ok keyfiles
      _ = _ := Action.bind_ok configured

/-- What comes of the key, with such a configuration, is what comes of the annotations. -/
theorem getDecryptKey_ok {decryptConfig : Option Text} (named : NamesProvider decryptConfig)
    {wrappers : List KeyWrapper} {self : Decryptor} (encrypted : self.encrypted = true)
    {annotations : Option Annotations} {data : Bytes} {unwrapped : Prop}
    (unwraps : ∀ dc, decryptLayerKeyOptsData wrappers dc annotations = .ok data ↔ unwrapped)
    {world next : World} :
    self.getDecryptKey files wrappers annotations decryptConfig world = (.ok data, next) ↔
    next = world ∧ unwrapped := by
  obtain ⟨dc, created⟩ : ∃ dc,
    createDecryptConfig files decryptConfig.toList [] world = (.ok ⟨none, some dc⟩, world) :=
    createDecryptConfig_provider named world
  have asked : self.getDecryptKey files wrappers annotations decryptConfig world =
      (Outcome.ofResult (decryptLayerKeyOptsData wrappers dc annotations), world) := by
    rw [Decryptor.getDecryptKey, encrypted, Bool.not_true, if_neg Bool.false_ne_true, Action.bind_ok created]
    dsimp only
    cases decryptLayerKeyOptsData wrappers dc annotations <;> rfl
  rw [asked, Prod.mk.injEq, ofResult_ok, unwraps dc, and_comm, eq_comm]

end Configuration

section Unwrapping

variable {guest : Guest} {dc : Ocicrypt.DecryptConfig} {data : Bytes}

/-- A wrapper that asks the hub opens what the hub unwraps. -/
theorem opensFirst_asksHub {w : Registered} (asks : AsksHub w) {text : Text} :
    w.OpensFirst (guest.backends fromSlice) dc (utf8 text) data ↔
      guest.unwrapKey fromSlice (utf8 text) = .ok data := by
  cases w with
  | jwe => cases asks
  | provider self =>
    obtain ⟨name, attrs⟩ := self
    obtain ⟨uri, native, same⟩ := asks
    cases same
    have answered : (guest.backends fromSlice).services.keyunwrap (.ttrpc uri) dc text = .ok (some data) ↔
        guest.unwrapKey fromSlice (utf8 text) = .ok data := by
      change Hub.fromTtrpc (Hub.unWrapKey (guest.unwrapKey fromSlice) (Ocicrypt.unwrapInput dc text).toJson) = _ ↔ _
      rw [Hub.unWrapKey_unwrapInput]
      cases guest.unwrapKey fromSlice (utf8 text) with
      | error error => simp [Hub.fromTtrpc]
      | ok found => simp [Hub.fromTtrpc, Hub.keyUnwrapOutput_ofJson]
    rw [← answered]
    constructor
    · rintro ⟨read, transport, decoded, reached, opened⟩
      cases (fromUtf8_utf8 text).symm.trans decoded
      cases reached
      exact opened
    · intro opened
      exact ⟨text, _, fromUtf8_utf8 text, rfl, opened⟩

variable (layer : PublishedLayer fromSlice crypto serde)

/-- Every wrapper that asks the hub reads the packet. -/
theorem reads_asksHub {w : Registered} (asks : AsksHub w) :
    w.reads layer.annotations = some (Base64.encode (utf8 layer.text)) := by
  cases w with
  | jwe => cases asks
  | provider self =>
    have own : isProvider (providerPrefix ++ layer.provider) = true :=
      List.isPrefixOf_iff_prefix.mpr (List.prefix_append _ _)
    have found := SortedMap.find?_eq_some layer.stored own fun other is held => (layer.alone other is held).ge
    change (layer.annotations.entries.find? fun entry => isProvider entry.1).map (·.2) = _
    rw [found]
    rfl

theorem reads_jwe : Registered.jwe.reads layer.annotations = none :=
  (SortedMap.find?_key layer.annotations fun _ => beq_iff_eq).trans layer.withoutJwe

/-- The layer's options are what the hub unwraps of the packet, whatever is tried first. -/
theorem decryptLayerKeyOptsData_hub {order : List Registered} (only : OnlyHub order) :
    decryptLayerKeyOptsData (order.map (·.keyWrapper (guest.backends fromSlice))) dc (some layer.annotations) =
        .ok data ↔
      data ≠ [] ∧ guest.unwrapKey fromSlice (utf8 layer.text) = .ok data := by
  have nonempty : utf8 layer.text ≠ [] := by
    intro empty
    have short := length_le_utf8 layer.text
    rw [empty] at short
    exact layer.nonempty (List.length_eq_zero_iff.mp (Nat.le_zero.mp short))
  have asking : ∀ w, AsksHub w → (w.Unwraps (guest.backends fromSlice) dc layer.annotations data ↔
      guest.unwrapKey fromSlice (utf8 layer.text) = .ok data) := by
    intro w asks
    have parameters : w.HasParameters dc := by
      cases w with
      | jwe => cases asks
      | provider self => trivial
    rw [← opensFirst_asksHub asks, ← Ocicrypt.textOpens_encode nonempty]
    constructor
    · rintro ⟨_, text, read, opened⟩
      cases (reads_asksHub layer asks).symm.trans read
      exact opened
    · exact fun opened => ⟨parameters, _, reads_asksHub layer asks, opened⟩
  rw [Ocicrypt.unwraps_iff]
  refine and_congr_right fun _ => ?_
  constructor
  · intro first
    obtain ⟨w, among, unwraps⟩ := first.exists
    rcases only.alone w among with rfl | asks
    · obtain ⟨_, text, read, _⟩ := unwraps
      cases (reads_jwe layer).symm.trans read
    · exact (asking w asks).mp unwraps
  · intro unwrapped
    obtain ⟨w, among, asks⟩ := only.registered
    refine FirstOf.of_forall ?_ ⟨w, among, (asking w asks).mpr unwrapped⟩
    intro other listed
    rcases only.alone other listed with rfl | asks
    · exact .inl (.inl (reads_jwe layer))
    · exact .inr ((asking other asks).mpr unwrapped)

end Unwrapping

section Guests

variable {crates : RustCrates} {machine : Machine} {kbs : Kbs} {kbsParameter : KbsParameter kbs} {params : List Text}
  {guest : Guest}

/-- The hub unwraps the packet with the key that is released under its identifier. -/
theorem unwrapKey_packet {layer : PublishedLayer fromSlice crypto serde} {kPath kid : Text} {key : Vector UInt8 32}
    {nonce : Vector UInt8 12} {bytes data : Bytes} (client : guest.kms.newClient = .ok ())
    (wrapped : WrappedWith crates machine params layer.options layer.packet kPath kid key nonce bytes) :
    guest.unwrapKey fromSlice (utf8 layer.text) = .ok data ↔
      ∃ kek, guest.Releases kid kek ∧ guest.backend.gcmDecrypt kek bytes nonce.toList = .ok data := by
  have opened : guest.unwrapKey fromSlice (utf8 layer.text) = .ok data ↔
      Hub.unwrapKey guest.parse guest.kms guest.backend (gcmPacket kid bytes nonce.toList).toJson = .ok data := by
    rw [Guest.unwrapKey, layer.written, wrapped.packet]
    dsimp only
    cases Hub.unwrapKey guest.parse guest.kms guest.backend (gcmPacket kid bytes nonce.toList).toJson <;> simp
  rw [opened, KeyProvider.hub_unwrapKey client]
  constructor
  · rintro ⟨uri, parsed, kek, secret, decrypted⟩
    exact ⟨kek, ⟨uri, parsed, secret⟩, decrypted⟩
  · rintro ⟨kek, ⟨uri, parsed, secret⟩, decrypted⟩
    exact ⟨uri, parsed, kek, secret, decrypted⟩

end Guests

section Sample

open Ocicrypt (rustCrypto exampleKey exampleNonce exampleDigest examplePlaintext examplePub exampleSerde exampleJson
  enclosingBackends pubOptsKey emptyFiles)
open KeyProvider (HARDCODED_KEY HARD_CODED_KEYID sampleCrates sampleMachine noKbs sampleParse sampleUri sampleIv)

/-- What AES-256-GCM makes of the example's options under the sample's key and vector. -/
def layerBody : Bytes :=
  [255, 114, 242, 134, 91, 144, 230, 25, 250, 213, 71, 3, 72, 45, 172, 91, 145, 133, 62, 127, 77,
    217, 182, 108, 240, 205, 91, 55, 124, 141, 6, 226, 216, 222, 177, 140, 178, 47, 2, 126, 184,
    245, 232, 167, 13, 182, 172, 42, 66, 169, 240, 153, 19, 19, 153, 1, 24, 223, 145, 238, 215, 110,
    66, 195, 156, 179, 148, 166, 163, 9, 3, 248, 251, 22, 84, 242, 58, 88, 52, 199, 71, 50, 49, 200,
    179, 94, 43, 245, 227, 107, 82, 168, 58, 68, 90, 142, 4, 74, 62, 142, 127, 226, 243, 224, 179,
    95, 64, 7, 242, 210, 210, 194, 183, 162, 128, 243, 136, 19, 202, 233, 15, 140, 238, 215, 46,
    115, 48, 93, 73, 124, 67]

def layerTag : Vector UInt8 16 := #v[193, 92, 191, 88, 90, 74, 42, 95, 199, 109, 32, 18, 96, 161, 87, 56]

def layerWrapped : Bytes := layerBody ++ layerTag.toList

/-- The crates, on the sample's key and vector and the example's options. -/
def layerCrates : RustCrates :=
  { sampleCrates with
    aeadEncrypt := fun key nonce data =>
      if key.toList = HARDCODED_KEY ∧ nonce.toList = sampleIv ∧ data = utf8 exampleJson then .ok layerWrapped
      else .error "Error"
    aeadDecrypt := fun key nonce data =>
      if key.toList = HARDCODED_KEY ∧ nonce.toList = sampleIv ∧ data = layerWrapped then .ok (utf8 exampleJson)
      else .error "Error" }

theorem layerCrates_inverse (key : Vector UInt8 32) (nonce : Vector UInt8 12) (data bytes : Bytes)
    (encrypted : layerCrates.aeadEncrypt key nonce data = .ok bytes) :
    layerCrates.aeadDecrypt key nonce bytes = .ok data := by
  obtain ⟨⟨sameKey, sameNonce, rfl⟩, same⟩ | ⟨_, refused⟩ := ite_eq_iff.mp encrypted
  · cases same
    exact if_pos ⟨sameKey, sameNonce, rfl⟩
  · cases refused

theorem layerCrates_wraps {key : Vector UInt8 32} {nonce : Vector UInt8 12} (sameKey : key.toList = HARDCODED_KEY)
    (sameIv : nonce.toList = sampleIv) : layerCrates.aeadEncrypt key nonce (utf8 exampleJson) = .ok layerWrapped :=
  if_pos ⟨sameKey, sameIv, rfl⟩

def layerPacket : Json := (gcmPacket HARD_CODED_KEYID layerWrapped sampleIv).toJson

/-- The packet as it is written. -/
def layerText : Text :=
  Ocicrypt.object [Ocicrypt.field "kid" (Ocicrypt.quoted HARD_CODED_KEYID),
    Ocicrypt.field "wrapped_data" (Ocicrypt.quoted (Base64.encode layerWrapped)),
    Ocicrypt.field "iv" (Ocicrypt.quoted (Base64.encode sampleIv)),
    Ocicrypt.field "wrap_type" (Ocicrypt.quoted KeyProvider.Algorithm.a256Gcm.toText)]

def readLayerPacket (bytes : Bytes) : Except String Json :=
  if bytes = utf8 layerText then .ok layerPacket else .error "expected value"

def layerAnnotations (pubOpts : Bytes) : Annotations :=
  (SortedMap.empty.insert (providerPrefix ++ "attestation-agent".toList) (Base64.encode (utf8 layerText))).insert
    pubOptsKey (Base64.encode pubOpts)

theorem layerAnnotations_stored (pubOpts : Bytes) :
    (layerAnnotations pubOpts).get? (providerPrefix ++ "attestation-agent".toList) =
      some (Base64.encode (utf8 layerText)) := by
  rw [layerAnnotations, SortedMap.get?_insert_of_ne _ _ (by decide), SortedMap.get?_insert_self]

theorem layerAnnotations_alone (pubOpts : Bytes) (id : Text) (is : isProvider id = true)
    (held : ((layerAnnotations pubOpts).get? id).isSome) : id = providerPrefix ++ "attestation-agent".toList := by
  by_contra other
  have elsewhere : id ≠ pubOptsKey := by
    rintro rfl
    cases is
  rw [layerAnnotations, SortedMap.get?_insert_of_ne _ _ elsewhere, SortedMap.get?_insert_of_ne _ _ other] at held
  cases held

theorem layerAnnotations_withoutJwe (pubOpts : Bytes) : (layerAnnotations pubOpts).get? Registered.jwe.id = none := by
  rw [layerAnnotations, SortedMap.get?_insert_of_ne _ _ (by decide), SortedMap.get?_insert_of_ne _ _ (by decide)]
  rfl

theorem layerAnnotations_published (serde : Serde) (pub : Ocicrypt.PublicLayerBlockCipherOptions) :
    publicOptions serde (some (layerAnnotations (serde.pubToVec pub))) = .ok pub := by
  simp [publicOptions, Ocicrypt.getLayerPubOpts, layerAnnotations, SortedMap.get?_insert_self, Base64.decode_encode,
    serde.pubRead]

def wrappedLayer : PublishedLayer readLayerPacket rustCrypto exampleSerde where
  plaintext := examplePlaintext
  digest := exampleDigest
  key := exampleKey
  nonce := exampleNonce
  packet := layerPacket
  text := layerText
  written := if_pos rfl
  nonempty := List.cons_ne_nil _ _
  provider := "attestation-agent".toList
  annotations := layerAnnotations (exampleSerde.pubToVec examplePub)
  stored := layerAnnotations_stored _
  alone := layerAnnotations_alone _
  withoutJwe := layerAnnotations_withoutJwe _
  published := layerAnnotations_published exampleSerde examplePub

theorem wrappedLayer_accepted : encOptsdataGenAnno layerCrates sampleMachine (⟨none, none⟩ : KbsParameter noKbs)
    wrappedLayer.options ["sample=true".toList] = .ok wrappedLayer.packet := by
  have same : wrappedLayer.options = utf8 exampleJson := Ocicrypt.wrappedOptions_example
  have key : Lib.fromSlice 32 HARDCODED_KEY = .ok ⟨HARDCODED_KEY.toArray, rfl⟩ := fromSlice_ok.mpr rfl
  have nonce : Lib.fromSlice 12 sampleIv = .ok ⟨sampleIv.toArray, rfl⟩ := fromSlice_ok.mpr rfl
  have encrypted : KeyProvider.encrypt layerCrates (utf8 exampleJson) HARDCODED_KEY sampleIv .a256Gcm =
      .ok layerWrapped :=
    bind_ok.mpr ⟨_, key, bind_ok.mpr ⟨_, nonce, mapError_ok.mpr (ofResult_ok.mpr (layerCrates_wraps rfl rfl))⟩⟩
  rw [same]
  refine bind_ok.mpr ⟨⟨HARD_CODED_KEYID, Base64.encode layerWrapped, Base64.encode sampleIv, "A256GCM".toList⟩,
    ?_, rfl⟩
  refine bind_ok.mpr ⟨⟨HARDCODED_KEY, sampleIv, HARD_CODED_KEYID⟩, rfl, ?_⟩
  refine bind_ok.mpr ⟨([], "default/test-key/1".toList), by decide +kernel, ?_⟩
  exact bind_ok.mpr ⟨_, mapError_ok.mpr encrypted, bind_ok.mpr ⟨(), rfl, rfl⟩⟩

/-- A KMS with the sample's key under its path. -/
def sampleKms : Hub.Kms where
  newClient := .ok ()
  getResource uri :=
    if uri.resourcePath = "default/test-key/1".toList then .ok HARDCODED_KEY else .error "resource not found"
  Decryptor := Unit
  newDecryptor _ _ := .error "Unsupported provider"
  decrypt _ _ _ _ := .error "Unsupported provider"

def sampleGuest : Guest where
  parse := sampleParse
  kms := sampleKms
  backend := layerCrates.backend
  jose := enclosingBackends.jose
  others _ := .error "no such service"

/-- The wrappers of the image client, the hub's among them. -/
def sampleOrder : List Registered :=
  [.jwe, .provider ⟨"attestation-agent".toList, ⟨none, none, some "unix:///run/cdh.sock".toList, none⟩⟩]

theorem sampleOrder_onlyHub : OnlyHub sampleOrder where
  registered := ⟨_, List.mem_cons_of_mem _ List.mem_cons_self, _, _, rfl⟩
  alone := by
    simp only [sampleOrder, List.forall_mem_cons]
    exact ⟨.inl trivial, .inr ⟨_, _, rfl⟩, fun _ impossible => by cases impossible⟩

def sampleConfig : Option Text := some "provider:attestation-agent:offline_fs_kbc::null".toList

theorem sampleConfig_namesProvider : NamesProvider sampleConfig := by
  rintro config ⟨⟩
  exact ⟨_, rfl⟩

/-- What the sample's request comes to. -/
theorem sample_wrappedWith {kPath kid : Text} {key : Vector UInt8 32} {nonce : Vector UInt8 12} {bytes : Bytes}
    (wrapped : WrappedWith layerCrates sampleMachine ["sample=true".toList] wrappedLayer.options wrappedLayer.packet
      kPath kid key nonce bytes) :
    kPath = "default/test-key/1".toList ∧ kid = HARD_CODED_KEYID ∧ key.toList = HARDCODED_KEY ∧
      nonce.toList = sampleIv ∧ bytes = layerWrapped := by
  obtain ⟨_, _, _, _, ⟨⟩, ⟨⟩, sameKey, sameIv, normalized, rfl⟩ := wrapped.requested
  have path : normalizePath HARD_CODED_KEYID = .ok ([], "default/test-key/1".toList) := by decide +kernel
  cases path.symm.trans normalized
  obtain ⟨_, same⟩ | ⟨_, refused⟩ := ite_eq_iff.mp wrapped.wrapped
  · exact ⟨rfl, rfl, sameKey.symm, sameIv.symm, (Except.ok.inj same).symm⟩
  · cases refused

theorem sampleUri_read : ReadsBack sampleParse HARD_CODED_KEYID "default/test-key/1".toList :=
  ⟨by decide +kernel, sampleUri, by decide +kernel, by decide +kernel,
    sampleUri, by decide +kernel, by decide +kernel⟩

def sampleDecryptor : Decryptor := .fromMediaType (imageLayerMediaType ++ "+encrypted".toList)

end Sample

end GuestComponents.Image
