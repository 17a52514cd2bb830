import GuestComponents.Lib.SortedMap
import GuestComponents.Ocicrypt.KeyWrap
import Mathlib.Data.Char
import Mathlib.Data.List.Lex

/-! Layer encryption and decryption over the registered key wrappers: the private
options of the cipher are wrapped into one annotation for each wrapper, the
public ones stand in an annotation of their own. The JSON form of the options is
serde's and a parameter. -/
namespace GuestComponents.Ocicrypt
open Lib Lib.Text

/-- A descriptor's annotations, a `BTreeMap`. -/
abbrev Annotations := SortedMap Text Text

/-- The JSON forms of the options: what was written is read back, and the empty
text is no JSON. -/
structure Serde where
  privToVec : PrivateLayerBlockCipherOptions → Bytes
  privFromSlice : Bytes → Except String PrivateLayerBlockCipherOptions
  pubToVec : PublicLayerBlockCipherOptions → Bytes
  pubFromSlice : Bytes → Except String PublicLayerBlockCipherOptions
  privRead : ∀ opts, privFromSlice (privToVec opts) = .ok opts
  pubRead : ∀ opts, pubFromSlice (pubToVec opts) = .ok opts
  privEmpty : ∃ error, privFromSlice [] = .error error
  pubEmpty : ∃ error, pubFromSlice [] = .error error

def aes256Ctr : String := "AES_256_CTR_HMAC_SHA256"

/-- `org.opencontainers.image.enc.pubopts`. -/
def pubOptsKey : Text := "org.opencontainers.image.enc.pubopts".toList

/-- `#[derive(Default)]` of the options. -/
def PublicLayerBlockCipherOptions.default : PublicLayerBlockCipherOptions := ⟨"", [], []⟩

def LayerBlockCipherOptions.default : LayerBlockCipherOptions := ⟨.default, ⟨[], [], ""⟩⟩

/-- What `rand_bytes` fills a key buffer with. -/
abbrev SymmetricKey := { bytes : Bytes // bytes.length = aes256KeySize }

/-- The random bytes of one encryption. -/
structure Randomness where
  key : Except String SymmetricKey
  nonce : Except String Nonce

namespace LayerBlockCipherHandler

/-- `LayerBlockCipherHandler::new`. -/
def new : Except String AESCTRBlockCipher := AESCTRBlockCipher.new 256

/-- `LayerBlockCipherHandler::encrypt`. -/
def encrypt (cipher : AESCTRBlockCipher) (reader : Source) (typ : String) (random : Randomness)
    (opts : LayerBlockCipherOptions) :
    Except String (AESCTRBlockCipher × LayerBlockCipherOptions) :=
  if typ ≠ aes256Ctr then .error s!"unsupported cipher type {typ}"
  else match random.key with
    | .error error => .error error
    | .ok key =>
      cipher.encrypt reader random.nonce
        ⟨{ opts.pub with cipherType := aes256Ctr }, { opts.priv with symmetricKey := key.val }⟩

/-- `LayerBlockCipherHandler::decrypt`. -/
def decrypt (cipher : AESCTRBlockCipher) (reader : Source) (random : Except String Nonce)
    (opts : LayerBlockCipherOptions) :
    Except String (AESCTRBlockCipher × LayerBlockCipherOptions) :=
  let typ := opts.pub.cipherType
  if typ ≠ aes256Ctr then .error s!"unsupported cipher type {typ}"
  else cipher.decrypt reader random opts

end LayerBlockCipherHandler

section Wrapping

/-- `pre_wrap_key`. -/
def preWrapKey (keywrapper : KeyWrapper) (ec : EncryptConfig) (b64Annotations : Text)
    (optsData : Bytes) : Except String Text :=
  match keywrapper.wrapKeys ec optsData with
  | .error error => .error error
  | .ok newAnnotation =>
    if newAnnotation = [] then .error "new annotations is empty!"
    else
      let b64NewAnnotation := Base64.encode newAnnotation
      if b64Annotations = [] then .ok b64NewAnnotation
      else .ok (b64Annotations ++ ',' :: b64NewAnnotation)

/-- The loop of `pre_unwrap_key` over the parts, with the errors so far. -/
def unwrapParts (keywrapper : KeyWrapper) (dc : DecryptConfig) : List Text → String → Except String Bytes
  | [], errs => .error s!"no suitable key found for decrypting layer key:\n {errs}"
  | b64Annotation :: rest, errs =>
    match Base64.decode b64Annotation with
    | none => .error "invalid base64"
    | some envelope =>
      match keywrapper.unwrapKeys dc envelope with
      | .error error => unwrapParts keywrapper dc rest (errs ++ error)
      | .ok optsData => .ok optsData

/-- `pre_unwrap_key`. -/
def preUnwrapKey (keywrapper : KeyWrapper) (dc : DecryptConfig) (b64Annotations : Text) :
    Except String Bytes :=
  if b64Annotations = [] then .error "annotations is empty!"
  else unwrapParts keywrapper dc (split ',' b64Annotations) ""

def isProvider (id : Text) : Bool := providerPrefix.isPrefixOf id

/-- `get_layer_key_opts`: for a key provider, whatever provider the first
annotation of one names. -/
def getLayerKeyOpts (annotationsId : Text) (annotations : Annotations) : Option Text :=
  if isProvider annotationsId then
    (annotations.entries.find? fun entry => isProvider entry.1).map (·.2)
  else annotations.get? annotationsId

/-- The loop of `decrypt_layer_key_opts_data` over the wrappers. -/
def unwrapWith (dc : DecryptConfig) (annotations : Annotations) :
    List KeyWrapper → Bool → Except String Bytes
  | [], privKeyGiven =>
    if !privKeyGiven then .error "missing private key needed for decryption"
    else .error
      "no suitable key unwrapper found or none of the private keys could be used for decryption"
  | keywrapper :: rest, privKeyGiven =>
    match getLayerKeyOpts keywrapper.annotationId annotations with
    | none => unwrapWith dc annotations rest privKeyGiven
    | some b64Annotation =>
      if !keywrapper.probe dc.param then unwrapWith dc annotations rest privKeyGiven
      else
        let privKeyGiven := privKeyGiven || (keywrapper.privateKeys dc.param).isSome
        match preUnwrapKey keywrapper dc b64Annotation with
        | .error error => .error error
        | .ok optsData =>
          if optsData ≠ [] then .ok optsData else unwrapWith dc annotations rest privKeyGiven

/-- `decrypt_layer_key_opts_data`. -/
def decryptLayerKeyOptsData (wrappers : List KeyWrapper) (dc : DecryptConfig)
    (annotations : Option Annotations) : Except String Bytes :=
  unwrapWith dc (annotations.getD .empty) wrappers false

end Wrapping

section Layers

variable (serde : Serde) (wrappers : List KeyWrapper)

/-- `get_layer_pub_opts`. -/
def getLayerPubOpts (annotations : Annotations) : Except String Bytes :=
  match annotations.get? pubOptsKey with
  | some pubOpts =>
    match Base64.decode pubOpts with
    | none => .error "invalid base64"
    | some bytes => .ok bytes
  | none => .ok (serde.pubToVec .default)

/-- The loop of `finalize_annotations` over the wrappers. -/
def wrapWith (ec : EncryptConfig) (annotations : Annotations) (privOpts : Bytes) :
    List KeyWrapper → Annotations → Bool → Except String (Annotations × Bool)
  | [], newAnnotations, keysWrapped => .ok (newAnnotations, keysWrapped)
  | keywrapper :: rest, newAnnotations, keysWrapped =>
    let b64Annotations := (annotations.get? keywrapper.annotationId).getD []
    match preWrapKey keywrapper ec b64Annotations privOpts with
    | .error error => .error error
    | .ok b64Annotations =>
      if b64Annotations ≠ [] then
        wrapWith ec annotations privOpts rest
          (newAnnotations.insert keywrapper.annotationId b64Annotations) true
      else wrapWith ec annotations privOpts rest newAnnotations keysWrapped

/-- `EncLayerFinalizer::finalize_annotations`, over the finalizer's options. -/
def finalizeAnnotations (lbco : LayerBlockCipherOptions) (ec : EncryptConfig)
    (annotations : Option Annotations) (finalizer : Option AESCTRBlockCipher) :
    Except String Annotations :=
  let finalized : Except String (Bytes × Bytes) :=
    match finalizer with
    | none => .ok ([], [])
    | some cipher =>
      (cipher.finalizedLbco lbco).map fun lbco => (serde.privToVec lbco.priv, serde.pubToVec lbco.pub)
  match finalized with
  | .error error => .error error
  | .ok (privOpts, pubOpts) =>
    match wrapWith ec (annotations.getD .empty) privOpts wrappers .empty false with
    | .error error => .error error
    | .ok (newAnnotations, keysWrapped) =>
      if !keysWrapped then .error "no wrapped keys produced by encryption"
      else if newAnnotations.entries = [] then .error "no encryptor found to handle encryption"
      else .ok (newAnnotations.insert pubOptsKey (Base64.encode pubOpts))

/-- The loop of `encrypt_layer`: whether the layer is encrypted already. -/
def alreadyEncrypted (ec : EncryptConfig) (annotations : Option Annotations) :
    List KeyWrapper → Bool → Except String Bool
  | [], encrypted => .ok encrypted
  | keywrapper :: rest, encrypted =>
    let anno := annotations.getD .empty
    if anno.contains keywrapper.annotationId then
      match ec.decryptConfig with
      | none => .error "EncryptConfig::decrypt_config must not be None for encrypted layers"
      | some decryptConfig =>
        match decryptLayerKeyOptsData wrappers decryptConfig annotations with
        | .error error => .error error
        | .ok _ =>
          match getLayerPubOpts serde anno with
          | .error error => .error error
          | .ok _ => alreadyEncrypted ec annotations rest true
    else alreadyEncrypted ec annotations rest encrypted

/-- `encrypt_layer`: the reader of the ciphertext, unless the layer is encrypted
already, and the finalizer's options. -/
def encryptLayer (ec : EncryptConfig) (layerReader : Source) (annotations : Option Annotations)
    (digest : String) (random : Randomness) :
    Except String (Option AESCTRBlockCipher × LayerBlockCipherOptions) :=
  match alreadyEncrypted serde wrappers ec annotations wrappers false with
  | .error error => .error error
  | .ok true => .ok (none, .default)
  | .ok false =>
    match LayerBlockCipherHandler.new with
    | .error error => .error error
    | .ok lbch =>
      match LayerBlockCipherHandler.encrypt lbch layerReader aes256Ctr random .default with
      | .error error => .error error
      | .ok (lbch, lbco) => .ok (some lbch, { lbco with priv := { lbco.priv with digest := digest } })

/-- `async_decrypt_layer`: the reader of the plaintext and the digest, from
unwrapped private options. -/
def asyncDecryptLayer (layerReader : Source) (annotations : Option Annotations) (privOptsData : Bytes)
    (random : Except String Nonce) : Except String (AESCTRBlockCipher × String) :=
  match getLayerPubOpts serde (annotations.getD .empty) with
  | .error error => .error error
  | .ok pubOptsData =>
    match serde.pubFromSlice pubOptsData with
    | .error error => .error error
    | .ok pubOpts =>
      match serde.privFromSlice privOptsData with
      | .error error => .error error
      | .ok privOpts =>
        match LayerBlockCipherHandler.new with
        | .error error => .error error
        | .ok lbch =>
          match LayerBlockCipherHandler.decrypt lbch layerReader random ⟨pubOpts, privOpts⟩ with
          | .error error => .error error
          | .ok (lbch, opts) => .ok (lbch, opts.priv.digest)

/-- `decrypt_layer`. -/
def decryptLayer (dc : DecryptConfig) (layerReader : Source) (annotations : Option Annotations)
    (unwrapOnly : Bool) (random : Except String Nonce) :
    Except String (Option AESCTRBlockCipher × String) :=
  match decryptLayerKeyOptsData wrappers dc annotations with
  | .error error => .error error
  | .ok privOptsData =>
    match getLayerPubOpts serde (annotations.getD .empty) with
    | .error error => .error error
    | .ok pubOptsData =>
      if unwrapOnly then .ok (none, "")
      else match serde.privFromSlice privOptsData with
        | .error error => .error error
        | .ok privOpts =>
          match serde.pubFromSlice pubOptsData with
          | .error error => .error error
          | .ok pubOpts =>
            match LayerBlockCipherHandler.new with
            | .error error => .error error
            | .ok lbch =>
              match LayerBlockCipherHandler.decrypt lbch layerReader random ⟨pubOpts, privOpts⟩ with
              | .error error => .error error
              | .ok (lbch, opts) => .ok (some lbch, opts.priv.digest)

end Layers

end GuestComponents.Ocicrypt
