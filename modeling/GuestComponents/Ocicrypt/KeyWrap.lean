import GuestComponents.Lib.Base64
import GuestComponents.Ocicrypt.BlockCipher

/-! Key wrapping: the configurations, the trait and its two implementors, and the
wrappers that are registered. JOSE is a third-party library and a key provider is
a service elsewhere; what they answer is a parameter. -/
namespace GuestComponents.Ocicrypt
open Lib Lib.Text

/-- `HashMap<String, Vec<Vec<u8>>>`, as the list of its entries. -/
abbrev Params := List (Text × List Bytes)

structure DecryptConfig where
  param : Params

structure EncryptConfig where
  param : Params
  decryptConfig : Option DecryptConfig

/-- `keywrap/mod.rs::KeyWrapper`, the methods that encryption and decryption use. -/
structure KeyWrapper where
  wrapKeys : EncryptConfig → Bytes → Except String Bytes
  unwrapKeys : DecryptConfig → Bytes → Except String Bytes
  annotationId : Text
  probe : Params → Bool
  privateKeys : Params → Option (List Bytes)

section Jwe

inductive KeyFormat where
  | der | pem | jwk
  deriving DecidableEq

/-- What `KeyInfo::detect` finds: whether the key is public, whether it is an
elliptic-curve key with a named curve, and its format. -/
structure KeyInfo where
  isPublicKey : Bool
  ecCurve : Bool
  format : KeyFormat

/-- A key that was loaded for ECDH-ES or for RSA-OAEP. -/
structure JweKey where
  ecdh : Bool
  format : KeyFormat
  key : Bytes
  deriving DecidableEq

/-- The josekit crate: key detection and loading, and general JWE serialisation. -/
structure Jose where
  detect : Bytes → Option KeyInfo
  encrypterFrom : JweKey → Except String Unit
  decrypterFrom : JweKey → Except String Unit
  serializeGeneralJson : Bytes → List JweKey → Except String Text
  deserializeJson : Text → JweKey → Except String Bytes

variable (jose : Jose)

/-- `jwe.rs::encrypter`. -/
def encrypter (pubkey : Bytes) : Except String JweKey :=
  match jose.detect pubkey with
  | none => .error "jwe: failed to detect public key info"
  | some keyInfo =>
    if !keyInfo.isPublicKey then .error "jwe: expect public key, found private key"
    else
      let key : JweKey := ⟨keyInfo.ecCurve, keyInfo.format, pubkey⟩
      (jose.encrypterFrom key).map fun _ => key

/-- `jwe.rs::decrypter`. -/
def decrypter (privKey : Bytes) : Except String JweKey :=
  match jose.detect privKey with
  | none => .error "jwe: failed to detect private key info"
  | some keyInfo =>
    if keyInfo.isPublicKey then .error "jwe: expect private key, found public key"
    else
      let key : JweKey := ⟨keyInfo.ecCurve, keyInfo.format, privKey⟩
      (jose.decrypterFrom key).map fun _ => key

def encrypters : List Bytes → Except String (List JweKey)
  | [] => .ok []
  | pubkey :: pubkeys =>
    match encrypter jose pubkey with
    | .error error => .error error
    | .ok key => (encrypters pubkeys).map (key :: ·)

/-- The private keys in turn: the first that loads and decrypts; one that does
not load ends the search. -/
def jweUnwrap (data : Text) : List Bytes → Except String Bytes
  | [] => .error "jwe: No suitable private key found for decryption"
  | privkey :: privkeys =>
    match decrypter jose privkey with
    | .error error => .error error
    | .ok key =>
      match jose.deserializeJson data key with
      | .ok keys => .ok keys
      | .error _ => jweUnwrap data privkeys

def jweKeyWrapper : KeyWrapper where
  wrapKeys ec optsData :=
    match ec.param.lookup "pubkeys".toList with
    | none => .error "jwe: invalid configuration for keywrap"
    | some pubkeys =>
      match encrypters jose pubkeys with
      | .error error => .error error
      | .ok keys => (jose.serializeGeneralJson optsData keys).map utf8
  unwrapKeys dc jweString :=
    match fromUtf8 jweString with
    | none => .error "jwe: invalid data to unwrap_keys()"
    | some data =>
      match dc.param.lookup "privkeys".toList with
      | none => .error "jwe: invalid configuration for keyunwrap"
      | some privkeys => jweUnwrap jose data privkeys
  annotationId := "org.opencontainers.image.enc.keys.jwe".toList
  probe param := (param.lookup "privkeys".toList).isSome
  privateKeys param := param.lookup "privkeys".toList

end Jwe

section KeyProvider

/-- `config.rs::KeyProviderAttrs`, the command by its path. -/
structure KeyProviderAttrs where
  cmd : Option Text
  grpc : Option Text
  ttrpc : Option Text
  native : Option Text

/-- Where a key provider is reached. -/
inductive Transport where
  | grpc (uri : Text)
  | ttrpc (uri : Text)
  | native

/-- The key provider services: the annotation for options data, and the options
data for an annotation, or a reply without them. -/
structure Services where
  keywrap : Transport → EncryptConfig → Text → Except String (Option Bytes)
  keyunwrap : Transport → DecryptConfig → Text → Except String (Option Bytes)

structure KeyProvider where
  provider : Text
  attrs : KeyProviderAttrs

variable (services : Services)

/-- `wrap_keys` without the command, for which registered wrappers have no runner. -/
def KeyProvider.wrapTransport (attrs : KeyProviderAttrs) : Except String Transport :=
  match attrs.cmd, attrs.grpc, attrs.ttrpc with
  | some _, _, _ => .error "keyprovider: runner for binary provider is NULL"
  | none, some uri, _ => .ok (.grpc uri)
  | none, none, some uri => .ok (.ttrpc uri)
  | none, none, none => .error "keyprovider: invalid configuration, both grpc and runner are NULL"

def KeyProvider.unwrapTransport (attrs : KeyProviderAttrs) : Except String Transport :=
  match attrs.cmd, attrs.grpc, attrs.ttrpc, attrs.native with
  | some _, _, _, _ => .error "keyprovider: runner for binary provider is NULL"
  | none, some uri, _, _ => .ok (.grpc uri)
  | none, none, some uri, _ => .ok (.ttrpc uri)
  | none, none, none, some _ => .ok .native
  | none, none, none, none =>
    .error "keyprovider: invalid configuration, both grpc and runner are NULL"

/-- What a service replied, unless it replied nothing. -/
def replied : Except String (Option Bytes) → Except String Bytes
  | .error error => .error error
  | .ok none => .error "keyprovider: get NULL reply from provider"
  | .ok (some bytes) => .ok bytes

/-- The prefix of the annotations of key providers. -/
def providerPrefix : Text := "org.opencontainers.image.enc.keys.provider.".toList

def keyProviderKeyWrapper (self : KeyProvider) : KeyWrapper where
  wrapKeys ec optsData :=
    match ec.param.lookup self.provider with
    | none => .error
      s!"keyprovider: unknown provider {String.ofList self.provider} for operation keywrap"
    | some _ =>
      match fromUtf8 optsData with
      | none => .error "keyprovider: can not convert option data to string"
      | some text =>
        match KeyProvider.wrapTransport self.attrs with
        | .error error => .error error
        | .ok transport => replied (services.keywrap transport ec text)
  unwrapKeys dc jsonString :=
    match fromUtf8 jsonString with
    | none => .error "keyprovider: can not convert json data to string"
    | some text =>
      match KeyProvider.unwrapTransport self.attrs with
      | .error error => .error error
      | .ok transport => replied (services.keyunwrap transport dc text)
  annotationId := providerPrefix ++ self.provider
  probe _ := true
  privateKeys _ := none

end KeyProvider

/-- A registered key wrapper. -/
inductive Registered where
  | jwe
  | provider (attrs : KeyProvider)

/-- What the wrappers are made over. -/
structure Backends where
  jose : Jose
  services : Services

def Registered.keyWrapper (backends : Backends) : Registered → KeyWrapper
  | jwe => jweKeyWrapper backends.jose
  | provider attrs => keyProviderKeyWrapper backends.services attrs

/-- `KEY_WRAPPERS`: the JWE wrapper and the configured key providers, which have
different names. A hash map is iterated in any order, so the wrappers are a list
in any order. -/
structure Registry where
  wrappers : List Registered
  distinct : (wrappers.map fun w =>
    match w with
    | .jwe => none
    | .provider attrs => some attrs.provider).Nodup

end GuestComponents.Ocicrypt
