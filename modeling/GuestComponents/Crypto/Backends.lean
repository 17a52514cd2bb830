import GuestComponents.Lib.Panic
import GuestComponents.Lib.Sha2
import GuestComponents.Lib.Text
import Mathlib.Data.Nat.Digits.Defs

/-! The crypto crate: its two back ends, written with the rust crates and with
OpenSSL, and the functions that callers use of whichever is built in. The crates
and OpenSSL are parameters. A call of them that returns a `Result` has an error or
a value; one that their documentation lets panic on some arguments may panic. -/
namespace GuestComponents.Crypto
open Lib

inductive PaddingMode where
  | oaep
  | pkcs1v15
deriving DecidableEq

def PaddingMode.asRef : PaddingMode → Text
  | .oaep => "RSA-OAEP-256".toList
  | .pkcs1v15 => "RSA1_5".toList

inductive KeyWrapAlgorithm where
  | ecdhEsA256Kw

def KeyWrapAlgorithm.asRef : KeyWrapAlgorithm → Text
  | .ecdhEsA256Kw => "ECDH-ES+A256KW".toList

inductive Curve where
  | p256

def Curve.asRef : Curve → Text
  | .p256 => "P-256".toList

inductive WrapType where
  | aes256Gcm
  | aes256Ctr
deriving DecidableEq

def WrapType.asRef : WrapType → Text
  | .aes256Gcm => "A256GCM".toList
  | .aes256Ctr => "A256CTR".toList

def RSA_PUBKEY_LENGTH : Nat := 2048

def AES_GCM_256_KEY_BITS : Nat := 256

structure AeadCipher where
  tag : List UInt8
  ciphertext : List UInt8

/-- `u32::to_be_bytes`. -/
def toBeBytes (n : Nat) : List UInt8 :=
  [UInt8.ofNat (n / 2 ^ 24), UInt8.ofNat (n / 2 ^ 16), UInt8.ofNat (n / 2 ^ 8), UInt8.ofNat n]

/-- What a back end offers: the modules `rsa`, `ec`, `aes256gcm` and `aes256ctr`. -/
structure Backend where
  RsaKeyPair : Type
  EcKeyPair : Type
  curve : EcKeyPair → Curve
  n : RsaKeyPair → List UInt8
  e : RsaKeyPair → List UInt8
  x : EcKeyPair → Outcome (List UInt8)
  y : EcKeyPair → Outcome (List UInt8)
  rsaDecrypt : RsaKeyPair → PaddingMode → List UInt8 → Outcome (List UInt8)
  unwrapKey : EcKeyPair → (encryptedKey epkX epkY : List UInt8) → KeyWrapAlgorithm →
    Outcome (List UInt8)
  gcmEncryptDetached : (key data iv aad : List UInt8) → Outcome AeadCipher
  gcmDecryptDetached : (key encryptedData iv aad tag : List UInt8) → Outcome (List UInt8)
  gcmEncrypt : (key data iv : List UInt8) → Outcome (List UInt8)
  gcmDecrypt : (key encryptedData iv : List UInt8) → Outcome (List UInt8)
  ctrEncrypt : (key data iv : List UInt8) → Outcome (List UInt8)
  ctrDecrypt : (key encryptedData iv : List UInt8) → Outcome (List UInt8)

namespace Backend

variable (backend : Backend) (key iv : List UInt8)

/-- `symmetric.rs::decrypt`. -/
def decrypt (ciphertext : List UInt8) : WrapType → Outcome (List UInt8)
  | .aes256Gcm => backend.gcmDecrypt key ciphertext iv
  | .aes256Ctr => backend.ctrDecrypt key ciphertext iv

/-- `symmetric.rs::decrypt_aead`. -/
def decryptAead (ciphertext aad tag : List UInt8) : WrapType → Outcome (List UInt8)
  | .aes256Gcm => backend.gcmDecryptDetached key ciphertext iv aad tag
  | others => .bail s!"Algorithm {String.ofList others.asRef} is not an AEAD algorithm."

/-- `symmetric.rs::encrypt`. -/
def encrypt (plaintext : List UInt8) : WrapType → Outcome (List UInt8)
  | .aes256Gcm => backend.gcmEncrypt key plaintext iv
  | .aes256Ctr => backend.ctrEncrypt key plaintext iv

/-- `symmetric.rs::encrypt_aead`. -/
def encryptAead (plaintext aad : List UInt8) : WrapType → Outcome AeadCipher
  | .aes256Gcm => backend.gcmEncryptDetached key plaintext iv aad
  | others => .bail s!"Algorithm {String.ofList others.asRef} is not an AEAD algorithm."

end Backend

/-- The crates of the `rust-crypto` feature. -/
structure RustCrates where
  RsaKeyPair : Type
  SecretKey : Type
  PublicKey : Type
  /-- The modulus and the exponent, as `to_bytes_be` writes them. -/
  n : RsaKeyPair → List UInt8
  e : RsaKeyPair → List UInt8
  /-- The coordinates of the `EncodedPoint` of the public key. -/
  x : SecretKey → Option (Vector UInt8 32)
  y : SecretKey → Option (Vector UInt8 32)
  /-- `RsaPrivateKey::decrypt`, with OAEP over SHA-256 or with PKCS#1 v1.5. -/
  rsaDecrypt : RsaKeyPair → PaddingMode → List UInt8 → Except String (List UInt8)
  /-- `P256PublicKey::from_encoded_point` of the uncompressed point. -/
  fromEncodedPoint : (x y : Vector UInt8 32) → Option PublicKey
  diffieHellman : SecretKey → PublicKey → Vector UInt8 32
  /-- `concat_kdf::derive_key_into` with SHA-256. -/
  deriveKeyInto : (secret otherInfo : List UInt8) → (n : Nat) → Except String (Vector UInt8 n)
  /-- `KekAes256::unwrap` into a buffer of `n` bytes. -/
  kwUnwrap : Vector UInt8 32 → List UInt8 → (n : Nat) → Except String (Vector UInt8 n)
  encryptInPlaceDetached : Vector UInt8 32 → (nonce : Vector UInt8 12) → (aad data : List UInt8) →
    Except String (List UInt8 × Vector UInt8 16)
  decryptInPlaceDetached : Vector UInt8 32 → (nonce : Vector UInt8 12) → (aad data : List UInt8) →
    Vector UInt8 16 → Except String (List UInt8)
  aeadEncrypt : Vector UInt8 32 → (nonce : Vector UInt8 12) → List UInt8 → Except String (List UInt8)
  aeadDecrypt : Vector UInt8 32 → (nonce : Vector UInt8 12) → List UInt8 → Except String (List UInt8)
  applyKeystream : Vector UInt8 32 → (iv : Vector UInt8 16) → List UInt8 → List UInt8
  applyKeystreamB2b : Vector UInt8 32 → (iv : Vector UInt8 16) → List UInt8 →
    Except String (List UInt8)

namespace RustCrates

variable (crates : RustCrates)

/-- `rust/ec.rs::x`. -/
def ecX (secretKey : crates.SecretKey) : Outcome (List UInt8) := do
  let x ← Outcome.okOr "invalid public key: without coordinate X" (crates.x secretKey)
  return x.toList

/-- `rust/ec.rs::y`. -/
def ecY (secretKey : crates.SecretKey) : Outcome (List UInt8) := do
  let y ← Outcome.okOr "invalid public key: without coordinate Y" (crates.y secretKey)
  return y.toList

/-- The bytes of the key derivation that name the algorithm and the key's length. -/
def keyDerivationMaterials : List UInt8 :=
  let algorithmStr := KeyWrapAlgorithm.ecdhEsA256Kw.asRef
  toBeBytes algorithmStr.utf8.length ++ algorithmStr.utf8 ++ toBeBytes 0 ++ toBeBytes 0 ++
    toBeBytes AES_GCM_256_KEY_BITS

/-- `rust/ec.rs::unwrap_key`. -/
def unwrapKey (secretKey : crates.SecretKey) (encryptedKey epkX epkY : List UInt8) :
    KeyWrapAlgorithm → Outcome (List UInt8)
  | .ecdhEsA256Kw => do
    let epkX ← tryInto 32 "invalid bytes length of coordinates X" epkX
    let epkY ← tryInto 32 "invalid bytes length of coordinates Y" epkY
    let publicKey ← Outcome.okOr "invalid public key" (crates.fromEncodedPoint epkX epkY)
    let z := (crates.diffieHellman secretKey publicKey).toList
    let unwrappingKey ← (Outcome.ofResult (crates.deriveKeyInto z keyDerivationMaterials 32)).mapError
      fun e => s!"failed to do concat KDF: {e}"
    let size ← checkedSub encryptedKey.length 8
    let decryptedKey ← (Outcome.ofResult (crates.kwUnwrap unwrappingKey encryptedKey size)).mapError
      fun e => s!"failed to unwrap key: {e}"
    return decryptedKey.toList

/-- `rust/rsa.rs::decrypt`. -/
def rsaDecryptWith (key : crates.RsaKeyPair) (mode : PaddingMode) (cipherText : List UInt8) :
    Outcome (List UInt8) :=
  (Outcome.ofResult (crates.rsaDecrypt key mode cipherText)).mapError fun e =>
    match mode with
    | .oaep => s!"RSA key decrypt OAEP failed: {e}"
    | .pkcs1v15 => s!"RSA key pkcs1v15 decrypt failed: {e}"

variable (key iv : List UInt8)

/-- `rust/aes256gcm.rs::encrypt_with_aad_detached_tag`. -/
def gcmEncryptDetached (data aad : List UInt8) : Outcome AeadCipher := do
  let encryptingKey ← fromSlice 32 key
  let nonce ← fromSlice 12 iv
  let (ciphertext, tag) ←
    (Outcome.ofResult (crates.encryptInPlaceDetached encryptingKey nonce aad data)).mapError
      fun e => s!"aes-256-gcm encrypt failed: {e}"
  return { tag := tag.toList, ciphertext }

/-- `rust/aes256gcm.rs::decrypt_with_aad_detached_tag`. -/
def gcmDecryptDetached (encryptedData aad tag : List UInt8) : Outcome (List UInt8) := do
  let decryptingKey ← fromSlice 32 key
  let nonce ← fromSlice 12 iv
  let tag ← fromSlice 16 tag
  (Outcome.ofResult (crates.decryptInPlaceDetached decryptingKey nonce aad encryptedData tag)).mapError
    fun e => s!"aes-256-gcm decrypt failed: {e}"

/-- `rust/aes256gcm.rs::encrypt`. -/
def gcmEncrypt (data : List UInt8) : Outcome (List UInt8) := do
  let encryptingKey ← fromSlice 32 key
  let nonce ← fromSlice 12 iv
  (Outcome.ofResult (crates.aeadEncrypt encryptingKey nonce data)).mapError
    fun e => s!"aes-256-gcm encrypt failed: {e}"

/-- `rust/aes256gcm.rs::decrypt`. -/
def gcmDecrypt (encryptedData : List UInt8) : Outcome (List UInt8) := do
  let decryptingKey ← fromSlice 32 key
  let nonce ← fromSlice 12 iv
  (Outcome.ofResult (crates.aeadDecrypt decryptingKey nonce encryptedData)).mapError
    fun e => s!"aes-256-gcm decrypt failed: {e}"

/-- `rust/aes256ctr.rs::encrypt`. -/
def ctrEncrypt (data : List UInt8) : Outcome (List UInt8) := do
  let key ← fromSlice 32 key
  let iv ← fromSlice 16 iv
  return crates.applyKeystream key iv data

/-- `rust/aes256ctr.rs::decrypt`. -/
def ctrDecrypt (encryptedData : List UInt8) : Outcome (List UInt8) := do
  let key ← fromSlice 32 key
  let iv ← fromSlice 16 iv
  (Outcome.ofResult (crates.applyKeystreamB2b key iv encryptedData)).mapError
    fun e => s!"aes-256-ctr decrypt failed: {e}"

/-- The back end of the `rust-crypto` feature. -/
def backend : Backend where
  RsaKeyPair := crates.RsaKeyPair
  EcKeyPair := crates.SecretKey
  curve _ := .p256
  n := crates.n
  e := crates.e
  x := crates.ecX
  y := crates.ecY
  rsaDecrypt := crates.rsaDecryptWith
  unwrapKey := crates.unwrapKey
  gcmEncryptDetached key data iv aad := crates.gcmEncryptDetached key iv data aad
  gcmDecryptDetached key data iv aad tag := crates.gcmDecryptDetached key iv data aad tag
  gcmEncrypt key data iv := crates.gcmEncrypt key iv data
  gcmDecrypt key data iv := crates.gcmDecrypt key iv data
  ctrEncrypt key data iv := crates.ctrEncrypt key iv data
  ctrDecrypt key data iv := crates.ctrDecrypt key iv data

end RustCrates

/-- OpenSSL, through its crate. -/
structure OpenSsl where
  RsaKeyPair : Type
  PrivateKey : Type
  PublicKey : Type
  UnwrappingKey : Type
  /-- The modulus and the exponent, as `BigNum::to_vec` writes them. -/
  n : RsaKeyPair → List UInt8
  e : RsaKeyPair → List UInt8
  /-- `affine_coordinates_gfp` of the public key. -/
  affineCoordinates : PrivateKey → Except String (Nat × Nat)
  /-- `Rsa::private_decrypt` into a buffer of `n` bytes: the buffer, and how many of its bytes were
  written. -/
  privateDecrypt : RsaKeyPair → PaddingMode → List UInt8 → (n : Nat) → Outcome (Vector UInt8 n × Fin (n + 1))
  /-- The key of a P-256 point with these coordinates: `set_affine_coordinates_gfp` and
  `EcKey::from_public_key`. -/
  publicKey : (x y : List UInt8) → Except String PublicKey
  /-- `Deriver::derive_to_vec` with that peer. -/
  deriveToVec : PrivateKey → PublicKey → Except String (List UInt8)
  /-- `AesKey::new_decrypt`. -/
  newDecrypt : List UInt8 → Except String UnwrappingKey
  /-- `aes::unwrap_key` into a buffer of `n` bytes. -/
  unwrapKey : UnwrappingKey → (n : Nat) → List UInt8 → Outcome (Vector UInt8 n)
  /-- `symm::encrypt_aead` with AES-256-GCM and a tag of `n` bytes. -/
  encryptAead : (key iv aad data : List UInt8) → (n : Nat) → Outcome (List UInt8 × Vector UInt8 n)
  /-- `symm::decrypt_aead` with AES-256-GCM. -/
  decryptAead : (key iv aad data tag : List UInt8) → Outcome (List UInt8)
  /-- `symm::encrypt` with AES-256-CTR. -/
  encryptCtr : (key iv data : List UInt8) → Outcome (List UInt8)
  /-- `symm::decrypt` with AES-256-CTR. -/
  decryptCtr : (key iv data : List UInt8) → Outcome (List UInt8)

namespace OpenSsl

variable (openssl : OpenSsl)

def TAG_LENGTH : Nat := 16

/-- `BigNum::to_vec`: the big-endian digits, and none for zero. -/
def bigNumToVec (n : Nat) : List UInt8 := (Nat.digits 256 n).reverse.map UInt8.ofNat

/-- `Vec::resize` to 32 bytes with `b'0'`. -/
def resize32 (bytes : List UInt8) : List UInt8 :=
  bytes.take 32 ++ List.replicate (32 - bytes.length) (UInt8.ofNat '0'.toNat)

/-- `native/ec.rs::x`. -/
def ecX (privateKey : openssl.PrivateKey) : Outcome (List UInt8) := do
  let (x, _) ← Outcome.ofResult (openssl.affineCoordinates privateKey)
  return resize32 (bigNumToVec x)

/-- `native/ec.rs::y`. -/
def ecY (privateKey : openssl.PrivateKey) : Outcome (List UInt8) := do
  let (_, y) ← Outcome.ofResult (openssl.affineCoordinates privateKey)
  return resize32 (bigNumToVec y)

/-- `native/ec.rs::concat_kdf`. -/
def concatKdf (alg : Text) (targetLength : Nat) (z : List UInt8) : List UInt8 :=
  let count := (targetLength + 31) / 32
  let output := (List.range count).flatMap fun i =>
    Sha2.sha256.digest (toBeBytes (i + 1) ++ z ++ toBeBytes alg.utf8.length ++ alg.utf8 ++
      toBeBytes 0 ++ toBeBytes 0 ++ toBeBytes (targetLength * 8))
  output.take targetLength

/-- `native/ec.rs::unwrap_key`. -/
def unwrapKeyWith (privateKey : openssl.PrivateKey) (encryptedKey epkX epkY : List UInt8) :
    KeyWrapAlgorithm → Outcome (List UInt8)
  | .ecdhEsA256Kw => do
    let epk ← Outcome.ofResult (openssl.publicKey epkX epkY)
    let z ← Outcome.ofResult (openssl.deriveToVec privateKey epk)
    let sharedKey := concatKdf KeyWrapAlgorithm.ecdhEsA256Kw.asRef (AES_GCM_256_KEY_BITS / 8) z
    let size ← checkedSub encryptedKey.length 8
    let unwrappingKey ← (Outcome.ofResult (openssl.newDecrypt sharedKey)).mapError
      fun e => s!"failed to create AES unwrapping key: {e}"
    let key ← (openssl.unwrapKey unwrappingKey size encryptedKey).mapError
      fun e => s!"failed to unwrap key: {e}"
    return key.toList

/-- `native/rsa.rs::decrypt`. -/
def rsaDecryptWith (key : openssl.RsaKeyPair) (mode : PaddingMode) (cipherText : List UInt8) :
    Outcome (List UInt8) := do
  let (plaintext, decryptedSize) ←
    (openssl.privateDecrypt key mode cipherText RSA_PUBKEY_LENGTH).mapError fun e =>
      match mode with
      | .oaep => s!"RSA key decrypt OAEP failed: {e}"
      | .pkcs1v15 => s!"RSA key pkcs1v15 decrypt failed: {e}"
  sliceTo plaintext.toList decryptedSize

variable (key iv : List UInt8)

/-- `native/aes256gcm.rs::encrypt_with_aad_detached_tag`. -/
def gcmEncryptDetached (data aad : List UInt8) : Outcome AeadCipher := do
  let (ciphertext, tag) ← openssl.encryptAead key iv aad data TAG_LENGTH
  return { tag := tag.toList, ciphertext }

/-- `native/aes256gcm.rs::decrypt`. -/
def gcmDecrypt (encryptedData : List UInt8) : Outcome (List UInt8) :=
  if encryptedData.length < TAG_LENGTH then .bail "Illegal length of ciphertext"
  else do
    let mid ← checkedSub encryptedData.length TAG_LENGTH
    let (data, tag) ← splitAt encryptedData mid
    openssl.decryptAead key iv [] data tag

/-- `native/aes256gcm.rs::encrypt`. -/
def gcmEncrypt (data : List UInt8) : Outcome (List UInt8) := do
  let (ciphertext, tag) ← openssl.encryptAead key iv [] data TAG_LENGTH
  return ciphertext ++ tag.toList

/-- The back end of the `openssl` feature. -/
def backend : Backend where
  RsaKeyPair := openssl.RsaKeyPair
  EcKeyPair := openssl.PrivateKey
  curve _ := .p256
  n := openssl.n
  e := openssl.e
  x := openssl.ecX
  y := openssl.ecY
  rsaDecrypt := openssl.rsaDecryptWith
  unwrapKey := openssl.unwrapKeyWith
  gcmEncryptDetached key data iv aad := openssl.gcmEncryptDetached key iv data aad
  gcmDecryptDetached key data iv aad tag := openssl.decryptAead key iv aad data tag
  gcmEncrypt key data iv := openssl.gcmEncrypt key iv data
  gcmDecrypt key data iv := openssl.gcmDecrypt key iv data
  ctrEncrypt key data iv := openssl.encryptCtr key iv data
  ctrDecrypt key data iv := openssl.decryptCtr key iv data

end OpenSsl
end GuestComponents.Crypto
