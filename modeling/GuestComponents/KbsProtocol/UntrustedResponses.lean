import GuestComponents.KbsProtocol.KeyPair

/-! What an untrusted response can make the guest do. With the rust crates each
conversion to an array of a fixed length panics on another length, and both back ends
subtract eight from the length of the wrapped key before anything has bounded it. So a
response is harmless exactly when its lengths fit (`panics_iff_lengths`): the cases
stand in `FitsRust` and `FitsNative`, as conditions on the response, the key pair and
what the primitives answer, and in `LengthsNative` by the lengths that OpenSSL's crate
asserts. -/
namespace GuestComponents.KbsProtocol
open Lib Crypto

section Rust

variable (crates : RustCrates)

/-- The coordinates are those of a point on the curve, and the agreement with it derives
the key. -/
inductive Agrees (secretKey : crates.SecretKey) : List UInt8 → List UInt8 → Vector UInt8 32 → Prop
  | intro {x y : Vector UInt8 32} {publicKey : crates.PublicKey} {kek : Vector UInt8 32} :
    crates.fromEncodedPoint x y = some publicKey →
    crates.deriveKeyInto (crates.diffieHellman secretKey publicKey).toList
      RustCrates.keyDerivationMaterials 32 = .ok kek →
    Agrees secretKey x.toList y.toList kek

/-- The lengths of a response suit the rust back end: eight bytes at least of wrapped key
where an agreement unwraps it, and, where a key is unwrapped and the header can be
written, the lengths of AES-256-GCM. -/
structure FitsRust (generateAad : ProtectedHeader → Except String (List UInt8))
    (keyPair : TeeKeyPair crates.backend) (response : Response) : Prop where
  rsa : ∀ key mode cek aad, Names keyPair response.protectedHeader (.rsa key mode) →
    crates.rsaDecrypt key mode response.encryptedKey = .ok cek →
    generateAad response.protectedHeader = .ok aad →
    cek.length = 32 ∧ response.iv.length = 12 ∧ response.tag.length = 16
  wrapped : ∀ key x y kek, Names keyPair response.protectedHeader (.ec key x y) →
    Agrees crates key x y kek → 8 ≤ response.encryptedKey.length
  ec : ∀ key x y kek cek aad, Names keyPair response.protectedHeader (.ec key x y) →
    Agrees crates key x y kek →
    crates.kwUnwrap kek response.encryptedKey (response.encryptedKey.length - 8) = .ok cek →
    generateAad response.protectedHeader = .ok aad →
    response.encryptedKey.length = 40 ∧ response.iv.length = 12 ∧ response.tag.length = 16

variable {crates}

theorem rsaDecryptWith_panicFree (key : crates.RsaKeyPair) (mode : PaddingMode)
    (cipherText : List UInt8) : PanicFree (crates.rsaDecryptWith key mode cipherText) := by
  simp [RustCrates.rsaDecryptWith]

theorem rsaDecryptWith_ok {key : crates.RsaKeyPair} {mode : PaddingMode} {cipherText cek : List UInt8} :
    crates.rsaDecryptWith key mode cipherText = .ok cek ↔ crates.rsaDecrypt key mode cipherText = .ok cek := by
  simp [RustCrates.rsaDecryptWith]

/-- Unwrapping subtracts once the key of the agreement is derived. -/
theorem unwrapKey_panicFree {secretKey : crates.SecretKey} {encryptedKey x y : List UInt8} :
    PanicFree (crates.unwrapKey secretKey encryptedKey x y .ecdhEsA256Kw) ↔
      ∀ kek, Agrees crates secretKey x y kek → 8 ≤ encryptedKey.length := by
  simp only [RustCrates.unwrapKey, panicFree_bind, panicFree_tryInto, tryInto_ok, panicFree_okOr, okOr_ok,
    panicFree_mapError, mapError_ok, panicFree_ofResult, ofResult_ok, panicFree_checkedSub, true_and]
  constructor
  · rintro free kek ⟨point, derived⟩
    exact (free _ rfl _ rfl _ point kek derived).1
  · intro fits _ sameX _ sameY _ point kek derived
    refine ⟨fits kek ?_, fun _ _ _ _ => panicFree_ok _⟩
    rw [sameX, sameY]
    exact .intro point derived

theorem unwrapKey_ok {secretKey : crates.SecretKey} {encryptedKey x y cek : List UInt8} :
    crates.unwrapKey secretKey encryptedKey x y .ecdhEsA256Kw = .ok cek ↔
      8 ≤ encryptedKey.length ∧ ∃ kek, Agrees crates secretKey x y kek ∧ ∃ key,
        crates.kwUnwrap kek encryptedKey (encryptedKey.length - 8) = .ok key ∧ cek = key.toList := by
  simp only [RustCrates.unwrapKey, bind_ok, tryInto_ok, okOr_ok, mapError_ok, ofResult_ok, checkedSub_ok]
  constructor
  · rintro ⟨_, rfl, _, rfl, _, point, kek, derived, _, ⟨long, rfl⟩, key, unwrapped, ⟨⟩⟩
    exact ⟨long, kek, .intro point derived, key, unwrapped, rfl⟩
  · rintro ⟨long, kek, ⟨point, derived⟩, key, unwrapped, rfl⟩
    exact ⟨_, rfl, _, rfl, _, point, kek, derived, _, ⟨long, rfl⟩, key, unwrapped, rfl⟩

theorem gcmDecryptDetached_panicFree {key iv encryptedData aad tag : List UInt8} :
    PanicFree (crates.gcmDecryptDetached key iv encryptedData aad tag) ↔
      key.length = 32 ∧ iv.length = 12 ∧ tag.length = 16 := by
  simp only [RustCrates.gcmDecryptDetached, panicFree_bind, panicFree_fromSlice, fromSlice_ok,
    panicFree_mapError, panicFree_ofResult]
  constructor
  · rintro ⟨key32, rest⟩
    obtain ⟨iv12, rest⟩ := rest ⟨key.toArray, key32⟩ rfl
    obtain ⟨tag16, _⟩ := rest ⟨iv.toArray, iv12⟩ rfl
    exact ⟨key32, iv12, tag16⟩
  · rintro ⟨key32, iv12, tag16⟩
    exact ⟨key32, fun _ _ => ⟨iv12, fun _ _ => ⟨tag16, fun _ _ => trivial⟩⟩⟩

/-- The length of the initialisation vector that a mode takes. -/
def ivLength : WrapType → Nat
  | .aes256Gcm => 12
  | .aes256Ctr => 16

theorem rustDecrypt_panicFree {key ciphertext iv : List UInt8} {wrapType : WrapType} :
    PanicFree (crates.backend.decrypt key iv ciphertext wrapType) ↔
      key.length = 32 ∧ iv.length = ivLength wrapType := by
  cases wrapType with
  | aes256Gcm =>
    simp only [Backend.decrypt, RustCrates.backend, RustCrates.gcmDecrypt, panicFree_bind,
      panicFree_fromSlice, fromSlice_ok, panicFree_mapError, panicFree_ofResult, ivLength]
    constructor
    · rintro ⟨key32, rest⟩
      exact ⟨key32, (rest ⟨key.toArray, key32⟩ rfl).1⟩
    · rintro ⟨key32, iv12⟩
      exact ⟨key32, fun _ _ => ⟨iv12, fun _ _ => trivial⟩⟩
  | aes256Ctr =>
    simp only [Backend.decrypt, RustCrates.backend, RustCrates.ctrDecrypt, panicFree_bind,
      panicFree_fromSlice, fromSlice_ok, panicFree_mapError, panicFree_ofResult, ivLength]
    constructor
    · rintro ⟨key32, rest⟩
      exact ⟨key32, (rest ⟨key.toArray, key32⟩ rfl).1⟩
    · rintro ⟨key32, iv16⟩
      exact ⟨key32, fun _ _ => ⟨iv16, fun _ _ => trivial⟩⟩

/-- With the rust crates a response is harmless when its lengths fit, and only then. -/
theorem fitsRust_iff {generateAad : ProtectedHeader → Except String (List UInt8)}
    {keyPair : TeeKeyPair crates.backend} {response : Response} :
    PanicFree (keyPair.decryptResponse generateAad response) ↔
      FitsRust crates generateAad keyPair response := by
  have opens {cek aad : List UInt8} :
      PanicFree (crates.backend.gcmDecryptDetached cek response.ciphertext response.iv aad response.tag) ↔
        cek.length = 32 ∧ response.iv.length = 12 ∧ response.tag.length = 16 :=
    gcmDecryptDetached_panicFree
  rw [decryptResponse_panicFree]
  constructor
  · intro free
    constructor
    · intro key mode cek aad named ran made
      exact opens.mp ((free _ named).2 cek aad (rsaDecryptWith_ok.mpr ran) made)
    · intro key x y kek named agrees
      exact unwrapKey_panicFree.mp (free _ named).1 kek agrees
    · intro key x y kek cek aad named agrees unwrapped made
      have long : 8 ≤ response.encryptedKey.length :=
        unwrapKey_panicFree.mp (free _ named).1 kek agrees
      have ran : crates.unwrapKey key response.encryptedKey x y .ecdhEsA256Kw = .ok cek.toList :=
        unwrapKey_ok.mpr ⟨long, kek, agrees, cek, unwrapped, rfl⟩
      obtain ⟨cek32, others⟩ := opens.mp ((free _ named).2 cek.toList aad ran made)
      rw [Vector.length_toList] at cek32
      exact ⟨by omega, others⟩
  · rintro ⟨rsa, wrapped, ec⟩ unwrapping named
    cases unwrapping with
    | rsa key mode =>
      constructor
      · exact rsaDecryptWith_panicFree key mode response.encryptedKey
      · intro cek aad ran made
        exact opens.mpr (rsa key mode cek aad named (rsaDecryptWith_ok.mp ran) made)
    | ec key x y =>
      constructor
      · exact unwrapKey_panicFree.mpr fun kek agrees => wrapped key x y kek named agrees
      · intro cek aad ran made
        obtain ⟨_, kek, agrees, unwrapped, opened, rfl⟩ := unwrapKey_ok.mp ran
        obtain ⟨forty, others⟩ := ec key x y kek unwrapped aad named agrees opened made
        rw [opens, Vector.length_toList]
        exact ⟨by omega, others⟩

end Rust

section Native

variable (openssl : OpenSsl)

/-- OpenSSL derives a key from the agreement with the point of these coordinates. -/
inductive Derives (privateKey : openssl.PrivateKey) (x y : List UInt8) : List UInt8 → Prop
  | intro {publicKey : openssl.PublicKey} {z : List UInt8} :
    openssl.publicKey x y = .ok publicKey → openssl.deriveToVec privateKey publicKey = .ok z →
    Derives privateKey x y (OpenSsl.concatKdf KeyWrapAlgorithm.ecdhEsA256Kw.asRef 32 z)

/-- The lengths of a response suit the native back end: eight bytes at least of wrapped key
where an agreement unwraps it. Beyond that no call of OpenSSL panics on what it is
given, which are the lengths its documentation excludes. -/
structure FitsNative (generateAad : ProtectedHeader → Except String (List UInt8))
    (keyPair : TeeKeyPair openssl.backend) (response : Response) : Prop where
  rsa : ∀ key mode, Names keyPair response.protectedHeader (.rsa key mode) →
    PanicFree (openssl.privateDecrypt key mode response.encryptedKey RSA_PUBKEY_LENGTH)
  rsaOpened : ∀ key mode buffer written aad, Names keyPair response.protectedHeader (.rsa key mode) →
    openssl.privateDecrypt key mode response.encryptedKey RSA_PUBKEY_LENGTH = .ok (buffer, written) →
    generateAad response.protectedHeader = .ok aad →
    PanicFree (openssl.decryptAead (buffer.toList.take written) response.iv aad response.ciphertext
      response.tag)
  wrapped : ∀ key x y kek, Names keyPair response.protectedHeader (.ec key x y) →
    Derives openssl key x y kek → 8 ≤ response.encryptedKey.length
  ec : ∀ key x y kek unwrappingKey, Names keyPair response.protectedHeader (.ec key x y) →
    Derives openssl key x y kek → openssl.newDecrypt kek = .ok unwrappingKey →
    PanicFree (openssl.unwrapKey unwrappingKey (response.encryptedKey.length - 8) response.encryptedKey)
  ecOpened : ∀ key x y kek unwrappingKey cek aad, Names keyPair response.protectedHeader (.ec key x y) →
    Derives openssl key x y kek → openssl.newDecrypt kek = .ok unwrappingKey →
    openssl.unwrapKey unwrappingKey (response.encryptedKey.length - 8) response.encryptedKey = .ok cek →
    generateAad response.protectedHeader = .ok aad →
    PanicFree (openssl.decryptAead cek.toList response.iv aad response.ciphertext response.tag)

/-- The lengths that rust-openssl asserts: a buffer for the whole RSA block, one that leaves
the eight bytes of an unwrapped key's check, and a vector that is not too short for its mode. -/
structure AssertsLengths (rsaSize : openssl.RsaKeyPair → Nat) (shortest : WrapType → Nat) : Prop where
  privateDecrypt : ∀ key mode bytes n, PanicFree (openssl.privateDecrypt key mode bytes n) ↔ rsaSize key ≤ n
  unwrapKey : ∀ key n bytes, PanicFree (openssl.unwrapKey key n bytes) ↔ n + 8 ≤ bytes.length
  decryptAead : ∀ key iv aad data tag,
    PanicFree (openssl.decryptAead key iv aad data tag) ↔ shortest .aes256Gcm ≤ iv.length
  decryptCtr : ∀ key iv data, PanicFree (openssl.decryptCtr key iv data) ↔ shortest .aes256Ctr ≤ iv.length

/-- The lengths of a response that these assertions leave: eight bytes at least of wrapped
key, an RSA key of at most 256 bytes, and no short vector where a key is unwrapped. -/
structure LengthsNative (generateAad : ProtectedHeader → Except String (List UInt8))
    (rsaSize : openssl.RsaKeyPair → Nat) (shortest : WrapType → Nat) (keyPair : TeeKeyPair openssl.backend)
    (response : Response) : Prop where
  rsa : ∀ key mode, Names keyPair response.protectedHeader (.rsa key mode) → rsaSize key ≤ RSA_PUBKEY_LENGTH
  rsaOpened : ∀ key mode opened aad, Names keyPair response.protectedHeader (.rsa key mode) →
    openssl.privateDecrypt key mode response.encryptedKey RSA_PUBKEY_LENGTH = .ok opened →
    generateAad response.protectedHeader = .ok aad → shortest .aes256Gcm ≤ response.iv.length
  wrapped : ∀ key x y kek, Names keyPair response.protectedHeader (.ec key x y) →
    Derives openssl key x y kek → 8 ≤ response.encryptedKey.length
  ecOpened : ∀ key x y kek unwrappingKey cek aad, Names keyPair response.protectedHeader (.ec key x y) →
    Derives openssl key x y kek → openssl.newDecrypt kek = .ok unwrappingKey →
    openssl.unwrapKey unwrappingKey (response.encryptedKey.length - 8) response.encryptedKey = .ok cek →
    generateAad response.protectedHeader = .ok aad → shortest .aes256Gcm ≤ response.iv.length

variable {openssl}

theorem nativeRsa_panicFree {key : openssl.RsaKeyPair} {mode : PaddingMode} {cipherText : List UInt8} :
    PanicFree (openssl.rsaDecryptWith key mode cipherText) ↔
      PanicFree (openssl.privateDecrypt key mode cipherText RSA_PUBKEY_LENGTH) := by
  simp only [OpenSsl.rsaDecryptWith, panicFree_bind, panicFree_mapError, panicFree_sliceTo,
    Vector.length_toList]
  constructor
  · exact And.left
  · intro free
    exact ⟨free, fun opened _ => Nat.le_of_lt_succ opened.2.isLt⟩

theorem nativeRsa_ok {key : openssl.RsaKeyPair} {mode : PaddingMode} {cipherText cek : List UInt8} :
    openssl.rsaDecryptWith key mode cipherText = .ok cek ↔
      ∃ buffer written, openssl.privateDecrypt key mode cipherText RSA_PUBKEY_LENGTH = .ok (buffer, written) ∧
        cek = buffer.toList.take written := by
  have whole (opened : Vector UInt8 RSA_PUBKEY_LENGTH × Fin (RSA_PUBKEY_LENGTH + 1)) :
      sliceTo opened.1.toList opened.2 = .ok (opened.1.toList.take opened.2) := by
    refine if_pos ?_
    rw [Vector.length_toList]
    exact Nat.le_of_lt_succ opened.2.isLt
  simp only [OpenSsl.rsaDecryptWith, bind_ok, mapError_ok, whole]
  constructor
  · rintro ⟨⟨buffer, written⟩, opened, ⟨⟩⟩
    exact ⟨buffer, written, opened, rfl⟩
  · rintro ⟨buffer, written, opened, rfl⟩
    exact ⟨(buffer, written), opened, rfl⟩

theorem nativeUnwrap_panicFree {privateKey : openssl.PrivateKey} {encryptedKey x y : List UInt8} :
    PanicFree (openssl.unwrapKeyWith privateKey encryptedKey x y .ecdhEsA256Kw) ↔
      ∀ kek, Derives openssl privateKey x y kek → 8 ≤ encryptedKey.length ∧
        ∀ unwrappingKey, openssl.newDecrypt kek = .ok unwrappingKey →
          PanicFree (openssl.unwrapKey unwrappingKey (encryptedKey.length - 8) encryptedKey) := by
  simp only [OpenSsl.unwrapKeyWith, panicFree_bind, panicFree_ofResult, ofResult_ok, panicFree_checkedSub,
    checkedSub_ok, panicFree_mapError, mapError_ok, true_and]
  constructor
  · rintro free kek ⟨point, derived⟩
    obtain ⟨long, rest⟩ := free _ point _ derived
    exact ⟨long, fun unwrappingKey made => (rest _ ⟨long, rfl⟩ unwrappingKey made).1⟩
  · intro fits _ point _ derived
    obtain ⟨long, rest⟩ := fits _ (.intro point derived)
    refine ⟨long, ?_⟩
    rintro _ ⟨_, rfl⟩ unwrappingKey made
    exact ⟨rest unwrappingKey made, fun _ _ => panicFree_ok _⟩

theorem nativeUnwrap_ok {privateKey : openssl.PrivateKey} {encryptedKey x y cek : List UInt8} :
    openssl.unwrapKeyWith privateKey encryptedKey x y .ecdhEsA256Kw = .ok cek ↔
      8 ≤ encryptedKey.length ∧ ∃ kek, Derives openssl privateKey x y kek ∧ ∃ unwrappingKey,
        openssl.newDecrypt kek = .ok unwrappingKey ∧ ∃ key,
          openssl.unwrapKey unwrappingKey (encryptedKey.length - 8) encryptedKey = .ok key ∧
            cek = key.toList := by
  simp only [OpenSsl.unwrapKeyWith, bind_ok, ofResult_ok, checkedSub_ok, mapError_ok]
  constructor
  · rintro ⟨_, point, _, derived, _, ⟨long, rfl⟩, unwrappingKey, made, key, unwrapped, ⟨⟩⟩
    exact ⟨long, _, .intro point derived, unwrappingKey, made, key, unwrapped, rfl⟩
  · rintro ⟨long, _, ⟨point, derived⟩, unwrappingKey, made, key, unwrapped, rfl⟩
    exact ⟨_, point, _, derived, _, ⟨long, rfl⟩, unwrappingKey, made, key, unwrapped, rfl⟩

/-- With OpenSSL a response is harmless when its wrapped key is long enough and OpenSSL
takes its other lengths, and only then. -/
theorem fitsNative_iff {generateAad : ProtectedHeader → Except String (List UInt8)}
    {keyPair : TeeKeyPair openssl.backend} {response : Response} :
    PanicFree (keyPair.decryptResponse generateAad response) ↔
      FitsNative openssl generateAad keyPair response := by
  rw [decryptResponse_panicFree]
  constructor
  · intro free
    constructor
    · intro key mode named
      exact nativeRsa_panicFree.mp (free _ named).1
    · intro key mode buffer written aad named opened made
      exact (free _ named).2 _ aad (nativeRsa_ok.mpr ⟨buffer, written, opened, rfl⟩) made
    · intro key x y kek named derives
      exact (nativeUnwrap_panicFree.mp (free _ named).1 kek derives).1
    · intro key x y kek unwrappingKey named derives made
      exact (nativeUnwrap_panicFree.mp (free _ named).1 kek derives).2 unwrappingKey made
    · intro key x y kek unwrappingKey cek aad named derives created unwrapped made
      have long := (nativeUnwrap_panicFree.mp (free _ named).1 kek derives).1
      exact (free _ named).2 cek.toList aad
        (nativeUnwrap_ok.mpr ⟨long, kek, derives, unwrappingKey, created, cek, unwrapped, rfl⟩) made
  · rintro ⟨rsa, rsaOpened, wrapped, ec, ecOpened⟩ unwrapping named
    cases unwrapping with
    | rsa key mode =>
      constructor
      · exact nativeRsa_panicFree.mpr (rsa key mode named)
      · intro cek aad ran made
        obtain ⟨buffer, written, opened, rfl⟩ := nativeRsa_ok.mp ran
        exact rsaOpened key mode buffer written aad named opened made
    | ec key x y =>
      constructor
      · apply nativeUnwrap_panicFree.mpr
        intro kek derives
        exact ⟨wrapped key x y kek named derives,
          fun unwrappingKey created => ec key x y kek unwrappingKey named derives created⟩
      · intro cek aad ran made
        obtain ⟨_, kek, derives, unwrappingKey, created, unwrapped, opened, rfl⟩ := nativeUnwrap_ok.mp ran
        exact ecOpened key x y kek unwrappingKey unwrapped aad named derives created opened made

/-- Where the crate asserts lengths only, a response is harmless when these fit. -/
theorem AssertsLengths.fits_iff {generateAad : ProtectedHeader → Except String (List UInt8)}
    {rsaSize : openssl.RsaKeyPair → Nat} {shortest : WrapType → Nat}
    (asserts : AssertsLengths openssl rsaSize shortest) {keyPair : TeeKeyPair openssl.backend} {response : Response} :
    FitsNative openssl generateAad keyPair response ↔
      LengthsNative openssl generateAad rsaSize shortest keyPair response := by
  constructor
  · rintro ⟨rsa, rsaOpened, wrapped, _, ecOpened⟩
    constructor
    · intro key mode named
      exact (asserts.privateDecrypt _ _ _ _).mp (rsa key mode named)
    · rintro key mode ⟨buffer, written⟩ aad named opened made
      exact (asserts.decryptAead _ _ _ _ _).mp (rsaOpened key mode buffer written aad named opened made)
    · exact wrapped
    · intro key x y kek unwrappingKey cek aad named derives created unwrapped made
      exact (asserts.decryptAead _ _ _ _ _).mp
        (ecOpened key x y kek unwrappingKey cek aad named derives created unwrapped made)
  · rintro ⟨rsa, rsaOpened, wrapped, ecOpened⟩
    constructor
    · intro key mode named
      exact (asserts.privateDecrypt _ _ _ _).mpr (rsa key mode named)
    · intro key mode buffer written aad named opened made
      exact (asserts.decryptAead _ _ _ _ _).mpr (rsaOpened key mode (buffer, written) aad named opened made)
    · exact wrapped
    · intro key x y kek unwrappingKey named derives _
      have long := wrapped key x y kek named derives
      exact (asserts.unwrapKey _ _ _).mpr (by omega)
    · intro key x y kek unwrappingKey cek aad named derives created unwrapped made
      exact (asserts.decryptAead _ _ _ _ _).mpr
        (ecOpened key x y kek unwrappingKey cek aad named derives created unwrapped made)

/-- The native back end splits a ciphertext once it has checked its length, so OpenSSL's
own call is all that is left to panic. -/
theorem nativeDecrypt_panicFree {key ciphertext iv : List UInt8} {wrapType : WrapType} :
    PanicFree (openssl.backend.decrypt key iv ciphertext wrapType) ↔
      match wrapType with
      | .aes256Gcm => 16 ≤ ciphertext.length →
          PanicFree (openssl.decryptAead key iv [] (ciphertext.take (ciphertext.length - 16))
            (ciphertext.drop (ciphertext.length - 16)))
      | .aes256Ctr => PanicFree (openssl.decryptCtr key iv ciphertext) := by
  cases wrapType with
  | aes256Ctr => rfl
  | aes256Gcm =>
    change PanicFree (openssl.gcmDecrypt key iv ciphertext) ↔ _
    rw [OpenSsl.gcmDecrypt, OpenSsl.TAG_LENGTH]
    split
    · rename_i short
      exact ⟨fun _ long => absurd long (Nat.not_le.mpr short), fun _ => panicFree_bail _⟩
    · rename_i enough
      have long : 16 ≤ ciphertext.length := Nat.le_of_not_lt enough
      have halves : splitAt ciphertext (ciphertext.length - 16) =
          .ok (ciphertext.take (ciphertext.length - 16), ciphertext.drop (ciphertext.length - 16)) := by
        rw [splitAt, if_pos (Nat.sub_le _ _), List.splitAt_eq]
      simp [panicFree_bind, halves, long]

end Native

section EmptyKey

/-- The coordinates of the generator of P-256. -/
def generatorX : Vector UInt8 32 :=
  #v[107, 23, 209, 242, 225, 44, 66, 71, 248, 188, 230, 229, 99, 164, 64, 242,
    119, 3, 125, 129, 45, 235, 51, 160, 244, 161, 57, 69, 216, 152, 194, 150]

def generatorY : Vector UInt8 32 :=
  #v[79, 227, 66, 226, 254, 26, 127, 155, 142, 231, 235, 74, 124, 15, 158, 22,
    43, 206, 51, 87, 107, 49, 94, 206, 203, 182, 64, 104, 55, 191, 81, 245]

/-- The crates on the secret key one, whose public key is the generator, and on the generator. -/
def generatorCrates : RustCrates where
  RsaKeyPair := Empty
  SecretKey := Unit
  PublicKey := Unit
  n := nofun
  e := nofun
  x _ := some generatorX
  y _ := some generatorY
  rsaDecrypt := nofun
  fromEncodedPoint x y := if x = generatorX ∧ y = generatorY then some () else none
  diffieHellman _ _ := generatorX
  deriveKeyInto z info _ :=
    let digest := Sha2.sha256.digest (toBeBytes 1 ++ z ++ info)
    .ok (Vector.ofFn fun i => digest.getD i 0)
  kwUnwrap _ _ _ := .error "IntegrityCheckFailed"
  encryptInPlaceDetached _ _ _ _ := .error "Error"
  decryptInPlaceDetached _ _ _ _ _ := .error "Error"
  aeadEncrypt _ _ _ := .error "Error"
  aeadDecrypt _ _ _ := .error "Error"
  applyKeystream _ _ data := data
  applyKeystreamB2b _ _ _ := .error "StreamCipherError"

/-- OpenSSL on the same key. -/
def generatorOpenSsl : OpenSsl where
  RsaKeyPair := Empty
  PrivateKey := Unit
  PublicKey := Unit
  UnwrappingKey := Unit
  n := nofun
  e := nofun
  affineCoordinates _ := .error "no coordinates"
  privateDecrypt := nofun
  publicKey x y :=
    if x = generatorX.toList ∧ y = generatorY.toList then .ok () else .error "point is not on curve"
  deriveToVec _ _ := .ok generatorX.toList
  newDecrypt _ := .ok ()
  unwrapKey _ _ _ := .bail "KeyError"
  encryptAead _ _ _ _ _ := .bail "ErrorStack"
  decryptAead _ _ _ _ _ := .bail "ErrorStack"
  encryptCtr _ _ _ := .bail "ErrorStack"
  decryptCtr _ _ _ := .bail "ErrorStack"

/-- A response that is well formed but for an empty wrapped key. -/
def emptyKeyResponse : Response where
  protectedHeader := {
    alg := "ECDH-ES+A256KW".toList
    enc := "A256GCM".toList
    otherFields := [("epk".toList, .object [("crv".toList, .string "P-256".toList),
      ("kty".toList, .string "EC".toList),
      ("x".toList, .string "axfR8uEsQkf4vOblY6RA8ncDfYEt6zOg9KE5RdiYwpY".toList),
      ("y".toList, .string "T-NC4v4af5uO5-tKfA-eFivOM1drMV7Oy7ZAaDe_UfU".toList)])] }
  encryptedKey := []
  iv := List.replicate 12 0
  ciphertext := []
  tag := List.replicate 16 0

/-- The additional data is not reached. -/
def noAad : ProtectedHeader → Except String (List UInt8) := fun _ => .ok []

end EmptyKey
end GuestComponents.KbsProtocol
