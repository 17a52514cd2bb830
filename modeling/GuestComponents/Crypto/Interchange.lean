import GuestComponents.Crypto.Backends
import GuestComponents.Lib.Agreement
import GuestComponents.Lib.BigEndian

/-! The two back ends against each other, over primitives that they share. What each builds around
them is its own: how lengths are checked, where a tag stands, how coordinates are read and how a key
is derived. The rust back end converts keys, vectors and tags to arrays, and panics where OpenSSL
returns an error; `backends_agree_iff` has the inputs on which the two come to the same. -/
namespace GuestComponents.Crypto
open Lib

/-- The prime of P-256's field. -/
def p256Prime : Nat := 2 ^ 256 - 2 ^ 224 + 2 ^ 192 + 2 ^ 96 - 1

/-- The concatenation KDF with SHA-256: the digests of a counter, the secret and the other
information, as many as the key needs. -/
def concatKdfOf (secret otherInfo : List UInt8) (n : Nat) : List UInt8 :=
  ((List.range ((n + 31) / 32)).flatMap fun i =>
    Sha2.sha256.digest (toBeBytes (i + 1) ++ secret ++ otherInfo)).take n

def lengthPrefixed (bytes : List UInt8) : List UInt8 := toBeBytes bytes.length ++ bytes

/-- The other information of RFC 7518: the algorithm, what is known of the two parties, and the
length of the key in bits. -/
def otherInfo (algorithmId partyUInfo partyVInfo : List UInt8) (keydatalen : Nat) : List UInt8 :=
  lengthPrefixed algorithmId ++ lengthPrefixed partyUInfo ++ lengthPrefixed partyVInfo ++ toBeBytes keydatalen

/-- The ciphers as both back ends have them, on keys, vectors and tags of their lengths. -/
structure SharedCiphers (openssl : OpenSsl) (crates : RustCrates) where
  /-- AES-256-GCM: the ciphertext and the tag. -/
  gcmSeal : Vector UInt8 32 → Vector UInt8 12 → (aad data : List UInt8) → Option (List UInt8 × Vector UInt8 16)
  gcmOpen : Vector UInt8 32 → Vector UInt8 12 → (aad data : List UInt8) → Vector UInt8 16 → Option (List UInt8)
  /-- AES-256-CTR, both ways. -/
  keystream : Vector UInt8 32 → Vector UInt8 16 → List UInt8 → List UInt8
  encryptAead : ∀ key iv aad data,
    Answers (openssl.encryptAead key.toList iv.toList aad data 16) (gcmSeal key iv aad data)
  decryptAead : ∀ key iv aad data tag,
    Answers (openssl.decryptAead key.toList iv.toList aad data tag.toList) (gcmOpen key iv aad data tag)
  encryptCtr : ∀ key iv data, openssl.encryptCtr key.toList iv.toList data = .ok (keystream key iv data)
  decryptCtr : ∀ key iv data, openssl.decryptCtr key.toList iv.toList data = .ok (keystream key iv data)
  encryptInPlaceDetached : ∀ key iv aad data,
    Answers (.ofResult (crates.encryptInPlaceDetached key iv aad data)) (gcmSeal key iv aad data)
  decryptInPlaceDetached : ∀ key iv aad data tag,
    Answers (.ofResult (crates.decryptInPlaceDetached key iv aad data tag)) (gcmOpen key iv aad data tag)
  /-- The tag stands after the ciphertext. -/
  aeadEncrypt : ∀ key iv data, Answers (.ofResult (crates.aeadEncrypt key iv data))
    ((gcmSeal key iv [] data).map fun sealed => sealed.1 ++ sealed.2.toList)
  aeadDecrypt : ∀ key iv data tag,
    Answers (.ofResult (crates.aeadDecrypt key iv (data ++ tag.toList))) (gcmOpen key iv [] data tag)
  aeadDecryptShort : ∀ key iv bytes, bytes.length < 16 → Answers (.ofResult (crates.aeadDecrypt key iv bytes)) none
  applyKeystream : ∀ key iv data, crates.applyKeystream key iv data = keystream key iv data
  applyKeystreamB2b : ∀ key iv data, crates.applyKeystreamB2b key iv data = .ok (keystream key iv data)

/-- Coordinates of 32 bytes, of elements of the field. -/
structure Canonical (x y : List UInt8) : Prop where
  xLength : x.length = 32
  yLength : y.length = 32
  xField : BigEndian.value x < p256Prime
  yField : BigEndian.value y < p256Prime

/-- The agreement of a key pair that both back ends hold, and the key wrap. OpenSSL reads
coordinates as numbers, of any length; what it makes of one that is no element of the field is its
own. -/
structure SharedAgreement (openssl : OpenSsl) (crates : RustCrates) where
  Point : Type
  native : openssl.PrivateKey
  rust : crates.SecretKey
  /-- The point of the curve with these coordinates. -/
  point : Nat → Nat → Option Point
  openSslPoint : (x y : List UInt8) → Option Point
  z : Point → Vector UInt8 32
  /-- The AES key wrap: the key in a wrapped one. -/
  kw : Vector UInt8 32 → (encryptedKey : List UInt8) → Option (Vector UInt8 (encryptedKey.length - 8))
  toNative : Point → openssl.PublicKey
  toRust : Point → crates.PublicKey
  nativeKek : Vector UInt8 32 → openssl.UnwrappingKey
  openSslPoint_field : ∀ x y, BigEndian.value x < p256Prime → BigEndian.value y < p256Prime →
    openSslPoint x y = point (BigEndian.value x) (BigEndian.value y)
  publicKey : ∀ x y, Answers (.ofResult (openssl.publicKey x y)) ((openSslPoint x y).map toNative)
  deriveToVec : ∀ point, openssl.deriveToVec native (toNative point) = .ok (z point).toList
  newDecrypt : ∀ kek, openssl.newDecrypt kek.toList = .ok (nativeKek kek)
  unwrapKey : ∀ kek encryptedKey, 8 ≤ encryptedKey.length →
    Answers (openssl.unwrapKey (nativeKek kek) (encryptedKey.length - 8) encryptedKey) (kw kek encryptedKey)
  fromEncodedPoint : ∀ x y : Vector UInt8 32, Canonical x.toList y.toList →
    crates.fromEncodedPoint x y = (point (BigEndian.value x.toList) (BigEndian.value y.toList)).map toRust
  fromEncodedPointBeyond : ∀ x y : Vector UInt8 32, ¬ Canonical x.toList y.toList →
    crates.fromEncodedPoint x y = none
  diffieHellman : ∀ point, crates.diffieHellman rust (toRust point) = z point
  deriveKeyInto : ∀ secret info, ∃ key, crates.deriveKeyInto secret info 32 = .ok key ∧
    key.toList = concatKdfOf secret info 32
  kwUnwrap : ∀ kek encryptedKey, 8 ≤ encryptedKey.length →
    Answers (.ofResult (crates.kwUnwrap kek encryptedKey (encryptedKey.length - 8))) (kw kek encryptedKey)

section Derivation

/-- The native back end's KDF is that of RFC 7518, with nothing known of the parties. -/
theorem concatKdf_eq (alg : Text) (targetLength : Nat) (z : List UInt8) :
    OpenSsl.concatKdf alg targetLength z = concatKdfOf z (otherInfo alg.utf8 [] [] (targetLength * 8)) targetLength := by
  rw [OpenSsl.concatKdf, concatKdfOf]
  simp only [otherInfo, lengthPrefixed, List.length_nil, List.append_nil, List.append_assoc]

/-- And so is what the rust back end derives a key from. -/
theorem keyDerivationMaterials_eq : RustCrates.keyDerivationMaterials =
    otherInfo KeyWrapAlgorithm.ecdhEsA256Kw.asRef.utf8 [] [] AES_GCM_256_KEY_BITS := by
  simp only [RustCrates.keyDerivationMaterials, otherInfo, lengthPrefixed, List.length_nil, List.append_nil,
    List.append_assoc]

end Derivation

section Ciphers

variable {openssl : OpenSsl} {crates : RustCrates}

/-- A function of the rust back end that makes arrays of its key and its vector first. -/
theorem agree_sized_iff {α : Type} {ivSize : Nat} {native : Outcome α} {key iv : List UInt8}
    {rest : Vector UInt8 32 → Vector UInt8 ivSize → Outcome α}
    (agree : ∀ key' iv', key = Vector.toList key' → iv = Vector.toList iv' → Agree native (rest key' iv')) :
    Agree native (do let key' ← fromSlice 32 key; let iv' ← fromSlice ivSize iv; rest key' iv') ↔
      key.length = 32 ∧ iv.length = ivSize := by
  rw [agree_fromSlice_bind]
  simp only [agree_fromSlice_bind]
  constructor
  · rintro ⟨key', rfl, iv', rfl, _⟩
    exact ⟨key'.length_toList, iv'.length_toList⟩
  · rintro ⟨keyFits, ivFits⟩
    obtain ⟨key', sameKey⟩ := exists_vector_iff.mpr keyFits
    obtain ⟨iv', sameIv⟩ := exists_vector_iff.mpr ivFits
    exact ⟨key', sameKey, iv', sameIv, agree key' iv' sameKey sameIv⟩

theorem gcmEncrypt_agree_iff (shared : SharedCiphers openssl crates) (key iv data : List UInt8) :
    Agree (openssl.gcmEncrypt key iv data) (crates.gcmEncrypt key iv data) ↔ key.length = 32 ∧ iv.length = 12 := by
  refine agree_sized_iff ?_
  rintro key' iv' rfl rfl
  refine ⟨_, ?_, (shared.aeadEncrypt key' iv' data).mapError _⟩
  exact (shared.encryptAead key' iv' [] data).map fun sealed => sealed.1 ++ sealed.2.toList

theorem gcmEncryptDetached_agree_iff (shared : SharedCiphers openssl crates) (key iv data aad : List UInt8) :
    Agree (openssl.gcmEncryptDetached key iv data aad) (crates.gcmEncryptDetached key iv data aad) ↔
      key.length = 32 ∧ iv.length = 12 := by
  refine agree_sized_iff ?_
  rintro key' iv' rfl rfl
  let detached : List UInt8 × Vector UInt8 16 → AeadCipher := fun sealed => ⟨sealed.2.toList, sealed.1⟩
  exact ⟨_, (shared.encryptAead key' iv' aad data).map detached,
    ((shared.encryptInPlaceDetached key' iv' aad data).mapError _).map detached⟩

/-- A ciphertext is a body and a tag, or too short for a tag. -/
theorem split_tag {bytes : List UInt8} (long : 16 ≤ bytes.length) :
    ∃ (body : List UInt8) (tag : Vector UInt8 16), bytes = body ++ tag.toList ∧
      splitAt bytes (bytes.length - 16) = .ok (body, tag.toList) := by
  have size : (bytes.drop (bytes.length - 16)).length = 16 := by
    rw [List.length_drop]
    omega
  refine ⟨bytes.take (bytes.length - 16), ⟨(bytes.drop (bytes.length - 16)).toArray, size⟩, ?_, ?_⟩
  · exact (List.take_append_drop _ bytes).symm
  · rw [splitAt, if_pos (Nat.sub_le _ _), List.splitAt_eq]
    rfl

theorem gcmDecrypt_agree_iff (shared : SharedCiphers openssl crates) (key iv encryptedData : List UInt8) :
    Agree (openssl.gcmDecrypt key iv encryptedData) (crates.gcmDecrypt key iv encryptedData) ↔
      key.length = 32 ∧ iv.length = 12 := by
  refine agree_sized_iff ?_
  rintro key' iv' rfl rfl
  by_cases short : encryptedData.length < 16
  · refine ⟨none, ?_, (shared.aeadDecryptShort key' iv' encryptedData short).mapError _⟩
    rw [OpenSsl.gcmDecrypt, OpenSsl.TAG_LENGTH, if_pos short]
    exact ⟨_, rfl⟩
  · obtain ⟨body, tag, whole, halves⟩ := split_tag (not_lt.mp short)
    refine ⟨_, ?_, by rw [whole]; exact (shared.aeadDecrypt key' iv' body tag).mapError _⟩
    have rest : checkedSub encryptedData.length 16 = .ok (encryptedData.length - 16) :=
      checkedSub_ok.mpr ⟨not_lt.mp short, rfl⟩
    rw [OpenSsl.gcmDecrypt, OpenSsl.TAG_LENGTH, if_neg short, rest]
    change Answers (splitAt encryptedData (encryptedData.length - 16) >>= _) _
    rw [halves]
    exact shared.decryptAead key' iv' [] body tag

theorem gcmDecryptDetached_agree_iff (shared : SharedCiphers openssl crates)
    (key iv encryptedData aad tag : List UInt8) :
    Agree (openssl.decryptAead key iv aad encryptedData tag) (crates.gcmDecryptDetached key iv encryptedData aad tag) ↔
      key.length = 32 ∧ iv.length = 12 ∧ tag.length = 16 := by
  rw [RustCrates.gcmDecryptDetached, agree_fromSlice_bind]
  simp only [agree_fromSlice_bind]
  constructor
  · rintro ⟨key', rfl, iv', rfl, tag', rfl, _⟩
    exact ⟨key'.length_toList, iv'.length_toList, tag'.length_toList⟩
  · rintro ⟨keyFits, ivFits, tagFits⟩
    obtain ⟨key', rfl⟩ := exists_vector_iff.mpr keyFits
    obtain ⟨iv', rfl⟩ := exists_vector_iff.mpr ivFits
    obtain ⟨tag', rfl⟩ := exists_vector_iff.mpr tagFits
    exact ⟨key', rfl, iv', rfl, tag', rfl, _, shared.decryptAead key' iv' aad encryptedData tag',
      (shared.decryptInPlaceDetached key' iv' aad encryptedData tag').mapError _⟩

theorem ctrEncrypt_agree_iff (shared : SharedCiphers openssl crates) (key iv data : List UInt8) :
    Agree (openssl.encryptCtr key iv data) (crates.ctrEncrypt key iv data) ↔ key.length = 32 ∧ iv.length = 16 := by
  refine agree_sized_iff ?_
  rintro key' iv' rfl rfl
  exact ⟨some (shared.keystream key' iv' data), shared.encryptCtr key' iv' data,
    congrArg Except.ok (shared.applyKeystream key' iv' data)⟩

theorem ctrDecrypt_agree_iff (shared : SharedCiphers openssl crates) (key iv encryptedData : List UInt8) :
    Agree (openssl.decryptCtr key iv encryptedData) (crates.ctrDecrypt key iv encryptedData) ↔
      key.length = 32 ∧ iv.length = 16 := by
  refine agree_sized_iff ?_
  rintro key' iv' rfl rfl
  refine ⟨some (shared.keystream key' iv' encryptedData), shared.decryptCtr key' iv' encryptedData, ?_⟩
  rw [shared.applyKeystreamB2b key' iv' encryptedData]
  rfl

end Ciphers

section Agreement

variable {openssl : OpenSsl} {crates : RustCrates}

theorem concatKdfOf_length (secret info : List UInt8) (n : Nat) : (concatKdfOf secret info n).length = n := by
  have digest (message : List UInt8) : (Sha2.sha256.digest message).length = 32 := Sha2.sha256.digest_length message
  rw [concatKdfOf, List.length_take, List.length_flatMap]
  simp only [digest, List.map_const', List.length_range, List.sum_replicate_nat]
  omega

/-- The key that the agreement with a point gives. -/
def SharedAgreement.kek (shared : SharedAgreement openssl crates) (point : shared.Point) : Vector UInt8 32 :=
  ⟨(concatKdfOf (shared.z point).toList RustCrates.keyDerivationMaterials 32).toArray, concatKdfOf_length _ _ 32⟩

variable (shared : SharedAgreement openssl crates) {encryptedKey x y : List UInt8}

theorem SharedAgreement.kek_toList (point : shared.Point) :
    (shared.kek point).toList = concatKdfOf (shared.z point).toList RustCrates.keyDerivationMaterials 32 := by
  rw [SharedAgreement.kek, Vector.toList_mk, List.toList_toArray]

theorem SharedAgreement.derives (point : shared.Point) :
    OpenSsl.concatKdf KeyWrapAlgorithm.ecdhEsA256Kw.asRef (AES_GCM_256_KEY_BITS / 8) (shared.z point).toList =
      (shared.kek point).toList := by
  rw [concatKdf_eq, SharedAgreement.kek_toList, keyDerivationMaterials_eq, AES_GCM_256_KEY_BITS]

/-- What the native back end does where OpenSSL takes the coordinates for a point. -/
theorem nativeUnwrap_eq {point : shared.Point} (named : shared.openSslPoint x y = some point) :
    ∃ change : String → String, openssl.unwrapKeyWith shared.native encryptedKey x y .ecdhEsA256Kw =
      (checkedSub encryptedKey.length 8 >>= fun size =>
        (openssl.unwrapKey (shared.nativeKek (shared.kek point)) size encryptedKey).mapError change >>= fun key =>
          .ok key.toList) := by
  have taken := shared.publicKey x y
  rw [named] at taken
  refine ⟨fun e => s!"failed to unwrap key: {e}", ?_⟩
  rw [OpenSsl.unwrapKeyWith, show Outcome.ofResult (openssl.publicKey x y) = .ok (shared.toNative point) from taken]
  change Outcome.ofResult (openssl.deriveToVec shared.native (shared.toNative point)) >>= _ = _
  rw [shared.deriveToVec]
  change (checkedSub encryptedKey.length 8 >>= fun size => (Outcome.ofResult (openssl.newDecrypt (OpenSsl.concatKdf
    KeyWrapAlgorithm.ecdhEsA256Kw.asRef (AES_GCM_256_KEY_BITS / 8) (shared.z point).toList))).mapError _ >>= _) = _
  rw [shared.derives, shared.newDecrypt]
  rfl

theorem nativeUnwrap_answers {point : shared.Point} (named : shared.openSslPoint x y = some point)
    (long : 8 ≤ encryptedKey.length) :
    Answers (openssl.unwrapKeyWith shared.native encryptedKey x y .ecdhEsA256Kw)
      ((shared.kw (shared.kek point) encryptedKey).map Vector.toList) := by
  obtain ⟨change, whole⟩ := @nativeUnwrap_eq _ _ shared encryptedKey x y point named
  have size : Answers (checkedSub encryptedKey.length 8) (some (encryptedKey.length - 8)) :=
    checkedSub_ok.mpr ⟨long, rfl⟩
  rw [whole]
  exact size.bind (((shared.unwrapKey _ encryptedKey long).mapError change).map Vector.toList)

theorem nativeUnwrap_panics {point : shared.Point} (named : shared.openSslPoint x y = some point)
    (short : encryptedKey.length < 8) :
    ∃ message, openssl.unwrapKeyWith shared.native encryptedKey x y .ecdhEsA256Kw = .panic message := by
  obtain ⟨change, whole⟩ := @nativeUnwrap_eq _ _ shared encryptedKey x y point named
  rw [whole, checkedSub, if_neg (not_le.mpr short)]
  exact ⟨_, rfl⟩

theorem nativeUnwrap_refuses (unnamed : shared.openSslPoint x y = none) :
    Answers (openssl.unwrapKeyWith shared.native encryptedKey x y .ecdhEsA256Kw) none := by
  have refused := shared.publicKey x y
  rw [unnamed] at refused
  exact refused.bind_none

/-- What the rust back end unwraps where the coordinates are those of a point. -/
theorem rustUnwrap_answers {point : shared.Point} (canonical : Canonical x y)
    (named : shared.point (BigEndian.value x) (BigEndian.value y) = some point) (long : 8 ≤ encryptedKey.length) :
    Answers (crates.unwrapKey shared.rust encryptedKey x y .ecdhEsA256Kw)
      ((shared.kw (shared.kek point) encryptedKey).map Vector.toList) := by
  obtain ⟨x', rfl⟩ := exists_vector_iff.mpr canonical.xLength
  obtain ⟨y', rfl⟩ := exists_vector_iff.mpr canonical.yLength
  obtain ⟨key, derived, same⟩ := shared.deriveKeyInto (shared.z point).toList RustCrates.keyDerivationMaterials
  have kek : key = shared.kek point := Vector.toList_inj.mp (same.trans (shared.kek_toList point).symm)
  have decoded : Outcome.okOr "invalid public key" (crates.fromEncodedPoint x' y') = .ok (shared.toRust point) := by
    rw [shared.fromEncodedPoint x' y' canonical, named]
    rfl
  have agreed : Answers ((Outcome.ofResult (crates.deriveKeyInto
      (crates.diffieHellman shared.rust (shared.toRust point)).toList RustCrates.keyDerivationMaterials 32)).mapError
        fun e => s!"failed to do concat KDF: {e}") (some (shared.kek point)) := by
    rw [shared.diffieHellman, derived, kek]
    rfl
  have size : Answers (checkedSub encryptedKey.length 8) (some (encryptedKey.length - 8)) :=
    checkedSub_ok.mpr ⟨long, rfl⟩
  refine (answers_tryInto _ x').bind ((answers_tryInto _ y').bind ?_)
  refine Answers.bind decoded (agreed.bind (size.bind ?_))
  exact ((shared.kwUnwrap _ encryptedKey long).mapError _).map Vector.toList

theorem rustUnwrap_refuses (unnamed : Canonical x y → shared.point (BigEndian.value x) (BigEndian.value y) = none) :
    Answers (crates.unwrapKey shared.rust encryptedKey x y .ecdhEsA256Kw) none := by
  rw [RustCrates.unwrapKey]
  by_cases xFits : x.length = 32
  · obtain ⟨x', rfl⟩ := exists_vector_iff.mpr xFits
    refine (answers_tryInto _ x').bind ?_
    by_cases yFits : y.length = 32
    · obtain ⟨y', rfl⟩ := exists_vector_iff.mpr yFits
      refine (answers_tryInto _ y').bind (Answers.bind_none ?_)
      have refused : crates.fromEncodedPoint x' y' = none := by
        by_cases canonical : Canonical x'.toList y'.toList
        · rw [shared.fromEncodedPoint x' y' canonical, unnamed canonical]
          rfl
        · exact shared.fromEncodedPointBeyond x' y' canonical
      rw [refused]
      exact ⟨_, rfl⟩
    · rw [tryInto, dif_neg yFits]
      exact ⟨_, rfl⟩
  · rw [tryInto, dif_neg xFits]
    exact ⟨_, rfl⟩

/-- The two unwrap the same key, or neither does, where what OpenSSL takes for a point comes with
eight bytes of wrapped key at least, and is one in canonical coordinates, or unwraps nothing. -/
theorem unwrapKey_agree_iff :
    Agree (openssl.unwrapKeyWith shared.native encryptedKey x y .ecdhEsA256Kw)
        (crates.unwrapKey shared.rust encryptedKey x y .ecdhEsA256Kw) ↔
      ∀ point, shared.openSslPoint x y = some point →
        8 ≤ encryptedKey.length ∧ (Canonical x y ∨ shared.kw (shared.kek point) encryptedKey = none) := by
  have fields : Canonical x y → shared.point (BigEndian.value x) (BigEndian.value y) = shared.openSslPoint x y :=
    fun canonical => (shared.openSslPoint_field x y canonical.xField canonical.yField).symm
  cases named : shared.openSslPoint x y with
  | none =>
    refine iff_of_true ⟨none, nativeUnwrap_refuses shared named, rustUnwrap_refuses shared fun canonical => ?_⟩ nofun
    rw [fields canonical, named]
  | some point =>
    simp only [Option.some_inj, forall_eq']
    by_cases long : 8 ≤ encryptedKey.length
    · rw [and_iff_right long, agree_iff_of_answers (nativeUnwrap_answers shared named long)]
      by_cases canonical : Canonical x y
      · refine iff_of_true ?_ (.inl canonical)
        exact rustUnwrap_answers shared canonical ((fields canonical).trans named) long
      · have refused : Answers (crates.unwrapKey shared.rust encryptedKey x y .ecdhEsA256Kw) none :=
          rustUnwrap_refuses shared fun holds => absurd holds canonical
        rw [or_iff_right canonical]
        constructor
        · exact fun answers => Option.map_eq_none_iff.mp (answers.unique refused)
        · intro nothing
          rwa [nothing]
    · obtain ⟨message, panicked⟩ := @nativeUnwrap_panics _ _ shared encryptedKey x y point named (not_le.mp long)
      rw [panicked]
      exact iff_of_false not_panic_agree fun both => long both.1

/-- **The back ends agree**, over shared primitives, on exactly these inputs: a key of 32 bytes and a
vector of 12 for AES-256-GCM, or of 16 for AES-256-CTR, with a tag of 16 where it comes apart; and to
unwrap a key, coordinates that OpenSSL takes for no point, or eight bytes of wrapped key at least
with coordinates in canonical form (or with a wrapped key that is refused). On any other input of a
cipher the rust back end panics. The KDF of either is that of RFC 7518 for the algorithm and the
length of its key. -/
theorem backends_agree_iff (ciphers : SharedCiphers openssl crates) :
    (∀ encryptedKey x y, Agree (openssl.unwrapKeyWith shared.native encryptedKey x y .ecdhEsA256Kw)
        (crates.unwrapKey shared.rust encryptedKey x y .ecdhEsA256Kw) ↔
      ∀ point, shared.openSslPoint x y = some point →
        8 ≤ encryptedKey.length ∧ (Canonical x y ∨ shared.kw (shared.kek point) encryptedKey = none)) ∧
    (∀ key iv data, Agree (openssl.gcmEncrypt key iv data) (crates.gcmEncrypt key iv data) ↔
      key.length = 32 ∧ iv.length = 12) ∧
    (∀ key iv encryptedData,
      Agree (openssl.gcmDecrypt key iv encryptedData) (crates.gcmDecrypt key iv encryptedData) ↔
      key.length = 32 ∧ iv.length = 12) ∧
    (∀ key iv data aad,
      Agree (openssl.gcmEncryptDetached key iv data aad) (crates.gcmEncryptDetached key iv data aad) ↔
      key.length = 32 ∧ iv.length = 12) ∧
    (∀ key iv encryptedData aad tag, Agree (openssl.decryptAead key iv aad encryptedData tag)
        (crates.gcmDecryptDetached key iv encryptedData aad tag) ↔
      key.length = 32 ∧ iv.length = 12 ∧ tag.length = 16) ∧
    (∀ key iv data, Agree (openssl.encryptCtr key iv data) (crates.ctrEncrypt key iv data) ↔
      key.length = 32 ∧ iv.length = 16) ∧
    (∀ key iv encryptedData,
      Agree (openssl.decryptCtr key iv encryptedData) (crates.ctrDecrypt key iv encryptedData) ↔
      key.length = 32 ∧ iv.length = 16) ∧
    (∀ alg targetLength z, OpenSsl.concatKdf alg targetLength z =
      concatKdfOf z (otherInfo alg.utf8 [] [] (targetLength * 8)) targetLength) ∧
    RustCrates.keyDerivationMaterials =
      otherInfo KeyWrapAlgorithm.ecdhEsA256Kw.asRef.utf8 [] [] AES_GCM_256_KEY_BITS :=
  ⟨fun _ _ _ => unwrapKey_agree_iff shared, gcmEncrypt_agree_iff ciphers, gcmDecrypt_agree_iff ciphers,
    gcmEncryptDetached_agree_iff ciphers, gcmDecryptDetached_agree_iff ciphers, ctrEncrypt_agree_iff ciphers,
    ctrDecrypt_agree_iff ciphers, concatKdf_eq, keyDerivationMaterials_eq⟩

end Agreement

section EmptyKey

/-- The coordinates of the generator, the public key of the private key one. -/
def generator : Nat × Nat :=
  (0x6b17d1f2e12c4247f8bce6e563a440f277037d812deb33a0f4a13945d898c296,
    0x4fe342e2fe1a7f9b8ee7eb4a7c0f9e162bce33576b315ececbb6406837bf51f5)

def generatorOf (x y : Nat) : Option Unit := if (x, y) = generator then some () else none

def generatorZ : Vector UInt8 32 :=
  ⟨(BigEndian.fixed 32 generator.1).toArray, BigEndian.fixed_length (by decide +kernel)⟩

instance (x y : List UInt8) : Decidable (Canonical x y) :=
  decidable_of_iff (x.length = 32 ∧ y.length = 32 ∧ BigEndian.value x < p256Prime ∧ BigEndian.value y < p256Prime)
    ⟨fun ⟨xLength, yLength, xField, yField⟩ => ⟨xLength, yLength, xField, yField⟩,
      fun ⟨xLength, yLength, xField, yField⟩ => ⟨xLength, yLength, xField, yField⟩⟩

/-- The crates and OpenSSL on the private key one and on its own point. No key opens or seals
anything, or unwraps another. -/
def oneCrates : RustCrates where
  RsaKeyPair := Empty
  SecretKey := Unit
  PublicKey := Unit
  n := nofun
  e := nofun
  x _ := some generatorZ
  y _ := some ⟨(BigEndian.fixed 32 generator.2).toArray, BigEndian.fixed_length (by decide +kernel)⟩
  rsaDecrypt := nofun
  fromEncodedPoint x y := if Canonical x.toList y.toList then
    generatorOf (BigEndian.value x.toList) (BigEndian.value y.toList) else none
  diffieHellman _ _ := generatorZ
  deriveKeyInto secret info n := .ok ⟨(concatKdfOf secret info n).toArray, concatKdfOf_length secret info n⟩
  kwUnwrap _ _ _ := .error "IntegrityCheckFailed"
  encryptInPlaceDetached _ _ _ _ := .error "Error"
  decryptInPlaceDetached _ _ _ _ _ := .error "Error"
  aeadEncrypt _ _ _ := .error "Error"
  aeadDecrypt _ _ _ := .error "Error"
  applyKeystream _ _ data := data
  applyKeystreamB2b _ _ data := .ok data

def oneOpenSsl : OpenSsl where
  RsaKeyPair := Empty
  PrivateKey := Unit
  PublicKey := Unit
  UnwrappingKey := Unit
  n := nofun
  e := nofun
  affineCoordinates _ := .ok generator
  privateDecrypt := nofun
  publicKey x y := match generatorOf (BigEndian.value x) (BigEndian.value y) with
    | some point => .ok point
    | none => .error "point is not on curve"
  deriveToVec _ _ := .ok generatorZ.toList
  newDecrypt _ := .ok ()
  unwrapKey _ _ _ := .bail "KeyError"
  encryptAead _ _ _ _ _ := .bail "ErrorStack"
  decryptAead _ _ _ _ _ := .bail "ErrorStack"
  encryptCtr key iv data := if key.length = 32 ∧ iv.length = 16 then .ok data else .bail "ErrorStack"
  decryptCtr key iv data := if key.length = 32 ∧ iv.length = 16 then .ok data else .bail "ErrorStack"

def oneCiphers : SharedCiphers oneOpenSsl oneCrates where
  gcmSeal _ _ _ _ := none
  gcmOpen _ _ _ _ _ := none
  keystream _ _ data := data
  encryptAead _ _ _ _ := ⟨_, rfl⟩
  decryptAead _ _ _ _ _ := ⟨_, rfl⟩
  encryptCtr key iv _ := if_pos ⟨key.length_toList, iv.length_toList⟩
  decryptCtr key iv _ := if_pos ⟨key.length_toList, iv.length_toList⟩
  encryptInPlaceDetached _ _ _ _ := ⟨_, rfl⟩
  decryptInPlaceDetached _ _ _ _ _ := ⟨_, rfl⟩
  aeadEncrypt _ _ _ := ⟨_, rfl⟩
  aeadDecrypt _ _ _ _ := ⟨_, rfl⟩
  aeadDecryptShort _ _ _ _ := ⟨_, rfl⟩
  applyKeystream _ _ _ := rfl
  applyKeystreamB2b _ _ _ := rfl

def oneAgreement : SharedAgreement oneOpenSsl oneCrates where
  Point := Unit
  native := ()
  rust := ()
  point := generatorOf
  openSslPoint x y := generatorOf (BigEndian.value x) (BigEndian.value y)
  z _ := generatorZ
  kw _ _ := none
  toNative := id
  toRust := id
  nativeKek _ := ()
  openSslPoint_field _ _ _ _ := rfl
  publicKey x y := by
    change Answers (.ofResult (match generatorOf (BigEndian.value x) (BigEndian.value y) with
      | some point => .ok point
      | none => .error "point is not on curve")) ((generatorOf (BigEndian.value x) (BigEndian.value y)).map id)
    cases generatorOf (BigEndian.value x) (BigEndian.value y) with
    | some point => exact rfl
    | none => exact ⟨_, rfl⟩
  deriveToVec _ := rfl
  newDecrypt _ := rfl
  unwrapKey _ _ _ := ⟨_, rfl⟩
  fromEncodedPoint _ _ canonical := (if_pos canonical).trans (congrFun Option.map_id _).symm
  fromEncodedPointBeyond _ _ beyond := if_neg beyond
  diffieHellman _ := rfl
  deriveKeyInto _ _ := ⟨_, rfl, rfl⟩
  kwUnwrap _ _ _ := ⟨_, rfl⟩

/-- An empty key: OpenSSL refuses it, the rust back end panics. -/
theorem empty_key_disagrees : ¬ ∀ openssl crates, SharedCiphers openssl crates → SharedAgreement openssl crates →
    ∀ key iv encryptedData,
      Agree (openssl.gcmDecrypt key iv encryptedData) (crates.gcmDecrypt key iv encryptedData) := by
  intro holds
  have agree := holds _ _ oneCiphers oneAgreement [] (List.replicate 12 0) (List.replicate 16 0)
  exact absurd ((gcmDecrypt_agree_iff oneCiphers _ _ _).mp agree).1 (by decide)

end EmptyKey

end GuestComponents.Crypto
