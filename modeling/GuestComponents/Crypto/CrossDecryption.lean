import GuestComponents.Crypto.Interchange

/-! Decryption by one back end of what the other has encrypted, over ciphers that they share. Where the
key and the vector are of the cipher's lengths, what a back end decrypts is exactly what either of them
encrypts to it (`decrypt_iff`). -/
namespace GuestComponents.Crypto
open Lib

/-- The back end is one of the two. -/
inductive Built (openssl : OpenSsl) (crates : RustCrates) : Backend → Prop where
  | native : Built openssl crates openssl.backend
  | rust : Built openssl crates crates.backend

variable {openssl : OpenSsl} {crates : RustCrates}

/-- AES-GCM opens what it seals and nothing else, and AES-CTR is its own inverse. -/
structure Inverse (shared : SharedCiphers openssl crates) : Prop where
  gcm : ∀ key iv aad data body tag,
    shared.gcmOpen key iv aad body tag = some data ↔ shared.gcmSeal key iv aad data = some (body, tag)
  ctr : ∀ key iv data, shared.keystream key iv (shared.keystream key iv data) = data

/-- The length of the vector. -/
def ivLength : WrapType → Nat
  | .aes256Gcm => 12
  | .aes256Ctr => 16

theorem answers_ok_iff {α : Type} {outcome : Outcome α} {answer : Option α} (answers : Answers outcome answer)
    {value : α} :
    outcome = .ok value ↔ answer = some value := by
  constructor
  · exact fun same => answers.unique (show Answers outcome (some value) from same)
  · rintro rfl
    exact answers

section Gcm

variable (shared : SharedCiphers openssl crates) {backend : Backend} {key : Vector UInt8 32} {iv : Vector UInt8 12}
  {data ciphertext : List UInt8}

/-- The tag stands after the ciphertext. -/
theorem gcmEncrypt_ok (built : Built openssl crates backend) :
    backend.gcmEncrypt key.toList data iv.toList = .ok ciphertext ↔
      ∃ body tag, shared.gcmSeal key iv [] data = some (body, tag) ∧ ciphertext = body ++ tag.toList := by
  have native : Answers (openssl.gcmEncrypt key.toList iv.toList data)
      ((shared.gcmSeal key iv [] data).map fun parts => parts.1 ++ parts.2.toList) :=
    (shared.encryptAead key iv [] data).map fun parts => parts.1 ++ parts.2.toList
  have rust := (agree_iff_of_answers native).mp
    ((gcmEncrypt_agree_iff shared key.toList iv.toList data).mpr ⟨key.length_toList, iv.length_toList⟩)
  have answers : Answers (backend.gcmEncrypt key.toList data iv.toList)
      ((shared.gcmSeal key iv [] data).map fun parts => parts.1 ++ parts.2.toList) := by
    cases built with
    | native => exact native
    | rust => exact rust
  rw [answers_ok_iff answers, Option.map_eq_some_iff]
  constructor
  · rintro ⟨⟨body, tag⟩, made, rfl⟩
    exact ⟨body, tag, made, rfl⟩
  · rintro ⟨body, tag, made, rfl⟩
    exact ⟨(body, tag), made, rfl⟩

theorem native_gcmDecrypt (key : Vector UInt8 32) (iv : Vector UInt8 12) (ciphertext : List UInt8) :
    ∃ answer, Answers (openssl.gcmDecrypt key.toList iv.toList ciphertext) answer ∧ ∀ data, answer = some data ↔
      ∃ body tag, ciphertext = body ++ Vector.toList tag ∧ shared.gcmOpen key iv [] body tag = some data := by
  by_cases short : ciphertext.length < 16
  · refine ⟨none, ?_, fun data => ?_⟩
    · rw [OpenSsl.gcmDecrypt, OpenSsl.TAG_LENGTH, if_pos short]
      exact ⟨_, rfl⟩
    · constructor
      · intro impossible
        cases impossible
      · rintro ⟨body, tag, rfl, _⟩
        rw [List.length_append, tag.length_toList] at short
        omega
  · obtain ⟨body, tag, whole, halves⟩ := split_tag (not_lt.mp short)
    refine ⟨shared.gcmOpen key iv [] body tag, ?_, fun data => ?_⟩
    · have rest : checkedSub ciphertext.length 16 = .ok (ciphertext.length - 16) :=
        checkedSub_ok.mpr ⟨not_lt.mp short, rfl⟩
      rw [OpenSsl.gcmDecrypt, OpenSsl.TAG_LENGTH, if_neg short, rest]
      change Answers (splitAt ciphertext (ciphertext.length - 16) >>= _) _
      rw [halves]
      exact shared.decryptAead key iv [] body tag
    · constructor
      · exact fun opened => ⟨body, tag, whole, opened⟩
      · rintro ⟨other, tag', same, opened⟩
        obtain ⟨rfl, tags⟩ := List.append_inj' (whole.symm.trans same)
          (tag.length_toList.trans tag'.length_toList.symm)
        rw [Vector.toList_inj.mp tags]
        exact opened

theorem gcmDecrypt_ok (built : Built openssl crates backend) :
    backend.gcmDecrypt key.toList ciphertext iv.toList = .ok data ↔
      ∃ body tag, ciphertext = body ++ Vector.toList tag ∧ shared.gcmOpen key iv [] body tag = some data := by
  obtain ⟨answer, native, means⟩ := native_gcmDecrypt shared key iv ciphertext
  have rust := (agree_iff_of_answers native).mp
    ((gcmDecrypt_agree_iff shared key.toList iv.toList ciphertext).mpr ⟨key.length_toList, iv.length_toList⟩)
  have answers : Answers (backend.gcmDecrypt key.toList ciphertext iv.toList) answer := by
    cases built with
    | native => exact native
    | rust => exact rust
  rw [answers_ok_iff answers, means]

end Gcm

section Ctr

variable (shared : SharedCiphers openssl crates) {backend : Backend} {key : Vector UInt8 32} {iv : Vector UInt8 16}
  {data ciphertext : List UInt8}

theorem ctrEncrypt_eq (built : Built openssl crates backend) :
    backend.ctrEncrypt key.toList data iv.toList = .ok (shared.keystream key iv data) := by
  have native : Answers (openssl.encryptCtr key.toList iv.toList data) (some (shared.keystream key iv data)) :=
    shared.encryptCtr key iv data
  cases built with
  | native => exact native
  | rust =>
    exact (agree_iff_of_answers native).mp
      ((ctrEncrypt_agree_iff shared key.toList iv.toList data).mpr ⟨key.length_toList, iv.length_toList⟩)

theorem ctrDecrypt_eq (built : Built openssl crates backend) :
    backend.ctrDecrypt key.toList ciphertext iv.toList = .ok (shared.keystream key iv ciphertext) := by
  have native : Answers (openssl.decryptCtr key.toList iv.toList ciphertext)
      (some (shared.keystream key iv ciphertext)) :=
    shared.decryptCtr key iv ciphertext
  cases built with
  | native => exact native
  | rust =>
    exact (agree_iff_of_answers native).mp
      ((ctrDecrypt_agree_iff shared key.toList iv.toList ciphertext).mpr ⟨key.length_toList, iv.length_toList⟩)

end Ctr

/-- What one back end decrypts is what the other encrypts. -/
theorem decrypt_iff {shared : SharedCiphers openssl crates} (inverse : Inverse shared) {encrypting decrypting : Backend}
    (encrypts : Built openssl crates encrypting) (decrypts : Built openssl crates decrypting)
    {key iv data ciphertext : List UInt8} {wrapType : WrapType} (keyFits : key.length = 32)
    (ivFits : iv.length = ivLength wrapType) :
    decrypting.decrypt key iv ciphertext wrapType = .ok data ↔
    encrypting.encrypt key iv data wrapType = .ok ciphertext := by
  obtain ⟨key, rfl⟩ := exists_vector_iff.mpr keyFits
  cases wrapType with
  | aes256Gcm =>
    obtain ⟨iv, rfl⟩ : ∃ array : Vector UInt8 12, iv = array.toList := exists_vector_iff.mpr ivFits
    rw [Backend.decrypt, Backend.encrypt, gcmDecrypt_ok shared decrypts, gcmEncrypt_ok shared encrypts]
    constructor
    · rintro ⟨body, tag, rfl, opened⟩
      exact ⟨body, tag, (inverse.gcm key iv [] data body tag).mp opened, rfl⟩
    · rintro ⟨body, tag, made, rfl⟩
      exact ⟨body, tag, rfl, (inverse.gcm key iv [] data body tag).mpr made⟩
  | aes256Ctr =>
    obtain ⟨iv, rfl⟩ : ∃ array : Vector UInt8 16, iv = array.toList := exists_vector_iff.mpr ivFits
    rw [Backend.decrypt, Backend.encrypt, ctrDecrypt_eq shared decrypts, ctrEncrypt_eq shared encrypts]
    constructor
    · rintro same
      rw [← Except.ok.inj same, inverse.ctr]
    · rintro same
      rw [← Except.ok.inj same, inverse.ctr]

end GuestComponents.Crypto
