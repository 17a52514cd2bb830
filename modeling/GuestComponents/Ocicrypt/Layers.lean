import GuestComponents.Ocicrypt.Encryption
import GuestComponents.Ocicrypt.Streaming

/-! What setting up a layer's encryption or decryption amounts to: the options that
are sealed, and the stage at which the reader starts. -/
namespace GuestComponents.Ocicrypt
open Lib

/-- The private options of a fresh encryption. -/
def sealedOptions (key : SymmetricKey) (nonce : Nonce) (digest : String) :
    PrivateLayerBlockCipherOptions :=
  ⟨key.val, [("nonce", nonce.val)], digest⟩

/-- The public options of a fresh encryption with this tag. -/
def openOptions (tag : Bytes) : PublicLayerBlockCipherOptions := ⟨aes256Ctr, [], tag⟩

/-- The encrypting reader of a fresh encryption. -/
def encryptJob (key : SymmetricKey) (nonce : Nonce) : Job :=
  ⟨aes256KeySize, true, key.val, nonce.val, []⟩

/-- The decrypting reader under these options and this nonce. -/
def decryptJob (pub : PublicLayerBlockCipherOptions) (priv : PrivateLayerBlockCipherOptions)
    (nonce : Bytes) : Job :=
  ⟨aes256KeySize, false, priv.symmetricKey, nonce, pub.hmac⟩

/-- The ciphertext of a layer. -/
def ciphertextOf (crypto : Crypto) (key : SymmetricKey) (nonce : Nonce) (plaintext : Bytes) : Bytes :=
  Keystream.apply (crypto.keystream key.val nonce.val) 0 plaintext

variable {serde : Serde} {wrappers : List KeyWrapper}

/-- The public options that an annotation map gives. -/
def publicOptions (serde : Serde) (annotations : Option Annotations) :
    Except String PublicLayerBlockCipherOptions :=
  match getLayerPubOpts serde (annotations.getD .empty) with
  | .error error => .error error
  | .ok bytes => serde.pubFromSlice bytes

/-- The nonce a decryption works under: the public one before the private one. -/
def effectiveNonce (pub : PublicLayerBlockCipherOptions) (priv : PrivateLayerBlockCipherOptions) :
    Option Bytes :=
  LayerBlockCipherOptions.getOpt ⟨pub, priv⟩ "nonce"

theorem new_eq : LayerBlockCipherHandler.new = .ok ⟨aes256KeySize, false, none⟩ := rfl

/-- A layer that is encrypted now starts its reader under a random key and nonce,
which are the private options. -/
theorem encryptLayer_some (crypto : Crypto) {ec : EncryptConfig} {plaintext : Bytes}
    {annotations : Option Annotations} {digest : String} {random : Randomness}
    {reader : AESCTRBlockCipher} {lbco : LayerBlockCipherOptions}
    (encrypted : encryptLayer serde wrappers ec ⟨plaintext⟩ annotations digest random =
      .ok (some reader, lbco)) :
    ∃ key nonce, random.key = .ok key ∧ random.nonce = .ok nonce ∧
      reader = (encryptJob key nonce).stage crypto false [] plaintext ∧
      lbco = ⟨openOptions [], sealedOptions key nonce digest⟩ := by
  unfold encryptLayer at encrypted
  rw [new_eq] at encrypted
  cases already : alreadyEncrypted serde wrappers ec annotations wrappers false with
  | error error =>
    rw [already] at encrypted
    cases encrypted
  | ok flag =>
    cases flag with
    | true =>
      rw [already] at encrypted
      cases encrypted
    | false =>
      obtain ⟨keyOutcome, nonceOutcome⟩ := random
      cases keyOutcome with
      | error error =>
        rw [already] at encrypted
        cases encrypted
      | ok key =>
        cases nonceOutcome with
        | error error =>
          simp [already, LayerBlockCipherHandler.encrypt, AESCTRBlockCipher.encrypt,
            AESCTRBlockCipher.init, AESCTRBlockCipher.chooseNonce, LayerBlockCipherOptions.getOpt,
            LayerBlockCipherOptions.default, PublicLayerBlockCipherOptions.default, key.property,
            Except.map] at encrypted
        | ok nonce =>
          simp [already, LayerBlockCipherHandler.encrypt, AESCTRBlockCipher.encrypt,
            AESCTRBlockCipher.init, AESCTRBlockCipher.chooseNonce, LayerBlockCipherOptions.getOpt,
            LayerBlockCipherOptions.default, PublicLayerBlockCipherOptions.default, key.property,
            Except.map, orInsert] at encrypted
          obtain ⟨rfl, rfl⟩ := encrypted
          exact ⟨key, nonce, rfl, rfl, rfl, rfl⟩

/-- Without an annotation of a wrapper's, a layer is not encrypted. -/
theorem alreadyEncrypted_fresh {ec : EncryptConfig} {annotations : Option Annotations}
    {list : List KeyWrapper}
    (fresh : ∀ w ∈ list, (annotations.getD .empty).get? w.annotationId = none) :
    alreadyEncrypted serde wrappers ec annotations list false = .ok false := by
  induction list with
  | nil => rfl
  | cons w list ih =>
    have absent : (annotations.getD .empty).contains w.annotationId = false := by
      rw [SortedMap.contains, fresh w (by simp)]
      rfl
    rw [alreadyEncrypted, if_neg (Bool.eq_false_iff.mp absent)]
    exact ih fun u member => fresh u (by simp [member])

/-- With random bytes, a layer that is not encrypted is encrypted. -/
theorem encryptLayer_accepts (crypto : Crypto) {ec : EncryptConfig} {plaintext : Bytes}
    {annotations : Option Annotations} (digest : String) (key : SymmetricKey) (nonce : Nonce)
    (fresh : ∀ w ∈ wrappers, (annotations.getD .empty).get? w.annotationId = none) :
    encryptLayer serde wrappers ec ⟨plaintext⟩ annotations digest ⟨.ok key, .ok nonce⟩ =
      .ok (some ((encryptJob key nonce).stage crypto false [] plaintext),
        ⟨openOptions [], sealedOptions key nonce digest⟩) := by
  simp [encryptLayer, alreadyEncrypted_fresh fresh, new_eq, LayerBlockCipherHandler.encrypt,
    AESCTRBlockCipher.encrypt, AESCTRBlockCipher.init, AESCTRBlockCipher.chooseNonce,
    LayerBlockCipherOptions.getOpt, LayerBlockCipherOptions.default,
    PublicLayerBlockCipherOptions.default, key.property, Except.map, orInsert, Job.stage, Job.covered,
    Job.under, encryptJob, openOptions, sealedOptions]

/-- Reading an encryption to the end gives the ciphertext. -/
theorem encrypt_drain (crypto : Crypto) (key : SymmetricKey) (nonce : Nonce) {plaintext : Bytes}
    (schedule : Schedule plaintext.length) :
    ((encryptJob key nonce).stage crypto false [] plaintext).drain crypto schedule.calls =
      ⟨ciphertextOf crypto key nonce plaintext, some (.ok ()),
        (encryptJob key nonce).stage crypto true plaintext []⟩ := by
  have ending : (encryptJob key nonce).ending crypto plaintext = .ok () := if_pos (.inl rfl)
  rw [drain_stage, List.nil_append, ending]
  rfl

/-- At the end of an encryption the finalizer's options get the ciphertext's tag. -/
theorem encrypt_finalizedLbco (crypto : Crypto) (key : SymmetricKey) (nonce : Nonce) (digest : String)
    (plaintext : Bytes) :
    ((encryptJob key nonce).stage crypto true plaintext []).finalizedLbco
        ⟨openOptions [], sealedOptions key nonce digest⟩ =
      .ok ⟨openOptions (crypto.hmac key.val (ciphertextOf crypto key nonce plaintext)),
        sealedOptions key nonce digest⟩ :=
  finalizedLbco_stage rfl plaintext [] _

/-- What a decryption that was set up has read of the annotations and the unwrapped data. -/
theorem asyncDecryptLayer_ok (crypto : Crypto) {data ciphertext : Bytes}
    {annotations : Option Annotations} {random : Except String Nonce} {digest : String}
    {reader : AESCTRBlockCipher}
    (opened : asyncDecryptLayer serde ⟨ciphertext⟩ annotations data random = .ok (reader, digest)) :
    ∃ pub priv nonce, publicOptions serde annotations = .ok pub ∧
      serde.privFromSlice data = .ok priv ∧
      (effectiveNonce pub priv = some nonce ∨ effectiveNonce pub priv = none) ∧
      reader = (decryptJob pub priv nonce).stage crypto false [] ciphertext := by
  unfold asyncDecryptLayer at opened
  unfold publicOptions
  cases found : getLayerPubOpts serde (annotations.getD .empty) with
  | error error =>
    rw [found] at opened
    cases opened
  | ok bytes =>
    simp only [found] at opened ⊢
    cases pubRead : serde.pubFromSlice bytes with
    | error error =>
      rw [pubRead] at opened
      cases opened
    | ok pub =>
      simp only [pubRead] at opened
      cases privRead : serde.privFromSlice data with
      | error error =>
        rw [privRead] at opened
        cases opened
      | ok priv =>
        simp only [privRead, new_eq, LayerBlockCipherHandler.decrypt] at opened
        split at opened
        · cases opened
        · rename_i lbch opts set
          cases opened
          split at set
          · cases set
          · simp only [AESCTRBlockCipher.decrypt, AESCTRBlockCipher.init] at set
            split at set
            · cases set
            split at set
            · cases set
            split at set
            · cases set
            rename_i nonce chosen
            cases set
            refine ⟨pub, priv, nonce, rfl, rfl, (chooseNonce_ok chosen).2, ?_⟩
            simp [Job.stage, Job.covered, decryptJob]

/-- `decrypt_layer` sets up what `async_decrypt_layer` does with the unwrapped data. -/
theorem decryptLayer_some {dc : DecryptConfig} {ciphertext : Bytes}
    {annotations : Option Annotations} {random : Except String Nonce} {digest : String}
    {reader : AESCTRBlockCipher} :
    decryptLayer serde wrappers dc ⟨ciphertext⟩ annotations false random = .ok (some reader, digest) ↔
      ∃ data, decryptLayerKeyOptsData wrappers dc annotations = .ok data ∧
        asyncDecryptLayer serde ⟨ciphertext⟩ annotations data random = .ok (reader, digest) := by
  unfold decryptLayer asyncDecryptLayer
  cases decryptLayerKeyOptsData wrappers dc annotations with
  | error error => simp
  | ok data =>
    cases getLayerPubOpts serde (annotations.getD .empty) with
    | error error => simp
    | ok bytes =>
      cases privRead : serde.privFromSlice data with
      | error error => cases pubRead : serde.pubFromSlice bytes <;> simp [privRead, pubRead]
      | ok priv =>
        cases pubRead : serde.pubFromSlice bytes with
        | error error => simp [privRead, pubRead]
        | ok pub =>
          simp only [privRead, pubRead, new_eq, Bool.false_eq_true, if_false, Except.ok.injEq,
            exists_eq_left']
          cases LayerBlockCipherHandler.decrypt ⟨aes256KeySize, false, none⟩ ⟨ciphertext⟩ random
            ⟨pub, priv⟩ with
          | error error => simp
          | ok set => simp

/-- The options of an encryption are accepted for decryption, whatever nonce of the
right size the public ones add. -/
theorem asyncDecryptLayer_accepts (crypto : Crypto) {annotations : Option Annotations}
    {pub : PublicLayerBlockCipherOptions} {priv : PrivateLayerBlockCipherOptions} {nonce : Bytes}
    (ciphertext : Bytes) (random : Except String Nonce)
    (published : publicOptions serde annotations = .ok pub) (cipher : pub.cipherType = aes256Ctr)
    (tag : pub.hmac ≠ []) (keySize : priv.symmetricKey.length = aes256KeySize)
    (named : effectiveNonce pub priv = some nonce) (nonceSize : nonce.length = aes256NonceSize) :
    asyncDecryptLayer serde ⟨ciphertext⟩ annotations (serde.privToVec priv) random =
      .ok ((decryptJob pub priv nonce).stage crypto false [] ciphertext, priv.digest) := by
  unfold publicOptions at published
  unfold effectiveNonce at named
  unfold asyncDecryptLayer
  cases found : getLayerPubOpts serde (annotations.getD .empty) with
  | error error =>
    rw [found] at published
    cases published
  | ok bytes =>
    simp only [found] at published
    simp [published, serde.privRead, new_eq, LayerBlockCipherHandler.decrypt, cipher,
      AESCTRBlockCipher.decrypt, AESCTRBlockCipher.init, AESCTRBlockCipher.chooseNonce, keySize, tag,
      named, nonceSize, Job.stage, Job.covered, decryptJob]

/-- The options of an encryption decrypt its ciphertext. -/
theorem decrypt_sealed (crypto : Crypto) {annotations : Option Annotations} (plaintext : Bytes)
    (digest : String) (key : SymmetricKey) (nonce : Nonce) (random : Except String Nonce)
    (published : publicOptions serde annotations =
      .ok (openOptions (crypto.hmac key.val (ciphertextOf crypto key nonce plaintext)))) :
    ∃ reader, asyncDecryptLayer serde ⟨ciphertextOf crypto key nonce plaintext⟩ annotations
        (serde.privToVec (sealedOptions key nonce digest)) random = .ok (reader, digest) ∧
      ∀ schedule : Schedule (ciphertextOf crypto key nonce plaintext).length,
        let run := reader.drain crypto schedule.calls
        run.output = plaintext ∧ run.ending = some (.ok ()) := by
  have accepted := @asyncDecryptLayer_accepts serde crypto annotations _ (sealedOptions key nonce digest) _
    (ciphertextOf crypto key nonce plaintext) random published rfl (crypto.tagged _ _) key.property rfl
    nonce.property
  refine ⟨_, accepted, ?_⟩
  intro schedule
  rw [drain_stage]
  constructor
  · exact Keystream.apply_apply _ 0 plaintext
  · exact congrArg some (if_pos (.inr rfl))

end GuestComponents.Ocicrypt
