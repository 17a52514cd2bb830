import GuestComponents.Ocicrypt.Recipients

/-! What an attacker can do to a layer whose private options it cannot change. The
HMAC is taken as ideal: no two messages have the same tag, and the only tag known
under the layer's key is that of its ciphertext. Then the ciphertext cannot be
changed, and the only public option that matters is the nonce, which goes before the
sealed one: `layer_authentic` says what is read under whatever options, and that it
is the plaintext unless they name another nonce. -/
namespace GuestComponents.Ocicrypt
open Lib Lib.Text

/-- HMAC as an ideal tag under this key, where only this message was ever tagged and
an attacker shows this tag. -/
structure IdealTag (crypto : Crypto) (key tagged shown : Bytes) : Prop where
  injective : Function.Injective (crypto.hmac key)
  unforgeable : ∀ message, crypto.hmac key message = shown → shown = crypto.hmac key tagged

/-- Calls with room in their buffers that read to a clean end. -/
structure ReadToEnd (crypto : Crypto) (reader : AESCTRBlockCipher) (calls : List Call) : Prop where
  room : ∀ call ∈ calls, call.room ≠ 0
  ended : (reader.drain crypto calls).ending = some (.ok ())

/-- A decryption that was set up with these unwrapped options, by either function. -/
inductive Decrypting (serde : Serde) (wrappers : List KeyWrapper) (annotations : Option Annotations)
    (options ciphertext : Bytes) (reader : AESCTRBlockCipher) (digest : String) : Prop where
  | sync (dc : DecryptConfig) (random : Except String Nonce)
    (unwrapped : decryptLayerKeyOptsData wrappers dc annotations = .ok options)
    (decrypted : decryptLayer serde wrappers dc ⟨ciphertext⟩ annotations false random =
      .ok (some reader, digest))
  | async (random : Except String Nonce)
    (decrypted : asyncDecryptLayer serde ⟨ciphertext⟩ annotations options random = .ok (reader, digest))

section Attack

variable {crypto : Crypto} {serde : Serde} {wrappers : List KeyWrapper}

theorem Decrypting.accepted {annotations : Option Annotations} {options ciphertext : Bytes}
    {reader : AESCTRBlockCipher} {digest : String}
    (decrypting : Decrypting serde wrappers annotations options ciphertext reader digest) :
    ∃ random, asyncDecryptLayer serde ⟨ciphertext⟩ annotations options random = .ok (reader, digest) := by
  cases decrypting with
  | sync dc random unwrapped decrypted =>
    obtain ⟨data, same, accepted⟩ := decryptLayer_some.mp decrypted
    rw [unwrapped] at same
    cases same
    exact ⟨random, accepted⟩
  | async random decrypted => exact ⟨random, decrypted⟩

/-- Under an ideal tag a verified ciphertext is the one that was tagged. -/
theorem IdealTag.same {key tagged shown message : Bytes} (ideal : IdealTag crypto key tagged shown)
    (verified : crypto.hmac key message = shown) : message = tagged :=
  ideal.injective (verified.trans (ideal.unforgeable message verified))

theorem effectiveNonce_sealed (pub : PublicLayerBlockCipherOptions) (key : SymmetricKey) (nonce : Nonce)
    (digest : String) : effectiveNonce pub (sealedOptions key nonce digest) =
      some ((pub.cipherOptions.lookup "nonce").getD nonce.val) := by
  unfold effectiveNonce LayerBlockCipherOptions.getOpt
  cases pub.cipherOptions.lookup "nonce" <;> rfl

end Attack

/-- Whatever an attacker makes of the annotations and the ciphertext, what is decrypted
with the sealed options and verifies is the layer's ciphertext under the sealed key and
the nonce that the options name, the public ones first; without a public nonce, or with
the sealed one, it is the plaintext. -/
theorem layer_authentic (crypto : Crypto) (serde : Serde) (wrappers : List KeyWrapper)
    {ec : EncryptConfig} {plaintext : Bytes} {annotations : Option Annotations} {digest : String}
    {random : Randomness} {encrypting : AESCTRBlockCipher} {lbco finalized : LayerBlockCipherOptions}
    {writes : List Call}
    (encrypted : encryptLayer serde wrappers ec ⟨plaintext⟩ annotations digest random =
      .ok (some encrypting, lbco))
    (written : ReadToEnd crypto encrypting writes)
    (finalised : (encrypting.drain crypto writes).cipher.finalizedLbco lbco = .ok finalized)
    {forged : Option Annotations} {ciphertext : Bytes} {reader : AESCTRBlockCipher} {digest' : String}
    (decrypting : Decrypting serde wrappers forged (serde.privToVec finalized.priv) ciphertext reader
      digest')
    (ideal : ∀ pub, publicOptions serde forged = .ok pub →
      IdealTag crypto finalized.priv.symmetricKey (encrypting.drain crypto writes).output pub.hmac)
    {reads : List Call} (read : ReadToEnd crypto reader reads) :
    ∃ pub nonce, publicOptions serde forged = .ok pub ∧
      effectiveNonce pub finalized.priv = some nonce ∧
      (reader.drain crypto reads).output =
        Keystream.apply (crypto.keystream finalized.priv.symmetricKey nonce) 0
          (encrypting.drain crypto writes).output ∧
      (pub.cipherOptions.lookup "nonce" = none ∨
          pub.cipherOptions.lookup "nonce" = finalized.priv.cipherOptions.lookup "nonce" →
        (reader.drain crypto reads).output = plaintext) := by
  obtain ⟨key, sealedNonce, _, _, rfl, rfl⟩ := encryptLayer_some crypto encrypted
  obtain ⟨_, drained⟩ := drain_ended crypto _ [] plaintext written.room written.ended
  rw [drained] at finalised ideal ⊢
  rw [List.nil_append, encrypt_finalizedLbco] at finalised
  cases finalised
  obtain ⟨random', accepted⟩ := decrypting.accepted
  obtain ⟨pub, priv, nonce, published, unsealed, named, rfl⟩ := asyncDecryptLayer_ok crypto accepted
  rw [serde.privRead] at unsealed
  cases unsealed
  obtain ⟨verified, drained'⟩ := drain_ended crypto _ [] ciphertext read.room read.ended
  have tag : crypto.hmac key.val ciphertext = pub.hmac := by
    rcases verified with no | tag
    · cases no
    · exact tag
  have same := (ideal pub published).same tag
  subst same
  have works : effectiveNonce pub (sealedOptions key sealedNonce digest) = some nonce := by
    rw [effectiveNonce_sealed] at named ⊢
    rcases named with known | unknown
    · exact known
    · cases unknown
  refine ⟨pub, nonce, published, works, ?_, ?_⟩
  · rw [drained']
    rfl
  · intro unforged
    have sealed_ : nonce = sealedNonce.val := by
      rw [effectiveNonce_sealed] at works
      rcases unforged with none_ | same
      · rw [none_] at works
        exact (Option.some.inj works).symm
      · rw [same] at works
        exact (Option.some.inj works).symm
    rw [drained', sealed_]
    exact Keystream.apply_apply _ 0 plaintext

section Examples

/-- AES in counter mode with a tag that is HMAC-SHA256 on this message and longer on the
others, so that no two messages share one. -/
def idealCrypto (message : Bytes) : Crypto where
  keystream := Aes.keystream
  hmac key m := if m = message then Sha2.sha256.hmac key m else List.replicate 33 0 ++ m
  tagged key m := by
    split
    · exact rustCrypto.tagged key m
    · simp

theorem idealCrypto_injective (message key : Bytes) :
    Function.Injective ((idealCrypto message).hmac key) := by
  have short : (Sha2.sha256.hmac key message).length = 32 := Sha2.Params.hmac_length _ _ _
  intro m m' same
  simp only [idealCrypto] at same
  by_cases known : m = message <;> by_cases known' : m' = message
  · rw [known, known']
  · subst known
    rw [if_pos rfl, if_neg known'] at same
    rw [same] at short
    simp at short
  · subst known'
    rw [if_neg known, if_pos rfl] at same
    rw [← same] at short
    simp at short
  · rw [if_neg known, if_neg known'] at same
    exact List.append_cancel_left same

def exampleCiphertext : Bytes := ciphertextOf rustCrypto exampleKey exampleNonce examplePlaintext

def exampleCrypto : Crypto := idealCrypto exampleCiphertext

def forgedNonce : Bytes := List.replicate 16 8

/-- The public options of the example's layer, with a nonce that an attacker chose. -/
def forgedPub : PublicLayerBlockCipherOptions :=
  { examplePub with cipherOptions := [("nonce", forgedNonce)] }

/-- The annotations of the example's layer with these public options. -/
def annotationsWith (serde : Serde) (pub : PublicLayerBlockCipherOptions) : Annotations :=
  (SortedMap.empty.insert grpcProviderId (Base64.encode (utf8 ('#' :: exampleJson)))).insert pubOptsKey
    (Base64.encode (serde.pubToVec pub))

theorem idealCrypto_tag (message key : Bytes) :
    (idealCrypto message).hmac key message = rustCrypto.hmac key message :=
  if_pos rfl

variable {serde : Serde}
  (text : wrappedOptions serde exampleDigest exampleKey exampleNonce = utf8 exampleJson)

include text in
theorem finalized_annotationsWith (pub : PublicLayerBlockCipherOptions) :
    Finalized enclosingBackends providerRegistry.wrappers providerConfig
      (wrappedOptions serde exampleDigest exampleKey exampleNonce) (serde.pubToVec pub)
      (annotationsWith serde pub) where
  own w member := by
    refine ⟨_, wraps_enclosed text member, ?_⟩
    cases List.mem_singleton.mp member
    rw [annotationsWith, SortedMap.get?_insert_of_ne _ _ (pubOptsKey_ne_id _).symm]
    exact SortedMap.get?_insert_self _ _ _
  published := SortedMap.get?_insert_self _ _ _
  others id different elsewhere := by
    rw [annotationsWith, SortedMap.get?_insert_of_ne _ _ different]
    exact SortedMap.get?_insert_of_ne _ _ (elsewhere (.provider grpcProvider) (by simp [providerRegistry])).symm

theorem publicOptions_annotationsWith (pub : PublicLayerBlockCipherOptions) :
    publicOptions serde (some (annotationsWith serde pub)) = .ok pub := by
  simp [publicOptions, getLayerPubOpts, annotationsWith, SortedMap.get?_insert_self,
    Base64.decode_encode, serde.pubRead]

include text in
theorem unwraps_annotationsWith (pub : PublicLayerBlockCipherOptions) :
    decryptLayerKeyOptsData (providerRegistry.wrappers.map (·.keyWrapper enclosingBackends))
        providerRecipient.dc (some (annotationsWith serde pub)) =
      .ok (wrappedOptions serde exampleDigest exampleKey exampleNonce) :=
  unwraps_finalized (finalized_annotationsWith text pub) provider_opens (enclosing_faithful text)
    (List.mem_singleton.mpr rfl) (List.Perm.refl _)

include text in
/-- With public options of the layer's cipher, a tag and a nonce, the annotations decrypt. -/
theorem decrypting_annotationsWith {pub : PublicLayerBlockCipherOptions} {nonce : Bytes}
    (cipher : pub.cipherType = aes256Ctr) (tag : pub.hmac ≠ [])
    (named : effectiveNonce pub (sealedOptions exampleKey exampleNonce exampleDigest) = some nonce)
    (size : nonce.length = aes256NonceSize) :
    Decrypting serde (providerRegistry.wrappers.map (·.keyWrapper enclosingBackends))
      (some (annotationsWith serde pub))
      (serde.privToVec (sealedOptions exampleKey exampleNonce exampleDigest)) exampleCiphertext
      ((decryptJob pub (sealedOptions exampleKey exampleNonce exampleDigest) nonce).stage exampleCrypto
        false [] exampleCiphertext) exampleDigest := by
  have unwrapped := unwraps_annotationsWith text pub
  have accepted := @asyncDecryptLayer_accepts serde exampleCrypto (some (annotationsWith serde pub)) pub
    (sealedOptions exampleKey exampleNonce exampleDigest) nonce exampleCiphertext (.ok exampleNonce)
    (publicOptions_annotationsWith pub) cipher tag exampleKey.property named size
  have decrypted := decryptLayer_some.mpr ⟨_, unwrapped, accepted⟩
  exact .sync providerRecipient.dc (.ok exampleNonce) unwrapped decrypted

/-- The example's encrypting reader, at its start. -/
def exampleReader : AESCTRBlockCipher :=
  (encryptJob exampleKey exampleNonce).stage exampleCrypto false [] examplePlaintext

/-- The reader of a forged layer, at its start. -/
def readerUnder (pub : PublicLayerBlockCipherOptions) (nonce : Bytes) : AESCTRBlockCipher :=
  (decryptJob pub (sealedOptions exampleKey exampleNonce exampleDigest) nonce).stage exampleCrypto false []
    exampleCiphertext

def exampleWrites : List Call := (Schedule.bytewise examplePlaintext.length).calls

def exampleReads : List Call := (Schedule.bytewise exampleCiphertext.length).calls

theorem ciphertext_example :
    ciphertextOf exampleCrypto exampleKey exampleNonce examplePlaintext = exampleCiphertext := by
  unfold exampleCiphertext ciphertextOf exampleCrypto idealCrypto rustCrypto
  rfl

theorem exampleTag : exampleCrypto.hmac exampleKey.val exampleCiphertext = examplePub.hmac := by
  have tag : examplePub.hmac = rustCrypto.hmac exampleKey.val exampleCiphertext := by
    unfold examplePub openOptions exampleCiphertext
    rfl
  rw [tag]
  unfold exampleCrypto
  exact idealCrypto_tag exampleCiphertext exampleKey.val

theorem readToEnd_bytewise {crypto : Crypto} {job : Job} {input : Bytes} (verified : job.Verifies crypto input) :
    ReadToEnd crypto (job.stage crypto false [] input) (Schedule.bytewise input.length).calls where
  room := (Schedule.bytewise input.length).room
  ended := by
    rw [drain_stage, List.nil_append]
    exact congrArg some (if_pos verified)

theorem exampleReader_drain : exampleReader.drain exampleCrypto exampleWrites =
    ⟨exampleCiphertext, some (.ok ()),
      (encryptJob exampleKey exampleNonce).stage exampleCrypto true examplePlaintext []⟩ := by
  rw [← ciphertext_example]
  exact encrypt_drain exampleCrypto exampleKey exampleNonce _

theorem exampleReader_finalizedLbco :
    (exampleReader.drain exampleCrypto exampleWrites).cipher.finalizedLbco
        ⟨openOptions [], sealedOptions exampleKey exampleNonce exampleDigest⟩ =
      .ok ⟨examplePub, sealedOptions exampleKey exampleNonce exampleDigest⟩ := by
  rw [exampleReader_drain, encrypt_finalizedLbco, ciphertext_example, exampleTag]
  rfl

theorem ideal_example {pub : PublicLayerBlockCipherOptions} (tag : pub.hmac = examplePub.hmac) :
    IdealTag exampleCrypto exampleKey.val (exampleReader.drain exampleCrypto exampleWrites).output pub.hmac where
  injective := idealCrypto_injective exampleCiphertext exampleKey.val
  unforgeable message _ := by
    rw [tag, exampleReader_drain, exampleTag]

theorem reads_example {pub : PublicLayerBlockCipherOptions} {nonce : Bytes} (tag : pub.hmac = examplePub.hmac) :
    ReadToEnd exampleCrypto (readerUnder pub nonce) exampleReads := by
  refine readToEnd_bytewise (.inr ?_)
  show exampleCrypto.hmac exampleKey.val exampleCiphertext = pub.hmac
  rw [tag, exampleTag]

/-- `layer_authentic` where nothing was forged. -/
theorem layer_authentic_untouched :
    ((readerUnder examplePub exampleNonce.val).drain exampleCrypto exampleReads).output = examplePlaintext := by
  have decrypting := @decrypting_annotationsWith exampleSerde wrappedOptions_example examplePub
    exampleNonce.val rfl (rustCrypto.tagged _ _) (effectiveNonce_sealed _ _ _ _) exampleNonce.property
  have published := @publicOptions_annotationsWith exampleSerde examplePub
  obtain ⟨pub, nonce, same, _, _, plain⟩ := layer_authentic exampleCrypto exampleSerde
    (providerRegistry.wrappers.map (·.keyWrapper enclosingBackends))
    (@encryptLayer_accepts exampleSerde _ exampleCrypto providerConfig examplePlaintext none exampleDigest
      exampleKey exampleNonce fun w _ => rfl)
    (readToEnd_bytewise (.inl rfl)) exampleReader_finalizedLbco decrypting
    (by
      intro pub same
      rw [published] at same
      cases same
      exact ideal_example rfl)
    (reads_example rfl)
  rw [published] at same
  cases same
  exact plain (.inl rfl)

/-- A `Serde` for the forged public options. -/
def forgedSerde : Serde := serdeOf (sealedOptions exampleKey exampleNonce exampleDigest) forgedPub

theorem forgedReader_output : ((readerUnder forgedPub forgedNonce).drain exampleCrypto exampleReads).output =
    Keystream.apply (Aes.keystream exampleKey.val forgedNonce) 0 exampleCiphertext := by
  have drained := drain_stage exampleCrypto
    (decryptJob forgedPub (sealedOptions exampleKey exampleNonce exampleDigest) forgedNonce) []
    (Schedule.bytewise exampleCiphertext.length)
  exact congrArg Drained.output drained

/-- An attacker who only adds a nonce to the public options has the layer decrypted to
other bytes, and the end is clean. -/
theorem public_nonce_wins : ∃ encrypting lbco finalized reader,
    encryptLayer forgedSerde (providerRegistry.wrappers.map (·.keyWrapper enclosingBackends)) providerConfig
      ⟨examplePlaintext⟩ none exampleDigest ⟨.ok exampleKey, .ok exampleNonce⟩ =
        .ok (some encrypting, lbco) ∧
    ReadToEnd exampleCrypto encrypting exampleWrites ∧
    (encrypting.drain exampleCrypto exampleWrites).cipher.finalizedLbco lbco = .ok finalized ∧
    Decrypting forgedSerde (providerRegistry.wrappers.map (·.keyWrapper enclosingBackends))
      (some (annotationsWith forgedSerde forgedPub)) (forgedSerde.privToVec finalized.priv)
      (encrypting.drain exampleCrypto exampleWrites).output reader exampleDigest ∧
    IdealTag exampleCrypto finalized.priv.symmetricKey
      (encrypting.drain exampleCrypto exampleWrites).output forgedPub.hmac ∧
    ReadToEnd exampleCrypto reader exampleReads ∧
    (reader.drain exampleCrypto exampleReads).output ≠ examplePlaintext := by
  have text : wrappedOptions forgedSerde exampleDigest exampleKey exampleNonce = utf8 exampleJson :=
    serdeOf_priv _ _
  have decrypting := @decrypting_annotationsWith forgedSerde text forgedPub forgedNonce rfl
    (rustCrypto.tagged _ _) (effectiveNonce_sealed _ _ _ _) rfl
  have started := @encryptLayer_accepts forgedSerde (providerRegistry.wrappers.map
    (·.keyWrapper enclosingBackends)) exampleCrypto providerConfig examplePlaintext none exampleDigest
    exampleKey exampleNonce fun w _ => rfl
  refine ⟨exampleReader, _, _, readerUnder forgedPub forgedNonce, started, readToEnd_bytewise (.inl rfl),
    exampleReader_finalizedLbco, ?_, ideal_example rfl, reads_example rfl, ?_⟩
  · rw [exampleReader_drain]
    exact decrypting
  · rw [forgedReader_output]
    decide +kernel

end Examples

end GuestComponents.Ocicrypt
