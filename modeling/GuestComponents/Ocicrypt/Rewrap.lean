import GuestComponents.Ocicrypt.Authenticity

/-! Adding recipients to a layer that is encrypted. The layer's reader and its
options come from a fresh encryption only; on this path there is no reader, and the
annotations are finalised without options. What is published then is the empty text,
which no decryption can read (`rewrapped_unreadable`). -/
namespace GuestComponents.Ocicrypt
open Lib Lib.Text

section Rewrapping

variable (serde : Serde) (backends : Backends)

/-- A layer's annotations have one of a registered wrapper. -/
def EncryptedLayer (wrappers : List Registered) (annotations : Option Annotations) : Prop :=
  ∃ w ∈ wrappers, (annotations.getD .empty).contains w.id = true

/-- Encrypting an encrypted layer again, for more recipients, and finalising what that
gives leaves annotations with which every one of these can decrypt the ciphertext. -/
def RecipientsAdded (crypto : Crypto) (wrappers : List Registered) (ec : EncryptConfig)
    (annotations : Option Annotations) (ciphertext plaintext : Bytes) (digest : String) (random : Randomness)
    (recipients : List DecryptConfig) : Prop :=
  ∃ reader lbco written,
    encryptLayer serde (wrappers.map (·.keyWrapper backends)) ec ⟨ciphertext⟩ annotations digest random =
      .ok (reader, lbco) ∧
    finalizeAnnotations serde (wrappers.map (·.keyWrapper backends)) lbco ec annotations reader =
      .ok written ∧
    ∀ dc ∈ recipients, ∃ random' decrypting digest',
      decryptLayer serde (wrappers.map (·.keyWrapper backends)) dc ⟨ciphertext⟩ (some written) false random' =
        .ok (some decrypting, digest') ∧
      ∀ schedule : Schedule ciphertext.length,
        (decrypting.drain crypto schedule.calls).output = plaintext

variable {serde backends}

/-- Once a layer counts as encrypted, it does. -/
theorem alreadyEncrypted_true {wrappers list : List KeyWrapper} {ec : EncryptConfig}
    {annotations : Option Annotations} {encrypted : Bool}
    (some_ : encrypted = true ∨ ∃ w ∈ list, (annotations.getD .empty).contains w.annotationId = true) :
    alreadyEncrypted serde wrappers ec annotations list encrypted ≠ .ok false := by
  induction list generalizing encrypted with
  | nil =>
    rcases some_ with rfl | ⟨w, member, _⟩
    · simp [alreadyEncrypted]
    · cases member
  | cons w list ih =>
    rw [alreadyEncrypted]
    by_cases present : (annotations.getD .empty).contains w.annotationId = true
    · rw [if_pos present]
      cases ec.decryptConfig with
      | none => simp
      | some decryptConfig =>
        cases unwrapped : decryptLayerKeyOptsData wrappers decryptConfig annotations with
        | error error => simp [unwrapped]
        | ok data =>
          cases published : getLayerPubOpts serde (annotations.getD .empty) with
          | error error => simp [unwrapped]
          | ok pubOpts =>
            simp only [unwrapped]
            exact ih (.inl rfl)
    · rw [if_neg present]
      refine ih (some_.imp_right ?_)
      rintro ⟨u, member, has⟩
      rcases List.mem_cons.mp member with rfl | later
      · exact absurd has present
      · exact ⟨u, later, has⟩

/-- A configuration that decrypts the layer takes it for what it is. -/
theorem alreadyEncrypted_ok {wrappers list : List KeyWrapper} {ec : EncryptConfig} {dc : DecryptConfig}
    {annotations : Option Annotations} {data pubOpts : Bytes} (encrypted : Bool)
    (configured : ec.decryptConfig = some dc)
    (unwrapped : decryptLayerKeyOptsData wrappers dc annotations = .ok data)
    (published : getLayerPubOpts serde (annotations.getD .empty) = .ok pubOpts) :
    alreadyEncrypted serde wrappers ec annotations list encrypted =
      .ok (encrypted || list.any fun w => (annotations.getD .empty).contains w.annotationId) := by
  induction list generalizing encrypted with
  | nil => simp [alreadyEncrypted]
  | cons w list ih =>
    rw [alreadyEncrypted, List.any_cons]
    by_cases present : (annotations.getD .empty).contains w.annotationId = true
    · simp [present, configured, unwrapped, published, ih]
    · simp [present, ih]

/-- An encrypted layer gets no reader. -/
theorem encryptLayer_encrypted {wrappers : List Registered} {ec : EncryptConfig}
    {annotations : Option Annotations} {source : Source} {digest : String} {random : Randomness}
    {reader : Option AESCTRBlockCipher} {lbco : LayerBlockCipherOptions}
    (encrypted : EncryptedLayer wrappers annotations)
    (ran : encryptLayer serde (wrappers.map (·.keyWrapper backends)) ec source annotations digest random =
      .ok (reader, lbco)) : reader = none := by
  obtain ⟨w, member, has⟩ := encrypted
  have counted := @alreadyEncrypted_true serde (wrappers.map (·.keyWrapper backends))
    (wrappers.map (·.keyWrapper backends)) ec annotations false
    (.inr ⟨w.keyWrapper backends, List.mem_map_of_mem member, by rwa [annotationId_keyWrapper]⟩)
  unfold encryptLayer at ran
  split at ran
  · cases ran
  · cases ran
    rfl
  · rename_i fresh
    exact absurd fresh counted

/-- Without a reader the published options are no options. -/
theorem finalize_none {wrappers : List KeyWrapper} {lbco : LayerBlockCipherOptions} {ec : EncryptConfig}
    {annotations : Option Annotations} {written : Annotations}
    (ran : finalizeAnnotations serde wrappers lbco ec annotations none = .ok written) :
    written.get? pubOptsKey = some (Base64.encode []) := by
  simp only [finalizeAnnotations] at ran
  split at ran
  · cases ran
  · split at ran
    · cases ran
    · split at ran
      · cases ran
      · cases ran
        exact SortedMap.get?_insert_self _ _ _

/-- Options that are the empty text cannot be read. -/
theorem publicOptions_empty {annotations : Annotations}
    (empty : annotations.get? pubOptsKey = some (Base64.encode [])) (pub : PublicLayerBlockCipherOptions) :
    publicOptions serde (some annotations) ≠ .ok pub := by
  obtain ⟨error, fails⟩ := serde.pubEmpty
  simp [publicOptions, getLayerPubOpts, empty, Base64.decode_encode, fails]

/-- Unless it only unwraps, decrypting a layer makes a reader. -/
theorem decryptLayer_reads {wrappers : List KeyWrapper} {dc : DecryptConfig} {source : Source}
    {annotations : Option Annotations} {random : Except String Nonce} {made : Option AESCTRBlockCipher}
    {digest : String} (ran : decryptLayer serde wrappers dc source annotations false random = .ok (made, digest)) :
    ∃ reader, made = some reader := by
  unfold decryptLayer at ran
  simp only [Bool.false_eq_true, if_false] at ran
  repeat' split at ran
  all_goals cases ran
  exact ⟨_, rfl⟩

/-- What was finalised without a reader decrypts for nobody. -/
theorem rewrapped_unreadable {wrappers : List KeyWrapper} {dc : DecryptConfig} {ciphertext : Bytes}
    {written : Annotations} (empty : written.get? pubOptsKey = some (Base64.encode []))
    {random : Except String Nonce} :
    ∃ error, decryptLayer serde wrappers dc ⟨ciphertext⟩ (some written) false random = .error error := by
  cases decrypted : decryptLayer serde wrappers dc ⟨ciphertext⟩ (some written) false random with
  | error error => exact ⟨error, rfl⟩
  | ok given =>
    obtain ⟨made, digest⟩ := given
    obtain ⟨reader, rfl⟩ := decryptLayer_reads decrypted
    obtain ⟨data, _, accepted⟩ := decryptLayer_some.mp decrypted
    obtain ⟨pub, _, _, published, _⟩ := asyncDecryptLayer_ok rustCrypto accepted
    exact absurd published (publicOptions_empty empty pub)

end Rewrapping

/-- Recipients cannot be added to an encrypted layer: whatever the registry, the
configuration and the layer, what encrypting it again and finalising leave behind fails to
decrypt for everybody, so that no recipient gets the plaintext. -/
theorem recipients_never_added (serde : Serde) (backends : Backends) (crypto : Crypto) (registry : Registry)
    (ec : EncryptConfig) {annotations : Option Annotations} (ciphertext plaintext : Bytes)
    (digest : String) (random : Randomness) {recipients : List DecryptConfig}
    (encrypted : EncryptedLayer registry.wrappers annotations) (some_ : recipients ≠ []) :
    (∀ reader lbco written,
      encryptLayer serde (registry.wrappers.map (·.keyWrapper backends)) ec ⟨ciphertext⟩ annotations digest
        random = .ok (reader, lbco) →
      finalizeAnnotations serde (registry.wrappers.map (·.keyWrapper backends)) lbco ec annotations reader =
        .ok written →
      ∀ dc random', ∃ error, decryptLayer serde (registry.wrappers.map (·.keyWrapper backends)) dc ⟨ciphertext⟩
        (some written) false random' = .error error) ∧
    ¬ RecipientsAdded serde backends crypto registry.wrappers ec annotations ciphertext plaintext digest random
      recipients := by
  have unreadable : ∀ reader lbco written,
      encryptLayer serde (registry.wrappers.map (·.keyWrapper backends)) ec ⟨ciphertext⟩ annotations digest
        random = .ok (reader, lbco) →
      finalizeAnnotations serde (registry.wrappers.map (·.keyWrapper backends)) lbco ec annotations reader =
        .ok written →
      ∀ dc random', ∃ error, decryptLayer serde (registry.wrappers.map (·.keyWrapper backends)) dc ⟨ciphertext⟩
        (some written) false random' = .error error := by
    intro reader lbco written started finalised dc random'
    have unread := encryptLayer_encrypted encrypted started
    subst unread
    exact rewrapped_unreadable (finalize_none finalised)
  refine ⟨unreadable, ?_⟩
  rintro ⟨reader, lbco, written, started, finalised, decrypts⟩
  obtain ⟨dc, member⟩ := List.exists_mem_of_ne_nil recipients some_
  obtain ⟨random', decrypting, digest', decrypted, _⟩ := decrypts dc member
  obtain ⟨error, fails⟩ := unreadable reader lbco written started finalised dc random'
  cases decrypted.symm.trans fails

section Examples

/-- A configuration that can decrypt the example's layer and has a recipient. -/
def rewrapConfig : EncryptConfig := ⟨[(grpcProvider.provider, [])], some providerRecipient.dc⟩

def exampleWrappers : List KeyWrapper := providerRegistry.wrappers.map (·.keyWrapper enclosingBackends)

/-- The annotations of the example's layer. -/
def exampleAnnotations : Annotations := annotationsWith exampleSerde examplePub

theorem example_stored : exampleAnnotations.get? grpcProviderId =
    some (Base64.encode (utf8 ('#' :: exampleJson))) := by
  have different : grpcProviderId ≠ pubOptsKey := (pubOptsKey_ne_id (.provider grpcProvider)).symm
  rw [exampleAnnotations, annotationsWith, SortedMap.get?_insert_of_ne _ _ different]
  exact SortedMap.get?_insert_self _ _ _

theorem example_encrypted : EncryptedLayer providerRegistry.wrappers (some exampleAnnotations) := by
  refine ⟨.provider grpcProvider, by simp [providerRegistry], ?_⟩
  show (exampleAnnotations.get? grpcProviderId).isSome = true
  rw [example_stored]
  rfl

/-- `recipients_never_added` for the example's layer and the recipient it has. -/
theorem recipient_lost : ¬ RecipientsAdded exampleSerde enclosingBackends exampleCrypto
    providerRegistry.wrappers rewrapConfig (some exampleAnnotations) exampleCiphertext examplePlaintext
    exampleDigest ⟨.ok exampleKey, .ok exampleNonce⟩ [providerRecipient.dc] :=
  (recipients_never_added exampleSerde enclosingBackends exampleCrypto providerRegistry rewrapConfig
    exampleCiphertext examplePlaintext exampleDigest _ example_encrypted (by simp)).2

/-- The annotation of the provider after wrapping no options for its recipient. -/
def rewrappedText : Text :=
  Base64.encode (utf8 ('#' :: exampleJson)) ++ ',' :: Base64.encode (utf8 ['#'])

theorem example_rewrapped : wrapWith rewrapConfig exampleAnnotations [] exampleWrappers .empty false =
    .ok (SortedMap.empty.insert grpcProviderId rewrappedText, true) := by
  have some_ : Base64.encode (utf8 ('#' :: exampleJson)) ≠ [] := by
    rw [ne_eq, Base64.encode_eq_nil]
    intro empty
    cases empty
  have wrapped : preWrapKey ((Registered.provider grpcProvider).keyWrapper enclosingBackends) rewrapConfig
      (Base64.encode (utf8 ('#' :: exampleJson))) [] = .ok rewrappedText := by
    have sealed_ : ((Registered.provider grpcProvider).keyWrapper enclosingBackends).wrapKeys rewrapConfig [] =
        .ok (utf8 ['#']) := rfl
    have mark : utf8 ['#'] ≠ [] := by decide
    simp only [preWrapKey, sealed_, mark, if_false, some_, rewrappedText]
  have filled : rewrappedText ≠ [] := by simp [rewrappedText]
  simp only [exampleWrappers, providerRegistry, List.map_cons, List.map_nil, wrapWith,
    annotationId_keyWrapper]
  have stored : exampleAnnotations.get? (Registered.provider grpcProvider).id =
      some (Base64.encode (utf8 ('#' :: exampleJson))) := example_stored
  rw [stored, Option.getD_some, wrapped]
  simp only [ne_eq, filled, not_false_eq_true, if_true]
  rfl

/-- The example's layer decrypts; wrapping its options again works and leaves annotations
with which nobody decrypts anything. -/
theorem rewrapping_loses_options :
    (∃ reader, decryptLayer exampleSerde exampleWrappers providerRecipient.dc ⟨exampleCiphertext⟩
      (some exampleAnnotations) false (.ok exampleNonce) = .ok (some reader, exampleDigest)) ∧
    encryptLayer exampleSerde exampleWrappers rewrapConfig ⟨exampleCiphertext⟩ (some exampleAnnotations)
      exampleDigest ⟨.ok exampleKey, .ok exampleNonce⟩ = .ok (none, .default) ∧
    ∃ written, finalizeAnnotations exampleSerde exampleWrappers .default rewrapConfig
        (some exampleAnnotations) none = .ok written ∧
      ∀ dc ciphertext random, ∃ error, decryptLayer exampleSerde exampleWrappers dc ⟨ciphertext⟩
        (some written) false random = .error error := by
  have unwrapped := unwraps_annotationsWith wrappedOptions_example examplePub
  have published := @publicOptions_annotationsWith exampleSerde examplePub
  refine ⟨?_, ?_, ?_⟩
  · have accepted := @asyncDecryptLayer_accepts exampleSerde rustCrypto (some exampleAnnotations) examplePub
      (sealedOptions exampleKey exampleNonce exampleDigest) exampleNonce.val exampleCiphertext
      (.ok exampleNonce) published rfl (rustCrypto.tagged _ _) exampleKey.property
      (effectiveNonce_sealed _ _ _ _) exampleNonce.property
    exact ⟨_, decryptLayer_some.mpr ⟨_, unwrapped, accepted⟩⟩
  · have listed : (exampleWrappers.any fun w => exampleAnnotations.contains w.annotationId) = true := by
      obtain ⟨w, member, has⟩ := example_encrypted
      refine List.any_eq_true.mpr ⟨w.keyWrapper enclosingBackends, List.mem_map_of_mem member, ?_⟩
      rwa [annotationId_keyWrapper]
    have found : getLayerPubOpts exampleSerde exampleAnnotations = .ok (exampleSerde.pubToVec examplePub) := by
      simp [getLayerPubOpts, exampleAnnotations, annotationsWith, SortedMap.get?_insert_self,
        Base64.decode_encode]
    have counted := @alreadyEncrypted_ok exampleSerde exampleWrappers exampleWrappers rewrapConfig
      providerRecipient.dc (some exampleAnnotations) _ _ false rfl unwrapped found
    rw [Option.getD_some, listed] at counted
    rw [encryptLayer, counted]
    rfl
  · have ran : finalizeAnnotations exampleSerde exampleWrappers .default rewrapConfig
        (some exampleAnnotations) none =
          .ok ((SortedMap.empty.insert grpcProviderId rewrappedText).insert pubOptsKey (Base64.encode [])) := by
      simp only [finalizeAnnotations, Option.getD_some, example_rewrapped]
      rfl
    refine ⟨_, ran, ?_⟩
    intro dc ciphertext random
    exact rewrapped_unreadable (finalize_none ran)

end Examples

end GuestComponents.Ocicrypt
