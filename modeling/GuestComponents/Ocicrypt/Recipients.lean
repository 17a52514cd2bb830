import GuestComponents.Ocicrypt.Layers
import GuestComponents.Ocicrypt.OptionsJson
import GuestComponents.Ocicrypt.Unwrapping
import Mathlib.Data.List.Nodup

/-! From an encryption to its recipients. Finalising wraps the options with every
registered wrapper and fails where one of them cannot (`finalize_iff`); what is left
is an annotation for each of them, and a wrapper reads its own, or that of the first
key provider if it is one (`reads_finalized`). `every_recipient_decrypts` puts this
together with the search that unwraps. -/
namespace GuestComponents.Ocicrypt
open Lib Lib.Text

section Wrapping

variable (backends : Backends)

namespace Registered

/-- The annotation that the wrapper writes. -/
def id : Registered → Text
  | jwe => "org.opencontainers.image.enc.keys.jwe".toList
  | provider attrs => providerPrefix ++ attrs.provider

/-- The configuration has recipients of the wrapper, and its library or service wraps
the options for them. -/
def Wraps (w : Registered) (ec : EncryptConfig) (data envelope : Bytes) : Prop :=
  envelope ≠ [] ∧
  match w with
  | jwe => ∃ pubkeys keys text, ec.param.lookup "pubkeys".toList = some pubkeys ∧
      encrypters backends.jose pubkeys = .ok keys ∧
        backends.jose.serializeGeneralJson data keys = .ok text ∧ envelope = utf8 text
  | provider attrs => (ec.param.lookup attrs.provider).isSome ∧ ∃ text transport,
      fromUtf8 data = some text ∧ KeyProvider.wrapTransport attrs.attrs = .ok transport ∧
        backends.services.keywrap transport ec text = .ok (some envelope)

/-- Whose annotation the wrapper reads when all of these have written theirs: of the
key providers, that of the first. -/
def ReadsFrom (wrappers : List Registered) (w source : Registered) : Prop :=
  source ∈ wrappers ∧ w.owns source.id = true ∧
    ∀ other ∈ wrappers, w.owns other.id = true → source.id ≤ other.id

end Registered

open Registered

variable {backends}

theorem annotationId_keyWrapper (w : Registered) : (w.keyWrapper backends).annotationId = w.id := by
  cases w <;> rfl

theorem wrapKeys_ok {w : Registered} {ec : EncryptConfig} {data envelope : Bytes} :
    (w.keyWrapper backends).wrapKeys ec data = .ok envelope ∧ envelope ≠ [] ↔
      w.Wraps backends ec data envelope := by
  unfold Wraps
  rw [and_comm]
  refine and_congr_right fun _ => ?_
  cases w with
  | jwe =>
    simp only [keyWrapper, jweKeyWrapper]
    cases ec.param.lookup "pubkeys".toList with
    | none => simp
    | some pubkeys =>
      cases loaded : encrypters backends.jose pubkeys with
      | error error => simp [loaded]
      | ok keys =>
        cases serialized : backends.jose.serializeGeneralJson data keys with
        | error error => simp [loaded, serialized, Except.map]
        | ok text => simp [loaded, serialized, Except.map, eq_comm]
  | provider attrs =>
    simp only [keyWrapper, keyProviderKeyWrapper]
    cases ec.param.lookup attrs.provider with
    | none => simp
    | some values =>
      cases fromUtf8 data with
      | none => simp
      | some text =>
        cases KeyProvider.wrapTransport attrs.attrs with
        | error error => simp
        | ok transport => simp [replied_ok]

/-- Where there was no annotation before, what is wrapped is the annotation. -/
theorem preWrapKey_ok {w : Registered} {ec : EncryptConfig} {data : Bytes} {text : Text} :
    preWrapKey (w.keyWrapper backends) ec [] data = .ok text ↔
      ∃ envelope, w.Wraps backends ec data envelope ∧ text = Base64.encode envelope := by
  simp only [← wrapKeys_ok, preWrapKey]
  cases (w.keyWrapper backends).wrapKeys ec data with
  | error error => simp
  | ok envelope =>
    by_cases empty : envelope = []
    · simp [empty]
    · simp [empty, eq_comm]

/-- An entry that stands alone opens when it is opened. -/
theorem textOpens_encode {w : Registered} {dc : DecryptConfig} {envelope data : Bytes}
    (some_ : envelope ≠ []) :
    w.TextOpens backends dc data (Base64.encode envelope) ↔
      w.OpensFirst backends dc envelope data := by
  unfold TextOpens
  rw [split_of_absent (Base64.comma_not_mem_encode envelope), firstOf_cons]
  simp [Base64.encode_eq_nil, some_, EntryOpens, Base64.decode_encode]

/-- What the wrappers have added to an annotation map. -/
structure Written (backends : Backends) (wrappers : List Registered) (ec : EncryptConfig) (data : Bytes)
    (before after : Annotations) : Prop where
  own : ∀ w ∈ wrappers, ∃ envelope, w.Wraps backends ec data envelope ∧
    after.get? w.id = some (Base64.encode envelope)
  others : ∀ id, (∀ w ∈ wrappers, w.id ≠ id) → after.get? id = before.get? id

section Finalize

variable {wrappers : List Registered} {ec : EncryptConfig} {data : Bytes} {annotations : Annotations}

/-- The loop over the wrappers goes through when each of them wraps. -/
theorem wrapWith_ok (fresh : ∀ w ∈ wrappers, annotations.get? w.id = none)
    (distinct : (wrappers.map (·.id)).Nodup) (wraps : ∀ w ∈ wrappers, ∃ envelope,
      w.Wraps backends ec data envelope) (before : Annotations) (wrapped : Bool) :
    ∃ after, wrapWith ec annotations data (wrappers.map (·.keyWrapper backends)) before wrapped =
        .ok (after, wrapped || !wrappers.isEmpty) ∧
      Written backends wrappers ec data before after := by
  induction wrappers generalizing before wrapped with
  | nil => exact ⟨before, by simp [wrapWith], by simp, fun _ _ => rfl⟩
  | cons w wrappers ih =>
    obtain ⟨envelope, wrap⟩ := wraps w (by simp)
    rw [List.map_cons, List.nodup_cons] at distinct
    have text : preWrapKey (w.keyWrapper backends) ec [] data = .ok (Base64.encode envelope) :=
      preWrapKey_ok.mpr ⟨envelope, wrap, rfl⟩
    have some_ : Base64.encode envelope ≠ [] := Base64.encode_eq_nil.not.mpr wrap.1
    obtain ⟨after, ran, own, others⟩ := ih (fun u member => fresh u (by simp [member])) distinct.2
      (fun u member => wraps u (by simp [member])) (before.insert w.id (Base64.encode envelope)) true
    refine ⟨after, ?_, ?_, ?_⟩
    · simp only [List.map_cons, wrapWith, annotationId_keyWrapper, fresh w (by simp), Option.getD_none,
        text, ne_eq, some_, not_false_eq_true, if_true, ran]
      simp
    · intro u member
      rcases List.mem_cons.mp member with rfl | later
      · refine ⟨envelope, wrap, ?_⟩
        rw [others u.id fun v among same => distinct.1 (List.mem_map.mpr ⟨v, among, same⟩),
          SortedMap.get?_insert_self]
      · exact own u later
    · intro id elsewhere
      rw [others id fun u member => elsewhere u (by simp [member]),
        SortedMap.get?_insert_of_ne _ _ (elsewhere w (by simp)).symm]

/-- The loop fails when one of them does not. -/
theorem wraps_of_wrapWith {before after : Annotations} {wrapped result : Bool}
    (fresh : ∀ w ∈ wrappers, annotations.get? w.id = none)
    (ran : wrapWith ec annotations data (wrappers.map (·.keyWrapper backends)) before wrapped =
      .ok (after, result)) :
    ∀ w ∈ wrappers, ∃ envelope, w.Wraps backends ec data envelope := by
  induction wrappers generalizing before wrapped with
  | nil => simp
  | cons w wrappers ih =>
    simp only [List.map_cons, wrapWith, annotationId_keyWrapper, fresh w (by simp),
      Option.getD_none] at ran
    cases text : preWrapKey (w.keyWrapper backends) ec [] data with
    | error error =>
      rw [text] at ran
      cases ran
    | ok b64 =>
      obtain ⟨envelope, wrap, rfl⟩ := preWrapKey_ok.mp text
      have some_ : Base64.encode envelope ≠ [] := Base64.encode_eq_nil.not.mpr wrap.1
      simp only [text, ne_eq, some_, not_false_eq_true, if_true] at ran
      intro u member
      rcases List.mem_cons.mp member with rfl | later
      · exact ⟨envelope, wrap⟩
      · exact ih (fun v among => fresh v (by simp [among])) ran u later

end Finalize

theorem owns_id (w : Registered) : w.owns w.id = true := by
  cases w with
  | jwe => exact beq_self_eq_true _
  | provider attrs => exact List.isPrefixOf_iff_prefix.mpr (List.prefix_append _ _)

theorem jwe_id_ne_provider (attrs : KeyProvider) : jwe.id ≠ (provider attrs).id := by
  intro same
  have own : isProvider (provider attrs).id = true := owns_id (provider attrs)
  have other : isProvider jwe.id = false := by decide
  rw [← same, other] at own
  cases own

/-- The wrappers' annotations are different ones. -/
theorem Registry.nodup_id (registry : Registry) : (registry.wrappers.map (·.id)).Nodup := by
  let key : Registered → Option Text := fun w =>
    match w with
    | .jwe => none
    | .provider attrs => some attrs.provider
  have distinct : (registry.wrappers.map key).Nodup := registry.distinct
  refine List.Nodup.map_on ?_ (List.Nodup.of_map key distinct)
  intro v memberV w memberW same
  refine List.inj_on_of_nodup_map distinct memberV memberW ?_
  cases v with
  | jwe =>
    cases w with
    | jwe => rfl
    | provider attrs => exact absurd same (jwe_id_ne_provider attrs)
  | provider attrs =>
    cases w with
    | jwe => exact absurd same.symm (jwe_id_ne_provider attrs)
    | provider attrs' => exact congrArg some (List.append_cancel_left same)

theorem pubOptsKey_ne_id (w : Registered) : pubOptsKey ≠ w.id := by
  intro same
  cases w with
  | jwe => exact absurd same (by decide)
  | provider attrs =>
    have own : isProvider (provider attrs).id = true := owns_id (provider attrs)
    have other : isProvider pubOptsKey = false := by decide
    rw [← same, other] at own
    cases own

/-- A finalised annotation map: what every wrapper wrote, and the public options. -/
structure Finalized (backends : Backends) (wrappers : List Registered) (ec : EncryptConfig)
    (privOpts pubOpts : Bytes) (annotations : Annotations) : Prop where
  own : ∀ w ∈ wrappers, ∃ envelope, w.Wraps backends ec privOpts envelope ∧
    annotations.get? w.id = some (Base64.encode envelope)
  published : annotations.get? pubOptsKey = some (Base64.encode pubOpts)
  others : ∀ id, id ≠ pubOptsKey → (∀ w ∈ wrappers, w.id ≠ id) → annotations.get? id = none

section Finalize

variable {serde : Serde} {wrappers : List Registered} {ec : EncryptConfig}
  {annotations : Option Annotations} {cipher : AESCTRBlockCipher} {lbco final : LayerBlockCipherOptions}

/-- Finalising goes through when every wrapper wraps. -/
theorem finalize_ok (some_ : wrappers ≠ []) (distinct : (wrappers.map (·.id)).Nodup)
    (fresh : ∀ w ∈ wrappers, (annotations.getD .empty).get? w.id = none)
    (finalized : cipher.finalizedLbco lbco = .ok final)
    (wraps : ∀ w ∈ wrappers, ∃ envelope,
      w.Wraps backends ec (serde.privToVec final.priv) envelope) :
    ∃ written, finalizeAnnotations serde (wrappers.map (·.keyWrapper backends)) lbco ec annotations
        (some cipher) = .ok written ∧
      Finalized backends wrappers ec (serde.privToVec final.priv) (serde.pubToVec final.pub) written := by
  obtain ⟨after, ran, own, others⟩ := wrapWith_ok fresh distinct wraps .empty false
  obtain ⟨w, member⟩ := List.exists_mem_of_ne_nil wrappers some_
  have entries : after.entries ≠ [] := by
    intro none_
    obtain ⟨envelope, _, stored⟩ := own w member
    rw [SortedMap.get?_eq_some, none_] at stored
    cases stored
  have wrapped : (false || !wrappers.isEmpty) = true := by simpa using some_
  refine ⟨after.insert pubOptsKey (Base64.encode (serde.pubToVec final.pub)), ?_, ?_, ?_, ?_⟩
  · simp [finalizeAnnotations, finalized, Except.map, ran, entries, some_]
  · intro u among
    obtain ⟨envelope, wrap, stored⟩ := own u among
    refine ⟨envelope, wrap, ?_⟩
    rw [SortedMap.get?_insert_of_ne _ _ (pubOptsKey_ne_id u).symm, stored]
  · exact SortedMap.get?_insert_self _ _ _
  · intro id different elsewhere
    rw [SortedMap.get?_insert_of_ne _ _ different, others id elsewhere, SortedMap.get?_empty]

/-- Finalising does not go through when one of them does not. -/
theorem wraps_of_finalize {written : Annotations}
    (fresh : ∀ w ∈ wrappers, (annotations.getD .empty).get? w.id = none)
    (finalized : cipher.finalizedLbco lbco = .ok final)
    (ran : finalizeAnnotations serde (wrappers.map (·.keyWrapper backends)) lbco ec annotations
      (some cipher) = .ok written) :
    ∀ w ∈ wrappers, ∃ envelope, w.Wraps backends ec (serde.privToVec final.priv) envelope := by
  simp only [finalizeAnnotations, finalized, Except.map] at ran
  cases loop : wrapWith ec (annotations.getD .empty) (serde.privToVec final.priv)
      (wrappers.map (·.keyWrapper backends)) .empty false with
  | error error =>
    rw [loop] at ran
    cases ran
  | ok result => exact wraps_of_wrapWith fresh loop

end Finalize

section Reading

variable {wrappers : List Registered} {ec : EncryptConfig} {privOpts pubOpts : Bytes}
  {annotations : Annotations}

/-- What a wrapper reads of a finalised annotation map. -/
theorem reads_finalized (written : Finalized backends wrappers ec privOpts pubOpts annotations)
    {w source : Registered} (from_ : w.ReadsFrom wrappers source) :
    ∃ envelope, source.Wraps backends ec privOpts envelope ∧
      w.reads annotations = some (Base64.encode envelope) := by
  obtain ⟨member, own, least⟩ := from_
  obtain ⟨envelope, wrap, stored⟩ := written.own source member
  refine ⟨envelope, wrap, ?_⟩
  have first : annotations.entries.find? (fun entry => w.owns entry.1) =
      some (source.id, Base64.encode envelope) := by
    refine SortedMap.find?_eq_some stored own ?_
    intro other owned present
    by_cases registered : ∃ u ∈ wrappers, u.id = other
    · obtain ⟨u, among, rfl⟩ := registered
      exact least u among owned
    · have absent : annotations.get? other = none := by
        refine written.others other ?_ fun u among same => registered ⟨u, among, same⟩
        rintro rfl
        have unowned : w.owns pubOptsKey = false := by cases w <;> rfl
        rw [unowned] at owned
        cases owned
      rw [absent] at present
      cases present
  rw [reads, first]
  rfl

/-- A wrapper that has written its annotation finds one. -/
theorem exists_readsFrom {w : Registered} (member : w ∈ wrappers) :
    ∃ source, w.ReadsFrom wrappers source := by
  have among : w ∈ wrappers.filter fun other => w.owns other.id :=
    List.mem_filter.mpr ⟨member, owns_id w⟩
  obtain ⟨source, found, least⟩ := exists_least (·.id) (List.ne_nil_of_mem among)
  obtain ⟨listed, own⟩ := List.mem_filter.mp found
  refine ⟨source, listed, own, ?_⟩
  intro other registered owned
  exact least other (List.mem_filter.mpr ⟨registered, owned⟩)

end Reading

end Wrapping

/-- Someone who can decrypt: parameters for a registered wrapper. -/
structure Recipient (registry : Registry) where
  wrapper : Registered
  registered : wrapper ∈ registry.wrappers
  dc : DecryptConfig
  parameters : wrapper.HasParameters dc

section Recipients

variable (crypto : Crypto) (serde : Serde) (backends : Backends) {registry : Registry}
  (ec : EncryptConfig) (recipients : List (Recipient registry)) (annotations : Option Annotations)
  (plaintext : Bytes) (digest : String) (key : SymmetricKey) (nonce : Nonce)

/-- The options that are wrapped. -/
def wrappedOptions : Bytes := serde.privToVec (sealedOptions key nonce digest)

/-- The layer is encrypted, read to the end and finalised, and each recipient gets it
back, in whatever order the wrappers are tried and however the readers are read. -/
def RecipientsDecrypt : Prop :=
  ∃ reader lbco ciphertext written,
    encryptLayer serde (registry.wrappers.map (·.keyWrapper backends)) ec ⟨plaintext⟩ annotations digest
      ⟨.ok key, .ok nonce⟩ = .ok (some reader, lbco) ∧
    (∀ schedule : Schedule plaintext.length,
      let run := reader.drain crypto schedule.calls
      run.output = ciphertext ∧ run.ending = some (.ok ()) ∧
        finalizeAnnotations serde (registry.wrappers.map (·.keyWrapper backends)) lbco ec annotations
          (some run.cipher) = .ok written) ∧
    ∀ recipient ∈ recipients, ∀ order : List Registered, order.Perm registry.wrappers → ∀ random,
      ∃ reader,
      decryptLayer serde (order.map (·.keyWrapper backends)) recipient.dc ⟨ciphertext⟩ (some written)
        false random = .ok (some reader, digest) ∧
      ∀ schedule : Schedule ciphertext.length,
        let run := reader.drain crypto schedule.calls
        run.output = plaintext ∧ run.ending = some (.ok ())

/-- Every registered wrapper has recipients in the configuration and wraps for them. -/
def EveryWrapperWraps (registry : Registry) : Prop :=
  ∀ w ∈ registry.wrappers, ∃ envelope,
    w.Wraps backends ec (wrappedOptions serde digest key nonce) envelope

/-- For each recipient, every registered wrapper that has parameters opens the
annotation it reads. -/
def EveryReaderOpens : Prop :=
  ∀ recipient ∈ recipients, ∀ w ∈ registry.wrappers, w.HasParameters recipient.dc →
    ∀ source, w.ReadsFrom registry.wrappers source →
      ∀ envelope, source.Wraps backends ec (wrappedOptions serde digest key nonce) envelope →
        ∃ data, w.OpensFirst backends recipient.dc envelope data

/-- Key wrapping round-trips: what opens an annotation gives what was wrapped. -/
def KeyWrapFaithful : Prop :=
  ∀ recipient ∈ recipients, ∀ w ∈ registry.wrappers, ∀ source ∈ registry.wrappers, ∀ envelope data,
    source.Wraps backends ec (wrappedOptions serde digest key nonce) envelope →
      w.OpensFirst backends recipient.dc envelope data →
        data = wrappedOptions serde digest key nonce

variable {crypto serde backends ec recipients annotations plaintext digest key nonce}

theorem wrappedOptions_ne_nil : wrappedOptions serde digest key nonce ≠ [] := by
  intro empty
  obtain ⟨error, fails⟩ := serde.privEmpty
  have read := serde.privRead (sealedOptions key nonce digest)
  rw [show serde.privToVec (sealedOptions key nonce digest) = [] from empty, fails] at read
  cases read

/-- Whatever the order, a recipient's wrappers unwrap the options. -/
theorem unwraps_finalized {pubOpts : Bytes} {written : Annotations} {order : List Registered}
    (finalized : Finalized backends registry.wrappers ec (wrappedOptions serde digest key nonce) pubOpts
      written)
    (opens : EveryReaderOpens serde backends ec recipients digest key nonce)
    (faithful : KeyWrapFaithful serde backends ec recipients digest key nonce)
    {recipient : Recipient registry} (member : recipient ∈ recipients)
    (perm : order.Perm registry.wrappers) :
    decryptLayerKeyOptsData (order.map (·.keyWrapper backends)) recipient.dc (some written) =
      .ok (wrappedOptions serde digest key nonce) := by
  have reader : ∀ w ∈ registry.wrappers, w.HasParameters recipient.dc →
      w.Unwraps backends recipient.dc written (wrappedOptions serde digest key nonce) := by
    intro w registered parameters
    obtain ⟨source, from_⟩ := exists_readsFrom registered
    obtain ⟨envelope, wrap, read⟩ := reads_finalized finalized from_
    obtain ⟨data, opened⟩ := opens recipient member w registered parameters source from_ envelope wrap
    have same := faithful recipient member w registered source from_.1 envelope data wrap opened
    rw [same] at opened
    exact ⟨parameters, _, read, (textOpens_encode wrap.1).mpr opened⟩
  refine unwraps_iff.mpr ⟨wrappedOptions_ne_nil, FirstOf.of_forall ?_ ?_⟩
  · intro w among
    by_cases parameters : w.HasParameters recipient.dc
    · exact .inr (reader w (perm.mem_iff.mp among) parameters)
    · exact .inl (.inr (.inl parameters))
  · exact ⟨recipient.wrapper, perm.mem_iff.mpr recipient.registered,
      reader _ recipient.registered recipient.parameters⟩

/-- A wrapper that comes first has to open what it reads. -/
theorem opens_of_unwraps {pubOpts data : Bytes} {written : Annotations} {dc : DecryptConfig}
    {w source : Registered} {rest : List Registered}
    (finalized : Finalized backends registry.wrappers ec (wrappedOptions serde digest key nonce) pubOpts
      written)
    (parameters : w.HasParameters dc) (from_ : w.ReadsFrom registry.wrappers source)
    (unwrapped : decryptLayerKeyOptsData ((w :: rest).map (·.keyWrapper backends)) dc (some written) =
      .ok data) {envelope : Bytes}
    (wrap : source.Wraps backends ec (wrappedOptions serde digest key nonce) envelope) :
    ∃ data, w.OpensFirst backends dc envelope data := by
  obtain ⟨envelope', wrap', read⟩ := reads_finalized finalized from_
  have same : envelope' = envelope := by
    have left := (wrapKeys_ok.mpr wrap').1
    rw [(wrapKeys_ok.mpr wrap).1] at left
    cases left
    rfl
  subst same
  have opens : ∀ found, w.Unwraps backends dc written found → w.OpensFirst backends dc envelope' found := by
    rintro found ⟨_, text, read', opened⟩
    rw [read] at read'
    cases read'
    exact (textOpens_encode wrap.1).mp opened
  obtain ⟨_, first⟩ := unwraps_iff.mp unwrapped
  rcases firstOf_cons.mp first with here | ⟨unread | unparameterised | nothing, _⟩
  · exact ⟨data, opens data here⟩
  · rw [Option.getD_some, read] at unread
    cases unread
  · exact absurd parameters unparameterised
  · exact ⟨[], opens [] nothing⟩

/-- Encrypting for recipients and decrypting as each of them works exactly when every
registered wrapper wraps and every wrapper that a recipient has parameters for opens
what it reads. -/
theorem every_recipient_decrypts (crypto : Crypto) (some_ : recipients ≠ [])
    (fresh : ∀ w ∈ registry.wrappers, (annotations.getD .empty).get? w.id = none)
    (faithful : KeyWrapFaithful serde backends ec recipients digest key nonce) :
    RecipientsDecrypt crypto serde backends ec recipients annotations plaintext digest key nonce ↔
      EveryWrapperWraps serde backends ec digest key nonce registry ∧
        EveryReaderOpens serde backends ec recipients digest key nonce := by
  have fresh' : ∀ w ∈ registry.wrappers.map (·.keyWrapper backends),
      (annotations.getD .empty).get? w.annotationId = none := by
    intro w member
    obtain ⟨registered, among, rfl⟩ := List.mem_map.mp member
    rw [annotationId_keyWrapper]
    exact fresh registered among
  have started := @encryptLayer_accepts serde _ crypto ec plaintext annotations digest key nonce fresh'
  have finalized := encrypt_finalizedLbco crypto key nonce digest plaintext
  have nonempty : registry.wrappers ≠ [] := by
    obtain ⟨recipient, _⟩ := List.exists_mem_of_ne_nil recipients some_
    exact List.ne_nil_of_mem recipient.registered
  constructor
  · rintro ⟨reader, lbco, ciphertext, written, encrypted, read, decrypts⟩
    rw [started] at encrypted
    cases encrypted
    obtain ⟨_, _, ran⟩ := read (.bytewise plaintext.length)
    rw [encrypt_drain] at ran
    have wraps := wraps_of_finalize fresh finalized ran
    refine ⟨wraps, ?_⟩
    intro recipient member w registered parameters source from_ envelope wrap
    obtain ⟨written', ran', complete⟩ := finalize_ok nonempty registry.nodup_id fresh finalized wraps
    rw [ran] at ran'
    cases ran'
    -- any wrapper may be the first that is tried
    obtain ⟨before, after, whole⟩ := List.append_of_mem registered
    have first : (w :: (before ++ after)).Perm registry.wrappers := by
      rw [whole]
      exact List.perm_middle.symm
    obtain ⟨reader, decrypted, _⟩ := decrypts recipient member _ first (.ok nonce)
    obtain ⟨data, unwrapped, _⟩ := decryptLayer_some.mp decrypted
    exact opens_of_unwraps complete parameters from_ unwrapped wrap
  · rintro ⟨wraps, opens⟩
    obtain ⟨written, ran, complete⟩ := finalize_ok nonempty registry.nodup_id fresh finalized wraps
    refine ⟨_, _, ciphertextOf crypto key nonce plaintext, written, started, ?_, ?_⟩
    · intro schedule
      rw [encrypt_drain]
      exact ⟨rfl, rfl, ran⟩
    · intro recipient member order perm random
      have published : publicOptions serde (some written) = .ok (openOptions
          (crypto.hmac key.val (ciphertextOf crypto key nonce plaintext))) := by
        simp [publicOptions, getLayerPubOpts, complete.published, Base64.decode_encode, serde.pubRead]
      obtain ⟨reader, accepted, plain⟩ :=
        @decrypt_sealed serde crypto (some written) plaintext digest key nonce random published
      exact ⟨reader, decryptLayer_some.mpr ⟨_, unwraps_finalized complete opens faithful member perm,
        accepted⟩, plain⟩

end Recipients

section Examples

def exampleKey : SymmetricKey := ⟨List.replicate 32 7, rfl⟩

theorem sixteen_nines : (List.replicate 16 9 : Bytes).length = aes256NonceSize := rfl

def exampleNonce : Nonce := ⟨List.replicate 16 9, sixteen_nines⟩

def exampleDigest : String := "sha256:ab"

def examplePlaintext : Bytes := [1, 2, 3]

/-- The public options that the example's layer gets. -/
def examplePub : PublicLayerBlockCipherOptions :=
  openOptions (rustCrypto.hmac exampleKey.val (ciphertextOf rustCrypto exampleKey exampleNonce examplePlaintext))

def exampleSerde : Serde := serdeOf (sealedOptions exampleKey exampleNonce exampleDigest) examplePub

def exampleJson : Text := (sealedOptions exampleKey exampleNonce exampleDigest).json

theorem wrappedOptions_example :
    wrappedOptions exampleSerde exampleDigest exampleKey exampleNonce = utf8 exampleJson :=
  serdeOf_priv _ _

/-- A configuration with a recipient of the key provider. -/
def providerConfig : EncryptConfig := ⟨[(grpcProvider.provider, [])], none⟩

variable {serde : Serde} {registry : Registry} {ec : EncryptConfig} {recipients : List (Recipient registry)}
  {digest : String} {key : SymmetricKey} {nonce : Nonce} {dc : Option DecryptConfig}

/-- What encloses the options gives them back. -/
theorem enclosing_faithful {json : Text} (text : wrappedOptions serde digest key nonce = utf8 json) :
    KeyWrapFaithful serde enclosingBackends ec recipients digest key nonce := by
  intro recipient member w registered source among envelope data wrap opened
  cases source with
  | jwe =>
    obtain ⟨_, pubkeys, keys, json, _, _, serialized, _⟩ := wrap
    cases serialized
  | provider attrs =>
    obtain ⟨_, _, enclosed, transport, decoded, _, wrapped⟩ := wrap
    rw [text, fromUtf8_utf8] at decoded
    cases decoded
    cases wrapped
    cases w with
    | jwe =>
      obtain ⟨_, privkeys, _, _, first⟩ := opened
      obtain ⟨privkey, _, key, loaded, _⟩ := first.exists
      cases loaded
    | provider attrs' =>
      obtain ⟨text', transport', decoded, _, unwrapped⟩ := opened
      rw [fromUtf8_utf8] at decoded
      cases decoded
      cases unwrapped
      exact text.symm

theorem wraps_enclosed {data : Bytes} {json : Text} (text : data = utf8 json) {w : Registered}
    (member : w ∈ providerRegistry.wrappers) :
    w.Wraps enclosingBackends ⟨[(grpcProvider.provider, [])], dc⟩ data (utf8 ('#' :: json)) := by
  cases List.mem_singleton.mp member
  have decoded : fromUtf8 data = some json := by
    rw [text, fromUtf8_utf8]
  have some_ : utf8 ('#' :: json) ≠ [] := by
    intro empty
    cases empty
  exact ⟨some_, rfl, json, _, decoded, rfl, rfl⟩

def providerRecipient : Recipient providerRegistry :=
  ⟨.provider grpcProvider, by simp [providerRegistry], ⟨[]⟩, trivial⟩

theorem provider_opens :
    EveryReaderOpens serde enclosingBackends providerConfig [providerRecipient] digest key nonce := by
  intro recipient member w registered parameters source from_ envelope wrap
  cases List.mem_singleton.mp registered
  cases List.mem_singleton.mp from_.1
  obtain ⟨_, _, enclosed, transport, decoded, _, wrapped⟩ := wrap
  cases wrapped
  exact ⟨utf8 enclosed, '#' :: enclosed, _, fromUtf8_utf8 _, rfl, rfl⟩

/-- `every_recipient_decrypts` for the recipient of a key provider. -/
theorem every_recipient_decrypts_provider :
    RecipientsDecrypt rustCrypto exampleSerde enclosingBackends providerConfig [providerRecipient] none
      examplePlaintext exampleDigest exampleKey exampleNonce :=
  (every_recipient_decrypts rustCrypto (by simp) (fun w _ => rfl)
    (enclosing_faithful wrappedOptions_example)).mpr
      ⟨fun w member => ⟨_, wraps_enclosed wrappedOptions_example member⟩, provider_opens⟩

/-- The JWE wrapper is registered as well, as it is by default. -/
def jweRegistry : Registry := ⟨[.jwe, .provider grpcProvider], by decide⟩

def jweRegistryRecipient : Recipient jweRegistry :=
  ⟨.provider grpcProvider, by simp [jweRegistry], ⟨[]⟩, trivial⟩

/-- The same configuration has no recipient of the JWE wrapper, and finalising fails. -/
theorem unconfigured_wrapper_fails :
    KeyWrapFaithful exampleSerde enclosingBackends providerConfig [jweRegistryRecipient] exampleDigest
        exampleKey exampleNonce ∧
      ¬ RecipientsDecrypt rustCrypto exampleSerde enclosingBackends providerConfig [jweRegistryRecipient]
        none examplePlaintext exampleDigest exampleKey exampleNonce := by
  refine ⟨enclosing_faithful wrappedOptions_example, ?_⟩
  rintro ⟨reader, lbco, ciphertext, written, encrypted, read, _⟩
  rw [encryptLayer_accepts rustCrypto _ _ _ fun w _ => rfl] at encrypted
  cases encrypted
  obtain ⟨_, _, ran⟩ := read (.bytewise examplePlaintext.length)
  rw [encrypt_drain] at ran
  have wraps := wraps_of_finalize (fun w _ => rfl)
    (encrypt_finalizedLbco rustCrypto exampleKey exampleNonce exampleDigest examplePlaintext) ran
  obtain ⟨envelope, _, pubkeys, _, _, configured, _⟩ := wraps .jwe (by simp [jweRegistry])
  cases configured

end Examples

end GuestComponents.Ocicrypt
