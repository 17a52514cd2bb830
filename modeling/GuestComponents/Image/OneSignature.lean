import GuestComponents.Image.Schemes

/-! How many signatures an image needs. A requirement should be met by one signature that
a configured key has made for the image, whatever else is attached to it. The loop of
simple signing looks for such a one, but it has to have listed and read all the signatures first;
cosign asks for one that verifies and then for every payload to be the image's, also
those of signatures that nobody has verified. -/
namespace GuestComponents.Image
open Lib Lib.Text

section Specification

variable (oci : OciClient) (schemes : Schemes)

/-- The payload is about this image, under an identity that the rule allows. -/
def ClaimsImage (rule : Option PolicyReqMatchType) (image : SignedImage) (payload : SigPayload) : Prop :=
  (∀ identity, rule = some identity →
    identity.matchesDockerReference oci image.reference payload.dockerReference = .ok ()) ∧
  payload.dockerManifestDigest = image.manifestDigest.text

/-- A signature names the key that it was made with by the end of its fingerprint. -/
def NamesKey (fingerprint issuer : List UInt8) : Prop :=
  fingerprint.length = 20 ∧ issuer.length = 8 ∧ issuer = fingerprint.drop 12

/-- A key of the ring verifies the signature file, and it names each key that does. -/
def Signs (ring sig : List UInt8) (payload : SigPayload) : Prop :=
  ∃ keyring message signature body text,
    schemes.sequoia.keyring ring = .ok keyring ∧ schemes.sequoia.message sig = .ok message ∧
    message.signature = some signature ∧
    (∃ key, some key ∈ keyring ∧ schemes.sequoia.verifySignature signature key = true) ∧
    (∀ key, some key ∈ keyring → schemes.sequoia.verifySignature signature key = true →
      NamesKey (schemes.sequoia.fingerprint key) (message.issuer.getD [])) ∧
    message.literal = some body ∧ fromUtf8 body = some text ∧ schemes.payloadFromStr text = .ok payload

/-- A simple signature that a configured key has made for the image. Without a rule an
identity matches by its repository or exactly. -/
def GoodSimple (parameters : SimpleParameters) (image : SignedImage) (sig : List UInt8) : Prop :=
  ∃ ring payload, schemes.pubkeyRing parameters = .ok ring ∧ Signs schemes ring sig payload ∧
    ClaimsImage oci (some (parameters.signedIdentity.getD .matchRepoDigestOrExact)) image payload

/-- A cosign signature that the configured key has made for the image. Only the rules that
compare repositories can be used. -/
def GoodCosign (parameter : CosignParameters) (image : SignedImage)
    (layer : schemes.sigstore.SignatureLayer) : Prop :=
  Schemes.checkReferenceRuleTypes parameter.signedIdentity = .ok () ∧
  (∃ key pubKeyVerifier, schemes.cosignKey parameter = .ok key ∧
    schemes.sigstore.newVerifier key = .ok pubKeyVerifier ∧ schemes.sigstore.verify pubKeyVerifier layer = true) ∧
  ClaimsImage oci parameter.signedIdentity image (schemes.sigstore.simpleSigning layer)

/-- The signatures that an image has in its store, as far as they can be read. -/
def Schemes.storeListed (config : SigstoreConfig) (image : SignedImage) (digest : Digest) :
    Except String (List (Option (List UInt8))) := do
  let uri ← schemes.sigstoreUri oci config image digest
  let files ← schemes.storeFiles uri
  pure (files.map fun file => file.read.toOption)

/-- The signatures attached to an image for simple signing, as far as they can be read:
those that the registry lists and those of the store. -/
def Schemes.listed (image : SignedImage) (auth : RegistryAuth) : Except String (List (Option (List UInt8))) :=
  match schemes.sigstoreConfig with
  | none => .error "Simple Signing Sigstore Config not set"
  | some config => do
    let digest ← imageDigest image
    match schemes.registryClient with
    | none => schemes.storeListed oci config image digest
    | some client =>
      let contents ← client.contents image digest auth
      let registered := contents.map fun content => (decodeSignature content).toOption
      if config.isDefault then
        if registered = [] then throw "Missing sigstore config file and no signatures in registry"
        else pure registered
      else
        let stored ← schemes.storeListed oci config image digest
        pure (registered ++ stored)

/-- The signatures attached to an image for simple signing are those that its registry and
its store list, where these answer. -/
def Schemes.Attached (image : SignedImage) (auth : RegistryAuth) (attached : List (Option (List UInt8))) : Prop :=
  ∀ list, schemes.listed oci image auth = .ok list → list = attached

/-- The same of the layers that cosign finds. -/
def Schemes.AttachedLayers (image : SignedImage) (auth : RegistryAuth)
    (attached : List schemes.sigstore.SignatureLayer) : Prop :=
  ∀ layers, schemes.sigstore.trustedSignatureLayers (oci.whole image.reference) auth = .ok layers →
    layers = attached

/-- One good signature among those attached is what simple signing asks for, and what it
accepts it also accepts when more are attached. -/
def SimpleSuffices (parameters : SimpleParameters) (image : SignedImage) (auth : RegistryAuth)
    (attached : List (Option (List UInt8))) : Prop :=
  (Accepts (schemes.verifier oci) image auth (.simpleSigning parameters) ↔
    ∃ sig, some sig ∈ attached ∧ GoodSimple oci schemes parameters image sig) ∧
  ∀ registryClient readDir fewer,
    let before := { schemes with registryClient := registryClient, readDir := readDir }
    before.listed oci image auth = .ok fewer → fewer ⊆ attached →
      Accepts (before.verifier oci) image auth (.simpleSigning parameters) →
        Accepts (schemes.verifier oci) image auth (.simpleSigning parameters)

/-- The same of cosign. -/
def CosignSuffices (parameter : CosignParameters) (image : SignedImage) (auth : RegistryAuth)
    (attached : List schemes.sigstore.SignatureLayer) : Prop :=
  (Accepts (schemes.verifier oci) image auth (.cosign parameter) ↔
    ∃ layer ∈ attached, GoodCosign oci schemes parameter image layer) ∧
  ∀ fetch fewer,
    let before :=
      { schemes with sigstore := { schemes.sigstore with trustedSignatureLayers := fetch } }
    fetch (oci.whole image.reference) auth = .ok fewer → fewer ⊆ attached →
      Accepts (before.verifier oci) image auth (.cosign parameter) →
        Accepts (schemes.verifier oci) image auth (.cosign parameter)

end Specification

section Judgement

variable {oci : OciClient} {schemes : Schemes}

theorem validateKeyIds_ok {fingerprint issuer : List UInt8} :
    validateKeyIds fingerprint issuer = .ok () ↔ NamesKey fingerprint issuer := by
  unfold validateKeyIds NamesKey
  split
  · simp [*]
  · split
    · simp [*]
    · split
      · simp_all
      · simp_all

theorem validateSignedDockerManifestDigest_ok {payload : SigPayload} {digest : Text} :
    payload.validateSignedDockerManifestDigest digest = .ok () ↔ payload.dockerManifestDigest = digest := by
  unfold SigPayload.validateSignedDockerManifestDigest
  split <;> simp_all

/-- The loop over the keyring passes and trusts a key when one of them verifies the
signature and it names each that does. -/
theorem verifyRing_ok {signature : schemes.sequoia.Signature} {issuer trusted : List UInt8}
    {keyring : List (Option schemes.sequoia.PublicKey)} :
    (∃ last, schemes.verifyRing signature issuer trusted keyring = .ok last ∧ last ≠ []) ↔
      (trusted ≠ [] ∨ ∃ key, some key ∈ keyring ∧ schemes.sequoia.verifySignature signature key = true) ∧
      ∀ key, some key ∈ keyring → schemes.sequoia.verifySignature signature key = true →
        NamesKey (schemes.sequoia.fingerprint key) issuer := by
  induction keyring generalizing trusted with
  | nil => simp [Schemes.verifyRing]
  | cons packet rest ih =>
    cases packet with
    | none => simpa [Schemes.verifyRing] using ih
    | some key =>
      rw [Schemes.verifyRing]
      split
      · rename_i verifies
        constructor
        · rintro ⟨last, ran, trusts⟩
          obtain ⟨⟨⟩, checked, ran⟩ := bind_ok.mp ran
          have names := validateKeyIds_ok.mp checked
          have others := (ih.mp ⟨last, ran, trusts⟩).2
          constructor
          · exact .inr ⟨key, by simp, verifies⟩
          · intro other listed verifies
            rcases List.mem_cons.mp listed with same | later
            · cases same
              exact names
            · exact others other later verifies
        · rintro ⟨_, names⟩
          have checked := names key (by simp) verifies
          have trusts : schemes.sequoia.fingerprint key ≠ [] := by
            intro empty
            have length := checked.1
            simp [empty] at length
          obtain ⟨last, ran, still⟩ :=
            ih.mpr ⟨.inl trusts, fun other later => names other (by simp [later])⟩
          exact ⟨last, bind_ok.mpr ⟨(), validateKeyIds_ok.mpr checked, ran⟩, still⟩
      · rename_i fails
        rw [ih]
        simp only [List.mem_cons, Option.some.injEq]
        constructor
        · rintro ⟨verified, names⟩
          constructor
          · exact verified.imp_right fun ⟨other, later, verifies⟩ => ⟨other, .inr later, verifies⟩
          · rintro other (rfl | later) verifies
            · exact absurd verifies fails
            · exact names other later verifies
        · rintro ⟨verified, names⟩
          constructor
          · rcases verified with trusts | ⟨other, rfl | later, verifies⟩
            · exact .inl trusts
            · exact absurd verifies fails
            · exact .inr ⟨other, later, verifies⟩
          · exact fun other later => names other (.inr later)

theorem bodyMessage_ok {message : SignatureMessage schemes.sequoia.Signature} {text : Text} :
    schemes.bodyMessage message = .ok text ↔
      ∃ body, message.literal = some body ∧ fromUtf8 body = some text := by
  unfold Schemes.bodyMessage
  split
  · simp [*]
  · split <;> simp [*]

/-- A signature file gives its payload when a key of the ring signs for it. -/
theorem verifySigAndExtractPayload_ok {ring sig : List UInt8} {payload : SigPayload} :
    schemes.verifySigAndExtractPayload ring sig = .ok payload ↔ Signs schemes ring sig payload := by
  unfold Schemes.verifySigAndExtractPayload
  simp only [bind_ok]
  constructor
  · rintro ⟨keyring, keys, message, read, last, ran, given⟩
    split at given
    · cases given
    · rename_i trusts
      obtain ⟨text, told, given⟩ := bind_ok.mp given
      obtain ⟨body, literal, decoded⟩ := bodyMessage_ok.mp told
      unfold Schemes.trustedKeyId at ran
      split at ran
      · cases ran
        exact absurd rfl trusts
      · rename_i signature signed
        obtain ⟨verified, names⟩ := verifyRing_ok.mp ⟨last, ran, trusts⟩
        have key := verified.resolve_left (by simp)
        exact ⟨keyring, message, signature, body, text, keys, read, signed, key, names, literal,
          decoded, given⟩
  · rintro ⟨keyring, message, signature, body, text, keys, read, signed, key, names, literal, decoded, given⟩
    obtain ⟨last, ran, trusts⟩ := verifyRing_ok.mpr ⟨.inr key, names⟩
    have trusted : schemes.trustedKeyId message keyring = .ok last := by
      simpa [Schemes.trustedKeyId, signed] using ran
    have told := bodyMessage_ok.mpr ⟨body, literal, decoded⟩
    refine ⟨keyring, keys, message, read, last, trusted, ?_⟩
    rw [if_neg trusts]
    exact bind_ok.mpr ⟨text, told, given⟩

/-- One signature passes when it is good under the ring. -/
theorem judgeSingleSignature_ok {image : SignedImage} {rule : Option PolicyReqMatchType} {ring sig : List UInt8} :
    schemes.judgeSingleSignature oci image rule ring sig = .ok () ↔
      ∃ payload, Signs schemes ring sig payload ∧
        ClaimsImage oci (some (rule.getD .matchRepoDigestOrExact)) image payload := by
  unfold Schemes.judgeSingleSignature ClaimsImage
  simp only [bind_ok, verifySigAndExtractPayload_ok, validateSignedDockerManifestDigest_ok]
  constructor
  · rintro ⟨payload, signs, ⟨⟩, identity, digest⟩
    refine ⟨payload, signs, ?_, digest⟩
    rintro _ ⟨⟩
    exact identity
  · rintro ⟨payload, signs, identity, digest⟩
    exact ⟨payload, signs, (), identity _ rfl, digest⟩

theorem anySignature_iff {judge : List UInt8 → Except String Unit} {sigs : List (List UInt8)} :
    Schemes.anySignature judge sigs = true ↔ ∃ sig ∈ sigs, judge sig = .ok () := by
  induction sigs with
  | nil => simp [Schemes.anySignature]
  | cons sig rest ih =>
    unfold Schemes.anySignature
    split
    · rename_i accepted
      simp [accepted]
    · rename_i error rejected
      simp [rejected, ih]

theorem storeSignatures_ok {config : SigstoreConfig} {image : SignedImage} {digest : Digest}
    {sigs : List (List UInt8)} :
    schemes.storeSignatures oci config image digest = .ok sigs ↔
      schemes.storeListed oci config image digest = .ok (sigs.map some) := by
  unfold Schemes.storeSignatures Schemes.storeListed Schemes.getSigsFromSpecificSigstore
  simp only [bind_ok, mapM_ok]
  constructor
  · rintro ⟨uri, located, files, found, read⟩
    exact ⟨uri, located, files, found, by rw [read]; rfl⟩
  · rintro ⟨uri, located, files, found, read⟩
    exact ⟨uri, located, files, found, Except.ok.inj read⟩

theorem registrySignatures_ok {client : RegistryClient} {image : SignedImage} {digest : Digest}
    {auth : RegistryAuth} {sigs : List (List UInt8)} :
    client.getSignatures image digest auth = .ok sigs ↔
      ∃ contents, client.contents image digest auth = .ok contents ∧
        (contents.map fun content => (decodeSignature content).toOption) = sigs.map some := by
  unfold RegistryClient.getSignatures
  simp only [bind_ok, mapM_ok]

/-- The signatures are fetched when each of those listed can be read. -/
theorem getSignatures_ok {image : SignedImage} {auth : RegistryAuth} {sigs : List (List UInt8)} :
    schemes.getSignatures oci image auth = .ok sigs ↔
      schemes.listed oci image auth = .ok (sigs.map some) := by
  unfold Schemes.getSignatures Schemes.listed
  cases schemes.sigstoreConfig with
  | none => simp
  | some config =>
    simp only [bind_ok]
    refine exists_congr fun digest => and_congr_right fun _ => ?_
    cases schemes.registryClient with
    | none => exact storeSignatures_ok
    | some client =>
      simp only [bind_ok, registrySignatures_ok]
      cases config.isDefault with
      | true =>
        constructor
        · rintro ⟨registered, ⟨contents, asked, read⟩, given⟩
          refine ⟨contents, asked, ?_⟩
          simp only [read, List.map_eq_nil_iff]
          cases registered with
          | nil => cases given
          | cons first others =>
            cases given
            rfl
        · rintro ⟨contents, asked, given⟩
          simp only [if_true] at given
          split at given
          · cases given
          · rename_i some_
            have read := Except.ok.inj given
            refine ⟨sigs, ⟨contents, asked, read⟩, ?_⟩
            rw [read, List.map_eq_nil_iff] at some_
            simp [some_, pure, Except.pure]
      | false =>
        constructor
        · rintro ⟨registered, ⟨contents, asked, read⟩, given⟩
          obtain ⟨stored, found, same⟩ := bind_ok.mp given
          cases same
          refine ⟨contents, asked, bind_ok.mpr ⟨_, storeSignatures_ok.mp found, ?_⟩⟩
          simp [read, pure, Except.pure]
        · rintro ⟨contents, asked, given⟩
          obtain ⟨stored, found, same⟩ := bind_ok.mp given
          obtain ⟨registered, files, rfl, read, rfl⟩ := List.map_eq_append_iff.mp (Except.ok.inj same).symm
          exact ⟨registered, ⟨contents, asked, read.symm⟩,
            bind_ok.mpr ⟨files, storeSignatures_ok.mpr found, rfl⟩⟩

/-- Simple signing accepts an image when all that is listed for it can be read, and some
of it is good. -/
theorem simpleSigningAllowsImage_ok {parameters : SimpleParameters} {image : SignedImage}
    {auth : RegistryAuth} :
    schemes.simpleSigningAllowsImage oci parameters image auth = .ok () ↔
      ∃ sigs : List (List UInt8), schemes.listed oci image auth = .ok (sigs.map some) ∧
        ∃ sig ∈ sigs, GoodSimple oci schemes parameters image sig := by
  unfold Schemes.simpleSigningAllowsImage GoodSimple
  simp only [bind_ok, getSignatures_ok]
  constructor
  · rintro ⟨ring, keys, sigs, fetched, accepted⟩
    split at accepted
    · rename_i passed
      obtain ⟨sig, listed, judged⟩ := anySignature_iff.mp passed
      obtain ⟨payload, signs, claims⟩ := judgeSingleSignature_ok.mp judged
      exact ⟨sigs, fetched, sig, listed, ring, payload, keys, signs, claims⟩
    · cases accepted
  · rintro ⟨sigs, fetched, sig, listed, ring, payload, keys, signs, claims⟩
    have judged := judgeSingleSignature_ok.mpr ⟨payload, signs, claims⟩
    refine ⟨ring, keys, sigs, fetched, ?_⟩
    rw [if_pos (anySignature_iff.mpr ⟨sig, listed, judged⟩)]
    rfl

theorem checkPayload_ok {parameter : CosignParameters} {image : SignedImage} {payload : SigPayload} :
    Schemes.checkPayload oci parameter image payload = .ok () ↔
      ClaimsImage oci parameter.signedIdentity image payload := by
  unfold Schemes.checkPayload ClaimsImage
  cases parameter.signedIdentity with
  | none => simp [validateSignedDockerManifestDigest_ok]
  | some rule =>
    simp only [bind_ok, validateSignedDockerManifestDigest_ok, SigPayload.validateSignedDockerReference]
    constructor
    · rintro ⟨⟨⟩, identity, digest⟩
      refine ⟨?_, digest⟩
      rintro _ ⟨⟩
      exact identity
    · rintro ⟨identity, digest⟩
      exact ⟨(), identity rule rfl, digest⟩

/-- Cosign accepts an image when a signature of it is good and every payload is about it. -/
theorem cosignAllowsImage_ok {parameter : CosignParameters} {image : SignedImage} {auth : RegistryAuth} :
    schemes.cosignAllowsImage oci parameter image auth = .ok () ↔
      ∃ layers, schemes.sigstore.trustedSignatureLayers (oci.whole image.reference) auth = .ok layers ∧
        (∃ layer ∈ layers, GoodCosign oci schemes parameter image layer) ∧
        ∀ layer ∈ layers, ClaimsImage oci parameter.signedIdentity image (schemes.sigstore.simpleSigning layer) := by
  unfold Schemes.cosignAllowsImage Schemes.verifySignatureAndGetPayload GoodCosign
  simp only [bind_ok, forM_ok, checkPayload_ok, schemes.sigstore.verifiesConstraints, List.mem_singleton,
    forall_eq]
  constructor
  · rintro ⟨⟨⟩, rules, key, keyed, payloads,
      ⟨layers, fetched, verifier, made, ⟨⟩, ⟨layer, listed, verifies⟩, given⟩,
      claims⟩
    cases given
    have all : ∀ layer ∈ layers, ClaimsImage oci parameter.signedIdentity image
        (schemes.sigstore.simpleSigning layer) := fun layer listed =>
      claims _ (List.mem_map_of_mem listed)
    exact ⟨layers, fetched,
      ⟨layer, listed, rules, ⟨key, verifier, keyed, made, verifies⟩, all layer listed⟩, all⟩
  · rintro ⟨layers, fetched, ⟨layer, listed, rules, ⟨key, verifier, keyed, made, verifies⟩, _⟩, all⟩
    refine ⟨(), rules, key, keyed, _, ⟨layers, fetched, verifier, made, (), ⟨layer, listed, verifies⟩, rfl⟩,
      ?_⟩
    intro payload shown
    obtain ⟨layer, listed, rfl⟩ := List.mem_map.mp shown
    exact all layer listed

end Judgement

section Decision

variable (oci : OciClient) (schemes : Schemes) (image : SignedImage) (auth : RegistryAuth)

/-- One good signature suffices for simple signing when all that is attached can be listed
and read. -/
theorem simpleSuffices_iff (parameters : SimpleParameters) {attached : List (Option (List UInt8))}
    (given : schemes.Attached oci image auth attached) :
    SimpleSuffices oci schemes parameters image auth attached ↔
      ((∃ sig, some sig ∈ attached ∧ GoodSimple oci schemes parameters image sig) →
        schemes.listed oci image auth = .ok attached ∧ none ∉ attached) := by
  have accepts : schemes.simpleSigningAllowsImage oci parameters image auth = .ok () ↔
      (schemes.listed oci image auth = .ok attached ∧ none ∉ attached) ∧
        ∃ sig, some sig ∈ attached ∧ GoodSimple oci schemes parameters image sig := by
    rw [simpleSigningAllowsImage_ok, all_some_iff]
    constructor
    · rintro ⟨sigs, listed, sig, among, good⟩
      have same := given _ listed
      subst same
      exact ⟨⟨listed, sigs, rfl⟩, sig, List.mem_map_of_mem among, good⟩
    · rintro ⟨⟨listed, sigs, rfl⟩, sig, among, good⟩
      exact ⟨sigs, listed, sig, by simpa using among, good⟩
  constructor
  · rintro ⟨exact_, _⟩ good
    exact (accepts.mp (exact_.mpr good)).1
  · intro readable
    constructor
    · exact ⟨fun accepted => (accepts.mp accepted).2, fun good => accepts.mpr ⟨readable good, good⟩⟩
    · intro registryClient readDir fewer before listed subset accepted
      obtain ⟨sigs, fetched, sig, among, good⟩ := simpleSigningAllowsImage_ok.mp accepted
      cases listed.symm.trans fetched
      have still : some sig ∈ attached := subset (List.mem_map_of_mem among)
      exact accepts.mpr ⟨readable ⟨sig, still, good⟩, sig, still, good⟩

/-- One good signature suffices for cosign when the layers can be fetched and the others are
about the image too. -/
theorem cosignSuffices_iff (parameter : CosignParameters) {attached : List schemes.sigstore.SignatureLayer}
    (given : schemes.AttachedLayers oci image auth attached) :
    CosignSuffices oci schemes parameter image auth attached ↔
      ((∃ layer ∈ attached, GoodCosign oci schemes parameter image layer) →
        schemes.sigstore.trustedSignatureLayers (oci.whole image.reference) auth = .ok attached ∧
          ∀ layer ∈ attached,
            ClaimsImage oci parameter.signedIdentity image (schemes.sigstore.simpleSigning layer)) := by
  have accepts : schemes.cosignAllowsImage oci parameter image auth = .ok () ↔
      (∃ layer ∈ attached, GoodCosign oci schemes parameter image layer) ∧
        schemes.sigstore.trustedSignatureLayers (oci.whole image.reference) auth = .ok attached ∧
          ∀ layer ∈ attached,
            ClaimsImage oci parameter.signedIdentity image (schemes.sigstore.simpleSigning layer) := by
    rw [cosignAllowsImage_ok]
    constructor
    · rintro ⟨layers, fetched, good, about⟩
      have same := given _ fetched
      subst same
      exact ⟨good, fetched, about⟩
    · rintro ⟨good, fetched, about⟩
      exact ⟨attached, fetched, good, about⟩
  constructor
  · rintro ⟨exact_, _⟩ good
    exact (accepts.mp (exact_.mpr good)).2
  · intro about
    constructor
    · exact ⟨fun accepted => (accepts.mp accepted).1, fun good => accepts.mpr ⟨good, about good⟩⟩
    · intro fetch fewer before asked subset accepted
      obtain ⟨layers, fetched, ⟨layer, among, good⟩, _⟩ := cosignAllowsImage_ok.mp accepted
      cases asked.symm.trans fetched
      have still : ∃ layer ∈ attached, GoodCosign oci schemes parameter image layer :=
        ⟨layer, subset among, good⟩
      exact accepts.mpr ⟨still, about still⟩

/-- One good signature is enough, and further ones do no harm, exactly when in the presence
of a good one all those of simple signing can be listed and read, and all those of cosign
can be fetched and are about the image. -/
theorem one_signature_suffices_iff :
    (∀ parameters attached, schemes.Attached oci image auth attached →
      (SimpleSuffices oci schemes parameters image auth attached ↔
        ((∃ sig, some sig ∈ attached ∧ GoodSimple oci schemes parameters image sig) →
          schemes.listed oci image auth = .ok attached ∧ none ∉ attached))) ∧
    ∀ parameter attached, schemes.AttachedLayers oci image auth attached →
      (CosignSuffices oci schemes parameter image auth attached ↔
        ((∃ layer ∈ attached, GoodCosign oci schemes parameter image layer) →
          schemes.sigstore.trustedSignatureLayers (oci.whole image.reference) auth = .ok attached ∧
            ∀ layer ∈ attached,
              ClaimsImage oci parameter.signedIdentity image (schemes.sigstore.simpleSigning layer))) := by
  constructor
  · intro parameters attached given
    exact simpleSuffices_iff oci schemes image auth parameters given
  · intro parameter attached given
    exact cosignSuffices_iff oci schemes image auth parameter given

end Decision

section Examples

/-- An image that has been copied to another registry, with its signatures. -/
def copiedImage : SignedImage :=
  ⟨tagged "docker.io" "example/busybox" "latest",
    ⟨"sha256".toList, "6e340b9cffb37a989ca544e6bb780a2c78901d3fb33738768511a30617afa01d".toList⟩⟩

/-- Its signature under its own name. -/
def ownPayload : SigPayload := ⟨copiedImage.manifestDigest.text, "docker.io/example/busybox:latest".toList⟩

/-- Its signature from where it was copied. -/
def sourcePayload : SigPayload := ⟨copiedImage.manifestDigest.text, "quay.io/example/busybox:latest".toList⟩

/-- The literal of the one signature file there is. -/
def ownLiteral : Text := "\x7b\"critical\":\x7b\"type\":\"atomic container signature\"\x7d\x7d".toList

/-- A ring with one key, and a signature file that the key has signed. -/
def exampleSequoia : Sequoia where
  PublicKey := Unit
  Signature := Unit
  keyring _ := .ok [some ()]
  message sig :=
    if sig = [2] then .ok ⟨some (List.replicate 8 7), some (utf8 ownLiteral), some ()⟩
    else .error "unexpected EOF"
  verifySignature _ _ := true
  fingerprint _ := List.replicate 20 7

/-- Layers that say themselves whether the key has signed them. -/
def exampleSigstore (layers : List (Bool × SigPayload)) : Sigstore where
  SignatureLayer := Bool × SigPayload
  PublicKeyVerifier := List UInt8
  trustedSignatureLayers _ _ := .ok layers
  newVerifier := .ok
  verify _ layer := layer.1
  verifyConstraints layers constraints :=
    if constraints.all fun _ => layers.any (·.1) then .ok () else .error "unsatisfied constraints"
  simpleSigning layer := layer.2
  verifiesConstraints layers constraints := by
    simp

/-- A validator for which a registry has these contents and layers. -/
def exampleSchemes (contents : List Text) (layers : List (Bool × SigPayload)) : Schemes where
  getResource _ := .error "not found"
  sequoia := exampleSequoia
  sigstore := exampleSigstore layers
  payloadFromStr text := if text = ownLiteral then .ok ownPayload else .error "expected value"
  registryClient := some ⟨fun _ => .ok true, fun _ _ _ => .ok "token".toList, fun _ _ _ => .ok contents⟩
  sigstoreConfig := some ⟨none, none⟩
  parseUrl _ := .error "relative URL without a base"
  readDir _ := .error "No such file or directory"

def exampleSimple : SimpleParameters := ⟨"GPGKeys".toList, none, some "AQ==".toList, none⟩

def exampleCosign : CosignParameters := ⟨none, some "key".toList, some .matchRepository⟩

def exampleAuth : RegistryAuth := .basic "user".toList "password".toList

/-- The one signature file is good, whatever else there is. -/
theorem own_signature_good (contents : List Text) (layers : List (Bool × SigPayload)) :
    GoodSimple exampleClient (exampleSchemes contents layers) exampleSimple copiedImage [2] := by
  have ring : (exampleSchemes [] []).pubkeyRing exampleSimple = .ok [1] := by decide
  have claims : ClaimsImage exampleClient (some .matchRepoDigestOrExact) copiedImage ownPayload := by
    constructor
    · rintro _ ⟨⟩
      decide
    · rfl
  have names : NamesKey (List.replicate 20 7) (List.replicate 8 7) := by
    simp [NamesKey]
  have signs : Signs (exampleSchemes contents layers) [1] [2] ownPayload :=
    ⟨[some ()], ⟨some (List.replicate 8 7), some (utf8 ownLiteral), some ()⟩, (), utf8 ownLiteral, ownLiteral,
      rfl, rfl, rfl, ⟨(), by simp, rfl⟩, fun _ _ _ => names, rfl, fromUtf8_utf8 ownLiteral, rfl⟩
  exact ⟨[1], ownPayload, ring, signs, claims⟩

/-- A good signature is attached, and one more that is signed for the image's source, or
that is not in base64: the image is rejected, and without the further one accepted. -/
theorem further_signature_rejects :
    let own : Bool × SigPayload := (true, ownPayload)
    let foreign : Bool × SigPayload := (true, sourcePayload)
    let alone := exampleSchemes ["Ag==".toList] [own]
    let together := exampleSchemes ["Ag==".toList, "?".toList] [own, foreign]
    alone.cosignAllowsImage exampleClient exampleCosign copiedImage exampleAuth = .ok () ∧
      GoodCosign exampleClient together exampleCosign copiedImage own ∧
      together.cosignAllowsImage exampleClient exampleCosign copiedImage exampleAuth = .error matchReference ∧
      alone.simpleSigningAllowsImage exampleClient exampleSimple copiedImage exampleAuth = .ok () ∧
      GoodSimple exampleClient together exampleSimple copiedImage [2] ∧
      together.simpleSigningAllowsImage exampleClient exampleSimple copiedImage exampleAuth ≠ .ok () := by
  intro own foreign alone together
  have rules : Schemes.checkReferenceRuleTypes exampleCosign.signedIdentity = .ok () := rfl
  have claims : ClaimsImage exampleClient exampleCosign.signedIdentity copiedImage ownPayload := by
    constructor
    · rintro _ ⟨⟩
      decide
    · rfl
  have listed : alone.listed exampleClient copiedImage exampleAuth = .ok ([[2]].map some) := by decide
  have unread : together.listed exampleClient copiedImage exampleAuth = .ok [some [2], none] := by decide
  refine ⟨by decide, ⟨rules, ⟨utf8 "key".toList, utf8 "key".toList, rfl, rfl, rfl⟩, claims⟩, by decide, ?_,
    own_signature_good _ _, ?_⟩
  · exact simpleSigningAllowsImage_ok.mpr ⟨_, listed, [2], by simp, own_signature_good _ _⟩
  · intro accepted
    obtain ⟨sigs, fetched, _⟩ := simpleSigningAllowsImage_ok.mp accepted
    have same := Except.ok.inj (unread.symm.trans fetched)
    exact all_some_iff.mpr ⟨sigs, same⟩ (by simp)

/-- `one_signature_suffices_iff` where there is only the one good signature for each scheme. -/
theorem one_signature_suffices_alone :
    let schemes := exampleSchemes ["Ag==".toList] [(true, ownPayload)]
    SimpleSuffices exampleClient schemes exampleSimple copiedImage exampleAuth [some [2]] ∧
      CosignSuffices exampleClient schemes exampleCosign copiedImage exampleAuth [(true, ownPayload)] := by
  intro schemes
  obtain ⟨simple, cosign⟩ := one_signature_suffices_iff exampleClient schemes copiedImage exampleAuth
  have listed : schemes.listed exampleClient copiedImage exampleAuth = .ok [some [2]] := by decide
  have given : schemes.Attached exampleClient copiedImage exampleAuth [some [2]] := by
    intro list asked
    exact Except.ok.inj (asked.symm.trans listed)
  have layers : schemes.AttachedLayers exampleClient copiedImage exampleAuth [(true, ownPayload)] := by
    intro list asked
    exact (Except.ok.inj asked).symm
  constructor
  · exact (simple exampleSimple _ given).mpr fun _ => ⟨listed, by simp⟩
  · refine (cosign exampleCosign [(true, ownPayload)] layers).mpr fun good => ⟨rfl, fun layer among => ?_⟩
    obtain ⟨other, among', _, _, claims⟩ := good
    cases List.mem_singleton.mp among
    cases List.mem_singleton.mp among'
    exact claims

end Examples

end GuestComponents.Image
