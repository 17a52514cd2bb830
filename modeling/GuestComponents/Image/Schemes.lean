import GuestComponents.Image.PolicyDecision
import GuestComponents.Lib.Base64
import Mathlib.Data.List.AList

/-! The two signature schemes of a policy, simple signing and cosign. The OpenPGP packets,
the sigstore client, the registry and the file system are parameters; which signatures are
asked for, and what makes one of them good, is the code's own. -/
namespace GuestComponents.Image
open Lib Lib.Text

/-- `SigPayload`: what a signature says of the image it is for. -/
structure SigPayload where
  dockerManifestDigest : Text
  dockerReference : Text
  deriving DecidableEq

/-- `Digest`'s `Display`. -/
def Digest.text (digest : Digest) : Text := digest.algorithm ++ ':' :: digest.value

/-- `Digest::is_empty`. -/
def Digest.isEmpty (digest : Digest) : Bool := digest.algorithm.isEmpty || digest.value.isEmpty

/-- What stands at the places of a signature file where the code looks: the issuer of its
one-pass signature, the body of its literal, its signature. -/
structure SignatureMessage (Signature : Type) where
  issuer : Option (List UInt8)
  literal : Option (List UInt8)
  signature : Option Signature

/-- `sequoia_openpgp`. Of a keyring's packets, those that are not public keys are passed over. -/
structure Sequoia where
  PublicKey : Type
  Signature : Type
  keyring : List UInt8 → Except String (List (Option PublicKey))
  message : List UInt8 → Except String (SignatureMessage Signature)
  verifySignature : Signature → PublicKey → Bool
  fingerprint : PublicKey → List UInt8

/-- The sigstore client: the signature layers it finds for a reference and does not skip
itself, and the verification of constraints, which is met when each of them is satisfied by
a layer. -/
structure Sigstore where
  SignatureLayer : Type
  PublicKeyVerifier : Type
  trustedSignatureLayers : Text → RegistryAuth → Except String (List SignatureLayer)
  newVerifier : List UInt8 → Except String PublicKeyVerifier
  verify : PublicKeyVerifier → SignatureLayer → Bool
  verifyConstraints : List SignatureLayer → List PublicKeyVerifier → Except String Unit
  simpleSigning : SignatureLayer → SigPayload
  verifiesConstraints : ∀ layers constraints, verifyConstraints layers constraints = .ok () ↔
    ∀ constraint ∈ constraints, ∃ layer ∈ layers, verify constraint layer = true

/-- A registry that may support the signature extension. -/
structure RegistryClient where
  supportsSignatures : SignedImage → Except String Bool
  oauthToken : SignedImage → Text → Text → Except String Text
  signatures : SignedImage → Digest → Text → Except String (List Text)

/-- `SigstoreConfig`: where signatures are stored, for namespaces and by default. -/
structure SigstoreConfig where
  defaultConfig : Option Text
  dockerNamespaceConfig : Option (AList fun _ : Text => Text)

def SigstoreConfig.isDefault (config : SigstoreConfig) : Bool :=
  config.defaultConfig.isNone && config.dockerNamespaceConfig.isNone

/-- An entry of a signature store. Its path may not be Unicode, and it may not be readable. -/
structure StoreEntry where
  isDir : Bool
  unicode : Bool
  content : Except String (List UInt8)

/-- What the schemes of one validator use. The registry is asked where the feature for it
is on. -/
structure Schemes where
  getResource : Text → Except String (List UInt8)
  sequoia : Sequoia
  sigstore : Sigstore
  payloadFromStr : Text → Except String SigPayload
  registryClient : Option RegistryClient
  sigstoreConfig : Option SigstoreConfig
  parseUrl : Text → Except String (Text × Text)
  readDir : Text → Except String (List StoreEntry)

section Code

variable (oci : OciClient)

/-- `SigPayload::validate_signed_docker_reference`. -/
def SigPayload.validateSignedDockerReference (payload : SigPayload) (imageRef : Reference)
    (matchPolicy : PolicyReqMatchType) : Except String Unit :=
  matchPolicy.matchesDockerReference oci imageRef payload.dockerReference

/-- `SigPayload::validate_signed_docker_manifest_digest`. -/
def SigPayload.validateSignedDockerManifestDigest (payload : SigPayload) (refManifestDigest : Text) :
    Except String Unit :=
  if payload.dockerManifestDigest ≠ refManifestDigest then
    .error ("SigPayload's manifest digest does not match, the input is " ++
      String.ofList refManifestDigest ++ ", but in SigPayload it is " ++
      String.ofList payload.dockerManifestDigest)
  else .ok ()

/-- `SigKeyIDs::validate`. -/
def validateKeyIds (trustedKeyId sigInfoKeyId : List UInt8) : Except String Unit :=
  if trustedKeyId.length ≠ 20 then .error "Wrong GPG key ID length in pubkey ring"
  else if sigInfoKeyId.length ≠ 8 then .error "Wrong GPG key ID length in signature payload"
  else if sigInfoKeyId = trustedKeyId.drop (20 - 8) then .ok ()
  else .error "Key ID not matched."

/-- The format of a signature's name in a store. -/
def formatSigstoreName (imageRef : Reference) (imageDigest : Digest) : Text :=
  imageRef.repository ++ '@' :: imageDigest.algorithm ++ '=' :: imageDigest.value

/-- `SigstoreConfig::base_url`. -/
def SigstoreConfig.baseUrl (config : SigstoreConfig) (imageRef : Reference) : Option Text :=
  match config.dockerNamespaceConfig with
  | none => config.defaultConfig
  | some map =>
    match (oci.whole imageRef :: getImageNamespaces imageRef).findSome? (map.lookup ·) with
    | some baseUrl => some baseUrl
    | none => config.defaultConfig

/-- The digest that signatures are looked up by. -/
def imageDigest (image : SignedImage) : Except String Digest :=
  if image.manifestDigest.isEmpty then
    match image.reference.digest with
    | some digest => Digest.tryFrom digest
    | none => .error "Missing image digest"
  else .ok image.manifestDigest

/-- `RegistryClient::get_oauth_token_for_registry`. -/
def RegistryClient.getOauthToken (client : RegistryClient) (image : SignedImage) (auth : RegistryAuth) :
    Except String Text :=
  match auth with
  | .anonymous => .error "Trying to get signature from a registry without providing auth information"
  | .basic username password => client.oauthToken image username password

/-- The contents of the signatures that a registry lists. -/
def RegistryClient.contents (client : RegistryClient) (image : SignedImage) (digest : Digest)
    (auth : RegistryAuth) : Except String (List Text) := do
  let supports ← client.supportsSignatures image
  if supports then
    let token ← client.getOauthToken image auth
    client.signatures image digest token
  else pure []

def decodeSignature (content : Text) : Except String (List UInt8) :=
  match Base64.decode content with
  | some signature => .ok signature
  | none => .error "Error when decoding sognature from registry. Signature is not base64 encoded"

/-- `RegistryClient::get_signatures_from_registry`. -/
def RegistryClient.getSignatures (client : RegistryClient) (image : SignedImage) (digest : Digest)
    (auth : RegistryAuth) : Except String (List (List UInt8)) := do
  let contents ← client.contents image digest auth
  contents.mapM decodeSignature

def StoreEntry.read (entry : StoreEntry) : Except String (List UInt8) :=
  if entry.unicode then entry.content else .error "Unknown error: path parsed failed."

namespace Schemes

variable (schemes : Schemes)

/-- The files of the store at a location. -/
def storeFiles (uri : Text × Text) : Except String (List StoreEntry) :=
  if uri.1 = "file".toList then do
    let entries ← schemes.readDir uri.2
    pure (entries.filter fun entry => !entry.isDir)
  else .error "HTTP support for signature stores is not implemented."

/-- `sigstore::get_sigs_from_specific_sigstore`. -/
def getSigsFromSpecificSigstore (uri : Text × Text) : Except String (List (List UInt8)) := do
  let files ← schemes.storeFiles uri
  files.mapM StoreEntry.read

/-- Where the store of an image's signatures is. -/
def sigstoreUri (config : SigstoreConfig) (image : SignedImage) (digest : Digest) :
    Except String (Text × Text) :=
  match config.baseUrl oci image.reference with
  | none => .error "The sigstore base url is none"
  | some baseUrl => schemes.parseUrl (baseUrl ++ '/' :: formatSigstoreName image.reference digest)

/-- The signatures of an image in its store. -/
def storeSignatures (config : SigstoreConfig) (image : SignedImage) (digest : Digest) :
    Except String (List (List UInt8)) := do
  let uri ← schemes.sigstoreUri oci config image digest
  schemes.getSigsFromSpecificSigstore uri

/-- `SignatureValidator::get_signatures`. -/
def getSignatures (image : SignedImage) (auth : RegistryAuth) : Except String (List (List UInt8)) :=
  match schemes.sigstoreConfig with
  | none => .error "Simple Signing Sigstore Config not set"
  | some config => do
    let digest ← imageDigest image
    match schemes.registryClient with
    | none => schemes.storeSignatures oci config image digest
    | some client =>
      let registrySigs ← client.getSignatures image digest auth
      if config.isDefault then
        if registrySigs = [] then throw "Missing sigstore config file and no signatures in registry"
        else pure registrySigs
      else
        let sigstoreSigs ← schemes.storeSignatures oci config image digest
        pure (registrySigs ++ sigstoreSigs)

/-- The loop of `verify_sig_and_extract_payload` over the keyring, from the key id that it
has come to trust. -/
def verifyRing (signature : schemes.sequoia.Signature) (sigInfoKeyId : List UInt8) :
    List UInt8 → List (Option schemes.sequoia.PublicKey) → Except String (List UInt8)
  | trusted, [] => .ok trusted
  | trusted, none :: rest => verifyRing signature sigInfoKeyId trusted rest
  | trusted, some pubkey :: rest =>
    if schemes.sequoia.verifySignature signature pubkey then do
      validateKeyIds (schemes.sequoia.fingerprint pubkey) sigInfoKeyId
      verifyRing signature sigInfoKeyId (schemes.sequoia.fingerprint pubkey) rest
    else verifyRing signature sigInfoKeyId trusted rest

/-- The id of the key that verifies a message, or nothing. -/
def trustedKeyId (message : SignatureMessage schemes.sequoia.Signature)
    (keyring : List (Option schemes.sequoia.PublicKey)) : Except String (List UInt8) :=
  match message.signature with
  | none => .ok []
  | some signature => schemes.verifyRing signature (message.issuer.getD []) [] keyring

/-- The text of a message's literal. -/
def bodyMessage (message : SignatureMessage schemes.sequoia.Signature) : Except String Text :=
  match message.literal with
  | none => .error "Signature format error: no literal field in it!"
  | some body =>
    match fromUtf8 body with
    | none => .error "invalid utf-8 sequence"
    | some text => .ok text

/-- `verify::verify_sig_and_extract_payload`. -/
def verifySigAndExtractPayload (pubkeyRing sig : List UInt8) : Except String SigPayload := do
  let keyring ← schemes.sequoia.keyring pubkeyRing
  let message ← schemes.sequoia.message sig
  let trusted ← schemes.trustedKeyId message keyring
  if trusted = [] then throw "signature verify failed! There is no pubkey can verify the signature!"
  else
    let text ← schemes.bodyMessage message
    schemes.payloadFromStr text

/-- `judge_single_signature`. -/
def judgeSingleSignature (image : SignedImage) (signedIdentity : Option PolicyReqMatchType)
    (pubkeyRing sig : List UInt8) : Except String Unit := do
  let payload ← schemes.verifySigAndExtractPayload pubkeyRing sig
  payload.validateSignedDockerReference oci image.reference
    (signedIdentity.getD .matchRepoDigestOrExact)
  payload.validateSignedDockerManifestDigest image.manifestDigest.text

/-- The public keys that a simple signing requirement is configured with. -/
def pubkeyRing (parameters : SimpleParameters) : Except String (List UInt8) :=
  if parameters.keyType ≠ "GPGKeys".toList then
    .error "Unknown key type in policy config: only support GPGKeys now."
  else
    match parameters.keyPath, parameters.keyData with
    | none, none => .error "Neither keyPath or keyData specified."
    | some _, some _ => .error "Both keyPath and keyData specified."
    | none, some keyData =>
      match Base64.decode keyData with
      | some ring => .ok ring
      | none => .error "Invalid symbol"
    | some keyPath, none => schemes.getResource keyPath

/-- The loop of `simple_signing_allows_image`: one accepted signature is enough. -/
def anySignature (judge : List UInt8 → Except String Unit) : List (List UInt8) → Bool
  | [] => false
  | sig :: rest =>
    match judge sig with
    | .ok () => true
    | .error _ => anySignature judge rest

/-- `SignatureValidator::simple_signing_allows_image`. -/
def simpleSigningAllowsImage (parameters : SimpleParameters) (image : SignedImage) (auth : RegistryAuth) :
    Except String Unit := do
  let ring ← schemes.pubkeyRing parameters
  let sigs ← schemes.getSignatures oci image auth
  if anySignature (schemes.judgeSingleSignature oci image parameters.signedIdentity ring) sigs then pure ()
  else throw "The signatures do not satisfied!"

/-- `CosignParameters::check_reference_rule_types`. -/
def checkReferenceRuleTypes (signedIdentity : Option PolicyReqMatchType) : Except String Unit :=
  match signedIdentity with
  | none => .ok ()
  | some (.matchRepository) => .ok ()
  | some (.exactRepository _) => .ok ()
  | some _ => .error "Denied by the reference rule type"

/-- The public key that a cosign requirement is configured with. -/
def cosignKey (parameter : CosignParameters) : Except String (List UInt8) :=
  match parameter.keyData, parameter.keyPath with
  | none, none => .error "Neither keyPath nor keyData is specified."
  | none, some keyPath => schemes.getResource keyPath
  | some keyData, none => .ok (utf8 keyData)
  | some _, some _ => .error "Both keyPath and keyData are specified."

/-- `CosignParameters::verify_signature_and_get_payload`. -/
def verifySignatureAndGetPayload (image : SignedImage) (auth : RegistryAuth) (key : List UInt8) :
    Except String (List SigPayload) := do
  let signatureLayers ← schemes.sigstore.trustedSignatureLayers (oci.whole image.reference) auth
  let pubKeyVerifier ← schemes.sigstore.newVerifier key
  schemes.sigstore.verifyConstraints signatureLayers [pubKeyVerifier]
  pure (signatureLayers.map schemes.sigstore.simpleSigning)

/-- One round of the loop over the payloads. -/
def checkPayload (parameter : CosignParameters) (image : SignedImage) (payload : SigPayload) :
    Except String Unit :=
  match parameter.signedIdentity with
  | some rule => do
    payload.validateSignedDockerReference oci image.reference rule
    payload.validateSignedDockerManifestDigest image.manifestDigest.text
  | none => payload.validateSignedDockerManifestDigest image.manifestDigest.text

/-- `CosignParameters::check_image_signature`. -/
def cosignAllowsImage (parameter : CosignParameters) (image : SignedImage) (auth : RegistryAuth) :
    Except String Unit := do
  checkReferenceRuleTypes parameter.signedIdentity
  let key ← schemes.cosignKey parameter
  let payloads ← schemes.verifySignatureAndGetPayload oci image auth key
  payloads.forM (checkPayload oci parameter image)

/-- The schemes as the policy's requirements meet them. -/
def verifier : Verifier where
  simpleSigningAllowsImage := schemes.simpleSigningAllowsImage oci
  cosignAllowsImage := schemes.cosignAllowsImage oci

end Schemes

end Code

end GuestComponents.Image
