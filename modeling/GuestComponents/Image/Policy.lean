import GuestComponents.Image.RefMatch

/-! The policy that a signature validator checks an image against. The two signature
schemes fetch signatures and verify them, and their answers are parameters; which
requirements an image has to meet is the code's own. -/
namespace GuestComponents.Image
open Lib Lib.Text

/-- `image::digest::Digest`. -/
structure Digest where
  algorithm : Text
  value : Text
  deriving DecidableEq

/-- The `Length` of a supported digest algorithm. -/
def digestLength (algorithm : Text) : Option Nat :=
  if algorithm = "sha256".toList then some 64
  else if algorithm = "sha384".toList then some 96
  else if algorithm = "sha512".toList then some 128
  else none

/-- `Digest::try_from`. -/
def Digest.tryFrom (digest : Text) : Except String Digest :=
  match split ':' digest with
  | [algorithm, value] =>
    if algorithm = [] ∨ value = [] then .error "invalid checksum digest format"
    else if hexDecode value = none then .error "invalid checksum digest format"
    else
      match digestLength algorithm with
      | none => .error "unsupported digest algorithm"
      | some expected =>
        if value.length ≠ expected then .error "invalid checksum digest length"
        else .ok ⟨algorithm, value⟩
  | _ => .error "invalid checksum digest format"

/-- `image::Image`: what signature verification uses of an image. -/
structure SignedImage where
  reference : Reference
  manifestDigest : Digest

/-- `oci_client::secrets::RegistryAuth`. -/
inductive RegistryAuth where
  | anonymous
  | basic (username password : Text)
  deriving DecidableEq

structure CosignParameters where
  keyPath : Option Text
  keyData : Option Text
  signedIdentity : Option PolicyReqMatchType

structure SimpleParameters where
  keyType : Text
  keyPath : Option Text
  keyData : Option Text
  signedIdentity : Option PolicyReqMatchType

inductive PolicyReqType where
  | accept
  | reject
  | simpleSigning (inner : SimpleParameters)
  | cosign (inner : CosignParameters)

/-- The requirements for each scope of a transport. -/
abbrev PolicyTransportScopes := Text → Option (List PolicyReqType)

structure Policy where
  default : List PolicyReqType
  transports : Text → Option PolicyTransportScopes

/-- What the signature schemes say, with the signatures they can fetch, of an image. -/
structure Verifier where
  simpleSigningAllowsImage : SimpleParameters → SignedImage → RegistryAuth → Except String Unit
  cosignAllowsImage : CosignParameters → SignedImage → RegistryAuth → Except String Unit

structure SignatureValidator where
  policy : Policy

/-- `str::rsplit_once` with a character. -/
def rsplitOnce (separator : Char) (text : Text) : Option (Text × Text) :=
  (splitOnce separator text.reverse).map fun parts => (parts.2.reverse, parts.1.reverse)

theorem splitOnce_length {separator : Char} {text : Text} {parts : Text × Text}
    (found : splitOnce separator text = some parts) : parts.2.length < text.length := by
  induction text generalizing parts with
  | nil => simp [splitOnce] at found
  | cons c rest ih =>
    unfold splitOnce at found
    split at found
    · cases found
      simp
    · obtain ⟨inner, within, rfl⟩ := Option.map_eq_some_iff.mp found
      have shorter := ih within
      simp only [List.length_cons]
      omega

theorem rsplitOnce_length {separator : Char} {text : Text} {parts : Text × Text}
    (found : rsplitOnce separator text = some parts) : parts.1.length < text.length := by
  obtain ⟨inner, within, rfl⟩ := Option.map_eq_some_iff.mp found
  simpa using splitOnce_length within

/-- The loop over the repository and its parents, down to the host, which is what
remains of the name. -/
def parentNames (name : Text) : List Text × Text :=
  match _found : rsplitOnce '/' name with
  | none => ([name], name)
  | some parts =>
    let above := parentNames parts.1
    (name :: above.1, above.2)
termination_by name.length
decreasing_by exact rsplitOnce_length _found

/-- The loop over the wildcarded domains of a host. -/
def wildcardNames (name : Text) : List Text :=
  match _found : splitOnce '.' name with
  | none => []
  | some parts => ('*' :: '.' :: parts.2) :: wildcardNames parts.2
termination_by name.length
decreasing_by exact splitOnce_length _found

/-- `str::rsplit_once(':')`, which strips a port number. -/
def stripPort (name : Text) : Text :=
  match rsplitOnce ':' name with
  | none => name
  | some parts => parts.1

/-- `image::get_image_namespaces`. -/
def getImageNamespaces (imageRef : Reference) : List Text :=
  let names := parentNames (getImageRepositoryFullName imageRef)
  names.1 ++ wildcardNames (stripPort names.2)

/-- `TransportName::Docker`, the only transport that images have. -/
def SignedImage.transportName (_ : SignedImage) : Text := "docker".toList

section Code

variable (oci : OciClient)

/-- `Policy::requirements_for_image`. -/
def Policy.requirementsForImage (policy : Policy) (image : SignedImage) : List PolicyReqType :=
  match policy.transports image.transportName with
  | none => policy.default
  | some transportScopes =>
    match transportScopes (oci.whole image.reference) with
    | some reqs => reqs
    | none =>
      match (getImageNamespaces image.reference).findSome? transportScopes with
      | some reqs => reqs
      | none =>
        match transportScopes [] with
        | some reqs => reqs
        | none => policy.default

/-- `SignatureValidator::check_image_requirement`. -/
def checkImageRequirement (verifier : Verifier) (req : PolicyReqType) (image : SignedImage)
    (auth : RegistryAuth) : Except String Unit :=
  match req with
  | .accept => .ok ()
  | .reject => .error "Policy `reject` rejects image"
  | .simpleSigning inner => verifier.simpleSigningAllowsImage inner image auth
  | .cosign inner => verifier.cosignAllowsImage inner image auth

/-- `SignatureValidator::check_image_signature`. -/
def SignatureValidator.checkImageSignature (validator : SignatureValidator) (verifier : Verifier)
    (imageReference imageDigest : Text) (auth : RegistryAuth) : Except String Unit := do
  let reference ← oci.tryFrom imageReference
  let manifestDigest ← Digest.tryFrom imageDigest
  let image : SignedImage := ⟨reference, manifestDigest⟩
  let reqs := validator.policy.requirementsForImage oci image
  if reqs.isEmpty then throw "List of verification policy requirements must not be empty"
  else reqs.forM fun req => checkImageRequirement verifier req image auth

end Code

end GuestComponents.Image
