import GuestComponents.Lib.Text
import Mathlib.Data.List.Basic

/-! Which identities a signature may claim for an image. The parser of image
references is the OCI client's and a parameter: a reference that it gives has a tag or
a digest, and its full text is read as the same reference again. The match types are
decided as containers-policy.json(5) says, but for one: `remapIdentity` replaces a
prefix wherever the text starts with it (`docker_reference_iff`). -/
namespace GuestComponents.Image
open Lib Lib.Text

/-- `oci_client::Reference`. -/
structure Reference where
  registry : Text
  repository : Text
  tag : Option Text
  digest : Option Text
  deriving DecidableEq

/-- The parser of references and the text of a whole reference. -/
structure OciClient where
  tryFrom : Text → Except String Reference
  whole : Reference → Text
  tagOrDigest : ∀ text reference, tryFrom text = .ok reference →
    reference.tag.isSome ∨ reference.digest.isSome
  readsWhole : ∀ text reference, tryFrom text = .ok reference →
    tryFrom (whole reference) = .ok reference

/-- `image::get_image_repository_full_name`. -/
def getImageRepositoryFullName (imageRef : Reference) : Text :=
  if imageRef.registry = [] then imageRef.repository
  else imageRef.registry ++ '/' :: imageRef.repository

inductive PolicyReqMatchType where
  | matchExact
  | matchRepoDigestOrExact
  | matchRepository
  | exactReference (dockerReference : Text)
  | exactRepository (dockerRepository : Text)
  | remapIdentity (prefix_ signedPrefix : Text)

def matchReference : String := "Match reference failed."

section Code

variable (oci : OciClient)

/-- The comparison of repositories that four of the match types make. -/
def sameRepository (repository signedImageRef : Text) : Except String Unit :=
  match oci.tryFrom signedImageRef with
  | .error error => .error error
  | .ok signed =>
    if repository ≠ getImageRepositoryFullName signed then .error matchReference else .ok ()

/-- The two checks that `matchRepoDigestOrExact` and `remapIdentity` make. -/
def repoDigestOrExact (origin : Reference) (signedImageRef : Text) : Except String Unit :=
  if origin.tag.isSome ∧ oci.whole origin ≠ signedImageRef then .error matchReference
  else if origin.digest.isSome then
    sameRepository oci (getImageRepositoryFullName origin) signedImageRef
  else .ok ()

/-- `strip_prefix` and `format!("{signed_prefix}{ref_with_no_prefix}")`. -/
def remapped (prefix_ signedPrefix whole : Text) : Text :=
  match whole.dropPrefix? prefix_ with
  | some refWithNoPrefix => signedPrefix ++ refWithNoPrefix
  | none => whole

/-- `PolicyReqMatchType::matches_docker_reference`. -/
def PolicyReqMatchType.matchesDockerReference (policy : PolicyReqMatchType) (origin : Reference)
    (signedImageRef : Text) : Except String Unit :=
  match policy with
  | matchExact =>
    if origin.digest.isSome then
      .error "Can not reference the image with the digest in matchExact policy."
    else if oci.whole origin ≠ signedImageRef then .error matchReference
    else .ok ()
  | matchRepoDigestOrExact => repoDigestOrExact oci origin signedImageRef
  | matchRepository => sameRepository oci (getImageRepositoryFullName origin) signedImageRef
  | exactReference dockerReference =>
    if signedImageRef ≠ dockerReference then .error matchReference else .ok ()
  | exactRepository dockerRepository => sameRepository oci dockerRepository signedImageRef
  | remapIdentity prefix_ signedPrefix =>
    match oci.tryFrom (remapped prefix_ signedPrefix (oci.whole origin)) with
    | .error error => .error error
    | .ok newOriginRef => repoDigestOrExact oci newOriginRef signedImageRef

end Code

section Specification

variable (oci : OciClient)

/-- The signature's identity is in this repository. -/
def InRepository (repository signed : Text) : Prop :=
  ∃ reference, oci.tryFrom signed = .ok reference ∧ getImageRepositoryFullName reference = repository

/-- With a tag the identities are the same, with a digest only the repositories are. -/
def RepoDigestOrExact (origin : Reference) (signed : Text) : Prop :=
  match origin.tag with
  | some _ => signed = oci.whole origin
  | none => InRepository oci (getImageRepositoryFullName origin) signed

/-- The prefix ends at a boundary of the text, before this rest: it is a host, a
namespace or a repository of it. -/
def AtBoundary (prefix_ text rest : Text) : Prop :=
  text = prefix_ ++ rest ∧ ∃ separator after, rest = separator :: after ∧ separator ∈ ['/', ':', '@']

/-- The identity that an image is matched by after remapping. -/
def RemapsTo (prefix_ signedPrefix : Text) (origin remapped : Reference) : Prop :=
  (∃ rest, AtBoundary prefix_ (oci.whole origin) rest ∧
      oci.tryFrom (signedPrefix ++ rest) = .ok remapped) ∨
    ((∀ rest, ¬ AtBoundary prefix_ (oci.whole origin) rest) ∧ remapped = origin)

/-- What containers-policy.json(5) says of an image's identity and a signature's. An
image that is referenced by digest has no exact match. -/
def Matches (policy : PolicyReqMatchType) (origin : Reference) (signed : Text) : Prop :=
  match policy with
  | .matchExact => origin.digest = none ∧ signed = oci.whole origin
  | .matchRepoDigestOrExact => RepoDigestOrExact oci origin signed
  | .matchRepository => InRepository oci (getImageRepositoryFullName origin) signed
  | .exactReference dockerReference => signed = dockerReference
  | .exactRepository dockerRepository => InRepository oci dockerRepository signed
  | .remapIdentity prefix_ signedPrefix =>
    ∃ remapped, RemapsTo oci prefix_ signedPrefix origin remapped ∧ RepoDigestOrExact oci remapped signed

/-- The same signatures match by repository or exactly: the references are one, or
both are by digest in one repository. -/
def SameMatches (reference other : Reference) : Prop :=
  reference = other ∨ reference.tag = none ∧ other.tag = none ∧
    getImageRepositoryFullName reference = getImageRepositoryFullName other

/-- If the policy remaps a prefix with which the text only happens to start, it might
as well not. -/
def Harmless (policy : PolicyReqMatchType) (origin : Reference) : Prop :=
  match policy with
  | .remapIdentity prefix_ signedPrefix => ∀ rest, oci.whole origin = prefix_ ++ rest →
      AtBoundary prefix_ (oci.whole origin) rest ∨
        ∃ remapped, oci.tryFrom (signedPrefix ++ rest) = .ok remapped ∧ SameMatches remapped origin
  | _ => True

end Specification

section Matching

variable {oci : OciClient}

theorem sameRepository_ok {repository signed : Text} :
    sameRepository oci repository signed = .ok () ↔ InRepository oci repository signed := by
  unfold sameRepository InRepository
  cases oci.tryFrom signed with
  | error error => simp
  | ok reference =>
    by_cases same : repository = getImageRepositoryFullName reference
    · simp [same]
    · simp [same, Ne.symm same]

/-- A parsed reference is in its own repository. -/
theorem inRepository_whole {text : Text} {reference : Reference}
    (parsed : oci.tryFrom text = .ok reference) :
    InRepository oci (getImageRepositoryFullName reference) (oci.whole reference) :=
  ⟨reference, oci.readsWhole text reference parsed, rfl⟩

theorem whole_inj {text text' : Text} {reference reference' : Reference}
    (parsed : oci.tryFrom text = .ok reference) (parsed' : oci.tryFrom text' = .ok reference')
    (same : oci.whole reference = oci.whole reference') : reference = reference' := by
  have read := oci.readsWhole text reference parsed
  rw [same, oci.readsWhole text' reference' parsed'] at read
  cases read
  rfl

theorem repoDigestOrExact_ok {text signed : Text} {origin : Reference}
    (parsed : oci.tryFrom text = .ok origin) :
    repoDigestOrExact oci origin signed = .ok () ↔ RepoDigestOrExact oci origin signed := by
  unfold repoDigestOrExact RepoDigestOrExact
  cases tagged : origin.tag with
  | some tag =>
    by_cases same : oci.whole origin = signed
    · -- the second check is made too when there is a digest, and holds
      subst same
      have own := sameRepository_ok.mpr (inRepository_whole parsed)
      cases origin.digest <;> simp [own]
    · simp [same, Ne.symm same]
  | none =>
    have digest : origin.digest.isSome := by
      rcases oci.tagOrDigest text origin parsed with tag | digest
      · rw [tagged] at tag
        cases tag
      · exact digest
    simp [digest, sameRepository_ok]

theorem remapped_some {prefix_ signedPrefix whole rest : Text} (starts : whole = prefix_ ++ rest) :
    remapped prefix_ signedPrefix whole = signedPrefix ++ rest := by
  have dropped : whole.dropPrefix? prefix_ = some rest :=
    List.dropPrefix?_eq_some_iff.mpr ⟨prefix_, starts, by simp⟩
  rw [remapped, dropped]

theorem remapped_none {prefix_ signedPrefix whole : Text} (other : ∀ rest, whole ≠ prefix_ ++ rest) :
    remapped prefix_ signedPrefix whole = whole := by
  have kept : whole.dropPrefix? prefix_ = none := by
    cases dropped : whole.dropPrefix? prefix_ with
    | none => rfl
    | some rest =>
      obtain ⟨start, starts, same⟩ := List.dropPrefix?_eq_some_iff.mp dropped
      rw [beq_iff_eq] at same
      exact absurd (same ▸ starts) (other rest)
  rw [remapped, kept]

/-- References that the same signatures match are told apart by nothing that counts. -/
theorem sameMatches_iff {text text' : Text} {reference other : Reference}
    (parsed : oci.tryFrom text = .ok reference) (parsed' : oci.tryFrom text' = .ok other) :
    (∀ signed, RepoDigestOrExact oci reference signed ↔ RepoDigestOrExact oci other signed) ↔
      SameMatches reference other := by
  constructor
  · intro alike
    have atOwn := alike (oci.whole reference)
    have atOther := alike (oci.whole other)
    unfold RepoDigestOrExact at atOwn atOther
    cases tagged : reference.tag with
    | some tag =>
      cases tagged' : other.tag with
      | some tag' =>
        simp only [tagged, tagged', true_iff] at atOwn
        exact .inl (whole_inj parsed parsed' atOwn)
      | none =>
        simp only [tagged, tagged'] at atOther
        exact .inl (whole_inj parsed parsed' (atOther.mpr (inRepository_whole parsed')).symm)
    | none =>
      cases tagged' : other.tag with
      | some tag' =>
        simp only [tagged, tagged'] at atOwn
        exact .inl (whole_inj parsed parsed' (atOwn.mp (inRepository_whole parsed)))
      | none =>
        simp only [tagged, tagged'] at atOwn
        obtain ⟨found, read, repository⟩ := atOwn.mp (inRepository_whole parsed)
        rw [oci.readsWhole text reference parsed] at read
        cases read
        exact .inr ⟨tagged, tagged', repository⟩
  · rintro (rfl | ⟨untagged, untagged', repository⟩) signed
    · rfl
    · simp only [RepoDigestOrExact, untagged, untagged', repository]

/-- Remapping accepts what the remapped reference is matched by. -/
theorem remapIdentity_ok {prefix_ signedPrefix signed : Text} {origin : Reference} :
    PolicyReqMatchType.matchesDockerReference oci (.remapIdentity prefix_ signedPrefix) origin signed =
        .ok () ↔
      ∃ reference, oci.tryFrom (remapped prefix_ signedPrefix (oci.whole origin)) = .ok reference ∧
        RepoDigestOrExact oci reference signed := by
  unfold PolicyReqMatchType.matchesDockerReference
  cases parsed : oci.tryFrom (remapped prefix_ signedPrefix (oci.whole origin)) with
  | error error => simp [parsed]
  | ok reference => simp [parsed, repoDigestOrExact_ok parsed]

/-- A prefix that the text does not start with, or ends at a boundary of it, is remapped
as it should be. -/
theorem remapIdentity_matches {prefix_ signedPrefix signed text : Text} {origin : Reference}
    (parsed : oci.tryFrom text = .ok origin)
    (bounded : ∀ rest, oci.whole origin = prefix_ ++ rest → AtBoundary prefix_ (oci.whole origin) rest) :
    PolicyReqMatchType.matchesDockerReference oci (.remapIdentity prefix_ signedPrefix) origin signed =
        .ok () ↔
      Matches oci (.remapIdentity prefix_ signedPrefix) origin signed := by
  rw [remapIdentity_ok]
  unfold Matches RemapsTo
  by_cases starts : ∃ rest, oci.whole origin = prefix_ ++ rest
  · obtain ⟨rest, starts⟩ := starts
    have boundary := bounded rest starts
    rw [remapped_some starts]
    constructor
    · rintro ⟨reference, read, accepted⟩
      exact ⟨reference, .inl ⟨rest, boundary, read⟩, accepted⟩
    · rintro ⟨reference, ⟨rest', boundary', read⟩ | ⟨none_, _⟩, accepted⟩
      · have same : rest' = rest := List.append_cancel_left (boundary'.1.symm.trans starts)
        rw [same] at read
        exact ⟨reference, read, accepted⟩
      · exact absurd boundary (none_ rest)
  · rw [not_exists] at starts
    rw [remapped_none starts, oci.readsWhole text origin parsed]
    constructor
    · rintro ⟨reference, read, accepted⟩
      cases read
      exact ⟨origin, .inr ⟨fun rest boundary => starts rest boundary.1, rfl⟩, accepted⟩
    · rintro ⟨reference, ⟨rest, boundary, _⟩ | ⟨_, rfl⟩, accepted⟩
      · exact absurd boundary.1 (starts rest)
      · exact ⟨reference, rfl, accepted⟩

/-- A prefix that ends within a name is remapped where it should not be. -/
theorem remapIdentity_within {prefix_ signedPrefix rest text : Text} {origin : Reference}
    (parsed : oci.tryFrom text = .ok origin) (starts : oci.whole origin = prefix_ ++ rest)
    (within : ¬ AtBoundary prefix_ (oci.whole origin) rest) :
    (∀ signed, PolicyReqMatchType.matchesDockerReference oci (.remapIdentity prefix_ signedPrefix) origin
          signed = .ok () ↔ Matches oci (.remapIdentity prefix_ signedPrefix) origin signed) ↔
      ∃ remapped, oci.tryFrom (signedPrefix ++ rest) = .ok remapped ∧ SameMatches remapped origin := by
  have unmapped : ∀ signed, Matches oci (.remapIdentity prefix_ signedPrefix) origin signed ↔
      RepoDigestOrExact oci origin signed := by
    intro signed
    constructor
    · rintro ⟨reference, ⟨rest', boundary, _⟩ | ⟨_, rfl⟩, accepted⟩
      · have same : rest' = rest := List.append_cancel_left (boundary.1.symm.trans starts)
        exact absurd (same ▸ boundary) within
      · exact accepted
    · intro accepted
      refine ⟨origin, .inr ⟨?_, rfl⟩, accepted⟩
      intro rest' boundary
      have same : rest' = rest := List.append_cancel_left (boundary.1.symm.trans starts)
      exact within (same ▸ boundary)
  simp only [remapIdentity_ok, remapped_some starts, unmapped]
  cases read : oci.tryFrom (signedPrefix ++ rest) with
  | error error =>
    -- nothing matches any more, though some signature should
    simp only [reduceCtorEq, false_and, exists_false, false_iff, iff_false, not_forall, not_not]
    cases tagged : origin.tag with
    | some tag => exact ⟨oci.whole origin, by simp [RepoDigestOrExact, tagged]⟩
    | none => exact ⟨oci.whole origin, by simpa [RepoDigestOrExact, tagged] using inRepository_whole parsed⟩
  | ok reference =>
    simp only [Except.ok.injEq, exists_eq_left']
    exact sameMatches_iff read parsed

end Matching

section Examples

/-- The text of a reference, tag and digest behind their separators. -/
def Reference.text (reference : Reference) : Text :=
  getImageRepositoryFullName reference ++
    (match reference.tag with
      | some tag => ':' :: tag
      | none => []) ++
    match reference.digest with
      | some digest => '@' :: digest
      | none => []

def tagged (registry repository tag : String) : Reference :=
  ⟨registry.toList, repository.toList, some tag.toList, none⟩

def exampleReferences : List Reference :=
  [tagged "docker.io" "example/x" "1", tagged "quay.io" "evilple/x" "1",
    tagged "docker.io" "example/busybox" "latest", tagged "quay.io" "example/busybox" "latest"]

/-- The texts of these references, which are in full form, and no others. -/
def readExample (text : Text) : Except String Reference :=
  match exampleReferences.find? (·.text == text) with
  | some reference => .ok reference
  | none => .error "invalid reference format"

theorem readExample_ok {text : Text} {reference : Reference} (read : readExample text = .ok reference) :
    reference ∈ exampleReferences := by
  unfold readExample at read
  split at read
  · rename_i found look
    cases read
    exact List.mem_of_find?_eq_some look
  · cases read

/-- A client that knows the example's references. -/
def exampleClient : OciClient where
  tryFrom := readExample
  whole := Reference.text
  tagOrDigest text reference read := by
    have all : ∀ known ∈ exampleReferences, known.tag.isSome ∨ known.digest.isSome := by decide
    exact all reference (readExample_ok read)
  readsWhole text reference read := by
    have all : ∀ known ∈ exampleReferences, readExample known.text = .ok known := by decide
    exact all reference (readExample_ok read)

end Examples

end GuestComponents.Image
