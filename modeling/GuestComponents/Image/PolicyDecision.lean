import GuestComponents.Image.Policy
import GuestComponents.Lib.Outcome
import GuestComponents.Lib.Search
import Mathlib.Data.List.Infix

/-! What the policy decides about an image. The scopes that may cover an image stand in
one order, from its full reference to the default of its transport, and the first of
them that the policy has settles it: an image is allowed when that scope lists
requirements and the image meets each of them (`signature_check_iff`). -/
namespace GuestComponents.Image
open Lib Lib.Text

section Specification

/-- A name and its parents: the slash-separated segments, with fewer and fewer of them at
the end. -/
def namespacesOf (name : Text) : List Text :=
  (name.splitOn '/').inits.tail.reverse.map (['/'].intercalate ·)

/-- The host of a name, without its port. -/
def hostOf (name : Text) : Text := stripPort ((name.splitOn '/').headD [])

/-- The wildcards for a host's domains, the host's own left out. -/
def wildcardsOf (host : Text) : List Text :=
  (host.splitOn '.').tails.tail.dropLast.map fun domain => '*' :: '.' :: ['.'].intercalate domain

/-- The scopes that cover an image, the most specific one first. -/
def scopesOf (oci : OciClient) (reference : Reference) : List Text :=
  let name := getImageRepositoryFullName reference
  oci.whole reference :: (namespacesOf name ++ (wildcardsOf (hostOf name) ++ [[]]))

/-- The requirements of the most specific scope that the policy has for the image. -/
inductive Selects (oci : OciClient) (policy : Policy) (image : SignedImage) : List PolicyReqType → Prop where
  | scope (transport : policy.transports image.transportName = some scopes)
      (most : FirstOf (fun scope => scopes scope = none) (fun scope => scopes scope = some reqs)
        (scopesOf oci image.reference)) : Selects oci policy image reqs
  | default (absent : ∀ scopes, policy.transports image.transportName = some scopes →
      ∀ scope ∈ scopesOf oci image.reference, scopes scope = none) : Selects oci policy image policy.default

/-- The image meets a requirement. -/
def Accepts (verifier : Verifier) (image : SignedImage) (auth : RegistryAuth) : PolicyReqType → Prop
  | .accept => True
  | .reject => False
  | .simpleSigning inner => verifier.simpleSigningAllowsImage inner image auth = .ok ()
  | .cosign inner => verifier.cosignAllowsImage inner image auth = .ok ()

end Specification

theorem rsplitOnce_some {separator : Char} {text : Text} {parts : Text × Text}
    (found : rsplitOnce separator text = some parts) :
    separator ∉ parts.2 ∧ text = parts.1 ++ separator :: parts.2 := by
  obtain ⟨inner, within, rfl⟩ := Option.map_eq_some_iff.mp found
  obtain ⟨absent, whole⟩ := splitOnce_some within
  have forward := congrArg List.reverse whole
  constructor
  · simpa using absent
  · simpa using forward

theorem rsplitOnce_none {separator : Char} {text : Text} (missing : rsplitOnce separator text = none) :
    separator ∉ text := by
  have absent := splitOnce_none (Option.map_eq_none_iff.mp missing)
  simpa using absent

/-- The last segment is taken off a name in the order the segments stand in. -/
theorem namespacesOf_append {parent last : Text} (absent : '/' ∉ last) :
    namespacesOf (parent ++ '/' :: last) = (parent ++ '/' :: last) :: namespacesOf parent := by
  have segments : (parent ++ '/' :: last).splitOn '/' = parent.splitOn '/' ++ [last] := by
    rw [List.splitOn_append_cons_self, List.splitOn_eq_singleton absent]
  have joined : ['/'].intercalate (parent.splitOn '/' ++ [last]) = parent ++ '/' :: last := by
    rw [← segments, List.intercalate_splitOn]
  have inits : (parent.splitOn '/' ++ [last]).inits.tail =
      (parent.splitOn '/').inits.tail ++ [parent.splitOn '/' ++ [last]] := by
    rw [List.inits_append]
    cases parent.splitOn '/' <;> simp
  unfold namespacesOf
  rw [segments, inits, List.reverse_append, List.reverse_singleton, List.singleton_append,
    List.map_cons, joined]

theorem namespacesOf_single {name : Text} (absent : '/' ∉ name) : namespacesOf name = [name] := by
  simp [namespacesOf, List.splitOn_eq_singleton absent]

/-- The loop over the parents lists the namespaces and ends at the host. -/
theorem parentNames_eq (name : Text) :
    parentNames name = (namespacesOf name, (name.splitOn '/').headD []) := by
  induction name using parentNames.induct with
  | case1 name single =>
    have absent := rsplitOnce_none single
    rw [namespacesOf_single absent, List.splitOn_eq_singleton absent, parentNames]
    split
    · rfl
    · rename_i found
      cases single.symm.trans found
  | case2 name parts found ih =>
    obtain ⟨absent, whole⟩ := rsplitOnce_some found
    have listed : namespacesOf name = name :: namespacesOf parts.1 := by
      rw [whole, namespacesOf_append absent]
    have host : (name.splitOn '/').headD [] = (parts.1.splitOn '/').headD [] := by
      rw [whole, List.splitOn_append_cons_self]
      cases segments : parts.1.splitOn '/' with
      | nil => exact absurd segments (List.splitOn_ne_nil _ _)
      | cons first others => rfl
    rw [parentNames]
    split
    · rename_i single
      cases single.symm.trans found
    · rename_i again
      cases found.symm.trans again
      rw [ih, listed, host]

/-- The first label is taken off a host in the order the labels stand in. -/
theorem wildcardsOf_append {first domain : Text} (absent : '.' ∉ first) :
    wildcardsOf (first ++ '.' :: domain) = ('*' :: '.' :: domain) :: wildcardsOf domain := by
  unfold wildcardsOf
  rw [List.splitOn_append_cons_self_of_not_mem absent]
  cases labels : domain.splitOn '.' with
  | nil => exact absurd labels (List.splitOn_ne_nil _ _)
  | cons label others =>
    have joined : ['.'].intercalate (label :: others) = domain := by
      rw [← labels, List.intercalate_splitOn]
    cases others <;> simp [joined]

theorem wildcardNames_eq (host : Text) : wildcardNames host = wildcardsOf host := by
  induction host using wildcardNames.induct with
  | case1 host single =>
    have absent := splitOnce_none single
    rw [wildcardNames]
    split
    · simp [wildcardsOf, List.splitOn_eq_singleton absent]
    · rename_i found
      cases single.symm.trans found
  | case2 host parts found ih =>
    obtain ⟨absent, whole⟩ := splitOnce_some found
    rw [wildcardNames]
    split
    · rename_i single
      cases single.symm.trans found
    · rename_i again
      cases found.symm.trans again
      rw [ih]
      conv_rhs => rw [whole, wildcardsOf_append absent]

/-- The search of the code goes through the scopes in their order. -/
theorem getImageNamespaces_eq (reference : Reference) :
    getImageNamespaces reference = namespacesOf (getImageRepositoryFullName reference) ++
      wildcardsOf (hostOf (getImageRepositoryFullName reference)) := by
  rw [getImageNamespaces, parentNames_eq, wildcardNames_eq, hostOf]

example : getImageNamespaces ⟨"test.example.com:5000".toList, "library/busybox".toList, none, none⟩ =
    ["test.example.com:5000/library/busybox".toList, "test.example.com:5000/library".toList,
      "test.example.com:5000".toList, "*.example.com".toList, "*.com".toList] := by
  rw [getImageNamespaces_eq]
  decide

section Decision

variable (oci : OciClient)

/-- The lookups, one after the other, are one search through the scopes. -/
theorem requirementsForImage_eq (policy : Policy) (image : SignedImage) :
    policy.requirementsForImage oci image =
      match policy.transports image.transportName with
      | none => policy.default
      | some scopes => ((scopesOf oci image.reference).findSome? scopes).getD policy.default := by
  unfold Policy.requirementsForImage
  cases policy.transports image.transportName with
  | none => rfl
  | some scopes =>
    simp only [getImageNamespaces_eq, scopesOf, List.findSome?_cons, ← List.append_assoc]
    cases scopes (oci.whole image.reference) with
    | some reqs => rfl
    | none =>
      simp only [List.findSome?_append]
      split
      · rename_i reqs found
        simp [found]
      · rename_i missing
        simp [missing]
        cases scopes [] <;> rfl

/-- The requirements that the code takes are those of the most specific scope. -/
theorem selects_iff {policy : Policy} {image : SignedImage} {reqs : List PolicyReqType} :
    Selects oci policy image reqs ↔ policy.requirementsForImage oci image = reqs := by
  rw [requirementsForImage_eq]
  constructor
  · rintro (⟨transport, most⟩ | absent)
    · simp [transport, findSome_firstOf.mpr most]
    · cases transport : policy.transports image.transportName with
      | none => rfl
      | some scopes => simp [List.findSome?_eq_none_iff.mpr (absent scopes transport)]
  · rintro rfl
    cases transport : policy.transports image.transportName with
    | none => exact .default fun scopes present => by cases transport.symm.trans present
    | some scopes =>
      cases search : (scopesOf oci image.reference).findSome? scopes with
      | some reqs =>
        simp only [search, Option.getD_some]
        exact .scope transport (findSome_firstOf.mp search)
      | none =>
        simp only [search, Option.getD_none]
        refine .default fun others present scope listed => ?_
        cases transport.symm.trans present
        exact List.findSome?_eq_none_iff.mp search scope listed

theorem accepts_iff {verifier : Verifier} {image : SignedImage} {auth : RegistryAuth} {req : PolicyReqType} :
    Accepts verifier image auth req ↔ checkImageRequirement verifier req image auth = .ok () := by
  cases req with
  | accept => simp [Accepts, checkImageRequirement]
  | reject => simp [Accepts, checkImageRequirement]
  | simpleSigning inner => rfl
  | cosign inner => rfl

/-- An image is allowed when its reference and digest can be read and the requirements
of the most specific scope for it are some and are all met. -/
theorem signature_check_iff (validator : SignatureValidator) (verifier : Verifier)
    (imageReference imageDigest : Text) (auth : RegistryAuth) :
    validator.checkImageSignature oci verifier imageReference imageDigest auth = .ok () ↔
      ∃ image : SignedImage, oci.tryFrom imageReference = .ok image.reference ∧
        Digest.tryFrom imageDigest = .ok image.manifestDigest ∧
        ∃ reqs, Selects oci validator.policy image reqs ∧ reqs ≠ [] ∧
          ∀ req ∈ reqs, Accepts verifier image auth req := by
  unfold SignatureValidator.checkImageSignature
  simp only [bind_ok]
  constructor
  · rintro ⟨reference, named, manifestDigest, read, checked⟩
    refine ⟨⟨reference, manifestDigest⟩, named, read, _, (selects_iff oci).mpr rfl, ?_⟩
    split at checked
    · cases checked
    · rename_i nonempty
      refine ⟨by simpa using nonempty, fun req listed => ?_⟩
      exact accepts_iff.mpr (forM_ok.mp checked req listed)
  · rintro ⟨⟨reference, manifestDigest⟩, named, read, reqs, selected, nonempty, met⟩
    refine ⟨reference, named, manifestDigest, read, ?_⟩
    rw [(selects_iff oci).mp selected, if_neg (by simpa using nonempty)]
    exact forM_ok.mpr fun req listed => accepts_iff.mp (met req listed)

end Decision

end GuestComponents.Image
