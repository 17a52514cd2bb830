import GuestComponents.Image.PolicyDecision
import GuestComponents.Lib.Base64
import Mathlib.Data.List.AList

/-! `credential_from_auth_config`: the credential for an image, by its name and the namespaces
above it, and then by its registry alone. Keys that are no names of the image may come to its
registry in several ways, and the first of them in the order of the map is taken, so that the
order decides between them (`credential_settled_iff`). -/
namespace GuestComponents.Image.AuthConfig
open Lib Lib.Text

/-- The `auth` of each key. -/
abbrev Auths := AList fun _ : Text => Text

/-- `full_name`. -/
def fullName (reference : Reference) : Text :=
  if reference.registry = [] then reference.repository else reference.registry ++ '/' :: reference.repository

/-- `normalize_registry`. -/
def normalizeRegistry (registry : Text) : Text :=
  if registry = "registry-1.docker.io".toList ∨ registry = "docker.io".toList then
    "index.docker.io".toList
  else registry

/-- `normalize_key_to_registry`. -/
def normalizeKeyToRegistry (key : Text) : Text :=
  let stripped := (key.dropPrefix? "http://".toList).getD key
  let stripped := (key.dropPrefix? "https://".toList).getD stripped
  normalizeRegistry (if stripped ≠ key then ((splitOnce '/' stripped).getD (stripped, [])).1 else stripped)

/-- `str::trim_matches` with a character. -/
def trimMatches (c : Char) (text : Text) : Text := ((text.dropWhile (· = c)).reverse.dropWhile (· = c)).reverse

/-- `decode_auth`. -/
def decodeAuth (auth : Text) : Except String (Text × Text) :=
  match Base64.decode auth with
  | none => .error "Invalid base64"
  | some decoded =>
    match fromUtf8 decoded with
    | none => .error "invalid utf-8 sequence"
    | some auth =>
      match splitOnce ':' auth with
      | none => .error ("Illegal auth content: " ++ String.ofList auth)
      | some parts => .ok (parts.1, trimMatches '\n' parts.2)

/-- `auth_keys_for_key`. -/
def authKeysForKey (key : Text) : List Text :=
  match _found : rsplitOnce '/' key with
  | none => [key]
  | some parts => key :: authKeysForKey parts.1
termination_by key.length
decreasing_by exact rsplitOnce_length _found

def basicAuth (auth : Text) : Except String RegistryAuth := do
  let (username, password) ← decodeAuth auth
  pure (.basic username password)

/-- `credential_from_auth_config`, over a map in the order it is iterated in. -/
def credentialFromAuthConfig (resolveRegistry : Reference → Text) (reference : Reference) (auths : Auths) :
    Except String RegistryAuth :=
  match (authKeysForKey (fullName reference)).findSome? fun key => auths.lookup key with
  | some auth => basicAuth auth
  | none =>
    let imageRegistry := normalizeRegistry (resolveRegistry reference)
    match auths.entries.find? fun entry => normalizeKeyToRegistry entry.1 = imageRegistry with
    | some entry => basicAuth entry.2
    | none => .ok .anonymous

section Specification

/-- The key is the name or a namespace above it. -/
def IsScope (name key : Text) : Prop := name = key ∨ ∃ rest, name = key ++ '/' :: rest

variable (resolveRegistry : Reference → Text) (reference : Reference)

/-- The key stands for the registry of the image. -/
def IsRegistry (key : Text) : Prop := normalizeKeyToRegistry key = normalizeRegistry (resolveRegistry reference)

def Matches (key : Text) : Prop := IsScope (fullName reference) key ∨ IsRegistry resolveRegistry reference key

/-- A namespace is more specific than the namespaces above it, and than a registry. -/
def MoreSpecific (key other : Text) : Prop :=
  IsScope (fullName reference) key ∧ (IsScope (fullName reference) other → other.length < key.length)

/-- The credential of a key that matches and than which none that matches is more specific, or the
anonymous one where none matches. -/
def MostSpecific (auths : Auths) (answer : Option RegistryAuth) : Prop :=
  (∃ key auth, auths.lookup key = some auth ∧ Matches resolveRegistry reference key ∧
    (∀ other ∈ auths, Matches resolveRegistry reference other → ¬ MoreSpecific reference other key) ∧
    answer = (basicAuth auth).toOption) ∨
  (∀ key ∈ auths, ¬ Matches resolveRegistry reference key) ∧ answer = some .anonymous

/-- In whatever order the map is iterated, the answer is the same, and it is that of the most
specific key. -/
def Settled (auths : Auths) : Prop :=
  ∃ answer, MostSpecific resolveRegistry reference auths answer ∧
    ∀ order : Auths, order.entries.Perm auths.entries →
      (credentialFromAuthConfig resolveRegistry reference order).toOption = answer

/-- All keys for the registry have one credential. -/
def OneCredential (auths : Auths) : Prop :=
  ∀ key key' auth auth', IsRegistry resolveRegistry reference key → IsRegistry resolveRegistry reference key' →
    auths.lookup key = some auth → auths.lookup key' = some auth' →
    (basicAuth auth).toOption = (basicAuth auth').toOption

end Specification

section Results

variable {resolveRegistry : Reference → Text} {reference : Reference} {auths order : Auths} {name key : Text}

theorem isScope_parent {parent last : Text} (absent : '/' ∉ last) :
    IsScope (parent ++ '/' :: last) key ↔ key = parent ++ '/' :: last ∨ IsScope parent key := by
  constructor
  · rintro (rfl | ⟨rest, whole⟩)
    · exact Or.inl rfl
    · right
      -- The slash after the key is the last one of the name, or stands before it.
      rcases List.append_eq_append_iff.mp whole with ⟨between, after, before⟩ | ⟨between, after, before⟩
      · cases between with
        | nil =>
          rw [List.append_nil] at after
          exact Or.inl after.symm
        | cons c between =>
          rw [List.cons_append, List.cons.injEq] at before
          rw [before.2] at absent
          simp at absent
      · cases between with
        | nil =>
          rw [List.append_nil] at after
          exact Or.inl after
        | cons c between =>
          rw [List.cons_append, List.cons.injEq] at before
          rw [← before.1] at after
          exact Or.inr ⟨between, after⟩
  · rintro (rfl | rfl | ⟨rest, rfl⟩)
    · exact Or.inl rfl
    · exact Or.inr ⟨last, rfl⟩
    · exact Or.inr ⟨rest ++ '/' :: last, by simp⟩

theorem isScope_single (absent : '/' ∉ name) : IsScope name key ↔ key = name := by
  constructor
  · rintro (rfl | ⟨rest, rfl⟩)
    · rfl
    · simp at absent
  · rintro rfl
    exact Or.inl rfl

/-- The loop lists the name and the namespaces above it, the longest one first. -/
theorem authKeysForKey_spec (name : Text) :
    (∀ key, key ∈ authKeysForKey name ↔ IsScope name key) ∧
      (authKeysForKey name).Pairwise fun longer shorter => shorter.length < longer.length := by
  induction name using authKeysForKey.induct with
  | case1 name single =>
    have absent := rsplitOnce_none single
    rw [authKeysForKey]
    split
    · refine ⟨?_, List.pairwise_singleton _ _⟩
      intro key
      rw [List.mem_singleton, isScope_single absent]
    · rename_i found
      cases single.symm.trans found
  | case2 name parts found ih =>
    obtain ⟨absent, whole⟩ := rsplitOnce_some found
    rw [authKeysForKey]
    split
    · rename_i single
      cases single.symm.trans found
    · rename_i again
      cases found.symm.trans again
      refine ⟨?_, List.pairwise_cons.mpr ⟨?_, ih.2⟩⟩
      · intro key
        rw [List.mem_cons, ih.1 key]
        conv_rhs => rw [whole]
        rw [isScope_parent absent, ← whole]
      · intro key listed
        have shorter := rsplitOnce_length found
        rcases (ih.1 key).mp listed with rfl | ⟨rest, parent⟩
        · exact shorter
        · rw [parent] at shorter
          simp only [List.length_append] at shorter
          omega

theorem lookup_order (perm : order.entries.Perm auths.entries) : order.lookup key = auths.lookup key :=
  AList.perm_lookup perm

theorem mem_of_lookup {auth : Text} (found : auths.lookup key = some auth) : key ∈ auths :=
  AList.lookup_isSome.mp (Option.isSome_of_eq_some found)

/-- The search by name gives the credential of the most specific key. -/
theorem mostSpecific_of_scope {auth : Text}
    (found : (authKeysForKey (fullName reference)).findSome? (fun key => auths.lookup key) = some auth) :
    MostSpecific resolveRegistry reference auths (basicAuth auth).toOption := by
  obtain ⟨scopes, sorted⟩ := authKeysForKey_spec (fullName reference)
  obtain ⟨before, key, after, whole, passed, given⟩ := findSome_firstOf.mp found
  have scope : IsScope (fullName reference) key := (scopes key).mp (by simp [whole])
  refine Or.inl ⟨key, auth, given, Or.inl scope, ?_, rfl⟩
  rintro other there _ ⟨isScope, longer⟩
  have longer := longer scope
  have listed := (scopes other).mpr isScope
  rw [whole] at listed sorted
  rcases List.mem_append.mp listed with earlier | later
  · exact AList.lookup_eq_none.mp (passed other earlier) there
  · rcases List.mem_cons.mp later with rfl | later
    · exact Nat.lt_irrefl _ longer
    · have shorter := List.rel_of_pairwise_cons (List.pairwise_append.mp sorted).2.1 later
      omega

theorem no_scope (missing : (authKeysForKey (fullName reference)).findSome? (fun key => auths.lookup key) = none)
    (there : key ∈ auths) : ¬ IsScope (fullName reference) key := by
  intro scope
  have listed := (authKeysForKey_spec (fullName reference)).1 key |>.mpr scope
  exact AList.lookup_eq_none.mp (List.findSome?_eq_none_iff.mp missing key listed) there

/-- Where no key is the name or above it, a key for the registry is as specific as any. -/
theorem mostSpecific_of_registry {auth : Text} (scopeless : ∀ key ∈ auths, ¬ IsScope (fullName reference) key)
    (found : auths.lookup key = some auth) (registry : IsRegistry resolveRegistry reference key) :
    MostSpecific resolveRegistry reference auths (basicAuth auth).toOption :=
  Or.inl ⟨key, auth, found, Or.inr registry, fun other there _ more => scopeless other there more.1, rfl⟩

theorem nodupKeys_of_perm {entries : List ((_ : Text) × Text)} (perm : entries.Perm auths.entries) :
    entries.NodupKeys :=
  (List.perm_nodupKeys perm).mpr auths.nodupKeys

/-- There is an order in which the map is iterated from this key on. -/
theorem exists_order {auth : Text} (found : auths.lookup key = some auth) :
    ∃ order : Auths, order.entries.Perm auths.entries ∧ order.entries.head? = some ⟨key, auth⟩ := by
  obtain ⟨before, after, whole⟩ := List.append_of_mem (AList.mem_lookup_iff.mp found)
  have perm : (⟨key, auth⟩ :: (before ++ after) : List ((_ : Text) × Text)).Perm auths.entries := by
    rw [whole]
    exact List.perm_middle.symm
  exact ⟨⟨_, nodupKeys_of_perm perm⟩, perm, rfl⟩

theorem credential_of_scope {auth : Text}
    (found : (authKeysForKey (fullName reference)).findSome? (fun key => auths.lookup key) = some auth) :
    credentialFromAuthConfig resolveRegistry reference auths = basicAuth auth := by
  rw [credentialFromAuthConfig, found]

theorem credential_of_registry
    (missing : (authKeysForKey (fullName reference)).findSome? (fun key => auths.lookup key) = none) :
    credentialFromAuthConfig resolveRegistry reference auths =
      match auths.entries.find? fun entry =>
        normalizeKeyToRegistry entry.1 = normalizeRegistry (resolveRegistry reference) with
      | some entry => basicAuth entry.2
      | none => .ok .anonymous := by
  rw [credentialFromAuthConfig, missing]

theorem scopes_order (perm : order.entries.Perm auths.entries) :
    (authKeysForKey (fullName reference)).findSome? (fun key => order.lookup key) =
      (authKeysForKey (fullName reference)).findSome? fun key => auths.lookup key := by
  have same : (fun key => order.lookup key) = fun key => auths.lookup key := funext fun _ => lookup_order perm
  rw [same]

/-- The credential is settled by the map exactly when the map has the name of the image or a
namespace above it, or has one credential for its registry. -/
theorem credential_settled_iff (resolveRegistry : Reference → Text) (reference : Reference) (auths : Auths) :
    Settled resolveRegistry reference auths ↔
      (∃ key ∈ auths, IsScope (fullName reference) key) ∨ OneCredential resolveRegistry reference auths := by
  constructor
  · rintro ⟨answer, _, same⟩
    by_cases scope : ∃ key ∈ auths, IsScope (fullName reference) key
    · exact Or.inl scope
    · right
      have missing : (authKeysForKey (fullName reference)).findSome? (fun key => auths.lookup key) = none := by
        rw [List.findSome?_eq_none_iff]
        intro key listed
        rw [AList.lookup_eq_none]
        intro there
        exact scope ⟨key, there, ((authKeysForKey_spec _).1 key).mp listed⟩
      have answers : ∀ key auth, IsRegistry resolveRegistry reference key → auths.lookup key = some auth →
          (basicAuth auth).toOption = answer := by
        intro key auth registry found
        obtain ⟨order, perm, first⟩ := exists_order found
        rw [← same order perm, credential_of_registry ((scopes_order perm).trans missing)]
        obtain ⟨rest, whole⟩ := List.head?_eq_some_iff.mp first
        have at_head : (order.entries.find? fun entry =>
            normalizeKeyToRegistry entry.1 = normalizeRegistry (resolveRegistry reference)) = some ⟨key, auth⟩ := by
          rw [whole, List.find?_cons]
          simp only [show normalizeKeyToRegistry key = _ from registry, decide_true]
        rw [at_head]
      intro key key' auth auth' registry registry' found found'
      exact (answers key auth registry found).trans (answers key' auth' registry' found').symm
  · intro condition
    cases scopes : (authKeysForKey (fullName reference)).findSome? fun key => auths.lookup key with
    | some auth =>
      refine ⟨_, mostSpecific_of_scope scopes, ?_⟩
      intro order perm
      rw [credential_of_scope ((scopes_order perm).trans scopes)]
    | none =>
      have scopeless : ∀ key ∈ auths, ¬ IsScope (fullName reference) key := fun key there => no_scope scopes there
      have one : OneCredential resolveRegistry reference auths := by
        rcases condition with ⟨key, there, scope⟩ | one
        · exact (scopeless key there scope).elim
        · exact one
      by_cases some_ : ∃ key ∈ auths, IsRegistry resolveRegistry reference key
      · obtain ⟨key, there, registry⟩ := some_
        obtain ⟨auth, found⟩ := Option.isSome_iff_exists.mp (AList.lookup_isSome.mpr there)
        refine ⟨_, mostSpecific_of_registry scopeless found registry, ?_⟩
        intro order perm
        rw [credential_of_registry ((scopes_order perm).trans scopes)]
        cases first : order.entries.find? fun entry =>
            normalizeKeyToRegistry entry.1 = normalizeRegistry (resolveRegistry reference) with
        | none =>
          have listed : (⟨key, auth⟩ : (_ : Text) × Text) ∈ order.entries :=
            perm.mem_iff.mpr (AList.mem_lookup_iff.mp found)
          exact absurd registry (by simpa [IsRegistry] using List.find?_eq_none.mp first _ listed)
        | some entry =>
          have registry' : IsRegistry resolveRegistry reference entry.1 := by
            simpa [IsRegistry] using List.find?_some first
          have found' : auths.lookup entry.1 = some entry.2 :=
            AList.mem_lookup_iff.mpr (perm.mem_iff.mp (List.mem_of_find?_eq_some first))
          exact one entry.1 key entry.2 auth registry' registry found' found
      · refine ⟨some .anonymous, Or.inr ⟨?_, rfl⟩, ?_⟩
        · rintro key there (scope | registry)
          · exact scopeless key there scope
          · exact some_ ⟨key, there, registry⟩
        · intro order perm
          rw [credential_of_registry ((scopes_order perm).trans scopes)]
          have none_ : order.entries.find? (fun entry =>
              normalizeKeyToRegistry entry.1 = normalizeRegistry (resolveRegistry reference)) = none := by
            rw [List.find?_eq_none]
            intro entry listed
            have there : entry.1 ∈ auths :=
              mem_of_lookup (AList.mem_lookup_iff.mpr (perm.mem_iff.mp listed))
            simpa [IsRegistry] using fun registry => some_ ⟨entry.1, there, registry⟩
          rw [none_]
          rfl

/-- The registry of a reference, where no mirror is given. -/
def exampleResolve (reference : Reference) : Text :=
  if reference.registry = "docker.io".toList then "index.docker.io".toList else reference.registry

def exampleReference : Reference := ⟨"quay.io".toList, "app".toList, none, none⟩

/-- A registry under two schemes, with the credentials `a:x` and `b:y`. -/
def twoSchemes : Auths :=
  AList.insert "https://quay.io".toList "YTp4".toList (AList.insert "http://quay.io/v2".toList "Yjp5".toList ∅)

def twoSchemesReversed : Auths :=
  AList.insert "http://quay.io/v2".toList "Yjp5".toList (AList.insert "https://quay.io".toList "YTp4".toList ∅)

/-- Which of the two credentials is given depends on the order. -/
theorem schemes_collide : ¬ Settled exampleResolve exampleReference twoSchemes := by
  rintro ⟨answer, _, same⟩
  have perm : twoSchemesReversed.entries.Perm twoSchemes.entries := by decide +kernel
  have one := same twoSchemes (List.Perm.refl _)
  have other := same twoSchemesReversed perm
  have different : (credentialFromAuthConfig exampleResolve exampleReference twoSchemes).toOption ≠
      (credentialFromAuthConfig exampleResolve exampleReference twoSchemesReversed).toOption := by
    decide +kernel
  exact different (one.trans other.symm)

end Results

end GuestComponents.Image.AuthConfig
