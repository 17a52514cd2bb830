import GuestComponents.Lib.Search
import GuestComponents.Ocicrypt.Encryption

/-! Which alternative unwraps a layer's private options. There are three searches,
over the wrappers, over the entries of an annotation and over the private keys, and
each ends at the first alternative that it does not pass over, be it one that opens
or one that is malformed. `unwraps_iff` says so for the three together, and
`every_alternative_tried` when that is the same as trying every alternative. -/
namespace GuestComponents.Ocicrypt
open Lib Lib.Text

variable (backends : Backends)

/-- A private key that loads and decrypts the text. -/
def KeyOpens (text : Text) (data : Bytes) (privkey : Bytes) : Prop :=
  ∃ key, decrypter backends.jose privkey = .ok key ∧ backends.jose.deserializeJson text key = .ok data

/-- A private key that loads and does not decrypt the text. -/
def KeyFails (text : Text) (privkey : Bytes) : Prop :=
  ∃ key error, decrypter backends.jose privkey = .ok key ∧
    backends.jose.deserializeJson text key = .error error

namespace Registered

/-- The annotations that are this wrapper's: key providers share theirs. -/
def owns (w : Registered) (id : Text) : Bool :=
  match w with
  | jwe => id == "org.opencontainers.image.enc.keys.jwe".toList
  | provider _ => isProvider id

/-- The parameters are there that the wrapper needs. -/
def HasParameters (w : Registered) (dc : DecryptConfig) : Prop :=
  match w with
  | jwe => (dc.param.lookup "privkeys".toList).isSome
  | provider _ => True

/-- A service opens the annotation, for the key provider. -/
def ServiceOpens (attrs : KeyProvider) (dc : DecryptConfig) (envelope data : Bytes) : Prop :=
  ∃ text transport, fromUtf8 envelope = some text ∧
    KeyProvider.unwrapTransport attrs.attrs = .ok transport ∧
      backends.services.keyunwrap transport dc text = .ok (some data)

/-- Some configured key opens the annotation. -/
def Opens (w : Registered) (dc : DecryptConfig) (envelope data : Bytes) : Prop :=
  match w with
  | jwe => ∃ text privkeys, fromUtf8 envelope = some text ∧
      dc.param.lookup "privkeys".toList = some privkeys ∧
        ∃ privkey ∈ privkeys, KeyOpens backends text data privkey
  | provider attrs => ServiceOpens backends attrs dc envelope data

/-- The first configured key that does not merely fail on the annotation opens it. -/
def OpensFirst (w : Registered) (dc : DecryptConfig) (envelope data : Bytes) : Prop :=
  match w with
  | jwe => ∃ text privkeys, fromUtf8 envelope = some text ∧
      dc.param.lookup "privkeys".toList = some privkeys ∧
        FirstOf (KeyFails backends text) (KeyOpens backends text data) privkeys
  | provider attrs => ServiceOpens backends attrs dc envelope data

/-- The first annotation of the wrapper's own, in the order of their names. -/
def reads (w : Registered) (annotations : Annotations) : Option Text :=
  (annotations.entries.find? fun entry => w.owns entry.1).map (·.2)

/-- A well-formed entry that the wrapper opens. -/
def EntryOpens (w : Registered) (dc : DecryptConfig) (data : Bytes) (entry : Text) : Prop :=
  ∃ envelope, Base64.decode entry = some envelope ∧ w.OpensFirst backends dc envelope data

/-- A well-formed entry that the wrapper does not open. -/
def EntryFails (w : Registered) (dc : DecryptConfig) (entry : Text) : Prop :=
  ∃ envelope, Base64.decode entry = some envelope ∧
    ∀ data, ¬ w.OpensFirst backends dc envelope data

/-- The first entry that is malformed or opens is one that opens. -/
def TextOpens (w : Registered) (dc : DecryptConfig) (data : Bytes) (text : Text) : Prop :=
  text ≠ [] ∧ FirstOf (w.EntryFails backends dc) (w.EntryOpens backends dc data) (split ',' text)

/-- The wrapper has parameters and an annotation, and that opens. -/
def Unwraps (dc : DecryptConfig) (annotations : Annotations) (data : Bytes) (w : Registered) : Prop :=
  w.HasParameters dc ∧ ∃ text, w.reads annotations = some text ∧ w.TextOpens backends dc data text

/-- The wrapper has no annotation or no parameters, or it unwraps nothing but nothing. -/
def PassedOver (dc : DecryptConfig) (annotations : Annotations) (w : Registered) : Prop :=
  w.reads annotations = none ∨ ¬ w.HasParameters dc ∨ w.Unwraps backends dc annotations []

end Registered

open Registered

/-- The first wrapper that is not passed over unwraps options. -/
def FirstUnwraps (wrappers : List Registered) (dc : DecryptConfig) (annotations : Annotations)
    (data : Bytes) : Prop :=
  data ≠ [] ∧ FirstOf (PassedOver backends dc annotations) (Unwraps backends dc annotations data) wrappers

/-- Some wrapper has its parameters, and some entry of some annotation of its own is
opened by some configured key. -/
def SomeUnwraps (wrappers : List Registered) (dc : DecryptConfig) (annotations : Annotations) : Prop :=
  ∃ w ∈ wrappers, w.HasParameters dc ∧ ∃ id text, (id, text) ∈ annotations.entries ∧ w.owns id = true ∧
    ∃ entry ∈ split ',' text, ∃ envelope data, Base64.decode entry = some envelope ∧
      w.Opens backends dc envelope data

variable {backends}

theorem jweUnwrap_ok {text : Text} {privkeys : List Bytes} {data : Bytes} :
    jweUnwrap backends.jose text privkeys = .ok data ↔
      FirstOf (KeyFails backends text) (KeyOpens backends text data) privkeys := by
  induction privkeys with
  | nil => simp [jweUnwrap]
  | cons privkey privkeys ih =>
    rw [jweUnwrap, firstOf_cons, ← ih]
    simp only [KeyOpens, KeyFails]
    cases loaded : decrypter backends.jose privkey with
    | error error => simp
    | ok key => cases opened : backends.jose.deserializeJson text key <;> simp [opened]

theorem replied_ok {answer : Except String (Option Bytes)} {data : Bytes} :
    replied answer = .ok data ↔ answer = .ok (some data) := by
  rcases answer with error | (_ | bytes) <;> simp [replied]

/-- What the trait's method unwraps, for both implementors. -/
theorem unwrapKeys_ok {w : Registered} {dc : DecryptConfig} {envelope data : Bytes} :
    (w.keyWrapper backends).unwrapKeys dc envelope = .ok data ↔
      w.OpensFirst backends dc envelope data := by
  cases w with
  | jwe =>
    simp only [keyWrapper, jweKeyWrapper, OpensFirst]
    cases fromUtf8 envelope with
    | none => simp
    | some text =>
      cases dc.param.lookup "privkeys".toList with
      | none => simp
      | some privkeys => simp [jweUnwrap_ok]
  | provider attrs =>
    simp only [keyWrapper, keyProviderKeyWrapper, OpensFirst, ServiceOpens]
    cases fromUtf8 envelope with
    | none => simp
    | some text =>
      cases KeyProvider.unwrapTransport attrs.attrs with
      | error error => simp
      | ok transport => simp [replied_ok]

theorem unwrapParts_ok {w : Registered} {dc : DecryptConfig} {entries : List Text} {data : Bytes}
    (errs : String) :
    unwrapParts (w.keyWrapper backends) dc entries errs = .ok data ↔
      FirstOf (w.EntryFails backends dc) (w.EntryOpens backends dc data) entries := by
  induction entries generalizing errs with
  | nil => simp [unwrapParts]
  | cons entry entries ih =>
    rw [unwrapParts, firstOf_cons]
    simp only [EntryOpens, EntryFails, ← unwrapKeys_ok]
    cases Base64.decode entry with
    | none => simp
    | some envelope =>
      cases opened : (w.keyWrapper backends).unwrapKeys dc envelope with
      | error error => simp [opened, ih]
      | ok optsData => simp [opened]

theorem preUnwrapKey_ok {w : Registered} {dc : DecryptConfig} {text : Text} {data : Bytes} :
    preUnwrapKey (w.keyWrapper backends) dc text = .ok data ↔ w.TextOpens backends dc data text := by
  unfold preUnwrapKey TextOpens
  split
  · rename_i empty
    simp [empty]
  · rename_i some_
    rw [unwrapParts_ok]
    simp [some_]

theorem getLayerKeyOpts_keyWrapper (w : Registered) (annotations : Annotations) :
    getLayerKeyOpts (w.keyWrapper backends).annotationId annotations = w.reads annotations := by
  cases w with
  | jwe =>
    have own : isProvider "org.opencontainers.image.enc.keys.jwe".toList = false := by decide
    have elsewhere : ¬ isProvider (jwe.keyWrapper backends).annotationId = true :=
      Bool.eq_false_iff.mp own
    unfold getLayerKeyOpts
    rw [if_neg elsewhere]
    exact (SortedMap.find?_key annotations fun id => beq_iff_eq).symm
  | provider attrs =>
    have own : isProvider ((provider attrs).keyWrapper backends).annotationId = true :=
      List.isPrefixOf_iff_prefix.mpr (List.prefix_append _ _)
    unfold getLayerKeyOpts
    rw [if_pos own]
    rfl

theorem probe_keyWrapper (w : Registered) (dc : DecryptConfig) :
    (w.keyWrapper backends).probe dc.param = true ↔ w.HasParameters dc := by
  cases w <;> simp [keyWrapper, jweKeyWrapper, keyProviderKeyWrapper, HasParameters]

theorem unwrapWith_ok {dc : DecryptConfig} {annotations : Annotations} {wrappers : List Registered}
    {data : Bytes} (privKeyGiven : Bool) :
    unwrapWith dc annotations (wrappers.map (·.keyWrapper backends)) privKeyGiven = .ok data ↔
      FirstUnwraps backends wrappers dc annotations data := by
  unfold FirstUnwraps
  induction wrappers generalizing privKeyGiven with
  | nil => cases privKeyGiven <;> simp [unwrapWith]
  | cons w wrappers ih =>
    rw [List.map_cons, unwrapWith, getLayerKeyOpts_keyWrapper, firstOf_cons]
    simp only [Unwraps, PassedOver]
    cases read : w.reads annotations with
    | none => simp [ih]
    | some text =>
      by_cases parameters : w.HasParameters dc
      · have probed := (@probe_keyWrapper backends w dc).mpr parameters
        simp only [probed, parameters]
        cases unwrapped : preUnwrapKey (w.keyWrapper backends) dc text with
        | error error =>
          have fails : ∀ found, ¬ w.TextOpens backends dc found text := by
            intro found opens
            rw [preUnwrapKey_ok.mpr opens] at unwrapped
            cases unwrapped
          simp [fails]
        | ok optsData =>
          have opens : ∀ found, w.TextOpens backends dc found text ↔ found = optsData := by
            intro found
            rw [← preUnwrapKey_ok, unwrapped]
            simp [eq_comm]
          by_cases empty : optsData = []
          · -- options of no bytes count for nothing
            simp [opens, ih, empty]
            intro some_ none_
            exact absurd none_ some_
          · simp [opens, empty]
            constructor
            · rintro rfl
              exact ⟨empty, rfl⟩
            · rintro ⟨_, rfl⟩
              rfl
      · have unprobed : (w.keyWrapper backends).probe dc.param = false := by
          rw [← Bool.not_eq_true, probe_keyWrapper]
          exact parameters
        simp [unprobed, parameters, ih]

/-- What the first key opens, some key opens. -/
theorem opens_of_opensFirst {w : Registered} {dc : DecryptConfig} {envelope data : Bytes}
    (opens : w.OpensFirst backends dc envelope data) : w.Opens backends dc envelope data := by
  cases w with
  | jwe =>
    obtain ⟨text, privkeys, utf8, configured, first⟩ := opens
    exact ⟨text, privkeys, utf8, configured, first.exists⟩
  | provider attrs => exact opens

/-- What is read is an annotation of the wrapper's own. -/
theorem reads_some {w : Registered} {annotations : Annotations} {text : Text}
    (read : w.reads annotations = some text) :
    ∃ id, (id, text) ∈ annotations.entries ∧ w.owns id = true := by
  obtain ⟨entry, found, rfl⟩ := Option.map_eq_some_iff.mp read
  have own := List.find?_some found
  exact ⟨entry.1, List.mem_of_find?_eq_some found, own⟩

theorem FirstUnwraps.some {wrappers : List Registered} {dc : DecryptConfig}
    {annotations : Annotations} {data : Bytes}
    (first : FirstUnwraps backends wrappers dc annotations data) :
    SomeUnwraps backends wrappers dc annotations := by
  obtain ⟨w, member, parameters, text, read, _, entries⟩ := first.2.exists
  obtain ⟨id, stored, own⟩ := reads_some read
  obtain ⟨entry, among, envelope, decoded, opens⟩ := entries.exists
  exact ⟨w, member, parameters, id, text, stored, own, entry, among, envelope, data, decoded,
    opens_of_opensFirst opens⟩

/-- Unwrapping succeeds when the first wrapper that is not passed over unwraps. -/
theorem unwraps_iff {wrappers : List Registered} {dc : DecryptConfig}
    {annotations : Option Annotations} {data : Bytes} :
    decryptLayerKeyOptsData (wrappers.map (·.keyWrapper backends)) dc annotations = .ok data ↔
      FirstUnwraps backends wrappers dc (annotations.getD .empty) data :=
  unwrapWith_ok false

/-- Unwrapping succeeds exactly when some alternative opens, if and only if, should
one open, it is not hidden: what the searches meet before they are through is
passed over, and the first that is not opens. -/
theorem every_alternative_tried (backends : Backends) (registry : Registry) (dc : DecryptConfig)
    (annotations : Option Annotations) :
    ((∃ data, decryptLayerKeyOptsData (registry.wrappers.map (·.keyWrapper backends)) dc annotations =
        .ok data) ↔
      SomeUnwraps backends registry.wrappers dc (annotations.getD .empty)) ↔
    (SomeUnwraps backends registry.wrappers dc (annotations.getD .empty) →
      ∃ data, FirstUnwraps backends registry.wrappers dc (annotations.getD .empty) data) := by
  simp only [unwraps_iff]
  constructor
  · intro tried opens
    exact tried.mpr opens
  · intro unhidden
    constructor
    · rintro ⟨data, first⟩
      exact first.some
    · exact unhidden

/-- A key provider that only puts a mark before the options, next to a JOSE that is
given no keys. -/
def enclosingBackends : Backends where
  jose :=
    { detect := fun _ => none
      encrypterFrom := fun _ => .error "no key"
      decrypterFrom := fun _ => .error "no key"
      serializeGeneralJson := fun _ _ => .error "no recipient"
      deserializeJson := fun _ _ => .error "no recipient" }
  services :=
    { keywrap := fun _ _ text => .ok (some (utf8 ('#' :: text)))
      keyunwrap := fun _ _ text =>
        match text with
        | '#' :: rest => .ok (some (utf8 rest))
        | _ => .error "not wrapped here" }

/-- A key provider that is reached over gRPC. -/
def grpcProvider : KeyProvider :=
  ⟨"attestation-agent".toList, ⟨none, some "http://127.0.0.1:50000".toList, none, none⟩⟩

def grpcProviderId : Text := providerPrefix ++ grpcProvider.provider

def providerRegistry : Registry := ⟨[.provider grpcProvider], by decide⟩

/-- An entry that is no base64 hides the one after it, which opens. -/
theorem malformed_entry_hides :
    let annotations : Annotations := SortedMap.empty.insert grpcProviderId "!,I3t9".toList
    SomeUnwraps enclosingBackends providerRegistry.wrappers ⟨[]⟩ annotations ∧
      decryptLayerKeyOptsData (providerRegistry.wrappers.map (·.keyWrapper enclosingBackends)) ⟨[]⟩
        (some annotations) = .error "invalid base64" := by
  constructor
  · refine ⟨.provider grpcProvider, by simp [providerRegistry], trivial, grpcProviderId,
      "!,I3t9".toList, by simp [SortedMap.insert, SortedMap.insertEntry, SortedMap.empty], by decide,
      "I3t9".toList, by decide, utf8 "#\x7b\x7d".toList, utf8 "\x7b\x7d".toList, by decide, "#\x7b\x7d".toList,
      .grpc "http://127.0.0.1:50000".toList, by decide, rfl, rfl⟩
  · rfl

end GuestComponents.Ocicrypt
