import GuestComponents.Hub.AnnotationPacket
import GuestComponents.KeyProvider.EncMods

/-! From the key provider's annotation to the guest. Every accepted request is encrypted
with AES-256-GCM, since the initialisation vectors have 12 bytes and the counter mode
takes none of that length (`accepted_gcm`). Both unwrappers of a guest then read the
annotation back, and what is left is whether they find the key: the parser of URLs
has to return the path that the key is registered under. -/
namespace GuestComponents.KeyProvider
open Lib Lib.Text Crypto
open KbsProtocol (ResourceUri Url)

/-- The algorithm that a parameter asks for: the value of its field `algorithm`. -/
def requestedAlgorithm (input : Text) : Algorithm :=
  (((fields input).lookup "algorithm".toList).bind Algorithm.tryFrom).getD default

/-- The annotation names the algorithm, and its data is encrypted with it. -/
def SealedWith (crates : RustCrates) (optsdata : List UInt8) (generated : KeyParameters)
    (algorithm : Algorithm) (annotated : Json) : Prop :=
  annotated.get "wrap_type".toList = some (.string algorithm.toText) ∧
    ∃ bytes, encrypt crates optsdata generated.key generated.iv algorithm = .ok bytes ∧
      annotated.get "wrapped_data".toList = some (.string (Base64.encode bytes))

/-- Both unwrappers of a guest return the options, wherever the key has been registered under the path. -/
structure UnwrapsInGuest (parse : Text → Option Url) (backend : Backend) (key : List UInt8) (kPath : Text)
    (annotated : Json) (optsdata : List UInt8) : Prop where
  hub : ∀ kms : Hub.Kms, kms.newClient = .ok () →
    (∀ uri : ResourceUri, uri.resourcePath = kPath → kms.getResource uri = .ok key) →
    Hub.unwrapKey parse kms backend annotated = .ok optsdata
  offline : ∀ (kbc : Kbc.OfflineFsKbc) (keys : List (Text × List UInt8)), kbc.keys = .ok keys →
    keys.lookup kPath = some key →
    ∃ packet, Kbc.AnnotationPacket.ofJson parse annotated = .ok packet ∧
      kbc.decryptPayload backend packet = .ok optsdata

/-- The identifier stands in JSON as it is and is parsed, and parsed again, as one with this path. -/
structure ReadsBack (parse : Text → Option Url) (kid kPath : Text) : Prop where
  plain : kid.any Kbc.escaped = false
  resource : ∃ uri, ResourceUri.tryFrom parse kid = .ok uri ∧ uri.resourcePath = kPath ∧
    ∃ again, ResourceUri.tryFrom parse uri.wholeUri = .ok again ∧ again.resourcePath = kPath

/-- The back end decrypts what the provider's crates have encrypted. -/
def Opens (crates : RustCrates) (backend : Backend) : Prop :=
  ∀ key nonce data bytes, crates.aeadEncrypt key nonce data = .ok bytes →
    backend.gcmDecrypt key.toList bytes nonce.toList = .ok data

section Provider

variable {crates : RustCrates} {machine : Machine} {kbs : Kbs} {kbsParameter : KbsParameter kbs}
variable {optsdata : List UInt8} {param : Text} {packet : AnnotationPacket}

/-- A key id has four parts between slashes, of which the first one is the address. -/
theorem normalizePath_ok {kid addr kPath : Text} :
    normalizePath kid = .ok (addr, kPath) ↔ ∃ repository type tag,
      (stripPrefixOr KBS_RESOURCE_URL_PREFIX kid).splitOn '/' = [addr, repository, type, tag] ∧
        kPath = repository ++ '/' :: type ++ '/' :: tag := by
  rw [normalizePath]
  split
  · rename_i addr' repository type tag parts
    rw [parts]
    constructor
    · intro given
      cases given
      exact ⟨repository, type, tag, rfl, rfl⟩
    · rintro ⟨repository', type', tag', same, rfl⟩
      cases same
      rfl
  · rename_i others
    refine iff_of_false (fun given => by cases given) ?_
    rintro ⟨repository, type, tag, parts, _⟩
    exact others addr repository type tag parts

/-- What a request was encrypted with, and what became of it. -/
theorem encOptsdata_ok (accepted : encOptsdata crates machine kbsParameter optsdata param = .ok packet) :
    ∃ generated addr kPath bytes, generateKeyParameters machine (parseInputParams param) = .ok generated ∧
      normalizePath generated.kid = .ok (addr, kPath) ∧
      encrypt crates optsdata generated.key generated.iv (parseInputParams param).algorithm = .ok bytes ∧
      packet = {
        kid := KBS_RESOURCE_URL_PREFIX ++ addr ++ '/' :: kPath
        wrappedData := Base64.encode bytes
        iv := Base64.encode generated.iv
        wrapType := (parseInputParams param).algorithm.toText } := by
  obtain ⟨generated, generation, accepted⟩ := bind_ok.mp accepted
  obtain ⟨⟨addr, kPath⟩, normalized, accepted⟩ := bind_ok.mp accepted
  obtain ⟨bytes, encrypted, accepted⟩ := bind_ok.mp accepted
  obtain ⟨_, _, accepted⟩ := bind_ok.mp accepted
  cases accepted
  exact ⟨generated, addr, kPath, bytes, mapError_ok.mp generation, normalized, mapError_ok.mp encrypted, rfl⟩

theorem generated_iv_length {inputParams : InputParams} {generated : KeyParameters}
    (generation : generateKeyParameters machine inputParams = .ok generated) : generated.iv.length = 12 := by
  rw [generateKeyParameters] at generation
  split at generation
  · cases generation
    rfl
  · split at generation
    · obtain ⟨key, _, generation⟩ := bind_ok.mp generation
      obtain ⟨iv, _, generation⟩ := bind_ok.mp generation
      cases generation
      exact iv.length_toList
    · obtain ⟨iv, _, generation⟩ := bind_ok.mp generation
      obtain ⟨key, _, generation⟩ := bind_ok.mp generation
      cases generation
      exact iv.length_toList

/-- With an initialisation vector of 12 bytes, only AES-256-GCM encrypts. -/
theorem encrypt_ok {data key iv bytes : List UInt8} {algorithm : Algorithm} (short : iv.length = 12)
    (encrypted : encrypt crates data key iv algorithm = .ok bytes) :
    algorithm = .a256Gcm ∧ ∃ (key' : Vector UInt8 32) (nonce : Vector UInt8 12), key = key'.toList ∧
      iv = nonce.toList ∧ crates.aeadEncrypt key' nonce data = .ok bytes := by
  cases algorithm with
  | a256Gcm =>
    obtain ⟨key', keyFits, encrypted⟩ := bind_ok.mp encrypted
    obtain ⟨nonce, nonceFits, encrypted⟩ := bind_ok.mp encrypted
    exact ⟨rfl, key', nonce, fromSlice_ok.mp keyFits, fromSlice_ok.mp nonceFits,
      ofResult_ok.mp (mapError_ok.mp encrypted)⟩
  | a256Ctr =>
    obtain ⟨_, _, encrypted⟩ := bind_ok.mp encrypted
    obtain ⟨long, ivFits, _⟩ := bind_ok.mp encrypted
    have length := congrArg List.length (fromSlice_ok.mp ivFits)
    rw [short, long.length_toList] at length
    contradiction

end Provider

section Guest

variable {parse : Text → Option Url} {crates : RustCrates} {openssl : OpenSsl} {backend : Backend}

theorem opens_rust
    (inverse : ∀ key nonce data bytes, crates.aeadEncrypt key nonce data = .ok bytes →
      crates.aeadDecrypt key nonce bytes = .ok data) : Opens crates crates.backend := by
  intro key nonce data bytes encrypted
  show crates.gcmDecrypt key.toList nonce.toList bytes = .ok data
  rw [RustCrates.gcmDecrypt, fromSlice_ok.mpr rfl]
  show fromSlice 12 nonce.toList >>= _ = _
  rw [fromSlice_ok.mpr rfl]
  exact mapError_ok.mpr (ofResult_ok.mpr (inverse key nonce data bytes encrypted))

theorem opens_openssl
    (standard : ∀ key nonce data bytes, crates.aeadEncrypt key nonce data = .ok bytes →
      ∃ (body : List UInt8) (tag : Vector UInt8 16), bytes = body ++ tag.toList ∧
        openssl.decryptAead key.toList nonce.toList [] body tag.toList = .ok data) :
    Opens crates openssl.backend := by
  intro key nonce data bytes encrypted
  obtain ⟨body, tag, rfl, decrypted⟩ := standard key nonce data bytes encrypted
  show openssl.gcmDecrypt key.toList nonce.toList (body ++ tag.toList) = .ok data
  have length : (body ++ tag.toList).length = body.length + 16 := by
    rw [List.length_append, tag.length_toList]
  have enough : ¬ (body ++ tag.toList).length < OpenSsl.TAG_LENGTH := by
    rw [length, OpenSsl.TAG_LENGTH]
    omega
  have mid : checkedSub (body ++ tag.toList).length OpenSsl.TAG_LENGTH = .ok body.length := by
    rw [checkedSub_ok, length, OpenSsl.TAG_LENGTH]
    omega
  have parts : splitAt (body ++ tag.toList) body.length = .ok (body, tag.toList) := by
    rw [splitAt, if_pos (by omega), List.splitAt_eq, List.take_left, List.drop_left]
  rw [OpenSsl.gcmDecrypt, if_neg enough, mid]
  show splitAt (body ++ tag.toList) body.length >>= _ = _
  rw [parts]
  exact decrypted

variable {kid kPath : Text} {key bytes optsdata : List UInt8} {nonce : Vector UInt8 12}

/-- An annotation of AES-256-GCM. -/
def gcmPacket (kid : Text) (bytes iv : List UInt8) : AnnotationPacket where
  kid
  wrappedData := Base64.encode bytes
  iv := Base64.encode iv
  wrapType := Algorithm.a256Gcm.toText

/-- The hub returns what its back end decrypts with the key that the identifier leads to. -/
theorem hub_unwrapKey {kms : Hub.Kms} (client : kms.newClient = .ok ()) :
    Hub.unwrapKey parse kms backend (gcmPacket kid bytes nonce.toList).toJson = .ok optsdata ↔
      ∃ uri, ResourceUri.tryFrom parse kid = .ok uri ∧ ∃ kek, Hub.getSecret parse kms uri.wholeUri = .ok kek ∧
        backend.gcmDecrypt kek bytes nonce.toList = .ok optsdata := by
  have read : Hub.AnnotationPacket.ofJson (gcmPacket kid bytes nonce.toList).toJson = .ok {
      version := Hub.DEFAULT_VERSION, kid, wrappedData := Base64.encode bytes
      provider := Hub.AnnotationPacket.defaultProvider, iv := some (Base64.encode nonce.toList)
      wrapType := some Algorithm.a256Gcm.toText, providerSettings := [], annotations := [] } := rfl
  rw [Hub.unwrapKey, read]
  show Hub.AnnotationPacket.tryInto parse _ >>= _ = _ ↔ _
  rw [bind_ok]
  constructor
  · intro ⟨packet, converted, unwrapped⟩
    obtain ⟨_, _, sameType, sameIv, sameData, parsed⟩ := Hub.AnnotationPacket.tryInto_ok.mp converted
    obtain ⟨kid', wrappedData', iv', wrapType'⟩ := packet
    cases sameType
    cases sameIv
    cases sameData
    obtain ⟨_, kek, _, _, named, _, secret, data, vector, decrypted⟩ :=
      Hub.V1.AnnotationPacket.unwrapKey_ok.mp unwrapped
    cases named
    cases (Base64.decode_encode bytes).symm.trans data
    cases (Base64.decode_encode nonce.toList).symm.trans vector
    exact ⟨kid', parsed, kek, secret, decrypted⟩
  · intro ⟨uri, parsed, kek, secret, decrypted⟩
    refine ⟨⟨uri, _, _, _⟩, Hub.AnnotationPacket.tryInto_ok.mpr ⟨rfl, rfl, rfl, rfl, rfl, parsed⟩, ?_⟩
    exact Hub.V1.AnnotationPacket.unwrapKey_ok.mpr ⟨.aes256Gcm, kek, bytes, nonce.toList, rfl, client, secret,
      Base64.decode_encode _, Base64.decode_encode _, decrypted⟩

/-- The KBC reads a packet whose identifier it can borrow and parse. -/
theorem kbc_ofJson {packet : Kbc.AnnotationPacket} :
    Kbc.AnnotationPacket.ofJson parse (gcmPacket kid bytes nonce.toList).toJson = .ok packet ↔
      kid.any Kbc.escaped = false ∧ ∃ uri, ResourceUri.tryFrom parse kid = .ok uri ∧
        packet = ⟨uri, Base64.encode bytes, Base64.encode nonce.toList, Algorithm.a256Gcm.toText⟩ := by
  show (Kbc.readResourceUri parse (.string kid)).bind _ = _ ↔ _
  rw [Kbc.readResourceUri]
  split
  · rename_i some
    simp [Except.bind, some]
  · rename_i plain
    cases ResourceUri.tryFrom parse kid with
    | error e => simp [Except.bind]
    | ok uri =>
      constructor
      · intro read
        cases read
        exact ⟨eq_false_of_ne_true plain, uri, rfl, rfl⟩
      · intro ⟨_, _, same, read⟩
        cases same
        cases read
        rfl

/-- A guest that serves the key for its path alone finds it where the identifier reads back. -/
theorem unwrapsInGuest_iff (opened : backend.gcmDecrypt key bytes nonce.toList = .ok optsdata) :
    UnwrapsInGuest parse backend key kPath (gcmPacket kid bytes nonce.toList).toJson optsdata ↔
      ReadsBack parse kid kPath := by
  constructor
  · intro unwraps
    have offline := unwraps.offline ⟨.ok [(kPath, key)]⟩ [(kPath, key)] rfl List.lookup_cons_self
    obtain ⟨packet, read, decrypted⟩ := offline
    obtain ⟨plain, uri, parsed, rfl⟩ := kbc_ofJson.mp read
    obtain ⟨_, _, _, _, _, ⟨⟩, found, _⟩ := (Kbc.OfflineFsKbc.decryptPayload_ok _).mp decrypted
    have path : uri.resourcePath = kPath := by
      by_contra differs
      rw [List.lookup_cons, beq_false_of_ne differs] at found
      cases found
    let serving : Hub.Kms := {
      newClient := .ok ()
      getResource := fun uri => if uri.resourcePath = kPath then .ok key else .error "resource not found"
      Decryptor := Unit
      newDecryptor := fun _ _ => .error "Unsupported provider"
      decrypt := fun _ _ _ _ => .error "Unsupported provider" }
    obtain ⟨uri', parsed', kek, secret, _⟩ :=
      (hub_unwrapKey rfl).mp (unwraps.hub serving rfl fun uri same => if_pos same)
    cases parsed.symm.trans parsed'
    refine ⟨plain, uri, parsed, path, ?_⟩
    rw [Hub.getSecret] at secret
    cases again : ResourceUri.tryFrom parse uri.wholeUri with
    | error e =>
      rw [again] at secret
      cases secret
    | ok uri' =>
      rw [again] at secret
      refine ⟨uri', rfl, ?_⟩
      by_contra differs
      cases secret.symm.trans (if_neg differs)
  · intro ⟨plain, uri, parsed, path, again, reparsed, pathAgain⟩
    constructor
    · intro kms client serves
      have secret : Hub.getSecret parse kms uri.wholeUri = .ok key := by
        rw [Hub.getSecret, reparsed]
        exact serves again pathAgain
      exact (hub_unwrapKey client).mpr ⟨uri, parsed, key, secret, opened⟩
    · intro kbc keys loaded found
      refine ⟨_, kbc_ofJson.mpr ⟨plain, uri, parsed, rfl⟩, ?_⟩
      rw [← path] at found
      exact (Kbc.OfflineFsKbc.decryptPayload_ok kbc).mpr ⟨keys, key, .aes256Gcm, bytes, nonce.toList, loaded, found,
        rfl, Base64.decode_encode _, Base64.decode_encode _, opened⟩

end Guest

/-- An accepted request is encrypted as it asks to be, and unwrapped by the guest with either back end,
exactly if it asks for AES-256-GCM and its key identifier reads back as the path of the key. -/
theorem unwraps_as_requested_iff (crates : RustCrates) (openssl : OpenSsl) (parse : Text → Option Url)
    (machine : Machine) {kbs : Kbs} (kbsParameter : KbsParameter kbs) (optsdata : List UInt8)
    (params : List Text) (annotated : Json)
    (inverse : ∀ key nonce data bytes, crates.aeadEncrypt key nonce data = .ok bytes →
      crates.aeadDecrypt key nonce bytes = .ok data)
    (standard : ∀ key nonce data bytes, crates.aeadEncrypt key nonce data = .ok bytes →
      ∃ (body : List UInt8) (tag : Vector UInt8 16), bytes = body ++ tag.toList ∧
        openssl.decryptAead key.toList nonce.toList [] body tag.toList = .ok data)
    (accepted : encOptsdataGenAnno crates machine kbsParameter optsdata params = .ok annotated) :
    ∃ param rest generated addr kPath, params = param :: rest ∧
      generateKeyParameters machine (parseInputParams param) = .ok generated ∧
      normalizePath generated.kid = .ok (addr, kPath) ∧
      ((SealedWith crates optsdata generated (requestedAlgorithm param) annotated ∧
        ∀ backend, backend = crates.backend ∨ backend = openssl.backend →
          UnwrapsInGuest parse backend generated.key kPath annotated optsdata) ↔
      requestedAlgorithm param = .a256Gcm ∧
        ReadsBack parse (KBS_RESOURCE_URL_PREFIX ++ addr ++ '/' :: kPath) kPath) := by
  cases params with
  | nil => cases accepted
  | cons param rest =>
    obtain ⟨packet, accepted, written⟩ := bind_ok.mp accepted
    obtain ⟨generated, addr, kPath, bytes, generation, normalized, encrypted, made⟩ := encOptsdata_ok accepted
    obtain ⟨gcm, key, nonce, keyFits, ivFits, sealed⟩ := encrypt_ok (generated_iv_length generation) encrypted
    have same : annotated =
        (gcmPacket (KBS_RESOURCE_URL_PREFIX ++ addr ++ '/' :: kPath) bytes nonce.toList).toJson := by
      cases written
      rw [made, gcm, ivFits]
      rfl
    refine ⟨param, rest, generated, addr, kPath, rfl, generation, normalized, ?_⟩
    rw [same, keyFits]
    constructor
    · intro ⟨⟨named, _⟩, unwraps⟩
      have sameName : Algorithm.a256Gcm.toText = (requestedAlgorithm param).toText :=
        Json.string.inj (Option.some.inj named)
      have asked : requestedAlgorithm param = .a256Gcm := by
        cases asked : requestedAlgorithm param with
        | a256Gcm => rfl
        | a256Ctr =>
          rw [asked] at sameName
          cases sameName
      exact ⟨asked, (unwrapsInGuest_iff (opens_rust inverse key nonce optsdata bytes sealed)).mp
        (unwraps _ (.inl rfl))⟩
    · intro ⟨asked, reads⟩
      rw [asked]
      rw [gcm] at encrypted
      refine ⟨⟨rfl, bytes, encrypted, rfl⟩, ?_⟩
      rintro backend (rfl | rfl)
      · exact (unwrapsInGuest_iff (opens_rust inverse key nonce optsdata bytes sealed)).mpr reads
      · exact (unwrapsInGuest_iff (opens_openssl standard key nonce optsdata bytes sealed)).mpr reads

section Sample

/-- Two bytes of options, and what AES-256-GCM makes of them under the sample's key and vector. -/
def sampleOptsdata : List UInt8 := utf8 "\x7b\x7d".toList

def sampleBody : List UInt8 := [255, 45]

def sampleTag : Vector UInt8 16 := #v[82, 154, 219, 95, 192, 28, 2, 109, 216, 34, 203, 63, 142, 172, 134, 43]

def sampleIv : List UInt8 := List.replicate 12 0

/-- The crates, on the sample's key and vector and these options. -/
def sampleCrates : RustCrates where
  RsaKeyPair := Empty
  SecretKey := Empty
  PublicKey := Empty
  n := nofun
  e := nofun
  x := nofun
  y := nofun
  rsaDecrypt := nofun
  fromEncodedPoint _ _ := none
  diffieHellman := nofun
  deriveKeyInto _ _ _ := .error "Error"
  kwUnwrap _ _ _ := .error "IntegrityCheckFailed"
  encryptInPlaceDetached _ _ _ _ := .error "Error"
  decryptInPlaceDetached _ _ _ _ _ := .error "Error"
  aeadEncrypt key nonce data :=
    if key.toList = HARDCODED_KEY ∧ nonce.toList = sampleIv ∧ data = sampleOptsdata
    then .ok (sampleBody ++ sampleTag.toList) else .error "Error"
  aeadDecrypt key nonce data :=
    if key.toList = HARDCODED_KEY ∧ nonce.toList = sampleIv ∧ data = sampleBody ++ sampleTag.toList
    then .ok sampleOptsdata else .error "Error"
  applyKeystream _ _ data := data
  applyKeystreamB2b _ _ _ := .error "StreamCipherError"

def sampleOpenSsl : OpenSsl where
  RsaKeyPair := Empty
  PrivateKey := Empty
  PublicKey := Empty
  UnwrappingKey := Empty
  n := nofun
  e := nofun
  affineCoordinates := nofun
  privateDecrypt := nofun
  publicKey _ _ := .error "ErrorStack"
  deriveToVec := nofun
  newDecrypt _ := .error "KeyError"
  unwrapKey := nofun
  encryptAead _ _ _ _ _ := .bail "ErrorStack"
  decryptAead key iv aad data tag :=
    if key = HARDCODED_KEY ∧ iv = sampleIv ∧ aad = [] ∧ data = sampleBody ∧ tag = sampleTag.toList
    then .ok sampleOptsdata else .bail "ErrorStack"
  encryptCtr _ _ _ := .bail "ErrorStack"
  decryptCtr _ _ _ := .bail "ErrorStack"

/-- No file, no random number and no KBS is needed for the sample. -/
def sampleMachine : Machine where
  read _ := .error "No such file or directory"
  randomIv := .error "no entropy"
  randomKey := .error "no entropy"
  uuid := []

def noKbs : Kbs where
  Url := Empty
  KeyPair := Empty
  sign := nofun
  setPath := nofun
  post := nofun

/-- The parser, on the sample's identifier. -/
def sampleParse (text : Text) : Option Url :=
  if text = HARD_CODED_KEYID
  then some ⟨"kbs".toList, none, none, "/default/test-key/1".toList, none⟩ else none

def sampleUri : ResourceUri where
  kbsAddr := []
  repository := "default".toList
  type := "test-key".toList
  tag := "1".toList
  query := none

theorem sample_inverse (key : Vector UInt8 32) (nonce : Vector UInt8 12) (data bytes : List UInt8)
    (encrypted : sampleCrates.aeadEncrypt key nonce data = .ok bytes) :
    sampleCrates.aeadDecrypt key nonce bytes = .ok data := by
  obtain ⟨⟨sameKey, sameNonce, rfl⟩, _, ⟨⟩⟩ | ⟨_, ⟨⟩⟩ := ite_eq_iff.mp encrypted
  exact if_pos ⟨sameKey, sameNonce, rfl⟩

theorem sample_standard (key : Vector UInt8 32) (nonce : Vector UInt8 12) (data bytes : List UInt8)
    (encrypted : sampleCrates.aeadEncrypt key nonce data = .ok bytes) :
    ∃ (body : List UInt8) (tag : Vector UInt8 16), bytes = body ++ tag.toList ∧
      sampleOpenSsl.decryptAead key.toList nonce.toList [] body tag.toList = .ok data := by
  obtain ⟨⟨sameKey, sameNonce, rfl⟩, _, ⟨⟩⟩ | ⟨_, ⟨⟩⟩ := ite_eq_iff.mp encrypted
  exact ⟨sampleBody, sampleTag, rfl, if_pos ⟨sameKey, sameNonce, rfl, rfl, rfl⟩⟩

/-- The annotation that the sample returns. -/
def sampleAnnotation : Json :=
  (gcmPacket HARD_CODED_KEYID (sampleBody ++ sampleTag.toList) sampleIv).toJson

/-- The sample without a choice of the algorithm is unwrapped by a guest with either back end. -/
theorem sample_unwraps :
    encOptsdataGenAnno sampleCrates sampleMachine (⟨none, none⟩ : KbsParameter noKbs) sampleOptsdata
      ["sample=true".toList] = .ok sampleAnnotation ∧
    ∀ backend, backend = sampleCrates.backend ∨ backend = sampleOpenSsl.backend →
      UnwrapsInGuest sampleParse backend HARDCODED_KEY "default/test-key/1".toList sampleAnnotation
        sampleOptsdata := by
  have accepted : encOptsdataGenAnno sampleCrates sampleMachine (⟨none, none⟩ : KbsParameter noKbs)
      sampleOptsdata ["sample=true".toList] = .ok sampleAnnotation := rfl
  obtain ⟨_, _, _, _, _, ⟨⟩, ⟨⟩, normalized, exactly⟩ :=
    unwraps_as_requested_iff sampleCrates sampleOpenSsl sampleParse sampleMachine _ sampleOptsdata
      ["sample=true".toList] sampleAnnotation sample_inverse sample_standard accepted
  have path : normalizePath HARD_CODED_KEYID = .ok ([], "default/test-key/1".toList) := by decide +kernel
  cases path.symm.trans normalized
  have reads : ReadsBack sampleParse (KBS_RESOURCE_URL_PREFIX ++ [] ++ '/' :: "default/test-key/1".toList)
      "default/test-key/1".toList :=
    ⟨by decide +kernel, sampleUri, by decide +kernel, by decide +kernel, sampleUri, by decide +kernel,
      by decide +kernel⟩
  exact ⟨accepted, (exactly.mpr ⟨by decide +kernel, reads⟩).2⟩

/-- The sample with the counter mode as its algorithm is encrypted with AES-256-GCM. -/
theorem counter_mode_ignored :
    encOptsdataGenAnno sampleCrates sampleMachine (⟨none, none⟩ : KbsParameter noKbs) sampleOptsdata
      ["sample=true::algorithm=A256CTR".toList] = .ok sampleAnnotation ∧
    requestedAlgorithm "sample=true::algorithm=A256CTR".toList = .a256Ctr ∧
    ∀ generated, ¬ SealedWith sampleCrates sampleOptsdata generated .a256Ctr sampleAnnotation := by
  refine ⟨rfl, by decide +kernel, ?_⟩
  intro generated ⟨named, _⟩
  cases named

end Sample

end GuestComponents.KeyProvider
