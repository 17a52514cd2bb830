import GuestComponents.KeyProvider.WrapPanics
import GuestComponents.Lib.Aes
import GuestComponents.Ocicrypt.WrapRequest

/-! The request from one crate to the other. What the CoCo key provider makes of a request
that ocicrypt-rs has written is given by `readRequest_wrapInput`: it needs the decryption
configuration that ocicrypt-rs leaves null, and decodes the options data from base64, which
ocicrypt-rs sends as it is. Decoding makes a text shorter, so only an empty one is read as
itself. What is read is then encrypted where the first parameter leads to a key that the
provider can use (`encOptsdata_accepts`). -/
namespace GuestComponents.KeyProvider
open Lib Lib.Text Crypto
open Ocicrypt (EncryptConfig DecryptConfig Params wrapInput)

theorem readParameters_toJson (param : Params) :
    readParameters (Params.toJson param) =
      .ok (param.map fun entry => (entry.1, entry.2.map Base64.encode)) := by
  have strings (value : Ocicrypt.Bytes) :
      Json.readString (.string (Base64.encode value)) = .ok (Base64.encode value) := rfl
  have values (list : List Ocicrypt.Bytes) : Json.readArray Json.readString
      (Json.ofList (fun value => .string (Base64.encode value)) list) = .ok (list.map Base64.encode) :=
    Json.readArray_ofList strings list
  exact Json.readMap_ofMap values param

theorem dc_ofJson (config : DecryptConfig) :
    Dc.ofJson config.toJson = .ok ⟨config.param.map fun entry => (entry.1, entry.2.map Base64.encode)⟩ := by
  show (readParameters (Params.toJson config.param)).bind _ = _
  rw [readParameters_toJson]
  rfl

/-- The key provider reads a configuration that has a decryption configuration. -/
theorem ec_ofJson_some (param : Params) (decryptConfig : DecryptConfig) :
    Ec.ofJson (EncryptConfig.toJson ⟨param, some decryptConfig⟩) =
      .ok ⟨param.map fun entry => (entry.1, entry.2.map Base64.encode),
        ⟨decryptConfig.param.map fun entry => (entry.1, entry.2.map Base64.encode)⟩⟩ := by
  show (readParameters (Params.toJson param)).bind (fun parameters =>
    (Dc.ofJson decryptConfig.toJson).bind _) = _
  rw [readParameters_toJson, dc_ofJson]
  rfl

theorem ec_ofJson_none (param : Params) :
    Ec.ofJson (EncryptConfig.toJson ⟨param, none⟩) = .error "invalid type, expected a struct" := by
  show (readParameters (Params.toJson param)).bind (fun parameters => (Dc.ofJson .null).bind _) = _
  rw [readParameters_toJson]
  rfl

/-- The parameters that were texts come out as they went in. -/
theorem decodeParameters_encode (values : List Ocicrypt.Bytes) :
    decodeParameters (values.map Base64.encode) = values.filterMap fromUtf8 := by
  rw [decodeParameters, List.filterMap_map]
  apply List.filterMap_congr
  intro value _
  show (Base64.decode (Base64.encode value)).bind fromUtf8 = fromUtf8 value
  rw [Base64.decode_encode]
  rfl

/-- What is left of a request once its fields have been read. -/
def readFields (parameters : List (Text × List Text)) (optsdata : Text) :
    Except (Fault Status) (List UInt8 × List Text) := do
  let parameters ← Fault.okOr
    (.invalidArgument "illegal encryption provider without attestation-agent")
    (parameters.lookup "attestation-agent".toList)
  let optsdata ← Fault.okOr (.aborted "base64 decode") (Base64.decode optsdata)
  return (optsdata, decodeParameters parameters)

theorem readRequest_wrapInput_some (param : Params) (decryptConfig : DecryptConfig) (text : Text) :
    readRequest (wrapInput ⟨param, some decryptConfig⟩ text).toJson =
      readFields (param.map fun entry => (entry.1, entry.2.map Base64.encode)) text := by
  have ec := ec_ofJson_some param decryptConfig
  have input : KeyProviderInput.ofJson (wrapInput ⟨param, some decryptConfig⟩ text).toJson = .ok {
      op := "keywrap".toList
      keywrapparams := {
        ec := some ⟨param.map fun entry => (entry.1, entry.2.map Base64.encode),
          ⟨decryptConfig.param.map fun entry => (entry.1, entry.2.map Base64.encode)⟩⟩
        optsdata := some text }
      keyunwrapparams := ⟨none, none⟩ } := by
    show ((((Ec.ofJson (EncryptConfig.toJson ⟨param, some decryptConfig⟩)).map some).bind _).bind _) = _
    rw [ec]
    rfl
  rw [readRequest, input]
  rfl

/-- Without a decryption configuration the request is refused. -/
theorem readRequest_wrapInput_none (param : Params) (text : Text) :
    readRequest (wrapInput ⟨param, none⟩ text).toJson = Fault.fail
      (.invalidArgument "parse key provider input failed: invalid type, expected a struct") := by
  have ec := ec_ofJson_none param
  have input : KeyProviderInput.ofJson (wrapInput ⟨param, none⟩ text).toJson =
      .error "invalid type, expected a struct" := by
    show ((((Ec.ofJson (EncryptConfig.toJson ⟨param, none⟩)).map some).bind _).bind _) = _
    rw [ec]
    rfl
  rw [readRequest, input]
  rfl

/-- What the key provider takes from a request that ocicrypt-rs has written: the options data decoded
from base64, and the parameters for the attestation agent that are texts. -/
theorem readRequest_wrapInput {encConfig : EncryptConfig} {text : Text} {blob : List UInt8}
    {params : List Text} :
    readRequest (wrapInput encConfig text).toJson = .ok (blob, params) ↔
      encConfig.decryptConfig.isSome ∧ Base64.decode text = some blob ∧
        ∃ values, encConfig.param.lookup "attestation-agent".toList = some values ∧
          params = values.filterMap fromUtf8 := by
  obtain ⟨param, decryptConfig⟩ := encConfig
  cases decryptConfig with
  | none =>
    rw [readRequest_wrapInput_none]
    simp [Fault.fail]
  | some decryptConfig =>
    rw [readRequest_wrapInput_some]
    constructor
    · intro read
      obtain ⟨encoded, found, read⟩ := bind_ok.mp read
      obtain ⟨decoded, data, read⟩ := bind_ok.mp read
      cases read
      rw [Fault.okOr_ok, Json.lookup_map_value] at found
      obtain ⟨values, listed, rfl⟩ := Option.map_eq_some_iff.mp found
      exact ⟨rfl, Fault.okOr_ok.mp data, values, listed, decodeParameters_encode values⟩
    · rintro ⟨_, data, values, listed, same⟩
      have found : (param.map fun entry => (entry.1, entry.2.map Base64.encode)).lookup
          "attestation-agent".toList = some (values.map Base64.encode) := by
        rw [Json.lookup_map_value, listed]
        rfl
      rw [same, ← decodeParameters_encode values]
      exact bind_ok.mpr ⟨_, Fault.okOr_ok.mpr found, bind_ok.mpr ⟨blob, Fault.okOr_ok.mpr data, rfl⟩⟩

/-- Base64 is longer than what it stands for, so that no text but the empty one decodes to itself. -/
theorem decode_self {text : Text} : Base64.decode text = some (utf8 text) ↔ text = [] := by
  constructor
  · intro decoded
    have shorter := Base64.decode_length decoded
    have atLeast := length_le_utf8 text
    have empty : text.length = 0 := by omega
    exact List.eq_nil_of_length_eq_zero empty
  · intro empty
    rw [empty]
    rfl

theorem readRequest_self {encConfig : EncryptConfig} {text : Text} {params : List Text} :
    readRequest (wrapInput encConfig text).toJson = .ok (utf8 text, params) ↔
      text = [] ∧ encConfig.decryptConfig.isSome ∧
        ∃ values, encConfig.param.lookup "attestation-agent".toList = some values ∧
          params = values.filterMap fromUtf8 := by
  rw [readRequest_wrapInput, decode_self]
  exact and_left_comm

section Provider

variable {crates : RustCrates} {machine : Machine} {kbs : Kbs} {kbsParameter : KbsParameter kbs}

/-- The KBS, where one is configured, takes the key under its path. The sample's is not sent. -/
def TakesKey (kbsParameter : KbsParameter kbs) (sample : Bool) (key : List UInt8) (kPath : Text) : Prop :=
  ∀ addr privateKey, kbsParameter.addr = some addr → kbsParameter.privateKey = some privateKey →
    sample = false → ∃ token, kbs.sign privateKey = .ok token ∧
      kbs.post (kbs.setPath addr (KBS_URL_PATH_PREFIX ++ '/' :: stripPrefixOr ['/'] kPath)) token key = .ok ()

/-- The parameter leads to a key of 32 bytes that is not for the counter mode, under a key id
of four parts, and the KBS takes it. -/
def CanWrap (machine : Machine) (kbsParameter : KbsParameter kbs) (param : Text) : Prop :=
  ∃ key kid addr repository type tag, KeyFor machine (parseInputParams param) key kid ∧
    (stripPrefixOr KBS_RESOURCE_URL_PREFIX kid).splitOn '/' = [addr, repository, type, tag] ∧
    key.length = 32 ∧ (parseInputParams param).keypath ≠ some "A256CTR".toList ∧
    TakesKey kbsParameter (parseInputParams param).sample key (repository ++ '/' :: type ++ '/' :: tag)

theorem registerIfConfigured_ok {sample : Bool} {key : List UInt8} {kPath : Text} :
    registerIfConfigured kbsParameter sample key kPath = .ok () ↔ TakesKey kbsParameter sample key kPath := by
  unfold registerIfConfigured TakesKey
  split
  · rename_i addr privateKey configured held
    rw [configured, held]
    cases sample with
    | true => simp
    | false =>
      simp only [Bool.false_eq_true, if_false, mapError_ok, registerKek, bind_ok, ofResult_ok, Option.some.injEq,
        forall_const]
      constructor
      · rintro taken _ _ rfl rfl
        exact taken
      · intro takes
        exact takes addr privateKey rfl rfl
  · rename_i absent
    refine iff_of_true rfl fun addr privateKey configured held => ?_
    exact absurd held (absent addr privateKey configured)

/-- Data that the crate encrypts under every key is wrapped where the parameter leads to a
usable one. -/
theorem encOptsdata_accepts {optsdata : List UInt8} {param : Text}
    (encrypts : ∀ key nonce, ∃ bytes, crates.aeadEncrypt key nonce optsdata = .ok bytes) :
    (∃ packet, encOptsdata crates machine kbsParameter optsdata param = .ok packet) ↔
      CanWrap machine kbsParameter param := by
  constructor
  · rintro ⟨packet, accepted⟩
    obtain ⟨generated, generation, accepted⟩ := bind_ok.mp accepted
    obtain ⟨⟨addr, kPath⟩, normalized, accepted⟩ := bind_ok.mp accepted
    obtain ⟨bytes, encrypted, accepted⟩ := bind_ok.mp accepted
    obtain ⟨⟨⟩, registered, _⟩ := bind_ok.mp accepted
    have generation := mapError_ok.mp generation
    obtain ⟨gcm, key, _, keyFits, _⟩ := encrypt_ok (generated_iv_length generation) (mapError_ok.mp encrypted)
    obtain ⟨repository, type, tag, parts, rfl⟩ := normalizePath_ok.mp normalized
    have length : generated.key.length = 32 := by rw [keyFits, key.length_toList]
    exact ⟨generated.key, generated.kid, addr, repository, type, tag, keyFor_iff.mpr ⟨_, generation⟩, parts,
      length, algorithm_gcm_iff.mp gcm, registerIfConfigured_ok.mp registered⟩
  · rintro ⟨key, kid, addr, repository, type, tag, made, parts, length, notCtr, takes⟩
    obtain ⟨iv, generation⟩ := keyFor_iff.mp made
    have short := generated_iv_length generation
    have normalized := normalizePath_ok.mpr ⟨repository, type, tag, parts, rfl⟩
    obtain ⟨key', rfl⟩ : ∃ key' : Vector UInt8 32, key = key'.toList := ⟨⟨key.toArray, length⟩, rfl⟩
    obtain ⟨nonce, rfl⟩ : ∃ nonce : Vector UInt8 12, iv = nonce.toList := ⟨⟨iv.toArray, short⟩, rfl⟩
    obtain ⟨bytes, sealed⟩ := encrypts key' nonce
    have encrypted : encrypt crates optsdata key'.toList nonce.toList .a256Gcm = .ok bytes :=
      bind_ok.mpr ⟨key', fromSlice_ok.mpr rfl, bind_ok.mpr ⟨nonce, fromSlice_ok.mpr rfl,
        mapError_ok.mpr (ofResult_ok.mpr sealed)⟩⟩
    have gcm := algorithm_gcm_iff.mpr notCtr
    have done : encOptsdata crates machine kbsParameter optsdata param = .ok {
        kid := KBS_RESOURCE_URL_PREFIX ++ addr ++ '/' :: (repository ++ '/' :: type ++ '/' :: tag)
        wrappedData := Base64.encode bytes
        iv := Base64.encode nonce.toList
        wrapType := (parseInputParams param).algorithm.toText } := by
      refine bind_ok.mpr ⟨_, mapError_ok.mpr generation, bind_ok.mpr ⟨_, normalized, ?_⟩⟩
      refine bind_ok.mpr ⟨bytes, mapError_ok.mpr ?_, bind_ok.mpr ⟨(), registerIfConfigured_ok.mpr takes, rfl⟩⟩
      rw [gcm]
      exact encrypted
    exact ⟨_, done⟩

/-- The key provider accepts the request, and this is the data that it encrypts. -/
def WrapsData (crates : RustCrates) (machine : Machine) (kbsParameter : KbsParameter kbs) (request : Json)
    (optsdata : List UInt8) : Prop :=
  ∃ params annotated, readRequest request = .ok (optsdata, params) ∧
    encOptsdataGenAnno crates machine kbsParameter optsdata params = .ok annotated ∧
    wrapKey crates machine kbsParameter request = .ok annotated

/-- What the request is read as is accepted when it is encrypted. -/
theorem wrapsData_iff {request : Json} {optsdata : List UInt8} :
    WrapsData crates machine kbsParameter request optsdata ↔
      ∃ param rest packet, readRequest request = .ok (optsdata, param :: rest) ∧
        encOptsdata crates machine kbsParameter optsdata param = .ok packet := by
  constructor
  · rintro ⟨params, annotated, read, made, _⟩
    cases params with
    | nil => cases made
    | cons param rest =>
      obtain ⟨packet, accepted, _⟩ := bind_ok.mp made
      exact ⟨param, rest, packet, read, accepted⟩
  · rintro ⟨param, rest, packet, read, accepted⟩
    have made : encOptsdataGenAnno crates machine kbsParameter optsdata (param :: rest) = .ok packet.toJson :=
      bind_ok.mpr ⟨packet, accepted, rfl⟩
    refine ⟨param :: rest, packet.toJson, read, made, ?_⟩
    rw [wrapKey, read]
    show Fault.ofOutcome _ (encOptsdataGenAnno crates machine kbsParameter optsdata (param :: rest)) = _
    rw [made]
    rfl

end Provider

/-- The wrapper of ocicrypt-rs asks the service with the request. The key provider accepts it and
encrypts the options data that is in it exactly if there is no data, but a decryption
configuration and a parameter for the attestation agent that is a text, and the first of these
leads to a key that it can wrap with. -/
theorem wrap_request_encrypted_iff (crates : RustCrates) (machine : Machine) {kbs : Kbs}
    (kbsParameter : KbsParameter kbs) (self : Ocicrypt.KeyProvider) (encConfig : EncryptConfig)
    (optsData : List UInt8) (input : Ocicrypt.KeyProviderKeyWrapProtocolInput)
    (written : self.wrapRequest encConfig optsData = .ok input)
    (encrypts : ∀ key nonce, ∃ bytes, crates.aeadEncrypt key nonce [] = .ok bytes) :
    (∀ answer, (Ocicrypt.keyProviderKeyWrapper (Ocicrypt.servicesOf answer) self).wrapKeys encConfig optsData =
      Ocicrypt.KeyProvider.wrapTransport self.attrs >>= fun transport =>
        Ocicrypt.replied (answer transport input.toJson)) ∧
    (WrapsData crates machine kbsParameter input.toJson optsData ↔
      optsData = [] ∧ encConfig.decryptConfig.isSome ∧
        ∃ values param rest, encConfig.param.lookup "attestation-agent".toList = some values ∧
          values.filterMap fromUtf8 = param :: rest ∧ CanWrap machine kbsParameter param) := by
  refine ⟨fun answer => by rw [Ocicrypt.wrapKeys_servicesOf, written]; rfl, ?_⟩
  have request : ∃ text, fromUtf8 optsData = some text ∧ input = wrapInput encConfig text := by
    rw [Ocicrypt.KeyProvider.wrapRequest] at written
    split at written
    · cases written
    · split at written
      · cases written
      · rename_i text decoded
        cases written
        exact ⟨text, decoded, rfl⟩
  obtain ⟨text, decoded, rfl⟩ := request
  obtain rfl := utf8_of_fromUtf8 decoded
  have noData : utf8 text = [] ↔ text = [] := by
    constructor
    · intro empty
      have atLeast := length_le_utf8 text
      rw [empty] at atLeast
      exact List.eq_nil_of_length_eq_zero (Nat.le_zero.mp atLeast)
    · intro empty
      rw [empty]
      rfl
  rw [wrapsData_iff]
  constructor
  · rintro ⟨param, rest, packet, read, accepted⟩
    obtain ⟨empty, configured, values, listed, same⟩ := readRequest_self.mp read
    subst empty
    exact ⟨rfl, configured, values, param, rest, listed, same.symm,
      (encOptsdata_accepts encrypts).mp ⟨packet, accepted⟩⟩
  · rintro ⟨empty, configured, values, param, rest, listed, same, usable⟩
    cases noData.mp empty
    obtain ⟨packet, accepted⟩ := (encOptsdata_accepts encrypts).mpr usable
    exact ⟨param, rest, packet, readRequest_self.mpr ⟨rfl, configured, values, listed, same.symm⟩, accepted⟩

section AttestationAgent

/-- The provider attestation-agent, reached over gRPC. -/
def agentProvider : Ocicrypt.KeyProvider where
  provider := "attestation-agent".toList
  attrs := ⟨none, some "http://127.0.0.1:50000".toList, none, none⟩

/-- A configuration for the agent with the sample's parameter. -/
def agentConfig (decryptConfig : Option DecryptConfig) : EncryptConfig where
  param := [("attestation-agent".toList, [utf8 "sample=true".toList])]
  decryptConfig

/-- The crates, as far as AES-256-GCM of no data: its tag is the block of the first counter. -/
def emptyCrates : RustCrates :=
  { sampleCrates with
    aeadEncrypt := fun key nonce data =>
      if data = [] then .ok ((List.range 16).map (Aes.keystream key.toList (nonce.toList ++ [0, 0, 0, 1])))
      else .error "Error" }

/-- Empty options data is what the key provider encrypts, with the sample's key. -/
theorem empty_request_encrypted :
    WrapsData emptyCrates sampleMachine (⟨none, none⟩ : KbsParameter noKbs)
      (wrapInput (agentConfig (some ⟨[]⟩)) []).toJson [] := by
  have usable : CanWrap sampleMachine (⟨none, none⟩ : KbsParameter noKbs) "sample=true".toList :=
    ⟨HARDCODED_KEY, HARD_CODED_KEYID, [], "default".toList, "test-key".toList, "1".toList,
      .sample (by decide +kernel), by decide +kernel, rfl, by decide +kernel, fun addr => addr.elim⟩
  have encrypts : ∀ key nonce, ∃ bytes, emptyCrates.aeadEncrypt key nonce [] = .ok bytes :=
    fun key nonce => ⟨(List.range 16).map (Aes.keystream key.toList (nonce.toList ++ [0, 0, 0, 1])), rfl⟩
  refine (wrap_request_encrypted_iff emptyCrates sampleMachine ⟨none, none⟩ agentProvider
    (agentConfig (some ⟨[]⟩)) [] _ rfl encrypts).2.mpr ⟨rfl, rfl, ?_⟩
  exact ⟨[utf8 "sample=true".toList], "sample=true".toList, [], rfl, by decide +kernel, usable⟩

/-- Options data of two bytes: the request is refused without a decryption configuration, since its null
is no struct, and with one, since the data is no base64. -/
theorem options_refused :
    agentProvider.wrapRequest (agentConfig none) (utf8 "\x7b\x7d".toList) =
      .ok (wrapInput (agentConfig none) "\x7b\x7d".toList) ∧
    wrapKey sampleCrates sampleMachine (⟨none, none⟩ : KbsParameter noKbs)
        (wrapInput (agentConfig none) "\x7b\x7d".toList).toJson =
      Fault.fail (.invalidArgument "parse key provider input failed: invalid type, expected a struct") ∧
    wrapKey sampleCrates sampleMachine (⟨none, none⟩ : KbsParameter noKbs)
        (wrapInput (agentConfig (some ⟨[]⟩)) "\x7b\x7d".toList).toJson =
      Fault.fail (.aborted "base64 decode") := by
  have named : (agentConfig none).param.lookup agentProvider.provider = some [utf8 "sample=true".toList] := rfl
  refine ⟨?_, ?_, ?_⟩
  · rw [Ocicrypt.KeyProvider.wrapRequest, named, fromUtf8_utf8]
  · have refused : readRequest (wrapInput (agentConfig none) "\x7b\x7d".toList).toJson = Fault.fail
        (.invalidArgument "parse key provider input failed: invalid type, expected a struct") :=
      readRequest_wrapInput_none _ _
    rw [wrapKey, refused]
    rfl
  · have refused : readRequest (wrapInput (agentConfig (some ⟨[]⟩)) "\x7b\x7d".toList).toJson =
        Fault.fail (.aborted "base64 decode") := (readRequest_wrapInput_some _ _ _).trans rfl
    rw [wrapKey, refused]
    rfl

end AttestationAgent

end GuestComponents.KeyProvider
