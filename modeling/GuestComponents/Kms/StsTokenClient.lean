import GuestComponents.Lib.Base64
import GuestComponents.Lib.FormUrlencoded
import GuestComponents.Lib.Json
import GuestComponents.Lib.Outcome
import GuestComponents.Lib.SortedMap
import GuestComponents.Lib.UrlText
import Mathlib.Data.Char
import Mathlib.Data.List.AList
import Mathlib.Data.List.Lex
import Mathlib.Data.List.Sort

/-! The requests of the aliyun client with an STS token (`sts_token_client`). The parameters of a
request are signed in the order of their names and sent in the order of their map; a server that
reads them from the URL has the string that was signed (`signed_is_sent`), as long as the region,
which is put into the URL as it is, does not begin a query or a fragment. -/
namespace GuestComponents.Kms.Aliyun
open Lib Lib.Text Lib.Percent Lib.FormUrlencoded

/-- `HashMap<String, String>`. -/
abbrev Params := AList fun _ : Text => Text

def pairsOf (params : Params) : List (Text × Text) := params.entries.map fun entry => (entry.1, entry.2)

/-- What the client has from its machine: the order of a map, files, the time, random bytes and the
HMAC of a key and a message. -/
structure Machine where
  iter : Params → List (Text × Text)
  iter_perm : ∀ params, (iter params).Perm (pairsOf params)
  readToString : Text → Except String Text
  now : Text
  nonce : List UInt8
  hmacSha1 : List UInt8 → List UInt8 → List UInt8

/-- `credential.rs::StsCredential`. -/
structure StsCredential where
  ak : Text
  sk : Text
  sts : Text

/-- `StsTokenClient`, less the HTTP client. -/
structure StsTokenClient where
  ak : Text
  sk : Text
  sts : Text
  endpoint : Text
  regionId : Text

structure StsSettings where
  tokenPath : Text
  regionId : Text

/-- `EcsRamRoleClient`. -/
structure EcsRamRoleClient where
  ecsRamRoleName : Text
  regionId : Text
  endpoint : Text

/-- `AliSecretAnnotations`. -/
structure AliSecretAnnotations where
  versionStage : Text
  versionId : Text

section Clients

def StsSettings.ofJson (value : Json) : Except String StsSettings := do
  let tokenPath ← value.field Json.readString "token_path"
  let regionId ← value.field Json.readString "region_id"
  return { tokenPath, regionId }

def AliSecretAnnotations.ofJson (value : Json) : Except String AliSecretAnnotations := do
  let versionStage ← value.fieldOr Json.readString [] "version_stage"
  let versionId ← value.fieldOr Json.readString [] "version_id"
  return { versionStage, versionId }

/-- `format!("kms.{}.aliyuncs.com", region_id)`. -/
def endpointOf (regionId : Text) : Text := "kms.".toList ++ regionId ++ ".aliyuncs.com".toList

def fromStsToken (sts : StsCredential) (endpoint regionId : Text) : StsTokenClient where
  ak := sts.ak
  sk := sts.sk
  sts := sts.sts
  endpoint
  regionId

def fromProviderSettings (machine : Machine) (providerSettings : Json) : Except String StsTokenClient := do
  let settings ← StsSettings.ofJson providerSettings
  let credential ← machine.readToString settings.tokenPath
  match split ':' credential with
  | [ak, sk, sts] => return { ak, sk, sts, endpoint := endpointOf settings.regionId, regionId := settings.regionId }
  | _ => throw "Unexpected credential format. should be ak:sk:sts"

/-- `EcsRamRoleClient::new`. -/
def EcsRamRoleClient.new (ecsRamRoleName regionId : Text) : EcsRamRoleClient where
  ecsRamRoleName
  regionId
  endpoint := endpointOf regionId

/-- The client that `EcsRamRoleClient::get_secret` makes of the credential that it was given. -/
def EcsRamRoleClient.stsClient (client : EcsRamRoleClient) (credential : StsCredential) : StsTokenClient :=
  fromStsToken credential client.endpoint client.regionId

/-- The clients that there are: of a pod with a credential file, and of a machine with a role. -/
inductive Built : StsTokenClient → Prop where
  | ofSettings {machine : Machine} {providerSettings : Json} {client : StsTokenClient}
      (built : fromProviderSettings machine providerSettings = .ok client) : Built client
  | ofRole (ecsRamRoleName regionId : Text) (credential : StsCredential) :
      Built ((EcsRamRoleClient.new ecsRamRoleName regionId).stsClient credential)

end Clients

section Signing

def urlencodeOpenapi (s : Text) : Text :=
  let s := byteSerialize (utf8 s)
  replace "%7E".toList "~".toList (replace "*".toList "%2A".toList (replace "+".toList "%20".toList s))

/-- `format!("{}={}", urlencode_openapi(k), urlencode_openapi(v))`. -/
def paramText (param : Text × Text) : Text := urlencodeOpenapi param.1 ++ '=' :: urlencodeOpenapi param.2

variable (machine : Machine)

def sign (strToSign secret : Text) : Text := Base64.encode (machine.hmacSha1 (utf8 secret) (utf8 strToSign))

/-- `params.iter().collect::<BTreeMap<_, _>>()`. The order of the bytes of names is that of their characters. -/
def collect (params : Params) : SortedMap Text Text :=
  (machine.iter params).foldl (fun map param => map.insert param.1 param.2) .empty

def canonicalizedParams (params : Params) : Text := ['&'].intercalate ((collect machine params).entries.map paramText)

def stringToSign (params : Params) : Text :=
  "POST&%2F&".toList ++ urlencodeOpenapi (canonicalizedParams machine params)

/-- `{b:02X}` of every byte. -/
def hexNonce : Text := machine.nonce.flatMap fun b => [hexDigitUpper (b.toNat / 16), hexDigitUpper (b.toNat % 16)]

variable (client : StsTokenClient) (apiName : Text)

/-- The parameters as `build_params` signs them. -/
def unsignedParams (params : Params) : Params :=
  ((((((((((params.insert "Version".toList "2016-01-20".toList).insert "Action".toList apiName).insert
    "Format".toList "json".toList).insert "RegionId".toList client.regionId).insert
    "Timestamp".toList machine.now).insert "SignatureMethod".toList "HMAC-SHA1".toList).insert
    "SignatureType".toList []).insert "SignatureVersion".toList "1.0".toList).insert
    "SignatureNonce".toList (hexNonce machine)).insert "AccessKeyId".toList client.ak).insert
    "SecurityToken".toList client.sts

def buildParams (params : Params) : Params :=
  let params := unsignedParams machine client apiName params
  let stringSigned := sign machine (stringToSign machine params) (client.sk ++ "&".toList)
  params.insert "Signature".toList stringSigned

/-- The URL of `do_request`. -/
def serverUrl (params : Params) : Text :=
  "https://".toList ++ client.endpoint ++ "/?".toList ++ ['&'].intercalate ((machine.iter params).map paramText)

/-- The parameters of `get_secret`. -/
def getSecretRequest (name : Text) (annotations : AliSecretAnnotations) : Params :=
  (((AList.insert "SecretName".toList name ∅).insert "VersionStage".toList annotations.versionStage).insert
    "VersionId".toList annotations.versionId).insert "FetchExtendedConfig".toList "true".toList

/-- The URL that `get_secret` posts to. -/
def getSecretUrl (name : Text) (annotations : AliSecretAnnotations) : Text :=
  serverUrl machine client (buildParams machine client "GetSecretValue".toList (getSecretRequest name annotations))

/-- The string that `get_secret` has signed. -/
def getSecretSigned (name : Text) (annotations : AliSecretAnnotations) : Text :=
  stringToSign machine (unsignedParams machine client "GetSecretValue".toList (getSecretRequest name annotations))

end Signing

section Server

/-- The query percent-encode set of URLs with a special scheme. -/
def specialQuerySet (c : Char) : Bool := querySet c || c == '\''

/-- The query that a request to the URL has. -/
def sentQuery (url : Text) : Option Text :=
  match (Url.cleaned url).dropWhile fun c => !Url.isTail c with
  | '?' :: rest => some (encode specialQuerySet (rest.takeWhile (· != '#')))
  | _ => none

/-- The parameters of a query, less the signature. -/
def received (query : Text) : List (Text × Text) := (parse query).filter fun param => param.1 ≠ "Signature".toList

/-- The parameters encoded, in the order of their names, and joined. -/
def canonicalQuery (query : Text) : Text :=
  let encoded := (received query).map fun param => (encode reservedSet param.1, encode reservedSet param.2)
  ['&'].intercalate ((encoded.insertionSort fun one other => one.1 ≤ other.1).map fun param =>
    param.1 ++ '=' :: param.2)

/-- The string to sign, with the joined parameters encoded once more. -/
def obtained (query : Text) : Text := "POST&%2F&".toList ++ encode reservedSet (canonicalQuery query)

/-- The string with the joined parameters as they are. -/
def obtainedUnencoded (query : Text) : Text := "POST&%2F&".toList ++ canonicalQuery query

end Server

section Strings

variable {machine : Machine} {params : Params} {client : StsTokenClient} {key value : Text}

theorem urlencodeOpenapi_eq (s : Text) : urlencodeOpenapi s = encode reservedSet s := patched_eq_encode s

theorem paramText_eq : paramText = pairText reservedSet := by
  funext param
  rw [paramText, urlencodeOpenapi_eq, urlencodeOpenapi_eq, pairText]

/-- The pairs as both sides join them. -/
theorem joined_eq (pairs : List (Text × Text)) :
    ['&'].intercalate (pairs.map paramText) = serialize reservedSet pairs := by
  rw [paramText_eq]
  rfl

theorem stringToSign_eq : stringToSign machine params =
    "POST&%2F&".toList ++ encode reservedSet (serialize reservedSet (collect machine params).entries) := by
  unfold stringToSign canonicalizedParams
  rw [joined_eq, urlencodeOpenapi_eq]

theorem serverUrl_eq : serverUrl machine client params =
    "https://".toList ++ client.endpoint ++ "/?".toList ++ serialize reservedSet (machine.iter params) := by
  unfold serverUrl
  rw [joined_eq]

theorem keys_pairsOf : (pairsOf params).map Prod.fst = params.keys := by
  rw [pairsOf, List.map_map]
  rfl

theorem mem_pairsOf : (key, value) ∈ pairsOf params ↔ params.lookup key = some value := by
  rw [← Option.mem_def, AList.mem_lookup_iff, pairsOf, List.mem_map]
  constructor
  · rintro ⟨entry, listed, same⟩
    cases same
    exact listed
  · intro listed
    exact ⟨_, listed, rfl⟩

/-- The map that is signed has the entries of the one that is sent. -/
theorem collect_perm : (collect machine params).entries.Perm (pairsOf params) := by
  have keys : ((machine.iter params).map Prod.fst).Perm params.keys := by
    rw [← keys_pairsOf]
    exact (machine.iter_perm params).map Prod.fst
  have distinct : ((machine.iter params).map Prod.fst).Nodup := keys.nodup_iff.mpr params.keys_nodup
  exact (SortedMap.entries_foldl_insert distinct).trans (machine.iter_perm params)

/-- What is signed tells what is under every name. -/
theorem stringToSign_injective {machine' : Machine} {params' : Params}
    (same : stringToSign machine params = stringToSign machine' params') (key : Text) :
    params.lookup key = params'.lookup key := by
  rw [stringToSign_eq, stringToSign_eq] at same
  have entries : (collect machine params).entries = (collect machine' params').entries :=
    serialize_injective delimits_reservedSet (encode_injective delimits_reservedSet (List.append_cancel_left same))
  have perm : (pairsOf params).Perm (pairsOf params') := by
    have signed : (collect machine params).entries.Perm (pairsOf params) := collect_perm
    have signed' : (collect machine' params').entries.Perm (pairsOf params') := collect_perm
    rw [entries] at signed
    exact signed.symm.trans signed'
  refine Option.ext fun value => ?_
  rw [← mem_pairsOf, ← mem_pairsOf, perm.mem_iff]

end Strings

section Sending

variable {machine : Machine} {params : Params} {client : StsTokenClient}

theorem Built.endpoint_eq (built : Built client) : client.endpoint = endpointOf client.regionId := by
  cases built with
  | ofRole => rfl
  | ofSettings built =>
    obtain ⟨settings, _, later⟩ := bind_ok.mp built
    obtain ⟨credential, _, parts⟩ := bind_ok.mp later
    split at parts
    · cases parts
      rfl
    · cases parts

/-- A character that a request is sent with as it is. -/
def sentAsIs (c : Char) : Bool := !Url.c0OrSpace c && !Url.isTail c && !specialQuerySet c

theorem sentAsIs_of_serialized {pairs : List (Text × Text)} {c : Char} (listed : c ∈ serialize reservedSet pairs) :
    sentAsIs c = true := by
  rcases mem_serialize listed with kept | among | rfl | rfl
  · have free : unreserved c = true := by
      rw [reservedSet, Bool.not_eq_false'] at kept
      exact kept
    have all : ∀ n < 0x80, unreserved (Char.ofNat n) = true → sentAsIs (Char.ofNat n) = true := by decide +kernel
    have here := all c.toNat (unreserved_low free)
    rw [Char.ofNat_toNat] at here
    exact here free
  · have all : written.all sentAsIs = true := by decide
    exact List.all_eq_true.mp all c among
  · decide
  · decide

/-- The query that is sent is what stands behind the question mark, if there is none before it. -/
theorem sentQuery_serverUrl (clean : ∀ c ∈ client.endpoint, Url.isTail c = false) :
    sentQuery (serverUrl machine client params) = some (serialize reservedSet (machine.iter params)) := by
  have asIs : ∀ c ∈ serialize reservedSet (machine.iter params),
      Url.c0OrSpace c = false ∧ Url.isTail c = false ∧ specialQuerySet c = false := by
    intro c listed
    simpa [sentAsIs, and_assoc] using sentAsIs_of_serialized listed
  rw [serverUrl_eq]
  generalize serialize reservedSet (machine.iter params) = query at asIs
  have visible : Url.Visible ('?' :: query) := List.forall_mem_cons.mpr ⟨rfl, fun c listed => (asIs c listed).1⟩
  have kept : Url.cleaned ("https://".toList ++ client.endpoint ++ "/?".toList ++ query) =
      ("https://".toList ++ Url.withoutNewlines client.endpoint ++ ['/']) ++ '?' :: query := by
    have ends : Url.dropEnd ('?' :: query) = '?' :: query := by
      have stays := @Url.dropEnd_append ('?' :: query) [] visible
      rwa [List.append_nil, show Url.dropEnd [] = [] from rfl, List.append_nil] at stays
    have scheme : Url.Visible "https://".toList := clean_of_any rfl
    have some_ : "https://".toList ≠ [] := by decide
    rw [show "/?".toList = ['/', '?'] from rfl, List.append_assoc, List.append_assoc,
      Url.cleaned_append some_ scheme,
      List.cons_append, List.singleton_append, Url.dropEnd_append_cons rfl, ends, Url.withoutNewlines_append,
      @Url.withoutNewlines_visible ('/' :: '?' :: query) (List.forall_mem_cons.mpr ⟨rfl, visible⟩)]
    simp
  have front : ∀ c ∈ "https://".toList ++ Url.withoutNewlines client.endpoint ++ ['/'], (!Url.isTail c) = true := by
    intro c listed
    rw [Bool.not_eq_true']
    rcases List.mem_append.mp listed with before | slash
    · rcases List.mem_append.mp before with scheme | host
      · exact clean_of_any rfl c scheme
      · exact Url.tails_withoutNewlines.mpr clean c host
    · obtain rfl := List.mem_singleton.mp slash
      rfl
  have noHash : ∀ c ∈ query, (c != '#') = true := by
    intro c listed
    have tail := (asIs c listed).2.1
    rw [Url.isTail, Bool.or_eq_false_iff] at tail
    exact bne_iff_ne.mpr (beq_eq_false_iff_ne.mp tail.2)
  rw [sentQuery, kept, List.dropWhile_append_of_pos front]
  show some (encode specialQuerySet (query.takeWhile (· != '#'))) = some query
  rw [List.takeWhile_eq_self_iff.mpr noHash, encode_of_clean fun c listed => (asIs c listed).2.2]

end Sending

section Agreement

variable {machine : Machine} {params : Params} {client : StsTokenClient}

/-- Names that are their own encoding, and not the one of the signature. -/
def Ordinary (params : Params) : Prop := ∀ key ∈ params, key ≠ "Signature".toList ∧ encode reservedSet key = key

theorem ordinary_empty : Ordinary ∅ := fun key listed => absurd listed (AList.notMem_empty key)

theorem Ordinary.insert {key value : Text} (ordinary : Ordinary params)
    (named : key ≠ "Signature".toList ∧ encode reservedSet key = key) : Ordinary (params.insert key value) := by
  intro other listed
  rcases (AList.mem_insert params).mp listed with rfl | before
  · exact named
  · exact ordinary other before

theorem named_of_clean {key : Text} (clean : key.any reservedSet = false) (other : key ≠ "Signature".toList) :
    key ≠ "Signature".toList ∧ encode reservedSet key = key :=
  ⟨other, encode_of_clean (clean_of_any clean)⟩

theorem ordinary_getSecretRequest (name : Text) (annotations : AliSecretAnnotations) :
    Ordinary (getSecretRequest name annotations) := by
  refine Ordinary.insert (Ordinary.insert (Ordinary.insert (Ordinary.insert ordinary_empty ?_) ?_) ?_) ?_
  all_goals exact named_of_clean rfl (by decide)

/-- None of the names that `build_params` adds is encoded. -/
theorem Ordinary.unsignedParams (ordinary : Ordinary params) (apiName : Text) :
    Ordinary (unsignedParams machine client apiName params) := by
  iterate 11 refine Ordinary.insert ?_ (named_of_clean rfl (by decide))
  exact ordinary

/-- Less the signature, what is received is what is signed. -/
theorem received_perm (ordinary : Ordinary params) (signature : Text) :
    (received (serialize reservedSet (machine.iter (params.insert "Signature".toList signature)))).Perm
      (pairsOf params) := by
  have fresh : "Signature".toList ∉ params := fun listed => (ordinary _ listed).1 rfl
  have pairs : pairsOf (params.insert "Signature".toList signature) = ("Signature".toList, signature) ::
      pairsOf params := by
    rw [pairsOf, AList.entries_insert_of_notMem fresh]
    rfl
  have kept : ∀ pair ∈ pairsOf params, decide (pair.1 ≠ "Signature".toList) = true := by
    intro pair listed
    have named : pair.1 ∈ params := AList.lookup_isSome.mp (Option.isSome_of_eq_some (mem_pairsOf.mp listed))
    exact decide_eq_true (ordinary pair.1 named).1
  have sent :=
    (machine.iter_perm (params.insert "Signature".toList signature)).filter fun param => param.1 ≠ "Signature".toList
  rw [received, parse_serialize delimits_reservedSet]
  refine sent.trans ?_
  rw [pairs, List.filter_cons_of_neg (by simp), List.filter_eq_self.mpr kept]

/-- Sorting by the encoded names gives the order that was signed. -/
theorem canonicalQuery_signed (ordinary : Ordinary params) (signature : Text) :
    canonicalQuery (serialize reservedSet (machine.iter (params.insert "Signature".toList signature))) =
      serialize reservedSet (collect machine params).entries := by
  have arrived := (@received_perm machine params ordinary signature).trans (@collect_perm machine params).symm
  have perm := arrived.map fun param : Text × Text => (encode reservedSet param.1, encode reservedSet param.2)
  have named : ∀ pair ∈ (collect machine params).entries, encode reservedSet pair.1 = pair.1 := by
    intro pair listed
    have stored : pair.1 ∈ params :=
      AList.lookup_isSome.mp (Option.isSome_of_eq_some (mem_pairsOf.mp (collect_perm.mem_iff.mp listed)))
    exact (ordinary pair.1 stored).2
  have ordered : ((collect machine params).entries.map fun param =>
      (encode reservedSet param.1, encode reservedSet param.2)).Pairwise fun one other => one.1 < other.1 := by
    refine List.pairwise_map.mpr ((collect machine params).sorted.imp_of_mem fun {one other} first second below => ?_)
    show encode reservedSet one.1 < encode reservedSet other.1
    rwa [named one first, named other second]
  unfold canonicalQuery
  dsimp only
  rw [SortedMap.insertionSort_of_perm ordered perm, List.map_map]
  rfl

/-- The parameters of the URL tell the string that was signed, for any request of these names. -/
theorem obtained_signed (ordinary : Ordinary params) (signature : Text) :
    obtained (serialize reservedSet (machine.iter (params.insert "Signature".toList signature))) =
      stringToSign machine params := by
  unfold obtained
  rw [canonicalQuery_signed ordinary, stringToSign_eq]

theorem isTail_endpointOf {regionId : Text} (clean : ∀ c ∈ regionId, Url.isTail c = false) :
    ∀ c ∈ endpointOf regionId, Url.isTail c = false := by
  intro c listed
  rcases List.mem_append.mp listed with before | behind
  · rcases List.mem_append.mp before with host | region
    · exact clean_of_any rfl c host
    · exact clean c region
  · exact clean_of_any rfl c behind

/-- A server that reads the URL of `get_secret` has the string that was signed, where the region has
neither a question mark nor a number sign; and no two maps have one string to sign. -/
theorem signed_is_sent :
    (∀ (machine : Machine) (client : StsTokenClient) (name : Text) (annotations : AliSecretAnnotations),
      Built client →
      (∀ c ∈ client.regionId, Url.isTail c = false) →
        (sentQuery (getSecretUrl machine client name annotations)).map obtained =
          some (getSecretSigned machine client name annotations)) ∧
    ∀ (machine machine' : Machine) (params params' : Params), (∃ key, params.lookup key ≠ params'.lookup key) →
      stringToSign machine params ≠ stringToSign machine' params' := by
  constructor
  · intro machine client name annotations built clean
    have endpoint : ∀ c ∈ client.endpoint, Url.isTail c = false := by
      rw [built.endpoint_eq]
      exact isTail_endpointOf clean
    have ordinary := @Ordinary.unsignedParams machine _ client (ordinary_getSecretRequest name annotations)
      "GetSecretValue".toList
    rw [getSecretUrl, sentQuery_serverUrl endpoint, Option.map_some, buildParams]
    exact congrArg some (obtained_signed ordinary _)
  · rintro machine machine' params params' ⟨key, differs⟩ same
    exact differs (stringToSign_injective same key)

def sampleMachine : Machine where
  iter := pairsOf
  iter_perm _ := .refl _
  readToString _ := .error "No such file or directory"
  now := "2024-01-01T00:00:00Z".toList
  nonce := []
  hmacSha1 _ _ := List.replicate 20 0

/-- A client of a role in a region. -/
def sampleClient (regionId : Text) : StsTokenClient :=
  (EcsRamRoleClient.new "role".toList regionId).stsClient { ak := "ak".toList, sk := "sk".toList, sts := "sts".toList }

/-- A secret in an ordinary region, and two maps of a parameter. -/
theorem signed_is_sent_sample :
    (sentQuery (getSecretUrl sampleMachine (sampleClient "cn-beijing".toList) "a b".toList ⟨[], []⟩)).map obtained =
        some (getSecretSigned sampleMachine (sampleClient "cn-beijing".toList) "a b".toList ⟨[], []⟩) ∧
      stringToSign sampleMachine (AList.singleton "a".toList "b=c".toList) ≠
        stringToSign sampleMachine (AList.singleton "a=b".toList "c".toList) :=
  ⟨signed_is_sent.1 sampleMachine _ _ _ (.ofRole _ _ _) (clean_of_any rfl),
    signed_is_sent.2 sampleMachine sampleMachine _ _ ⟨"a".toList, by decide⟩⟩

/-- The joined parameters have to be encoded once more, and a region can begin a query or a fragment. -/
theorem unencoded_differs :
    (sentQuery (getSecretUrl sampleMachine (sampleClient "cn-beijing".toList) "s".toList ⟨[], []⟩)).map
      obtainedUnencoded ≠
        some (getSecretSigned sampleMachine (sampleClient "cn-beijing".toList) "s".toList ⟨[], []⟩) ∧
      (∀ regionId ∈ ["cn?".toList, "cn#".toList],
        (sentQuery (getSecretUrl sampleMachine (sampleClient regionId) "s".toList ⟨[], []⟩)).map obtained ≠
          some (getSecretSigned sampleMachine (sampleClient regionId) "s".toList ⟨[], []⟩)) := by
  decide +kernel

end Agreement

end GuestComponents.Kms.Aliyun
