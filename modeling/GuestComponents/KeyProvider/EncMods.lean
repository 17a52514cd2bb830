import GuestComponents.Crypto.Backends
import GuestComponents.Lib.Base64
import GuestComponents.Lib.Json

/-! The encryption module of the CoCo key provider (`enc_mods`): what it makes of the
parameters of a request, the key that it takes or generates, and the annotation that
it returns. Files, random numbers, the KBS and the crates of the ciphers are outside
and are parameters. A JSON text stands for the value that it has. -/
namespace GuestComponents.KeyProvider
open Lib Lib.Text Crypto

def HARDCODED_KEY : List UInt8 :=
  [217, 155, 119, 5, 176, 186, 122, 22, 130, 149, 179, 163, 54, 114, 112, 176, 221, 155, 55, 27,
    245, 20, 202, 139, 155, 167, 240, 163, 55, 17, 218, 234]

def HARD_CODED_KEYID : Text := "kbs:///default/test-key/1".toList

def DEFAULT_KEY_REPO_PATH : Text := "/default/image-kek".toList

def KBS_RESOURCE_URL_PREFIX : Text := "kbs://".toList

def KBS_URL_PATH_PREFIX : Text := "kbs/v0/resource".toList

inductive Algorithm where
  | a256Gcm
  | a256Ctr
deriving DecidableEq

namespace Algorithm

def toText : Algorithm → Text
  | a256Gcm => "A256GCM".toList
  | a256Ctr => "A256CTR".toList

/-- The names of the variants, which `EnumString` reads. -/
def tryFrom (name : Text) : Option Algorithm :=
  if name = "A256GCM".toList then some a256Gcm
  else if name = "A256CTR".toList then some a256Ctr
  else none

/-- `Default`. -/
instance : Inhabited Algorithm := ⟨a256Gcm⟩

end Algorithm

/-- `crypto.rs::encrypt`. -/
def encrypt (crates : RustCrates) (data key iv : List UInt8) : Algorithm → Outcome (List UInt8)
  | .a256Gcm => do
    let encryptionKey ← fromSlice 32 key
    let nonce ← fromSlice 12 iv
    (Outcome.ofResult (crates.aeadEncrypt encryptionKey nonce data)).mapError
      fun e => s!"Decrypt failed: {e}"
  | .a256Ctr => do
    let key ← fromSlice 32 key
    let iv ← fromSlice 16 iv
    return crates.applyKeystream key iv data

structure InputParams where
  sample : Bool
  keyid : Option Text
  keypath : Option Text
  algorithm : Algorithm

/-- `split("::")`. -/
def splitColons : Text → List Text
  | [] => [[]]
  | ':' :: ':' :: rest => [] :: splitColons rest
  | c :: rest =>
    match splitColons rest with
    | [] => [[c]]
    | field :: fields => (c :: field) :: fields

/-- The fields of a parameter that have a value, the last ones first: a map that is collected keeps
the last value of a key. -/
def fields (input : Text) : List (Text × Text) :=
  ((splitColons input).filterMap (splitOnce '=')).reverse

/-- `parse_input_params`. The algorithm is read from the field `keypath`. -/
def parseInputParams (input : Text) : InputParams where
  sample := ((fields input).lookup "sample".toList).elim false fun sa => sa = "true".toList
  keyid := (fields input).lookup "keyid".toList
  keypath := (fields input).lookup "keypath".toList
  algorithm := (((fields input).lookup "keypath".toList).bind Algorithm.tryFrom).getD default

/-- What the key provider has from the machine that it runs on. -/
structure Machine where
  /-- `fs::read`. -/
  read : Text → Except String (List UInt8)
  /-- The bytes of `OsRng`, for the initialisation vector and then for the key. -/
  randomIv : Except String (Vector UInt8 12)
  randomKey : Except String (Vector UInt8 32)
  /-- `Uuid::new_v4`. -/
  uuid : Text

/-- The key id of a request, or a new one. -/
def keyId (machine : Machine) (inputParams : InputParams) : Text :=
  match inputParams.keyid with
  | some kid => kid
  | none => DEFAULT_KEY_REPO_PATH ++ '/' :: machine.uuid

/-- The parameters of an encryption, as `generate_key_parameters` returns them. -/
structure KeyParameters where
  key : List UInt8
  iv : List UInt8
  kid : Text

/-- `generate_key_parameters`. -/
def generateKeyParameters (machine : Machine) (inputParams : InputParams) : Outcome KeyParameters :=
  if inputParams.sample then
    .ok { key := HARDCODED_KEY, iv := List.replicate 12 0, kid := HARD_CODED_KEYID }
  else match inputParams.keypath with
    | some kpath => do
      let key ← (Outcome.ofResult (machine.read kpath)).mapError fun e => s!"read Key file failed: {e}"
      let iv ← Outcome.ofResult machine.randomIv
      return { key, iv := iv.toList, kid := keyId machine inputParams }
    | none => do
      let iv ← Outcome.ofResult machine.randomIv
      let key ← Outcome.ofResult machine.randomKey
      return { key := key.toList, iv := iv.toList, kid := keyId machine inputParams }

/-- `strip_prefix`, and the text itself where it has another start. -/
def stripPrefixOr (start text : Text) : Text :=
  if start.isPrefixOf text then text.drop start.length else text

/-- `normalize_path`: the KBS address and the path of the key. -/
def normalizePath (keyid : Text) : Outcome (Text × Text) :=
  match (stripPrefixOr KBS_RESOURCE_URL_PREFIX keyid).splitOn '/' with
  | [addr, repository, type, tag] => .ok (addr, repository ++ '/' :: type ++ '/' :: tag)
  | _ => .bail s!"Resource path {String.ofList keyid} must follow one of the following formats:
                'kbs:///<repository>/<type>/<tag>'
                'kbs://<kbs-addr>/<repository>/<type>/<tag>'
                '<kbs-addr>/<repository>/<type>/<tag>'
                '/<repository>/<type>/<tag>'
            "

/-- The KBS and the crates that reach it. -/
structure Kbs where
  Url : Type
  KeyPair : Type
  /-- A token that the private key has signed. -/
  sign : KeyPair → Except String Text
  /-- `Url::set_path`. -/
  setPath : Url → Text → Url
  /-- `post` with the token, whatever the status of the response. -/
  post : Url → (token : Text) → (body : List UInt8) → Except String Unit

/-- `kbs.rs::register_kek`. -/
def registerKek (kbs : Kbs) (privateKey : kbs.KeyPair) (kbsAddr : kbs.Url) (key : List UInt8) (kid : Text) :
    Outcome Unit := do
  let kid := stripPrefixOr ['/'] kid
  let token ← Outcome.ofResult (kbs.sign privateKey)
  Outcome.ofResult (kbs.post (kbs.setPath kbsAddr (KBS_URL_PATH_PREFIX ++ '/' :: kid)) token key)

/-- The address and the private key of the command line. -/
structure KbsParameter (kbs : Kbs) where
  addr : Option kbs.Url
  privateKey : Option kbs.KeyPair

/-- The registration of a key that is not the sample's, where there is a KBS. -/
def registerIfConfigured {kbs : Kbs} (kbsParameter : KbsParameter kbs) (sample : Bool) (key : List UInt8)
    (kPath : Text) : Outcome Unit :=
  match kbsParameter.addr, kbsParameter.privateKey with
  | some addr, some privateKey =>
    if sample then .ok ()
    else (registerKek kbs privateKey addr key kPath).mapError fun e => s!"register KEK failed: {e}"
  | _, _ => .ok ()

structure AnnotationPacket where
  kid : Text
  wrappedData : Text
  iv : Text
  wrapType : Text
deriving DecidableEq

/-- The value that `Serialize` writes. -/
def AnnotationPacket.toJson (packet : AnnotationPacket) : Json :=
  .object [("kid".toList, .string packet.kid), ("wrapped_data".toList, .string packet.wrappedData),
    ("iv".toList, .string packet.iv), ("wrap_type".toList, .string packet.wrapType)]

/-- `enc_optsdata_gen_anno` for its first parameter. -/
def encOptsdata (crates : RustCrates) (machine : Machine) {kbs : Kbs} (kbsParameter : KbsParameter kbs)
    (optsdata : List UInt8) (param : Text) : Outcome AnnotationPacket := do
  let inputParams := parseInputParams param
  let generated ← (generateKeyParameters machine inputParams).mapError
    fun e => s!"generating key params: {e}"
  let (kbsAddr, kPath) ← normalizePath generated.kid
  let algorithm := inputParams.algorithm
  let encryptOptsdata ← (encrypt crates optsdata generated.key generated.iv algorithm).mapError
    fun e => s!"Encrypt failed: {e}"
  registerIfConfigured kbsParameter inputParams.sample generated.key kPath
  return {
    kid := KBS_RESOURCE_URL_PREFIX ++ kbsAddr ++ '/' :: kPath
    wrappedData := Base64.encode encryptOptsdata
    iv := Base64.encode generated.iv
    wrapType := algorithm.toText }

/-- `enc_optsdata_gen_anno`. -/
def encOptsdataGenAnno (crates : RustCrates) (machine : Machine) {kbs : Kbs} (kbsParameter : KbsParameter kbs)
    (optsdata : List UInt8) (params : List Text) : Outcome Json :=
  match params with
  | [] => .panic "index out of bounds: the len is 0 but the index is 0"
  | param :: _ => return (← encOptsdata crates machine kbsParameter optsdata param).toJson

end GuestComponents.KeyProvider
