import GuestComponents.KeyProvider.EncMods

/-! The service of the CoCo key provider (`grpc/mod.rs`): how it reads a request
(`protocol/keyprovider_structs.rs`), what it encrypts, and the status that refuses a
request. -/
namespace GuestComponents.KeyProvider
open Lib Lib.Text Crypto

structure Dc where
  parameters : List (Text × List Text)

structure Ec where
  parameters : List (Text × List Text)
  decryptConfig : Dc

structure KeyWrapParams where
  ec : Option Ec
  optsdata : Option Text

structure KeyUnwrapParams where
  dc : Option Dc
  annotation : Option Text

structure KeyProviderInput where
  op : Text
  keywrapparams : KeyWrapParams
  keyunwrapparams : KeyUnwrapParams

/-- `HashMap<String, Vec<String>>`. -/
def readParameters : Json → Except String (List (Text × List Text)) :=
  Json.readMap (Json.readArray Json.readString)

def Dc.ofJson (value : Json) : Except String Dc := do
  let parameters ← value.field readParameters "Parameters"
  return { parameters }

def Ec.ofJson (value : Json) : Except String Ec := do
  let parameters ← value.field readParameters "Parameters"
  let decryptConfig ← value.field Dc.ofJson "DecryptConfig"
  return { parameters, decryptConfig }

def KeyWrapParams.ofJson (value : Json) : Except String KeyWrapParams := do
  let ec ← value.fieldOr (Json.readOption Ec.ofJson) none "ec"
  let optsdata ← value.fieldOr (Json.readOption Json.readString) none "optsdata"
  return { ec, optsdata }

def KeyUnwrapParams.ofJson (value : Json) : Except String KeyUnwrapParams := do
  let dc ← value.fieldOr (Json.readOption Dc.ofJson) none "dc"
  let annotation ← value.fieldOr (Json.readOption Json.readString) none "annotation"
  return { dc, annotation }

def KeyProviderInput.ofJson (value : Json) : Except String KeyProviderInput := do
  let op ← value.field Json.readString "op"
  let keywrapparams ← value.field KeyWrapParams.ofJson "keywrapparams"
  let keyunwrapparams ← value.field KeyUnwrapParams.ofJson "keyunwrapparams"
  return { op, keywrapparams, keyunwrapparams }

/-- `tonic::Status`, by its code. -/
inductive Status where
  | invalidArgument (message : String)
  | aborted (message : String)
  | internal (message : String)

/-- The parameters that are base64 of a text. -/
def decodeParameters (parameters : List Text) : List Text :=
  parameters.filterMap fun p => (Base64.decode p).bind fromUtf8

/-- `wrap_key` up to the encryption: the options data and the parameters that it is called with. -/
def readRequest (request : Json) : Except (Fault Status) (List UInt8 × List Text) := do
  let input ← Fault.ofResult (fun e => .invalidArgument s!"parse key provider input failed: {e}")
    (KeyProviderInput.ofJson request)
  let optsdata ← Fault.okOr (.invalidArgument "illegal keywrapparams without optsdata")
    input.keywrapparams.optsdata
  let ec ← Fault.okOr (.invalidArgument "illegal keywrapparams without ec") input.keywrapparams.ec
  let parameters ← Fault.okOr
    (.invalidArgument "illegal encryption provider without attestation-agent")
    (ec.parameters.lookup "attestation-agent".toList)
  let optsdata ← Fault.okOr (.aborted "base64 decode") (Base64.decode optsdata)
  return (optsdata, decodeParameters parameters)

/-- `wrap_key`: the text of the reply's annotation, by its value. -/
def wrapKey (crates : RustCrates) (machine : Machine) {kbs : Kbs} (kbsParameter : KbsParameter kbs)
    (request : Json) : Except (Fault Status) Json := do
  let (optsdata, params) ← readRequest request
  Fault.ofOutcome (fun e => .internal s!"encrypt failed: {e}")
    (encOptsdataGenAnno crates machine kbsParameter optsdata params)

end GuestComponents.KeyProvider
