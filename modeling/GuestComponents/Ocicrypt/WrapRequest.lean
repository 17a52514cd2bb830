import GuestComponents.Lib.Json
import GuestComponents.Lib.Outcome
import GuestComponents.Ocicrypt.KeyWrap

/-! The requests of the key provider protocol (`keywrap/keyprovider/mod.rs`), as
`wrap_keys` writes them. A key provider service answers the JSON of a request; with such
services, the wrapper of a key provider sends exactly this request (`wrapKeys_servicesOf`). -/
namespace GuestComponents.Ocicrypt
open Lib Lib.Text

/-- `base64_hashmap_s`. -/
def Params.toJson (param : Params) : Json :=
  Json.ofMap (Json.ofList fun value => .string (Base64.encode value)) param

def DecryptConfig.toJson (config : DecryptConfig) : Json :=
  .object [("Parameters".toList, Params.toJson config.param)]

def EncryptConfig.toJson (config : EncryptConfig) : Json :=
  .object [("Parameters".toList, Params.toJson config.param),
    ("DecryptConfig".toList, Json.ofOption DecryptConfig.toJson config.decryptConfig)]

structure KeyWrapParams where
  ec : Option EncryptConfig
  optsData : Option Text

structure KeyUnwrapParams where
  dc : Option DecryptConfig
  annotation : Option Text

structure KeyProviderKeyWrapProtocolInput where
  op : Text
  keyWrapParams : KeyWrapParams
  keyUnwrapParams : KeyUnwrapParams

def KeyWrapParams.toJson (params : KeyWrapParams) : Json :=
  .object [("ec".toList, Json.ofOption EncryptConfig.toJson params.ec),
    ("optsdata".toList, Json.ofOption .string params.optsData)]

def KeyUnwrapParams.toJson (params : KeyUnwrapParams) : Json :=
  .object [("dc".toList, Json.ofOption DecryptConfig.toJson params.dc),
    ("annotation".toList, Json.ofOption .string params.annotation)]

def KeyProviderKeyWrapProtocolInput.toJson (input : KeyProviderKeyWrapProtocolInput) : Json :=
  .object [("op".toList, .string input.op), ("keywrapparams".toList, input.keyWrapParams.toJson),
    ("keyunwrapparams".toList, input.keyUnwrapParams.toJson)]

/-- The request for options data. -/
def wrapInput (encConfig : EncryptConfig) (optsDataStr : Text) : KeyProviderKeyWrapProtocolInput where
  op := "keywrap".toList
  keyWrapParams := { ec := some encConfig, optsData := some optsDataStr }
  keyUnwrapParams := { dc := none, annotation := none }

/-- The request for an annotation. -/
def unwrapInput (dcConfig : DecryptConfig) (annotationStr : Text) : KeyProviderKeyWrapProtocolInput where
  op := "keyunwrap".toList
  keyWrapParams := { ec := none, optsData := none }
  keyUnwrapParams := { dc := some dcConfig, annotation := some (Base64.encode (utf8 annotationStr)) }

/-- `wrap_keys` up to the request. -/
def KeyProvider.wrapRequest (self : KeyProvider) (encConfig : EncryptConfig) (optsData : Bytes) :
    Except String KeyProviderKeyWrapProtocolInput :=
  match encConfig.param.lookup self.provider with
  | none => .error
    s!"keyprovider: unknown provider {String.ofList self.provider} for operation keywrap"
  | some _ =>
    match fromUtf8 optsData with
    | none => .error "keyprovider: can not convert option data to string"
    | some text => .ok (wrapInput encConfig text)

/-- Services that answer the JSON of requests. -/
def servicesOf (answer : Transport → Json → Except String (Option Bytes)) : Services where
  keywrap transport encConfig text := answer transport (wrapInput encConfig text).toJson
  keyunwrap transport dcConfig text := answer transport (unwrapInput dcConfig text).toJson

/-- The wrapper asks the service with its request. -/
theorem wrapKeys_servicesOf (answer : Transport → Json → Except String (Option Bytes)) (self : KeyProvider)
    (encConfig : EncryptConfig) (optsData : Bytes) :
    (keyProviderKeyWrapper (servicesOf answer) self).wrapKeys encConfig optsData =
      self.wrapRequest encConfig optsData >>= fun input =>
        KeyProvider.wrapTransport self.attrs >>= fun transport =>
          replied (answer transport input.toJson) := by
  simp only [keyProviderKeyWrapper, KeyProvider.wrapRequest]
  cases encConfig.param.lookup self.provider with
  | none => rfl
  | some values =>
    cases fromUtf8 optsData with
    | none => rfl
    | some text =>
      cases KeyProvider.wrapTransport self.attrs with
      | error error => rfl
      | ok transport => rfl

end GuestComponents.Ocicrypt
