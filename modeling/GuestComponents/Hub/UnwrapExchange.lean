import GuestComponents.KeyProvider.WrapProtocol
import GuestComponents.Ocicrypt.Unwrapping

/-! The unwrap call between ocicrypt-rs in the image client and the ttrpc server of the
hub (`hub/src/bin/ttrpc_server`). The request is written by one crate and read by the
other, and so is the reply; `unwrapInput_ofJson` says what the hub reads, and
`keyUnwrapOutput_ofJson` what ocicrypt-rs reads in the answer. Put together, a key
provider that the hub serves unwraps what the hub unwraps (`hub_answers_unwrap`). -/
namespace GuestComponents.Hub
open Lib Lib.Text
-- `message/mod.rs` declares the structures of `keyprovider_structs.rs` over again
open KeyProvider (KeyProviderInput KeyWrapParams KeyUnwrapParams Dc)
open Ocicrypt (Bytes DecryptConfig Transport unwrapInput servicesOf keyProviderKeyWrapper)

/-- `get_annotation`. -/
def getAnnotation (self : KeyProviderInput) : Except String Bytes :=
  match self.keyunwrapparams.annotation with
  | none => .error "Illegal UnwrapKey request: no AnnotationPacket given."
  | some annotationBase64 =>
    match Base64.decode annotationBase64 with
    | none => .error "invalid base64"
    | some annotation => .ok annotation

structure KeyUnwrapResults where
  optsdata : Bytes

structure KeyUnwrapOutput where
  keyunwrapresults : KeyUnwrapResults

/-- A `Vec<u8>` is written as the list of its numbers. -/
def bytesToJson : Bytes → Json := Json.ofList fun byte => .number byte.toNat

def KeyUnwrapResults.toJson (results : KeyUnwrapResults) : Json :=
  .object [("optsdata".toList, bytesToJson results.optsdata)]

def KeyUnwrapOutput.toJson (output : KeyUnwrapOutput) : Json :=
  .object [("keyunwrapresults".toList, output.keyunwrapresults.toJson)]

/-- `un_wrap_key`, by the message of the status that refuses a request. -/
def unWrapKey (unwrapKey : Bytes → Except String Bytes) (request : Json) : Except String Json :=
  match KeyProviderInput.ofJson request with
  | .error _ => .error "[ERROR] UnwrapKey Parse request failed"
  | .ok keyProviderInput =>
    match getAnnotation keyProviderInput with
    | .error _ => .error "[ERROR] UnwrapKey Parse request failed"
    | .ok annotationPacket =>
      match unwrapKey annotationPacket with
      | .error _ => .error "[CDH] [ERROR]: UnwrapKey failed"
      | .ok decryptedOptsdata => .ok (KeyUnwrapOutput.toJson ⟨⟨decryptedOptsdata⟩⟩)

section Client

/-! The reply on the side of ocicrypt-rs (`keywrap/keyprovider/mod.rs`). -/

def readByte : Json → Except String UInt8
  | .number value => if 0 ≤ value ∧ value < 256 then .ok (UInt8.ofNat value.toNat)
    else .error "invalid value, expected u8"
  | _ => .error "invalid type, expected u8"

/-- The results of a wrapping and of an unwrapping: a `Vec<u8>` in one field. -/
def readResults (name : String) (value : Json) : Except String Bytes :=
  value.field (Json.readArray readByte) name

structure KeyProviderKeyWrapProtocolOutput where
  keyWrapResults : Option Bytes
  keyUnwrapResults : Option Bytes

def KeyProviderKeyWrapProtocolOutput.ofJson (value : Json) :
    Except String KeyProviderKeyWrapProtocolOutput := do
  let keyWrapResults ← value.fieldOr (Json.readOption (readResults "annotation")) none "keywrapresults"
  let keyUnwrapResults ← value.fieldOr (Json.readOption (readResults "optsdata")) none "keyunwrapresults"
  return { keyWrapResults, keyUnwrapResults }

/-- `from_ttrpc` on the hub's reply, for an unwrapping: the options data in it, if any. -/
def fromTtrpc (reply : Except String Json) : Except String (Option Bytes) :=
  match reply with
  | .error status => .error s!"keyprovider: Error from ttrpc server for \"keyunwrap\" operation: {status}"
  | .ok value =>
    match KeyProviderKeyWrapProtocolOutput.ofJson value with
    | .error _ => .error "Error while deserializing ttrpc output on \"keyunwrap\" operation"
    | .ok output => .ok output.keyUnwrapResults

/-- What answers a request: the hub over ttrpc, others over other transports. -/
def answerOf (unwrapKey : Bytes → Except String Bytes) (others : Json → Except String (Option Bytes)) :
    Transport → Json → Except String (Option Bytes)
  | .ttrpc _, request => fromTtrpc (unWrapKey unwrapKey request)
  | _, request => others request

end Client

/-- The hub reads the request as it was meant. -/
theorem unwrapInput_ofJson (dcConfig : DecryptConfig) (annotationStr : Text) :
    KeyProviderInput.ofJson (unwrapInput dcConfig annotationStr).toJson = .ok {
      op := "keyunwrap".toList
      keywrapparams := ⟨none, none⟩
      keyunwrapparams := {
        dc := some ⟨dcConfig.param.map fun entry => (entry.1, entry.2.map Base64.encode)⟩
        annotation := some (Base64.encode (utf8 annotationStr)) } } := by
  have dc := KeyProvider.dc_ofJson dcConfig
  show ((((Dc.ofJson dcConfig.toJson).map some).bind _).bind _) = _
  rw [dc]
  rfl

theorem readByte_number (byte : UInt8) : readByte (.number byte.toNat) = .ok byte := by
  have below : byte.toNat < 256 := byte.toNat_lt
  have inRange : (0 : Int) ≤ byte.toNat ∧ (byte.toNat : Int) < 256 := by omega
  rw [readByte, if_pos inRange]
  simp

theorem readArray_bytesToJson (bytes : Bytes) :
    Json.readArray readByte (bytesToJson bytes) = .ok bytes := by
  have reads := Json.readArray_ofList readByte_number bytes
  rw [List.map_id'] at reads
  exact reads

/-- The client reads the reply as it was meant. -/
theorem keyUnwrapOutput_ofJson (optsdata : Bytes) :
    KeyProviderKeyWrapProtocolOutput.ofJson (KeyUnwrapOutput.toJson ⟨⟨optsdata⟩⟩) =
      .ok ⟨none, some optsdata⟩ := by
  show (((Json.readArray readByte (bytesToJson optsdata)).map some).bind _) = _
  rw [readArray_bytesToJson]
  rfl

theorem getAnnotation_unwrapInput (dcConfig : DecryptConfig) (annotationStr : Text) :
    (KeyProviderInput.ofJson (unwrapInput dcConfig annotationStr).toJson >>= getAnnotation) =
      .ok (utf8 annotationStr) := by
  rw [unwrapInput_ofJson]
  show (match Base64.decode (Base64.encode (utf8 annotationStr)) with
    | none => Except.error "invalid base64"
    | some annotation => .ok annotation) = _
  rw [Base64.decode_encode]

/-- The server on a request of ocicrypt-rs hands its annotation to the hub and the hub's
answer back. -/
theorem unWrapKey_unwrapInput (unwrapKey : Bytes → Except String Bytes) (dcConfig : DecryptConfig)
    (annotationStr : Text) :
    unWrapKey unwrapKey (unwrapInput dcConfig annotationStr).toJson =
      match unwrapKey (utf8 annotationStr) with
      | .error _ => .error "[CDH] [ERROR]: UnwrapKey failed"
      | .ok optsdata => .ok (KeyUnwrapOutput.toJson ⟨⟨optsdata⟩⟩) := by
  have read := getAnnotation_unwrapInput dcConfig annotationStr
  obtain ⟨input, parsed, found⟩ := bind_ok.mp read
  rw [unWrapKey, parsed]
  show (match getAnnotation input with
    | .error _ => _
    | .ok annotationPacket => _) = _
  rw [found]

/-- In an exchange between ocicrypt-rs and the hub, the annotation that the hub extracts is the
one that was sent, the options data that ocicrypt-rs extracts is what the hub put into its
reply, and so `unwrap_keys` over ttrpc returns the key that the hub has decrypted from the annotation. -/
theorem hub_answers_unwrap (unwrapKey : Bytes → Except String Bytes)
    (others : Json → Except String (Option Bytes)) (dcConfig : DecryptConfig) (annotationStr : Text) :
    (KeyProviderInput.ofJson (unwrapInput dcConfig annotationStr).toJson >>= getAnnotation) =
      .ok (utf8 annotationStr) ∧
    (∀ optsdata, fromTtrpc (.ok (KeyUnwrapOutput.toJson ⟨⟨optsdata⟩⟩)) = .ok (some optsdata)) ∧
    ∀ (provider uri : Text) (native : Option Text) (optsdata : Bytes),
      (keyProviderKeyWrapper (servicesOf (answerOf unwrapKey others))
          ⟨provider, ⟨none, none, some uri, native⟩⟩).unwrapKeys dcConfig (utf8 annotationStr) = .ok optsdata ↔
        unwrapKey (utf8 annotationStr) = .ok optsdata := by
  have reply (optsdata : Bytes) :
      fromTtrpc (.ok (KeyUnwrapOutput.toJson ⟨⟨optsdata⟩⟩)) = .ok (some optsdata) := by
    rw [fromTtrpc, keyUnwrapOutput_ofJson]
  refine ⟨getAnnotation_unwrapInput dcConfig annotationStr, reply, ?_⟩
  intro provider uri native optsdata
  have asked : (keyProviderKeyWrapper (servicesOf (answerOf unwrapKey others))
      ⟨provider, ⟨none, none, some uri, native⟩⟩).unwrapKeys dcConfig (utf8 annotationStr) =
        Ocicrypt.replied (fromTtrpc (unWrapKey unwrapKey (unwrapInput dcConfig annotationStr).toJson)) := by
    simp only [keyProviderKeyWrapper, fromUtf8_utf8]
    rfl
  rw [asked, unWrapKey_unwrapInput, Ocicrypt.replied_ok]
  cases unwrapped : unwrapKey (utf8 annotationStr) with
  | error error => simp [fromTtrpc]
  | ok found => simp [reply]

end GuestComponents.Hub
