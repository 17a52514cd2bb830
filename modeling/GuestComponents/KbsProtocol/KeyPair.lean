import GuestComponents.Crypto.Backends
import GuestComponents.Lib.Base64
import GuestComponents.Lib.Json

/-! The key pair of the guest (`keypair.rs`), over either back end. `Names` says which
call of the back end a header makes a key pair do: `unwrapCek` makes exactly the
calls that it names (`unwrapCek_panicFree`, `unwrapCek_ok`). -/
namespace GuestComponents.KbsProtocol
open Lib Crypto

inductive TeeKey (backend : Backend) where
  | rsa (key : backend.RsaKeyPair)
  | ec (key : backend.EcKeyPair)

structure TeeKeyPair (backend : Backend) where
  key : TeeKey backend

inductive TeePubKey where
  | rsa (alg kMod kExp : Text)
  | ec (crv alg x y : Text)
deriving DecidableEq

structure ProtectedHeader where
  alg : Text
  enc : Text
  otherFields : JsonMap

structure Response where
  protectedHeader : ProtectedHeader
  encryptedKey : List UInt8
  iv : List UInt8
  ciphertext : List UInt8
  tag : List UInt8

/-- The members of `epk`, the key of the sender, that an unwrapping reads. -/
structure EphemeralKey where
  crv : Text
  x : List UInt8
  y : List UInt8

/-- A member of `epk` that is text. -/
def epkText (name : String) (epk : Json) : Outcome Text := do
  let value ← Outcome.okOr s!"Invalid JWE ProtectedHeader. Without `{name}`" (epk.get name.toList)
  Outcome.okOr s!"Invalid JWE ProtectedHeader. `{name}` is not a string" value.asStr

/-- A member of `epk` that is a coordinate. -/
def epkBytes (name : String) (epk : Json) : Outcome (List UInt8) := do
  let text ← epkText name epk
  Outcome.okOr "Invalid symbol or padding" (Base64.decodeUrlSafe text)

/-- The key of the sender in a header. -/
def ProtectedHeader.epk (header : ProtectedHeader) : Outcome EphemeralKey := do
  let epk ← Outcome.okOr "Invalid JWE ProtectedHeader. Without `epk`"
    (header.otherFields.lookup "epk".toList)
  let crv ← epkText "crv" epk
  let x ← epkBytes "x" epk
  let y ← epkBytes "y" epk
  return { crv, x, y }

namespace TeeKeyPair

variable {backend : Backend}

/-- `keypair.rs::export_pubkey`. -/
def exportPubkey (keyPair : TeeKeyPair backend) : Outcome TeePubKey :=
  match keyPair.key with
  | .rsa key =>
    let kMod := Base64.encodeUrlSafe (backend.n key)
    let kExp := Base64.encodeUrlSafe (backend.e key)
    .ok (.rsa PaddingMode.oaep.asRef kMod kExp)
  | .ec key => do
    let x := Base64.encodeUrlSafe (← backend.x key)
    let y := Base64.encodeUrlSafe (← backend.y key)
    return .ec Curve.p256.asRef KeyWrapAlgorithm.ecdhEsA256Kw.asRef x y

/-- `keypair.rs::unwrap_cek`. -/
def unwrapCek (keyPair : TeeKeyPair backend) (header : ProtectedHeader) (wrappedCek : List UInt8) :
    Outcome (List UInt8) :=
  if header.alg = PaddingMode.pkcs1v15.asRef then
    match keyPair.key with
    | .rsa key => backend.rsaDecrypt key .pkcs1v15 wrappedCek
    | .ec _ => .bail "Unmatched key. Must be RSA key"
  else if header.alg = PaddingMode.oaep.asRef then
    match keyPair.key with
    | .rsa key => backend.rsaDecrypt key .oaep wrappedCek
    | .ec _ => .bail "Unmatched key. Must be RSA key"
  else if header.alg = KeyWrapAlgorithm.ecdhEsA256Kw.asRef then do
    let epk ← header.epk
    match keyPair.key with
    | .ec key =>
      if epk.crv ≠ (backend.curve key).asRef then
        .bail ("Unmatched curve: " ++ String.ofList epk.crv)
      else backend.unwrapKey key wrappedCek epk.x epk.y .ecdhEsA256Kw
    | .rsa _ => .bail "Unmatched key. Must be EC key"
  else .bail ("Unsupported algorithm: " ++ String.ofList header.alg)

/-- `keypair.rs::decrypt_response`; `generateAad` is of the crate that defines the header. -/
def decryptResponse (generateAad : ProtectedHeader → Except String (List UInt8))
    (keyPair : TeeKeyPair backend) (response : Response) : Outcome (List UInt8) := do
  let cek ← keyPair.unwrapCek response.protectedHeader response.encryptedKey
  let aad ← Outcome.ofResult (generateAad response.protectedHeader)
  backend.decryptAead cek response.iv response.ciphertext aad response.tag .aes256Gcm

end TeeKeyPair

/-- A call of a back end that unwraps a key. -/
inductive Unwrapping (backend : Backend) where
  | rsa (key : backend.RsaKeyPair) (mode : PaddingMode)
  | ec (key : backend.EcKeyPair) (x y : List UInt8)

def Unwrapping.run {backend : Backend} (wrappedCek : List UInt8) :
    Unwrapping backend → Outcome (List UInt8)
  | .rsa key mode => backend.rsaDecrypt key mode wrappedCek
  | .ec key x y => backend.unwrapKey key wrappedCek x y .ecdhEsA256Kw

/-- The header makes the key pair do the call. -/
inductive Names {backend : Backend} :
    TeeKeyPair backend → ProtectedHeader → Unwrapping backend → Prop
  | rsa {key : backend.RsaKeyPair} {mode : PaddingMode} {header : ProtectedHeader} :
    header.alg = mode.asRef → Names ⟨.rsa key⟩ header (.rsa key mode)
  | ec {key : backend.EcKeyPair} {header : ProtectedHeader} {epk : EphemeralKey} :
    header.alg = KeyWrapAlgorithm.ecdhEsA256Kw.asRef → header.epk = .ok epk →
    epk.crv = (backend.curve key).asRef → Names ⟨.ec key⟩ header (.ec key epk.x epk.y)

section Unwrapping

variable {backend : Backend} {keyPair : TeeKeyPair backend} {header : ProtectedHeader}
  {wrappedCek : List UInt8}

/-- The three algorithms have different names. -/
theorem asRef_ne {mode : PaddingMode} : mode.asRef ≠ KeyWrapAlgorithm.ecdhEsA256Kw.asRef := by
  cases mode <;> decide

theorem pkcs1v15_ne_oaep : PaddingMode.pkcs1v15.asRef ≠ PaddingMode.oaep.asRef := by decide

/-- Reading the key of the sender returns it or an error. -/
theorem epk_panicFree (header : ProtectedHeader) : PanicFree header.epk := by
  have text (name : String) (epk : Json) : PanicFree (epkText name epk) := by
    simp [epkText, panicFree_bind]
  have bytes (name : String) (epk : Json) : PanicFree (epkBytes name epk) := by
    simp [epkBytes, panicFree_bind, text]
  simp [ProtectedHeader.epk, panicFree_bind, text, bytes, pure, Except.pure]

/-- The call that a header names is the one that runs. -/
theorem unwrapCek_of_names {unwrapping : Unwrapping backend} (named : Names keyPair header unwrapping) :
    keyPair.unwrapCek header wrappedCek = unwrapping.run wrappedCek := by
  cases named with
  | @rsa key mode _ alg =>
    cases mode with
    | pkcs1v15 => simp [TeeKeyPair.unwrapCek, alg, Unwrapping.run]
    | oaep => simp [TeeKeyPair.unwrapCek, alg, pkcs1v15_ne_oaep.symm, Unwrapping.run]
  | @ec key _ epk alg read crv =>
    have notRsa : ∀ mode : PaddingMode, header.alg ≠ mode.asRef := by
      intro mode same
      exact asRef_ne (same.symm.trans alg)
    simp only [TeeKeyPair.unwrapCek, if_neg (notRsa _), if_pos alg, read, Unwrapping.run]
    exact if_neg (not_not.mpr crv)

/-- A header that names no call is refused. -/
theorem unwrapCek_of_unnamed (unnamed : ∀ unwrapping, ¬ Names keyPair header unwrapping) :
    ∃ message, keyPair.unwrapCek header wrappedCek = .bail message := by
  obtain ⟨key⟩ := keyPair
  rw [TeeKeyPair.unwrapCek]
  split
  · rename_i alg
    cases key with
    | rsa key => exact absurd (.rsa alg) (unnamed _)
    | ec key => exact ⟨_, rfl⟩
  split
  · rename_i alg
    cases key with
    | rsa key => exact absurd (.rsa alg) (unnamed _)
    | ec key => exact ⟨_, rfl⟩
  split
  · rename_i alg
    cases read : header.epk with
    | error fault =>
      cases fault with
      | error message => exact ⟨message, rfl⟩
      | panic message => exact absurd read (epk_panicFree header message)
    | ok epk =>
      cases key with
      | rsa key => exact ⟨_, rfl⟩
      | ec key =>
        by_cases crv : epk.crv = (backend.curve key).asRef
        · exact absurd (.ec alg read crv) (unnamed _)
        · exact ⟨_, if_pos crv⟩
  · exact ⟨_, rfl⟩

/-- Unwrapping panics nowhere when the named call does not. -/
theorem unwrapCek_panicFree :
    PanicFree (keyPair.unwrapCek header wrappedCek) ↔
      ∀ unwrapping, Names keyPair header unwrapping → PanicFree (unwrapping.run wrappedCek) := by
  constructor
  · intro free unwrapping named
    rw [← unwrapCek_of_names named]
    exact free
  · intro free
    by_cases named : ∃ unwrapping, Names keyPair header unwrapping
    · obtain ⟨unwrapping, named⟩ := named
      rw [unwrapCek_of_names named]
      exact free unwrapping named
    · obtain ⟨message, refused⟩ :=
        @unwrapCek_of_unnamed _ _ _ wrappedCek (not_exists.mp named)
      rw [refused]
      exact panicFree_bail message

/-- A key that was unwrapped came from the named call. -/
theorem unwrapCek_ok {cek : List UInt8} :
    keyPair.unwrapCek header wrappedCek = .ok cek ↔
      ∃ unwrapping, Names keyPair header unwrapping ∧ unwrapping.run wrappedCek = .ok cek := by
  constructor
  · intro ran
    by_cases named : ∃ unwrapping, Names keyPair header unwrapping
    · obtain ⟨unwrapping, named⟩ := named
      rw [unwrapCek_of_names named] at ran
      exact ⟨unwrapping, named, ran⟩
    · obtain ⟨message, refused⟩ :=
        @unwrapCek_of_unnamed _ _ _ wrappedCek (not_exists.mp named)
      rw [refused] at ran
      cases ran
  · rintro ⟨unwrapping, named, ran⟩
    rw [unwrapCek_of_names named]
    exact ran

/-- Decrypting a response panics nowhere when the named call does not and, with each key
that it unwraps, nor does the authenticated decryption. -/
theorem decryptResponse_panicFree {generateAad : ProtectedHeader → Except String (List UInt8)}
    {response : Response} :
    PanicFree (keyPair.decryptResponse generateAad response) ↔
      ∀ unwrapping, Names keyPair response.protectedHeader unwrapping →
        PanicFree (unwrapping.run response.encryptedKey) ∧
        ∀ cek aad, unwrapping.run response.encryptedKey = .ok cek →
          generateAad response.protectedHeader = .ok aad →
          PanicFree (backend.gcmDecryptDetached cek response.ciphertext response.iv aad response.tag) := by
  simp only [TeeKeyPair.decryptResponse, panicFree_bind, unwrapCek_panicFree, unwrapCek_ok,
    panicFree_ofResult, ofResult_ok, true_and, Backend.decryptAead]
  constructor
  · rintro ⟨unwraps, opens⟩ unwrapping named
    exact ⟨unwraps unwrapping named, fun cek aad ran made => opens cek ⟨unwrapping, named, ran⟩ aad made⟩
  · intro free
    constructor
    · intro unwrapping named
      exact (free unwrapping named).1
    · rintro cek ⟨unwrapping, named, ran⟩ aad made
      exact (free unwrapping named).2 cek aad ran made

end Unwrapping
end GuestComponents.KbsProtocol
