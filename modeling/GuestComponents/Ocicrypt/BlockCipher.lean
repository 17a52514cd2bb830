import GuestComponents.Lib.Keystream
import GuestComponents.Lib.Aes
import GuestComponents.Lib.Sha2

/-! The layer cipher: AES-256 in counter mode with an HMAC-SHA256 over the
ciphertext, as a reader around a reader. The synchronous and the asynchronous
reader are the two functions of the source; what the inner reader does in a call
(how many bytes it has ready, an error, nothing yet) is an argument of the call.
The cipher and the HMAC are those of third-party crates and a parameter. -/
namespace GuestComponents.Ocicrypt
open Lib

abbrev Bytes := List UInt8

/-- The AES-256-CTR keystream of a key and a nonce, byte by byte, and HMAC-SHA256,
whose tags are never empty. -/
structure Crypto where
  keystream : Bytes → Bytes → Nat → UInt8
  hmac : Bytes → Bytes → Bytes
  tagged : ∀ key message, hmac key message ≠ []

/-- The two algorithms themselves. -/
def rustCrypto : Crypto where
  keystream := Aes.keystream
  hmac := Sha2.sha256.hmac
  tagged key message empty := by
    have length := Sha2.Params.hmac_length Sha2.sha256 key message
    rw [empty] at length
    cases length

/-- A map from option names to values, as the list of its entries. -/
abbrev CipherOptions := List (String × Bytes)

structure PrivateLayerBlockCipherOptions where
  symmetricKey : Bytes
  cipherOptions : CipherOptions
  digest : String
  deriving DecidableEq

structure PublicLayerBlockCipherOptions where
  cipherType : String
  cipherOptions : CipherOptions
  hmac : Bytes
  deriving DecidableEq

structure LayerBlockCipherOptions where
  pub : PublicLayerBlockCipherOptions
  priv : PrivateLayerBlockCipherOptions

/-- `LayerBlockCipherOptions::get_opt`: the public value first. -/
def LayerBlockCipherOptions.getOpt (opts : LayerBlockCipherOptions) (key : String) : Option Bytes :=
  match opts.pub.cipherOptions.lookup key with
  | some value => some value
  | none => opts.priv.cipherOptions.lookup key

/-- `entry(key).or_insert(value)`. -/
def orInsert (options : CipherOptions) (key : String) (value : Bytes) : CipherOptions :=
  match options.lookup key with
  | some _ => options
  | none => (key, value) :: options

inductive IoError where
  | unsupported
  | failedDecrypt (expected actual : Bytes)
  | inner (code : Nat)
  deriving DecidableEq

inductive Poll (α : Type) where
  | ready (result : α)
  | pending

/-- The inner reader: what it has not given out yet. -/
structure Source where
  remaining : Bytes

namespace Source

/-- A read that has `count` bytes ready: at least one into a buffer with room
while there are any, and never more than fit. -/
def give (source : Source) (room count : Nat) : Bytes × Source :=
  let n := min (max 1 count) room
  (source.remaining.take n, ⟨source.remaining.drop n⟩)

def read (source : Source) (room : Nat) : Except IoError Nat → Except IoError Bytes × Source
  | .error error => (.error error, source)
  | .ok count =>
    let given := source.give room count
    (.ok given.1, given.2)

def pollRead (source : Source) (room : Nat) :
    Poll (Except IoError Nat) → Poll (Except IoError Bytes) × Source
  | .pending => (.pending, source)
  | .ready answer =>
    let result := source.read room answer
    (.ready result.1, result.2)

end Source

/-- The `Ctr128BE` stream cipher and how far it has come. -/
structure Aes256Ctr where
  key : Bytes
  nonce : Bytes
  position : Nat

/-- The HMAC and what `update` was given so far. -/
structure HmacSha256 where
  key : Bytes
  message : Bytes

def HmacSha256.update (hmac : HmacSha256) (data : Bytes) : HmacSha256 :=
  { hmac with message := hmac.message ++ data }

/-- `AESCTRBlockCipherState`. -/
structure CipherState where
  done : Bool
  cipher : Aes256Ctr
  expHmac : Bytes
  hmac : HmacSha256
  reader : Source

structure AESCTRBlockCipher where
  keyLen : Nat
  encrypting : Bool
  state : Option CipherState

def aes256KeySize : Nat := 32

def aes256NonceSize : Nat := 16

/-- What `rand_bytes` fills a nonce buffer with. -/
abbrev Nonce := { bytes : Bytes // bytes.length = aes256NonceSize }

section Crypto

variable (crypto : Crypto)

def Aes256Ctr.applyKeystream (cipher : Aes256Ctr) (data : Bytes) : Bytes × Aes256Ctr :=
  (Keystream.apply (crypto.keystream cipher.key cipher.nonce) cipher.position data,
    { cipher with position := cipher.position + data.length })

def HmacSha256.finalize (hmac : HmacSha256) : Bytes := crypto.hmac hmac.key hmac.message

def HmacSha256.verifySlice (hmac : HmacSha256) (tag : Bytes) : Bool := hmac.finalize crypto == tag

namespace AESCTRBlockCipher

def new (bits : Nat) : Except String AESCTRBlockCipher :=
  if bits ≠ aes256KeySize * 8 then .error "AES CTR bit count not supported"
  else .ok ⟨aes256KeySize, false, none⟩

/-- The nonce `init` works with: the one the options name, else a fresh one. The
message names the length of the buffer for a fresh one. -/
def chooseNonce (random : Except String Nonce) (opts : LayerBlockCipherOptions) :
    Except String Bytes :=
  match opts.getOpt "nonce" with
  | some value =>
    if value.length ≠ aes256NonceSize then
      .error s!"invalid nonce length of {aes256NonceSize} bytes; need {aes256NonceSize} bytes"
    else .ok value
  | none => random.map Subtype.val

/-- `init`, with what `rand_bytes` gives. -/
def init (cipher : AESCTRBlockCipher) (encrypt : Bool) (reader : Source)
    (random : Except String Nonce) (opts : LayerBlockCipherOptions) :
    Except String (AESCTRBlockCipher × LayerBlockCipherOptions) :=
  let key := opts.priv.symmetricKey
  if key.length ≠ aes256KeySize then
    .error s!"invalid key length of {key.length} bytes; expect {aes256KeySize} bytes"
  else if !encrypt && opts.pub.hmac.isEmpty then
    .error "HMAC is not provided for decryption process"
  else match chooseNonce random opts with
    | .error error => .error error
    | .ok nonce =>
      let state : CipherState := ⟨false, ⟨key, nonce, 0⟩, opts.pub.hmac, ⟨key, []⟩, reader⟩
      .ok ({ cipher with encrypting := encrypt, state := some state },
        { opts with priv := { opts.priv with
            cipherOptions := orInsert opts.priv.cipherOptions "nonce" nonce } })

def encrypt (cipher : AESCTRBlockCipher) (input : Source) (random : Except String Nonce)
    (opts : LayerBlockCipherOptions) : Except String (AESCTRBlockCipher × LayerBlockCipherOptions) :=
  cipher.init true input random opts

def decrypt (cipher : AESCTRBlockCipher) (input : Source) (random : Except String Nonce)
    (opts : LayerBlockCipherOptions) : Except String (AESCTRBlockCipher × LayerBlockCipherOptions) :=
  cipher.init false input random opts

/-- `EncryptionFinalizer::finalized_lbco`. -/
def finalizedLbco (cipher : AESCTRBlockCipher) (opts : LayerBlockCipherOptions) :
    Except String LayerBlockCipherOptions :=
  match cipher.state with
  | none => .error "The AESCTRBlockCipher object hasn't been initialized yet"
  | some state =>
    if !state.done then .error "Read()ing not complete, unable to finalize"
    else .ok { opts with pub := { opts.pub with hmac := state.expHmac } }

/-- `Read::read` into a buffer of `room` bytes: what it leaves at the start of
the buffer. -/
def read (cipher : AESCTRBlockCipher) (room : Nat) (answer : Except IoError Nat) :
    Except IoError Bytes × AESCTRBlockCipher :=
  match cipher.state with
  | none => (.error .unsupported, cipher)
  | some state =>
    if state.done then (.ok [], cipher)
    else match state.reader.read room answer with
      | (.error error, reader) =>
        (.error error, { cipher with state := some { state with reader := reader } })
      | (.ok data, reader) =>
        let state := { state with reader := reader, done := data.isEmpty }
        if !cipher.encrypting then
          if 0 < data.length then
            let hmac := state.hmac.update data
            let (output, stream) := state.cipher.applyKeystream crypto data
            (.ok output, { cipher with state := some { state with hmac := hmac, cipher := stream } })
          else if state.hmac.verifySlice crypto state.expHmac then
            (.ok data, { cipher with state := some state })
          else (.error (.failedDecrypt state.expHmac (state.hmac.finalize crypto)),
            { cipher with state := some state })
        else if 0 < data.length then
          let (output, stream) := state.cipher.applyKeystream crypto data
          let hmac := state.hmac.update output
          (.ok output, { cipher with state := some { state with hmac := hmac, cipher := stream } })
        else
          (.ok data,
            { cipher with state := some { state with expHmac := state.hmac.finalize crypto } })

end AESCTRBlockCipher

/-- A tokio `ReadBuf`: what is filled, and the space there is in all. -/
structure ReadBuf where
  filled : Bytes
  capacity : Nat
  fits : filled.length ≤ capacity

def ReadBuf.room (buf : ReadBuf) : Nat := buf.capacity - buf.filled.length

/-- `AsyncRead::poll_read`: what is filled afterwards. -/
def AESCTRBlockCipher.pollRead (cipher : AESCTRBlockCipher) (buf : ReadBuf)
    (answer : Poll (Except IoError Nat)) : Poll (Except IoError Bytes) × AESCTRBlockCipher :=
  match cipher.state with
  | none => (.ready (.error .unsupported), cipher)
  | some state =>
    if state.done then (.ready (.ok buf.filled), cipher)
    else match state.reader.pollRead buf.room answer with
      | (.pending, reader) =>
        (.pending, { cipher with state := some { state with reader := reader } })
      | (.ready (.error error), reader) =>
        (.ready (.error error), { cipher with state := some { state with reader := reader } })
      | (.ready (.ok bufFilled), reader) =>
        let state := { state with reader := reader, done := bufFilled.isEmpty }
        if !cipher.encrypting then
          if !bufFilled.isEmpty then
            let hmac := state.hmac.update bufFilled
            let (output, stream) := state.cipher.applyKeystream crypto bufFilled
            (.ready (.ok (buf.filled ++ output)),
              { cipher with state := some { state with hmac := hmac, cipher := stream } })
          else if state.hmac.verifySlice crypto state.expHmac then
            (.ready (.ok buf.filled), { cipher with state := some state })
          else (.ready (.error (.failedDecrypt state.expHmac (state.hmac.finalize crypto))),
            { cipher with state := some state })
        else if !bufFilled.isEmpty then
          let (output, stream) := state.cipher.applyKeystream crypto bufFilled
          let hmac := state.hmac.update output
          (.ready (.ok (buf.filled ++ output)),
            { cipher with state := some { state with hmac := hmac, cipher := stream } })
        else
          (.ready (.ok buf.filled),
            { cipher with state := some { state with expHmac := state.hmac.finalize crypto } })

end Crypto

end GuestComponents.Ocicrypt
