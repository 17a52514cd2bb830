import GuestComponents.Ocicrypt.Encryption
import Mathlib.Logic.Encodable.Basic
import Mathlib.Logic.Equiv.List

/-! The JSON that serde writes for the options of a layer, and a `Serde` that writes
and reads it for the options of one layer; any others it writes in a code that is no
JSON. It shows that the laws of `Serde` can hold of one that writes the real text. -/
namespace GuestComponents.Ocicrypt
open Lib Lib.Text

/-- A string without characters that JSON escapes. -/
def quoted (text : Text) : Text := '"' :: text ++ ['"']

/-- A field of an object. -/
def field (name : String) (value : Text) : Text := quoted name.toList ++ ':' :: value

/-- The text of an object with these fields. -/
def object (fields : List Text) : Text := '\x7b' :: (List.intercalate [','] fields ++ ['\x7d'])

/-- `base64_hashmap_s`. -/
def optionsJson (options : CipherOptions) : Text :=
  object (options.map fun option => field option.1 (quoted (Base64.encode option.2)))

def PrivateLayerBlockCipherOptions.json (opts : PrivateLayerBlockCipherOptions) : Text :=
  object [field "symkey" (quoted (Base64.encode opts.symmetricKey)),
    field "cipheroptions" (optionsJson opts.cipherOptions), field "digest" (quoted opts.digest.toList)]

def PublicLayerBlockCipherOptions.json (opts : PublicLayerBlockCipherOptions) : Text :=
  object [field "cipher" (quoted opts.cipherType.toList),
    field "cipheroptions" (optionsJson opts.cipherOptions), field "hmac" (quoted (Base64.encode opts.hmac))]

section Code

instance encodableByte : Encodable UInt8 := .ofLeftInverse UInt8.toNat UInt8.ofNat fun _ => UInt8.ofNat_toNat

instance encodableChar : Encodable Char := .ofLeftInverse Char.toNat Char.ofNat Char.ofNat_toNat

instance encodableString : Encodable String := .ofLeftInverse String.toList String.ofList fun _ => String.ofList_toList

instance : Encodable PrivateLayerBlockCipherOptions :=
  .ofLeftInverse (fun opts => (opts.symmetricKey, opts.cipherOptions, opts.digest))
    (fun parts => ⟨parts.1, parts.2.1, parts.2.2⟩) fun _ => rfl

instance : Encodable PublicLayerBlockCipherOptions :=
  .ofLeftInverse (fun opts => (opts.cipherType, opts.cipherOptions, opts.hmac))
    (fun parts => ⟨parts.1, parts.2.1, parts.2.2⟩) fun _ => rfl

variable {α : Type} [Encodable α] (known : α) (text : Text)

/-- The known value as its text, and others by their number, after a zero byte. -/
def writeKnown [DecidableEq α] (a : α) : Bytes :=
  if a = known then utf8 text else 0 :: List.replicate (Encodable.encode a) 0

def readKnown (bytes : Bytes) : Except String α :=
  if bytes = utf8 text then .ok known
  else match bytes with
    | [] => .error "EOF while parsing a value"
    | _ :: rest =>
      match Encodable.decode rest.length with
      | none => .error "expected value"
      | some a => .ok a

variable {known text}

theorem readKnown_writeKnown [DecidableEq α] (starts : ∃ rest, text = '\x7b' :: rest) (a : α) :
    readKnown known text (writeKnown known text a) = .ok a := by
  unfold readKnown writeKnown
  by_cases same : a = known
  · rw [if_pos same, if_pos rfl, same]
  · obtain ⟨rest, rfl⟩ := starts
    have differs : (0 :: List.replicate (Encodable.encode a) 0 : Bytes) ≠ utf8 ('\x7b' :: rest) := by
      intro equal
      cases equal
    rw [if_neg same, if_neg differs]
    simp [Encodable.encodek]

theorem readKnown_nil (starts : ∃ rest, text = '\x7b' :: rest) :
    readKnown known text [] = .error "EOF while parsing a value" := by
  obtain ⟨rest, rfl⟩ := starts
  have differs : ([] : Bytes) ≠ utf8 ('\x7b' :: rest) := by
    intro equal
    cases equal
  rw [readKnown, if_neg differs]

end Code

/-- A `Serde` that writes and reads the JSON of these options. -/
def serdeOf (priv : PrivateLayerBlockCipherOptions) (pub : PublicLayerBlockCipherOptions) : Serde where
  privToVec := writeKnown priv priv.json
  privFromSlice := readKnown priv priv.json
  pubToVec := writeKnown pub pub.json
  pubFromSlice := readKnown pub pub.json
  privRead := readKnown_writeKnown ⟨_, rfl⟩
  pubRead := readKnown_writeKnown ⟨_, rfl⟩
  privEmpty := ⟨_, readKnown_nil ⟨_, rfl⟩⟩
  pubEmpty := ⟨_, readKnown_nil ⟨_, rfl⟩⟩

theorem serdeOf_priv (priv : PrivateLayerBlockCipherOptions) (pub : PublicLayerBlockCipherOptions) :
    (serdeOf priv pub).privToVec priv = utf8 priv.json := if_pos rfl

end GuestComponents.Ocicrypt
