import GuestComponents.Image.LayerStore
import GuestComponents.Lib.Sha2
import GuestComponents.Lib.Outcome

/-! One layer of an image: `pull.rs` from the stream of a blob to the record of a layer,
`decoder/mod.rs` and `stream.rs` as far as they decide whether a layer is accepted.
What the registry delivers, the keys and the file system say is a parameter. -/
namespace GuestComponents.Image
open Lib Lib.Text

inductive Compression where
  | uncompressed
  | gzip
  | zstd
  deriving DecidableEq

/-- `manifest::IMAGE_DOCKER_LAYER_GZIP_MEDIA_TYPE`. -/
def imageDockerLayerGzipMediaType : Text := "application/vnd.docker.image.rootfs.diff.tar.gzip".toList

/-- `manifest::IMAGE_LAYER_MEDIA_TYPE`. -/
def imageLayerMediaType : Text := "application/vnd.oci.image.layer.v1.tar".toList

/-- `manifest::IMAGE_LAYER_GZIP_MEDIA_TYPE`. -/
def imageLayerGzipMediaType : Text := imageLayerMediaType ++ "+gzip".toList

/-- `MediaType::ImageLayerNonDistributable`. -/
def imageLayerNonDistributable : Text :=
  "application/vnd.oci.image.layer.nondistributable.v1.tar".toList

/-- `Compression::try_from`. -/
def Compression.tryFrom (mediaType : Text) : Except String Compression :=
  let mediaType :=
    if mediaType = imageDockerLayerGzipMediaType then imageLayerGzipMediaType else mediaType
  if mediaType = imageLayerMediaType ∨ mediaType = imageLayerNonDistributable then .ok .uncompressed
  else if mediaType = imageLayerGzipMediaType ∨
      mediaType = imageLayerNonDistributable ++ "+gzip".toList then .ok .gzip
  else if mediaType = imageLayerMediaType ++ "+zstd".toList ∨
      mediaType = imageLayerNonDistributable ++ "+zstd".toList then .ok .zstd
  else .error "unhandled media type"

structure Decryptor where
  mediaType : Text
  encrypted : Bool

/-- `Decryptor::from_media_type`. -/
def Decryptor.fromMediaType (mediaType : Text) : Decryptor :=
  if mediaType = imageLayerMediaType ++ "+encrypted".toList ∨
      mediaType = imageLayerNonDistributable ++ "+encrypted".toList then ⟨imageLayerMediaType, true⟩
  else if mediaType = imageLayerGzipMediaType ++ "+encrypted".toList ∨
      mediaType = imageLayerNonDistributable ++ "+gzip+encrypted".toList then
    ⟨imageLayerGzipMediaType, true⟩
  else ⟨[], false⟩

/-- `OciDescriptor`. -/
structure OciDescriptor where
  mediaType : Text
  digest : Text
  size : Int
  annotations : List (Text × Text)
  deriving DecidableEq

/-- The record of a layer in the layer database. -/
structure LayerMeta where
  decoder : Compression
  encrypted : Bool
  compressedDigest : Text
  uncompressedDigest : Text
  storePath : Text
  deriving DecidableEq

/-- The hasher that `stream_processing` picks by the prefix of the diff id, and what its
digest of the whole stream reads. -/
def streamDigest (diffId : Text) (stream : List UInt8) : Except String Text :=
  if "sha256:".toList.isPrefixOf diffId then
    .ok ("sha256:".toList ++ hexEncode (Sha2.sha256.digest stream))
  else if "sha512:".toList.isPrefixOf diffId then
    .ok ("sha512:".toList ++ hexEncode (Sha2.sha512.digest stream))
  else .error "unsupported uncompressed digest format"

/-- The stream has this uncompressed digest. -/
def HasDiffId (diffId : Text) (stream : List UInt8) : Prop := streamDigest diffId stream = .ok diffId

/-- What an attempt to pull a layer meets once its blob stream is open. -/
structure Delivery where
  /-- `get_decrypt_key`. -/
  decryptKey : Except String (List UInt8)
  /-- `async_get_plaintext_layer`. -/
  plaintextLayer : Except String Unit
  /-- The bytes that come out of the decompression. -/
  stream : List UInt8
  /-- `unpack` and the timeout around it. -/
  unpacked : Except String Unit
  /-- The bytes that were read of the blob. -/
  compressedBytes : Nat

/-- The error of `async_decompress_unpack_layer_with_timeout` at the timeout. -/
def unpackTimedOut : String := "timed out decompressing/unpacking layer"

/-- `async_decompress_unpack_layer_with_timeout`. -/
def asyncDecompressUnpackLayer (delivery : Delivery) (diffId mediaType : Text) : Except String Text := do
  let _ ← Compression.tryFrom mediaType
  let digest ← streamDigest diffId delivery.stream
  delivery.unpacked
  pure digest

/-- The digest of a layer, by the path it takes with and without encryption. -/
def uncompressedDigest (layer : OciDescriptor) (diffId : Text) (delivery : Delivery) : Except String Text :=
  let decryptor := Decryptor.fromMediaType layer.mediaType
  if decryptor.encrypted then do
    let _ ← delivery.decryptKey
    delivery.plaintextLayer
    asyncDecompressUnpackLayer delivery diffId decryptor.mediaType
  else do
    let digest ← asyncDecompressUnpackLayer delivery diffId layer.mediaType
    if 0 < layer.size ∧ (delivery.compressedBytes : Int) ≠ layer.size then
      throw "compressed layer size mismatch"
    else pure digest

/-- `async_handle_layer` after its look at the layer database, up to the cleanup. -/
def asyncHandleLayer (layer : OciDescriptor) (diffId destination : Text) (delivery : Delivery) :
    Except String LayerMeta := do
  let digest ← uncompressedDigest layer diffId delivery
  if digest ≠ diffId then throw "unequal uncompressed digest"
  else pure ⟨.gzip, (Decryptor.fromMediaType layer.mediaType).encrypted, layer.digest, digest, destination⟩

/-- `LAYER_PULL_ATTEMPTS`. -/
def layerPullAttempts : Nat := 3

theorem asyncDecompressUnpackLayer_ok {delivery : Delivery} {diffId mediaType digest : Text}
    (accepted : asyncDecompressUnpackLayer delivery diffId mediaType = .ok digest) :
    streamDigest diffId delivery.stream = .ok digest := by
  unfold asyncDecompressUnpackLayer at accepted
  obtain ⟨_, _, accepted⟩ := bind_ok.mp accepted
  obtain ⟨found, hashed, accepted⟩ := bind_ok.mp accepted
  obtain ⟨_, _, accepted⟩ := bind_ok.mp accepted
  cases accepted
  exact hashed

theorem uncompressedDigest_ok {layer : OciDescriptor} {delivery : Delivery} {diffId digest : Text}
    (accepted : uncompressedDigest layer diffId delivery = .ok digest) :
    streamDigest diffId delivery.stream = .ok digest := by
  unfold uncompressedDigest at accepted
  by_cases encrypted : (Decryptor.fromMediaType layer.mediaType).encrypted = true
  · rw [if_pos encrypted] at accepted
    obtain ⟨_, _, accepted⟩ := bind_ok.mp accepted
    obtain ⟨_, _, accepted⟩ := bind_ok.mp accepted
    exact asyncDecompressUnpackLayer_ok accepted
  · rw [if_neg encrypted] at accepted
    obtain ⟨found, unpacked, accepted⟩ := bind_ok.mp accepted
    split at accepted
    · cases accepted
    · cases accepted
      exact asyncDecompressUnpackLayer_ok unpacked

/-- A layer that is accepted was unpacked from a stream with its diff id, and is recorded
under its compressed digest and the directory it was unpacked into. -/
theorem asyncHandleLayer_ok {layer : OciDescriptor} {diffId destination : Text} {delivery : Delivery}
    {layerMeta : LayerMeta} (accepted : asyncHandleLayer layer diffId destination delivery = .ok layerMeta) :
    HasDiffId diffId delivery.stream ∧ layerMeta.compressedDigest = layer.digest ∧
      layerMeta.uncompressedDigest = diffId ∧ layerMeta.storePath = destination := by
  unfold asyncHandleLayer at accepted
  obtain ⟨digest, hashed, accepted⟩ := bind_ok.mp accepted
  split at accepted
  · cases accepted
  · rename_i same
    cases accepted
    simp only [ne_eq, not_not] at same
    subst same
    exact ⟨uncompressedDigest_ok hashed, rfl, rfl, rfl⟩

end GuestComponents.Image
