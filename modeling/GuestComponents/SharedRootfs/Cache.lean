import GuestComponents.SharedRootfs.Host

/-! `shared_rootfs.rs`: the cache and bundle-index files, the pending marker, the
build of an image file and the preparation of an entry, as programs over the
host's operations. -/
namespace GuestComponents.SharedRootfs
open Lib

abbrev Prog := Program Op Answer

abbrev Fail := Fallible Op Answer Error

abbrev call (op : Op) : Prog (Answer op) := Program.perform op

/-- An operation whose error the caller returns. -/
abbrev attempt {α : Type} (program : Prog (Except Error α)) : Fail α := ExceptT.mk program

/-- An operation that gives no error. -/
abbrev ask {α : Type} (program : Prog α) : Fail α := ExceptT.lift program

/-- `with_context` on what failed. -/
def withContext {α : Type} (message : String) (path : Path) (program : Fail α) : Fail α :=
  ExceptT.mk (program.run >>= fun result => match result with
    | .ok value => pure (.ok value)
    | .error cause => pure (.error (.context message path cause)))

/-- `read_shared_rootfs_cache_entry`. -/
def readSharedRootfsCacheEntry (site : Site) (key : Text) : Fail (Option CacheEntry) :=
  attempt (call (.readCache site key))

/-- `write_cache_entry_for_key`. -/
def writeCacheEntryForKey (key : Text) (entry : CacheEntry) : Fail Unit := do
  let path := cachePath key cacheFileSuffix
  attempt (call (.createDirAll (.shared .cache [])))
  attempt (call (.writeFile (cacheTmpPath key) (.cacheEntry entry)))
  attempt (call (.rename (cacheTmpPath key) path))

/-- `write_shared_rootfs_cache_entry`. -/
def writeSharedRootfsCacheEntry (entry : CacheEntry) : Fail Unit := do
  attempt (call (.validateCache entry))
  writeCacheEntryForKey entry.imageRef entry
  if entry.imageId ≠ entry.imageRef then writeCacheEntryForKey entry.imageId entry
  else pure ()

/-- `read_shared_rootfs_bundle_entry`. -/
def readSharedRootfsBundleEntry (key : Text) : Fail (Option BundleEntry) :=
  attempt (call (.readBundle key))

/-- `write_bundle_entry_for_key`. -/
def writeBundleEntryForKey (key : Text) (entry : BundleEntry) : Fail Unit := do
  let path := bundleIndexPath key
  attempt (call (.createDirAll (.shared .bundleIndex [])))
  attempt (call (.writeFile (bundleTmpPath key) (.bundleEntry entry)))
  attempt (call (.rename (bundleTmpPath key) path))

/-- `write_shared_rootfs_bundle_entry`. -/
def writeSharedRootfsBundleEntry (entry : BundleEntry) : Fail Unit := do
  attempt (call (.validateBundle entry))
  writeBundleEntryForKey entry.imageRef entry
  if entry.imageId ≠ entry.imageRef then writeBundleEntryForKey entry.imageId entry
  else pure ()

/-- `mark_shared_rootfs_cache_pending`. -/
def markSharedRootfsCachePending (imageRef : Text) : Fail Unit := do
  attempt (call (.createDirAll (.shared .cache [])))
  attempt (call (.writeFile (pendingPath imageRef) .pending))

/-- `clear_shared_rootfs_cache_pending`. -/
def clearSharedRootfsCachePending (imageRef : Text) : Prog Unit := do
  let _ ← call (.removeFile (pendingPath imageRef))
  pure ()

/-- `shared_rootfs_cache_pending`. -/
def sharedRootfsCachePending (imageRef : Text) : Prog Bool :=
  call (.isFile (pendingPath imageRef))

/-- `wait_for_shared_rootfs_cache_entry`, whose timeout has passed after this
many further polls. -/
def waitForSharedRootfsCacheEntry (imageRef : Text) (polls : Nat) : Fail (Option CacheEntry) := do
  match ← readSharedRootfsCacheEntry .wait imageRef with
  | some entry => pure (some entry)
  | none =>
    if ← ask (sharedRootfsCachePending imageRef) then
      match polls with
      | 0 => pure none
      | left + 1 => waitForSharedRootfsCacheEntry imageRef left
    else pure none

/-- `rootfs_image_format_candidates`. -/
def rootfsImageFormatCandidates : Prog (List RootfsImageFormat) := do
  let erofs ← call (.commandAvailable "mkfs.erofs")
  let squashfs ← call (.commandAvailable "mksquashfs")
  pure ((if erofs then [.erofs] else []) ++ (if squashfs then [.squashfs] else []) ++ [.ext4])

/-- `rootfs_digest_sidecar_path`. -/
def rootfsDigestSidecarPath : Path → Path
  | .shared area names =>
    .shared area (names.dropLast ++ [fileName (names.getLastD "rootfs".toList) digestFileSuffix])
  | .outside text => .outside (fileName text digestFileSuffix)

def sidecarTmpPath : Path → Path
  | .shared area names => .shared area (names.dropLast ++ [names.getLastD [] ++ tmpSuffix])
  | .outside text => .outside (text ++ tmpSuffix)

/-- `rootfs_digest_for_image`. -/
def rootfsDigestForImage (path : Path) (size modified : Nat) : Fail Text := do
  let sidecarPath := rootfsDigestSidecarPath path
  let known ← attempt (call (.readSidecar sidecarPath))
  match known.filter fun sidecar => sidecar.size = size ∧ sidecar.modifiedUnixNanos = modified ∧
      sidecar.sha256.length = 64 with
  | some sidecar => pure sidecar.sha256
  | none =>
    let sha256 ← attempt (call (.sha256File path))
    attempt (call (.writeFile (sidecarTmpPath sidecarPath) (.digestSidecar ⟨size, modified, sha256⟩)))
    attempt (call (.rename (sidecarTmpPath sidecarPath) sidecarPath))
    pure sha256

/-- `BuildRootfsImageOptions`. -/
structure BuildRootfsImageOptions where
  rootfsDir : Path
  outputImage : Path
  format : RootfsImageFormat
  imageSizeMb : Nat
  squashfsCompressor : Text
  hashImage : Bool

def ext4MinImageSizeMb : Nat := 16

/-- The options each format is built with. -/
def BuildRootfsImageOptions.forFormat (format : RootfsImageFormat) (rootfsDir outputImage : Path)
    (hashImage : Bool) : BuildRootfsImageOptions where
  rootfsDir := rootfsDir
  outputImage := outputImage
  format := format
  imageSizeMb := match format with
    | .erofs => 0
    | .squashfs => 64
    | .ext4 => ext4MinImageSizeMb
  squashfsCompressor := "gzip".toList
  hashImage := hashImage

def runCommand (command : Command) : Fail Unit := do
  attempt (call (.startCommand command))
  attempt (call (.awaitCommand command))

def saturate (n : Nat) : Nat := min n (2 ^ 64 - 1)

/-- `ext4_image_size_mb`. -/
def ext4ImageSizeMb (options : BuildRootfsImageOptions) : Fail Nat := do
  let contentSize ← attempt (call (.rootfsContentSize options.rootfsDir))
  let targetSize := saturate (saturate (contentSize * 3) / 2 + 8 * 1048576)
  let estimatedMb := saturate (targetSize + (1048576 - 1)) / 1048576
  pure (max options.imageSizeMb (max estimatedMb 1))

/-- `build_erofs_image`, `build_squashfs_image` or `build_ext4_image`. -/
def buildImage (options : BuildRootfsImageOptions) : Fail Unit := do
  match options.format with
  | .erofs =>
    let preserveXattrs ← ask (call (.envTruthy "COCO_SHARED_ROOTFS_EROFS_PRESERVE_XATTRS"))
    withContext "failed to build EROFS image" options.outputImage
      (runCommand (.mkfsErofs preserveXattrs options.outputImage options.rootfsDir))
  | .squashfs =>
    runCommand (.mksquashfs options.rootfsDir options.outputImage options.squashfsCompressor)
  | .ext4 =>
    let imageSizeMb ← ext4ImageSizeMb options
    runCommand (.truncate imageSizeMb options.outputImage)
    runCommand (.mkfsExt4 options.rootfsDir options.outputImage)

/-- The digest when hashing is on, and no digest otherwise. -/
def digestIf (hashImage : Bool) (path : Path) (size modified : Nat) : Fail Text :=
  if hashImage then rootfsDigestForImage path size modified else pure []

/-- An image of an earlier build is removed first. -/
def removeOldImage (outputImage : Path) : Fail Unit := do
  if ← ask (call (.pathExists outputImage)) then attempt (call (.removeFile outputImage))
  else pure ()

/-- `build_rootfs_image`. -/
def buildRootfsImage (imagesDir : Path) (options : BuildRootfsImageOptions) : Fail RootfsImageInfo := do
  if ← ask (call (.isDir options.rootfsDir)) then
    attempt (call (.createDirAll imagesDir))
    removeOldImage options.outputImage
    let _ ← ask (call (.removeFile (rootfsDigestSidecarPath options.outputImage)))
    buildImage options
    let (size, modified) ← attempt (call (.metadata options.outputImage))
    let sha256 ← digestIf options.hashImage options.outputImage size modified
    pure ⟨options.outputImage, options.format, size, sha256⟩
  else throw (.here "rootfs source directory does not exist" options.rootfsDir)

/-- The loop of `prepare_shared_rootfs_image` over the candidate formats. -/
def prepareFormats (rootfsDir imagesDir : Path) (safeImageId : Text) :
    List RootfsImageFormat → Fail RootfsImageInfo
  | [] => throw (.here "failed to build shared rootfs" imagesDir)
  | format :: formats => do
    let rootfsImagePath := imagePath imagesDir safeImageId format
    if ← ask (call (.pathExists rootfsImagePath)) then
      let (size, modified) ← attempt (call (.metadata rootfsImagePath))
      let hashImage ← ask (call (.envTruthy "COCO_SHARED_ROOTFS_HASH_IMAGE"))
      let sha256 ← digestIf hashImage rootfsImagePath size modified
      pure ⟨rootfsImagePath, format, size, sha256⟩
    else
      let hashImage ← ask (call (.envTruthy "COCO_SHARED_ROOTFS_HASH_IMAGE"))
      let options := .forFormat format rootfsDir rootfsImagePath hashImage
      match ← ask (buildRootfsImage imagesDir options).run with
      | .ok info => pure info
      | .error _ => prepareFormats rootfsDir imagesDir safeImageId formats

/-- `prepare_shared_rootfs_image`. -/
def prepareSharedRootfsImage (rootfsDir imagesDir : Path) (safeImageId : Text) :
    Fail RootfsImageInfo := do
  prepareFormats rootfsDir imagesDir safeImageId (← ask rootfsImageFormatCandidates)

/-- `shared_rootfs_digest`. -/
def sharedRootfsDigest (sha256 imageId : Text) : Text :=
  if sha256 = [] then "image-id:".toList ++ imageId else "sha256:".toList ++ sha256

def imagesDir : Path := .shared .images []

/-- The entry `prepare_shared_rootfs_cache_from_bundle_inner` writes. -/
def CacheEntry.ofShare (imageRef imageId : Text) (info : RootfsImageInfo) (share : SharedImage)
    (config : List UInt8) : CacheEntry where
  imageRef := imageRef
  imageId := imageId
  fsType := info.format.asFsType
  imageSize := info.size
  blockSize := 4096
  rootfsDigest := sharedRootfsDigest info.sha256 imageId
  ociConfigJson := config
  sourceRdAddr := share.sourceRdAddr
  shareId := share.shareId
  pageCount := share.pageCount
  rootfsImagePath := info.path

/-- `prepare_shared_rootfs_cache_from_bundle_inner`. -/
def prepareFromBundleInner (imageRef imageId : Text) (bundleDir : Path) : Fail CacheEntry := do
  let rootfsDir := Disk.bundleRootfs bundleDir
  if ← ask (call (.isDir rootfsDir)) then
    attempt (call (.createDirAll imagesDir))
    let info ← prepareSharedRootfsImage rootfsDir imagesDir (sanitizePathComponent imageId)
    let share ← attempt (call (.createShare imageRef imageId info.path))
    let read ← ask (call (.readConfig (Disk.bundleConfig bundleDir)))
    let config := match read with
      | .ok data => data
      | .error _ => []
    let entry := CacheEntry.ofShare imageRef imageId info share config
    writeSharedRootfsCacheEntry entry
    pure entry
  else throw (.here "bundle rootfs does not exist" rootfsDir)

/-- `prepare_shared_rootfs_cache_from_bundle`. -/
def prepareSharedRootfsCacheFromBundle (imageRef imageId : Text) (bundleDir : Path) :
    Fail CacheEntry := do
  match ← readSharedRootfsCacheEntry .recheck imageRef with
  | some entry => pure entry
  | none =>
    match ← readSharedRootfsCacheEntry .byImageId imageId with
    | some entry =>
      let aliased := { entry with imageRef := imageRef, imageId := imageId }
      writeSharedRootfsCacheEntry aliased
      pure aliased
    | none =>
      markSharedRootfsCachePending imageRef
      let result ← ask (prepareFromBundleInner imageRef imageId bundleDir).run
      ask (clearSharedRootfsCachePending imageRef)
      attempt (pure result)

end GuestComponents.SharedRootfs
