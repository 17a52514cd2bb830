import GuestComponents.SharedRootfs.Cache

/-! `vsock-ttrpc-server.rs`: the request handler of the shared-rootfs server, which
the tonic and the fast server both run, and the system of concurrent requests
and library calls over one host. -/
namespace GuestComponents.SharedRootfs
open Lib

/-- The wait loop of `lookup_cached_shared_rootfs`, whose timeout has passed
after this many further polls. -/
def waitForCachedSharedRootfs (imageRef : Text) (polls : Nat) : Fail (Option CacheEntry) := do
  match ← withContext "failed waiting for shared rootfs cache" (cachePath imageRef cacheFileSuffix)
      (readSharedRootfsCacheEntry .wait imageRef) with
  | some entry => pure (some entry)
  | none =>
    if ← ask (sharedRootfsCachePending imageRef) then
      match polls with
      | 0 => pure none
      | left + 1 => waitForCachedSharedRootfs imageRef left
    else pure none

/-- `lookup_cached_shared_rootfs`. -/
def lookupCachedSharedRootfs (imageRef : Text) (polls : Nat) : Fail (Option CacheEntry) := do
  match ← ask (readSharedRootfsCacheEntry .lookup imageRef).run with
  | .ok (some entry) => pure (some entry)
  | _ =>
    if ← ask (sharedRootfsCachePending imageRef) then waitForCachedSharedRootfs imageRef polls
    else pure none

/-- `lookup_pulled_bundle`. -/
def lookupPulledBundle (imageRef : Text) : Prog (Option BundleEntry) := do
  match ← (readSharedRootfsBundleEntry imageRef).run with
  | .ok found => pure found
  | .error _ => pure none

/-- `prepare_entry_from_bundle`. -/
def prepareEntryFromBundle (imageRef imageId : Text) (bundlePath : Path) : Fail CacheEntry :=
  withContext "failed to prepare shared rootfs cache" bundlePath
    (prepareSharedRootfsCacheFromBundle imageRef imageId bundlePath)

/-- `reply_from_cache_entry`. -/
def replyFromCacheEntry (entry : CacheEntry) : PrepareRootfsResponse where
  imageId := entry.imageId
  fsType := entry.fsType
  imageSize := entry.imageSize
  blockSize := entry.blockSize
  rootfsDigest := entry.rootfsDigest
  ociConfigJson := entry.ociConfigJson
  sourceRdAddr := entry.sourceRdAddr
  shareId := entry.shareId
  pageCount := entry.pageCount

/-- The bundle directory of a request. -/
def requestBundlePath (imageRef : Text) (requestId : Nat) : Path :=
  .shared .bundles [sanitizePathComponent imageRef ++ '-' :: (Nat.repr requestId).toList]

/-- `prepare_rootfs_response` after the lookups: pull, index the bundle and
prepare the entry, inside a pending mark if that could be set. -/
def pullAndPrepare (imageRef : Text) : Fail CacheEntry := do
  let requestId ← ask (call .nowMillis)
  let bundlePath := requestBundlePath imageRef requestId
  attempt (call (.createDirAll bundlePath))
  attempt (call (.createDirAll imagesDir))
  let marked ← ask (markSharedRootfsCachePending imageRef).run
  let clear : Prog Unit := match marked with
    | .ok () => clearSharedRootfsCachePending imageRef
    | .error _ => pure ()
  match ← ask (call (.pullImage imageRef bundlePath)) with
  | .error cause =>
    ask clear
    throw (.context "pull_image failed" bundlePath cause)
  | .ok imageId =>
    let _ ← ask (writeSharedRootfsBundleEntry ⟨imageRef, imageId, bundlePath⟩).run
    let entry ← ask (prepareEntryFromBundle imageRef imageId bundlePath).run
    ask clear
    attempt (pure entry)

/-- How `pullAndPrepare` takes its pending mark back, if it has set one. -/
def clearMarked (imageRef : Text) (marked : Except Error Unit) : Prog Unit :=
  match marked with
  | .ok () => clearSharedRootfsCachePending imageRef
  | .error _ => pure ()

theorem clearMarked_cases {imageRef : Text} {P : Prog Unit → Prop}
    (clears : P (clearSharedRootfsCachePending imageRef))
    (stays : P (pure ())) (marked : Except Error Unit) : P (clearMarked imageRef marked) := by
  cases marked with
  | ok value => exact clears
  | error error => exact stays

/-- `prepare_rootfs_response` after a lookup that gave no entry. -/
def prepareMissingEntry (imageRef : Text) : Fail CacheEntry := do
  match ← ask (lookupPulledBundle imageRef) with
  | some bundle => prepareEntryFromBundle imageRef bundle.imageId bundle.bundlePath
  | none => pullAndPrepare imageRef

/-- The entry that `prepare_rootfs_response` replies from. -/
def prepareRootfsEntry (imageRef : Text) (polls : Nat) : Fail CacheEntry := do
  match ← lookupCachedSharedRootfs imageRef polls with
  | some entry => pure entry
  | none => prepareMissingEntry imageRef

/-- `prepare_rootfs_response`. -/
def prepareRootfsResponse (imageRef : Text) (polls : Nat) : Fail PrepareRootfsResponse := do
  let entry ← prepareRootfsEntry imageRef polls
  pure (replyFromCacheEntry entry)

/-- A call, up to its reply. -/
def Request.program : Request → Prog Unit
  | .writeCache entry => do
    call (.reply (.wrote (← (writeSharedRootfsCacheEntry entry).run)))
  | .writeBundle entry => do
    call (.reply (.wrote (← (writeSharedRootfsBundleEntry entry).run)))
  | .prepare imageRef imageId bundleDir => do
    call (.reply (.prepared (← (prepareSharedRootfsCacheFromBundle imageRef imageId bundleDir).run)))
  | .prepareImage rootfsDir imagesDir safeImageId _ => do
    call (.reply (.image (← (prepareSharedRootfsImage rootfsDir imagesDir safeImageId).run)))
  | .wait imageRef polls => do
    call (.reply (.waited (← (waitForSharedRootfsCacheEntry imageRef polls).run)))
  | .prepareRootfs imageRef polls => do
    call (.reply (.rootfs (← (prepareRootfsResponse imageRef polls).run)))

/-- Concurrent calls over one host, from a disk that `initial` describes. -/
def calls (initial : Disk → Prop) : System (Pool Op Answer World) (PoolLabel Request Choice) :=
  host.pool Request.program fun world => initial world.disk ∧ world.history = []

end GuestComponents.SharedRootfs
