import GuestComponents.Image.Bundle
import GuestComponents.Lib.Panic

/-! `nydus/service.rs`: the service behind nydus images, and the pull of an image that starts it. Its
daemon is started in a task of its own, whose result holds that of the process function. The caller looks
at the outer one only, so that a panic of a step is reported and an error is not. -/
namespace GuestComponents.Image.NydusService
open Lib Lib.Text Image Image.Bundle

structure FuseConfig where
  failOverPolicy : Text
  fuseThreads : Nat
  prefetchFiles : Option (List Text)
  virtualMountpoint : Option HostPath

structure FscacheConfig where
  fscache : Option HostPath
  fscacheTag : Option Text
  fscacheThreads : Nat

structure NydusConfig where
  driverType : Text
  id : Option Text
  fuseConfig : Option FuseConfig
  fscacheConfig : Option FscacheConfig

def NydusConfig.isFuse (config : NydusConfig) : Bool := config.driverType = "fuse".toList

def NydusConfig.isFscache (config : NydusConfig) : Bool := config.driverType = "fscache".toList

/-- A daemon that was started, with what it was started with. -/
inductive Daemon where
  | fuse (id : Option Text) (mountpoint source config virtualMnt : Text) (prefetchFiles : Option (List Text))
    (threads : Nat)
  | fscache (id : Option Text) (fscache : Option Text) (tag : Option Text) (threads config : Text)
  deriving DecidableEq

/-- The calls of the daemon controller, which panic where one of its locks is poisoned. -/
inductive ControllerCall where
  | allocWaker
  | setSingletonMode
  | setBlobCacheMgr
  | setDaemon

/-- What the calls meet that leave the code. -/
structure ServiceCall where
  refuseDir : HostPath → Option String
  /-- `Path::to_str`: nothing where a name is no UTF-8. -/
  toStr : HostPath → Option Text
  /-- `Debug` of a text, as `format!` writes it. -/
  debug : Text → Text
  createVfsBackend : Option (Fault String)
  failOverPolicy : Text → Option String
  createFuseDaemon : Option (Fault String)
  /-- `serde_json::from_str`, for a `Value` and for a `BlobCacheEntry`. -/
  readsValue : Text → Bool
  readsEntry : Text → Bool
  prepareConfigurationInfo : Text → Bool
  createDaemon : Option (Fault String)
  hasBlobCacheMgr : Bool
  addBlobEntry : Option (Fault String)
  erofsMount : Option String
  controller : ControllerCall → Option String
  spawnThread : Option String
  pullBootstrap : Outcome LayerMeta
  bundle : Bundle.Call
  spec : ImageConfiguration → List UInt8

/-- The guest with the daemon controller and the client's database. -/
structure Machine where
  host : Host
  /-- The erofs mounts, with their options. -/
  erofs : List (HostPath × Text)
  started : List Daemon
  daemon : Option Daemon
  singletonMode : Bool
  blobEntries : List Text
  blobCacheMgr : Bool
  metaStore : MetaStore

abbrev ServiceAction := Action Machine (Fault String)

namespace Machine

def setHost (machine : Machine) (host : Host) : Machine := { machine with host := host }

def start (daemon : Daemon) (machine : Machine) : Machine := { machine with started := daemon :: machine.started }

/-- `DAEMON_CONTROLLER.set_daemon`. -/
def setDaemon (daemon : Daemon) (machine : Machine) : Machine := { machine with daemon := some daemon }

def setSingletonMode (machine : Machine) : Machine := { machine with singletonMode := true }

def addBlobEntry (entry : Text) (machine : Machine) : Machine :=
  { machine with blobEntries := entry :: machine.blobEntries }

def setBlobCacheMgr (machine : Machine) : Machine := { machine with blobCacheMgr := true }

def addErofs (target : HostPath) (options : Text) (machine : Machine) : Machine :=
  { machine with erofs := (target, options) :: machine.erofs }

def insertImage (image : ImageMeta) (machine : Machine) : Machine :=
  { machine with metaStore := machine.metaStore.insertImage image }

def extendLayers (layers : List LayerMeta) (machine : Machine) : Machine :=
  { machine with metaStore := machine.metaStore.extendLayers layers }

end Machine

/-- A call on the host, whose errors are returned. -/
def onHost {α : Type} (action : HostAction α) : ServiceAction α :=
  Action.mapError .error (Action.zoom Machine.host Machine.setHost action)

/-- The context of an error. -/
def addContext (change : String → String) : Fault String → Fault String
  | .error message => .error (change message)
  | .panic message => .panic message

def context {α : Type} (change : String → String) (action : ServiceAction α) : ServiceAction α :=
  Action.mapError (addContext change) action

section Service

variable (call : ServiceCall)

/-- A call that changes nothing here. -/
def attempt (refused : Option (Fault String)) : ServiceAction Unit := Action.step refused id

/-- `if !path.exists() { std::fs::create_dir_all(path)?; }`. -/
def createMissing (path : HostPath) : ServiceAction Unit :=
  onHost (Host.files (HostTree.createMissing call.refuseDir path))

def controller (which : ControllerCall) (effect : Machine → Machine) : ServiceAction Unit :=
  Action.step ((call.controller which).map .panic) effect

def cacheDir (workDir : HostPath) : HostPath := workDir ++ ["cache".toList]

def fuseConfigText (reference : Reference) (workDir : HostPath) : Text :=
  "\n\x7b\n    \"device\": \x7b\n        \"backend\": \x7b\n            \"type\": \"registry\",\n".toList ++
  "            \"config\": \x7b\n                \"scheme\": \"https\",\n                \"host\": ".toList ++
  call.debug reference.registry ++ ",\n                \"repo\": ".toList ++ call.debug reference.repository ++
  "\n            \x7d\n        \x7d,\n        \"cache\": \x7b\n            \"type\": \"blobcache\",\n".toList ++
  "            \"config\": \x7b\n                \"compressed\": false,\n                \"work_dir\": ".toList ++
  call.debug (pathText (cacheDir workDir)) ++
  "\n            \x7d\n        \x7d\n    \x7d,\n    \"mode\": \"direct\",\n".toList ++
  "    \"digest_validate\": false,\n    \"iostats_files\": false\n\x7d\n".toList

def fscacheConfigText (reference : Reference) (blobId : Text) (workDir : HostPath) (bootstrap : Text) : Text :=
  "\n\x7b\n    \"type\": \"bootstrap\",\n    \"id\": ".toList ++ call.debug blobId ++
  ",\n    \"domain_id\": ".toList ++ call.debug reference.registry ++
  ",\n    \"config_v2\": \x7b\n        \"version\": 2,\n        \"backend\": \x7b\n".toList ++
  "            \"type\": \"registry\",\n            \"registry\": \x7b\n".toList ++
  "                \"scheme\": \"https\",\n                \"host\": ".toList ++ call.debug reference.registry ++
  ",\n                \"repo\": ".toList ++ call.debug reference.repository ++
  "\n            \x7d\n        \x7d,\n        \"cache\": \x7b\n            \"type\": \"fscache\",\n".toList ++
  "            \"fscache\": \x7b\n                \"work_dir\": ".toList ++ call.debug (pathText (cacheDir workDir)) ++
  "\n            \x7d\n        \x7d,\n        \"metadata_path\": ".toList ++ call.debug bootstrap ++
  "\n    \x7d\n\x7d\n".toList

/-- The daemon of `create_fuse_daemon`. -/
def fuseDaemon (id : Option Text) (reference : Reference) (workDir : HostPath) (bootstrap : Text)
    (mountpoint : HostPath) (fuse : FuseConfig) : Daemon :=
  .fuse id ((call.toStr mountpoint).getD []) bootstrap (fuseConfigText call reference workDir)
    (match fuse.virtualMountpoint with
      | some mnt => pathText mnt
      | none => ['/'])
    fuse.prefetchFiles fuse.fuseThreads

/-- `mountpoint.to_str().unwrap()`. -/
def unwrapsMountpoint (mountpoint : HostPath) : Option (Fault String) :=
  if (call.toStr mountpoint).isNone then some (.panic "called Option::unwrap() on a None value") else none

def processFuseDaemon (id : Option Text) (reference : Reference) (workDir : HostPath) (bootstrap : Text)
    (mountpoint : HostPath) (fuse : FuseConfig) : ServiceAction Unit := do
  let daemon := fuseDaemon call id reference workDir bootstrap mountpoint fuse
  createMissing call mountpoint
  createMissing call (cacheDir workDir)
  attempt call.createVfsBackend
  attempt ((call.failOverPolicy fuse.failOverPolicy).map .error)
  attempt (unwrapsMountpoint call mountpoint)
  controller call .allocWaker fun machine => machine
  Action.step call.createFuseDaemon (Machine.start daemon)
  controller call .setDaemon (Machine.setDaemon daemon)

/-- The options of the erofs mount. -/
def erofsOptions (domainId fscacheId : Text) : Text :=
  if domainId ≠ [] ∧ domainId ≠ fscacheId then
    "domain_id=".toList ++ domainId ++ ",fsid=".toList ++ fscacheId
  else "fsid=".toList ++ fscacheId

/-- What keeps the erofs from being mounted. -/
def erofsRefused (mountPath : HostPath) (host : Host) : Option (Fault String) :=
  (if host.tree.node mountPath ≠ some .dir then some "Not a directory" else call.erofsMount).map .error

def erofsMount (domainId fscacheId : Text) (mountPath : HostPath) : ServiceAction Unit := do
  createMissing call mountPath
  Action.stepIf (fun machine => erofsRefused call mountPath machine.host)
    (Machine.addErofs mountPath (erofsOptions domainId fscacheId))

/-- The blob cache manager of the daemon takes the entry. -/
def registerBlob (entry : Text) : ServiceAction Unit :=
  if call.hasBlobCacheMgr then do
    Action.step (call.addBlobEntry.map (addContext (s!"Failed to add blob entry to blob cache mgr {·}")))
      (Machine.addBlobEntry entry)
    controller call .setBlobCacheMgr Machine.setBlobCacheMgr
  else pure ()

/-- The working directory of the fscache driver. -/
def fscacheDir (workDir : HostPath) (fscache : FscacheConfig) : HostPath := fscache.fscache.getD (cacheDir workDir)

/-- The daemon of `create_daemon`. -/
def fscacheDaemon (id : Option Text) (reference : Reference) (blobId : Text) (workDir : HostPath) (bootstrap : Text)
    (fscache : FscacheConfig) : Daemon :=
  .fscache id (call.toStr (fscacheDir workDir fscache)) fscache.fscacheTag
    (toString fscache.fscacheThreads).toList (fscacheConfigText call reference blobId workDir bootstrap)

/-- What is wrong with the configuration of the blob. -/
def configRefused (config : Text) : Option (Fault String) :=
  if ¬ (call.readsValue config ∧ call.readsEntry config) then some (.error "invalid configuration file")
  else if ¬ call.prepareConfigurationInfo config then
    some (.error "Failed to prepare blob entry configuration info")
  else none

def processFscacheDaemon (id : Option Text) (reference : Reference) (blobId : Text) (workDir : HostPath)
    (bootstrap : Text) (mountpoint : HostPath) (fscache : FscacheConfig) : ServiceAction Unit := do
  let config := fscacheConfigText call reference blobId workDir bootstrap
  let daemon := fscacheDaemon call id reference blobId workDir bootstrap fscache
  createMissing call mountpoint
  createMissing call (cacheDir workDir)
  attempt (configRefused call config)
  createMissing call (fscacheDir workDir fscache)
  controller call .allocWaker fun machine => machine
  Action.step call.createDaemon (Machine.start daemon)
  controller call .setSingletonMode Machine.setSingletonMode
  registerBlob call config
  controller call .setDaemon (Machine.setDaemon daemon)
  context (s!"Failed to mount {·}") (erofsMount call reference.registry blobId mountpoint)

/-- `task::spawn_blocking(..).await`: the task's own result, or the panic that ended it. -/
def spawnBlocking {α : Type} (task : ServiceAction α) : ServiceAction (Except String (Except String α)) :=
  fun machine =>
  match task machine with
  | (.ok value, after) => (.ok (.ok (.ok value)), after)
  | (.error (.error message), after) => (.ok (.ok (.error message)), after)
  | (.error (.panic message), after) => (.ok (.error message), after)

/-- `if let Err(e) = task::spawn_blocking(..).await`. -/
def runTask (task : ServiceAction Unit) : ServiceAction Unit := do
  match ← spawnBlocking task with
  | .error message => Action.fail (.error s!"Failed to start nydus service, {message}")
  | .ok _ => pure ()

/-- The digest of the bootstrap without its algorithm. -/
def blobIdOf (compressedDigest : Text) : Text :=
  match compressedDigest.dropPrefix? "sha256:".toList with
  | some rest => rest
  | none => (compressedDigest.dropPrefix? "sha512:".toList).getD compressedDigest

/-- What a call of `start_nydus_service` is about. -/
structure Start where
  image : ImageMeta
  reference : Reference
  config : NydusConfig
  workDir : HostPath
  bundleDir : HostPath
  snapshot : Snapshotter

def Start.mountpoint (start : Start) : HostPath := start.bundleDir ++ [nydusRootfs]

/-- The path of the bootstrap in its layer. -/
def bootstrapOf (layer : LayerMeta) : Text := layer.storePath ++ "/image/image.boot".toList

/-- The task of the driver, with the bootstrap's layer. -/
def driver (start : Start) (layer : LayerMeta) : ServiceAction (ServiceAction Unit) :=
  if start.config.isFuse then
    match start.config.fuseConfig with
    | some fuse => pure (processFuseDaemon call start.config.id start.reference start.workDir (bootstrapOf layer)
        start.mountpoint fuse)
    | none => Action.fail (.panic "Fuse configuration not found")
  else if start.config.isFscache then
    match start.config.fscacheConfig with
    | some fscache => pure (processFscacheDaemon call start.config.id start.reference
        (blobIdOf layer.compressedDigest) start.workDir (bootstrapOf layer) start.mountpoint fscache)
    | none => Action.fail (.panic "Fscache configuration not found")
  else Action.fail (.error "Only fuse and fscache fs drivers are supported right now")

/-- `start_nydus_service`. The thread with the daemon's event loop goes on beside the call. -/
def startNydusService (start : Start) : ServiceAction Text := do
  match start.image.layerMetas.head? with
  | none => Action.fail (.panic "index out of bounds: the len is 0 but the index is 0")
  | some layer =>
    let task ← driver call start layer
    runTask task
    attempt (call.spawnThread.map .panic)
    onHost (Bundle.createNydusBundle call.bundle call.spec start.image start.bundleDir start.snapshot)

end Service

/-- The client, as far as nydus images need more of it than others. -/
structure NydusClient where
  client : ImageClient
  nydusConfig : Option NydusConfig
  workDir : HostPath
  snapshotter : Text → Snapshotter

section Pull

variable (call : ServiceCall) (client : NydusClient)

-- By this, it is decided whether a snapshot is among those of the client.
local instance lawfulText : LawfulBEq Text := inferInstance

/-- `do_pull_image_with_nydus` up to the start of the service. -/
def pullBootstrap (image : ImageMeta) (manifest : OciImageManifest) (bundleDir : HostPath) : ServiceAction Start := do
  match image.imageConfig.diffIds.getLast?, getNydusBootstrapDesc manifest with
  | none, _ => Action.fail (.error "Failed to get bootstrap id, diff_ids is empty")
  | _, none => Action.fail (.error "Faild to get bootstrap oci descriptor")
  | some _, some _ =>
    let layer ← Action.ofExcept call.pullBootstrap
    let image := { image with layerMetas := [layer] }
    Action.step none (Machine.extendLayers image.layerMetas)
    let reference ← Action.ofExcept (Outcome.ofResult (client.client.oci.tryFrom image.reference))
    match client.nydusConfig with
    | none => Action.fail (.panic "Nydus configuration not found")
    | some config =>
      if client.client.defaultSnapshot ∉ client.client.snapshots then
        Action.fail (.error s!"default snapshot {String.ofList client.client.defaultSnapshot} not found")
      else pure ⟨image, reference, config, client.workDir, bundleDir,
        client.snapshotter client.client.defaultSnapshot⟩

/-- `do_pull_image_with_nydus`, with which `pull_image` ends for a nydus image that its database does not have. -/
def doPullImageWithNydus (image : ImageMeta) (manifest : OciImageManifest) (bundleDir : HostPath) :
    ServiceAction Text := do
  let start ← pullBootstrap call client image manifest bundleDir
  let imageId ← startNydusService call start
  Action.step none (Machine.insertImage start.image)
  pure imageId

end Pull
/-- What is mounted at the root file system of a bundle. -/
def rootfsMounts (bundleDir : HostPath) (host : Host) : List HostMount :=
  host.mounts.filter fun mount => mount.target = bundleDir ++ [bundleRootfs]

section Property

variable (call : ServiceCall) (start : Start)

/-- A step of the driver's process function fails, or panics. -/
def Fails (machine : Machine) : Prop := ∃ layer task fault, start.image.layerMetas.head? = some layer ∧
  driver call start layer machine = (.ok task, machine) ∧ (task machine).1 = .error fault

/-- The daemon of the call was started and is registered, and for fscache the erofs is mounted. -/
def Registered (after : Machine) : Prop := ∃ layer daemon, start.image.layerMetas.head? = some layer ∧
  after.daemon = some daemon ∧ daemon ∈ after.started ∧
  ((start.config.isFuse = true ∧ ∃ fuse, start.config.fuseConfig = some fuse ∧
      daemon = fuseDaemon call start.config.id start.reference start.workDir
        (bootstrapOf layer) start.mountpoint fuse) ∨
    (start.config.isFscache = true ∧ ∃ fscache, start.config.fscacheConfig = some fscache ∧
      daemon = fscacheDaemon call start.config.id start.reference (blobIdOf layer.compressedDigest) start.workDir
        (bootstrapOf layer) fscache ∧
      (start.mountpoint, erofsOptions start.reference.registry (blobIdOf layer.compressedDigest)) ∈ after.erofs))

/-- What comes of a call that starts the service tells of a failure of its steps: an error, without a mount and without
an image in the database; and a call that succeeds has its daemon. -/
structure Reports (before : Machine) (outcome : Except (Fault String) Text × Machine) : Prop where
  returns : Fails call start before → ∃ error, outcome.1 = .error (.error error)
  unmounted : Fails call start before →
    rootfsMounts start.bundleDir outcome.2.host = rootfsMounts start.bundleDir before.host
  unrecorded : Fails call start before → outcome.2.metaStore.imageDb = before.metaStore.imageDb
  registered : (∃ imageId, outcome.1 = .ok imageId) → Registered call start outcome.2

end Property

section Condition

variable (call : ServiceCall) (start : Start)

/-- What comes of a directory that is made where it is missing. -/
def dirMade (path : HostPath) (host : Host) : Except String Unit × Host :=
  Host.files (HostTree.createMissing call.refuseDir path) host

def dirRefused (path : HostPath) (host : Host) : Option (Fault String) :=
  match (dirMade call path host).1 with
  | .ok _ => none
  | .error message => some (.error message)

def panics (which : ControllerCall) : Option (Fault String) := (call.controller which).map .panic

/-- What refuses the steps of `process_fuse_daemon`, one after the other. -/
def fuseSteps (fuse : FuseConfig) (host : Host) : List (Option (Fault String)) :=
  let first := (dirMade call start.mountpoint host).2
  [dirRefused call start.mountpoint host, dirRefused call (cacheDir start.workDir) first, call.createVfsBackend,
    (call.failOverPolicy fuse.failOverPolicy).map .error, unwrapsMountpoint call start.mountpoint,
    panics call .allocWaker, call.createFuseDaemon, panics call .setDaemon]

/-- What refuses the steps of `process_fscache_daemon`, one after the other. -/
def fscacheSteps (layer : LayerMeta) (fscache : FscacheConfig) (host : Host) : List (Option (Fault String)) :=
  let first := (dirMade call start.mountpoint host).2
  let second := (dirMade call (cacheDir start.workDir) first).2
  let third := (dirMade call (fscacheDir start.workDir fscache) second).2
  let fourth := (dirMade call start.mountpoint third).2
  [dirRefused call start.mountpoint host, dirRefused call (cacheDir start.workDir) first,
    configRefused call
      (fscacheConfigText call start.reference (blobIdOf layer.compressedDigest) start.workDir (bootstrapOf layer)),
    dirRefused call (fscacheDir start.workDir fscache) second, panics call .allocWaker, call.createDaemon,
    panics call .setSingletonMode] ++
  (if call.hasBlobCacheMgr then
    [call.addBlobEntry.map (addContext (s!"Failed to add blob entry to blob cache mgr {·}")),
      panics call .setBlobCacheMgr]
  else []) ++
  [panics call .setDaemon, (dirRefused call start.mountpoint third).map (addContext (s!"Failed to mount {·}")),
    (erofsRefused call start.mountpoint fourth).map (addContext (s!"Failed to mount {·}"))]

/-- The steps of the driver that runs. -/
def driverSteps (layer : LayerMeta) (host : Host) : List (Option (Fault String)) :=
  if start.config.isFuse then (start.config.fuseConfig.map fun fuse => fuseSteps call start fuse host).getD []
  else (start.config.fscacheConfig.map fun fscache => fscacheSteps call start layer fscache host).getD []

/-- The first step that is refused is refused with an error, and not with a panic. -/
def ErrorFirst (steps : List (Option (Fault String))) : Prop :=
  ∃ message, steps.foldr Option.or none = some (.error message)

/-- The configuration is written. -/
def ConfigWritten (call : Bundle.Call) (bundleDir : HostPath) (host : Host) : Prop :=
  host.tree.node (bundleDir ++ [bundleConfig]) = none ∧ call.configOpen = none ∧ call.configCut = none

/-- The bundle is not made, and nothing is mounted for it. -/
def BundleStops (call : Bundle.Call) (snapshot : Snapshotter) (image : ImageMeta) (bundleDir : HostPath) (host : Host) :
    Prop :=
  image.imageConfig.os ≠ .linux ∨
    match snapshot with
    | .overlay dataDir => ¬ OverlayMounts call dataDir bundleDir host
    | .occlumUnionfs => ¬ OcclumMounts call bundleDir host ∨
      (OcclumFills call [pathText (bundleDir ++ [nydusRootfs])] ∧ ¬ ConfigWritten call bundleDir host)

/-- Where a step is refused with an error, the bundle is not made either, over the host as the steps leave it. -/
def Stops (machine : Machine) : Prop := ∀ layer task, start.image.layerMetas.head? = some layer →
  driver call start layer machine = (.ok task, machine) → ErrorFirst (driverSteps call start layer machine.host) →
    call.spawnThread = none ∧ BundleStops call.bundle start.snapshot start.image start.bundleDir (task machine).2.host

end Condition

section Bundles

variable {call : Bundle.Call} {snapshot : Snapshotter} {image : ImageMeta} {bundleDir : HostPath} {host after : Host}
  {spec : ImageConfiguration → List UInt8}

/-- A mount at the root file system is seen, whatever is done with the configuration. -/
theorem rootfsMounts_mounted {id : Nat} {source : MountSource} {final : Host}
    (mounted : after.mounts = ⟨id, bundleDir ++ [bundleRootfs], source⟩ :: host.mounts)
    (kept : final.mounts = after.mounts) :
    rootfsMounts bundleDir final ≠ rootfsMounts bundleDir host := by
  intro same
  have lengths := congrArg List.length same
  rw [rootfsMounts, kept, mounted, List.filter_cons_of_pos (by simp), rootfsMounts, List.length_cons] at lengths
  omega

theorem createRuntimeConfig_mounts (call : Bundle.Call) (spec : ImageConfiguration → List UInt8)
    (config : ImageConfiguration) (bundleDir : HostPath) (host : Host) :
    (createRuntimeConfig call spec config bundleDir host).2.mounts = host.mounts := by
  rw [createRuntimeConfig, Action.bind_apply]
  show ((if (host.tree.node (bundleDir ++ [bundleConfig])).isSome = true then _ else _ : HostAction Unit)
    host).2.mounts = _
  split <;> rfl

theorem finishBundle_mounts (call : Bundle.Call) (spec : ImageConfiguration → List UInt8) (image : ImageMeta)
    (bundleDir : HostPath) (host : Host) : (finishBundle call spec image bundleDir host).2.mounts = host.mounts := by
  rw [finishBundle]
  split
  · rfl
  · rw [← createRuntimeConfig_mounts call spec image.imageConfig bundleDir host, Action.bind_apply]
    rcases createRuntimeConfig call spec image.imageConfig bundleDir host with ⟨error | value, after⟩ <;> rfl

/-- Where the configuration can be written, the bundle is made. -/
theorem finishBundle_fails_iff (bundle : host.tree.node bundleDir = some .dir) (linux : image.imageConfig.os = .linux) :
    (∃ error, (finishBundle call spec image bundleDir host).1 = .error error) ↔
      ¬ ConfigWritten call bundleDir host := by
  by_cases configures : Configures call bundleDir image host
  · obtain ⟨whole, partly⟩ := finishBundle_writes spec configures
    cases cut : call.configCut with
    | none =>
      obtain ⟨final, written⟩ := whole cut
      rw [written]
      exact ⟨nofun, fun absent => absurd ⟨configures.2.1, configures.2.2.2, cut⟩ absent⟩
    | some cut' =>
      obtain ⟨error, final, failed, _, _⟩ := partly cut' cut
      rw [failed]
      refine ⟨fun _ written => ?_, fun _ => ⟨error, rfl⟩⟩
      rw [written.2.2] at cut
      cases cut
  · obtain ⟨error, failed⟩ := finishBundle_refused spec configures
    rw [failed]
    exact ⟨fun _ written => configures ⟨linux, written.1, bundle, written.2.1⟩, fun _ => ⟨error, rfl⟩⟩

theorem bundleStops_iff (call : Bundle.Call) (spec : ImageConfiguration → List UInt8) (snapshot : Snapshotter)
    (image : ImageMeta) (bundleDir : HostPath) (host : Host) :
    ((∃ error, (Bundle.createNydusBundle call spec image bundleDir snapshot host).1 = .error error) ∧
        rootfsMounts bundleDir (Bundle.createNydusBundle call spec image bundleDir snapshot host).2 =
          rootfsMounts bundleDir host) ↔
      BundleStops call snapshot image bundleDir host := by
  by_cases linux : image.imageConfig.os = .linux
  · have made : Bundle.createNydusBundle call spec image bundleDir snapshot =
        (snapshotMount call snapshot [pathText (bundleDir ++ [nydusRootfs])] (bundleDir ++ [bundleRootfs]) >>= fun _ =>
          finishBundle call spec image bundleDir) := by
      rw [Bundle.createNydusBundle, if_neg (by simp [linux])]
      refine congrArg _ (funext fun _ => ?_)
      rw [finishBundle, if_neg (by simp [linux])]
    rw [made, BundleStops.eq_def, or_iff_right (by simp [linux])]
    cases snapshot with
    | overlay dataDir =>
      obtain ⟨result, after, ran, success, _, mounted, unmounted⟩ :=
        overlayMount_ends call dataDir bundleDir [pathText (bundleDir ++ [nydusRootfs])] host
      change snapshotMount call (.overlay dataDir) _ _ host = _ at ran
      change _ ↔ ¬ OverlayMounts call dataDir bundleDir host
      cases result with
      | error error =>
        rw [Action.bind_error ran]
        have failed : (Except.error error : Except String Unit) ≠ .ok () := fun same => by cases same
        refine ⟨fun _ mounts => failed (success.mpr mounts), fun _ => ⟨⟨error, rfl⟩, ?_⟩⟩
        rw [rootfsMounts, unmounted failed, rootfsMounts]
      | ok =>
        obtain ⟨id, source, mounts⟩ := mounted rfl
        rw [Action.bind_ok ran]
        refine ⟨fun stops => ?_, fun stays => absurd (success.mp rfl) stays⟩
        exact absurd stops.2 (rootfsMounts_mounted mounts (finishBundle_mounts call spec image bundleDir after))
    | occlumUnionfs =>
      obtain ⟨result, after, ran, adds, unmounted, stopped, filled⟩ :=
        occlumMount_ends call bundleDir [pathText (bundleDir ++ [nydusRootfs])] host
      change snapshotMount call .occlumUnionfs _ _ host = _ at ran
      by_cases mounts : OcclumMounts call bundleDir host
      · by_cases fills : OcclumFills call [pathText (bundleDir ++ [nydusRootfs])]
        · obtain ⟨rfl, sameMounts, there⟩ := filled mounts fills
          have bundle : after.tree.node bundleDir = some .dir := by
            by_cases root : bundleDir = []
            · rw [root]
              exact after.tree.root
            · exact there _ (HostTree.mem_prefixes.mpr ⟨root, List.prefix_append _ _⟩)
          have untouched : after.tree.node (bundleDir ++ [bundleConfig]) = host.tree.node
              (bundleDir ++ [bundleConfig]) :=
            (adds _).2 fun made =>
              config_outside bundleDir ((List.takeWhile_sublist _).subset (HostTree.mem_made.mp made).1)
          have kept : rootfsMounts bundleDir (finishBundle call spec image bundleDir after).2 =
              rootfsMounts bundleDir host := by
            rw [rootfsMounts, finishBundle_mounts, sameMounts, rootfsMounts]
          rw [Action.bind_ok ran, and_iff_left kept, finishBundle_fails_iff bundle linux, ConfigWritten, untouched]
          exact ⟨fun unwritten => .inr ⟨fills, unwritten⟩,
            fun stops => (stops.resolve_left fun stays => stays mounts).2⟩
        · obtain ⟨notOk, id, source, mountsAfter⟩ := stopped mounts fills
          cases result with
          | ok => exact absurd rfl notOk
          | error error =>
            rw [Action.bind_error ran]
            refine ⟨fun stops => absurd stops.2 (rootfsMounts_mounted mountsAfter rfl), ?_⟩
            rintro (stays | ⟨filled, _⟩)
            · exact absurd mounts stays
            · exact absurd filled fills
      · obtain ⟨notOk, sameMounts⟩ := unmounted mounts
        cases result with
        | ok => exact absurd rfl notOk
        | error error =>
          rw [Action.bind_error ran]
          exact ⟨fun _ => .inl mounts, fun _ => ⟨⟨error, rfl⟩, sameMounts⟩⟩
  · rw [Bundle.createNydusBundle, if_pos linux]
    exact ⟨fun _ => .inl linux, fun _ => ⟨⟨_, rfl⟩, rfl⟩⟩

end Bundles

section Steps

variable {α : Type} {machine after : Machine} {refused : Option (Fault String)} {effect : Machine → Machine}
  {rest : Unit → ServiceAction α} {action : ServiceAction α}

/-- What ended a call. -/
def refusal (outcome : Except (Fault String) α × Machine) : Option (Fault String) :=
  match outcome.1 with
  | .ok _ => none
  | .error fault => some fault

theorem refusal_step : refusal (Action.step refused effect machine) = refused := by
  cases refused <;> rfl

theorem refusal_step_bind :
    refusal ((Action.step refused effect >>= rest) machine) = refused.or (refusal (rest () (effect machine))) := by
  cases refused <;> rfl

theorem createMissing_eq (call : ServiceCall) (path : HostPath) (machine : Machine) :
    createMissing call path machine =
      ((dirMade call path machine.host).1.mapError .error, machine.setHost (dirMade call path machine.host).2) := rfl

theorem refusal_createMissing (call : ServiceCall) (path : HostPath) :
    refusal ((createMissing call path >>= rest) machine) =
      (dirRefused call path machine.host).or
        (refusal (rest () (machine.setHost (dirMade call path machine.host).2))) := by
  rw [Action.bind_apply, createMissing_eq, dirRefused]
  rcases dirMade call path machine.host with ⟨error | value, host⟩ <;> rfl

theorem refusal_context (change : String → String) (action : ServiceAction α) :
    refusal (context change action machine) = (refusal (action machine)).map (addContext change) := by
  rw [context, Action.mapError]
  rcases action machine with ⟨error | value, next⟩ <;> rfl

theorem refusal_processFuseDaemon (call : ServiceCall) (start : Start) (id : Option Text) (bootstrap : Text)
    (fuse : FuseConfig) (machine : Machine) :
    refusal (processFuseDaemon call id start.reference start.workDir bootstrap start.mountpoint fuse machine) =
      (fuseSteps call start fuse machine.host).foldr Option.or none := by
  rw [processFuseDaemon]
  simp only [refusal_createMissing, attempt, controller, refusal_step_bind, refusal_step, fuseSteps, panics,
    List.foldr_cons, List.foldr_nil, Option.or_none]
  rfl

theorem refusal_registerBlob (call : ServiceCall) (entry : Text) :
    refusal ((registerBlob call entry >>= rest) machine) =
      ((if call.hasBlobCacheMgr then
        [call.addBlobEntry.map (addContext (s!"Failed to add blob entry to blob cache mgr {·}")),
          panics call .setBlobCacheMgr]
      else []).foldr Option.or none).or (refusal (rest () (if call.hasBlobCacheMgr then
        (machine.addBlobEntry entry).setBlobCacheMgr else machine))) := by
  rw [registerBlob]
  split
  · simp only [bind_assoc, controller, refusal_step_bind, panics, List.foldr_cons, List.foldr_nil, Option.or_none,
      Option.or_assoc]
  · rfl

theorem refusal_erofsMount (call : ServiceCall) (domainId fscacheId : Text) (path : HostPath) :
    refusal (erofsMount call domainId fscacheId path machine) =
      (dirRefused call path machine.host).or (erofsRefused call path (dirMade call path machine.host).2) := by
  rw [erofsMount, refusal_createMissing]
  exact congrArg _ refusal_step

theorem foldr_or_append (one two : List (Option (Fault String))) :
    (one ++ two).foldr Option.or none = (one.foldr Option.or none).or (two.foldr Option.or none) := by
  induction one with
  | nil => rfl
  | cons first one ih => rw [List.cons_append, List.foldr_cons, ih, List.foldr_cons, Option.or_assoc]

theorem refusal_processFscacheDaemon (call : ServiceCall) (start : Start) (layer : LayerMeta) (fscache : FscacheConfig)
    (machine : Machine) :
    refusal (processFscacheDaemon call start.config.id start.reference (blobIdOf layer.compressedDigest) start.workDir
        (bootstrapOf layer) start.mountpoint fscache machine) =
      (fscacheSteps call start layer fscache machine.host).foldr Option.or none := by
  have untouched : ∀ machine : Machine, ∀ entry, (if call.hasBlobCacheMgr then
      (machine.addBlobEntry entry).setBlobCacheMgr else machine).host = machine.host := by
    intro machine entry
    split <;> rfl
  rw [processFscacheDaemon]
  simp only [refusal_createMissing, attempt, controller, refusal_step_bind, refusal_registerBlob, refusal_context,
    refusal_erofsMount, fscacheSteps, panics, foldr_or_append, List.foldr_cons, List.foldr_nil, Option.or_none,
    Option.or_assoc, Option.map_or]
  simp only [Machine.setDaemon, untouched]
  rfl

end Steps

section Kept

variable {α : Type} {machine after : Machine}

/-- The steps of a driver mount nothing on the host, and leave the database alone. -/
def Unseen (before after : Machine) : Prop :=
  after.host.mounts = before.host.mounts ∧ after.metaStore = before.metaStore

theorem unseen_refl (machine : Machine) : Unseen machine machine := ⟨rfl, rfl⟩

theorem unseen_trans (one two three : Machine) (first : Unseen one two) (second : Unseen two three) : Unseen one three :=
  ⟨second.1.trans first.1, second.2.trans first.2⟩

theorem keeps_step {refused : Option (Fault String)} {effect : Machine → Machine}
    (unseen : ∀ machine, Unseen machine (effect machine)) : Action.Keeps Unseen (Action.step refused effect) := by
  intro machine
  cases refused with
  | none => exact unseen machine
  | some fault => exact unseen_refl machine

theorem keeps_createMissing (call : ServiceCall) (path : HostPath) : Action.Keeps Unseen (createMissing call path) :=
  fun _ => ⟨rfl, rfl⟩

theorem keeps_bind {first : ServiceAction Unit} {rest : Unit → ServiceAction α} (keeps : Action.Keeps Unseen first)
    (later : ∀ value, Action.Keeps Unseen (rest value)) : Action.Keeps Unseen (first >>= rest) :=
  Action.Keeps.bind unseen_trans keeps later

theorem keeps_processFuseDaemon (call : ServiceCall) (id : Option Text) (reference : Reference) (workDir : HostPath)
    (bootstrap : Text) (mountpoint : HostPath) (fuse : FuseConfig) :
    Action.Keeps Unseen (processFuseDaemon call id reference workDir bootstrap mountpoint fuse) := by
  refine keeps_bind (keeps_createMissing _ _) fun _ => keeps_bind (keeps_createMissing _ _) fun _ => ?_
  iterate 5 refine keeps_bind (keeps_step fun _ => ⟨rfl, rfl⟩) fun _ => ?_
  exact keeps_step fun _ => ⟨rfl, rfl⟩

theorem keeps_processFscacheDaemon (call : ServiceCall) (id : Option Text) (reference : Reference) (blobId : Text)
    (workDir : HostPath) (bootstrap : Text) (mountpoint : HostPath) (fscache : FscacheConfig) :
    Action.Keeps Unseen (processFscacheDaemon call id reference blobId workDir bootstrap mountpoint fscache) := by
  refine keeps_bind (keeps_createMissing _ _) fun _ => keeps_bind (keeps_createMissing _ _) fun _ => ?_
  refine keeps_bind (keeps_step fun _ => unseen_refl _) fun _ => keeps_bind (keeps_createMissing _ _) fun _ => ?_
  iterate 3 refine keeps_bind (keeps_step fun _ => ⟨rfl, rfl⟩) fun _ => ?_
  have register : Action.Keeps Unseen
      (registerBlob call (fscacheConfigText call reference blobId workDir bootstrap)) := by
    rw [registerBlob]
    split
    · exact keeps_bind (keeps_step fun _ => ⟨rfl, rfl⟩) fun _ => keeps_step fun _ => ⟨rfl, rfl⟩
    · exact unseen_refl
  refine keeps_bind register fun _ => keeps_bind (keeps_step fun _ => ⟨rfl, rfl⟩) fun _ => ?_
  have mounts : Action.Keeps Unseen (erofsMount call reference.registry blobId mountpoint) :=
    keeps_bind (keeps_createMissing _ _) fun _ machine =>
      @keeps_step (erofsRefused call mountpoint machine.host)
        (Machine.addErofs mountpoint (erofsOptions reference.registry blobId)) (fun _ => ⟨rfl, rfl⟩) machine
  exact fun machine => mounts machine

/-- Directories that were made, and what follows. -/
theorem createMissing_bind_ok {call : ServiceCall} {path : HostPath} {value : α} {rest : Unit → ServiceAction α}
    (ran : (createMissing call path >>= rest) machine = (.ok value, after)) :
    ∃ host, rest () (machine.setHost host) = (.ok value, after) := by
  rw [Action.bind_apply, createMissing_eq] at ran
  rcases made : dirMade call path machine.host with ⟨error | value, host⟩
  · rw [made] at ran
    cases ran
  · rw [made] at ran
    exact ⟨host, ran⟩

theorem registered_fuse {call : ServiceCall} {id : Option Text} {reference : Reference} {workDir mountpoint : HostPath}
    {bootstrap : Text} {fuse : FuseConfig}
    (ran : processFuseDaemon call id reference workDir bootstrap mountpoint fuse machine = (.ok (), after)) :
    after.daemon = some (fuseDaemon call id reference workDir bootstrap mountpoint fuse) ∧
      fuseDaemon call id reference workDir bootstrap mountpoint fuse ∈ after.started := by
  obtain ⟨one, ran⟩ := createMissing_bind_ok ran
  obtain ⟨two, ran⟩ := createMissing_bind_ok ran
  simp only [attempt, controller, Action.step_bind_eq_ok, Action.step_eq_ok] at ran
  obtain ⟨_, _, _, _, _, _, rfl⟩ := ran
  exact ⟨rfl, .head _⟩

theorem registerBlob_ok {call : ServiceCall} {entry : Text} (ran : registerBlob call entry machine = (.ok (), after)) :
    after.started = machine.started := by
  rw [registerBlob] at ran
  split at ran
  · simp only [controller, Action.step_bind_eq_ok, Action.step_eq_ok] at ran
    obtain ⟨_, _, rfl⟩ := ran
    rfl
  · cases ran
    rfl

theorem context_ok {change : String → String} {action : ServiceAction Unit}
    (ran : context change action machine = (.ok (), after)) : action machine = (.ok (), after) := by
  rw [context, Action.mapError] at ran
  rcases done : action machine with ⟨fault | value, next⟩
  · rw [done] at ran
    cases ran
  · rw [done] at ran
    exact ran

theorem registered_fscache {call : ServiceCall} {id : Option Text} {reference : Reference}
    {workDir mountpoint : HostPath}
    {blobId bootstrap : Text} {fscache : FscacheConfig}
    (ran : processFscacheDaemon call id reference blobId workDir bootstrap mountpoint fscache machine =
      (.ok (), after)) :
    after.daemon = some (fscacheDaemon call id reference blobId workDir bootstrap fscache) ∧
      fscacheDaemon call id reference blobId workDir bootstrap fscache ∈ after.started ∧
      (mountpoint, erofsOptions reference.registry blobId) ∈ after.erofs := by
  obtain ⟨one, ran⟩ := createMissing_bind_ok ran
  obtain ⟨two, ran⟩ := createMissing_bind_ok ran
  rw [attempt, Action.step_bind_eq_ok] at ran
  obtain ⟨three, ran⟩ := createMissing_bind_ok ran.2
  simp only [controller, Action.step_bind_eq_ok] at ran
  obtain ⟨_, _, _, ran⟩ := ran
  rw [Action.bind_eq_ok] at ran
  obtain ⟨_, registered, blob, ran⟩ := ran
  rw [Action.step_bind_eq_ok] at ran
  obtain ⟨four, mounted⟩ := createMissing_bind_ok (context_ok ran.2)
  obtain ⟨_, rfl⟩ := Action.step_eq_ok.mp mounted
  refine ⟨rfl, ?_, .head _⟩
  show _ ∈ registered.started
  rw [registerBlob_ok blob]
  exact .head _

end Kept

section Starts

variable {call : ServiceCall} {start : Start} {machine after : Machine} {layer : LayerMeta} {task : ServiceAction Unit}

/-- The task of a driver, by its steps. -/
theorem driver_task (call : ServiceCall) (start : Start) (machine : Machine)
    (ran : driver call start layer machine = (.ok task, after)) :
    after = machine ∧ Action.Keeps Unseen task ∧
      refusal (task machine) = (driverSteps call start layer machine.host).foldr Option.or none ∧
      ∀ final, start.image.layerMetas.head? = some layer → task machine = (.ok (), final) →
        Registered call start final := by
  rw [driver] at ran
  rw [driverSteps]
  split at ran
  · rename_i isFuse
    cases given : start.config.fuseConfig with
    | none =>
      rw [given] at ran
      cases ran
    | some fuse =>
      rw [given] at ran
      cases ran
      refine ⟨rfl, keeps_processFuseDaemon _ _ _ _ _ _ _, ?_, ?_⟩
      · rw [refusal_processFuseDaemon, if_pos isFuse]
        rfl
      · intro final first done
        obtain ⟨registered, started⟩ := registered_fuse done
        exact ⟨layer, _, first, registered, started, .inl ⟨isFuse, fuse, given, rfl⟩⟩
  · rename_i notFuse
    split at ran
    · rename_i isFscache
      cases given : start.config.fscacheConfig with
      | none =>
        rw [given] at ran
        cases ran
      | some fscache =>
        rw [given] at ran
        cases ran
        refine ⟨rfl, keeps_processFscacheDaemon _ _ _ _ _ _ _ _, ?_, ?_⟩
        · rw [refusal_processFscacheDaemon, if_neg notFuse]
          rfl
        · intro final first done
          obtain ⟨registered, started, mounted⟩ := registered_fscache done
          exact ⟨layer, _, first, registered, started, .inr ⟨isFscache, fscache, given, rfl, mounted⟩⟩
    · cases ran

theorem driver_machine (call : ServiceCall) (start : Start) (layer : LayerMeta) (machine : Machine) :
    (driver call start layer machine).2 = machine := by
  rw [driver]
  split
  · cases start.config.fuseConfig <;> rfl
  · split
    · cases start.config.fscacheConfig <;> rfl
    · rfl

/-- A call that comes to no driver ends before it. -/
theorem start_without (absent : ∀ layer task, start.image.layerMetas.head? = some layer →
    driver call start layer machine ≠ (.ok task, machine)) :
    ∃ fault, startNydusService call start machine = (.error fault, machine) := by
  rw [startNydusService]
  cases first : start.image.layerMetas.head? with
  | none => exact ⟨_, rfl⟩
  | some layer =>
    have same := driver_machine call start layer machine
    rcases ran : driver call start layer machine with ⟨fault | task, next⟩
    · rw [ran] at same
      cases same
      exact ⟨fault, Action.bind_error ran⟩
    · rw [ran] at same
      cases same
      exact absurd ran (absent layer task first)

/-- What comes of the call once its driver has run. -/
theorem start_with (first : start.image.layerMetas.head? = some layer)
    (ran : driver call start layer machine = (.ok task, machine)) :
    startNydusService call start machine =
      (runTask task >>= fun _ => attempt (call.spawnThread.map .panic) >>= fun _ =>
        onHost (Bundle.createNydusBundle call.bundle call.spec start.image start.bundleDir start.snapshot)) machine := by
  rw [startNydusService, first]
  exact Action.bind_ok ran

theorem runTask_ok {final : Machine} (done : task machine = (.ok (), final)) :
    runTask task machine = (.ok (), final) := by
  rw [runTask, Action.bind_apply, spawnBlocking, done]
  rfl

/-- An error of the task is not seen. -/
theorem runTask_error {message : String} {final : Machine} (failed : task machine = (.error (.error message), final)) :
    runTask task machine = (.ok (), final) := by
  rw [runTask, Action.bind_apply, spawnBlocking, failed]
  rfl

theorem runTask_panic {message : String} {final : Machine} (failed : task machine = (.error (.panic message), final)) :
    runTask task machine = (.error (.error s!"Failed to start nydus service, {message}"), final) := by
  rw [runTask, Action.bind_apply, spawnBlocking, failed]
  rfl

/-- The bundle after the driver, on which the call ends. -/
theorem bundle_ends {final : Machine} :
    (attempt (call.spawnThread.map .panic) >>= fun _ =>
      onHost (Bundle.createNydusBundle call.bundle call.spec start.image start.bundleDir start.snapshot)) final =
    match call.spawnThread with
    | some message => (.error (.panic message), final)
    | none =>
      let made := Bundle.createNydusBundle call.bundle call.spec start.image start.bundleDir start.snapshot final.host
      (made.1.mapError .error, final.setHost made.2) := by
  cases spawned : call.spawnThread with
  | some message => rfl
  | none => rfl

theorem start_reports_iff (call : ServiceCall) (start : Start) (machine : Machine) :
    Reports call start machine (startNydusService call start machine) ↔ Stops call start machine := by
  by_cases comes : ∃ layer task, start.image.layerMetas.head? = some layer ∧
      driver call start layer machine = (.ok task, machine)
  · obtain ⟨layer, task, first, ran⟩ := comes
    obtain ⟨-, keeps, refused, registers⟩ := driver_task call start machine ran
    have unseen := keeps machine
    have fails : Fails call start machine ↔ ∃ fault, (task machine).1 = .error fault := by
      constructor
      · rintro ⟨layer', task', fault, first', ran', failed⟩
        cases first.symm.trans first'
        cases ran.symm.trans ran'
        exact ⟨fault, failed⟩
      · rintro ⟨fault, failed⟩
        exact ⟨layer, task, fault, first, ran, failed⟩
    have stops : Stops call start machine ↔ (ErrorFirst (driverSteps call start layer machine.host) →
        call.spawnThread = none ∧
          BundleStops call.bundle start.snapshot start.image start.bundleDir (task machine).2.host) := by
      constructor
      · intro stops
        exact stops layer task first ran
      · intro stops layer' task' first' ran'
        cases first.symm.trans first'
        cases ran.symm.trans ran'
        exact stops
    rw [stops, ErrorFirst, ← refused, start_with first ran]
    rcases done : task machine with ⟨(message | message) | value, final⟩
    · -- The error goes unseen, and the bundle decides.
      rw [done] at fails unseen
      have failed : Fails call start machine := fails.mpr ⟨_, rfl⟩
      rw [Action.bind_ok (runTask_error done), bundle_ends]
      cases spawned : call.spawnThread with
      | some panicked =>
        refine ⟨fun reports => ?_, fun stops => ?_⟩
        · obtain ⟨error, impossible⟩ := reports.returns failed
          cases impossible
        · cases (stops ⟨message, rfl⟩).1
      | none =>
        have same : rootfsMounts start.bundleDir final.host = rootfsMounts start.bundleDir machine.host := by
          rw [rootfsMounts, unseen.1, rootfsMounts]
        rw [← bundleStops_iff call.bundle call.spec]
        dsimp only
        rcases made : Bundle.createNydusBundle call.bundle call.spec start.image start.bundleDir start.snapshot
          final.host with
          ⟨error | imageId, host⟩
        · constructor
          · intro reports _
            exact ⟨rfl, ⟨error, rfl⟩, (reports.unmounted failed).trans same.symm⟩
          · intro stops
            have unmounted := (stops ⟨message, rfl⟩).2.2
            exact ⟨fun _ => ⟨error, rfl⟩, fun _ => unmounted.trans same,
              fun _ => congrArg MetaStore.imageDb unseen.2, nofun⟩
        · constructor
          · intro reports
            obtain ⟨_, impossible⟩ := reports.returns failed
            cases impossible
          · intro stops
            obtain ⟨_, impossible⟩ := (stops ⟨message, rfl⟩).2.1
            cases impossible
    · rw [done] at fails unseen
      rw [Action.bind_error (runTask_panic done)]
      refine ⟨fun _ impossible => ?_, fun _ =>
        ⟨fun _ => ⟨_, rfl⟩, fun _ => ?_, fun _ => by rw [unseen.2], nofun⟩⟩
      · obtain ⟨_, impossible⟩ := impossible
        cases impossible
      · rw [rootfsMounts, unseen.1, rootfsMounts]
    · rw [done] at fails
      have fine : ¬ Fails call start machine := fun failed => nomatch fails.mp failed
      have none : ¬ ∃ message,
          refusal ((.ok value, final) : Except (Fault String) Unit × Machine) = some (.error message) := nofun
      refine ⟨fun _ impossible => absurd impossible none, fun _ => ⟨fun failed => absurd failed fine,
        fun failed => absurd failed fine, fun failed => absurd failed fine, ?_⟩⟩
      rw [Action.bind_ok (runTask_ok done), bundle_ends]
      have registered := registers final first done
      cases call.spawnThread with
      | some panicked => nofun
      | none => exact fun _ => registered
  · have absent : ∀ layer task, start.image.layerMetas.head? = some layer →
        driver call start layer machine ≠ (.ok task, machine) :=
          fun layer task first ran => comes ⟨layer, task, first, ran⟩
    have fine : ¬ Fails call start machine := fun ⟨layer, task, _, first, ran, _⟩ => absent layer task first ran
    obtain ⟨fault, ended⟩ := start_without absent
    rw [ended]
    exact ⟨fun _ layer task first ran => absurd ran (absent layer task first), fun _ =>
      ⟨fun failed => absurd failed fine,
      fun failed => absurd failed fine, fun failed => absurd failed fine, nofun⟩⟩

end Starts

section Pulls

variable (call : ServiceCall) (client : NydusClient) (image : ImageMeta) (manifest : OciImageManifest)
    (bundleDir : HostPath)

/-- A pull that comes to the service tells of its failures, and one that succeeds has come to it. -/
structure PullReports (machine : Machine) : Prop where
  reached : (∃ imageId, (doPullImageWithNydus call client image manifest bundleDir machine).1 = .ok imageId) →
    ∃ start before, pullBootstrap call client image manifest bundleDir machine = (.ok start, before)
  reports : ∀ start before, pullBootstrap call client image manifest bundleDir machine = (.ok start, before) →
    Reports call start before (doPullImageWithNydus call client image manifest bundleDir machine)

/-- The rest of a pull changes nothing in what is told of its service. -/
theorem pull_reports_iff {start : Start} {machine before : Machine}
    (ran : pullBootstrap call client image manifest bundleDir machine = (.ok start, before)) :
    Reports call start before (doPullImageWithNydus call client image manifest bundleDir machine) ↔
      Reports call start before (startNydusService call start before) := by
  have pull : doPullImageWithNydus call client image manifest bundleDir machine =
      (startNydusService call start >>= fun imageId => Action.step none (Machine.insertImage start.image) >>= fun _ =>
        pure imageId) before := Action.bind_ok ran
  rw [pull]
  rcases served : startNydusService call start before with ⟨fault | imageId, after⟩
  · rw [Action.bind_error served]
  · have done : (startNydusService call start >>= fun imageId => Action.step none (Machine.insertImage start.image) >>=
        fun _ => pure imageId) before = (.ok imageId, after.insertImage start.image) := Action.bind_ok served
    rw [done]
    have told : ∀ final : Machine, Reports call start before (.ok imageId, final) →
        ¬ Fails call start before ∧ Registered call start final := by
      intro final reports
      refine ⟨fun failed => ?_, reports.registered ⟨imageId, rfl⟩⟩
      obtain ⟨_, impossible⟩ := reports.returns failed
      cases impossible
    have tells : ∀ final : Machine, ¬ Fails call start before → Registered call start final →
        Reports call start before (.ok imageId, final) := fun final fine registered =>
      ⟨fun failed => absurd failed fine,
        fun failed => absurd failed fine, fun failed => absurd failed fine, fun _ => registered⟩
    constructor
    · intro reports
      obtain ⟨fine, registered⟩ := told _ reports
      exact tells after fine registered
    · intro reports
      obtain ⟨fine, registered⟩ := told _ reports
      exact tells _ fine registered

end Pulls

/-- A failure of the steps that start the service is reported exactly where the first step that is refused ends in a
panic, or where the bundle is not made either. -/
theorem failures_reported_iff (call : ServiceCall) :
    (∀ start machine, Reports call start machine (startNydusService call start machine) ↔
      Stops call start machine) ∧
      ∀ client image manifest bundleDir machine, PullReports call client image manifest bundleDir machine ↔
        ∀ start before, pullBootstrap call client image manifest bundleDir machine = (.ok start, before) →
          Stops call start before := by
  refine ⟨start_reports_iff call, fun client image manifest bundleDir machine => ?_⟩
  constructor
  · intro reports start before ran
    rw [← start_reports_iff, ← pull_reports_iff call client image manifest bundleDir ran]
    exact reports.reports start before ran
  · intro stops
    constructor
    · rintro ⟨imageId, done⟩
      rcases ran : pullBootstrap call client image manifest bundleDir machine with ⟨fault | start, before⟩
      · rw [doPullImageWithNydus, Action.bind_error ran] at done
        cases done
      · exact ⟨start, before, rfl⟩
    · intro start before ran
      rw [pull_reports_iff call client image manifest bundleDir ran, start_reports_iff]
      exact stops start before ran

section Sample

/-- The back end of the file system is refused, and nothing else. -/
def refusedBackend : ServiceCall where
  refuseDir _ := none
  toStr path := some (pathText path)
  debug text := ['"'] ++ text ++ ['"']
  createVfsBackend := some (.error "Invalid argument")
  failOverPolicy _ := none
  createFuseDaemon := none
  readsValue _ := true
  readsEntry _ := true
  prepareConfigurationInfo _ := true
  createDaemon := none
  hasBlobCacheMgr := true
  addBlobEntry := none
  erofsMount := none
  controller _ := none
  spawnThread := none
  pullBootstrap :=
    .ok ⟨.uncompressed, false, "sha256:boot".toList, "sha256:boot".toList, "/run/image-rs/layers/0".toList⟩
  bundle := unrefused
  spec _ := []

/-- A client with the default configuration. -/
def fuseClient : NydusClient where
  client := { exampleImageClient none with nydus := true }
  nydusConfig := some ⟨"fuse".toList, none, some ⟨"flush".toList, 4, none, some []⟩, none⟩
  workDir := ["run".toList, "image-rs".toList]
  snapshotter _ := .overlay ["run".toList, "overlay".toList]

def nydusImage : ImageMeta :=
  ⟨"image".toList, [], (tagged "docker.io" "example/x" "1").text, linuxConfig ["sha256:boot".toList], false, []⟩

def bootManifest : OciImageManifest :=
  ⟨⟨[], "image".toList, 0, []⟩, [⟨[], "sha256:boot".toList, 0, [(nydusMetaLayer, "true".toList)]⟩]⟩

def bootedMachine : Machine := ⟨.booted .empty, [], [], none, false, [], false, .empty⟩

/-- The back end cannot be created, no daemon is there, and the pull succeeds. -/
theorem refused_backend_unreported :
    let outcome := doPullImageWithNydus refusedBackend fuseClient nydusImage bootManifest ["bundle".toList] bootedMachine
    outcome.1.toOption = some "image".toList ∧ outcome.2.daemon = none ∧
      (rootfsMounts ["bundle".toList] outcome.2.host).length = 1 ∧
      (outcome.2.metaStore.imageDb.lookup "image".toList).isSome = true ∧
      ¬ PullReports refusedBackend fuseClient nydusImage bootManifest ["bundle".toList] bootedMachine := by
  have done :
    (doPullImageWithNydus refusedBackend fuseClient nydusImage bootManifest ["bundle".toList] bootedMachine).1.toOption =
      some "image".toList := by decide +kernel
  have daemon :
      (doPullImageWithNydus refusedBackend fuseClient nydusImage bootManifest ["bundle".toList]
        bootedMachine).2.daemon = none := by
    decide +kernel
  refine ⟨done, daemon, by decide +kernel, by decide +kernel, fun pull => ?_⟩
  have succeeded : ∃ imageId, (doPullImageWithNydus refusedBackend fuseClient nydusImage bootManifest ["bundle".toList]
      bootedMachine).1 = .ok imageId := by
    rcases result :
      (doPullImageWithNydus refusedBackend fuseClient nydusImage bootManifest ["bundle".toList] bootedMachine).1
      with fault | imageId
    · rw [result] at done
      cases done
    · exact ⟨imageId, rfl⟩
  obtain ⟨start, before, ran⟩ := pull.reached succeeded
  obtain ⟨_, _, _, registered, _⟩ := (pull.reports start before ran).registered succeeded
  rw [daemon] at registered
  cases registered

end Sample

end GuestComponents.Image.NydusService
