import GuestComponents.Image.Client
import GuestComponents.Image.Host

/-! The bundle of an image: `create_bundle` with the two snapshotters, `create_nydus_bundle`
and `create_runtime_config`. The root file system is mounted before the configuration of the
image is looked at, and nothing unmounts it again. What a failure leaves in the bundle
directory, and mounted in it, is said by an equivalence for each of the three paths. -/
namespace GuestComponents.Image.Bundle
open Lib Lib.Text Image

/-- `BUNDLE_ROOTFS`. -/
def bundleRootfs : Text := "rootfs".toList

/-- `BUNDLE_CONFIG`. -/
def bundleConfig : Text := "config.json".toList

/-- `nydus::NYDUS_ROOTFS`. -/
def nydusRootfs : Text := "nydus_rootfs".toList

/-- What one call meets: the directories, mounts and writes that are refused, and the names
that depend on the time and on random bytes. -/
structure Call where
  refuseDir : HostPath → Option String
  /-- The index that the overlay snapshotter derives from its materials and the time. -/
  mountIndex : Text
  mount : Option String
  /-- The last name of the bundle directory, unless it ends in `..` or is the root. -/
  cid : Option Text
  randomKey : Text
  keysMount : Option String
  keyWrite : Option String
  keysUmount : Option String
  sefsMount : Option String
  clearPath : Option String
  copyLayer : Text → Option String
  environment : Option String
  sefsUmount : Option String
  configOpen : Option String
  /-- What is written of the configuration before the writing fails. -/
  configCut : Option (List UInt8 × String)

inductive Snapshotter where
  | overlay (dataDir : HostPath)
  | occlumUnionfs

variable (call : Call)

def createDirAll (path : HostPath) : HostAction Unit := Host.files (HostTree.createDirAll call.refuseDir path)

/-- `if !path.exists() { fs::create_dir_all(path)?; }`. -/
def createMissing (path : HostPath) : HostAction Unit := Host.files (HostTree.createMissing call.refuseDir path)

def upperDir (dataDir : HostPath) : HostPath := dataDir ++ [call.mountIndex, "upperdir".toList]

def workDir (dataDir : HostPath) : HostPath := dataDir ++ [call.mountIndex, "workdir".toList]

/-- `OverlayFs::mount`. -/
def overlayMount (dataDir : HostPath) (layerPath : List Text) (mountPath : HostPath) : HostAction Unit := do
  createMissing call dataDir
  createDirAll call (upperDir call dataDir)
  createDirAll call (workDir call dataDir)
  createMissing call mountPath
  Host.mount call.mount mountPath (.overlay layerPath (upperDir call dataDir) (workDir call dataDir))

/-- The layers are taken from the end of the list, which is the lowest. -/
def copyLayers : List Text → HostAction Unit
  | [] => pure ()
  | layer :: layers => do
    Action.step (call.copyLayer layer) id
    copyLayers layers

def keysPath : HostPath := ["keys".toList]

def keyMountOptions (cid : Text) : Text := "dir=/images/".toList ++ cid ++ "/keys/sefs/lower".toList

def sefsOptions (cid : Text) : Text :=
  "dir=/images/".toList ++ cid ++ "/sefs/lower,key=".toList ++ call.randomKey

/-- `Unionfs::mount`. What it copies goes to the file system that is mounted meanwhile. -/
def occlumMount (layerPath : List Text) (mountPath : HostPath) : HostAction Unit := do
  createMissing call mountPath
  match call.cid with
  | none => Action.fail "Unknown error: file name parse fail"
  | some cid =>
    Host.mount call.keysMount keysPath (.sefs (keyMountOptions cid))
    Action.step call.keyWrite id
    Host.umount call.keysUmount keysPath
    Host.mount call.sefsMount mountPath (.sefs (sefsOptions call cid))
    Action.step call.clearPath id
    copyLayers call layerPath.reverse
    Action.step call.environment id
    Host.umount call.sefsUmount mountPath

/-- `Snapshotter::mount`. -/
def snapshotMount : Snapshotter → List Text → HostPath → HostAction Unit
  | .overlay dataDir => overlayMount call dataDir
  | .occlumUnionfs => occlumMount call

/-- `create_runtime_config`, with the text of the runtime configuration. -/
def createRuntimeConfig (spec : ImageConfiguration → List UInt8) (config : ImageConfiguration)
    (bundleDir : HostPath) : HostAction Unit := do
  let exists_ ← Action.look fun host : Host => (host.tree.node (bundleDir ++ [bundleConfig])).isSome
  if exists_ then Action.fail "OCI config file already exists"
  else Host.files (HostTree.writeFile call.configOpen call.configCut (bundleDir ++ [bundleConfig]) (spec config))

/-- What `create_bundle` does once the root file system is mounted. -/
def finishBundle (spec : ImageConfiguration → List UInt8) (image : ImageMeta) (bundleDir : HostPath) :
    HostAction Text := do
  if image.imageConfig.os ≠ .linux then Action.fail "unsupport OS image"
  else
    createRuntimeConfig call spec image.imageConfig bundleDir
    pure image.id

def createBundle (spec : ImageConfiguration → List UInt8) (image : ImageMeta) (bundleDir : HostPath)
    (snapshot : Snapshotter) : HostAction Text := do
  let layerPath := image.layerMetas.reverse.map (·.storePath)
  snapshotMount call snapshot layerPath (bundleDir ++ [bundleRootfs])
  finishBundle call spec image bundleDir

def createNydusBundle (spec : ImageConfiguration → List UInt8) (image : ImageMeta) (bundleDir : HostPath)
    (snapshot : Snapshotter) : HostAction Text := do
  if image.imageConfig.os ≠ .linux then Action.fail "unsupport OS image"
  else
    snapshotMount call snapshot [pathText (bundleDir ++ [nydusRootfs])] (bundleDir ++ [bundleRootfs])
    createRuntimeConfig call spec image.imageConfig bundleDir
    pure image.id

/-- The call is one that the image client makes: it ends as it does with these answers. -/
theorem createBundle_answers (spec : ImageConfiguration → List UInt8) (image : ImageMeta) (bundleDir : HostPath)
    (snapshot : Snapshotter) (host : Host) :
    ∃ answer, (createBundle call spec image bundleDir snapshot host).1 = Image.createBundle image answer := by
  cases mounted : snapshotMount call snapshot (image.layerMetas.reverse.map (·.storePath))
      (bundleDir ++ [bundleRootfs]) host with
  | mk mount after =>
    refine ⟨⟨.ok (), mount, (createRuntimeConfig call spec image.imageConfig bundleDir after).1⟩, ?_⟩
    cases mount with
    | error error => rw [createBundle, Action.bind_error mounted]; rfl
    | ok =>
      rw [createBundle, Action.bind_ok mounted, finishBundle, Image.createBundle]
      by_cases linux : image.imageConfig.os = .linux
      · rw [if_neg (by simp [linux]), if_neg (by simp [linux]), Action.bind_apply]
        cases createRuntimeConfig call spec image.imageConfig bundleDir after with
        | mk outcome final => cases outcome <;> rfl
      · rw [if_pos linux, if_pos linux]
        rfl

/-- The bundle directory, and what is mounted at its root file system, are as they were. -/
structure SameBundle (bundleDir : HostPath) (before after : Host) : Prop where
  files : ∀ path, bundleDir <+: path → after.tree.node path = before.tree.node path
  mounts : (after.mounts.filter fun mount => mount.target = bundleDir ++ [bundleRootfs]) =
    before.mounts.filter fun mount => mount.target = bundleDir ++ [bundleRootfs]

/-- The directories that the overlay snapshotter needs, in the order in which it makes them. -/
def overlayDirs (dataDir bundleDir : HostPath) : List HostPath :=
  HostTree.prefixes (upperDir call dataDir) ++ HostTree.prefixes (workDir call dataDir) ++
    HostTree.prefixes (bundleDir ++ [bundleRootfs])

/-- All the directories can be made, and the overlay can be mounted. -/
def OverlayMounts (dataDir bundleDir : HostPath) (host : Host) : Prop :=
  (∀ path ∈ overlayDirs call dataDir bundleDir, HostTree.blocked call.refuseDir host.tree path = false) ∧
    call.mount = none

section Overlay

variable {call : Call} {dataDir bundleDir : HostPath} {layerPath : List Text} {host after : Host}

/-- What comes of the mount of an overlay: the missing directories up to the first that
cannot be made, and the mount when all can and it is not refused. -/
theorem overlayMount_ends (call : Call) (dataDir bundleDir : HostPath) (layerPath : List Text) (host : Host) :
    ∃ result after, overlayMount call dataDir layerPath (bundleDir ++ [bundleRootfs]) host = (result, after) ∧
      (result = .ok () ↔ OverlayMounts call dataDir bundleDir host) ∧
      HostTree.Adds host.tree after.tree
        (HostTree.made call.refuseDir host.tree (overlayDirs call dataDir bundleDir)) ∧
      (result = .ok () → ∃ id source,
        after.mounts = ⟨id, bundleDir ++ [bundleRootfs], source⟩ :: host.mounts) ∧
      (result ≠ .ok () → after.mounts = host.mounts) := by
  have climbs : HostTree.Climbs (fun other => other = []) (overlayDirs call dataDir bundleDir) :=
    ((HostTree.climbs_prefixes _).append (HostTree.climbs_prefixes _)).append (HostTree.climbs_prefixes _)
  obtain ⟨made, tree, ran, success, node⟩ :=
    HostTree.createDirs_node call.refuseDir climbs (HostTree.root_known host.tree)
  obtain ⟨outcome, last, same⟩ := HostTree.createMissing_last (by simp) ran
  have target : bundleDir ++ [bundleRootfs] ∈ overlayDirs call dataDir bundleDir :=
    List.mem_append_right _ (HostTree.mem_prefixes.mpr ⟨by simp, List.prefix_rfl⟩)
  have dir : made = .ok () → tree.node (bundleDir ++ [bundleRootfs]) = some .dir := by
    rintro rfl
    exact HostTree.createDirs_ok climbs (HostTree.root_known host.tree) ran _ target
  -- The data directory is above the first directory that is made in any case.
  have phase : (HostTree.createMissing call.refuseDir dataDir >>= fun _ =>
      HostTree.createDirAll call.refuseDir (upperDir call dataDir) >>= fun _ =>
        HostTree.createDirAll call.refuseDir (workDir call dataDir) >>= fun _ =>
          HostTree.createMissing call.refuseDir (bundleDir ++ [bundleRootfs])) host.tree = (outcome, tree) := by
    have above : (HostTree.createMissing call.refuseDir dataDir >>= fun _ =>
        HostTree.createDirAll call.refuseDir (dataDir ++ [call.mountIndex, "upperdir".toList]) :
          Action HostFiles String Unit) = _ := HostTree.createMissing_above dataDir _
    rw [← bind_assoc]
    show ((HostTree.createMissing call.refuseDir dataDir >>= fun _ =>
      HostTree.createDirAll call.refuseDir (dataDir ++ [call.mountIndex, "upperdir".toList])) >>= _) host.tree = _
    rw [above]
    rw [HostTree.createDirs_append, bind_assoc] at last
    exact last
  have whole : overlayMount call dataDir layerPath (bundleDir ++ [bundleRootfs]) =
      (Host.files (HostTree.createMissing call.refuseDir dataDir >>= fun _ =>
        HostTree.createDirAll call.refuseDir (upperDir call dataDir) >>= fun _ =>
          HostTree.createDirAll call.refuseDir (workDir call dataDir) >>= fun _ =>
            HostTree.createMissing call.refuseDir (bundleDir ++ [bundleRootfs])) >>= fun _ =>
        Host.mount call.mount (bundleDir ++ [bundleRootfs])
          (.overlay layerPath (upperDir call dataDir) (workDir call dataDir))) := by
    simp only [overlayMount, createMissing, createDirAll, Host.files_bind, bind_assoc]
  rw [whole]
  cases outcome with
  | error error =>
    rcases same with same | ⟨impossible, _⟩
    · refine ⟨.error error, host.setTree tree, Action.bind_error (Host.files_eq phase), ?_, node,
        nofun, fun _ => rfl⟩
      constructor
      · nofun
      · rintro ⟨free, _⟩
        rw [success.mpr free] at same
        cases same
    · cases impossible
  | ok =>
    rw [Action.bind_ok (Host.files_eq phase)]
    by_cases mounts : OverlayMounts call dataDir bundleDir host
    · have there := dir (success.mpr mounts.1)
      refine ⟨.ok (), _, Host.mount_ok (by exact there) mounts.2, ?_, node,
        fun _ => ⟨_, _, rfl⟩, fun failed => absurd rfl failed⟩
      exact ⟨fun _ => mounts, fun _ => rfl⟩
    · have stays : tree.node (bundleDir ++ [bundleRootfs]) ≠ some .dir ∨ call.mount ≠ none := by
        rcases same with same | ⟨_, content, file⟩
        · right
          intro allowed
          exact mounts ⟨success.mp same.symm, allowed⟩
        · left
          rw [file]
          nofun
      obtain ⟨error, failed⟩ : ∃ error, Host.mount call.mount (bundleDir ++ [bundleRootfs])
          (.overlay layerPath (upperDir call dataDir) (workDir call dataDir)) (host.setTree tree) =
            (.error error, host.setTree tree) := Host.mount_fails stays
      refine ⟨.error error, host.setTree tree, failed, ?_, node, nofun, fun _ => rfl⟩
      exact ⟨nofun, fun yes => absurd yes mounts⟩

theorem made_missing {paths : List HostPath} {tree : HostFiles} {refuse : HostPath → Option String} {path : HostPath}
    (made : path ∈ HostTree.made refuse tree paths) : tree.node path = none := (HostTree.mem_made.mp made).2

/-- After directories have been made, the bundle is as it was if none of them lies in it. -/
theorem sameBundle_iff (bundleDir : HostPath) {paths : List HostPath}
    (adds : HostTree.Adds host.tree after.tree (HostTree.made call.refuseDir host.tree paths))
    (mounts : (after.mounts.filter fun mount => mount.target = bundleDir ++ [bundleRootfs]) =
      host.mounts.filter fun mount => mount.target = bundleDir ++ [bundleRootfs]) :
    SameBundle bundleDir host after ↔
      ∀ path ∈ HostTree.made call.refuseDir host.tree paths, ¬ bundleDir <+: path := by
  constructor
  · intro same path made inside
    have files := same.files path inside
    rw [(adds path).1 made, made_missing made] at files
    cases files
  · intro outside
    constructor
    · intro path inside
      exact (adds path).2 fun made => outside path made inside
    · exact mounts

/-- A new mount at the root file system does not go unseen. -/
theorem not_sameBundle {base : Host} {id : Nat} {source : MountSource} {mounts : List HostMount}
    (mounted : after.mounts = ⟨id, bundleDir ++ [bundleRootfs], source⟩ :: mounts)
    (before : (mounts.filter fun mount => mount.target = bundleDir ++ [bundleRootfs]) =
      base.mounts.filter fun mount => mount.target = bundleDir ++ [bundleRootfs]) :
    ¬ SameBundle bundleDir base after := by
  intro same
  have lengths := congrArg List.length same.mounts
  rw [mounted, List.filter_cons_of_pos (by simp), before, List.length_cons] at lengths
  omega

variable (call bundleDir) in
/-- The configuration is opened to be written. -/
def Configures (image : ImageMeta) (host : Host) : Prop :=
  image.imageConfig.os = .linux ∧ host.tree.node (bundleDir ++ [bundleConfig]) = none ∧
    host.tree.node bundleDir = some .dir ∧ call.configOpen = none

variable {spec : ImageConfiguration → List UInt8} {image : ImageMeta}

theorem finishBundle_refused (spec : ImageConfiguration → List UInt8)
    (stays : ¬ Configures call bundleDir image host) :
    ∃ error, finishBundle call spec image bundleDir host = (.error error, host) := by
  rw [finishBundle]
  split
  · exact ⟨_, rfl⟩
  · rename_i linux
    apply Action.bind_fails
    rw [createRuntimeConfig, Action.bind_apply]
    show ∃ error, (if (host.tree.node (bundleDir ++ [bundleConfig])).isSome = true then _ else _ : HostAction Unit)
      host = _
    split
    · exact ⟨_, rfl⟩
    · rename_i missing
      have closed : ¬ (HostTree.Writable host.tree (bundleDir ++ [bundleConfig]) ∧ call.configOpen = none) := by
        rintro ⟨⟨_, parent⟩, opened⟩
        rw [List.dropLast_concat] at parent
        exact stays ⟨by simpa using linux, by simpa using missing, parent, opened⟩
      obtain ⟨error, failed⟩ := HostTree.writeFile_fails call.configCut (spec image.imageConfig) closed
      exact ⟨error, Host.files_eq failed⟩

/-- Once it is opened, the configuration is written, or as much of it as is. -/
theorem finishBundle_writes (spec : ImageConfiguration → List UInt8)
    (configures : Configures call bundleDir image host) :
    (call.configCut = none → ∃ after, finishBundle call spec image bundleDir host = (.ok image.id, after)) ∧
      ∀ cut, call.configCut = some cut → ∃ error after,
        finishBundle call spec image bundleDir host = (.error error, after) ∧ after.mounts = host.mounts ∧
          after.tree.node (bundleDir ++ [bundleConfig]) ≠ none := by
  obtain ⟨linux, missing, parent, opened⟩ := configures
  have writable : HostTree.Writable host.tree (bundleDir ++ [bundleConfig]) := by
    constructor
    · rw [missing]
      nofun
    · rwa [List.dropLast_concat]
  have looked : createRuntimeConfig call spec image.imageConfig bundleDir host =
      Host.files (HostTree.writeFile call.configOpen call.configCut (bundleDir ++ [bundleConfig])
        (spec image.imageConfig)) host := by
    rw [createRuntimeConfig, Action.bind_apply]
    show (if (host.tree.node (bundleDir ++ [bundleConfig])).isSome = true then _ else _ : HostAction Unit) host = _
    rw [missing]
    rfl
  rw [finishBundle, if_neg (by simpa using linux)]
  constructor
  · intro whole
    obtain ⟨tree, written, _⟩ := HostTree.writeFile_ok (spec image.imageConfig) writable
    rw [opened, whole, Host.files_eq written] at looked
    exact ⟨_, Action.bind_ok looked⟩
  · rintro ⟨part, error⟩ cut
    obtain ⟨tree, written, node⟩ := HostTree.writeFile_cut (spec image.imageConfig) part error writable
    rw [opened, cut, Host.files_eq written] at looked
    refine ⟨error, _, Action.bind_error looked, rfl, ?_⟩
    show tree.node _ ≠ none
    rw [node, if_pos rfl]
    nofun

variable (call dataDir bundleDir image host) in
/-- Once the overlay is mounted, nothing may fail; and before, nothing may have been made in
the bundle directory. -/
def OverlayClean : Prop :=
  (OverlayMounts call dataDir bundleDir host → image.imageConfig.os = .linux ∧
    host.tree.node (bundleDir ++ [bundleConfig]) = none ∧
    bundleDir ++ [bundleConfig] ∉ overlayDirs call dataDir bundleDir ∧
    call.configOpen = none ∧ call.configCut = none) ∧
  (¬ OverlayMounts call dataDir bundleDir host →
    ∀ path ∈ HostTree.made call.refuseDir host.tree (overlayDirs call dataDir bundleDir), ¬ bundleDir <+: path)

/-- What an overlay leaves of the configuration's place and of the bundle directory. -/
theorem mounted_tree (mounts : OverlayMounts call dataDir bundleDir host)
    (adds : HostTree.Adds host.tree after.tree
      (HostTree.made call.refuseDir host.tree (overlayDirs call dataDir bundleDir))) :
    after.tree.node bundleDir = some .dir ∧ (after.tree.node (bundleDir ++ [bundleConfig]) = none ↔
      host.tree.node (bundleDir ++ [bundleConfig]) = none ∧
        bundleDir ++ [bundleConfig] ∉ overlayDirs call dataDir bundleDir) := by
  have all : (overlayDirs call dataDir bundleDir).takeWhile
      (fun path => !HostTree.blocked call.refuseDir host.tree path) = overlayDirs call dataDir bundleDir :=
    List.takeWhile_eq_self_iff.mpr fun path listed => by simp [mounts.1 path listed]
  have mem : ∀ path, path ∈ HostTree.made call.refuseDir host.tree (overlayDirs call dataDir bundleDir) ↔
      path ∈ overlayDirs call dataDir bundleDir ∧ host.tree.node path = none := by
    intro path
    rw [HostTree.mem_made, all]
  constructor
  · by_cases root : bundleDir = []
    · rw [root]
      exact after.tree.root
    · have listed : bundleDir ∈ overlayDirs call dataDir bundleDir :=
        List.mem_append_right _ (HostTree.mem_prefixes.mpr ⟨root, List.prefix_append _ _⟩)
      by_cases made : bundleDir ∈ HostTree.made call.refuseDir host.tree (overlayDirs call dataDir bundleDir)
      · exact (adds _).1 made
      · rw [(adds _).2 made]
        have free := mounts.1 _ listed
        cases here : host.tree.node bundleDir with
        | none => exact absurd ((mem _).mpr ⟨listed, here⟩) made
        | some node =>
          cases node with
          | dir => rfl
          | file content => simp [HostTree.blocked, here] at free
  · by_cases made : bundleDir ++ [bundleConfig] ∈
        HostTree.made call.refuseDir host.tree (overlayDirs call dataDir bundleDir)
    · rw [(adds _).1 made]
      constructor
      · exact fun missing => absurd missing (Option.some_ne_none HostNode.dir)
      · rintro ⟨_, outside⟩
        exact absurd ((mem _).mp made).1 outside
    · rw [(adds _).2 made]
      constructor
      · intro missing
        exact ⟨missing, fun listed => made ((mem _).mpr ⟨listed, missing⟩)⟩
      · exact fun both => both.1

/-- The exact condition for any call that mounts the overlay and then writes the configuration. -/
theorem overlay_clean (layerPath : List Text) :
    Action.Clean (SameBundle bundleDir) host
        (overlayMount call dataDir layerPath (bundleDir ++ [bundleRootfs]) >>= fun _ =>
          finishBundle call spec image bundleDir) host ↔
      OverlayClean call dataDir bundleDir host image := by
  obtain ⟨result, after, ran, success, adds, mounted, unmounted⟩ :=
    overlayMount_ends call dataDir bundleDir layerPath host
  by_cases mounts : OverlayMounts call dataDir bundleDir host
  · obtain rfl := success.mpr mounts
    obtain ⟨id, source, mountsAfter⟩ := mounted rfl
    obtain ⟨bundle, config⟩ := mounted_tree mounts adds
    have seen : ∀ final : Host, final.mounts = after.mounts → ¬ SameBundle bundleDir host final := by
      intro final kept
      exact not_sameBundle (kept.trans mountsAfter) rfl
    constructor
    · intro clean
      refine ⟨fun _ => ?_, fun stays => absurd mounts stays⟩
      have configures : Configures call bundleDir image after := by
        by_contra stays
        obtain ⟨error, failed⟩ := finishBundle_refused spec stays
        exact seen after rfl (clean error after ((Action.bind_ok ran).trans failed))
      obtain ⟨linux, missing, _, opened⟩ := configures
      obtain ⟨missing', outside⟩ := config.mp missing
      refine ⟨linux, missing', outside, opened, ?_⟩
      cases cut : call.configCut with
      | none => rfl
      | some partly =>
        obtain ⟨error, final, failed, kept, _⟩ :=
          (finishBundle_writes spec ⟨linux, missing, bundle, opened⟩).2 partly cut
        exact absurd (clean error final ((Action.bind_ok ran).trans failed)) (seen final kept)
    · rintro ⟨fine, _⟩ error final failed
      obtain ⟨linux, missing, outside, opened, whole⟩ := fine mounts
      obtain ⟨done, written⟩ := (finishBundle_writes spec
        ⟨linux, config.mpr ⟨missing, outside⟩, bundle, opened⟩).1 whole
      rw [(Action.bind_ok ran).trans written] at failed
      cases failed
  · have failed : result ≠ .ok () := fun ok => mounts (success.mp ok)
    have same := sameBundle_iff bundleDir adds (by rw [unmounted failed])
    cases result with
    | ok => exact absurd rfl failed
    | error error =>
      constructor
      · intro clean
        refine ⟨fun yes => absurd yes mounts, fun _ => ?_⟩
        exact same.mp (clean error after (Action.bind_error ran))
      · rintro ⟨_, outside⟩ error' final failed'
        rw [Action.bind_error ran] at failed'
        cases failed'
        exact same.mpr (outside mounts)

end Overlay

/-- The directories can be made, and the file system is mounted once the key has been stored. -/
def OcclumMounts (bundleDir : HostPath) (host : Host) : Prop :=
  (∀ path ∈ HostTree.prefixes (bundleDir ++ [bundleRootfs]),
    HostTree.blocked call.refuseDir host.tree path = false) ∧
  (host.tree.node keysPath = some .dir ∨ keysPath ∈ HostTree.prefixes (bundleDir ++ [bundleRootfs])) ∧
  call.cid ≠ none ∧ call.keysMount = none ∧ call.keyWrite = none ∧ call.keysUmount = none ∧
  call.sefsMount = none

/-- The file system is filled and unmounted again. -/
def OcclumFills (layerPath : List Text) : Prop :=
  call.clearPath = none ∧ (∀ layer ∈ layerPath, call.copyLayer layer = none) ∧ call.environment = none ∧
    call.sefsUmount = none

/-- Where the file system is mounted, it is filled and unmounted; and nothing may have been
made in the bundle directory where anything else fails, nor the configuration be cut off. -/
def OcclumClean (bundleDir : HostPath) (image : ImageMeta) (host : Host) : Prop :=
  (¬ OcclumMounts call bundleDir host →
    ∀ path ∈ HostTree.made call.refuseDir host.tree (HostTree.prefixes (bundleDir ++ [bundleRootfs])),
      ¬ bundleDir <+: path) ∧
  (OcclumMounts call bundleDir host → OcclumFills call (image.layerMetas.map (·.storePath)) ∧
    (if image.imageConfig.os = .linux ∧ host.tree.node (bundleDir ++ [bundleConfig]) = none ∧ call.configOpen = none
      then call.configCut = none
      else ∀ path ∈ HostTree.made call.refuseDir host.tree (HostTree.prefixes (bundleDir ++ [bundleRootfs])),
        ¬ bundleDir <+: path))

section Occlum

variable {call : Call} {bundleDir : HostPath} {layers : List Text} {host after : Host}

/-- The configuration is not among the directories of the root file system. -/
theorem config_outside (bundleDir : HostPath) :
    bundleDir ++ [bundleConfig] ∉ HostTree.prefixes (bundleDir ++ [bundleRootfs]) := by
  intro listed
  have above := (HostTree.mem_prefixes.mp listed).2
  have names := above.eq_of_length (by simp)
  rw [List.append_cancel_left_eq] at names
  revert names
  decide

/-- The unmount of what has just been mounted. -/
theorem umount_addMount (refused : Option String) (target : HostPath) (source : MountSource) (host : Host) :
    (refused = none → Host.umount refused target (host.addMount target source) =
        (.ok (), (host.addMount target source).unmounted target)) ∧
      (refused ≠ none → ∃ error, Host.umount refused target (host.addMount target source) =
        (.error error, host.addMount target source)) := by
  constructor
  · exact Host.umount_ok (Host.mountedAt_addMount target source host)
  · exact fun refuses => Host.umount_fails (.inr refuses)

theorem copyLayers_ends (call : Call) (layers : List Text) (host : Host) :
    ((∀ layer ∈ layers, call.copyLayer layer = none) → copyLayers call layers host = (.ok (), host)) ∧
      (¬ (∀ layer ∈ layers, call.copyLayer layer = none) →
        ∃ error, copyLayers call layers host = (.error error, host)) := by
  induction layers with
  | nil => exact ⟨fun _ => rfl, fun absent => absurd (by simp) absent⟩
  | cons layer layers ih =>
    rw [List.forall_mem_cons, copyLayers]
    cases copied : call.copyLayer layer with
    | none =>
      rw [Action.bind_ok (Action.step_eq_ok.mpr ⟨rfl, rfl⟩)]
      exact ⟨fun all => ih.1 all.2, fun absent => ih.2 fun all => absent ⟨rfl, all⟩⟩
    | some error =>
      refine ⟨fun all => absurd all.1 nofun, fun _ => Action.bind_fails _ ⟨error, rfl⟩⟩

/-- Storing the key leaves nothing mounted at the root file system, and no mount at all
where it succeeds. -/
theorem keys_ends (call : Call) (bundleDir : HostPath) (options : Text) (host : Host) :
    ∃ result after, (Host.mount call.keysMount keysPath (.sefs options) >>= fun _ =>
        Action.step call.keyWrite id >>= fun _ => Host.umount call.keysUmount keysPath) host = (result, after) ∧
      (result = .ok () ↔ host.tree.node keysPath = some .dir ∧ call.keysMount = none ∧ call.keyWrite = none ∧
        call.keysUmount = none) ∧
      (result = .ok () → after.mounts = host.mounts) ∧ after.tree = host.tree ∧
      (after.mounts.filter fun mount => mount.target = bundleDir ++ [bundleRootfs]) =
        host.mounts.filter fun mount => mount.target = bundleDir ++ [bundleRootfs] := by
  have other : keysPath ≠ bundleDir ++ [bundleRootfs] := by
    intro same
    have lasts := congrArg List.getLast? same
    rw [List.getLast?_concat] at lasts
    revert lasts
    decide
  have kept : ((host.addMount keysPath (.sefs options)).mounts.filter fun mount =>
      mount.target = bundleDir ++ [bundleRootfs]) =
        host.mounts.filter fun mount => mount.target = bundleDir ++ [bundleRootfs] :=
    List.filter_cons_of_neg (by simpa using other)
  by_cases mounts : host.tree.node keysPath = some .dir ∧ call.keysMount = none
  · have mounted : Host.mount call.keysMount keysPath (.sefs options) host =
        (.ok (), host.addMount keysPath (.sefs options)) := Host.mount_ok mounts.1 mounts.2
    rw [Action.bind_ok mounted]
    cases written : call.keyWrite with
    | some error => exact ⟨_, _, rfl, by simp, nofun, rfl, kept⟩
    | none =>
      rw [Action.bind_ok (Action.step_eq_ok.mpr ⟨rfl, rfl⟩)]
      obtain ⟨ends, stays⟩ := umount_addMount call.keysUmount keysPath (.sefs options) host
      have back := Host.unmounted_addMount keysPath (.sefs options) host
      by_cases allowed : call.keysUmount = none
      · exact ⟨_, _, ends allowed, by simp [mounts, allowed], fun _ => back, rfl, by rw [back]⟩
      · obtain ⟨error, failed⟩ := stays allowed
        exact ⟨_, _, failed, by simp [allowed], nofun, rfl, kept⟩
  · have stays : host.tree.node keysPath ≠ some .dir ∨ call.keysMount ≠ none := by
      by_contra neither
      rw [not_or, not_not, not_not] at neither
      exact mounts neither
    obtain ⟨error, failed⟩ : ∃ error,
      Host.mount call.keysMount keysPath (.sefs options) host = (.error error, host) :=
      Host.mount_fails stays
    refine ⟨_, _, Action.bind_error failed, ?_, nofun, rfl, rfl⟩
    constructor
    · nofun
    · rintro ⟨dir, allowed, _⟩
      exact absurd ⟨dir, allowed⟩ mounts

/-- Filling the file system leaves it mounted, unless it succeeds. -/
theorem fill_ends (call : Call) (layerPath : List Text) (target : HostPath) (source : MountSource) (host : Host) :
    (OcclumFills call layerPath → (Action.step call.clearPath id >>= fun _ =>
        copyLayers call layerPath.reverse >>= fun _ => Action.step call.environment id >>= fun _ =>
          Host.umount call.sefsUmount target) (host.addMount target source) =
            (.ok (), (host.addMount target source).unmounted target)) ∧
      (¬ OcclumFills call layerPath → ∃ error, (Action.step call.clearPath id >>= fun _ =>
        copyLayers call layerPath.reverse >>= fun _ => Action.step call.environment id >>= fun _ =>
          Host.umount call.sefsUmount target) (host.addMount target source) =
            (.error error, host.addMount target source)) := by
  obtain ⟨copies, stops⟩ := copyLayers_ends call layerPath.reverse (host.addMount target source)
  obtain ⟨ends, stays⟩ := umount_addMount call.sefsUmount target source host
  simp only [List.mem_reverse] at copies stops
  cases cleared : call.clearPath with
  | some error =>
    refine ⟨fun fills => absurd fills.1 (by simp [cleared]), fun _ => Action.bind_fails _ ⟨error, rfl⟩⟩
  | none =>
    rw [Action.bind_ok (Action.step_eq_ok.mpr ⟨rfl, rfl⟩)]
    by_cases copied : ∀ layer ∈ layerPath, call.copyLayer layer = none
    · rw [id_eq, Action.bind_ok (copies copied)]
      cases environment : call.environment with
      | some error =>
        refine ⟨fun fills => absurd fills.2.2.1 (by simp [environment]), fun _ =>
          Action.bind_fails _ ⟨error, rfl⟩⟩
      | none =>
        rw [Action.bind_ok (Action.step_eq_ok.mpr ⟨rfl, rfl⟩)]
        refine ⟨fun fills => ends fills.2.2.2, fun absent => stays fun allowed => absent ?_⟩
        exact ⟨cleared, copied, environment, allowed⟩
    · refine ⟨fun fills => absurd fills.2.1 copied, fun _ => Action.bind_fails _ (stops copied)⟩

/-- What comes of the mount of an Occlum file system. -/
theorem occlumMount_ends (call : Call) (bundleDir : HostPath) (layerPath : List Text) (host : Host) :
    ∃ result after, occlumMount call layerPath (bundleDir ++ [bundleRootfs]) host = (result, after) ∧
      HostTree.Adds host.tree after.tree
        (HostTree.made call.refuseDir host.tree (HostTree.prefixes (bundleDir ++ [bundleRootfs]))) ∧
      (¬ OcclumMounts call bundleDir host → result ≠ .ok () ∧
        (after.mounts.filter fun mount => mount.target = bundleDir ++ [bundleRootfs]) =
          host.mounts.filter fun mount => mount.target = bundleDir ++ [bundleRootfs]) ∧
      (OcclumMounts call bundleDir host → ¬ OcclumFills call layerPath → result ≠ .ok () ∧
        ∃ id source, after.mounts = ⟨id, bundleDir ++ [bundleRootfs], source⟩ :: host.mounts) ∧
      (OcclumMounts call bundleDir host → OcclumFills call layerPath → result = .ok () ∧
        after.mounts = host.mounts ∧ ∀ path ∈ HostTree.prefixes (bundleDir ++ [bundleRootfs]),
          after.tree.node path = some .dir) := by
  have climbs := HostTree.climbs_prefixes (bundleDir ++ [bundleRootfs])
  obtain ⟨made, tree, ran, success, node⟩ :=
    HostTree.createDirs_node call.refuseDir climbs (HostTree.root_known host.tree)
  obtain ⟨outcome, first, same⟩ := @HostTree.createMissing_last _ _ _ _ _ _ _ _ [] _ (by simp) ran
  have dirs : made = .ok () → ∀ path ∈ HostTree.prefixes (bundleDir ++ [bundleRootfs]),
      tree.node path = some .dir := by
    rintro rfl
    exact HostTree.createDirs_ok climbs (HostTree.root_known host.tree) ran
  have missing : createMissing call (bundleDir ++ [bundleRootfs]) host = (outcome, host.setTree tree) :=
    Host.files_eq first
  have keysDir : OcclumMounts call bundleDir host → tree.node keysPath = some .dir := by
    rintro ⟨free, here | listed, _⟩
    · by_cases again : keysPath ∈
          HostTree.made call.refuseDir host.tree (HostTree.prefixes (bundleDir ++ [bundleRootfs]))
      · exact (node keysPath).1 again
      · rw [(node keysPath).2 again, here]
    · exact dirs (success.mpr free) _ listed
  cases outcome with
  | error error =>
    have stays : ¬ OcclumMounts call bundleDir host := by
      intro mounts
      rcases same with same | ⟨impossible, _⟩
      · rw [success.mpr mounts.1] at same
        cases same
      · cases impossible
    exact ⟨_, _, Action.bind_error missing, node, fun _ => ⟨nofun, rfl⟩, fun mounts => absurd mounts stays,
      fun mounts => absurd mounts stays⟩
  | ok =>
    rw [occlumMount, Action.bind_ok missing]
    cases named : call.cid with
    | none =>
      have stays : ¬ OcclumMounts call bundleDir host := fun mounts => mounts.2.2.1 named
      exact ⟨_, _, rfl, node, fun _ => ⟨nofun, rfl⟩, fun mounts => absurd mounts stays,
        fun mounts => absurd mounts stays⟩
    | some cid =>
      obtain ⟨stored, afterKeys, keys, keysOk, unchanged, sameTree, sameMounts⟩ :=
        keys_ends call bundleDir (keyMountOptions cid) (host.setTree tree)
      have shape : (Host.mount call.keysMount keysPath (.sefs (keyMountOptions cid)) >>= fun _ =>
          Action.step call.keyWrite id >>= fun _ => Host.umount call.keysUmount keysPath >>= fun _ =>
          Host.mount call.sefsMount (bundleDir ++ [bundleRootfs]) (.sefs (sefsOptions call cid)) >>= fun _ =>
          Action.step call.clearPath id >>= fun _ => copyLayers call layerPath.reverse >>= fun _ =>
          Action.step call.environment id >>= fun _ => Host.umount call.sefsUmount (bundleDir ++ [bundleRootfs])) =
        ((Host.mount call.keysMount keysPath (.sefs (keyMountOptions cid)) >>= fun _ =>
          Action.step call.keyWrite id >>= fun _ => Host.umount call.keysUmount keysPath) >>= fun _ =>
          Host.mount call.sefsMount (bundleDir ++ [bundleRootfs]) (.sefs (sefsOptions call cid)) >>= fun _ =>
          Action.step call.clearPath id >>= fun _ => copyLayers call layerPath.reverse >>= fun _ =>
          Action.step call.environment id >>= fun _ =>
          Host.umount call.sefsUmount (bundleDir ++ [bundleRootfs])) := by
        simp only [bind_assoc]
      simp only [shape]
      cases stored with
      | error error =>
        have stays : ¬ OcclumMounts call bundleDir host := by
          intro mounts
          have stored := keysOk.mpr ⟨keysDir mounts, mounts.2.2.2.1, mounts.2.2.2.2.1, mounts.2.2.2.2.2.1⟩
          cases stored
        refine ⟨_, _, Action.bind_error keys, ?_, fun _ => ⟨nofun, sameMounts⟩, fun mounts => absurd mounts stays,
          fun mounts => absurd mounts stays⟩
        rw [sameTree]
        exact node
      | ok =>
        have mountsKeys := unchanged rfl
        rw [Action.bind_ok keys]
        have treeKeys : afterKeys.tree = tree := sameTree
        by_cases mounts : OcclumMounts call bundleDir host
        · have there := dirs (success.mpr mounts.1)
          have target := there _ (HostTree.mem_prefixes.mpr ⟨by simp, List.prefix_rfl⟩)
          rw [← treeKeys] at target node there
          have mounted : Host.mount call.sefsMount (bundleDir ++ [bundleRootfs]) (.sefs (sefsOptions call cid))
              afterKeys = (.ok (), afterKeys.addMount (bundleDir ++ [bundleRootfs]) (.sefs (sefsOptions call cid))) :=
            Host.mount_ok target mounts.2.2.2.2.2.2
          obtain ⟨fills, stops⟩ := fill_ends call layerPath (bundleDir ++ [bundleRootfs])
            (.sefs (sefsOptions call cid)) afterKeys
          rw [Action.bind_ok mounted]
          by_cases filled : OcclumFills call layerPath
          · refine ⟨_, _, fills filled, node, fun stays => absurd mounts stays, fun _ stays => absurd filled stays,
              fun _ _ => ⟨rfl, ?_, there⟩⟩
            exact (Host.unmounted_addMount _ _ afterKeys).trans mountsKeys
          · obtain ⟨error, failed⟩ := stops filled
            refine ⟨_, _, failed, node, fun stays => absurd mounts stays,
              fun _ _ => ⟨nofun, afterKeys.serial, .sefs (sefsOptions call cid), ?_⟩, fun _ fills =>
                absurd fills filled⟩
            show _ :: afterKeys.mounts = _
            rw [mountsKeys]
            rfl
        · have stays : afterKeys.tree.node (bundleDir ++ [bundleRootfs]) ≠ some .dir ∨ call.sefsMount ≠ none := by
            obtain ⟨keysThere, keysMount, keyWrite, keysUmount⟩ := keysOk.mp rfl
            by_contra neither
            rw [not_or, not_not, not_not] at neither
            obtain ⟨target, allowed⟩ := neither
            rw [treeKeys] at target
            have all : made = .ok () := by
              rcases same with same | ⟨_, content, file⟩
              · exact same.symm
              · rw [file] at target
                cases target
            refine mounts ⟨success.mp all, ?_, by simp [named], keysMount, keyWrite, keysUmount, allowed⟩
            by_cases listed : keysPath ∈ HostTree.prefixes (bundleDir ++ [bundleRootfs])
            · exact .inr listed
            · left
              rw [← keysThere]
              refine ((node keysPath).2 fun made => listed ?_).symm
              exact (List.takeWhile_sublist _).subset (HostTree.mem_made.mp made).1
          obtain ⟨error, failed⟩ : ∃ error, Host.mount call.sefsMount (bundleDir ++ [bundleRootfs])
              (.sefs (sefsOptions call cid)) afterKeys = (.error error, afterKeys) := Host.mount_fails stays
          rw [← treeKeys] at node
          exact ⟨_, _, Action.bind_error failed, node, fun _ => ⟨nofun, sameMounts⟩, fun yes => absurd yes mounts,
            fun yes => absurd yes mounts⟩

variable {spec : ImageConfiguration → List UInt8} {image : ImageMeta}

/-- The exact condition for the Occlum snapshotter. -/
theorem occlum_clean :
    Action.Clean (SameBundle bundleDir) host (createBundle call spec image bundleDir .occlumUnionfs) host ↔
      OcclumClean call bundleDir image host := by
  obtain ⟨result, after, ran, adds, unmounted, stopped, filled⟩ :=
    occlumMount_ends call bundleDir (image.layerMetas.reverse.map (·.storePath)) host
  have reversed : OcclumFills call (image.layerMetas.reverse.map (·.storePath)) ↔
      OcclumFills call (image.layerMetas.map (·.storePath)) := by
    simp only [OcclumFills, List.map_reverse, List.mem_reverse]
  rw [reversed] at stopped filled
  show Action.Clean _ host (occlumMount call (image.layerMetas.reverse.map (·.storePath))
    (bundleDir ++ [bundleRootfs]) >>= fun _ => finishBundle call spec image bundleDir) host ↔ _
  have fails : ∀ error, result = .error error →
      (Action.Clean (SameBundle bundleDir) host (occlumMount call (image.layerMetas.reverse.map (·.storePath))
        (bundleDir ++ [bundleRootfs]) >>= fun _ => finishBundle call spec image bundleDir) host ↔
          SameBundle bundleDir host after) := by
    rintro error rfl
    constructor
    · intro clean
      exact clean error after (Action.bind_error ran)
    · intro same error' final failed
      rw [Action.bind_error ran] at failed
      cases failed
      exact same
  by_cases mounts : OcclumMounts call bundleDir host
  · by_cases fills : OcclumFills call (image.layerMetas.map (·.storePath))
    · obtain ⟨rfl, sameMounts, there⟩ := filled mounts fills
      have same := sameBundle_iff bundleDir adds (by rw [sameMounts])
      have untouched : after.tree.node (bundleDir ++ [bundleConfig]) = host.tree.node (bundleDir ++ [bundleConfig]) := by
        exact (adds _).2 fun made =>
          config_outside bundleDir ((List.takeWhile_sublist _).subset (HostTree.mem_made.mp made).1)
      have bundle : after.tree.node bundleDir = some .dir := by
        by_cases root : bundleDir = []
        · rw [root]
          exact after.tree.root
        · exact there _ (HostTree.mem_prefixes.mpr ⟨root, List.prefix_append _ _⟩)
      have finish : Action.Clean (SameBundle bundleDir) host
          (occlumMount call (image.layerMetas.reverse.map (·.storePath)) (bundleDir ++ [bundleRootfs]) >>= fun _ =>
            finishBundle call spec image bundleDir) host ↔
          ∀ error final, finishBundle call spec image bundleDir after = (.error error, final) →
            SameBundle bundleDir host final := by
        rw [Action.Clean, Action.bind_ok ran]
      rw [finish, OcclumClean]
      split
      · rename_i opens
        obtain ⟨linux, missing, opened⟩ := opens
        obtain ⟨whole, partly⟩ := finishBundle_writes spec ⟨linux, untouched.trans missing, bundle, opened⟩
        cases cut : call.configCut with
        | none =>
          obtain ⟨final, written⟩ := whole cut
          refine ⟨fun _ => ⟨fun stays => absurd mounts stays, fun _ => ⟨fills, rfl⟩⟩,
            fun _ error final' failed => ?_⟩
          rw [written] at failed
          cases failed
        | some cut' =>
          obtain ⟨error, final, failed, _, left⟩ := partly cut' cut
          constructor
          · intro clean
            have files := (clean error final failed).files (bundleDir ++ [bundleConfig]) (List.prefix_append _ _)
            rw [missing] at files
            exact absurd files left
          · rintro ⟨_, clean⟩
            cases (clean mounts).2
      · rename_i closed
        have refused : ¬ Configures call bundleDir image after := by
          rintro ⟨linux, missing, _, opened⟩
          exact closed ⟨linux, untouched.symm.trans missing, opened⟩
        obtain ⟨error, failed⟩ := finishBundle_refused spec refused
        constructor
        · intro clean
          refine ⟨fun stays => absurd mounts stays, fun _ => ⟨fills, ?_⟩⟩
          exact same.mp (clean error after failed)
        · rintro ⟨_, clean⟩ error' final failed'
          rw [failed] at failed'
          cases failed'
          exact same.mpr (clean mounts).2
    · obtain ⟨notOk, id, source, mountsAfter⟩ := stopped mounts fills
      cases result with
      | ok => exact absurd rfl notOk
      | error error =>
        rw [fails error rfl]
        constructor
        · intro same
          exact absurd same (not_sameBundle mountsAfter rfl)
        · rintro ⟨_, clean⟩
          exact absurd (clean mounts).1 fills
  · obtain ⟨notOk, sameMounts⟩ := unmounted mounts
    cases result with
    | ok => exact absurd rfl notOk
    | error error =>
      rw [fails error rfl, sameBundle_iff bundleDir adds sameMounts]
      exact ⟨fun outside => ⟨fun _ => outside, fun yes => absurd yes mounts⟩, fun clean => clean.1 mounts⟩

end Occlum

section Sample

/-- A host on which nothing is refused. -/
def unrefused : Call where
  refuseDir _ := none
  mountIndex := "0".toList
  mount := none
  cid := some "bundle".toList
  randomKey := []
  keysMount := none
  keyWrite := none
  keysUmount := none
  sefsMount := none
  clearPath := none
  copyLayer _ := none
  environment := none
  sefsUmount := none
  configOpen := none
  configCut := none

/-- An image for another operating system. -/
def windowsImage : ImageMeta :=
  ⟨"image".toList, [], [], { linuxConfig [] with os := .other "windows".toList }, false, []⟩

/-- An image that is refused for its operating system stays mounted. -/
theorem refused_image_mounted :
    ¬ Action.Clean (SameBundle ["bundle".toList]) (.booted .empty)
      (createBundle unrefused (fun _ => []) windowsImage ["bundle".toList] (.overlay ["run".toList]))
        (.booted .empty) := by
  intro clean
  have mounts : OverlayMounts unrefused ["run".toList] ["bundle".toList] (.booted .empty) := by
    constructor
    · decide +kernel
    · rfl
  obtain ⟨linux, _⟩ := ((overlay_clean _).mp clean).1 mounts
  cases linux

end Sample

/-- A failed call leaves the bundle directory and its mounts as they were exactly under the
condition of its snapshotter: with an overlay nothing may fail after the mount, and before
it nothing may have been made in the bundle directory. The path for nydus images checks the
operating system first. -/
theorem create_bundle_clean_iff (call : Call) (spec : ImageConfiguration → List UInt8) (image : ImageMeta)
    (bundleDir : HostPath) (host : Host) :
    (∀ dataDir, Action.Clean (SameBundle bundleDir) host
        (createBundle call spec image bundleDir (.overlay dataDir)) host ↔
      OverlayClean call dataDir bundleDir host image) ∧
    (Action.Clean (SameBundle bundleDir) host (createBundle call spec image bundleDir .occlumUnionfs) host ↔
      OcclumClean call bundleDir image host) ∧
    ∀ dataDir, Action.Clean (SameBundle bundleDir) host
        (createNydusBundle call spec image bundleDir (.overlay dataDir)) host ↔
      (image.imageConfig.os = .linux → OverlayClean call dataDir bundleDir host image) := by
  refine ⟨fun dataDir => overlay_clean _, occlum_clean, fun dataDir => ?_⟩
  by_cases linux : image.imageConfig.os = .linux
  · have finish : finishBundle call spec image bundleDir =
        (createRuntimeConfig call spec image.imageConfig bundleDir >>= fun _ => pure image.id) := by
      rw [finishBundle, if_neg (by simp [linux])]
    have path := @overlay_clean call dataDir bundleDir host spec image [pathText (bundleDir ++ [nydusRootfs])]
    rw [finish] at path
    rw [createNydusBundle, if_neg (by simp [linux])]
    exact path.trans ⟨fun clean _ => clean, fun clean => clean linux⟩
  · rw [createNydusBundle, if_pos linux, Action.clean_fail]
    refine ⟨fun _ yes => absurd yes linux, fun _ => ⟨fun _ _ => rfl, rfl⟩⟩

end GuestComponents.Image.Bundle
