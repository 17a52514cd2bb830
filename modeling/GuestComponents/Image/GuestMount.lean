import GuestComponents.Image.Host
import GuestComponents.SharedRootfs.Host

/-! `guest_mount_shared_rootfs` and `mount_shared_rootfs_image`: the root file system that
the image CVM shares is mounted from a block device, under an overlay in the bundle
directory. The call writes the configuration before it checks what it was given, and undoes
nothing. What a failure leaves behind is said by an equivalence for each of the two. -/
namespace GuestComponents.Image.GuestMount
open Lib Lib.Text SharedRootfs Image

/-- `MountSharedRootfsOptions`. -/
structure MountSharedRootfsOptions where
  imagePath : Text
  workDir : HostPath
  fsType : Option Text
  directBlockDevice : Bool

/-- `MountedSharedRootfs`. -/
structure MountedSharedRootfs where
  loopDevice : Text
  lowerDir : HostPath
  upperDir : HostPath
  overlayWorkDir : HostPath
  rootfsDir : HostPath

/-- What one call meets: the response it is given, the refusals of the kernel and of the
commands, and what they print. -/
structure Call where
  /-- The response of the image CVM, by the fast path or by the other. -/
  prepared : Except String PrepareRootfsResponse
  refuseDir : HostPath → Option String
  configOpen : Option String
  configCut : Option (List UInt8 × String)
  destroyDevice : Option String
  createDevice : Option String
  /-- The first 4096 bytes of the block device. -/
  firstBytes : Except String (Fin 4096 → UInt8)
  imageExists : Bool
  /-- Whether the command `mountpoint` can tell what is mounted at a path. -/
  seesMount : HostPath → Bool
  umount : HostPath → Option String
  readState : Option String
  detach : Bool
  removeState : Bool
  losetup : Except String Text
  stateOpen : Option String
  stateCut : Option (List UInt8 × String)
  mountLower : Option String
  mountOverlay : Option String

variable (call : Call)

def lowerDir (workDir : HostPath) : HostPath := workDir ++ ["lower".toList]
def upperDir (workDir : HostPath) : HostPath := workDir ++ ["upper".toList]
def overlayWorkDir (workDir : HostPath) : HostPath := workDir ++ ["work".toList]
def rootfsDir (workDir : HostPath) : HostPath := workDir ++ ["rootfs".toList]
def stateDir (workDir : HostPath) : HostPath := workDir ++ ["state".toList]
def loopdevFile (workDir : HostPath) : HostPath := workDir ++ ["state".toList, "loopdev".toList]

def createDirAll (path : HostPath) : HostAction Unit := Host.files (HostTree.createDirAll call.refuseDir path)

/-- `is_mountpoint`: the path exists, and the command finds something mounted there. -/
def isMountpoint (path : HostPath) (host : Host) : Bool :=
  (host.tree.node path).isSome && host.mountedAt path && call.seesMount path

/-- `if is_mountpoint(path) { run_command("umount", path)?; }`. -/
def umountIfMounted (path : HostPath) : HostAction Unit :=
  fun host => if isMountpoint call path host then Host.umount (call.umount path) path host else (.ok (), host)

/-- What `cleanup_shared_rootfs_mount` does with the name of a loop device, and then with the
file that holds it. Neither may fail. -/
def forgetLoopdev (workDir : HostPath) (loopdev : Text) (host : Host) : Host :=
  let host := if loopdev ≠ [] ∧ call.detach then host.detach loopdev else host
  host.setTree (HostTree.removeFile call.removeState (loopdevFile workDir) host.tree)

/-- `str::trim`. -/
def trim (text : Text) : Text := trimEnd (text.dropWhile isWhitespace)

/-- The end of `cleanup_shared_rootfs_mount`. -/
def cleanupLoopdev (workDir : HostPath) : HostAction Unit :=
  fun host =>
    match host.tree.node (loopdevFile workDir) with
    | some (.file content) =>
      match call.readState, fromUtf8 content with
      | none, some text => (.ok (), forgetLoopdev call workDir (trim text) host)
      | _, _ => (.error "failed to read", host)
    | _ => (.ok (), host)

def cleanupSharedRootfsMount (workDir : HostPath) : HostAction Unit := do
  umountIfMounted call (rootfsDir workDir)
  umountIfMounted call (lowerDir workDir)
  cleanupLoopdev call workDir

/-- The device that is mounted: the block device itself, or a loop device that is attached
to the image and whose name is written down. -/
def mountDevice (options : MountSharedRootfsOptions) : HostAction Text :=
  if options.directBlockDevice then pure options.imagePath
  else
    match call.losetup with
    | .error error => Action.fail error
    | .ok loopDevice => do
      Action.step none (Host.attach loopDevice)
      Host.files (HostTree.writeFile call.stateOpen call.stateCut (loopdevFile options.workDir) (utf8 loopDevice))
      pure loopDevice

def mountSharedRootfsImage (options : MountSharedRootfsOptions) : HostAction MountedSharedRootfs := do
  if call.imageExists = false then Action.fail "shared rootfs image does not exist"
  else
    createDirAll call (lowerDir options.workDir)
    createDirAll call (upperDir options.workDir)
    createDirAll call (overlayWorkDir options.workDir)
    createDirAll call (rootfsDir options.workDir)
    createDirAll call (stateDir options.workDir)
    cleanupSharedRootfsMount call options.workDir
    let device ← mountDevice call options
    let fsType := options.fsType.getD "auto".toList
    Host.mount call.mountLower (lowerDir options.workDir)
      (.device device (if fsType = "auto".toList then none else some fsType))
    Host.mount call.mountOverlay (rootfsDir options.workDir)
      (.overlay [pathText (lowerDir options.workDir)] (upperDir options.workDir) (overlayWorkDir options.workDir))
    pure ⟨if options.directBlockDevice then [] else device, lowerDir options.workDir, upperDir options.workDir,
      overlayWorkDir options.workDir, rootfsDir options.workDir⟩

/-- The place of the configuration. -/
def configFile (bundleDir : HostPath) : HostPath := bundleDir ++ ["config.json".toList]

/-- `write_runtime_config_from_image_cvm`. -/
def writeRuntimeConfig (bundleDir : HostPath) (configJson : List UInt8) : HostAction Unit :=
  if configJson = [] then pure ()
  else Host.files (HostTree.writeFile call.configOpen call.configCut (configFile bundleDir) configJson)

/-- What `preflight_shared_rootfs_block_device` finds in the first bytes of the device. -/
def preflight (fsType : Text) (bytes : Fin 4096 → UInt8) : Except String Unit :=
  if fsType = "erofs".toList ∧ [bytes 1024, bytes 1025, bytes 1026, bytes 1027] ≠ [0xE2, 0xE1, 0xF5, 0xE0] then
    .error "invalid EROFS magic at offset 1024"
  else if fsType = "squashfs".toList ∧ [bytes 0, bytes 1, bytes 2, bytes 3] ≠ utf8 "hsqs".toList then
    .error "invalid SquashFS magic at offset 0"
  else .ok ()

/-- `RUNTIME_SHARED_ROOTFS_BLOCK_DEVICE`. -/
def blockDevice : Text := "/dev/cocoimg0".toList

def mountPreparedSharedRootfsFastPath (sharedImage : SharedImage) (bundleDir : HostPath) (fsType : Text) :
    HostAction Unit := do
  if sharedImage.imageSize = 0 then Action.fail "image CVM prepared an empty RMM shared rootfs image"
  else
    Action.ignore (Action.step call.destroyDevice Host.destroyShare)
    Action.step call.createDevice (Host.createShare sharedImage)
    Action.ofExcept (call.firstBytes.bind (preflight fsType))
    let _ ← mountSharedRootfsImage call ⟨blockDevice, bundleDir, some fsType, true⟩
    pure ()

def guestMountSharedRootfs (bundleDir : HostPath) : HostAction Text := do
  let prepared ← Action.ofExcept call.prepared
  createDirAll call bundleDir
  writeRuntimeConfig call bundleDir prepared.ociConfigJson
  if prepared.shareId = 0 ∨ prepared.sourceRdAddr = 0 then
    Action.fail "image CVM did not return an RMM rootfs share descriptor"
  else
    mountPreparedSharedRootfsFastPath call
      ⟨prepared.shareId, prepared.sourceRdAddr, prepared.imageSize, prepared.pageCount⟩ bundleDir prepared.fsType
    pure prepared.imageId

/-- No mount and no device remains that was not there before, and the work directory, and
what is mounted below it, are as they were. -/
structure AsBefore (workDir : HostPath) (before after : Host) : Prop where
  mounts : ∀ mount ∈ after.mounts, mount.id < before.serial
  loops : ∀ loop ∈ after.loops, loop.id < before.serial
  share : ∀ device, after.share = some device → device.id < before.serial
  mounted : (after.mounts.filter fun mount => workDir <+: mount.target) =
    before.mounts.filter fun mount => workDir <+: mount.target
  files : ∀ path, workDir <+: path → after.tree.node path = before.tree.node path

variable (workDir : HostPath) (host : Host)

/-- The directories of a mount, in the order in which they are made. -/
def dirs : List HostPath :=
  HostTree.prefixes (lowerDir workDir) ++ (HostTree.prefixes (upperDir workDir) ++
    (HostTree.prefixes (overlayWorkDir workDir) ++ (HostTree.prefixes (rootfsDir workDir) ++
      HostTree.prefixes (stateDir workDir))))

/-- None of the directories that are made lies in the work directory. -/
def Untouched : Prop :=
  ∀ path ∈ HostTree.made call.refuseDir host.tree (dirs workDir), ¬ workDir <+: path

/-- Something of an earlier mount is found at the path. -/
def seen (path : HostPath) : Bool := host.mountedAt path && call.seesMount path

/-- The file of an earlier loop device can be read, if there is one. -/
def stateReadable : Bool :=
  match host.tree.node (loopdevFile workDir) with
  | some (.file content) => call.readState.isNone && (fromUtf8 content).isSome
  | _ => true

/-- There is such a file, and it is removed. -/
def stateRemoved : Bool :=
  match host.tree.node (loopdevFile workDir) with
  | some (.file _) => call.removeState
  | _ => false

/-- Nothing of an earlier mount is cleaned up, and no directory is made in the work directory. -/
def Undisturbed : Prop :=
  Untouched call workDir host ∧ seen call host (rootfsDir workDir) = false ∧
    seen call host (lowerDir workDir) = false ∧ stateRemoved call workDir host = false

/-- A loop device is attached and its name is written down. -/
def Attaches : Prop :=
  (∃ name, call.losetup = .ok name) ∧ host.tree.node (loopdevFile workDir) ≠ some .dir ∧
    call.stateOpen = none ∧ call.stateCut = none

/-- Up to the device that is mounted, nothing fails. -/
def CleansUp : Prop :=
  call.imageExists = true ∧ (∀ path ∈ dirs workDir, HostTree.blocked call.refuseDir host.tree path = false) ∧
    (seen call host (rootfsDir workDir) = true → call.umount (rootfsDir workDir) = none) ∧
    (seen call host (lowerDir workDir) = true → call.umount (lowerDir workDir) = none) ∧
    stateReadable call workDir host = true

/-- Nothing fails at all. -/
def Succeeds (options : MountSharedRootfsOptions) : Prop :=
  CleansUp call options.workDir host ∧
    (options.directBlockDevice = false → Attaches call options.workDir host) ∧
    call.mountLower = none ∧ call.mountOverlay = none

/-- What may have been done before what fails first. After a mount or an attached device
nothing may fail; before that, nothing of an earlier mount may have been cleaned up. -/
def MountClean (options : MountSharedRootfsOptions) : Prop :=
  if call.imageExists = false then True
  else if ¬ ∀ path ∈ dirs options.workDir, HostTree.blocked call.refuseDir host.tree path = false then
    Untouched call options.workDir host
  else if seen call host (rootfsDir options.workDir) = true ∧ call.umount (rootfsDir options.workDir) ≠ none then
    Untouched call options.workDir host
  else if seen call host (lowerDir options.workDir) = true ∧ call.umount (lowerDir options.workDir) ≠ none then
    Untouched call options.workDir host ∧ seen call host (rootfsDir options.workDir) = false
  else if stateReadable call options.workDir host = false then
    Untouched call options.workDir host ∧ seen call host (rootfsDir options.workDir) = false ∧
      seen call host (lowerDir options.workDir) = false
  else if options.directBlockDevice = true then
    if call.mountLower ≠ none then Undisturbed call options.workDir host else call.mountOverlay = none
  else
    match call.losetup with
    | .error _ => Undisturbed call options.workDir host
    | .ok _ => Attaches call options.workDir host ∧ call.mountLower = none ∧ call.mountOverlay = none

/-- What is written in the place of the configuration, and whether the call goes on. -/
def configWritten (bundleDir : HostPath) (configJson : List UInt8) :
    Except (Option (List UInt8)) (Option (List UInt8)) :=
  if configJson = [] then .ok none
  else if host.tree.node (configFile bundleDir) = some .dir ∨ call.configOpen ≠ none then .error none
  else
    match call.configCut with
    | some (part, _) => .error (some part)
    | none => .ok (some configJson)

/-- The bundle directory was there, and so was what has been written. -/
def Keeps (bundleDir : HostPath) (written : Option (List UInt8)) : Prop :=
  host.tree.node bundleDir = some .dir ∧
    ∀ content, written = some content → host.tree.node (configFile bundleDir) = some (.file content)

/-- Once the device has been created nothing may fail, and before that what has been written
must have been there. -/
def GuestClean (bundleDir : HostPath) : Prop :=
  ∀ prepared, call.prepared = .ok prepared →
    (∀ path ∈ HostTree.prefixes bundleDir, HostTree.blocked call.refuseDir host.tree path = false) →
    match configWritten call host bundleDir prepared.ociConfigJson with
    | .error written => Keeps host bundleDir written
    | .ok written =>
      if prepared.shareId = 0 ∨ prepared.sourceRdAddr = 0 ∨ prepared.imageSize = 0 ∨
        call.createDevice ≠ none then
        Keeps host bundleDir written
      else
        call.firstBytes.bind (preflight prepared.fsType) = .ok () ∧
          Succeeds call host ⟨blockDevice, bundleDir, some prepared.fsType, true⟩

/-- The host once its directories have been made, or as many of them as can be. -/
def withDirs : Host := host.setTree (HostTree.createDirs call.refuseDir (dirs workDir) host.tree).2

/-- Without the earlier mount at the path, if one is found. -/
def withoutMount (path : HostPath) : Host := if seen call host path then host.unmounted path else host

/-- Without the earlier loop device and the file with its name. -/
def withoutLoopdev : Host :=
  match host.tree.node (loopdevFile workDir) with
  | some (.file content) => forgetLoopdev call workDir (trim ((fromUtf8 content).getD [])) host
  | _ => host

variable {call workDir host} {after base : Host}

theorem mem_dirs {path : HostPath} : path ∈ dirs workDir ↔
    path ≠ [] ∧ ∃ name ∈ ["lower".toList, "upper".toList, "work".toList, "rootfs".toList, "state".toList],
      path <+: workDir ++ [name] := by
  simp only [dirs, List.mem_append, HostTree.mem_prefixes, lowerDir, upperDir, overlayWorkDir, rootfsDir, stateDir,
    List.mem_cons, List.not_mem_nil, or_false, exists_eq_or_imp, exists_eq_left, ← and_or_left]

theorem not_mem_dirs {name : Text} {rest : HostPath} (other : rest ≠ [] ∨
    name ∉ ["lower".toList, "upper".toList, "work".toList, "rootfs".toList, "state".toList]) :
    workDir ++ name :: rest ∉ dirs workDir := by
  intro listed
  obtain ⟨_, last, known, below⟩ := mem_dirs.mp listed
  rw [List.prefix_append_right_inj, List.cons_prefix_cons, List.prefix_nil] at below
  obtain ⟨rfl, rfl⟩ := below
  rcases other with other | other
  · exact other rfl
  · exact other known

theorem loopdevFile_not_mem : loopdevFile workDir ∉ dirs workDir := not_mem_dirs (.inl (by simp))

theorem climbs_dirs : HostTree.Climbs (fun other => other = []) (dirs workDir) := by
  have climbs := fun name : Text => HostTree.climbs_prefixes (workDir ++ [name])
  exact (climbs _).append ((climbs _).append ((climbs _).append ((climbs _).append (climbs _))))

theorem withDirs_node (all : ∀ path ∈ dirs workDir, HostTree.blocked call.refuseDir host.tree path = false) :
    ∀ path ∈ dirs workDir, (withDirs call workDir host).tree.node path = some .dir := by
  obtain ⟨tree, ran, made, _⟩ := HostTree.createDirs_free climbs_dirs (HostTree.root_known host.tree) all
  rw [withDirs, ran]
  exact made

theorem withDirs_other {path : HostPath} (other : path ∉ dirs workDir) :
    (withDirs call workDir host).tree.node path = host.tree.node path := by
  obtain ⟨result, tree, ran, _, adds⟩ :=
    HostTree.createDirs_node call.refuseDir (@climbs_dirs workDir) (HostTree.root_known host.tree)
  rw [withDirs, ran]
  apply (adds path).2
  intro made
  exact other ((List.takeWhile_sublist _).subset (HostTree.mem_made.mp made).1)

theorem lowerDir_mem : lowerDir workDir ∈ dirs workDir :=
  mem_dirs.mpr ⟨by simp [lowerDir], _, by simp, List.prefix_rfl⟩

theorem rootfsDir_mem : rootfsDir workDir ∈ dirs workDir :=
  mem_dirs.mpr ⟨by simp [rootfsDir], _, by simp, List.prefix_rfl⟩

theorem stateDir_mem : stateDir workDir ∈ dirs workDir :=
  mem_dirs.mpr ⟨by simp [stateDir], _, by simp, List.prefix_rfl⟩

section Steps

variable {same : Host → Host → Prop} {α : Type} {rest : Unit → HostAction α}

/-- The five directories are made as one list. -/
theorem createDirAll_dirs (rest : HostAction α) :
    (createDirAll call (lowerDir workDir) >>= fun _ => createDirAll call (upperDir workDir) >>= fun _ =>
      createDirAll call (overlayWorkDir workDir) >>= fun _ => createDirAll call (rootfsDir workDir) >>= fun _ =>
      createDirAll call (stateDir workDir) >>= fun _ => rest) =
    (Host.files (HostTree.createDirs call.refuseDir (dirs workDir)) >>= fun _ => rest) := by
  simp only [dirs, HostTree.createDirs_append, Host.files_bind, bind_assoc]
  rfl

theorem clean_dirs (rest : HostAction α) :
    Action.Clean same base (Host.files (HostTree.createDirs call.refuseDir (dirs workDir)) >>= fun _ => rest) host ↔
      if ∀ path ∈ dirs workDir, HostTree.blocked call.refuseDir host.tree path = false then
        Action.Clean same base rest (withDirs call workDir host)
      else same base (withDirs call workDir host) := by
  split
  · rename_i all
    obtain ⟨tree, ran, _, _⟩ := HostTree.createDirs_free climbs_dirs (HostTree.root_known host.tree) all
    rw [Action.clean_bind_ok (Host.files_eq ran), withDirs, ran]
  · rename_i some
    obtain ⟨error, tree, ran, _⟩ := HostTree.createDirs_blocked climbs_dirs (HostTree.root_known host.tree) some
    rw [Action.clean_error (Action.bind_fails _ ⟨error, Host.files_eq ran⟩), withDirs, ran]

theorem clean_umountIfMounted {path : HostPath} (there : host.tree.node path = some .dir) :
    Action.Clean same base (umountIfMounted call path >>= rest) host ↔
      if seen call host path = true ∧ call.umount path ≠ none then same base host
      else Action.Clean same base (rest ()) (withoutMount call host path) := by
  have found : isMountpoint call path host = seen call host path := by
    rw [isMountpoint, there]
    rfl
  cases mounted : seen call host path with
  | false =>
    have nothing : umountIfMounted call path host = (.ok (), host) := by
      rw [umountIfMounted, found, mounted]
      rfl
    rw [if_neg (by simp), Action.clean_bind_ok nothing, withoutMount, mounted]
    rfl
  | true =>
    have unmounts : umountIfMounted call path host = Host.umount (call.umount path) path host := by
      rw [umountIfMounted, found, mounted]
      rfl
    have target : host.mountedAt path = true := by
      rw [seen, Bool.and_eq_true] at mounted
      exact mounted.1
    by_cases refused : call.umount path = none
    · rw [if_neg (by simp [refused]), Action.clean_bind_ok (unmounts.trans (Host.umount_ok target refused)),
        withoutMount, mounted]
      rfl
    · obtain ⟨error, failed⟩ := @Host.umount_fails _ path host (.inr refused)
      rw [if_pos ⟨rfl, refused⟩]
      exact Action.clean_error (Action.bind_fails _ ⟨error, unmounts.trans failed⟩)

theorem clean_cleanupLoopdev :
    Action.Clean same base (cleanupLoopdev call workDir >>= rest) host ↔
      if stateReadable call workDir host = false then same base host
      else Action.Clean same base (rest ()) (withoutLoopdev call workDir host) := by
  rw [stateReadable, withoutLoopdev]
  cases there : host.tree.node (loopdevFile workDir) with
  | none =>
    have nothing : cleanupLoopdev call workDir host = (.ok (), host) := by rw [cleanupLoopdev, there]
    rw [Action.clean_bind_ok nothing]
    rfl
  | some node =>
    cases node with
    | dir =>
      have nothing : cleanupLoopdev call workDir host = (.ok (), host) := by rw [cleanupLoopdev, there]
      rw [Action.clean_bind_ok nothing]
      rfl
    | file content =>
      cases refused : call.readState with
      | some error =>
        have failed : cleanupLoopdev call workDir host = (.error "failed to read", host) := by
          rw [cleanupLoopdev, there, refused]
        rw [Action.clean_error (Action.bind_fails _ ⟨_, failed⟩)]
        rfl
      | none =>
        cases text : fromUtf8 content with
        | none =>
          have failed : cleanupLoopdev call workDir host = (.error "failed to read", host) := by
            simp only [cleanupLoopdev, there, refused, text]
          rw [Action.clean_error (Action.bind_fails _ ⟨_, failed⟩)]
          simp [text]
        | some name =>
          have forgets : cleanupLoopdev call workDir host =
              (.ok (), forgetLoopdev call workDir (trim name) host) := by
            simp only [cleanupLoopdev, there, refused, text]
          rw [Action.clean_bind_ok forgets]
          simp [text]

theorem clean_mount {refused : Option String} {target : HostPath} {source : MountSource}
    (dir : host.tree.node target = some .dir) :
    Action.Clean same base (Host.mount refused target source >>= rest) host ↔
      if refused ≠ none then same base host
      else Action.Clean same base (rest ()) (host.addMount target source) := by
  by_cases allowed : refused = none
  · rw [if_neg (by simp [allowed]), Action.clean_bind_ok (Host.mount_ok dir allowed)]
  · rw [if_pos allowed]
    exact Action.clean_error (Action.bind_fails _ (Host.mount_fails (.inr allowed)))

end Steps

/-- The source of the first mount. -/
def deviceSource (options : MountSharedRootfsOptions) (device : Text) : MountSource :=
  .device device (if options.fsType.getD "auto".toList = "auto".toList then none
    else some (options.fsType.getD "auto".toList))

variable (call host) in
/-- What is left where all that was there of an earlier mount has been cleaned up. -/
def cleaned (workDir : HostPath) : Host :=
  withoutLoopdev call workDir (withoutMount call (withoutMount call (withDirs call workDir host) (rootfsDir workDir))
    (lowerDir workDir))

/-- There is a mount or a loop device that was not there before. -/
def Grown (before after : Host) : Prop :=
  (∃ mount ∈ after.mounts, before.serial ≤ mount.id) ∨ ∃ loop ∈ after.loops, before.serial ≤ loop.id

variable (call host) in
/-- A property holds of what is left wherever the mount fails, if it holds of no host with
a new mount or device. -/
def LeftBy (options : MountSharedRootfsOptions) (holds : Host → Prop) : Prop :=
  let made := withDirs call options.workDir host
  let bare := withoutMount call made (rootfsDir options.workDir)
  let lower := lowerDir options.workDir
  if call.imageExists = false then holds host
  else if ¬ ∀ path ∈ dirs options.workDir, HostTree.blocked call.refuseDir host.tree path = false then holds made
  else if seen call host (rootfsDir options.workDir) = true ∧ call.umount (rootfsDir options.workDir) ≠ none then
    holds made
  else if seen call host lower = true ∧ call.umount lower ≠ none then holds bare
  else if stateReadable call options.workDir host = false then holds (withoutMount call bare lower)
  else if options.directBlockDevice = true then
    if call.mountLower ≠ none then holds (cleaned call host options.workDir) else call.mountOverlay = none
  else
    match call.losetup with
    | .error _ => holds (cleaned call host options.workDir)
    | .ok _ => Attaches call options.workDir host ∧ call.mountLower = none ∧ call.mountOverlay = none

section Walk

variable {path : HostPath}

theorem lowerDir_below : workDir <+: lowerDir workDir := List.prefix_append _ _

theorem rootfsDir_below : workDir <+: rootfsDir workDir := List.prefix_append _ _

theorem lowerDir_ne : lowerDir workDir ≠ rootfsDir workDir := by
  intro names
  have names := (List.append_cancel_left_eq _ _ _).mp names
  revert names
  decide

@[simp] theorem withoutMount_tree : (withoutMount call host path).tree = host.tree := by
  rw [withoutMount]
  split <;> rfl

@[simp] theorem withoutMount_loops : (withoutMount call host path).loops = host.loops := by
  rw [withoutMount]
  split <;> rfl

@[simp] theorem withoutMount_share : (withoutMount call host path).share = host.share := by
  rw [withoutMount]
  split <;> rfl

@[simp] theorem withoutMount_serial : (withoutMount call host path).serial = host.serial := by
  rw [withoutMount]
  split <;> rfl

theorem withoutMount_sublist : (withoutMount call host path).mounts.Sublist host.mounts := by
  rw [withoutMount]
  split
  · exact List.eraseP_sublist
  · exact List.Sublist.refl _

theorem seen_withoutMount {other : HostPath} (differs : path ≠ other) :
    seen call (withoutMount call host other) path = seen call host path := by
  rw [withoutMount]
  split
  · rw [seen, seen, Host.mountedAt_unmounted differs]
  · rfl

theorem forgetLoopdev_kept (name : Text) :
    (forgetLoopdev call workDir name host).mounts = host.mounts ∧
      (forgetLoopdev call workDir name host).share = host.share ∧
      (forgetLoopdev call workDir name host).serial = host.serial ∧
      (forgetLoopdev call workDir name host).loops.Sublist host.loops := by
  rw [forgetLoopdev]
  split
  · exact ⟨rfl, rfl, rfl, List.filter_sublist⟩
  · exact ⟨rfl, rfl, rfl, List.Sublist.refl _⟩

theorem withoutLoopdev_kept :
    (withoutLoopdev call workDir host).mounts = host.mounts ∧
      (withoutLoopdev call workDir host).share = host.share ∧
      (withoutLoopdev call workDir host).serial = host.serial ∧
      (withoutLoopdev call workDir host).loops.Sublist host.loops := by
  rw [withoutLoopdev]
  split
  · exact forgetLoopdev_kept _
  · exact ⟨rfl, rfl, rfl, List.Sublist.refl _⟩

/-- The file of the earlier loop device goes where it is removed, and nothing else does. -/
theorem withoutLoopdev_node (path : HostPath) :
    (withoutLoopdev call workDir host).tree.node path =
      if path = loopdevFile workDir ∧ stateRemoved call workDir host = true then none else host.tree.node path := by
  rw [withoutLoopdev, stateRemoved]
  cases there : host.tree.node (loopdevFile workDir) with
  | none => simp
  | some node =>
    cases node with
    | dir => simp
    | file content =>
      have tree : ∀ name, (forgetLoopdev call workDir name host).tree =
          HostTree.removeFile call.removeState (loopdevFile workDir) host.tree := by
        intro name
        rw [forgetLoopdev]
        split <;> rfl
      have file : host.tree.node (loopdevFile workDir) ≠ some .dir := by
        rw [there]
        nofun
      show (forgetLoopdev call workDir _ host).tree.node path = _
      rw [tree, HostTree.removeFile, dif_pos file]
      cases call.removeState with
      | true =>
        show (if path = loopdevFile workDir then none else host.tree.node path) = _
        simp
      | false => simp

variable {same : Host → Host → Prop} {options : MountSharedRootfsOptions}

theorem mounts_walk {α : Type} {source overlay : MountSource} {lower rootfs : HostPath} (value : α)
    (lowerThere : host.tree.node lower = some .dir) (rootfsThere : host.tree.node rootfs = some .dir)
    (new : ¬ same base (host.addMount lower source)) :
    Action.Clean same base (Host.mount call.mountLower lower source >>= fun _ =>
        Host.mount call.mountOverlay rootfs overlay >>= fun _ => pure value) host ↔
      if call.mountLower ≠ none then same base host else call.mountOverlay = none := by
  have rootfsThere' : (host.addMount lower source).tree.node rootfs = some .dir := rootfsThere
  rw [clean_mount lowerThere, clean_mount rootfsThere']
  split
  · rfl
  · split
    · rename_i refused
      exact ⟨fun left => absurd left new, fun allowed => absurd allowed refused⟩
    · rename_i allowed
      rw [Action.clean_pure, not_not] at *
      exact ⟨fun _ => allowed, fun _ => trivial⟩

variable (call workDir host) in
theorem stateRemoved_bare :
    stateRemoved call workDir (withoutMount call (withoutMount call (withDirs call workDir host) (rootfsDir workDir))
      (lowerDir workDir)) = stateRemoved call workDir host := by
  rw [stateRemoved, withoutMount_tree, withoutMount_tree, withDirs_other loopdevFile_not_mem]
  rfl

variable (call workDir host) in
theorem cleaned_kept :
    (cleaned call host workDir).share = host.share ∧ (cleaned call host workDir).serial = host.serial ∧
      ∀ path, (cleaned call host workDir).tree.node path =
        if path = loopdevFile workDir ∧ stateRemoved call workDir host = true then none
        else (withDirs call workDir host).tree.node path := by
  obtain ⟨_, share, serial, _⟩ := @withoutLoopdev_kept call workDir
    (withoutMount call (withoutMount call (withDirs call workDir host) (rootfsDir workDir)) (lowerDir workDir))
  rw [withoutMount_share, withoutMount_share] at share
  rw [withoutMount_serial, withoutMount_serial] at serial
  refine ⟨share, serial, ?_⟩
  intro path
  rw [cleaned, withoutLoopdev_node, stateRemoved_bare, withoutMount_tree, withoutMount_tree]

/-- The end of the mount, from the device on. -/
theorem device_left (new : ∀ after, after.share = host.share → Grown host after → ¬ same base after)
    (made : ∀ path ∈ dirs options.workDir, (withDirs call options.workDir host).tree.node path = some .dir) :
    Action.Clean same base (mountDevice call options >>= fun device =>
        Host.mount call.mountLower (lowerDir options.workDir) (deviceSource options device) >>= fun _ =>
        Host.mount call.mountOverlay (rootfsDir options.workDir) (.overlay [pathText (lowerDir options.workDir)]
          (upperDir options.workDir) (overlayWorkDir options.workDir)) >>= fun _ =>
        pure (⟨if options.directBlockDevice = true then [] else device, lowerDir options.workDir,
          upperDir options.workDir, overlayWorkDir options.workDir, rootfsDir options.workDir⟩ :
            MountedSharedRootfs)) (cleaned call host options.workDir) ↔
      if options.directBlockDevice = true then
        if call.mountLower ≠ none then same base (cleaned call host options.workDir) else call.mountOverlay = none
      else
        match call.losetup with
        | .error _ => same base (cleaned call host options.workDir)
        | .ok _ => Attaches call options.workDir host ∧ call.mountLower = none ∧ call.mountOverlay = none := by
  obtain ⟨share, serial, node⟩ := cleaned_kept call options.workDir host
  have lowerThere : (cleaned call host options.workDir).tree.node (lowerDir options.workDir) = some .dir := by
    rw [node, if_neg (by simp [lowerDir, loopdevFile]), made _ lowerDir_mem]
  have rootfsThere : (cleaned call host options.workDir).tree.node (rootfsDir options.workDir) = some .dir := by
    rw [node, if_neg (by simp [rootfsDir, loopdevFile]), made _ rootfsDir_mem]
  by_cases direct : options.directBlockDevice = true
  · rw [mountDevice, if_pos direct, if_pos direct, pure_bind]
    apply mounts_walk _ lowerThere rootfsThere
    exact new (Host.addMount _ _ _) share (.inl ⟨_, List.mem_cons_self .., serial.ge⟩)
  · rw [mountDevice, if_neg direct, if_neg direct]
    cases ran : call.losetup with
    | error error => exact Action.clean_fail _
    | ok name =>
      have named : ∃ name, call.losetup = .ok name := ⟨name, ran⟩
      have found : ∀ after : Host, after.share = (cleaned call host options.workDir).share →
          after.loops = ((cleaned call host options.workDir).attach name).loops → ¬ same base after := by
        intro after sameShare loops
        apply new after (sameShare.trans share)
        right
        rw [loops]
        exact ⟨_, List.mem_cons_self .., serial.ge⟩
      have place : HostTree.Writable (cleaned call host options.workDir).tree (loopdevFile options.workDir) ↔
          host.tree.node (loopdevFile options.workDir) ≠ some .dir := by
        have parent : (loopdevFile options.workDir).dropLast = stateDir options.workDir := by
          rw [loopdevFile, List.dropLast_append_of_ne_nil (by simp)]
          rfl
        have dir : (cleaned call host options.workDir).tree.node (stateDir options.workDir) = some .dir := by
          rw [node, if_neg (by simp [stateDir, loopdevFile]), made _ stateDir_mem]
        have file : (cleaned call host options.workDir).tree.node (loopdevFile options.workDir) ≠ some .dir ↔
            host.tree.node (loopdevFile options.workDir) ≠ some .dir := by
          rw [node, withDirs_other loopdevFile_not_mem]
          split
          · rename_i removed
            rw [stateRemoved] at removed
            cases there : host.tree.node (loopdevFile options.workDir) with
            | none => simp
            | some node =>
              cases node with
              | dir => simp [there] at removed
              | file content => simp
          · rfl
        rw [HostTree.Writable, parent, file]
        exact and_iff_left dir
      have shape : ∀ result tree, HostTree.writeFile call.stateOpen call.stateCut (loopdevFile options.workDir)
          (utf8 name) (cleaned call host options.workDir).tree = (result, tree) →
          (Action.step none (Host.attach name) >>= fun _ => Host.files (HostTree.writeFile call.stateOpen call.stateCut
            (loopdevFile options.workDir) (utf8 name)) >>= fun _ => pure name) (cleaned call host options.workDir) =
          (result.map fun _ => name, ((cleaned call host options.workDir).attach name).setTree tree) := by
        intro result tree written
        rw [Action.bind_ok (Action.step_eq_ok.mpr ⟨rfl, rfl⟩)]
        have lifted : Host.files (HostTree.writeFile call.stateOpen call.stateCut (loopdevFile options.workDir)
            (utf8 name)) ((cleaned call host options.workDir).attach name) = _ := Host.files_eq written
        cases result with
        | ok => exact Action.bind_ok lifted
        | error error => exact Action.bind_error lifted
      show Action.Clean same base ((Action.step none (Host.attach name) >>= fun _ => Host.files (HostTree.writeFile
        call.stateOpen call.stateCut (loopdevFile options.workDir) (utf8 name)) >>= fun _ => pure name) >>= _) _ ↔
          Attaches call options.workDir host ∧ _
      by_cases attaches : Attaches call options.workDir host
      · obtain ⟨_, free, opened, whole⟩ := id attaches
        obtain ⟨tree, written, nodes⟩ := HostTree.writeFile_ok (utf8 name) (place.mpr free)
        rw [← opened, ← whole] at written
        rw [Action.clean_bind_ok (shape _ _ written)]
        have other : ∀ path, path ≠ loopdevFile options.workDir →
            tree.node path = (cleaned call host options.workDir).tree.node path := by
          intro path differs
          rw [nodes, if_neg differs]
        have lower : tree.node (lowerDir options.workDir) = some .dir := by
          rw [other _ (by simp [lowerDir, loopdevFile]), lowerThere]
        have rootfs : tree.node (rootfsDir options.workDir) = some .dir := by
          rw [other _ (by simp [rootfsDir, loopdevFile]), rootfsThere]
        refine (mounts_walk _ lower rootfs ?_).trans ?_
        · exact found _ rfl rfl
        split
        · rename_i refused
          exact ⟨fun left => absurd left (found _ rfl rfl), fun all => absurd all.2.1 refused⟩
        · rename_i allowed
          exact ⟨fun mounted => ⟨attaches, not_not.mp allowed, mounted⟩, fun all => all.2.2⟩
      · obtain ⟨error, tree, written⟩ : ∃ error tree, HostTree.writeFile call.stateOpen call.stateCut
            (loopdevFile options.workDir) (utf8 name) (cleaned call host options.workDir).tree =
              (.error error, tree) := by
          by_cases opens : HostTree.Writable (cleaned call host options.workDir).tree (loopdevFile options.workDir) ∧
              call.stateOpen = none
          · cases cut : call.stateCut with
            | none => exact absurd ⟨named, place.mp opens.1, opens.2, cut⟩ attaches
            | some partly =>
              obtain ⟨tree, written, _⟩ := HostTree.writeFile_cut (utf8 name) partly.1 partly.2 opens.1
              rw [opens.2]
              exact ⟨_, _, written⟩
          · obtain ⟨error, failed⟩ := HostTree.writeFile_fails call.stateCut (utf8 name) opens
            exact ⟨error, _, failed⟩
        rw [Action.clean_error (Action.bind_fails _ ⟨error, shape _ _ written⟩)]
        exact ⟨fun left => absurd left (found _ rfl rfl), fun all => absurd all.1 attaches⟩

/-- Exactly where the mount fails, something is left that the property is about. -/
theorem mount_left (new : ∀ after, after.share = host.share → Grown host after → ¬ same base after) :
    Action.Clean same base (mountSharedRootfsImage call options) host ↔ LeftBy call host options (same base) := by
  rw [mountSharedRootfsImage, LeftBy]
  split
  · exact Action.clean_fail _
  · rw [createDirAll_dirs, clean_dirs, ite_not]
    split
    · rename_i all
      have made := withDirs_node all
      have lowerThere := made _ (@lowerDir_mem options.workDir)
      have rootfsThere := made _ (@rootfsDir_mem options.workDir)
      have cleanup : ∀ rest : HostAction MountedSharedRootfs,
          (cleanupSharedRootfsMount call options.workDir >>= fun _ => rest) =
            (umountIfMounted call (rootfsDir options.workDir) >>= fun _ =>
              umountIfMounted call (lowerDir options.workDir) >>= fun _ =>
              cleanupLoopdev call options.workDir >>= fun _ => rest) := by
        intro rest
        simp only [cleanupSharedRootfsMount, bind_assoc]
      have lowerSeen : seen call (withoutMount call (withDirs call options.workDir host) (rootfsDir options.workDir))
          (lowerDir options.workDir) = seen call host (lowerDir options.workDir) := seen_withoutMount lowerDir_ne
      have state : stateReadable call options.workDir (withoutMount call (withoutMount call
          (withDirs call options.workDir host) (rootfsDir options.workDir)) (lowerDir options.workDir)) =
          stateReadable call options.workDir host := by
        rw [stateReadable, withoutMount_tree, withoutMount_tree, withDirs_other loopdevFile_not_mem]
        rfl
      rw [cleanup, clean_umountIfMounted rootfsThere]
      apply iff_of_eq
      apply congrArg
      rw [clean_umountIfMounted (by rw [withoutMount_tree, lowerThere]), lowerSeen]
      apply congrArg
      rw [clean_cleanupLoopdev, state]
      apply congrArg
      exact propext (device_left new made)
    · rfl

end Walk

section AsBefore

variable {path : HostPath} {options : MountSharedRootfsOptions}

theorem asBefore_refl (workDir : HostPath) (host : Host) : AsBefore workDir host host where
  mounts := host.mounted
  loops := host.attached
  share := host.shared
  mounted := rfl
  files _ _ := rfl

theorem not_grown (same : AsBefore workDir host after) : ¬ Grown host after := by
  rintro (⟨mount, listed, new⟩ | ⟨loop, listed, new⟩)
  · exact absurd (same.mounts mount listed) (by omega)
  · exact absurd (same.loops loop listed) (by omega)

/-- Directories that are made change nothing outside of them. -/
theorem asBefore_adds {tree : HostFiles} {added : List HostPath} (adds : HostTree.Adds host.tree tree added)
    (missing : ∀ path ∈ added, host.tree.node path = none) :
    AsBefore workDir host (host.setTree tree) ↔ ∀ path ∈ added, ¬ workDir <+: path := by
  constructor
  · intro same path listed below
    have kept := same.files path below
    rw [Host.setTree_tree, (adds path).1 listed, missing path listed] at kept
    cases kept
  · intro outside
    refine ⟨host.mounted, host.attached, host.shared, rfl, ?_⟩
    intro path below
    exact (adds path).2 fun listed => outside path listed below

theorem asBefore_withDirs : AsBefore workDir host (withDirs call workDir host) ↔ Untouched call workDir host := by
  obtain ⟨result, tree, ran, _, adds⟩ :=
    HostTree.createDirs_node call.refuseDir (@climbs_dirs workDir) (HostTree.root_known host.tree)
  rw [withDirs, ran]
  apply asBefore_adds adds
  intro path listed
  exact (HostTree.mem_made.mp listed).2

/-- A mount that is cleaned up is missed. -/
theorem asBefore_withoutMount (shorter : host.mounts.Sublist base.mounts) (below : workDir <+: path) :
    AsBefore workDir base (withoutMount call host path) ↔
    AsBefore workDir base host ∧ seen call host path = false := by
  rw [withoutMount]
  split
  · rename_i found
    refine ⟨fun same => ?_, fun both => absurd found (by rw [both.2]; nofun)⟩
    have there : host.mountedAt path = true := by
      rw [seen, Bool.and_eq_true] at found
      exact found.1
    have fewer : ((host.unmounted path).mounts.filter fun mount => workDir <+: mount.target).length <
        (host.mounts.filter fun mount => workDir <+: mount.target).length := by
      obtain ⟨mount, listed, here⟩ := List.any_eq_true.mp there
      obtain ⟨latest, before, older, _, at_path, split, erased⟩ :=
        @List.exists_of_eraseP _ (fun mount : HostMount => decide (mount.target = path)) _ _ listed here
      have target : workDir <+: latest.target := by
        rw [of_decide_eq_true at_path]
        exact below
      show ((host.mounts.eraseP fun mount => mount.target = path).filter _).length < _
      rw [erased, split, List.filter_append, List.filter_append, List.filter_cons_of_pos (by simpa using target)]
      simp
    have most := (shorter.filter fun mount => workDir <+: mount.target).length_le
    have mounted := congrArg List.length same.mounted
    omega
  · rename_i missed
    simp [missed]

/-- The file of a loop device that is cleaned up is missed. -/
theorem asBefore_withoutLoopdev (attached : host.loops = base.loops)
    (node : host.tree.node (loopdevFile workDir) = base.tree.node (loopdevFile workDir)) :
    AsBefore workDir base (withoutLoopdev call workDir host) ↔
      AsBefore workDir base host ∧ stateRemoved call workDir host = false := by
  obtain ⟨mounts, share, _, loops⟩ := @withoutLoopdev_kept call workDir host
  have nodes := @withoutLoopdev_node call workDir host
  cases removed : stateRemoved call workDir host with
  | true =>
    refine ⟨fun same => ?_, fun both => absurd both.2 nofun⟩
    have kept := same.files (loopdevFile workDir) (List.prefix_append _ _)
    rw [nodes, if_pos ⟨rfl, removed⟩, ← node] at kept
    rw [stateRemoved, ← kept] at removed
    cases removed
  | false =>
    have tree : ∀ path, (withoutLoopdev call workDir host).tree.node path = host.tree.node path := by
      intro path
      rw [nodes, if_neg (by simp [removed])]
    constructor
    · intro same
      refine ⟨⟨?_, ?_, ?_, ?_, ?_⟩, rfl⟩
      · rw [← mounts]
        exact same.mounts
      · rw [attached]
        exact base.attached
      · rw [← share]
        exact same.share
      · rw [← mounts]
        exact same.mounted
      · intro path below
        rw [← tree]
        exact same.files path below
    · rintro ⟨same, _⟩
      refine ⟨?_, ?_, ?_, ?_, ?_⟩
      · rw [mounts]
        exact same.mounts
      · intro loop listed
        exact same.loops loop (loops.subset listed)
      · rw [share]
        exact same.share
      · rw [mounts]
        exact same.mounted
      · intro path below
        rw [tree]
        exact same.files path below

/-- Exactly where it is said, a failed mount leaves the work directory as it was. -/
theorem leftBy_asBefore :
    LeftBy call host options (AsBefore options.workDir host) ↔ MountClean call host options := by
  have made := @asBefore_withDirs call options.workDir host
  have same : (withDirs call options.workDir host).mounts.Sublist host.mounts := List.Sublist.refl _
  have shorter : (withoutMount call (withDirs call options.workDir host) (rootfsDir options.workDir)).mounts.Sublist
      host.mounts := withoutMount_sublist
  have bare : AsBefore options.workDir host
      (withoutMount call (withDirs call options.workDir host) (rootfsDir options.workDir)) ↔
      Untouched call options.workDir host ∧ seen call host (rootfsDir options.workDir) = false := by
    rw [asBefore_withoutMount same rootfsDir_below, made]
    rfl
  have lower : AsBefore options.workDir host (withoutMount call
      (withoutMount call (withDirs call options.workDir host) (rootfsDir options.workDir))
        (lowerDir options.workDir)) ↔
      Untouched call options.workDir host ∧ seen call host (rootfsDir options.workDir) = false ∧
        seen call host (lowerDir options.workDir) = false := by
    rw [asBefore_withoutMount shorter lowerDir_below, bare, and_assoc,
      seen_withoutMount lowerDir_ne]
    rfl
  have left : AsBefore options.workDir host (cleaned call host options.workDir) ↔
      Undisturbed call options.workDir host := by
    rw [cleaned, asBefore_withoutLoopdev ?_ ?_, lower, stateRemoved_bare, and_assoc, and_assoc]
    · rfl
    · exact withoutMount_loops.trans withoutMount_loops
    · rw [withoutMount_tree, withoutMount_tree, withDirs_other loopdevFile_not_mem]
  simp only [LeftBy, MountClean, made, bare, lower, left, asBefore_refl]

/-- A property that holds of nothing that is left asks that the mount succeeds. -/
theorem leftBy_never {holds : Host → Prop} (never : ∀ after, after.share = host.share → ¬ holds after) :
    LeftBy call host options holds ↔ Succeeds call host options := by
  have made : ¬ holds (withDirs call options.workDir host) := never _ rfl
  have bare : ¬ holds (withoutMount call (withDirs call options.workDir host) (rootfsDir options.workDir)) :=
    never _ withoutMount_share
  have lower : ¬ holds (withoutMount call (withoutMount call (withDirs call options.workDir host)
      (rootfsDir options.workDir)) (lowerDir options.workDir)) :=
    never _ (withoutMount_share.trans withoutMount_share)
  have left : ¬ holds (cleaned call host options.workDir) := never _ (cleaned_kept call options.workDir host).1
  have start : ¬ holds host := never _ rfl
  have ends : (if options.directBlockDevice = true then
        if call.mountLower ≠ none then holds (cleaned call host options.workDir) else call.mountOverlay = none
      else
        match call.losetup with
        | .error _ => holds (cleaned call host options.workDir)
        | .ok _ => Attaches call options.workDir host ∧ call.mountLower = none ∧ call.mountOverlay = none) ↔
      (options.directBlockDevice = false → Attaches call options.workDir host) ∧ call.mountLower = none ∧
        call.mountOverlay = none := by
    cases options.directBlockDevice with
    | true => simp [left]
    | false =>
      cases ran : call.losetup with
      | error error => simp [left, Attaches, ran]
      | ok name => simp
  rw [LeftBy, ends]
  simp only [Succeeds, CleansUp, made, bare, lower, start, if_false_left, not_and, not_not, Bool.not_eq_false, and_assoc]

end AsBefore

section Guest

variable {bundleDir : HostPath} {written : Option (List UInt8)}

variable (bundleDir host) in
/-- The tree with the bundle directory, and with what has been written. -/
def Holds (written : Option (List UInt8)) (tree : HostFiles) : Prop :=
  ∀ path, tree.node path =
    if path = configFile bundleDir then
      written.elim (host.tree.node path) fun content => some (.file content)
    else if path ∈ HostTree.prefixes bundleDir then some .dir else host.tree.node path

theorem configFile_not_mem : configFile bundleDir ∉ HostTree.prefixes bundleDir := by
  intro listed
  have names := (HostTree.mem_prefixes.mp listed).2.length_le
  simp [configFile] at names

theorem holds_bundle {tree : HostFiles} (holds : Holds host bundleDir written tree) :
    tree.node bundleDir = some .dir := by
  by_cases root : bundleDir = []
  · rw [root]
    exact tree.root
  · have differs : bundleDir ≠ configFile bundleDir := by simp [configFile]
    rw [holds, if_neg differs, if_pos (HostTree.mem_prefixes.mpr ⟨root, List.prefix_rfl⟩)]

/-- What has been written is not seen where it was there before. -/
theorem holds_asBefore {tree : HostFiles} (holds : Holds host bundleDir written tree)
    (mounts : after.mounts = host.mounts)
    (loops : after.loops = host.loops) (share : ∀ device, after.share = some device → device.id < host.serial)
    (files : after.tree = tree) :
    AsBefore bundleDir host after ↔ Keeps host bundleDir written := by
  constructor
  · intro same
    constructor
    · rw [← same.files bundleDir List.prefix_rfl, files, holds_bundle holds]
    · rintro content rfl
      rw [← same.files (configFile bundleDir) (List.prefix_append _ _), files, holds, if_pos rfl]
      rfl
  · rintro ⟨there, kept⟩
    refine ⟨?_, ?_, share, by rw [mounts], ?_⟩
    · rw [mounts]
      exact host.mounted
    · rw [loops]
      exact host.attached
    · intro path below
      rw [files, holds]
      split
      · rename_i config
        cases written with
        | none => rfl
        | some content => rw [config, kept content rfl, Option.elim_some]
      · split
        · rename_i listed
          rw [(HostTree.mem_prefixes.mp listed).2.eq_of_length_le below.length_le, there]
        · rfl

/-- Where the bundle directory cannot be made, nothing has been made in it. -/
theorem bundleDir_stopped {tree : HostFiles}
    (stops : ¬ ∀ path ∈ HostTree.prefixes bundleDir, HostTree.blocked call.refuseDir host.tree path = false)
    (adds : HostTree.Adds host.tree tree (HostTree.made call.refuseDir host.tree (HostTree.prefixes bundleDir))) :
    AsBefore bundleDir host (host.setTree tree) := by
  apply (asBefore_adds adds fun path listed => (HostTree.mem_made.mp listed).2).mpr
  intro path made below
  apply stops
  have listed := (HostTree.mem_made.mp made).1
  have inside := (HostTree.mem_prefixes.mp ((List.takeWhile_sublist _).subset listed)).2
  obtain rfl : path = bundleDir := inside.eq_of_length_le below.length_le
  have there : tree.node path ≠ none := by
    rw [(adds path).1 made]
    nofun
  intro above listed'
  by_contra blocks
  rw [Bool.not_eq_false] at blocks
  have outside : above ∉ HostTree.made call.refuseDir host.tree (HostTree.prefixes path) := by
    intro made'
    have free := List.mem_takeWhile_imp (HostTree.mem_made.mp made').1
    simp [blocks] at free
  have dir : tree.node above = some .dir := by
    by_cases same : above = path
    · rw [same]
      exact (adds path).1 made
    · exact HostTree.above_dir there (HostTree.mem_prefixes.mp listed').2 same
  rw [(adds above).2 outside] at dir
  simp [HostTree.blocked, dir] at blocks

/-- What comes of the configuration, once the bundle directory is there. -/
theorem writeRuntimeConfig_run {configJson : List UInt8} (dirs : Holds host bundleDir none after.tree) :
    ∃ tree, match configWritten call host bundleDir configJson with
      | .error written =>
        (∃ error, writeRuntimeConfig call bundleDir configJson after = (.error error, after.setTree tree)) ∧
          Holds host bundleDir written tree
      | .ok written => writeRuntimeConfig call bundleDir configJson after = (.ok (), after.setTree tree) ∧
          Holds host bundleDir written tree := by
  by_cases empty : configJson = []
  · rw [writeRuntimeConfig, configWritten, if_pos empty, if_pos empty]
    exact ⟨after.tree, rfl, dirs⟩
  · rw [writeRuntimeConfig, configWritten, if_neg empty, if_neg empty]
    have place : HostTree.Writable after.tree (configFile bundleDir) ↔
        host.tree.node (configFile bundleDir) ≠ some .dir := by
      have parent : (configFile bundleDir).dropLast = bundleDir := List.dropLast_concat
      rw [HostTree.Writable, parent, dirs, if_pos rfl]
      exact and_iff_left (holds_bundle dirs)
    have grows : ∀ (content : List UInt8) (tree : HostFiles), (∀ path, tree.node path =
        if path = configFile bundleDir then some (.file content) else after.tree.node path) →
        Holds host bundleDir (some content) tree := by
      intro content tree node path
      rw [node]
      split
      · rfl
      · rename_i differs
        rw [dirs, if_neg differs]
    by_cases stops : host.tree.node (configFile bundleDir) = some .dir ∨ call.configOpen ≠ none
    · have closed : ¬ (HostTree.Writable after.tree (configFile bundleDir) ∧ call.configOpen = none) := by
        rintro ⟨writable, opened⟩
        rcases stops with dir | refused
        · exact place.mp writable dir
        · exact refused opened
      obtain ⟨error, failed⟩ := HostTree.writeFile_fails call.configCut configJson closed
      rw [if_pos stops]
      exact ⟨after.tree, ⟨error, Host.files_eq failed⟩, dirs⟩
    · rw [if_neg stops]
      rw [not_or, not_not] at stops
      have writable := place.mpr stops.1
      rw [stops.2]
      cases cut : call.configCut with
      | none =>
        obtain ⟨tree, done, node⟩ := HostTree.writeFile_ok configJson writable
        exact ⟨tree, Host.files_eq done, grows _ _ node⟩
      | some partly =>
        obtain ⟨tree, failed, node⟩ := HostTree.writeFile_cut configJson partly.1 partly.2 writable
        exact ⟨tree, ⟨_, Host.files_eq failed⟩, grows _ _ node⟩

/-- The mount goes the same way on a host that differs in what has been written. -/
theorem succeeds_congr {options : MountSharedRootfsOptions} {tree : HostFiles}
    (free : ∀ path ∈ HostTree.prefixes options.workDir, HostTree.blocked call.refuseDir host.tree path = false)
    (holds : Holds host options.workDir written tree) (mounts : after.mounts = host.mounts) (files : after.tree = tree)
    (direct : options.directBlockDevice = true) :
    Succeeds call after options ↔ Succeeds call host options := by
  have config : configFile options.workDir ∉ dirs options.workDir := not_mem_dirs (.inr (by decide))
  have blocks : ∀ path ∈ dirs options.workDir,
      HostTree.blocked call.refuseDir after.tree path = HostTree.blocked call.refuseDir host.tree path := by
    intro path listed
    have differs : path ≠ configFile options.workDir := by
      rintro rfl
      exact config listed
    have node := holds path
    rw [if_neg differs] at node
    split at node
    · rename_i above
      rw [free path above, HostTree.blocked, files, node]
    · rw [HostTree.blocked, HostTree.blocked, files, node]
  have found : ∀ path, seen call after path = seen call host path := by
    intro path
    rw [seen, seen, Host.mountedAt, Host.mountedAt, mounts]
  have state : stateReadable call options.workDir after = stateReadable call options.workDir host := by
    have outside : loopdevFile options.workDir ∉ HostTree.prefixes options.workDir := by
      intro listed
      have names := (HostTree.mem_prefixes.mp listed).2.length_le
      simp [loopdevFile] at names
    rw [stateReadable, stateReadable, files, holds, if_neg (by simp [loopdevFile, configFile]), if_neg outside]
  have dirs : (∀ path ∈ dirs options.workDir, HostTree.blocked call.refuseDir after.tree path = false) ↔
      ∀ path ∈ dirs options.workDir, HostTree.blocked call.refuseDir host.tree path = false := by
    apply forall₂_congr
    intro path listed
    rw [blocks path listed]
  simp only [Succeeds, CleansUp, found, state, dirs, direct, Bool.true_eq_false, false_implies]

/-- What is left of the earlier device, and all else. -/
theorem destroyed (call : Call) (host : Host) :
    let after := (Action.step call.destroyDevice Host.destroyShare host : Except String Unit × Host).2
    (∀ device, after.share = some device → device.id < host.serial) ∧ after.mounts = host.mounts ∧
      after.loops = host.loops ∧ after.tree = host.tree ∧ after.serial = host.serial := by
  cases call.destroyDevice with
  | none => exact ⟨nofun, rfl, rfl, rfl, rfl⟩
  | some error => exact ⟨host.shared, rfl, rfl, rfl, rfl⟩

/-- From the configuration on: after the device has been created nothing may fail. -/
theorem fastPath_clean {prepared : PrepareRootfsResponse} {tree : HostFiles}
    (free : ∀ path ∈ HostTree.prefixes bundleDir, HostTree.blocked call.refuseDir host.tree path = false)
    (holds : Holds host bundleDir written tree) :
    Action.Clean (AsBefore bundleDir) host
      (if prepared.shareId = 0 ∨ prepared.sourceRdAddr = 0 then
        Action.fail "image CVM did not return an RMM rootfs share descriptor"
      else mountPreparedSharedRootfsFastPath call
          ⟨prepared.shareId, prepared.sourceRdAddr, prepared.imageSize,
            prepared.pageCount⟩ bundleDir prepared.fsType >>=
            fun _ => pure prepared.imageId) (host.setTree tree) ↔
      if prepared.shareId = 0 ∨ prepared.sourceRdAddr = 0 ∨ prepared.imageSize = 0 ∨
        call.createDevice ≠ none then
        Keeps host bundleDir written
      else
        call.firstBytes.bind (preflight prepared.fsType) = .ok () ∧
          Succeeds call host ⟨blockDevice, bundleDir, some prepared.fsType, true⟩ := by
  have kept : AsBefore bundleDir host (host.setTree tree) ↔ Keeps host bundleDir written :=
    holds_asBefore holds rfl rfl host.shared rfl
  by_cases named : prepared.shareId = 0 ∨ prepared.sourceRdAddr = 0
  · have either : prepared.shareId = 0 ∨ prepared.sourceRdAddr = 0 ∨ prepared.imageSize = 0 ∨
        call.createDevice ≠ none := by tauto
    rw [if_pos named, if_pos either, Action.clean_fail, kept]
  · rw [if_neg named, mountPreparedSharedRootfsFastPath]
    by_cases empty : prepared.imageSize = 0
    · have either : prepared.shareId = 0 ∨ prepared.sourceRdAddr = 0 ∨ prepared.imageSize = 0 ∨
          call.createDevice ≠ none := .inr (.inr (.inl empty))
      rw [if_pos empty, if_pos either]
      exact (Action.clean_error (Action.bind_fails _ ⟨_, rfl⟩)).trans kept
    · rw [if_neg empty]
      simp only [bind_assoc, Action.clean_ignore_bind, Action.clean_step_bind, Action.clean_ofExcept_bind]
      obtain ⟨share, mounts, loops, files, serial⟩ := destroyed call (host.setTree tree)
      generalize (Action.step call.destroyDevice Host.destroyShare (host.setTree tree) :
        Except String Unit × Host).2 = bare at share mounts loops files serial
      rw [holds_asBefore holds mounts loops share files]
      have never : ∀ image after, after.share = (bare.createShare image).share →
          ¬ AsBefore bundleDir host after := by
        intro image after same before
        have new := before.share _ same
        rw [serial] at new
        exact Nat.lt_irrefl _ new
      generalize (⟨prepared.shareId, prepared.sourceRdAddr, prepared.imageSize, prepared.pageCount⟩ :
        SharedImage) = image
      have mounted : Action.Clean (AsBefore bundleDir) host (mountSharedRootfsImage call
          ⟨blockDevice, bundleDir, some prepared.fsType, true⟩ >>= fun _ =>
            pure () >>= fun _ => pure prepared.imageId)
          (bare.createShare image) ↔ Succeeds call host ⟨blockDevice, bundleDir, some prepared.fsType, true⟩ := by
        have ends : ∀ value next, mountSharedRootfsImage call ⟨blockDevice, bundleDir, some prepared.fsType, true⟩
            (bare.createShare image) = (.ok value, next) → Action.Clean (AsBefore bundleDir) host
              (pure () >>= fun _ => pure prepared.imageId : HostAction Text) next := by
          intro _ next _ error after failed
          cases failed
        rw [Action.clean_bind, and_iff_left ends, mount_left fun after same _ => never image after same,
          leftBy_never (never image)]
        exact succeeds_congr free holds mounts files rfl
      cases created : call.createDevice with
      | some error => simp
      | none =>
        cases first : call.firstBytes.bind (preflight prepared.fsType) with
        | error error =>
          have seen := never image (bare.createShare image) rfl
          simpa [named, empty, not_or.mp named] using seen
        | ok =>
          simpa [not_or.mp named, empty] using mounted

theorem guest_clean :
    Action.Clean (AsBefore bundleDir) host (guestMountSharedRootfs call bundleDir) host ↔
      GuestClean call host bundleDir := by
  rw [guestMountSharedRootfs, Action.clean_ofExcept_bind, GuestClean, and_iff_right fun _ _ => asBefore_refl _ _]
  apply forall₂_congr
  intro prepared _
  have climbs := HostTree.climbs_prefixes bundleDir
  by_cases free : ∀ path ∈ HostTree.prefixes bundleDir, HostTree.blocked call.refuseDir host.tree path = false
  · obtain ⟨tree, ran, made, kept⟩ := HostTree.createDirs_free climbs (HostTree.root_known host.tree) free
    have dirs : Holds host bundleDir none (host.setTree tree).tree := by
      intro path
      rw [Host.setTree_tree]
      split
      · rename_i config
        rw [config, kept _ configFile_not_mem]
        rfl
      · split
        · rename_i listed
          exact made path listed
        · rename_i other
          exact kept path other
    have first : createDirAll call bundleDir host = (.ok (), host.setTree tree) := Host.files_eq ran
    rw [Action.clean_bind_ok first, forall_prop_of_true free]
    obtain ⟨tree', written⟩ := @writeRuntimeConfig_run call host _ bundleDir prepared.ociConfigJson dirs
    cases goes : configWritten call host bundleDir prepared.ociConfigJson with
    | error written' =>
      rw [goes] at written
      obtain ⟨failed, holds⟩ := written
      rw [Action.clean_error (Action.bind_fails _ failed)]
      exact holds_asBefore holds rfl rfl host.shared rfl
    | ok written' =>
      rw [goes] at written
      obtain ⟨done, holds⟩ := written
      rw [Action.clean_bind_ok done]
      exact fastPath_clean free holds
  · obtain ⟨error, tree, ran, adds⟩ := HostTree.createDirs_blocked climbs (HostTree.root_known host.tree) free
    have failed : createDirAll call bundleDir host = (.error error, host.setTree tree) := Host.files_eq ran
    rw [Action.clean_error (Action.bind_fails _ ⟨error, failed⟩)]
    exact ⟨fun _ all => absurd all free, fun _ => bundleDir_stopped free adds⟩

/-- A failed call leaves no mount and no device, and the work directory as it was, exactly
where it is said: the mount, if what fails first comes before an earlier mount has been
cleaned up; the call for the shared root file system, if it is before the device has been
created and nothing has been written that was not there. -/
theorem shared_rootfs_mounts_clean_iff (call : Call) (host : Host) :
    (∀ options : MountSharedRootfsOptions, Action.Clean (AsBefore options.workDir) host
      (mountSharedRootfsImage call options) host ↔ MountClean call host options) ∧
    ∀ bundleDir, Action.Clean (AsBefore bundleDir) host (guestMountSharedRootfs call bundleDir) host ↔
      GuestClean call host bundleDir := by
  constructor
  · intro options
    rw [mount_left fun after _ grown same => not_grown same grown, leftBy_asBefore]
  · intro bundleDir
    exact guest_clean

/-- A host that refuses the last mount and nothing else. -/
def refusedOverlay : Call where
  prepared := .ok ⟨"image".toList, "ext4".toList, 4096, 4096, [], [], 1, 1, 1⟩
  refuseDir _ := none
  configOpen := none
  configCut := none
  destroyDevice := none
  createDevice := none
  firstBytes := .ok fun _ => 0
  imageExists := true
  seesMount _ := false
  umount _ := none
  readState := none
  detach := true
  removeState := true
  losetup := .error "no such device"
  stateOpen := none
  stateCut := none
  mountLower := none
  mountOverlay := some "wrong fs type"

/-- The device and the mount below the overlay stay where the overlay is refused. -/
theorem refused_overlay_stays : ¬ Action.Clean (AsBefore ["bundle".toList]) (.booted .empty)
    (guestMountSharedRootfs refusedOverlay ["bundle".toList]) (.booted .empty) := by
  intro clean
  have free : ∀ path ∈ HostTree.prefixes ["bundle".toList],
      HostTree.blocked refusedOverlay.refuseDir (HostTree.empty : HostFiles) path = false := by
    decide +kernel
  obtain ⟨_, _, _, _, overlay⟩ := guest_clean.mp clean _ rfl free
  cases overlay

end Guest

end GuestComponents.Image.GuestMount
