import GuestComponents.Lib.HostTree
import GuestComponents.SharedRootfs.Host

/-! What the guest's kernel holds that images are mounted with: its directory tree, the
mounts over it, the loop devices and the block device of a shared image. Each mount and
device has a number of its own. A call that the kernel refuses changes nothing. -/
namespace GuestComponents.Image
open Lib

/-- A path from the root, by its names. -/
abbrev HostPath := List Text

/-- The text of a path. -/
def pathText (path : HostPath) : Text := path.flatMap fun name => '/' :: name

abbrev HostFiles := HostTree Text (List UInt8)

inductive MountSource where
  | overlay (lowerDirs : List Text) (upperDir workDir : HostPath)
  | sefs (options : Text)
  | device (device : Text) (fsType : Option Text)
  deriving DecidableEq

structure HostMount where
  id : Nat
  target : HostPath
  source : MountSource
  deriving DecidableEq

structure LoopDevice where
  id : Nat
  name : Text
  deriving DecidableEq

structure ShareDevice where
  id : Nat
  image : SharedRootfs.SharedImage
  deriving DecidableEq

/-- The latest mount comes first. Numbers from `serial` on have not been given. -/
structure Host where
  tree : HostFiles
  mounts : List HostMount
  loops : List LoopDevice
  share : Option ShareDevice
  serial : Nat
  mounted : ∀ mount ∈ mounts, mount.id < serial
  attached : ∀ loop ∈ loops, loop.id < serial
  shared : ∀ device, share = some device → device.id < serial

abbrev HostAction := Action Host String

namespace Host

/-- A host that has mounted nothing. -/
def booted (tree : HostFiles) : Host := ⟨tree, [], [], none, 0, nofun, nofun, nofun⟩

def setTree (host : Host) (tree : HostFiles) : Host := { host with tree := tree }

@[simp] theorem setTree_tree (host : Host) (tree : HostFiles) : (host.setTree tree).tree = tree := rfl

def mountedAt (host : Host) (path : HostPath) : Bool := host.mounts.any fun mount => mount.target = path

def addMount (target : HostPath) (source : MountSource) (host : Host) : Host :=
  { host with
    mounts := ⟨host.serial, target, source⟩ :: host.mounts
    serial := host.serial + 1
    mounted := List.forall_mem_cons.mpr
      ⟨Nat.lt_succ_self _, fun mount listed => Nat.lt_succ_of_lt (host.mounted mount listed)⟩
    attached := fun loop listed => Nat.lt_succ_of_lt (host.attached loop listed)
    shared := fun device there => Nat.lt_succ_of_lt (host.shared device there) }

/-- Without the latest mount at the path. -/
def unmounted (path : HostPath) (host : Host) : Host :=
  { host with
    mounts := host.mounts.eraseP fun mount => mount.target = path
    mounted := fun mount listed => host.mounted mount (List.mem_of_mem_eraseP listed) }

/-- With a loop device of this name. -/
def attach (name : Text) (host : Host) : Host :=
  { host with
    loops := ⟨host.serial, name⟩ :: host.loops
    serial := host.serial + 1
    mounted := fun mount listed => Nat.lt_succ_of_lt (host.mounted mount listed)
    attached := List.forall_mem_cons.mpr
      ⟨Nat.lt_succ_self _, fun loop listed => Nat.lt_succ_of_lt (host.attached loop listed)⟩
    shared := fun device there => Nat.lt_succ_of_lt (host.shared device there) }

/-- Without the loop devices of this name. -/
def detach (name : Text) (host : Host) : Host :=
  { host with
    loops := host.loops.filter fun loop => loop.name ≠ name
    attached := fun loop listed => host.attached loop (List.mem_of_mem_filter listed) }

/-- With the block device of this image. -/
def createShare (image : SharedRootfs.SharedImage) (host : Host) : Host :=
  { host with
    share := some ⟨host.serial, image⟩
    serial := host.serial + 1
    mounted := fun mount listed => Nat.lt_succ_of_lt (host.mounted mount listed)
    attached := fun loop listed => Nat.lt_succ_of_lt (host.attached loop listed)
    shared := by
      rintro _ ⟨⟩
      exact Nat.lt_succ_self _ }

def destroyShare (host : Host) : Host := { host with share := none, shared := nofun }

/-- A call on the directory tree. -/
def files {α : Type} (action : Action HostFiles String α) : HostAction α := Action.zoom Host.tree setTree action

/-- `mount`: the target is a directory. -/
def mount (refused : Option String) (target : HostPath) (source : MountSource) : HostAction Unit :=
  Action.stepIf (fun host => if host.tree.node target ≠ some .dir then some "Not a directory" else refused)
    (addMount target source)

/-- `umount`: something is mounted there. -/
def umount (refused : Option String) (path : HostPath) : HostAction Unit :=
  Action.stepIf (fun host => if host.mountedAt path then refused else some "Invalid argument") (unmounted path)

theorem files_bind {α β : Type} (first : Action HostFiles String α) (rest : α → Action HostFiles String β) :
    files (first >>= rest) = files first >>= fun value => files (rest value) := by
  funext host
  rw [Action.bind_apply]
  show (((first >>= rest) host.tree).1, host.setTree ((first >>= rest) host.tree).2) = _
  rw [Action.bind_apply]
  cases ran : first host.tree with
  | mk outcome tree =>
    have lifted : files first host = (outcome, host.setTree tree) := Action.zoom_eq ran
    rw [lifted]
    cases outcome <;> rfl

theorem files_eq {α : Type} {action : Action HostFiles String α} {host : Host} {outcome : Except String α}
    {tree : HostFiles} (ran : action host.tree = (outcome, tree)) :
    files action host = (outcome, host.setTree tree) := Action.zoom_eq ran

section Mounts

variable {refused : Option String} {target : HostPath} {source : MountSource} {host : Host}

theorem mount_ok (dir : host.tree.node target = some .dir) (allowed : refused = none) :
    Host.mount refused target source host = (.ok (), host.addMount target source) := by
  apply Action.step_eq_ok.mpr
  simp [dir, allowed]

theorem mount_fails (stays : host.tree.node target ≠ some .dir ∨ refused ≠ none) :
    ∃ error, Host.mount refused target source host = (.error error, host) := by
  apply Action.step_refused
  show (if host.tree.node target ≠ some .dir then some "Not a directory" else refused) ≠ none
  split
  · nofun
  · rename_i dir
    rcases stays with other | refused
    · exact absurd other dir
    · exact refused

theorem unmounted_addMount (target : HostPath) (source : MountSource) (host : Host) :
    ((host.addMount target source).unmounted target).mounts = host.mounts := by
  simp [addMount, unmounted]

theorem mountedAt_addMount (target : HostPath) (source : MountSource) (host : Host) :
    (host.addMount target source).mountedAt target = true := by
  simp [addMount, mountedAt]

theorem mountedAt_unmounted {path : HostPath} (differs : target ≠ path) :
    (host.unmounted path).mountedAt target = host.mountedAt target := by
  rw [Bool.eq_iff_iff, mountedAt, mountedAt, List.any_eq_true, List.any_eq_true]
  have stays : ∀ mount : HostMount, mount.target = target →
      (mount ∈ (host.unmounted path).mounts ↔ mount ∈ host.mounts) := by
    intro mount here
    refine List.mem_eraseP_of_neg ?_
    simpa [here] using differs
  constructor
  · rintro ⟨mount, listed, here⟩
    exact ⟨mount, (stays mount (by simpa using here)).mp listed, here⟩
  · rintro ⟨mount, listed, here⟩
    exact ⟨mount, (stays mount (by simpa using here)).mpr listed, here⟩

theorem umount_ok (there : host.mountedAt target = true) (allowed : refused = none) :
    Host.umount refused target host = (.ok (), host.unmounted target) := by
  apply Action.step_eq_ok.mpr
  simp [there, allowed]

theorem umount_fails (stays : host.mountedAt target = false ∨ refused ≠ none) :
    ∃ error, Host.umount refused target host = (.error error, host) := by
  apply Action.step_refused
  show (if host.mountedAt target = true then refused else some "Invalid argument") ≠ none
  split
  · rename_i there
    rcases stays with missing | refused
    · rw [missing] at there
      cases there
    · exact refused
  · nofun

end Mounts
end Host
end GuestComponents.Image
