import GuestComponents.Image.LayerStore
import GuestComponents.Lib.AllOrNothing
import GuestComponents.Lib.Base64
import GuestComponents.Lib.Json
import GuestComponents.Lib.Panic

/-! `verity/mod.rs` and `verity/dmverity.rs`: an image block device is mounted through a
verity device, which is created under the root hash, given its table and resumed in three
calls of the device mapper, and is removed after the unmount. Any call may be refused by
the kernel. What is left when one of them is refused is said by an equivalence, for the
mount (`mount_leaves_nothing_iff`) and for the unmount and its retries. -/
namespace GuestComponents.Image
open Lib Lib.Text

structure DmVerityOption where
  hashtype : Text
  hash : Text
  blocknum : UInt64
  blocksize : UInt64
  hashsize : UInt64
  offset : UInt64
  deriving DecidableEq

/-- `str::contains`. -/
def containsStr (pattern text : Text) : Bool := text.tails.any fun rest => pattern.isPrefixOf rest

/-- `str::trim_start_matches`, of a pattern that is not empty. -/
def trimStartMatches (pattern : Text) : Nat → Text → Text
  | 0, text => text
  | fuel + 1, text =>
    match text.dropPrefix? pattern with
    | some rest => trimStartMatches pattern fuel rest
    | none => text

namespace DmVerityOption

def isValidBlockSize (blockSize : UInt64) : Bool :=
  (List.range' 9 11).any fun order => blockSize = 1 <<< (UInt64.ofNat order)

/-- The negation of `hash.len() != n || hex::decode(hash).is_err()`. -/
def isHash (hash : Text) (n : Nat) : Bool := (utf8 hash).length = n ∧ (hexDecode hash).isSome

def validate (option : DmVerityOption) : Except String Unit :=
  let hashtype := option.hashtype.map Char.toLower
  if hashtype = "sha256".toList ∧ ¬ isHash option.hash 64 then .error "Invalid hash value sha256"
  else if hashtype = "sha1".toList ∧ ¬ isHash option.hash 40 then .error "Invalid hash value sha1"
  else if hashtype ≠ "sha256".toList ∧ hashtype ≠ "sha1".toList then .error "Unsupported hash algorithm"
  else if option.blocknum = 0 ∨ UInt64.ofNat (2 ^ 32 - 1) < option.blocknum then
    .error "Zero block count for DmVerity device"
  else if ¬ isValidBlockSize option.blocksize ∨ ¬ isValidBlockSize option.hashsize then
    .error "Unsupported verity block size"
  else if option.offset % option.hashsize ≠ 0 ∨ option.offset < option.blocksize * option.blocknum then
    .error "Invalid hashvalue offset"
  else .ok ()

/-- `str::parse::<u64>`, which reads what `parse::<usize>` reads. -/
def parseU64 (text : Text) : Outcome UInt64 :=
  match parseUsize text with
  | some n => .ok (UInt64.ofNat n)
  | none => .bail "invalid digit found in string"

/-- The index of a list of parts. -/
def part (parts : List Text) (index : Nat) : Outcome Text :=
  match parts[index]? with
  | some part => .ok part
  | none => .panic "index out of bounds"

def parseTarfsOptions (sourceOption : Text) : Outcome DmVerityOption := do
  let parts := split ',' sourceOption
  let blocknum ← part parts 0 >>= parseU64
  let offset ← part parts 1 >>= parseU64
  let hash ← part parts 2
  let hash := if parts.length = 3 then trimStartMatches "sha256:".toList hash.length hash else hash
  pure ⟨"sha256".toList, hash, blocknum, 512, 4096, offset⟩

def readU64 : Json → Except String UInt64
  | .number n => if 0 ≤ n ∧ n < 2 ^ 64 then .ok (UInt64.ofNat n.toNat) else .error "invalid value, expected u64"
  | _ => .error "invalid type, expected u64"

/-- The derived `Deserialize`, which takes the fields by their names, or as an array in
the order of their declaration. -/
def deserialize : Json → Except String DmVerityOption
  | .array [hashtype, hash, blocknum, blocksize, hashsize, offset] => do
    let hashtype ← Json.readString hashtype
    let hash ← Json.readString hash
    let blocknum ← readU64 blocknum
    let blocksize ← readU64 blocksize
    let hashsize ← readU64 hashsize
    let offset ← readU64 offset
    pure ⟨hashtype, hash, blocknum, blocksize, hashsize, offset⟩
  | .array _ => .error "invalid length, expected struct DmVerityOption with 6 elements"
  | value => do
    let hashtype ← value.field Json.readString "hashtype"
    let hash ← value.field Json.readString "hash"
    let blocknum ← value.field readU64 "blocknum"
    let blocksize ← value.field readU64 "blocksize"
    let hashsize ← value.field readU64 "hashsize"
    let offset ← value.field readU64 "offset"
    pure ⟨hashtype, hash, blocknum, blocksize, hashsize, offset⟩

/-- The last way in which options are read: as base64 of a JSON text. -/
def fromEncoded (serdeJson : Text → Except String Json) (value : Text) : Except String DmVerityOption :=
  match Base64.decode value with
  | none => .error "invalid base64"
  | some decoded =>
    match fromUtf8 decoded with
    | none => .error "invalid unicode code point"
    | some text => serdeJson text >>= deserialize

/-- The options as they are read, before they are checked. -/
def read (serdeJson : Text → Except String Json) (value : Text) : Outcome DmVerityOption :=
  if containsStr "sha256:".toList value then parseTarfsOptions value
  else match serdeJson value >>= deserialize with
    | .ok option => .ok option
    | .error _ => .ofResult (fromEncoded serdeJson value)

/-- `DmVerityOption::try_from`. -/
def tryFrom (serdeJson : Text → Except String Json) (value : Text) : Outcome DmVerityOption := do
  let option ← read serdeJson value
  .ofResult option.validate
  pure option

end DmVerityOption

/-- A target of a device's table: its first sector, its size in sectors, its type and its
parameters. -/
structure TargetLine where
  start : UInt64
  sectors : UInt64
  targetType : Text
  params : Text
  deriving DecidableEq

/-- A device of the device mapper. It is active once it is resumed. -/
structure DmDevice where
  name : Text
  table : Option TargetLine
  active : Bool
  deriving DecidableEq

structure BlockMount where
  source : Text
  target : Text
  fsType : Text
  deriving DecidableEq

/-- What the kernel holds of devices and of mounts, the latest mount first. -/
structure Kernel where
  devices : List DmDevice
  mounts : List BlockMount
  deriving DecidableEq

/-- The kernel's answers in one call, where it is free to refuse, and the check of a name by
the crate of the device mapper. -/
structure DeviceMapper where
  dmName : Text → Except String Unit
  /-- `DM::new`. -/
  control : Option String
  deviceCreate : Option String
  tableLoad : Option String
  deviceSuspend : Option String
  deviceRemove : Option String
  mount : Option String
  umount : Option String

abbrev VerityAction := Action Kernel (Fault String)

namespace Kernel

def hasDevice (kernel : Kernel) (name : Text) : Bool := kernel.devices.any fun device => device.name = name

def mountedAt (kernel : Kernel) (path : Text) : Bool := kernel.mounts.any fun mount => mount.target = path

/-- The block device of a device of the device mapper. -/
def devicePath (name : Text) : Text := "/dev/mapper/".toList ++ name

/-- The device is open, since it is mounted. -/
def inUse (kernel : Kernel) (name : Text) : Bool := kernel.mounts.any fun mount => mount.source = devicePath name

def createDevice (name : Text) (kernel : Kernel) : Kernel :=
  { kernel with devices := ⟨name, none, false⟩ :: kernel.devices }

/-- Changes the devices of this name. -/
def changeDevice (name : Text) (change : DmDevice → DmDevice) (kernel : Kernel) : Kernel :=
  { kernel with devices := kernel.devices.map fun device => if device.name = name then change device else device }

def removeDevice (name : Text) (kernel : Kernel) : Kernel :=
  { kernel with devices := kernel.devices.filter fun device => device.name ≠ name }

def addMount (mount : BlockMount) (kernel : Kernel) : Kernel := { kernel with mounts := mount :: kernel.mounts }

/-- Without the latest mount at the path. -/
def unmounted (path : Text) (kernel : Kernel) : Kernel :=
  { kernel with mounts := kernel.mounts.eraseP fun mount => mount.target = path }

end Kernel

namespace DeviceMapper

variable (dm : DeviceMapper)

def refusedAs (refused : Option String) : Option (Fault String) := refused.map .error

/-- `DM::new` and `DmName::new`. -/
def openName (name : Text) : VerityAction Unit := do
  Action.step (refusedAs dm.control) id
  Action.ofExcept (Outcome.ofResult (dm.dmName name))

/-- `device_create`: a name is given once. -/
def create (name : Text) : VerityAction Unit :=
  Action.stepIf (fun kernel => if kernel.hasDevice name then some (.error "EBUSY") else refusedAs dm.deviceCreate)
    (Kernel.createDevice name)

def load (name : Text) (table : TargetLine) : VerityAction Unit :=
  Action.step (refusedAs dm.tableLoad)
    (Kernel.changeDevice name fun device => { device with table := some table })

/-- `device_suspend` without the flag to suspend, which resumes. -/
def resume (name : Text) : VerityAction Unit :=
  Action.step (refusedAs dm.deviceSuspend) (Kernel.changeDevice name fun device => { device with active := true })

/-- `device_remove`: a device that is mounted stays. -/
def remove (name : Text) : VerityAction Unit :=
  Action.stepIf
    (fun kernel =>
      if ¬ kernel.hasDevice name then some (.error "ENXIO")
      else if kernel.inUse name then some (.error "EBUSY")
      else refusedAs dm.deviceRemove)
    (Kernel.removeDevice name)

end DeviceMapper

def decimal (n : UInt64) : Text := (toString n).toList

/-- The parameters of the target, joined by blanks. -/
def verityParams (option : DmVerityOption) (sourceDevicePath : Text) (hashStartBlock : UInt64) : Text :=
  List.intercalate [' '] ["1".toList, sourceDevicePath, sourceDevicePath, decimal option.blocksize,
    decimal option.hashsize, decimal option.blocknum, decimal hashStartBlock, option.hashtype, option.hash,
    "-".toList]

/-- The table of `create_verity_device`. Its sums wrap; a debug build panics instead. -/
def verityTable (option : DmVerityOption) (sourceDevicePath : Text) : Outcome TargetLine :=
  if option.hashsize = 0 then .panic "attempt to divide by zero"
  else
    let hashStartBlock := (option.offset + option.hashsize - 1) / option.hashsize
    .ok ⟨0, option.blocknum * option.blocksize / 512, "verity".toList,
      verityParams option sourceDevicePath hashStartBlock⟩

def createVerityDevice (dm : DeviceMapper) (option : DmVerityOption) (sourceDevicePath : Text) :
    VerityAction Text := do
  dm.openName option.hash
  let table ← Action.ofExcept (verityTable option sourceDevicePath)
  dm.create option.hash
  dm.load option.hash table
  dm.resume option.hash
  pure (Kernel.devicePath option.hash)

def destroyVerityDevice (dm : DeviceMapper) (verityDeviceName : Text) : VerityAction Unit := do
  dm.openName verityDeviceName
  dm.remove verityDeviceName

def createDmverityDevice (serdeJson : Text → Except String Json) (dm : DeviceMapper)
    (verityOptions sourceDevicePath : Text) : VerityAction Text := do
  let parsedData ← Action.ofExcept (DmVerityOption.tryFrom serdeJson verityOptions)
  createVerityDevice dm parsedData sourceDevicePath

def mountImageBlockWithIntegrity (serdeJson : Text → Except String Json) (dm : DeviceMapper)
    (verityOptions sourceDevicePath mountPath mountType : Text) : VerityAction Text := do
  let verityDevicePath ← createDmverityDevice serdeJson dm verityOptions sourceDevicePath
  Action.step (DeviceMapper.refusedAs dm.mount) (Kernel.addMount ⟨verityDevicePath, mountPath, mountType⟩)
  pure verityDevicePath

def umountImageBlockWithIntegrity (dm : DeviceMapper) (mountPath verityDeviceName : Text) : VerityAction Unit := do
  Action.stepIf
    (fun kernel =>
      if ¬ kernel.mountedAt mountPath then some (.error "EINVAL") else DeviceMapper.refusedAs dm.umount)
    (Kernel.unmounted mountPath)
  destroyVerityDevice dm verityDeviceName

/-- After a failure there is no device and no mount that was not there before. -/
def NothingNew (before after : Kernel) : Prop :=
  (∀ device ∈ after.devices, before.hasDevice device.name) ∧ ∀ mount ∈ after.mounts, mount ∈ before.mounts

/-- The device mapper makes the device. -/
def MakesDevice (dm : DeviceMapper) (option : DmVerityOption) (kernel : Kernel) : Prop :=
  dm.control = none ∧ dm.dmName option.hash = .ok () ∧ option.hashsize ≠ 0 ∧
    kernel.hasDevice option.hash = false ∧ dm.deviceCreate = none

section Mount

variable {serdeJson : Text → Except String Json} {dm : DeviceMapper} {option : DmVerityOption}
  {kernel base : Kernel} {name verityOptions sourceDevicePath mountPath mountType : Text}

theorem nothingNew_refl (kernel : Kernel) : NothingNew kernel kernel := by
  constructor
  · intro device listed
    exact List.any_eq_true.mpr ⟨device, listed, by simp⟩
  · intro mount listed
    exact listed

theorem hasDevice_changeDevice {change : DmDevice → DmDevice} (kept : ∀ device, (change device).name = device.name) :
    (Kernel.changeDevice name change kernel).hasDevice = kernel.hasDevice := by
  funext other
  simp only [Kernel.hasDevice, Kernel.changeDevice, List.any_map, Function.comp_def]
  congr 1
  funext device
  split
  · rw [kept]
  · rfl

/-- A device that was not there before does not go unseen. -/
theorem not_nothingNew {after : Kernel} (fresh : base.hasDevice name = false) (made : after.hasDevice name = true) :
    ¬ NothingNew base after := by
  rintro ⟨devices, _⟩
  obtain ⟨device, listed, named⟩ := List.any_eq_true.mp made
  have known := devices device listed
  simp only [decide_eq_true_eq] at named
  rw [named, fresh] at known
  cases known

theorem hasDevice_createDevice (name : Text) (kernel : Kernel) :
    (Kernel.createDevice name kernel).hasDevice name = true := by
  simp [Kernel.createDevice, Kernel.hasDevice]

/-- The kernel with the device, after the calls that make it. -/
def withDevice (option : DmVerityOption) (table : TargetLine) (kernel : Kernel) : Kernel :=
  Kernel.changeDevice option.hash (fun device => { device with active := true })
    (Kernel.changeDevice option.hash (fun device => { device with table := some table })
      (Kernel.createDevice option.hash kernel))

theorem hasDevice_withDevice {table : TargetLine} : (withDevice option table kernel).hasDevice option.hash = true := by
  rw [withDevice, hasDevice_changeDevice, hasDevice_changeDevice]
  · exact hasDevice_createDevice _ _
  · intro device
    rfl
  · intro device
    rfl

@[simp] theorem refusedAs_eq_none {refused : Option String} :
    DeviceMapper.refusedAs refused = none ↔ refused = none := by
  cases refused <;> simp [DeviceMapper.refusedAs]

theorem create_allowed {name : Text} :
    (if kernel.hasDevice name = true then some (Fault.error "EBUSY") else DeviceMapper.refusedAs dm.deviceCreate) =
      none ↔ kernel.hasDevice name = false ∧ dm.deviceCreate = none := by
  cases known : kernel.hasDevice name with
  | true => simp
  | false => simp

theorem verityTable_sizes {table : TargetLine} (made : verityTable option sourceDevicePath = .ok table) :
    option.hashsize ≠ 0 := by
  intro zero
  rw [verityTable, if_pos zero] at made
  cases made

theorem verityTable_ok (sourceDevicePath : Text) (sizes : option.hashsize ≠ 0) :
    ∃ table, verityTable option sourceDevicePath = .ok table := by
  rw [verityTable, if_neg sizes]
  exact ⟨_, rfl⟩

/-- A device that has been made is seen whatever happens to it then. -/
theorem createVerityDevice_ok {path : Text} {after : Kernel}
    (ran : createVerityDevice dm option sourceDevicePath kernel = (.ok path, after)) :
    MakesDevice dm option kernel ∧ after.hasDevice option.hash = true := by
  simp only [createVerityDevice, DeviceMapper.openName, DeviceMapper.create, DeviceMapper.load, DeviceMapper.resume,
    bind_assoc, Action.bind_eq_ok] at ran
  obtain ⟨_, _, controlled, _, _, named, table, _, tabled, _, _, created, _, _, loaded, _, _, resumed, ended⟩ := ran
  obtain ⟨control, rfl⟩ := Action.step_eq_ok.mp controlled
  obtain ⟨name, rfl⟩ := Action.ofExcept_eq_ok.mp named
  obtain ⟨table, rfl⟩ := Action.ofExcept_eq_ok.mp tabled
  obtain ⟨create, rfl⟩ := Action.step_eq_ok.mp created
  obtain ⟨_, rfl⟩ := Action.step_eq_ok.mp loaded
  obtain ⟨_, rfl⟩ := Action.step_eq_ok.mp resumed
  cases ended
  obtain ⟨fresh, allowed⟩ := create_allowed.mp create
  constructor
  · exact ⟨by simpa using control, ofResult_ok.mp name, verityTable_sizes table, fresh, allowed⟩
  · exact hasDevice_withDevice

/-- What is left of the device when one of the calls is refused. -/
theorem createVerityDevice_clean :
    Action.Clean NothingNew kernel (createVerityDevice dm option sourceDevicePath) kernel ↔
      (MakesDevice dm option kernel → dm.tableLoad = none ∧ dm.deviceSuspend = none) := by
  simp only [createVerityDevice, DeviceMapper.openName, DeviceMapper.create, DeviceMapper.load, DeviceMapper.resume,
    bind_assoc, Action.clean_step_bind, Action.clean_ofExcept_bind, Action.clean_stepIf_bind, Action.clean_pure,
    id_eq]
  constructor
  · rintro ⟨_, controlled⟩ ⟨control, named, sizes, fresh, create⟩
    obtain ⟨table, tabled⟩ := verityTable_ok sourceDevicePath sizes
    have opened := (controlled (by rw [control]; rfl)).2 () (by rw [named]; rfl)
    obtain ⟨load, loaded⟩ := (opened.2 table tabled).2 (create_allowed.mpr ⟨fresh, create⟩)
    have seen := not_nothingNew fresh (hasDevice_createDevice option.hash kernel)
    have loads : dm.tableLoad = none := by
      by_contra refused
      exact seen (load (by simpa using refused))
    constructor
    · exact loads
    · by_contra refused
      have left := (loaded (by simpa using loads)).1 (by simpa using refused)
      apply not_nothingNew fresh _ left
      rw [hasDevice_changeDevice]
      · exact hasDevice_createDevice _ _
      · intro device
        rfl
  · intro steps
    have same := nothingNew_refl kernel
    refine ⟨fun _ => same, fun control => ⟨fun _ _ => same, fun _ named => ⟨fun _ _ => same, ?_⟩⟩⟩
    intro table tabled
    refine ⟨fun _ => same, ?_⟩
    intro created
    obtain ⟨fresh, create⟩ := create_allowed.mp created
    obtain ⟨load, suspend⟩ := steps
      ⟨by simpa using control, ofResult_ok.mp named, verityTable_sizes tabled, fresh, create⟩
    simp [load, suspend]

theorem createVerityDevice_succeeds (sourceDevicePath : Text) (made : MakesDevice dm option kernel)
    (load : dm.tableLoad = none)
    (suspend : dm.deviceSuspend = none) :
    ∃ after, createVerityDevice dm option sourceDevicePath kernel =
      (.ok (Kernel.devicePath option.hash), after) := by
  obtain ⟨control, named, sizes, fresh, create⟩ := made
  obtain ⟨table, tabled⟩ := verityTable_ok sourceDevicePath sizes
  refine ⟨withDevice option table kernel, ?_⟩
  simp only [createVerityDevice, DeviceMapper.openName, DeviceMapper.create, DeviceMapper.load, DeviceMapper.resume,
    bind_assoc, Action.bind_eq_ok]
  refine ⟨(), kernel, ?_, (), kernel, ?_, table, kernel, ?_, (), Kernel.createDevice option.hash kernel, ?_,
    (), Kernel.changeDevice option.hash (fun device => { device with table := some table })
      (Kernel.createDevice option.hash kernel), ?_, (), withDevice option table kernel, ?_, rfl⟩
  · exact Action.step_eq_ok.mpr ⟨by simpa using control, rfl⟩
  · exact Action.ofExcept_eq_ok.mpr ⟨ofResult_ok.mpr named, rfl⟩
  · exact Action.ofExcept_eq_ok.mpr ⟨tabled, rfl⟩
  · exact Action.step_eq_ok.mpr ⟨create_allowed.mpr ⟨fresh, create⟩, rfl⟩
  · exact Action.step_eq_ok.mpr ⟨by simpa using load, rfl⟩
  · exact Action.step_eq_ok.mpr ⟨by simpa using suspend, rfl⟩

/-- What is left of a mount when one of the calls is refused. -/
theorem mountImageBlock_clean :
    Action.Clean NothingNew kernel
        (mountImageBlockWithIntegrity serdeJson dm verityOptions sourceDevicePath mountPath mountType) kernel ↔
      ∀ option, DmVerityOption.tryFrom serdeJson verityOptions = .ok option → MakesDevice dm option kernel →
        dm.tableLoad = none ∧ dm.deviceSuspend = none ∧ dm.mount = none := by
  simp only [mountImageBlockWithIntegrity, createDmverityDevice, bind_assoc, Action.clean_ofExcept_bind]
  constructor
  · rintro ⟨_, clean⟩ option read made
    obtain ⟨created, mounted⟩ := Action.clean_bind.mp (clean option read)
    obtain ⟨load, suspend⟩ := createVerityDevice_clean.mp created made
    obtain ⟨after, ran⟩ := createVerityDevice_succeeds sourceDevicePath made load suspend
    refine ⟨load, suspend, ?_⟩
    by_contra refused
    have left := (Action.clean_step_bind.mp (mounted _ _ ran)).1 (by simpa using refused)
    obtain ⟨_, seen⟩ := createVerityDevice_ok ran
    exact not_nothingNew made.2.2.2.1 seen left
  · intro steps
    constructor
    · intro _ _
      exact nothingNew_refl kernel
    · intro option read
      rw [Action.clean_bind]
      constructor
      · apply createVerityDevice_clean.mpr
        intro made
        obtain ⟨load, suspend, _⟩ := steps option read made
        exact ⟨load, suspend⟩
      · intro path after ran
        obtain ⟨made, _⟩ := createVerityDevice_ok ran
        obtain ⟨_, _, mount⟩ := steps option read made
        rw [Action.clean_step_bind, mount]
        exact ⟨fun refused => absurd rfl refused, fun _ => (Action.clean_pure _).mpr trivial⟩

end Mount

/-- Neither a mount at the path nor a device of the name is left. -/
def Neither (path name : Text) (kernel : Kernel) : Prop :=
  kernel.mountedAt path = false ∧ kernel.hasDevice name = false

/-- The kernel after the call was made again and again, whatever became of each call. -/
def retries (path name : Text) (calls : List DeviceMapper) (kernel : Kernel) : Kernel :=
  calls.foldl (fun kernel dm => (umountImageBlockWithIntegrity dm path name kernel).2) kernel

/-- Retries can still take both the mount and the device away. The crate checks names as it
always does. -/
def CanRecover (dmName : Text → Except String Unit) (path name : Text) (kernel : Kernel) : Prop :=
  ∃ calls : List DeviceMapper,
    (∀ dm ∈ calls, dm.dmName = dmName) ∧ Neither path name (retries path name calls kernel)

/-- There is nothing to take away; or something is mounted at the path, and the device is
gone, or has a name that can be given and is mounted nowhere else. -/
def Recoverable (dmName : Text → Except String Unit) (path name : Text) (kernel : Kernel) : Prop :=
  Neither path name kernel ∨ kernel.mountedAt path = true ∧
    (kernel.hasDevice name = false ∨ dmName name = .ok () ∧
      ∀ mount ∈ kernel.mounts, mount.source = Kernel.devicePath name → mount.target = path)

/-- The unmount itself is done. -/
def Unmounts (dm : DeviceMapper) (path : Text) (kernel : Kernel) : Prop :=
  kernel.mountedAt path = true ∧ dm.umount = none

/-- The device is destroyed. -/
def Destroys (dm : DeviceMapper) (name : Text) (kernel : Kernel) : Prop :=
  dm.control = none ∧ dm.dmName name = .ok () ∧ kernel.hasDevice name = true ∧ kernel.inUse name = false ∧
    dm.deviceRemove = none

section Umount

variable {dm : DeviceMapper} {kernel after : Kernel} {path name : Text}

theorem umount_allowed : (if ¬ kernel.mountedAt path = true then some (Fault.error "EINVAL")
    else DeviceMapper.refusedAs dm.umount) = none ↔ Unmounts dm path kernel := by
  cases known : kernel.mountedAt path <;> simp [Unmounts, known]

theorem remove_allowed : (if ¬ kernel.hasDevice name = true then some (Fault.error "ENXIO")
    else if kernel.inUse name = true then some (Fault.error "EBUSY") else DeviceMapper.refusedAs dm.deviceRemove) =
      none ↔ kernel.hasDevice name = true ∧ kernel.inUse name = false ∧ dm.deviceRemove = none := by
  cases known : kernel.hasDevice name <;> cases used : kernel.inUse name <;> simp

theorem openName_ok (control : dm.control = none) (named : dm.dmName name = .ok ()) :
    dm.openName name kernel = (.ok (), kernel) := by
  rw [DeviceMapper.openName, control]
  exact Action.ofExcept_eq_ok.mpr ⟨ofResult_ok.mpr named, rfl⟩

theorem openName_fails (closed : ¬ (dm.control = none ∧ dm.dmName name = .ok ())) :
    ∃ error, dm.openName name kernel = (.error error, kernel) := by
  rw [DeviceMapper.openName]
  cases control : dm.control with
  | some error => exact ⟨_, rfl⟩
  | none =>
    cases named : dm.dmName name with
    | ok => exact absurd ⟨control, named⟩ closed
    | error error => exact ⟨_, rfl⟩

theorem destroy_destroys (destroys : Destroys dm name kernel) :
    destroyVerityDevice dm name kernel = (.ok (), kernel.removeDevice name) := by
  obtain ⟨control, named, allowed⟩ := destroys
  rw [destroyVerityDevice, Action.bind_ok (openName_ok control named)]
  exact Action.step_eq_ok.mpr ⟨remove_allowed.mpr allowed, rfl⟩

theorem destroy_fails (stays : ¬ Destroys dm name kernel) :
    ∃ error, destroyVerityDevice dm name kernel = (.error error, kernel) := by
  by_cases opens : dm.control = none ∧ dm.dmName name = .ok ()
  · rw [destroyVerityDevice, Action.bind_ok (openName_ok opens.1 opens.2)]
    apply Action.step_refused
    intro allowed
    exact stays ⟨opens.1, opens.2, remove_allowed.mp allowed⟩
  · exact Action.bind_fails _ (openName_fails opens)

/-- The three ways in which the call ends. -/
theorem umountImageBlock_cases :
    (¬ Unmounts dm path kernel ∧
      ∃ error, umountImageBlockWithIntegrity dm path name kernel = (.error error, kernel)) ∨
    (Unmounts dm path kernel ∧ Destroys dm name (kernel.unmounted path) ∧
      umountImageBlockWithIntegrity dm path name kernel = (.ok (), (kernel.unmounted path).removeDevice name)) ∨
    (Unmounts dm path kernel ∧ ¬ Destroys dm name (kernel.unmounted path) ∧
      ∃ error, umountImageBlockWithIntegrity dm path name kernel = (.error error, kernel.unmounted path)) := by
  by_cases unmounts : Unmounts dm path kernel
  · right
    have first : (Action.stepIf
        (fun kernel => if ¬ kernel.mountedAt path = true then some (Fault.error "EINVAL")
          else DeviceMapper.refusedAs dm.umount) (Kernel.unmounted path) : VerityAction Unit) kernel =
        (.ok (), kernel.unmounted path) := Action.step_eq_ok.mpr ⟨umount_allowed.mpr unmounts, rfl⟩
    by_cases destroys : Destroys dm name (kernel.unmounted path)
    · left
      refine ⟨unmounts, destroys, ?_⟩
      rw [umountImageBlockWithIntegrity, Action.bind_ok first, destroy_destroys destroys]
    · right
      obtain ⟨error, failed⟩ := destroy_fails destroys
      refine ⟨unmounts, destroys, error, ?_⟩
      rw [umountImageBlockWithIntegrity, Action.bind_ok first, failed]
  · left
    refine ⟨unmounts, ?_⟩
    apply Action.bind_fails
    apply Action.step_refused
    intro allowed
    exact unmounts (umount_allowed.mp allowed)

section Recovery

variable {dmName : Text → Except String Unit}

theorem mem_unmounted {mount : BlockMount} (listed : mount ∈ (kernel.unmounted path).mounts) :
    mount ∈ kernel.mounts := List.mem_of_mem_eraseP listed

theorem mem_unmounted_or (path : Text) {mount : BlockMount} (listed : mount ∈ kernel.mounts) :
    mount.target = path ∨ mount ∈ (kernel.unmounted path).mounts := by
  by_cases here : mount.target = path
  · exact .inl here
  · right
    apply (List.mem_eraseP_of_neg _).mpr listed
    simpa using here

theorem not_inUse {mount : BlockMount} (free : kernel.inUse name = false) (listed : mount ∈ kernel.mounts) :
    mount.source ≠ Kernel.devicePath name := by
  intro same
  have used : kernel.inUse name = true := List.any_eq_true.mpr ⟨mount, listed, by simpa using same⟩
  rw [free] at used
  cases used

theorem hasDevice_removeDevice : (kernel.removeDevice name).hasDevice name = false := by
  simp [Kernel.hasDevice, Kernel.removeDevice]

/-- No call makes recoverable what was not. -/
theorem recoverable_before (checks : dm.dmName = dmName)
    (recoverable : Recoverable dmName path name (umountImageBlockWithIntegrity dm path name kernel).2) :
    Recoverable dmName path name kernel := by
  rcases @umountImageBlock_cases dm kernel path name with
    ⟨_, error, ran⟩ | ⟨unmounts, destroys, ran⟩ | ⟨unmounts, _, error, ran⟩
  · rwa [ran] at recoverable
  · right
    refine ⟨unmounts.1, .inr ⟨checks ▸ destroys.2.1, ?_⟩⟩
    intro mount listed source
    rcases mem_unmounted_or path listed with here | stays
    · exact here
    · exact absurd source (not_inUse destroys.2.2.2.1 stays)
  · rw [ran] at recoverable
    right
    refine ⟨unmounts.1, ?_⟩
    rcases recoverable with ⟨_, gone⟩ | ⟨_, gone | ⟨named, elsewhere⟩⟩
    · exact .inl gone
    · exact .inl gone
    · refine .inr ⟨named, ?_⟩
      intro mount listed source
      rcases mem_unmounted_or path listed with here | stays
      · exact here
      · exact elsewhere mount stays source

/-- A device mapper and a kernel that refuse nothing they need not refuse. -/
def willing (dmName : Text → Except String Unit) : DeviceMapper :=
  ⟨dmName, none, none, none, none, none, none, none⟩

theorem recoverable_willing (recoverable : Recoverable dmName path name kernel)
    (mounted : kernel.mountedAt path = true) :
    Recoverable dmName path name (umountImageBlockWithIntegrity (willing dmName) path name kernel).2 ∧
      (umountImageBlockWithIntegrity (willing dmName) path name kernel).2.mounts.length < kernel.mounts.length := by
  have shorter : (kernel.unmounted path).mounts.length < kernel.mounts.length := by
    obtain ⟨mount, listed, here⟩ := List.any_eq_true.mp mounted
    have length := List.length_eraseP_of_mem (p := fun mount : BlockMount => decide (mount.target = path)) listed here
    have positive := List.length_pos_of_mem listed
    show (kernel.mounts.eraseP _).length < _
    omega
  have gone : ∀ other : Kernel, other.hasDevice name = false → Recoverable dmName path name other := by
    intro other none
    cases still : other.mountedAt path with
    | false => exact .inl ⟨still, none⟩
    | true => exact .inr ⟨still, .inl none⟩
  rcases @umountImageBlock_cases (willing dmName) kernel path name with
    ⟨refused, _⟩ | ⟨_, _, ran⟩ | ⟨_, stays, error, ran⟩
  · exact absurd ⟨mounted, rfl⟩ refused
  · rw [ran]
    exact ⟨gone _ hasDevice_removeDevice, shorter⟩
  · rw [ran]
    refine ⟨?_, shorter⟩
    rcases recoverable with ⟨impossible, _⟩ | ⟨_, none | ⟨named, elsewhere⟩⟩
    · rw [mounted] at impossible
      cases impossible
    · exact gone _ none
    · cases device : (kernel.unmounted path).hasDevice name with
      | false => exact gone _ device
      | true =>
        cases used : (kernel.unmounted path).inUse name with
        | false => exact absurd ⟨rfl, named, device, used, rfl⟩ stays
        | true =>
          obtain ⟨mount, listed, source⟩ := List.any_eq_true.mp used
          have here := elsewhere mount (mem_unmounted listed) (by simpa using source)
          right
          constructor
          · exact List.any_eq_true.mpr ⟨mount, listed, by simpa using here⟩
          · exact .inr ⟨named, fun other there => elsewhere other (mem_unmounted there)⟩

/-- What retries can still take away. -/
theorem canRecover_iff : CanRecover dmName path name kernel ↔ Recoverable dmName path name kernel := by
  constructor
  · rintro ⟨calls, checks, neither⟩
    induction calls generalizing kernel with
    | nil => exact .inl neither
    | cons dm calls ih =>
      obtain ⟨here, later⟩ := List.forall_mem_cons.mp checks
      exact recoverable_before here (ih later neither)
  · intro recoverable
    generalize size : kernel.mounts.length = n
    induction n using Nat.strong_induction_on generalizing kernel with
    | _ n ih =>
      cases mounted : kernel.mountedAt path with
      | false =>
        rcases recoverable with neither | ⟨impossible, _⟩
        · exact ⟨[], by simp, neither⟩
        · rw [mounted] at impossible
          cases impossible
      | true =>
        obtain ⟨still, shorter⟩ := recoverable_willing recoverable mounted
        obtain ⟨calls, checks, neither⟩ := ih _ (size ▸ shorter) still rfl
        exact ⟨willing dmName :: calls, List.forall_mem_cons.mpr ⟨rfl, checks⟩, neither⟩

end Recovery

/-- An unmount that fails can be retried to its end. -/
def RetriesReach (dm : DeviceMapper) (path name : Text) (kernel : Kernel) : Prop :=
  ∀ error after, umountImageBlockWithIntegrity dm path name kernel = (.error error, after) →
    CanRecover dm.dmName path name after

theorem retriesReach_iff : RetriesReach dm path name kernel ↔
    (¬ Unmounts dm path kernel → Recoverable dm.dmName path name kernel) ∧
      (Unmounts dm path kernel → Destroys dm name (kernel.unmounted path) ∨
        Recoverable dm.dmName path name (kernel.unmounted path)) := by
  simp only [RetriesReach, canRecover_iff]
  rcases @umountImageBlock_cases dm kernel path name with
    ⟨refused, error, ran⟩ | ⟨unmounts, destroys, ran⟩ | ⟨unmounts, stays, error, ran⟩
  · constructor
    · intro reach
      exact ⟨fun _ => reach error kernel ran, fun unmounts => absurd unmounts refused⟩
    · rintro ⟨recoverable, _⟩ error' after failed
      rw [ran] at failed
      cases failed
      exact recoverable refused
  · constructor
    · intro _
      exact ⟨fun refused => absurd unmounts refused, fun _ => .inl destroys⟩
    · intro _ error after failed
      rw [ran] at failed
      cases failed
  · constructor
    · intro reach
      exact ⟨fun refused => absurd unmounts refused, fun _ => .inr (reach error _ ran)⟩
    · rintro ⟨_, recoverable⟩ error' after failed
      rw [ran] at failed
      cases failed
      rcases recoverable unmounts with destroys | found
      · exact absurd destroys stays
      · exact found

end Umount

section Sample

/-- Options as the tar file system passes them. -/
def sampleOptions : Text :=
  "1024,524288,sha256:9de18652fe74edfb9b805aaed72ae2aa48f94333f1ba5c452ac33b1c39325174".toList

def sampleHash : Text := "9de18652fe74edfb9b805aaed72ae2aa48f94333f1ba5c452ac33b1c39325174".toList

/-- The options of `test_decode_verity_options`. -/
def sampleOption : DmVerityOption := ⟨"sha256".toList, sampleHash, 1024, 512, 4096, 524288⟩

theorem sampleOptions_read (serdeJson : Text → Except String Json) :
    DmVerityOption.tryFrom serdeJson sampleOptions = .ok sampleOption := by
  have marked : containsStr "sha256:".toList sampleOptions = true := by decide +kernel
  have parsed : DmVerityOption.parseTarfsOptions sampleOptions = .ok sampleOption := by decide +kernel
  have valid : sampleOption.validate = .ok () := by decide +kernel
  rw [DmVerityOption.tryFrom, DmVerityOption.read, if_pos marked, parsed]
  show (Outcome.ofResult sampleOption.validate >>= fun _ => pure sampleOption) = _
  rw [valid]
  rfl

/-- A kernel that refuses the mount, say for its file system type, and nothing else. -/
def refusingMount : DeviceMapper := { willing (fun _ => .ok ()) with mount := some "EINVAL" }

/-- A kernel that refuses to remove the device, and nothing else. -/
def refusingRemove : DeviceMapper := { willing (fun _ => .ok ()) with deviceRemove := some "EBUSY" }

/-- The device stays when the mount is refused; and once an unmount has been done without
the removal of the device, every retry stops at the unmount. -/
theorem device_stays : (∀ serdeJson, ¬ Action.Clean NothingNew ⟨[], []⟩
      (mountImageBlockWithIntegrity serdeJson refusingMount sampleOptions "/dev/loop0".toList "/run/image".toList
        "ext4".toList) ⟨[], []⟩) ∧
    ¬ RetriesReach refusingRemove "/run/image".toList sampleHash
      ⟨[⟨sampleHash, none, true⟩],
        [⟨Kernel.devicePath sampleHash, "/run/image".toList, "ext4".toList⟩]⟩ := by
  constructor
  · intro serdeJson clean
    have made : MakesDevice refusingMount sampleOption ⟨[], []⟩ :=
      ⟨rfl, rfl, by decide, rfl, rfl⟩
    obtain ⟨_, _, mount⟩ := mountImageBlock_clean.mp clean _ (sampleOptions_read serdeJson) made
    cases mount
  · intro reach
    have unmounts : Unmounts refusingRemove "/run/image".toList
        ⟨[⟨sampleHash, none, true⟩], [⟨Kernel.devicePath sampleHash, "/run/image".toList, "ext4".toList⟩]⟩ :=
      ⟨by decide +kernel, rfl⟩
    rcases (retriesReach_iff.mp reach).2 unmounts with ⟨_, _, _, _, removed⟩ | ⟨_, gone⟩ | ⟨mounted, _⟩
    · cases removed
    · revert gone
      decide +kernel
    · revert mounted
      decide +kernel

end Sample

/-- A failed mount, or a failed creation of the device, leaves nothing behind exactly if no
call after the creation is refused; and a failed unmount can be retried to its end exactly
if it was the unmount itself that failed and could still be done, or something else keeps
the retries from stopping there. -/
theorem integrity_mounts_clean_iff (serdeJson : Text → Except String Json) (dm : DeviceMapper)
    (verityOptions sourceDevicePath mountPath mountType name : Text) (kernel : Kernel) :
    (Action.Clean NothingNew kernel
        (mountImageBlockWithIntegrity serdeJson dm verityOptions sourceDevicePath mountPath mountType) kernel ↔
      ∀ option, DmVerityOption.tryFrom serdeJson verityOptions = .ok option → MakesDevice dm option kernel →
        dm.tableLoad = none ∧ dm.deviceSuspend = none ∧ dm.mount = none) ∧
    (∀ option, Action.Clean NothingNew kernel (createVerityDevice dm option sourceDevicePath) kernel ↔
      (MakesDevice dm option kernel → dm.tableLoad = none ∧ dm.deviceSuspend = none)) ∧
    (RetriesReach dm mountPath name kernel ↔
      (¬ Unmounts dm mountPath kernel → Recoverable dm.dmName mountPath name kernel) ∧
        (Unmounts dm mountPath kernel → Destroys dm name (kernel.unmounted mountPath) ∨
          Recoverable dm.dmName mountPath name (kernel.unmounted mountPath))) :=
  ⟨mountImageBlock_clean, fun _ => createVerityDevice_clean, retriesReach_iff⟩

end GuestComponents.Image
