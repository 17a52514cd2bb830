import GuestComponents.Lib.AllOrNothing
import GuestComponents.Lib.Text
import Mathlib.Data.List.Sort

/-! `storage/volume_type`: the mounts of encrypted volumes. A block device is opened, formatted and mounted
by a script that the hub starts with a key file; an OSS bucket is mounted by ossfs, under gocryptfs where it
is encrypted. Nothing takes back what was done before a step that fails. -/
namespace GuestComponents.Hub.SecureMount
open Lib Lib.Text

/-- A file that a key or a password is written to. -/
structure KeyFile where
  id : Nat
  path : Text
  content : List UInt8
  deriving DecidableEq

/-- An opened device. -/
structure Mapping where
  id : Nat
  name : Text
  device : Text
  deriving DecidableEq

structure Mounted where
  id : Nat
  source : Text
  target : Text
  deriving DecidableEq

/-- What is on a device: something, or a volume behind a key. -/
inductive Disk (Volume : Type) where
  | plain
  | luks (key : List UInt8) (integrity : Bool) (inner : Volume)

def Disk.change {Volume : Type} (effect : Volume → Volume) : Disk Volume → Disk Volume
  | .plain => .plain
  | .luks key integrity inner => .luks key integrity (effect inner)

/-- The guest, as far as mounts change it. Files, mappings and mounts have numbers of their own, of which those
from `serial` on have not been given. -/
structure Guest (Volume : Type) where
  files : List KeyFile
  mappings : List Mapping
  mounts : List Mounted
  serial : Nat
  disk : Text → Disk Volume
  /-- The devices and mappings that were written to by a format. -/
  formatted : List Text
  created : ∀ file ∈ files, file.id < serial
  opened : ∀ mapping ∈ mappings, mapping.id < serial
  mounted : ∀ mount ∈ mounts, mount.id < serial

namespace Guest

variable {Volume : Type} (guest : Guest Volume)

/-- `File::create`. -/
def createFile (path : Text) : Guest Volume :=
  { guest with
    files := ⟨guest.serial, path, []⟩ :: guest.files.filter fun file => file.path ≠ path
    serial := guest.serial + 1
    created := List.forall_mem_cons.mpr ⟨Nat.lt_succ_self _,
      fun file listed => Nat.lt_succ_of_lt (guest.created file (List.mem_of_mem_filter listed))⟩
    opened := fun mapping listed => Nat.lt_succ_of_lt (guest.opened mapping listed)
    mounted := fun mount listed => Nat.lt_succ_of_lt (guest.mounted mount listed) }

def appendFile (path : Text) (bytes : List UInt8) : Guest Volume :=
  { guest with
    files :=
      guest.files.map fun file => if file.path = path then { file with content := file.content ++ bytes } else file
    created := by
      intro file listed
      obtain ⟨before, there, rfl⟩ := List.mem_map.mp listed
      split <;> exact guest.created before there }

/-- Without the files for which this holds. -/
def removeFiles (gone : KeyFile → Bool) : Guest Volume :=
  { guest with
    files := guest.files.filter fun file => !gone file
    created := fun file listed => guest.created file (List.mem_of_mem_filter listed) }

def addMapping (name device : Text) : Guest Volume :=
  { guest with
    mappings := ⟨guest.serial, name, device⟩ :: guest.mappings
    serial := guest.serial + 1
    created := fun file listed => Nat.lt_succ_of_lt (guest.created file listed)
    opened := List.forall_mem_cons.mpr ⟨Nat.lt_succ_self _,
      fun mapping listed => Nat.lt_succ_of_lt (guest.opened mapping listed)⟩
    mounted := fun mount listed => Nat.lt_succ_of_lt (guest.mounted mount listed) }

def addMount (source target : Text) : Guest Volume :=
  { guest with
    mounts := ⟨guest.serial, source, target⟩ :: guest.mounts
    serial := guest.serial + 1
    created := fun file listed => Nat.lt_succ_of_lt (guest.created file listed)
    opened := fun mapping listed => Nat.lt_succ_of_lt (guest.opened mapping listed)
    mounted := List.forall_mem_cons.mpr ⟨Nat.lt_succ_self _,
      fun mount listed => Nat.lt_succ_of_lt (guest.mounted mount listed)⟩ }

def setDisk (device : Text) (disk : Disk Volume) : Guest Volume :=
  { guest with disk := fun other => if other = device then disk else guest.disk other }

/-- With a format of the device or mapping behind it. -/
def format (what : Text) : Guest Volume := { guest with formatted := what :: guest.formatted }

def contentOf (path : Text) : List UInt8 := ((guest.files.find? fun file => file.path = path).map (·.content)).getD []

end Guest

abbrev GuestAction (Volume : Type) := Action (Guest Volume) String

/-- What becomes of a file that is written: the number of bytes before the writing fails, and what refuses the
other steps. -/
structure FileAnswer where
  create : Option String
  permissions : Option String
  cut : Option (Nat × String)
  sync : Option String

/-- What becomes of a command that is started: it may not start, it may fail, and the wait for it may. -/
structure CommandAnswer where
  spawn : Option String
  status : Option String
  wait : Option String

/-- What the script meets. -/
structure ScriptAnswer (Volume : Type) where
  commands : Option String
  /-- The name in the `uevent` file of a device number. -/
  uevent : Text → Except String Text
  mktemp : Except String Text
  isBlock : Text → Bool
  luksFormat : Option String
  /-- The inside of a device that was formatted, and what a format leaves that fails. -/
  fresh : Volume
  spoiled : Disk Volume → Disk Volume
  luksOpen : Option String
  rm : Option String
  dryRun : Except String Text
  dd : Text → Option String
  zeroed : Text → Volume → Volume
  mkfs : Option String
  made : Volume → Volume
  isDir : Text → Bool
  mkdir : Option String
  mount : Option String

/-- What a mount meets. -/
structure MountAnswer (Volume : Type) where
  unsealSecret : Text → Except String (List UInt8)
  getSecret : Text → Except String (List UInt8)
  random : Text
  randomKey : List UInt8
  keyFile : FileAnswer
  spawn : Option String
  wait : Option String
  script : ScriptAnswer Volume
  tempdir : Except String Text
  removeTempdir : Bool
  ossfsPasswd : FileAnswer
  randomDir : Except String Text
  ossfs : CommandAnswer
  gocryptfsPasswd : FileAnswer
  gocryptfs : CommandAnswer

section Steps

variable {Volume : Type}

/-- A call that changes nothing here. -/
def attempt (refused : Option String) : GuestAction Volume Unit := Action.step refused id

/-- A command that has its effect also where it fails. -/
def command (failed : Option String) (effect : Guest Volume → Guest Volume) : GuestAction Volume Unit := fun guest =>
  match failed with
  | none => (.ok (), effect guest)
  | some error => (.error error, effect guest)

/-- `write_all`. -/
def writeAll (path : Text) (bytes : List UInt8) (cut : Option (Nat × String)) : GuestAction Volume Unit := fun guest =>
  match cut with
  | none => (.ok (), guest.appendFile path bytes)
  | some (count, error) => (.error error, guest.appendFile path (bytes.take count))

end Steps

section Script

variable {Volume : Type} (answer : ScriptAnswer Volume)

/-- `${n:-default}`. -/
def argument (args : List Text) (n : Nat) (default : Text) : Text :=
  match args[n]? with
  | some value => if value = [] then default else value
  | none => default

def mapperPath (name : Text) : Text := "/dev/mapper/".toList ++ name

/-- The text behind the first place of a pattern. -/
def behind (pattern : Text) : Text → Option Text
  | [] => if pattern = [] then some [] else none
  | c :: text => if pattern.isPrefixOf (c :: text) then some ((c :: text).drop pattern.length) else behind pattern text

/-- `grep -Eo '[0-9]{4,}'`: the runs of at least four digits. -/
def longNumbers (text : Text) : List Text :=
  (text.splitOnP fun c => !c.isDigit).filter fun digits => decide (4 ≤ digits.length)

/-- `sort -n`. -/
def sortNumbers (numbers : List Text) : List Text :=
  numbers.insertionSort fun one other => Nat.ofDigitChars 10 one 0 ≤ Nat.ofDigitChars 10 other 0

/-- The blocks that a dry run lists, after block 0; without any, `grep` ends the script. -/
def blockNums (output : Text) : Except String (List Text) :=
  match behind "Superblock backups stored on blocks:".toList output with
  | none => .error "Failed"
  | some rest =>
    match longNumbers rest with
    | [] => .error "Failed"
    | numbers => .ok (['0'] :: sortNumbers numbers)

/-- `cryptsetup luksFormat`. -/
def luksFormat (devicePath keyPath dataIntegrity : Text) : GuestAction Volume Unit := do
  let key ← Action.look fun guest : Guest Volume => guest.contentOf keyPath
  command answer.luksFormat fun guest =>
    (guest.setDisk devicePath
      (if answer.luksFormat = none then .luks key (dataIntegrity ≠ "false".toList) answer.fresh
        else answer.spoiled (guest.disk devicePath))).format devicePath

/-- The device opens with this key. -/
def opens (guest : Guest Volume) (devicePath keyPath : Text) : Bool :=
  match guest.disk devicePath with
  | .plain => false
  | .luks key _ _ => key = guest.contentOf keyPath

/-- `cryptsetup luksOpen`. -/
def luksOpen (devicePath keyPath name : Text) : GuestAction Volume Unit :=
  Action.stepIf (fun guest => if opens guest devicePath keyPath then answer.luksOpen else some "No usable keyslot")
    (·.addMapping name devicePath)

/-- `dd`, over one page of the mapping. -/
def dd (devicePath name block : Text) : GuestAction Volume Unit :=
  command (answer.dd block) fun guest =>
    (guest.setDisk devicePath ((guest.disk devicePath).change (answer.zeroed block))).format (mapperPath name)

def clearPages (devicePath name : Text) : List Text → GuestAction Volume Unit
  | [] => pure ()
  | block :: blocks => do
    dd answer devicePath name block
    clearPages devicePath name blocks

/-- `mkfs.ext4`, not as a dry run. -/
def mkfs (devicePath name : Text) : GuestAction Volume Unit :=
  command answer.mkfs fun guest =>
    (guest.setDisk devicePath ((guest.disk devicePath).change answer.made)).format (mapperPath name)

/-- The file system is made, over pages that were cleared where the device checks their integrity. -/
def makeFilesystem (devicePath name dataIntegrity : Text) : GuestAction Volume Unit :=
  if dataIntegrity = "false".toList then mkfs answer devicePath name
  else do
    let output ← Action.ofExcept answer.dryRun
    let blocks ← Action.ofExcept (blockNums output)
    clearPages answer devicePath name blocks
    mkfs answer devicePath name

def mountMapping (name mountPoint : Text) : GuestAction Volume Unit := do
  attempt (if answer.isDir mountPoint then none else answer.mkdir)
  Action.step answer.mount (·.addMount (mapperPath name) mountPoint)

/-- The device is opened, and formatted before if it is not encrypted yet. -/
def openDevice (devicePath name isEncrypted keyPath dataIntegrity : Text) : GuestAction Volume Unit := do
  if isEncrypted = "false".toList then luksFormat answer devicePath keyPath dataIntegrity else pure ()
  luksOpen answer devicePath keyPath name

/-- The key file is removed, and what was opened is formatted and mounted. -/
def finishDevice (devicePath name mountPoint keyPath dataIntegrity : Text) : GuestAction Volume Unit := do
  Action.step answer.rm (·.removeFiles fun file => file.path = keyPath)
  makeFilesystem answer devicePath name dataIntegrity
  mountMapping answer name mountPoint

/-- The path of the device, and a name for it once it is open. -/
def findDevice (deviceNum : Text) : GuestAction Volume (Text × Text) := do
  attempt answer.commands
  attempt (if deviceNum = [] then some "invalid arguments, at least one param for device num" else none)
  let deviceName ← Action.ofExcept (answer.uevent deviceNum)
  let name ← Action.ofExcept answer.mktemp
  let devicePath := "/dev/".toList ++ deviceName
  attempt (if deviceName ≠ [] ∧ answer.isBlock devicePath then none else some "Invalid device")
  pure (devicePath, name)

/-- `luks-encrypt-storage`, with its positional arguments. -/
def luksEncryptStorage (args : List Text) : GuestAction Volume Unit := do
  let isEncrypted := argument args 1 "false".toList
  let mountPoint := argument args 2 "/tmp/target_path".toList
  let keyPath := argument args 3 "/run/encrypt_storage.key".toList
  let dataIntegrity := argument args 4 "true".toList
  let (devicePath, name) ← findDevice answer (argument args 0 [])
  openDevice answer devicePath name isEncrypted keyPath dataIntegrity
  finishDevice answer devicePath name mountPoint keyPath dataIntegrity

end Script
section BlockDevice

variable {Volume : Type} (answer : MountAnswer Volume)

/-- `BlockDeviceParameters`, of which LUKS is the only encryption type. -/
structure BlockDeviceParameters where
  deviceId : Text
  encryptionKey : Option Text
  dataIntegrity : Text

/-- The options of a mount. -/
abbrev Options := Text → Option Text

def required (options : Options) (field : String) : Except String Text :=
  match options field.toList with
  | some value => .ok value
  | none => .error s!"missing field {field}"

/-- The parameters in the options. -/
def blockDeviceParameters (options : Options) : Except String BlockDeviceParameters := do
  let deviceId ← required options "deviceId"
  let encryptType ← required options "encryptType"
  let dataIntegrity ← required options "dataIntegrity"
  if encryptType = "LUKS".toList then pure ⟨deviceId, options "encryptKey".toList, dataIntegrity⟩
  else throw s!"unknown variant {String.ofList encryptType}, expected LUKS"

/-- `get_plaintext_key`. -/
def getPlaintextKey (resource : Text) : Except String (List UInt8) :=
  if "sealed.".toList.isPrefixOf resource then answer.unsealSecret resource
  else if "kbs://".toList.isPrefixOf resource then answer.getSecret resource
  else .error "unknown resource scheme"

/-- The key that goes to the key file. -/
def plainKey (encryptKey : Option Text) : Except String (List UInt8) :=
  match encryptKey with
  | some resource => getPlaintextKey answer resource
  | none => .ok answer.randomKey

def storageKeyPath : Text := "/tmp/encrypted_storage_key_".toList ++ answer.random

/-- `create_storage_key_file`. -/
def createStorageKeyFile (encryptKey : Option Text) : GuestAction Volume Unit := do
  Action.step answer.keyFile.create (·.createFile (storageKeyPath answer))
  let key ← Action.ofExcept (plainKey answer encryptKey)
  writeAll (storageKeyPath answer) key answer.keyFile.cut
  attempt answer.keyFile.sync

/-- The flag for the script: a device with a key is encrypted already. -/
def isEncrypted (parameters : BlockDeviceParameters) : Text :=
  if parameters.encryptionKey.isSome then "true".toList else "false".toList

/-- The arguments of the script. -/
def scriptArgs (parameters : BlockDeviceParameters) (mountPoint : Text) : List Text :=
  [parameters.deviceId, isEncrypted parameters, mountPoint, storageKeyPath answer, parameters.dataIntegrity]

/-- The exit status of the script. -/
def runScript (args : List Text) : GuestAction Volume Bool := fun guest =>
  match luksEncryptStorage answer.script args guest with
  | (.ok _, after) => (.ok true, after)
  | (.error _, after) => (.ok false, after)

/-- `LuksInterpreter::secure_device_mount`. -/
def secureDeviceMount (parameters : BlockDeviceParameters) (mountPoint : Text) : GuestAction Volume Unit := do
  createStorageKeyFile answer parameters.encryptionKey
  attempt answer.spawn
  let success ← runScript answer (scriptArgs answer parameters mountPoint)
  attempt answer.wait
  attempt (if success then none else some "BlockDevice mount failed")

/-- `BlockDevice::real_mount`. -/
def blockDeviceMount (options : Options) (mountPoint : Text) : GuestAction Volume Unit := do
  let parameters ← Action.ofExcept (blockDeviceParameters options)
  secureDeviceMount answer parameters mountPoint

end BlockDevice

section Oss

variable {Volume : Type} (answer : MountAnswer Volume)

/-- `OssParameters`, less what no step reads. -/
structure OssParameters where
  akId : Text
  akSecret : Text
  bucket : Text
  encrypted : Text
  encPasswd : Text

/-- The parameters in the options, some of which have a default. -/
def ossParameters (options : Options) : Except String OssParameters := do
  let akId ← required options "akId"
  let akSecret ← required options "akSecret"
  let bucket ← required options "bucket"
  let _ ← required options "otherOpts"
  let _ ← required options "path"
  let _ ← required options "readonly"
  let _ ← required options "targetPath"
  let _ ← required options "url"
  let _ ← required options "volumeId"
  pure ⟨akId, akSecret, bucket, (options "encrypted".toList).getD [], (options "encPasswd".toList).getD []⟩

/-- `get_plaintext_secret`. -/
def getPlaintextSecret (secret : Text) : Except String Text :=
  if "sealed.".toList.isPrefixOf secret then do
    let unsealed ← answer.unsealSecret secret
    match fromUtf8 unsealed with
    | some text => pure text
    | none => throw "convert to String failed"
  else .ok secret

/-- What is written to a password file. -/
def writePasswd (path : Text) (content : List UInt8) (file : FileAnswer) : GuestAction Volume Unit := do
  writeAll path content file.cut
  attempt file.sync

/-- The password file of ossfs, which is for its owner only. -/
def createOssfsPasswd (path : Text) (content : List UInt8) (file : FileAnswer) : GuestAction Volume Unit := do
  Action.step file.create (·.createFile path)
  attempt file.permissions
  writePasswd path content file

/-- The password file of gocryptfs. -/
def createGocryptfsPasswd (path : Text) (content : List UInt8) (file : FileAnswer) : GuestAction Volume Unit := do
  Action.step file.create (·.createFile path)
  writePasswd path content file

/-- A helper that mounts, if it exits with success. -/
def runHelper (helper : CommandAnswer) (source target : Text) (failed : String) : GuestAction Volume Unit := do
  attempt helper.spawn
  (fun guest => match helper.status with
    | none => (.ok (), guest.addMount source target)
    | some _ => (.ok (), guest) : GuestAction Volume Unit)
  attempt helper.wait
  attempt (helper.status.map fun _ => failed)

def ossfsPasswdPath (tempdir : Text) : Text := tempdir ++ "/ossfs_passwd".toList

def gocryptfsPasswdPath (tempdir : Text) : Text := tempdir ++ "/gocryptfs_passwd".toList

/-- What `ossfs` gets to see of the credentials. -/
def ossfsPasswd (bucket akId akSecret : Text) : List UInt8 := utf8 (bucket ++ ':' :: akId ++ ':' :: akSecret)

/-- gocryptfs is mounted over the encrypted bucket. -/
def mountGocryptfs (parameters : OssParameters) (tempdir gocryptfsDir mountPoint : Text) : GuestAction Volume Unit := do
  let plainPasswd ← Action.ofExcept (getPlaintextSecret answer parameters.encPasswd)
  createGocryptfsPasswd (gocryptfsPasswdPath tempdir) (utf8 plainPasswd) answer.gocryptfsPasswd
  runHelper answer.gocryptfs gocryptfsDir mountPoint "Gocryptfs mount failed"

/-- The bucket is mounted at the mount point, or, where it is encrypted, on a directory of its own. -/
def mountBucket (parameters : OssParameters) (tempdir mountPoint : Text) : GuestAction Volume Unit :=
  if parameters.encrypted = "gocryptfs".toList then do
    let gocryptfsDir ← Action.ofExcept answer.randomDir
    runHelper answer.ossfs "ossfs".toList gocryptfsDir "Ossfs mount failed"
    mountGocryptfs answer parameters tempdir gocryptfsDir mountPoint
  else runHelper answer.ossfs "ossfs".toList mountPoint "Ossfs mount failed"

/-- What is done while the temporary directory is there. -/
def mountWith (parameters : OssParameters) (plainAkId plainAkSecret tempdir mountPoint : Text) :
    GuestAction Volume Unit := do
  createOssfsPasswd (ossfsPasswdPath tempdir) (ossfsPasswd parameters.bucket plainAkId plainAkSecret) answer.ossfsPasswd
  mountBucket answer parameters tempdir mountPoint

/-- The drop of a `TempDir`, which does not tell of a failure. -/
def dropTempdir (tempdir : Text) (guest : Guest Volume) : Guest Volume :=
  if answer.removeTempdir then guest.removeFiles fun file => (tempdir ++ ['/']).isPrefixOf file.path else guest

/-- A temporary directory is dropped in the end, whatever came before. -/
def withTempdir (tempdir : Text) (action : GuestAction Volume Unit) : GuestAction Volume Unit := fun guest =>
  ((action guest).1, dropTempdir answer tempdir (action guest).2)

/-- `Oss::real_mount`. -/
def ossMount (options : Options) (mountPoint : Text) : GuestAction Volume Unit := do
  let parameters ← Action.ofExcept (ossParameters options)
  let plainAkId ← Action.ofExcept (getPlaintextSecret answer parameters.akId)
  let plainAkSecret ← Action.ofExcept (getPlaintextSecret answer parameters.akSecret)
  let tempdir ← Action.ofExcept answer.tempdir
  withTempdir answer tempdir (mountWith answer parameters plainAkId plainAkSecret tempdir mountPoint)

end Oss

structure Storage where
  volumeType : Text
  options : Options
  mountPoint : Text

inductive VolumeType where
  | aliOss
  | blockDevice

/-- `Volume::from_str`, with the feature for Alibaba Cloud. -/
def volumeFromStr (text : Text) : Except String VolumeType :=
  if text = "alibaba-cloud-oss".toList then .ok .aliOss
  else if text = "BlockDevice".toList then .ok .blockDevice
  else .error "Matching variant not found"

/-- `Storage::mount`. -/
def Storage.mount {Volume : Type} (storage : Storage) (answer : MountAnswer Volume) : GuestAction Volume Text := do
  match ← Action.ofExcept (volumeFromStr storage.volumeType) with
  | .aliOss => ossMount answer storage.options storage.mountPoint
  | .blockDevice => blockDeviceMount answer storage.options storage.mountPoint
  pure storage.mountPoint

end GuestComponents.Hub.SecureMount
