import GuestComponents.Hub.SecureMount

/-! What a secure mount leaves that fails. With LUKS the script removes the key file once the device is
open, so that from the first byte of the key on nothing may fail; with OSS the temporary directory takes the
password files along, and nothing may fail once ossfs has mounted the bucket. -/
namespace GuestComponents.Hub.SecureMount
open Lib Lib.Text

section Property

variable {Volume α : Type}

/-- No file of this call holds anything of a key or a password. -/
def KeysGone (before after : Guest Volume) : Prop :=
  ∀ file ∈ after.files, before.serial ≤ file.id → file.content = []

/-- Of this call no key file, no mapping and no mount is left. -/
structure NothingLeft (before after : Guest Volume) : Prop where
  keys : KeysGone before after
  mappings : ∀ mapping ∈ after.mappings, mapping.id < before.serial
  mounts : ∀ mount ∈ after.mounts, mount.id < before.serial

structure Tidy (before : Guest Volume) (outcome : Except String α × Guest Volume) : Prop where
  failure : (∃ error, outcome.1 = .error error) → NothingLeft before outcome.2
  success : (∃ value, outcome.1 = .ok value) → KeysGone before outcome.2

end Property

section Conditions

variable {Volume : Type}

/-- What of a key or password gets to its file. -/
def written (file : FileAnswer) (bytes : List UInt8) : List UInt8 :=
  match file.cut with
  | none => bytes
  | some (count, _) => bytes.take count

/-- The script opens the device with the key. -/
def ScriptOpens (answer : ScriptAnswer Volume) (disk : Text → Disk Volume) (parameters : BlockDeviceParameters)
    (key : List UInt8) : Prop :=
  answer.commands = none ∧ parameters.deviceId ≠ [] ∧ ∃ deviceName,
    answer.uevent parameters.deviceId = .ok deviceName ∧
    (∃ name, answer.mktemp = .ok name) ∧ deviceName ≠ [] ∧
    answer.isBlock ("/dev/".toList ++ deviceName) = true ∧
    (parameters.encryptionKey = none → answer.luksFormat = none) ∧
    (parameters.encryptionKey ≠ none → ∃ integrity inner,
      disk ("/dev/".toList ++ deviceName) = .luks key integrity inner) ∧
    answer.luksOpen = none

/-- The file system can be made. -/
def FilesystemMade (answer : ScriptAnswer Volume) (dataIntegrity : Text) : Prop :=
  (dataIntegrity ≠ "false".toList → ∃ output, answer.dryRun = .ok output ∧
    ∃ blocks, blockNums output = .ok blocks ∧ ∀ block ∈ blocks, answer.dd block = none) ∧ answer.mkfs = none

/-- After the device is open, the script comes to its end. -/
def ScriptFinishes (answer : ScriptAnswer Volume) (parameters : BlockDeviceParameters) (mountPoint : Text) : Prop :=
  answer.rm = none ∧ FilesystemMade answer (argument [parameters.dataIntegrity] 0 "true".toList) ∧
    (answer.isDir (argument [mountPoint] 0 "/tmp/target_path".toList) = false → answer.mkdir = none) ∧
    answer.mount = none

variable (answer : MountAnswer Volume)

/-- The device is opened. -/
def DeviceOpens (disk : Text → Disk Volume) (parameters : BlockDeviceParameters) (key : List UInt8) : Prop :=
  answer.keyFile.cut = none ∧ answer.keyFile.sync = none ∧ answer.spawn = none ∧
    ScriptOpens answer.script disk parameters key

/-- With a byte of the key in its file, or with the device open, nothing fails any more. -/
def BlockDeviceTidy (disk : Text → Disk Volume) (parameters : BlockDeviceParameters) (mountPoint : Text) : Prop :=
  answer.keyFile.create = none → ∀ key, plainKey answer parameters.encryptionKey = .ok key →
    written answer.keyFile key ≠ [] ∨ DeviceOpens answer disk parameters key →
      DeviceOpens answer disk parameters key ∧ ScriptFinishes answer.script parameters mountPoint ∧
      answer.wait = none

/-- The password file of ossfs is written. -/
def OssfsReady : Prop := answer.ossfsPasswd.create = none ∧ answer.ossfsPasswd.permissions = none ∧
  answer.ossfsPasswd.cut = none ∧ answer.ossfsPasswd.sync = none

/-- gocryptfs is mounted over the bucket. -/
def GocryptfsMounts (parameters : OssParameters) : Prop :=
  ∃ password, getPlaintextSecret answer parameters.encPasswd = .ok password ∧
    answer.gocryptfsPasswd.create = none ∧ answer.gocryptfsPasswd.cut = none ∧ answer.gocryptfsPasswd.sync = none ∧
    answer.gocryptfs.spawn = none ∧ answer.gocryptfs.wait = none ∧ answer.gocryptfs.status = none

/-- The temporary directory goes, or nothing was written in it; and with the bucket mounted nothing fails any more. -/
def OssTidy (parameters : OssParameters) : Prop :=
  (∃ akId, getPlaintextSecret answer parameters.akId = .ok akId) →
    (∃ akSecret, getPlaintextSecret answer parameters.akSecret = .ok akSecret) →
    (∃ tempdir, answer.tempdir = .ok tempdir) →
    (answer.removeTempdir = true ∨ (answer.ossfsPasswd.create = none → answer.ossfsPasswd.permissions = none →
      ∃ count error, answer.ossfsPasswd.cut = some (count, error) ∧ count = 0)) ∧
    (OssfsReady answer → (parameters.encrypted = "gocryptfs".toList → ∃ dir, answer.randomDir = .ok dir) →
      answer.ossfs.spawn = none → answer.ossfs.status = none →
        answer.ossfs.wait = none ∧ (parameters.encrypted = "gocryptfs".toList → GocryptfsMounts answer parameters))

/-- What is asked of the answers, for the volume of the storage. -/
def StorageTidy (storage : Storage) (disk : Text → Disk Volume) : Prop :=
  match volumeFromStr storage.volumeType with
  | .error _ => True
  | .ok .aliOss => ∀ parameters, ossParameters storage.options = .ok parameters → OssTidy answer parameters
  | .ok .blockDevice => ∀ parameters, blockDeviceParameters storage.options = .ok parameters →
      BlockDeviceTidy answer disk parameters storage.mountPoint

end Conditions

section Script

variable {Volume : Type} {answer : ScriptAnswer Volume} {guest after : Guest Volume} {devicePath name keyPath : Text}

/-- Files, mappings and mounts are the same. -/
structure SameHoldings (before after : Guest Volume) : Prop where
  files : after.files = before.files
  mappings : after.mappings = before.mappings
  mounts : after.mounts = before.mounts
  serial : after.serial = before.serial

theorem SameHoldings.refl (guest : Guest Volume) : SameHoldings guest guest := ⟨rfl, rfl, rfl, rfl⟩

theorem SameHoldings.trans (one two three : Guest Volume) (first : SameHoldings one two)
    (second : SameHoldings two three) :
    SameHoldings one three :=
  ⟨second.files.trans first.files, second.mappings.trans first.mappings, second.mounts.trans first.mounts,
    second.serial.trans first.serial⟩

theorem SameHoldings.contentOf (same : SameHoldings guest after) (path : Text) :
    after.contentOf path = guest.contentOf path := by
  rw [Guest.contentOf, same.files, Guest.contentOf]

theorem decides_command (failed : Option String) {effect : Guest Volume → Guest Volume}
    (same : ∀ guest, SameHoldings guest (effect guest)) :
    Action.Decides SameHoldings (failed = none) (command failed effect) := by
  intro guest
  cases failed with
  | none => exact ⟨same guest, fun _ => rfl, fun _ => ⟨(), rfl⟩⟩
  | some error =>
    refine ⟨same guest, ?_, nofun⟩
    rintro ⟨_, impossible⟩
    cases impossible

theorem decides_clearPages (answer : ScriptAnswer Volume) (devicePath name : Text) (blocks : List Text) :
    Action.Decides SameHoldings (∀ block ∈ blocks, answer.dd block = none)
      (clearPages answer devicePath name blocks) := by
  induction blocks with
  | nil => exact (Action.decides_pure SameHoldings.refl ()).congr (by simp)
  | cons block blocks ih =>
    refine Action.Decides.congr (Action.Decides.bind SameHoldings.trans ?_ fun _ => ih) List.forall_mem_cons.symm
    exact decides_command _ fun _ => ⟨rfl, rfl, rfl, rfl⟩

theorem decides_makeFilesystem (answer : ScriptAnswer Volume) (devicePath name dataIntegrity : Text) :
    Action.Decides SameHoldings (FilesystemMade answer dataIntegrity)
      (makeFilesystem answer devicePath name dataIntegrity) := by
  have made : Action.Decides SameHoldings (answer.mkfs = none) (mkfs answer devicePath name) :=
    decides_command _ fun _ => ⟨rfl, rfl, rfl, rfl⟩
  rw [makeFilesystem]
  split
  · rename_i without
    exact made.congr (by simp [FilesystemMade, without])
  · rename_i integrity
    refine Action.Decides.congr (Action.decides_ofExcept_bind SameHoldings.refl fun output _ =>
      Action.decides_ofExcept_bind SameHoldings.refl fun blocks _ =>
        Action.Decides.bind SameHoldings.trans (decides_clearPages answer devicePath name blocks) fun _ => made) ?_
    constructor
    · rintro ⟨output, ran, blocks, listed, cleared, made⟩
      exact ⟨fun _ => ⟨output, ran, blocks, listed, cleared⟩, made⟩
    · rintro ⟨cleared, made⟩
      obtain ⟨output, ran, blocks, listed, cleared⟩ := cleared integrity
      exact ⟨output, ran, blocks, listed, cleared, made⟩

/-- The device opens with the key in the file, after a format where it is not encrypted. -/
def DeviceOpened (answer : ScriptAnswer Volume) (disk : Text → Disk Volume) (devicePath isEncrypted : Text)
    (key : List UInt8) : Prop :=
  (isEncrypted = "false".toList → answer.luksFormat = none) ∧
    (isEncrypted ≠ "false".toList → ∃ integrity inner, disk devicePath = .luks key integrity inner) ∧
    answer.luksOpen = none

theorem luksOpen_ends (answer : ScriptAnswer Volume) (devicePath keyPath name : Text) (guest : Guest Volume) :
    ((∃ integrity inner, guest.disk devicePath = .luks (guest.contentOf keyPath) integrity inner) →
        answer.luksOpen = none →
        luksOpen answer devicePath keyPath name guest = (.ok (), guest.addMapping name devicePath)) ∧
      (¬ ((∃ integrity inner, guest.disk devicePath = .luks (guest.contentOf keyPath) integrity inner) ∧
        answer.luksOpen = none) → ∃ error,
          luksOpen answer devicePath keyPath name guest = (.error error, guest)) := by
  have opens_iff : opens guest devicePath keyPath = true ↔
      ∃ integrity inner, guest.disk devicePath = .luks (guest.contentOf keyPath) integrity inner := by
    rw [opens]
    cases guest.disk devicePath with
    | plain => simp
    | luks key integrity inner => simp
  rw [← opens_iff]
  constructor
  · intro fits allowed
    apply Action.step_eq_ok.mpr
    simp [fits, allowed]
  · intro stays
    apply Action.step_refused
    dsimp only
    split
    · rename_i fits
      exact fun allowed => stays ⟨fits, allowed⟩
    · nofun

theorem luksFormat_ends (answer : ScriptAnswer Volume) (devicePath keyPath dataIntegrity : Text) (guest : Guest Volume) :
    ∃ after, SameHoldings guest after ∧
      (answer.luksFormat = none → luksFormat answer devicePath keyPath dataIntegrity guest = (.ok (), after) ∧
        ∃ integrity inner, after.disk devicePath = .luks (guest.contentOf keyPath) integrity inner) ∧
      (answer.luksFormat ≠ none →
        ∃ error, luksFormat answer devicePath keyPath dataIntegrity guest = (.error error, after)) := by
  cases formats : answer.luksFormat with
  | some error =>
    refine ⟨(guest.setDisk devicePath (answer.spoiled (guest.disk devicePath))).format devicePath,
      ⟨rfl, rfl, rfl, rfl⟩,
      nofun, fun _ => ⟨error, ?_⟩⟩
    rw [luksFormat, formats]
    rfl
  | none =>
    refine ⟨(guest.setDisk devicePath (.luks (guest.contentOf keyPath) (dataIntegrity ≠ "false".toList)
      answer.fresh)).format devicePath, ⟨rfl, rfl, rfl, rfl⟩, fun _ => ⟨?_, ?_⟩, fun refused =>
        absurd rfl refused⟩
    · rw [luksFormat, formats]
      rfl
    · exact ⟨_, _, if_pos rfl⟩

theorem openDevice_ends (answer : ScriptAnswer Volume) (devicePath name isEncrypted keyPath dataIntegrity : Text)
    (guest : Guest Volume) : ∃ after, SameHoldings guest after ∧
      (DeviceOpened answer guest.disk devicePath isEncrypted (guest.contentOf keyPath) →
        openDevice answer devicePath name isEncrypted keyPath dataIntegrity guest =
          (.ok (), after.addMapping name devicePath)) ∧
      (¬ DeviceOpened answer guest.disk devicePath isEncrypted (guest.contentOf keyPath) →
        ∃ error,
          openDevice answer devicePath name isEncrypted keyPath dataIntegrity guest = (.error error, after)) := by
  by_cases fresh : isEncrypted = "false".toList
  · obtain ⟨after, same, formatted, failed⟩ := luksFormat_ends answer devicePath keyPath dataIntegrity guest
    refine ⟨after, same, ?_⟩
    rw [openDevice, if_pos fresh]
    by_cases formats : answer.luksFormat = none
    · obtain ⟨ran, key⟩ := formatted formats
      obtain ⟨fits, stays⟩ := luksOpen_ends answer devicePath keyPath name after
      rw [same.contentOf] at fits stays
      rw [Action.bind_ok ran]
      refine ⟨fun opened => fits key opened.2.2, fun closed => stays fun both => closed ?_⟩
      exact ⟨fun _ => formats, fun differs => absurd fresh differs, both.2⟩
    · obtain ⟨error, ran⟩ := failed formats
      rw [Action.bind_error ran]
      exact ⟨fun opened => absurd (opened.1 fresh) formats, fun _ => ⟨error, rfl⟩⟩
  · obtain ⟨fits, stays⟩ := luksOpen_ends answer devicePath keyPath name guest
    have shape : openDevice answer devicePath name isEncrypted keyPath dataIntegrity guest =
        luksOpen answer devicePath keyPath name guest := by
      rw [openDevice, if_neg fresh]
    rw [shape]
    refine ⟨guest, SameHoldings.refl guest, fun opened => fits (opened.2.1 fresh) opened.2.2, fun closed => ?_⟩
    exact stays fun both => closed ⟨fun same => absurd same fresh, fun _ => both.1, both.2⟩

/-- Files and mappings are the same. -/
def SameFiles (before after : Guest Volume) : Prop := after.files = before.files ∧ after.mappings = before.mappings

theorem SameFiles.refl (guest : Guest Volume) : SameFiles guest guest := ⟨rfl, rfl⟩

theorem SameFiles.trans (one two three : Guest Volume) (first : SameFiles one two) (second : SameFiles two three) :
    SameFiles one three := ⟨second.1.trans first.1, second.2.trans first.2⟩

theorem decides_mountMapping (answer : ScriptAnswer Volume) (name mountPoint : Text) :
    Action.Decides SameFiles ((answer.isDir mountPoint = false → answer.mkdir = none) ∧ answer.mount = none)
      (mountMapping answer name mountPoint) := by
  have dir : Action.Decides SameFiles (answer.isDir mountPoint = false → answer.mkdir = none)
      (attempt (if answer.isDir mountPoint then none else answer.mkdir) : GuestAction Volume Unit) := by
    refine (Action.decides_step SameFiles.refl SameFiles.refl).congr ?_
    cases answer.isDir mountPoint <;> simp
  exact Action.Decides.bind SameFiles.trans dir fun _ => Action.decides_step SameFiles.refl fun _ => ⟨rfl, rfl⟩

/-- The key file is removed first, and the mapping stays. -/
theorem finishDevice_ends (answer : ScriptAnswer Volume) (devicePath name mountPoint keyPath dataIntegrity : Text)
    (guest : Guest Volume) :
    let finishes := answer.rm = none ∧ FilesystemMade answer dataIntegrity ∧
      (answer.isDir mountPoint = false → answer.mkdir = none) ∧ answer.mount = none
    (finishes → ∃ after,
      finishDevice answer devicePath name mountPoint keyPath dataIntegrity guest = (.ok (), after) ∧
      (after.files = guest.files.filter fun file => !decide (file.path = keyPath)) ∧
      after.mappings = guest.mappings) ∧
    (¬ finishes → ∃ error after, finishDevice answer devicePath name mountPoint keyPath dataIntegrity guest =
      (.error error, after) ∧ after.mappings = guest.mappings) := by
  have made : Action.Decides SameFiles (FilesystemMade answer dataIntegrity)
      (makeFilesystem answer devicePath name dataIntegrity) := by
    intro guest
    obtain ⟨same, success⟩ := decides_makeFilesystem answer devicePath name dataIntegrity guest
    exact ⟨⟨same.files, same.mappings⟩, success⟩
  have rest := Action.Decides.bind SameFiles.trans made fun _ => decides_mountMapping answer name mountPoint
  dsimp only
  constructor
  · rintro ⟨removed, finishes⟩
    obtain ⟨after, ran, same⟩ :=
      @Action.Decides.ok _ _ _ _ (guest.removeFiles fun file => file.path = keyPath) _ rest finishes
    refine ⟨after, ?_, same⟩
    rw [finishDevice, removed]
    exact ran
  · intro stops
    cases removed : answer.rm with
    | some error =>
      refine ⟨error, guest, ?_, rfl⟩
      rw [finishDevice, removed]
      rfl
    | none =>
      obtain ⟨error, after, ran, same⟩ :=
        @Action.Decides.error _ _ _ _ _ _ (guest.removeFiles fun file => file.path = keyPath) rest
        fun finishes => stops ⟨removed, finishes⟩
      refine ⟨error, after, ?_, same.2⟩
      rw [finishDevice, removed]
      exact ran

/-- The device is there. -/
def DeviceFound (answer : ScriptAnswer Volume) (deviceNum deviceName name : Text) : Prop :=
  answer.commands = none ∧ deviceNum ≠ [] ∧ answer.uevent deviceNum = .ok deviceName ∧
  answer.mktemp = .ok name ∧
    deviceName ≠ [] ∧ answer.isBlock ("/dev/".toList ++ deviceName) = true

theorem findDevice_ends (answer : ScriptAnswer Volume) (deviceNum : Text) (guest : Guest Volume) :
    (∃ deviceName name, DeviceFound answer deviceNum deviceName name ∧
        findDevice answer deviceNum guest = (.ok ("/dev/".toList ++ deviceName, name), guest)) ∨
      ((∀ deviceName name, ¬ DeviceFound answer deviceNum deviceName name) ∧
        ∃ error, findDevice answer deviceNum guest = (.error error, guest)) := by
  cases commands : answer.commands with
  | some error =>
    refine .inr ⟨fun _ _ found => ?_, error, ?_⟩
    · rw [found.1] at commands
      cases commands
    · rw [findDevice, commands]
      rfl
  | none =>
    by_cases given : deviceNum = []
    · refine .inr ⟨fun _ _ found => found.2.1 given, "invalid arguments, at least one param for device num", ?_⟩
      rw [findDevice, commands, if_pos given]
      rfl
    · cases event : answer.uevent deviceNum with
      | error error =>
        refine .inr ⟨fun _ _ found => ?_, error, ?_⟩
        · rw [found.2.2.1] at event
          cases event
        · rw [findDevice, commands, if_neg given, event]
          rfl
      | ok deviceName =>
        cases made : answer.mktemp with
        | error error =>
          refine .inr ⟨fun _ _ found => ?_, error, ?_⟩
          · rw [found.2.2.2.1] at made
            cases made
          · rw [findDevice, commands, if_neg given, event, made]
            rfl
        | ok name =>
          have last : findDevice answer deviceNum guest =
              (attempt (if deviceName ≠ [] ∧ answer.isBlock ("/dev/".toList ++ deviceName) = true then none
                else some "Invalid device") >>= fun _ => pure ("/dev/".toList ++ deviceName, name)) guest := by
            rw [findDevice, commands, if_neg given, event, made]
            rfl
          rw [last]
          by_cases valid : deviceName ≠ [] ∧ answer.isBlock ("/dev/".toList ++ deviceName) = true
          · refine .inl ⟨deviceName, name, ⟨commands, given, event, made, valid⟩, ?_⟩
            rw [if_pos valid]
            rfl
          · refine .inr ⟨fun _ _ found => ?_, "Invalid device", ?_⟩
            · obtain ⟨_, _, event', _, valid'⟩ := found
              cases event.symm.trans event'
              exact valid valid'
            · rw [if_neg valid]
              rfl

theorem isEncrypted_eq (parameters : BlockDeviceParameters) :
    isEncrypted parameters = "false".toList ↔ parameters.encryptionKey = none := by
  rw [isEncrypted]
  cases parameters.encryptionKey with
  | none => exact iff_of_true rfl rfl
  | some resource => exact iff_of_false (by decide : "true".toList ≠ "false".toList) nofun

/-- The script with the arguments of the hub, of which only the mount point and the integrity can be empty. -/
theorem luksEncryptStorage_args (answer : ScriptAnswer Volume) (parameters : BlockDeviceParameters) (mountPoint : Text)
    (named : keyPath ≠ []) :
    luksEncryptStorage answer [parameters.deviceId, isEncrypted parameters, mountPoint, keyPath,
      parameters.dataIntegrity] =
      (findDevice answer parameters.deviceId >>= fun found =>
        openDevice answer found.1 found.2 (isEncrypted parameters) keyPath
            (argument [parameters.dataIntegrity] 0 "true".toList) >>= fun _ =>
          finishDevice answer found.1 found.2 (argument [mountPoint] 0 "/tmp/target_path".toList) keyPath
            (argument [parameters.dataIntegrity] 0 "true".toList)) := by
  have flag : argument [parameters.deviceId, isEncrypted parameters, mountPoint, keyPath, parameters.dataIntegrity] 1
      "false".toList = isEncrypted parameters := by
    rw [isEncrypted]
    cases parameters.encryptionKey <;> rfl
  have path : argument [parameters.deviceId, isEncrypted parameters, mountPoint, keyPath, parameters.dataIntegrity] 3
      "/run/encrypt_storage.key".toList = keyPath := if_neg named
  have deviceNum : argument [parameters.deviceId, isEncrypted parameters, mountPoint, keyPath,
    parameters.dataIntegrity] 0
      [] = parameters.deviceId := by
    show (if parameters.deviceId = [] then [] else parameters.deviceId) = _
    split
    · rename_i empty
      exact empty.symm
    · rfl
  rw [luksEncryptStorage, flag, path, deviceNum]
  rfl

theorem scriptOpens_iff {parameters : BlockDeviceParameters} {deviceName : Text} {disk : Text → Disk Volume}
    {key : List UInt8} (found : DeviceFound answer parameters.deviceId deviceName name) :
    ScriptOpens answer disk parameters key ↔
      DeviceOpened answer disk ("/dev/".toList ++ deviceName) (isEncrypted parameters) key := by
  obtain ⟨commands, given, event, made, valid⟩ := found
  rw [DeviceOpened, Ne, isEncrypted_eq]
  constructor
  · rintro ⟨_, _, deviceName', event', _, _, _, formats, fits, allowed⟩
    cases event.symm.trans event'
    exact ⟨formats, fits, allowed⟩
  · rintro ⟨formats, fits, allowed⟩
    exact ⟨commands, given, deviceName, event, ⟨name, made⟩, valid.1, valid.2, formats, fits, allowed⟩

theorem scriptOpens_missing {parameters : BlockDeviceParameters} {disk : Text → Disk Volume} {key : List UInt8}
    (missing : ∀ deviceName name, ¬ DeviceFound answer parameters.deviceId deviceName name) :
    ¬ ScriptOpens answer disk parameters key := by
  rintro ⟨commands, given, deviceName, event, ⟨name, made⟩, nonempty, block, _⟩
  exact missing deviceName name ⟨commands, given, event, made, nonempty, block⟩

/-- The script, as the hub calls it. -/
theorem script_ends (answer : ScriptAnswer Volume) (parameters : BlockDeviceParameters) (mountPoint : Text)
    (named : keyPath ≠ []) (guest : Guest Volume) :
    let args := [parameters.deviceId, isEncrypted parameters, mountPoint, keyPath, parameters.dataIntegrity]
    let opens := ScriptOpens answer guest.disk parameters (guest.contentOf keyPath)
    let finishes := ScriptFinishes answer parameters mountPoint
    (¬ opens → ∃ error after, luksEncryptStorage answer args guest = (.error error, after) ∧
      SameHoldings guest after) ∧
    (opens → finishes → ∃ after, luksEncryptStorage answer args guest = (.ok (), after) ∧
      (after.files = guest.files.filter fun file => !decide (file.path = keyPath)) ∧
      ∃ mapping ∈ after.mappings, guest.serial ≤ mapping.id) ∧
    (opens → ¬ finishes → ∃ error after, luksEncryptStorage answer args guest = (.error error, after) ∧
      ∃ mapping ∈ after.mappings, guest.serial ≤ mapping.id) := by
  dsimp only
  rw [luksEncryptStorage_args answer parameters mountPoint named]
  rcases findDevice_ends answer parameters.deviceId guest with
    ⟨deviceName, name, found, ran⟩ | ⟨missing, error, failed⟩
  · obtain ⟨after, same, opened, closed⟩ := openDevice_ends answer ("/dev/".toList ++ deviceName) name
      (isEncrypted parameters) keyPath (argument [parameters.dataIntegrity] 0 "true".toList) guest
    obtain ⟨done, stopped⟩ := finishDevice_ends answer ("/dev/".toList ++ deviceName) name
      (argument [mountPoint] 0 "/tmp/target_path".toList) keyPath (argument [parameters.dataIntegrity] 0 "true".toList)
      (after.addMapping name ("/dev/".toList ++ deviceName))
    rw [Action.bind_ok ran, scriptOpens_iff found]
    refine ⟨fun stays => ?_, fun opens finishes => ?_, fun opens stops => ?_⟩
    · obtain ⟨error, failed⟩ := closed stays
      exact ⟨error, after, Action.bind_error failed, same⟩
    · obtain ⟨final, finished, files, mappings⟩ := done finishes
      refine ⟨final, (Action.bind_ok (opened opens)).trans finished, files.trans ?_,
        ⟨after.serial, name, "/dev/".toList ++ deviceName⟩, ?_, same.serial.ge⟩
      · show after.files.filter _ = _
        rw [same.files]
      · rw [mappings]
        exact .head _
    · obtain ⟨error, final, failed, mappings⟩ := stopped stops
      refine ⟨error, final, (Action.bind_ok (opened opens)).trans failed,
        ⟨after.serial, name, "/dev/".toList ++ deviceName⟩, ?_, same.serial.ge⟩
      rw [mappings]
      exact .head _
  · have closed : ¬ ScriptOpens answer guest.disk parameters (guest.contentOf keyPath) := scriptOpens_missing missing
    exact ⟨fun _ => ⟨error, guest, Action.bind_error failed, SameHoldings.refl guest⟩,
      fun opens => absurd opens closed,
      fun opens => absurd opens closed⟩

end Script

section BlockDevices

variable {Volume α : Type} {answer : MountAnswer Volume} {guest before after : Guest Volume} {path : Text}
  {key bytes : List UInt8}

/-- A file with these bytes is made. -/
def withFile (guest : Guest Volume) (path : Text) (bytes : List UInt8) : Guest Volume :=
  (guest.createFile path).appendFile path bytes

theorem withFile_files (guest : Guest Volume) (path : Text) (bytes : List UInt8) :
    (withFile guest path bytes).files = ⟨guest.serial, path, bytes⟩ :: guest.files.filter fun file =>
      file.path ≠ path := by
  have others : ∀ file ∈ guest.files.filter (fun file => file.path ≠ path),
      (if file.path = path then { file with content := file.content ++ bytes } else file) = file := by
    intro file listed
    exact if_neg (of_decide_eq_true (List.mem_filter.mp listed).2)
  have mapped : (withFile guest path bytes).files =
      (⟨guest.serial, path, []⟩ :: guest.files.filter fun file => file.path ≠ path).map
        fun file => if file.path = path then { file with content := file.content ++ bytes } else file := rfl
  rw [mapped, List.map_cons, List.map_congr_left others, List.map_id', if_pos rfl, List.nil_append]

theorem contentOf_withFile (guest : Guest Volume) (path : Text) (bytes : List UInt8) :
    (withFile guest path bytes).contentOf path = bytes := by
  rw [Guest.contentOf, withFile_files, List.find?_cons_of_pos (by simp)]
  rfl

/-- Nothing is seen of the file exactly where nothing was written. -/
theorem keysGone_withFile : KeysGone guest (withFile guest path bytes) ↔ bytes = [] := by
  rw [KeysGone, withFile_files, List.forall_mem_cons]
  constructor
  · intro gone
    exact gone.1 le_rfl
  · intro none
    refine ⟨fun _ => none, fun file listed new => ?_⟩
    have old := guest.created file (List.mem_of_mem_filter listed)
    omega

theorem nothingLeft_refl (guest : Guest Volume) : NothingLeft guest guest := by
  refine ⟨fun file listed new => ?_, guest.opened, guest.mounted⟩
  have old := guest.created file listed
  omega

theorem nothingLeft_withFile (same : SameHoldings (withFile guest path bytes) after) :
    NothingLeft guest after ↔ bytes = [] := by
  have keys : KeysGone guest after ↔ bytes = [] := by
    rw [KeysGone, same.files]
    exact keysGone_withFile
  rw [← keys]
  constructor
  · exact NothingLeft.keys
  · intro gone
    refine ⟨gone, ?_, ?_⟩
    · rw [same.mappings]
      exact guest.opened
    · rw [same.mounts]
      exact guest.mounted

/-- Of a failure it is asked that nothing is left. -/
theorem tidy_error {outcome : Except String α × Guest Volume} {error : String}
    (failed : outcome = (.error error, after)) :
    Tidy guest outcome ↔ NothingLeft guest after := by
  rw [failed]
  constructor
  · intro tidy
    exact tidy.failure ⟨error, rfl⟩
  · intro nothing
    exact ⟨fun _ => nothing, nofun⟩

theorem tidy_ok {outcome : Except String α × Guest Volume} {value : α} (done : outcome = (.ok value, after)) :
    Tidy guest outcome ↔ KeysGone guest after := by
  rw [done]
  constructor
  · intro tidy
    exact tidy.success ⟨value, rfl⟩
  · intro gone
    exact ⟨nofun, fun _ => gone⟩

/-- The key file, as far as it gets. -/
theorem createStorageKeyFile_ends (answer : MountAnswer Volume) (encryptKey : Option Text) (guest : Guest Volume)
    (creates : answer.keyFile.create = none) (fetched : plainKey answer encryptKey = .ok key) :
    (answer.keyFile.cut = none ∧ answer.keyFile.sync = none → createStorageKeyFile answer encryptKey guest =
        (.ok (), withFile guest (storageKeyPath answer) key)) ∧
      (¬ (answer.keyFile.cut = none ∧ answer.keyFile.sync = none) → ∃ error,
        createStorageKeyFile answer encryptKey guest =
        (.error error, withFile guest (storageKeyPath answer) (written answer.keyFile key))) := by
  rw [createStorageKeyFile, creates, fetched, written]
  cases cut : answer.keyFile.cut with
  | some stop => exact ⟨fun both => (nomatch both.1), fun _ => ⟨stop.2, rfl⟩⟩
  | none =>
    cases synced : answer.keyFile.sync with
    | some error => exact ⟨fun both => (nomatch both.2), fun _ => ⟨error, rfl⟩⟩
    | none => exact ⟨fun _ => rfl, fun stops => absurd ⟨rfl, rfl⟩ stops⟩

theorem runScript_error {args : List Text} {error : String} {start : Guest Volume}
    (failed : luksEncryptStorage answer.script args start = (.error error, after)) :
    runScript answer args start = (.ok false, after) := by
  rw [runScript, failed]

theorem runScript_ok {args : List Text} {start : Guest Volume}
    (done : luksEncryptStorage answer.script args start = (.ok (), after)) :
    runScript answer args start = (.ok true, after) := by
  rw [runScript, done]

theorem storageKeyPath_ne_nil (answer : MountAnswer Volume) : storageKeyPath answer ≠ [] := by
  have prefixed : "/tmp/encrypted_storage_key_".toList ≠ [] := by decide
  exact List.append_ne_nil_of_left_ne_nil prefixed _

/-- What the script leaves, started with the key file. -/
theorem runScript_ends (answer : MountAnswer Volume) (parameters : BlockDeviceParameters) (mountPoint : Text)
    (guest : Guest Volume) (key : List UInt8) :
    let start := withFile guest (storageKeyPath answer) key
    let opens := ScriptOpens answer.script guest.disk parameters key
    let finishes := ScriptFinishes answer.script parameters mountPoint
    (¬ opens → ∃ after, runScript answer (scriptArgs answer parameters mountPoint) start = (.ok false, after) ∧
      SameHoldings start after) ∧
    (opens → ∃ success after,
      runScript answer (scriptArgs answer parameters mountPoint) start = (.ok success, after) ∧
      (success = true ↔ finishes) ∧ (finishes → KeysGone guest after) ∧ ¬ NothingLeft guest after) := by
  dsimp only
  have script :=
    script_ends answer.script parameters mountPoint (storageKeyPath_ne_nil answer)
      (withFile guest (storageKeyPath answer) key)
  have disk : (withFile guest (storageKeyPath answer) key).disk = guest.disk := rfl
  rw [contentOf_withFile, disk] at script
  obtain ⟨stays, finishes, breaks⟩ := script
  have mapped : ∀ after : Guest Volume,
      (∃ mapping ∈ after.mappings, (withFile guest (storageKeyPath answer) key).serial ≤ mapping.id) →
      ¬ NothingLeft guest after := by
    rintro after ⟨mapping, listed, new⟩ nothing
    have old := nothing.mappings mapping listed
    have serial : (withFile guest (storageKeyPath answer) key).serial = guest.serial + 1 := rfl
    omega
  constructor
  · intro closed
    obtain ⟨error, after, failed, same⟩ := stays closed
    exact ⟨after, runScript_error failed, same⟩
  · intro opens
    by_cases done : ScriptFinishes answer.script parameters mountPoint
    · obtain ⟨after, ran, files, mapping⟩ := finishes opens done
      refine ⟨true, after, runScript_ok ran, iff_of_true rfl done, fun _ => ?_, mapped after mapping⟩
      · intro file listed new
        rw [files, List.mem_filter, withFile_files] at listed
        rcases List.mem_cons.mp listed.1 with rfl | older
        · simp at listed
        · have old := guest.created file (List.mem_of_mem_filter older)
          omega
    · obtain ⟨error, after, failed, mapping⟩ := breaks opens done
      exact ⟨false, after, runScript_error failed, iff_of_false nofun done,
        fun yes => absurd yes done, mapped after mapping⟩

/-- What follows the key file. -/
def afterKeyFile (answer : MountAnswer Volume) (parameters : BlockDeviceParameters) (mountPoint : Text) :
    GuestAction Volume Unit := do
  attempt answer.spawn
  let success ← runScript answer (scriptArgs answer parameters mountPoint)
  attempt answer.wait
  attempt (if success then none else some "BlockDevice mount failed")

/-- The call ends as the script does, unless the wait fails. -/
theorem afterKeyFile_ends {parameters : BlockDeviceParameters} {mountPoint : Text} {start : Guest Volume}
    {success : Bool}
    (spawned : answer.spawn = none)
    (ran : runScript answer (scriptArgs answer parameters mountPoint) start = (.ok success, after)) :
    (answer.wait = none ∧ success = true → afterKeyFile answer parameters mountPoint start = (.ok (), after)) ∧
      (¬ (answer.wait = none ∧ success = true) →
        ∃ error, afterKeyFile answer parameters mountPoint start = (.error error, after)) := by
  have begins : afterKeyFile answer parameters mountPoint start =
      (attempt answer.wait >>= fun _ => attempt (if success then none else some "BlockDevice mount failed")) after := by
    rw [afterKeyFile, spawned]
    exact Action.bind_ok ran
  rw [begins]
  cases answer.wait with
  | some error => exact ⟨fun both => (nomatch both.1), fun _ => ⟨error, rfl⟩⟩
  | none =>
    cases success with
    | true => exact ⟨fun _ => rfl, fun stops => absurd ⟨rfl, rfl⟩ stops⟩
    | false => exact ⟨fun both => (nomatch both.2), fun _ => ⟨_, rfl⟩⟩

theorem afterKeyFile_tidy_iff (answer : MountAnswer Volume) (parameters : BlockDeviceParameters) (mountPoint : Text)
    (guest : Guest Volume) (key : List UInt8) :
    Tidy guest (afterKeyFile answer parameters mountPoint (withFile guest (storageKeyPath answer) key)) ↔
      (key ≠ [] ∨ (answer.spawn = none ∧ ScriptOpens answer.script guest.disk parameters key) →
        (answer.spawn = none ∧ ScriptOpens answer.script guest.disk parameters key) ∧
          ScriptFinishes answer.script parameters mountPoint ∧ answer.wait = none) := by
  obtain ⟨stays, goes⟩ := runScript_ends answer parameters mountPoint guest key
  -- Where nothing was opened, the key file alone is left.
  have closed : ∀ {error after}, ¬ (answer.spawn = none ∧ ScriptOpens answer.script guest.disk parameters key) →
      afterKeyFile answer parameters mountPoint (withFile guest (storageKeyPath answer) key) = (.error error, after) →
      SameHoldings (withFile guest (storageKeyPath answer) key) after →
      (Tidy guest (afterKeyFile answer parameters mountPoint (withFile guest (storageKeyPath answer) key)) ↔
        (key ≠ [] ∨ (answer.spawn = none ∧ ScriptOpens answer.script guest.disk parameters key) →
          (answer.spawn = none ∧ ScriptOpens answer.script guest.disk parameters key) ∧
            ScriptFinishes answer.script parameters mountPoint ∧ answer.wait = none)) := by
    intro error after unopened failed same
    rw [tidy_error failed, nothingLeft_withFile same]
    constructor
    · rintro empty (some_ | opens)
      · exact absurd empty some_
      · exact absurd opens unopened
    · intro asked
      by_contra some_
      exact unopened (asked (.inl some_)).1
  cases spawned : answer.spawn with
  | some error =>
    have failed : afterKeyFile answer parameters mountPoint (withFile guest (storageKeyPath answer) key) =
        (.error error, withFile guest (storageKeyPath answer) key) := by
      rw [afterKeyFile, spawned]
      rfl
    rw [spawned] at closed
    exact closed (fun both => nomatch both.1) failed (SameHoldings.refl _)
  | none =>
    rw [spawned] at closed
    by_cases opens : ScriptOpens answer.script guest.disk parameters key
    · obtain ⟨success, after, ran, succeeds, gone, left⟩ := goes opens
      obtain ⟨done, stopped⟩ := afterKeyFile_ends spawned ran
      by_cases fine : answer.wait = none ∧ success = true
      · have finishes := succeeds.mp fine.2
        rw [tidy_ok (done fine)]
        exact ⟨fun _ _ => ⟨⟨rfl, opens⟩, finishes, fine.1⟩, fun _ => gone finishes⟩
      · obtain ⟨error, failed⟩ := stopped fine
        rw [tidy_error failed]
        refine ⟨fun nothing => absurd nothing left, fun asked => ?_⟩
        obtain ⟨_, finishes, waited⟩ := asked (.inr ⟨rfl, opens⟩)
        exact absurd ⟨waited, succeeds.mpr finishes⟩ fine
    · obtain ⟨after, ran, same⟩ := stays opens
      obtain ⟨error, failed⟩ := (afterKeyFile_ends spawned ran).2 fun both => nomatch both.2
      exact closed (fun both => opens both.2) failed same

theorem secureDeviceMount_tidy_iff (answer : MountAnswer Volume) (parameters : BlockDeviceParameters) (mountPoint : Text)
    (guest : Guest Volume) :
    Tidy guest (secureDeviceMount answer parameters mountPoint guest) ↔
      BlockDeviceTidy answer guest.disk parameters mountPoint := by
  rw [BlockDeviceTidy]
  cases creates : answer.keyFile.create with
  | some error =>
    have failed : secureDeviceMount answer parameters mountPoint guest = (.error error, guest) := by
      rw [secureDeviceMount, createStorageKeyFile, creates]
      rfl
    rw [tidy_error failed]
    exact ⟨fun _ => nofun, fun _ => nothingLeft_refl guest⟩
  | none =>
    cases fetched : plainKey answer parameters.encryptionKey with
    | error error =>
      have failed : secureDeviceMount answer parameters mountPoint guest =
          (.error error, guest.createFile (storageKeyPath answer)) := by
        rw [secureDeviceMount, createStorageKeyFile, creates, fetched]
        rfl
      rw [tidy_error failed]
      refine ⟨fun _ _ _ => nofun, fun _ => ?_⟩
      have empty : SameHoldings (withFile guest (storageKeyPath answer) []) (guest.createFile (storageKeyPath answer)) :=
        ⟨(withFile_files guest (storageKeyPath answer) []).symm, rfl, rfl, rfl⟩
      exact (nothingLeft_withFile empty).mpr rfl
    | ok key =>
      obtain ⟨ready, stopped⟩ := createStorageKeyFile_ends answer parameters.encryptionKey guest creates fetched
      by_cases whole : answer.keyFile.cut = none ∧ answer.keyFile.sync = none
      · have full : written answer.keyFile key = key := by rw [written, whole.1]
        have begins : secureDeviceMount answer parameters mountPoint guest =
            afterKeyFile answer parameters mountPoint (withFile guest (storageKeyPath answer) key) :=
          Action.bind_ok (ready whole)
        rw [begins, afterKeyFile_tidy_iff]
        have opens_iff : DeviceOpens answer guest.disk parameters key ↔
            answer.spawn = none ∧ ScriptOpens answer.script guest.disk parameters key :=
          ⟨fun opens => opens.2.2, fun opens => ⟨whole.1, whole.2, opens⟩⟩
        constructor
        · intro tidy _ key' same
          cases same
          rw [full, opens_iff]
          exact tidy
        · intro tidy
          have asked := tidy rfl key rfl
          rw [full, opens_iff] at asked
          exact asked
      · obtain ⟨error, failed⟩ := stopped whole
        have ended : secureDeviceMount answer parameters mountPoint guest =
            (.error error, withFile guest (storageKeyPath answer) (written answer.keyFile key)) := by
          exact Action.bind_error failed
        rw [tidy_error ended, nothingLeft_withFile (SameHoldings.refl _)]
        constructor
        · intro none _ key' same
          cases same
          rintro (some_ | opens)
          · exact absurd none some_
          · exact absurd ⟨opens.1, opens.2.1⟩ whole
        · intro tidy
          by_contra some_
          have opens := (tidy rfl key rfl (.inl some_)).1
          exact whole ⟨opens.1, opens.2.1⟩

end BlockDevices

section Buckets

variable {Volume : Type} {answer : MountAnswer Volume} {guest after : Guest Volume} {tempdir : Text}

/-- The file lies in the temporary directory. -/
def InTempdir (tempdir path : Text) : Prop := (tempdir ++ ['/']).isPrefixOf path = true

/-- What the steps behind the first password file do: they add mounts, and files in the temporary directory. -/
structure Grows (tempdir : Text) (before after : Guest Volume) : Prop where
  serial : before.serial ≤ after.serial
  mappings : after.mappings = before.mappings
  mounts : ∀ mount ∈ before.mounts, mount ∈ after.mounts
  files : ∀ file ∈ after.files, InTempdir tempdir file.path ∨ ∃ old ∈ before.files,
    old.id = file.id ∧ old.path = file.path
  kept : ∀ file ∈ before.files, file.path = ossfsPasswdPath tempdir → file ∈ after.files

theorem Grows.refl (tempdir : Text) (guest : Guest Volume) : Grows tempdir guest guest :=
  ⟨le_rfl, rfl, fun _ => id, fun file listed => .inr ⟨file, listed, rfl, rfl⟩, fun _ listed _ => listed⟩

theorem Grows.trans (tempdir : Text) (one two three : Guest Volume) (first : Grows tempdir one two)
    (second : Grows tempdir two three) : Grows tempdir one three := by
  refine ⟨first.serial.trans second.serial, second.mappings.trans first.mappings,
    fun mount listed => second.mounts mount (first.mounts mount listed), fun file listed => ?_,
    fun file listed here => second.kept file (first.kept file listed here) here⟩
  rcases second.files file listed with inside | ⟨old, listed', id, path⟩
  · exact .inl inside
  · rcases first.files old listed' with inside | ⟨older, listed'', id', path'⟩
    · exact .inl (path ▸ inside)
    · exact .inr ⟨older, listed'', id'.trans id, path'.trans path⟩

theorem grows_attempt (tempdir : Text) (refused : Option String) :
    Action.Decides (Grows tempdir) (refused = none) (attempt refused : GuestAction Volume Unit) :=
  Action.decides_step (Grows.refl tempdir) (Grows.refl tempdir)

theorem grows_runHelper (tempdir : Text) (helper : CommandAnswer) (source target : Text) (failed : String) :
    Action.Decides (Grows tempdir) (helper.spawn = none ∧ helper.wait = none ∧ helper.status = none)
      (runHelper helper source target failed : GuestAction Volume Unit) := by
  refine Action.Decides.bind (Grows.trans tempdir) (grows_attempt tempdir _) fun _ => ?_
  have checked : Action.Decides (Grows tempdir) (helper.status = none)
      (attempt (helper.status.map fun _ => failed) : GuestAction Volume Unit) :=
    (grows_attempt tempdir _).congr Option.map_eq_none_iff
  refine Action.Decides.congr (Action.Decides.bind (Grows.trans tempdir) ?mounted fun _ =>
    Action.Decides.bind (Grows.trans tempdir) (grows_attempt tempdir _) fun _ => checked) (iff_of_eq (true_and _))
  intro guest
  cases helper.status with
  | none =>
    refine ⟨⟨Nat.le_succ _, rfl, fun mount => .tail _, fun file listed => .inr ⟨file, listed, rfl, rfl⟩,
      fun _ listed _ => listed⟩, fun _ => trivial, fun _ => ⟨(), rfl⟩⟩
  | some error => exact ⟨Grows.refl tempdir guest, fun _ => trivial, fun _ => ⟨(), rfl⟩⟩

theorem inTempdir_gocryptfs (tempdir : Text) : InTempdir tempdir (gocryptfsPasswdPath tempdir) := by
  refine List.isPrefixOf_iff_prefix.mpr ⟨"gocryptfs_passwd".toList, ?_⟩
  rw [List.append_assoc]
  rfl

theorem inTempdir_ossfs (tempdir : Text) : InTempdir tempdir (ossfsPasswdPath tempdir) := by
  refine List.isPrefixOf_iff_prefix.mpr ⟨"ossfs_passwd".toList, ?_⟩
  rw [List.append_assoc]
  rfl

theorem passwd_paths_differ (tempdir : Text) : ossfsPasswdPath tempdir ≠ gocryptfsPasswdPath tempdir := by
  intro same
  have names := List.append_cancel_left same
  revert names
  decide

theorem grows_createFile (tempdir : Text) (guest : Guest Volume) :
    Grows tempdir guest (guest.createFile (gocryptfsPasswdPath tempdir)) := by
  refine ⟨Nat.le_succ _, rfl, fun _ => id, ?_, fun file listed here => ?_⟩
  · refine List.forall_mem_cons.mpr ⟨.inl (inTempdir_gocryptfs tempdir), fun file listed => ?_⟩
    exact .inr ⟨file, List.mem_of_mem_filter listed, rfl, rfl⟩
  · refine .tail _ (List.mem_filter.mpr ⟨listed, ?_⟩)
    rw [here]
    exact decide_eq_true (passwd_paths_differ tempdir)

theorem grows_appendFile (tempdir : Text) (guest : Guest Volume) (bytes : List UInt8) :
    Grows tempdir guest (guest.appendFile (gocryptfsPasswdPath tempdir) bytes) := by
  refine ⟨le_rfl, rfl, fun _ => id, fun file listed => ?_, fun file listed here => ?_⟩
  · obtain ⟨old, listed', rfl⟩ := List.mem_map.mp listed
    refine .inr ⟨old, listed', ?_⟩
    split <;> exact ⟨rfl, rfl⟩
  · refine List.mem_map.mpr ⟨file, listed, if_neg ?_⟩
    rw [here]
    exact passwd_paths_differ tempdir

theorem grows_createGocryptfsPasswd (tempdir : Text) (content : List UInt8) (file : FileAnswer) :
    Action.Decides (Grows tempdir) (file.create = none ∧ file.cut = none ∧ file.sync = none)
      (createGocryptfsPasswd (gocryptfsPasswdPath tempdir) content file : GuestAction Volume Unit) := by
  refine Action.Decides.bind (Grows.trans tempdir)
    (Action.decides_step (Grows.refl tempdir) (grows_createFile tempdir)) fun _ => ?_
  refine Action.Decides.bind (Grows.trans tempdir) ?_ fun _ => grows_attempt tempdir _
  intro guest
  cases file.cut with
  | none => exact ⟨grows_appendFile tempdir guest _, fun _ => rfl, fun _ => ⟨(), rfl⟩⟩
  | some stop =>
    refine ⟨grows_appendFile tempdir guest _, ?_, nofun⟩
    rintro ⟨_, impossible⟩
    cases impossible

/-- ossfs mounts the bucket. -/
def BucketMounts (answer : MountAnswer Volume) (parameters : OssParameters) : Prop :=
  (parameters.encrypted = "gocryptfs".toList → ∃ dir, answer.randomDir = .ok dir) ∧
    answer.ossfs.spawn = none ∧ answer.ossfs.status = none

theorem grows_mountGocryptfs (answer : MountAnswer Volume) (parameters : OssParameters)
    (tempdir gocryptfsDir mountPoint : Text) :
    Action.Decides (Grows tempdir) (GocryptfsMounts answer parameters)
      (mountGocryptfs answer parameters tempdir gocryptfsDir mountPoint) := by
  refine Action.Decides.congr (Action.decides_ofExcept_bind (Grows.refl tempdir) fun password _ =>
    Action.Decides.bind (Grows.trans tempdir) (grows_createGocryptfsPasswd tempdir _ _) fun _ =>
      grows_runHelper tempdir _ _ _ _) ?_
  constructor
  · rintro ⟨password, unsealed, ⟨create, cut, sync⟩, last⟩
    exact ⟨password, unsealed, create, cut, sync, last⟩
  · rintro ⟨password, unsealed, create, cut, sync, last⟩
    exact ⟨password, unsealed, ⟨create, cut, sync⟩, last⟩

theorem grows_mountBucket (answer : MountAnswer Volume) (parameters : OssParameters) (tempdir mountPoint : Text) :
    Action.Decides (Grows tempdir) (BucketMounts answer parameters ∧ answer.ossfs.wait = none ∧
        (parameters.encrypted = "gocryptfs".toList → GocryptfsMounts answer parameters))
      (mountBucket answer parameters tempdir mountPoint) := by
  rw [mountBucket, BucketMounts]
  split
  · rename_i encrypted
    refine Action.Decides.congr (Action.decides_ofExcept_bind (Grows.refl tempdir) fun dir _ =>
      Action.Decides.bind (Grows.trans tempdir) (grows_runHelper tempdir _ _ _ _) fun _ =>
        grows_mountGocryptfs answer parameters tempdir dir mountPoint) ?_
    constructor
    · rintro ⟨dir, made, ⟨spawn, wait, status⟩, above⟩
      exact ⟨⟨fun _ => ⟨dir, made⟩, spawn, status⟩, wait, fun _ => above⟩
    · rintro ⟨⟨made, spawn, status⟩, wait, above⟩
      obtain ⟨dir, made⟩ := made encrypted
      exact ⟨dir, made, ⟨spawn, wait, status⟩, above encrypted⟩
  · rename_i plain
    refine (grows_runHelper tempdir _ _ _ _).congr ?_
    constructor
    · rintro ⟨spawn, wait, status⟩
      exact ⟨⟨fun encrypted => absurd encrypted plain, spawn, status⟩, wait, fun encrypted =>
        absurd encrypted plain⟩
    · rintro ⟨⟨_, spawn, status⟩, wait, _⟩
      exact ⟨spawn, wait, status⟩

/-- A helper mounts, or changes nothing and ends the call. -/
theorem runHelper_mounts (helper : CommandAnswer) (source target : Text) (failed : String) (guest : Guest Volume) :
    (helper.spawn = none ∧ helper.status = none →
        ∃ mount ∈ (runHelper helper source target failed guest).2.mounts, guest.serial ≤ mount.id) ∧
      (¬ (helper.spawn = none ∧ helper.status = none) →
        ∃ error, runHelper helper source target failed guest = (.error error, guest)) := by
  rw [runHelper]
  cases helper.spawn with
  | some error => exact ⟨fun both => (nomatch both.1), fun _ => ⟨error, rfl⟩⟩
  | none =>
    cases helper.status with
    | some error =>
      refine ⟨fun both => (nomatch both.2), fun _ => ?_⟩
      cases helper.wait with
      | none => exact ⟨failed, rfl⟩
      | some error => exact ⟨error, rfl⟩
    | none =>
      refine ⟨fun _ => ⟨⟨guest.serial, source, target⟩, ?_, le_rfl⟩, fun stops =>
        absurd ⟨rfl, rfl⟩ stops⟩
      cases helper.wait with
      | none => exact .head _
      | some error => exact .head _

theorem mountBucket_mounts (answer : MountAnswer Volume) (parameters : OssParameters) (tempdir mountPoint : Text)
    (guest : Guest Volume) :
    (BucketMounts answer parameters →
        ∃ mount ∈ (mountBucket answer parameters tempdir mountPoint guest).2.mounts, guest.serial ≤ mount.id) ∧
      (¬ BucketMounts answer parameters →
        ∃ error, mountBucket answer parameters tempdir mountPoint guest = (.error error, guest)) := by
  rw [mountBucket, BucketMounts]
  split
  · rename_i encrypted
    cases made : answer.randomDir with
    | error error =>
      refine ⟨fun mounts => ?_, fun _ => ⟨error, rfl⟩⟩
      obtain ⟨_, impossible⟩ := mounts.1 encrypted
      cases impossible
    | ok dir =>
      obtain ⟨mounts, stops⟩ := runHelper_mounts answer.ossfs "ossfs".toList dir "Ossfs mount failed" guest
      change (_ → ∃ mount ∈ ((runHelper answer.ossfs "ossfs".toList dir "Ossfs mount failed" >>= fun _ =>
          mountGocryptfs answer parameters tempdir dir mountPoint) guest).2.mounts, _) ∧
        (_ → ∃ error, (runHelper answer.ossfs "ossfs".toList dir "Ossfs mount failed" >>= fun _ =>
          mountGocryptfs answer parameters tempdir dir mountPoint) guest = (.error error, guest))
      refine ⟨fun both => ?_, fun neither => ?_⟩
      · obtain ⟨mount, listed, new⟩ := mounts both.2
        refine ⟨mount, ?_, new⟩
        rcases ran : runHelper answer.ossfs "ossfs".toList dir "Ossfs mount failed" guest with ⟨error | value, next⟩
        · rw [ran] at listed
          rw [Action.bind_error ran]
          exact listed
        · rw [ran] at listed
          rw [Action.bind_ok ran]
          exact (grows_mountGocryptfs answer parameters tempdir dir mountPoint next).1.mounts mount listed
      · exact Action.bind_fails _ (stops fun both => neither ⟨fun _ => ⟨dir, rfl⟩, both⟩)
  · rename_i plain
    obtain ⟨mounts, stops⟩ := runHelper_mounts answer.ossfs "ossfs".toList mountPoint "Ossfs mount failed" guest
    exact ⟨fun both => mounts both.2, fun neither =>
      stops fun both => neither ⟨fun encrypted => absurd encrypted plain, both⟩⟩

/-- What becomes of the first password file. -/
theorem createOssfsPasswd_ends (path : Text) (content : List UInt8) (file : FileAnswer) (guest : Guest Volume) :
    (¬ (file.create = none ∧ file.permissions = none) → ∃ error after,
        createOssfsPasswd path content file guest = (.error error, after) ∧
        (after = guest ∨ after = guest.createFile path)) ∧
      (file.create = none ∧ file.permissions = none → ¬ (file.cut = none ∧ file.sync = none) → ∃ error,
        createOssfsPasswd path content file guest = (.error error, withFile guest path (written file content))) ∧
      (file.create = none ∧ file.permissions = none → file.cut = none ∧ file.sync = none →
        createOssfsPasswd path content file guest = (.ok (), withFile guest path content)) := by
  rw [createOssfsPasswd, written]
  cases file.create with
  | some error =>
    exact ⟨fun _ => ⟨error, guest, rfl, .inl rfl⟩, fun both => (nomatch both.1), fun both => (nomatch both.1)⟩
  | none =>
    cases file.permissions with
    | some error =>
      exact ⟨fun _ => ⟨error, guest.createFile path, rfl, .inr rfl⟩,
        fun both => (nomatch both.2), fun both => (nomatch both.2)⟩
    | none =>
      refine ⟨fun stops => absurd ⟨rfl, rfl⟩ stops, fun _ stops => ?_, fun _ whole => ?_⟩
      · cases cut : file.cut with
        | some stop =>
          rw [writePasswd, cut]
          exact ⟨stop.2, rfl⟩
        | none =>
          cases synced : file.sync with
          | some error =>
            rw [writePasswd, cut, synced]
            exact ⟨error, rfl⟩
          | none => exact absurd ⟨cut, synced⟩ stops
      · rw [writePasswd, whole.1, whole.2]
        rfl

/-- With the temporary directory all files go that were made in it. -/
theorem keysGone_dropped (removes : answer.removeTempdir = true) (grows : ∀ file ∈ after.files,
    InTempdir tempdir file.path ∨ file.id < guest.serial) : KeysGone guest (dropTempdir answer tempdir after) := by
  rw [dropTempdir, if_pos removes]
  intro file listed new
  obtain ⟨there, stays⟩ := List.mem_filter.mp listed
  rcases grows file there with inside | old
  · change (!(tempdir ++ ['/']).isPrefixOf file.path) = true at stays
    rw [show (tempdir ++ ['/']).isPrefixOf file.path = true from inside] at stays
    cases stays
  · omega

theorem dropTempdir_mounts (answer : MountAnswer Volume) (tempdir : Text) (guest : Guest Volume) :
    (dropTempdir answer tempdir guest).mounts = guest.mounts ∧
      (dropTempdir answer tempdir guest).mappings = guest.mappings := by
  rw [dropTempdir]
  split <;> exact ⟨rfl, rfl⟩

/-- What is left of the mount of a bucket while its temporary directory is still there. -/
structure BucketEnds (answer : MountAnswer Volume) (parameters : OssParameters) (tempdir : Text) (guest : Guest Volume)
    (outcome : Except String Unit × Guest Volume) : Prop where
  success : (∃ value, outcome.1 = .ok value) ↔ (OssfsReady answer ∧ BucketMounts answer parameters) ∧
    answer.ossfs.wait = none ∧ (parameters.encrypted = "gocryptfs".toList → GocryptfsMounts answer parameters)
  mappings : outcome.2.mappings = guest.mappings
  mounted : OssfsReady answer ∧ BucketMounts answer parameters → ∃ mount ∈ outcome.2.mounts,
    guest.serial ≤ mount.id
  unmounted : ¬ (OssfsReady answer ∧ BucketMounts answer parameters) → outcome.2.mounts = guest.mounts
  files : ∀ file ∈ outcome.2.files, InTempdir tempdir file.path ∨ file.id < guest.serial
  keys : KeysGone guest outcome.2 ↔ (answer.ossfsPasswd.create = none → answer.ossfsPasswd.permissions = none →
    ∃ count error, answer.ossfsPasswd.cut = some (count, error) ∧ count = 0)

theorem written_eq_nil {file : FileAnswer} {content : List UInt8} (some_ : content ≠ []) :
    written file content = [] ↔ ∃ count error, file.cut = some (count, error) ∧ count = 0 := by
  rw [written]
  cases file.cut with
  | none => simp [some_]
  | some stop =>
    obtain ⟨count, error⟩ := stop
    simp [some_]

theorem ossfsPasswd_ne_nil (bucket akId akSecret : Text) : ossfsPasswd bucket akId akSecret ≠ [] := by
  intro empty
  have length := length_le_utf8 (bucket ++ ':' :: akId ++ ':' :: akSecret)
  rw [ossfsPasswd] at empty
  rw [empty] at length
  simp at length

theorem files_withFile {path : Text} (inside : InTempdir tempdir path) (bytes : List UInt8) :
    ∀ file ∈ (withFile guest path bytes).files, InTempdir tempdir file.path ∨ file.id < guest.serial := by
  rw [withFile_files]
  refine List.forall_mem_cons.mpr ⟨.inl inside, fun file listed => ?_⟩
  exact .inr (guest.created file (List.mem_of_mem_filter listed))

theorem mountWith_ends (answer : MountAnswer Volume) (parameters : OssParameters)
    (plainAkId plainAkSecret tempdir mountPoint : Text) (guest : Guest Volume) :
    BucketEnds answer parameters tempdir guest
      (mountWith answer parameters plainAkId plainAkSecret tempdir mountPoint guest) := by
  obtain ⟨early, partly, whole⟩ := createOssfsPasswd_ends (ossfsPasswdPath tempdir)
    (ossfsPasswd parameters.bucket plainAkId plainAkSecret) answer.ossfsPasswd guest
  have some_ := ossfsPasswd_ne_nil parameters.bucket plainAkId plainAkSecret
  have ready_iff : OssfsReady answer ↔ (answer.ossfsPasswd.create = none ∧ answer.ossfsPasswd.permissions = none) ∧
      answer.ossfsPasswd.cut = none ∧ answer.ossfsPasswd.sync = none := by
    rw [OssfsReady, and_assoc]
  by_cases opened : answer.ossfsPasswd.create = none ∧ answer.ossfsPasswd.permissions = none
  · by_cases complete : answer.ossfsPasswd.cut = none ∧ answer.ossfsPasswd.sync = none
    · have ran : mountWith answer parameters plainAkId plainAkSecret tempdir mountPoint guest =
          mountBucket answer parameters tempdir mountPoint (withFile guest (ossfsPasswdPath tempdir)
            (ossfsPasswd parameters.bucket plainAkId plainAkSecret)) := Action.bind_ok (whole opened complete)
      have ready := ready_iff.mpr ⟨opened, complete⟩
      obtain ⟨grows, success⟩ := grows_mountBucket answer parameters tempdir mountPoint
        (withFile guest (ossfsPasswdPath tempdir) (ossfsPasswd parameters.bucket plainAkId plainAkSecret))
      obtain ⟨mounts, stops⟩ := mountBucket_mounts answer parameters tempdir mountPoint
        (withFile guest (ossfsPasswdPath tempdir) (ossfsPasswd parameters.bucket plainAkId plainAkSecret))
      rw [ran]
      refine ⟨success.trans ?_, grows.mappings, fun both => ?_, fun neither => ?_, fun file listed => ?_, ?_⟩
      · exact ⟨fun succeeds => ⟨⟨ready, succeeds.1⟩, succeeds.2⟩, fun succeeds =>
          ⟨succeeds.1.2, succeeds.2⟩⟩
      · obtain ⟨mount, listed, new⟩ := mounts both.2
        exact ⟨mount, listed, Nat.le_of_succ_le new⟩
      · obtain ⟨error, failed⟩ := stops fun mounts => neither ⟨ready, mounts⟩
        rw [failed]
        rfl
      · rcases grows.files file listed with inside | ⟨old, there, id, path⟩
        · exact .inl inside
        · rcases files_withFile (inTempdir_ossfs tempdir) _ old there with inside | older
          · exact .inl (path ▸ inside)
          · exact .inr (id ▸ older)
      · have stays : ⟨guest.serial, ossfsPasswdPath tempdir,
          ossfsPasswd parameters.bucket plainAkId plainAkSecret⟩ ∈
            (mountBucket answer parameters tempdir mountPoint (withFile guest (ossfsPasswdPath tempdir)
              (ossfsPasswd parameters.bucket plainAkId plainAkSecret))).2.files := by
          refine grows.kept _ ?_ rfl
          rw [withFile_files]
          exact .head _
        constructor
        · intro gone
          exact absurd (gone _ stays le_rfl) some_
        · intro nothing
          obtain ⟨_, _, cut, _⟩ := nothing opened.1 opened.2
          rw [complete.1] at cut
          cases cut
    · obtain ⟨error, failed⟩ := partly opened complete
      have ended : mountWith answer parameters plainAkId plainAkSecret tempdir mountPoint guest =
          (.error error, withFile guest (ossfsPasswdPath tempdir)
            (written answer.ossfsPasswd (ossfsPasswd parameters.bucket plainAkId plainAkSecret))) :=
              Action.bind_error failed
      have unready : ¬ OssfsReady answer := fun ready => complete (ready_iff.mp ready).2
      rw [ended]
      refine ⟨⟨?_, fun succeeds => absurd succeeds.1.1 unready⟩, rfl,
        fun both => absurd both.1 unready, fun _ => rfl,
        files_withFile (inTempdir_ossfs tempdir) _, ?_⟩
      · rintro ⟨_, impossible⟩
        cases impossible
      · rw [keysGone_withFile, written_eq_nil some_]
        exact ⟨fun nothing _ _ => nothing, fun nothing => nothing opened.1 opened.2⟩
  · obtain ⟨error, after, failed, made⟩ := early opened
    have ended : mountWith answer parameters plainAkId plainAkSecret tempdir mountPoint guest = (.error error, after) :=
      Action.bind_error failed
    have unready : ¬ OssfsReady answer := fun ready => opened (ready_iff.mp ready).1
    have empty : (guest.createFile (ossfsPasswdPath tempdir)).files =
        (withFile guest (ossfsPasswdPath tempdir) []).files :=
      (withFile_files guest (ossfsPasswdPath tempdir) []).symm
    have nothing : after.mappings = guest.mappings ∧ after.mounts = guest.mounts ∧ KeysGone guest after ∧
        ∀ file ∈ after.files, InTempdir tempdir file.path ∨ file.id < guest.serial := by
      rcases made with rfl | rfl
      · exact ⟨rfl, rfl, (nothingLeft_refl after).keys, fun file listed => .inr (after.created file listed)⟩
      · refine ⟨rfl, rfl, ?_, ?_⟩
        · rw [KeysGone, empty]
          exact keysGone_withFile.mpr rfl
        · rw [empty]
          exact files_withFile (inTempdir_ossfs tempdir) _
    rw [ended]
    refine ⟨⟨?_, fun succeeds => absurd succeeds.1.1 unready⟩, nothing.1, fun both => absurd both.1 unready,
      fun _ => nothing.2.1, nothing.2.2.2, ⟨fun _ create permissions => absurd ⟨create, permissions⟩ opened,
        fun _ => nothing.2.2.1⟩⟩
    rintro ⟨_, impossible⟩
    cases impossible

theorem withTempdir_tidy_iff (answer : MountAnswer Volume) (parameters : OssParameters)
    (plainAkId plainAkSecret tempdir mountPoint : Text) (guest : Guest Volume) :
    Tidy guest
      (withTempdir answer tempdir (mountWith answer parameters plainAkId plainAkSecret tempdir mountPoint) guest) ↔
      (answer.removeTempdir = true ∨ (answer.ossfsPasswd.create = none → answer.ossfsPasswd.permissions = none →
        ∃ count error, answer.ossfsPasswd.cut = some (count, error) ∧ count = 0)) ∧
      (OssfsReady answer → (parameters.encrypted = "gocryptfs".toList → ∃ dir, answer.randomDir = .ok dir) →
        answer.ossfs.spawn = none → answer.ossfs.status = none →
          answer.ossfs.wait = none ∧
          (parameters.encrypted = "gocryptfs".toList → GocryptfsMounts answer parameters)) := by
  have ends := mountWith_ends answer parameters plainAkId plainAkSecret tempdir mountPoint guest
  rw [withTempdir]
  rcases ran : mountWith answer parameters plainAkId plainAkSecret tempdir mountPoint guest with ⟨outcome, after⟩
  rw [ran] at ends
  obtain ⟨mounts, mappings⟩ := dropTempdir_mounts answer tempdir after
  have keys : KeysGone guest (dropTempdir answer tempdir after) ↔ answer.removeTempdir = true ∨
      (answer.ossfsPasswd.create = none → answer.ossfsPasswd.permissions = none →
        ∃ count error, answer.ossfsPasswd.cut = some (count, error) ∧ count = 0) := by
    by_cases removes : answer.removeTempdir = true
    · exact iff_of_true (keysGone_dropped removes ends.files) (.inl removes)
    · rw [dropTempdir, if_neg removes, ends.keys, or_iff_right removes]
  have rest :
    (OssfsReady answer → (parameters.encrypted = "gocryptfs".toList → ∃ dir, answer.randomDir = .ok dir) →
        answer.ossfs.spawn = none → answer.ossfs.status = none →
          answer.ossfs.wait = none ∧
          (parameters.encrypted = "gocryptfs".toList → GocryptfsMounts answer parameters)) ↔
      (OssfsReady answer ∧ BucketMounts answer parameters → answer.ossfs.wait = none ∧
        (parameters.encrypted = "gocryptfs".toList → GocryptfsMounts answer parameters)) :=
    ⟨fun all both => all both.1 both.2.1 both.2.2.1 both.2.2.2, fun all ready dir spawn status =>
      all ⟨ready, dir, spawn, status⟩⟩
  rw [rest, ← keys]
  cases outcome with
  | ok value =>
    refine (tidy_ok rfl).trans ⟨fun gone => ⟨gone, fun _ => (ends.success.mp ⟨value, rfl⟩).2⟩, And.left⟩
  | error error =>
    have failed : ¬ ((OssfsReady answer ∧ BucketMounts answer parameters) ∧ answer.ossfs.wait = none ∧
        (parameters.encrypted = "gocryptfs".toList → GocryptfsMounts answer parameters)) := by
      intro succeeds
      obtain ⟨_, impossible⟩ := ends.success.mpr succeeds
      cases impossible
    refine (tidy_error rfl).trans ⟨fun nothing => ⟨nothing.keys, fun mounted => ?_⟩, fun both =>
      ⟨both.1, ?_, ?_⟩⟩
    · obtain ⟨mount, listed, new⟩ := ends.mounted mounted
      rw [← mounts] at listed
      have old := nothing.mounts mount listed
      omega
    · dsimp only
      rw [mappings, ends.mappings]
      exact guest.opened
    · dsimp only
      rw [mounts, ends.unmounted fun mounted => failed ⟨mounted, both.2 mounted⟩]
      exact guest.mounted

theorem ossMount_tidy_iff (answer : MountAnswer Volume) (options : Options) (mountPoint : Text) (guest : Guest Volume) :
    Tidy guest (ossMount answer options mountPoint guest) ↔
      ∀ parameters, ossParameters options = .ok parameters → OssTidy answer parameters := by
  cases parsed : ossParameters options with
  | error error =>
    have failed : ossMount answer options mountPoint guest = (.error error, guest) := by
      rw [ossMount, parsed]
      rfl
    rw [tidy_error failed]
    exact ⟨fun _ => nofun, fun _ => nothingLeft_refl guest⟩
  | ok parameters =>
    have asked : (∀ parameters', (.ok parameters : Except String OssParameters) = .ok parameters' →
      OssTidy answer parameters') ↔
        OssTidy answer parameters := ⟨fun all => all parameters rfl, by rintro tidy _ ⟨⟩; exact tidy⟩
    have begins : ossMount answer options mountPoint guest =
        (Action.ofExcept (getPlaintextSecret answer parameters.akId) >>= fun akId =>
          Action.ofExcept (getPlaintextSecret answer parameters.akSecret) >>= fun akSecret =>
            Action.ofExcept answer.tempdir >>= fun tempdir =>
              withTempdir answer tempdir (mountWith answer parameters akId akSecret tempdir mountPoint)) guest := by
      rw [ossMount, parsed]
      rfl
    rw [asked, OssTidy, begins]
    cases getPlaintextSecret answer parameters.akId with
    | error error =>
      exact (tidy_error rfl).trans ⟨fun _ given => (nomatch given.choose_spec), fun _ => nothingLeft_refl guest⟩
    | ok akId =>
      cases getPlaintextSecret answer parameters.akSecret with
      | error error =>
        exact (tidy_error rfl).trans ⟨fun _ _ given => (nomatch given.choose_spec), fun _ => nothingLeft_refl guest⟩
      | ok akSecret =>
        cases answer.tempdir with
        | error error =>
          exact (tidy_error rfl).trans
            ⟨fun _ _ _ given => (nomatch given.choose_spec), fun _ => nothingLeft_refl guest⟩
        | ok tempdir =>
          refine (withTempdir_tidy_iff answer parameters akId akSecret tempdir mountPoint guest).trans ?_
          exact ⟨fun both _ _ _ => both, fun both => both ⟨akId, rfl⟩ ⟨akSecret, rfl⟩ ⟨tempdir, rfl⟩⟩

end Buckets

section Storages

variable {Volume : Type} {answer : MountAnswer Volume} {guest : Guest Volume}

theorem tidy_pure {action : GuestAction Volume Unit} (value : Text) :
    Tidy guest ((action >>= fun _ => pure value) guest) ↔ Tidy guest (action guest) := by
  rw [Action.bind_apply]
  rcases action guest with ⟨error | done, after⟩
  · exact (tidy_error rfl).trans (tidy_error rfl).symm
  · exact (tidy_ok rfl).trans (tidy_ok rfl).symm

theorem blockDeviceMount_tidy_iff (answer : MountAnswer Volume) (options : Options) (mountPoint : Text)
    (guest : Guest Volume) :
    Tidy guest (blockDeviceMount answer options mountPoint guest) ↔
      ∀ parameters, blockDeviceParameters options = .ok parameters →
        BlockDeviceTidy answer guest.disk parameters mountPoint := by
  rw [blockDeviceMount]
  cases blockDeviceParameters options with
  | error error => exact (tidy_error rfl).trans ⟨fun _ => nofun, fun _ => nothingLeft_refl guest⟩
  | ok parameters =>
    refine (secureDeviceMount_tidy_iff answer parameters mountPoint guest).trans ⟨?_, fun all => all parameters rfl⟩
    rintro tidy _ ⟨⟩
    exact tidy

/-- A mount that fails leaves nothing, and one that succeeds no key file, exactly under the condition of its volume. -/
theorem mount_tidy_iff (storage : Storage) (answer : MountAnswer Volume) (guest : Guest Volume) :
    Tidy guest (storage.mount answer guest) ↔ StorageTidy answer storage guest.disk := by
  rw [Storage.mount, StorageTidy]
  cases volumeFromStr storage.volumeType with
  | error error => exact (tidy_error rfl).trans ⟨fun _ => trivial, fun _ => nothingLeft_refl guest⟩
  | ok volume =>
    cases volume with
    | aliOss => exact (tidy_pure _).trans (ossMount_tidy_iff answer storage.options storage.mountPoint guest)
    | blockDevice =>
      exact (tidy_pure _).trans (blockDeviceMount_tidy_iff answer storage.options storage.mountPoint guest)

end Storages

section Sample

def smoothFile : FileAnswer := ⟨none, none, none, none⟩

def smoothCommand : CommandAnswer := ⟨none, none, none⟩

def dryRunOutput : Text := "Superblock backups stored on blocks:\n\t32768, 98304\n".toList

/-- A guest that refuses nothing, with one device. -/
def smoothScript : ScriptAnswer Nat where
  commands := none
  uevent _ := .ok "sda".toList
  mktemp := .ok "encrypted_disk_AAAAA".toList
  isBlock path := path = "/dev/sda".toList
  luksFormat := none
  fresh := 0
  spoiled := id
  luksOpen := none
  rm := none
  dryRun := .ok dryRunOutput
  dd _ := none
  zeroed _ _ := 0
  mkfs := none
  made _ := 1
  isDir _ := true
  mkdir := none
  mount := none

/-- The secrets open, but for one. -/
def smoothMount : MountAnswer Nat where
  unsealSecret secret := if secret = "sealed.lost".toList then .error "no such key" else .ok [7]
  getSecret _ := .ok [7]
  random := "AAAAA".toList
  randomKey := [9]
  keyFile := smoothFile
  spawn := none
  wait := none
  script := smoothScript
  tempdir := .ok "/tmp/.tmp".toList
  removeTempdir := true
  ossfsPasswd := smoothFile
  randomDir := .ok "/tmp/dir".toList
  ossfs := smoothCommand
  gocryptfsPasswd := smoothFile
  gocryptfs := smoothCommand

def bareGuest : Guest Nat := ⟨[], [], [], 0, fun _ => .plain, [], nofun, nofun, nofun⟩

/-- The options of a mount, by their names. -/
def optionsOf (pairs : List (Text × Text)) : Options := fun field => pairs.lookup field

def keyedOptions : Options := optionsOf [("deviceId".toList, "7:0".toList), ("encryptType".toList, "LUKS".toList),
  ("encryptKey".toList, "sealed.key".toList), ("dataIntegrity".toList, "false".toList)]

def keyedStorage : Storage := ⟨"BlockDevice".toList, keyedOptions, "/mnt".toList⟩

/-- A bucket whose gocryptfs password cannot be unsealed. -/
def lostPassword : Storage :=
  ⟨"alibaba-cloud-oss".toList, optionsOf [("akId".toList, "id".toList), ("akSecret".toList, "secret".toList),
    ("bucket".toList, "bucket".toList), ("encrypted".toList, "gocryptfs".toList),
      ("encPasswd".toList, "sealed.lost".toList),
    ("otherOpts".toList, []), ("path".toList, "/".toList), ("readonly".toList, []), ("targetPath".toList, []),
    ("url".toList, []), ("volumeId".toList, [])], "/mnt".toList⟩

theorem error_of_toOption {α : Type} {outcome : Except String α} (failed : outcome.toOption = none) :
    ∃ error, outcome = .error error := by
  cases outcome with
  | error error => exact ⟨error, rfl⟩
  | ok value => cases failed

/-- The device holds no LUKS volume, and the key stays in its file; the bucket stays mounted. -/
theorem failures_leave_things : ¬ Tidy bareGuest (keyedStorage.mount smoothMount bareGuest) ∧
    ¬ Tidy bareGuest (lostPassword.mount smoothMount bareGuest) := by
  constructor
  · intro tidy
    have failed : (keyedStorage.mount smoothMount bareGuest).1.toOption = none := by decide +kernel
    have left : (keyedStorage.mount smoothMount bareGuest).2.files =
        [⟨0, "/tmp/encrypted_storage_key_AAAAA".toList, [7]⟩] := by decide +kernel
    have gone := (tidy.failure (error_of_toOption failed)).keys
    rw [KeysGone, left] at gone
    cases gone _ (.head _) (Nat.zero_le _)
  · intro tidy
    have failed : (lostPassword.mount smoothMount bareGuest).1.toOption = none := by decide +kernel
    have left : (lostPassword.mount smoothMount bareGuest).2.mounts = [⟨1, "ossfs".toList, "/tmp/dir".toList⟩] := by
      decide +kernel
    have gone := (tidy.failure (error_of_toOption failed)).mounts
    rw [left] at gone
    exact absurd (gone _ (.head _)) (Nat.not_lt_zero _)

end Sample
end GuestComponents.Hub.SecureMount
