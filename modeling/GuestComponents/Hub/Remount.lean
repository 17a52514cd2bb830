import GuestComponents.Hub.MountLeftovers

/-! Mounts of one device after another. The flag that says that a device is encrypted keeps the script from
`luksFormat`, but not from making a file system on the opened mapping, so that a mount with a key either ends
before that or loses what the device held. -/
namespace GuestComponents.Hub.SecureMount
open Lib Lib.Text

variable {Volume : Type}

/-- A mount of a device, after which its files are changed and it is unmounted. -/
structure Round (Volume : Type) where
  parameters : BlockDeviceParameters
  mountPoint : Text
  answer : MountAnswer Volume
  changed : Volume

/-- The device that a mount is about. -/
def Round.device (round : Round Volume) : Option Text :=
  match round.answer.script.uevent round.parameters.deviceId with
  | .ok deviceName => some ("/dev/".toList ++ deviceName)
  | .error _ => none

/-- What comes of the mount. -/
def Round.mounts (round : Round Volume) (guest : Guest Volume) : Except String Unit × Guest Volume :=
  secureDeviceMount round.answer round.parameters round.mountPoint guest

/-- Without the mount and the mapping of this name. -/
def Guest.unmount (name : Text) (guest : Guest Volume) : Guest Volume :=
  { guest with
    mappings := guest.mappings.filter fun mapping => mapping.name ≠ name
    mounts := guest.mounts.filter fun mount => mount.source ≠ mapperPath name
    opened := fun mapping listed => guest.opened mapping (List.mem_of_mem_filter listed)
    mounted := fun mount listed => guest.mounted mount (List.mem_of_mem_filter listed) }

/-- The device with other files. -/
def Guest.changeFiles (device : Text) (volume : Volume) (guest : Guest Volume) : Guest Volume :=
  guest.setDisk device ((guest.disk device).change fun _ => volume)

/-- A mount that succeeds is used and undone; of another all stays. -/
def Round.after (round : Round Volume) (guest : Guest Volume) : Guest Volume :=
  match round.mounts guest, round.device, round.answer.script.mktemp with
  | (.ok _, mounted), some device, .ok name => (mounted.changeFiles device round.changed).unmount name
  | (_, mounted), _, _ => mounted

/-- In every round of a sequence, at the guest it meets. -/
def Throughout (holds : Round Volume → Guest Volume → Prop) : List (Round Volume) → Guest Volume → Prop
  | [], _ => True
  | round :: rounds, guest => holds round guest ∧ Throughout holds rounds (round.after guest)

/-- A mount with a key formats nothing, and if it succeeds the devices hold what they held. -/
def Survives (round : Round Volume) (guest : Guest Volume) : Prop := round.parameters.encryptionKey ≠ none →
  (round.mounts guest).2.formatted = guest.formatted ∧
    ((∃ value, (round.mounts guest).1 = .ok value) → (round.mounts guest).2.disk = guest.disk)

/-- The mapping is written to: at once, or after a dry run that lists its blocks. -/
def WritesMapping (answer : ScriptAnswer Volume) (dataIntegrity : Text) : Prop :=
  dataIntegrity ≠ "false".toList → ∃ output, answer.dryRun = .ok output ∧ ∃ blocks,
    blockNums output = .ok blocks

/-- A mount with a key opens the device, removes the key file and comes to the format of the mapping. -/
def Formats (round : Round Volume) (guest : Guest Volume) : Prop := round.parameters.encryptionKey ≠ none ∧
  round.answer.keyFile.create = none ∧ (∃ key, plainKey round.answer round.parameters.encryptionKey = .ok key ∧
    DeviceOpens round.answer guest.disk round.parameters key) ∧ round.answer.script.rm = none ∧
    WritesMapping round.answer.script (argument [round.parameters.dataIntegrity] 0 "true".toList)

section Steps

variable {guest after : Guest Volume} {answer : ScriptAnswer Volume}

/-- The devices hold what they held, and nothing was formatted. -/
def SameDisks (before after : Guest Volume) : Prop := after.disk = before.disk ∧ after.formatted = before.formatted

theorem SameDisks.refl (guest : Guest Volume) : SameDisks guest guest := ⟨rfl, rfl⟩

/-- What was formatted stays so. -/
def Longer (before after : Guest Volume) : Prop := before.formatted.length ≤ after.formatted.length

theorem Longer.refl (guest : Guest Volume) : Longer guest guest := le_rfl

theorem Longer.trans (one two three : Guest Volume) (first : Longer one two) (second : Longer two three) :
    Longer one three := Nat.le_trans first second

theorem longer_command (failed : Option String) {effect : Guest Volume → Guest Volume}
    (longer : ∀ guest, Longer guest (effect guest)) : Action.Keeps Longer (command failed effect) := by
  intro guest
  cases failed with
  | none => exact longer guest
  | some error => exact longer guest

theorem longer_dd (answer : ScriptAnswer Volume) (devicePath name block : Text) :
    Action.Keeps Longer (dd answer devicePath name block) := longer_command _ fun _ => Nat.le_succ _

theorem longer_mkfs (answer : ScriptAnswer Volume) (devicePath name : Text) :
    Action.Keeps Longer (mkfs answer devicePath name) := longer_command _ fun _ => Nat.le_succ _

theorem longer_clearPages (answer : ScriptAnswer Volume) (devicePath name : Text) (blocks : List Text) :
    Action.Keeps Longer (clearPages answer devicePath name blocks) := by
  induction blocks with
  | nil => exact Longer.refl
  | cons block blocks ih => exact Action.Keeps.bind Longer.trans (longer_dd answer devicePath name block) fun _ => ih

/-- The blocks begin with block 0. -/
theorem blockNums_ok {output : Text} {blocks : List Text} (listed : blockNums output = .ok blocks) :
    ∃ numbers, blocks = ['0'] :: numbers := by
  rw [blockNums] at listed
  split at listed
  · cases listed
  · split at listed
    · cases listed
    · cases listed
      exact ⟨_, rfl⟩

/-- A command that formats is seen, however it ends. -/
theorem longer_of_command (failed : Option String) {effect : Guest Volume → Guest Volume}
    (formats : (effect guest).formatted.length = guest.formatted.length + 1) :
    guest.formatted.length < (command failed effect guest).2.formatted.length := by
  cases failed <;> exact formats.ge

theorem formatted_bind {α β : Type} {first : GuestAction Volume α} {rest : α → GuestAction Volume β}
    (formats : guest.formatted.length < (first guest).2.formatted.length)
    (longer : ∀ value, Action.Keeps Longer (rest value)) :
    guest.formatted.length < ((first >>= rest) guest).2.formatted.length := by
  rcases ran : first guest with ⟨error | value, next⟩
  · rw [ran] at formats
    rw [Action.bind_error ran]
    exact formats
  · rw [ran] at formats
    rw [Action.bind_ok ran]
    exact formats.trans_le (longer value next)

/-- The file system is not made before the mapping is written to. -/
theorem makeFilesystem_writes (answer : ScriptAnswer Volume) (devicePath name dataIntegrity : Text)
    (guest : Guest Volume) :
    (WritesMapping answer dataIntegrity →
        guest.formatted.length < (makeFilesystem answer devicePath name dataIntegrity guest).2.formatted.length) ∧
      (¬ WritesMapping answer dataIntegrity →
        ∃ error, makeFilesystem answer devicePath name dataIntegrity guest = (.error error, guest)) := by
  rw [makeFilesystem, WritesMapping]
  split
  · rename_i without
    exact ⟨fun _ => longer_of_command _ rfl, fun refused => absurd (fun differs => absurd without differs) refused⟩
  · rename_i integrity
    cases answer.dryRun with
    | error error =>
      refine ⟨fun writes => ?_, fun _ => ⟨error, rfl⟩⟩
      obtain ⟨_, impossible, _⟩ := writes integrity
      cases impossible
    | ok output =>
      change (_ →
        _ < ((Action.ofExcept (blockNums output) >>= fun blocks => clearPages answer devicePath name blocks >>=
          fun _ => mkfs answer devicePath name) guest).2.formatted.length) ∧
        (_ → ∃ error,
          (Action.ofExcept (blockNums output) >>= fun blocks => clearPages answer devicePath name blocks >>=
          fun _ => mkfs answer devicePath name) guest = (.error error, guest))
      cases listed : blockNums output with
      | error error =>
        refine ⟨fun writes => ?_, fun _ => ⟨error, rfl⟩⟩
        obtain ⟨_, ⟨⟩, _, impossible⟩ := writes integrity
        rw [listed] at impossible
        cases impossible
      | ok blocks =>
        refine ⟨fun _ => ?_, fun refused => absurd (fun _ => ⟨output, rfl, blocks, listed⟩) refused⟩
        obtain ⟨numbers, rfl⟩ := blockNums_ok listed
        have first : guest.formatted.length < (dd answer devicePath name ['0'] guest).2.formatted.length :=
          longer_of_command _ rfl
        change _ < (((dd answer devicePath name ['0'] >>= fun _ => clearPages answer devicePath name numbers) >>=
          fun _ => mkfs answer devicePath name) guest).2.formatted.length
        rw [bind_assoc]
        exact formatted_bind first fun _ =>
          Action.Keeps.bind Longer.trans (longer_clearPages answer devicePath name numbers)
          fun _ => longer_mkfs answer devicePath name

theorem longer_mountMapping (answer : ScriptAnswer Volume) (name mountPoint : Text) :
    Action.Keeps Longer (mountMapping answer name mountPoint) := by
  have step : ∀ refused : Option String, ∀ effect : Guest Volume → Guest Volume,
      (∀ guest, (effect guest).formatted = guest.formatted) → Action.Keeps Longer (Action.step refused effect) := by
    intro refused effect same guest
    cases refused with
    | none => exact (congrArg List.length (same guest)).ge
    | some error => exact Longer.refl guest
  exact Action.Keeps.bind Longer.trans (step _ id fun _ => rfl) fun _ => step _ _ fun _ => rfl

/-- Once the device is open, it is formatted unless the script stops before. -/
theorem finishDevice_writes (answer : ScriptAnswer Volume) (devicePath name mountPoint keyPath dataIntegrity : Text)
    (guest : Guest Volume) :
    let outcome := finishDevice answer devicePath name mountPoint keyPath dataIntegrity guest
    (answer.rm = none ∧ WritesMapping answer dataIntegrity → guest.formatted.length < outcome.2.formatted.length) ∧
      (¬ (answer.rm = none ∧ WritesMapping answer dataIntegrity) →
        SameDisks guest outcome.2 ∧ ∃ error, outcome.1 = .error error) := by
  dsimp only
  cases removed : answer.rm with
  | some error =>
    have failed : finishDevice answer devicePath name mountPoint keyPath dataIntegrity guest =
        (.error error, guest) := by
      rw [finishDevice, removed]
      rfl
    rw [failed]
    exact ⟨fun both => absurd both.1 (Option.some_ne_none error), fun _ => ⟨SameDisks.refl guest, error, rfl⟩⟩
  | none =>
    have begins : finishDevice answer devicePath name mountPoint keyPath dataIntegrity guest =
        (makeFilesystem answer devicePath name dataIntegrity >>= fun _ => mountMapping answer name mountPoint)
          (guest.removeFiles fun file => file.path = keyPath) := by
      rw [finishDevice, removed]
      rfl
    obtain ⟨writes, stops⟩ := makeFilesystem_writes answer devicePath name dataIntegrity
      (guest.removeFiles fun file => file.path = keyPath)
    rw [begins]
    refine ⟨fun both => formatted_bind (writes both.2) fun _ => longer_mountMapping answer name mountPoint,
      fun neither => ?_⟩
    obtain ⟨error, failed⟩ := stops fun writes => neither ⟨rfl, writes⟩
    rw [Action.bind_error failed]
    exact ⟨⟨rfl, rfl⟩, error, rfl⟩

/-- The script with a key: it comes to the format, or changes no device and fails. -/
theorem script_writes (answer : ScriptAnswer Volume) (parameters : BlockDeviceParameters) (mountPoint : Text)
    {keyPath : Text}
    (named : keyPath ≠ []) (keyed : parameters.encryptionKey ≠ none) (guest : Guest Volume) :
    let outcome := luksEncryptStorage answer
      [parameters.deviceId, isEncrypted parameters, mountPoint, keyPath, parameters.dataIntegrity] guest
    let comes := ScriptOpens answer guest.disk parameters (guest.contentOf keyPath) ∧ answer.rm = none ∧
      WritesMapping answer (argument [parameters.dataIntegrity] 0 "true".toList)
    (comes → guest.formatted.length < outcome.2.formatted.length) ∧
      (¬ comes → SameDisks guest outcome.2 ∧ ∃ error, outcome.1 = .error error) := by
  dsimp only
  have encrypted : isEncrypted parameters ≠ "false".toList := fun same => keyed ((isEncrypted_eq parameters).mp same)
  rw [luksEncryptStorage_args answer parameters mountPoint named]
  rcases findDevice_ends answer parameters.deviceId guest with
    ⟨deviceName, name, found, ran⟩ | ⟨missing, error, failed⟩
  · rw [Action.bind_ok ran, scriptOpens_iff found]
    obtain ⟨fits, stays⟩ := luksOpen_ends answer ("/dev/".toList ++ deviceName) keyPath name guest
    have opens : openDevice answer ("/dev/".toList ++ deviceName) name (isEncrypted parameters) keyPath
        (argument [parameters.dataIntegrity] 0 "true".toList) guest =
          luksOpen answer ("/dev/".toList ++ deviceName) keyPath name guest := by
      rw [openDevice, if_neg encrypted]
    by_cases opened : DeviceOpened answer guest.disk ("/dev/".toList ++ deviceName) (isEncrypted parameters)
        (guest.contentOf keyPath)
    · obtain ⟨writes, stops⟩ := finishDevice_writes answer ("/dev/".toList ++ deviceName) name
        (argument [mountPoint] 0 "/tmp/target_path".toList) keyPath (argument [parameters.dataIntegrity] 0 "true".toList)
        (guest.addMapping name ("/dev/".toList ++ deviceName))
      rw [Action.bind_ok (opens.trans (fits (opened.2.1 encrypted) opened.2.2)), and_iff_right opened]
      exact ⟨writes, stops⟩
    · obtain ⟨error, failed⟩ :=
        stays fun both => opened ⟨fun same => absurd same encrypted, fun _ => both.1, both.2⟩
      rw [Action.bind_error (opens.trans failed)]
      exact ⟨fun comes => absurd comes.1 opened, fun _ => ⟨SameDisks.refl guest, error, rfl⟩⟩
  · rw [Action.bind_error failed]
    exact ⟨fun comes => absurd comes.1 (scriptOpens_missing missing), fun _ =>
      ⟨SameDisks.refl guest, error, rfl⟩⟩

/-- What follows the key file changes nothing more than the script does. -/
theorem afterKeyFile_writes (answer : MountAnswer Volume) (parameters : BlockDeviceParameters) (mountPoint : Text)
    (keyed : parameters.encryptionKey ≠ none) (guest : Guest Volume) (key : List UInt8) :
    let outcome := afterKeyFile answer parameters mountPoint (withFile guest (storageKeyPath answer) key)
    let comes :=
      (answer.spawn = none ∧ ScriptOpens answer.script guest.disk parameters key) ∧ answer.script.rm = none ∧
      WritesMapping answer.script (argument [parameters.dataIntegrity] 0 "true".toList)
    (comes → guest.formatted.length < outcome.2.formatted.length) ∧
      (¬ comes → SameDisks guest outcome.2 ∧ ∃ error, outcome.1 = .error error) := by
  dsimp only
  cases spawned : answer.spawn with
  | some error =>
    have failed : afterKeyFile answer parameters mountPoint (withFile guest (storageKeyPath answer) key) =
        (.error error, withFile guest (storageKeyPath answer) key) := by
      rw [afterKeyFile, spawned]
      rfl
    rw [failed]
    exact ⟨fun comes => absurd comes.1.1 (Option.some_ne_none error), fun _ => ⟨⟨rfl, rfl⟩, error, rfl⟩⟩
  | none =>
    have script := script_writes answer.script parameters mountPoint (storageKeyPath_ne_nil answer) keyed
      (withFile guest (storageKeyPath answer) key)
    dsimp only at script
    rw [contentOf_withFile] at script
    obtain ⟨writes, stops⟩ := script
    change (_ →
      _ < (luksEncryptStorage answer.script (scriptArgs answer parameters mountPoint) _).2.formatted.length) at writes
    change (_ → SameDisks _ (luksEncryptStorage answer.script (scriptArgs answer parameters mountPoint) _).2 ∧
      ∃ error,
        (luksEncryptStorage answer.script (scriptArgs answer parameters mountPoint) _).1 = .error error) at stops
    rcases ran : luksEncryptStorage answer.script (scriptArgs answer parameters mountPoint)
      (withFile guest (storageKeyPath answer) key) with ⟨error | value, after⟩
    · rw [ran] at writes stops
      obtain ⟨error', failed⟩ :=
        (afterKeyFile_ends spawned (runScript_error ran)).2 fun both => Bool.false_ne_true both.2
      rw [failed]
      exact ⟨fun comes => writes ⟨comes.1.2, comes.2⟩,
        fun stays => ⟨(stops fun comes => stays ⟨⟨rfl, comes.1⟩, comes.2⟩).1, error', rfl⟩⟩
    · rw [ran] at writes stops
      have comes : ScriptOpens answer.script guest.disk parameters key ∧ answer.script.rm = none ∧
          WritesMapping answer.script (argument [parameters.dataIntegrity] 0 "true".toList) := by
        by_contra stays
        obtain ⟨_, _, impossible⟩ := stops stays
        cases impossible
      obtain ⟨done, stopped⟩ := afterKeyFile_ends spawned (runScript_ok ran)
      have left :
          (afterKeyFile answer parameters mountPoint (withFile guest (storageKeyPath answer) key)).2 = after := by
        by_cases waited : answer.wait = none ∧ true = true
        · rw [done waited]
        · obtain ⟨error, failed⟩ := stopped waited
          rw [failed]
      rw [left]
      exact ⟨fun _ => writes comes, fun stays => absurd ⟨⟨rfl, comes.1⟩, comes.2⟩ stays⟩

end Steps

section Rounds

variable {guest : Guest Volume} {rounds : List (Round Volume)}

/-- A mount with a key comes to the format, or changes no device and fails. -/
theorem mounts_cases (round : Round Volume) (guest : Guest Volume) (keyed : round.parameters.encryptionKey ≠ none) :
    (Formats round guest → guest.formatted.length < (round.mounts guest).2.formatted.length) ∧
      (¬ Formats round guest → SameDisks guest (round.mounts guest).2 ∧ ∃ error,
        (round.mounts guest).1 = .error error) := by
  rw [Round.mounts, Formats, and_iff_right keyed]
  cases creates : round.answer.keyFile.create with
  | some error =>
    have failed : secureDeviceMount round.answer round.parameters round.mountPoint guest = (.error error, guest) := by
      rw [secureDeviceMount, createStorageKeyFile, creates]
      rfl
    rw [failed]
    exact ⟨fun formats => absurd formats.1 (Option.some_ne_none error), fun _ =>
      ⟨SameDisks.refl guest, error, rfl⟩⟩
  | none =>
    cases fetched : plainKey round.answer round.parameters.encryptionKey with
    | error error =>
      have failed : secureDeviceMount round.answer round.parameters round.mountPoint guest =
          (.error error, guest.createFile (storageKeyPath round.answer)) := by
        rw [secureDeviceMount, createStorageKeyFile, creates, fetched]
        rfl
      rw [failed]
      refine ⟨fun formats => ?_, fun _ => ⟨⟨rfl, rfl⟩, error, rfl⟩⟩
      obtain ⟨_, impossible, _⟩ := formats.2.1
      cases impossible
    | ok key =>
      obtain ⟨ready, stopped⟩ :=
        createStorageKeyFile_ends round.answer round.parameters.encryptionKey guest creates fetched
      by_cases whole : round.answer.keyFile.cut = none ∧ round.answer.keyFile.sync = none
      · have begins : secureDeviceMount round.answer round.parameters round.mountPoint guest =
            afterKeyFile round.answer round.parameters round.mountPoint
              (withFile guest (storageKeyPath round.answer) key) := Action.bind_ok (ready whole)
        obtain ⟨writes, stops⟩ := afterKeyFile_writes round.answer round.parameters round.mountPoint keyed guest key
        rw [begins]
        refine ⟨fun formats => ?_, fun stays => stops fun comes => stays ?_⟩
        · obtain ⟨_, ⟨_, ⟨⟩, opens⟩, rest⟩ := formats
          exact writes ⟨opens.2.2, rest⟩
        · exact ⟨rfl, ⟨key, rfl, whole.1, whole.2, comes.1⟩, comes.2⟩
      · obtain ⟨error, failed⟩ := stopped whole
        have ended : secureDeviceMount round.answer round.parameters round.mountPoint guest =
            (.error error, withFile guest (storageKeyPath round.answer) (written round.answer.keyFile key)) :=
          Action.bind_error failed
        rw [ended]
        refine ⟨fun formats => ?_, fun _ => ⟨⟨rfl, rfl⟩, error, rfl⟩⟩
        obtain ⟨_, ⟨_, _, opens⟩, _⟩ := formats
        exact absurd ⟨opens.1, opens.2.1⟩ whole

/-- A round keeps what its device holds exactly if it does not come to the format. -/
theorem survives_round_iff (round : Round Volume) (guest : Guest Volume) :
    Survives round guest ↔ ¬ Formats round guest := by
  rw [Survives]
  by_cases keyed : round.parameters.encryptionKey = none
  · exact iff_of_true (fun differs => absurd keyed differs) fun formats => formats.1 keyed
  · obtain ⟨formats, stops⟩ := mounts_cases round guest keyed
    constructor
    · intro survives formats'
      have longer := formats formats'
      rw [(survives keyed).1] at longer
      exact absurd longer (lt_irrefl _)
    · intro stays _
      obtain ⟨same, failed⟩ := stops stays
      exact ⟨same.2, fun _ => same.1⟩

/-- Encrypted volumes survive a run of mounts exactly if none of those with a key comes to the format. -/
theorem survive_remounts_iff (rounds : List (Round Volume)) (guest : Guest Volume) :
    Throughout Survives rounds guest ↔ Throughout (fun round guest => ¬ Formats round guest) rounds guest := by
  induction rounds generalizing guest with
  | nil => exact Iff.rfl
  | cons round rounds ih => exact and_congr (survives_round_iff round guest) (ih (round.after guest))

end Rounds

section Sample

/-- A guest with an encrypted device. -/
def encryptedGuest (integrity : Bool) : Guest Nat :=
  { bareGuest with disk := fun device => if device = "/dev/sda".toList then .luks [7] integrity 42 else .plain }

/-- A mount of the device with its key. -/
def keyedRound (dataIntegrity : Text) : Round Nat :=
  ⟨⟨"8:0".toList, some "sealed.key".toList, dataIntegrity⟩, "/mnt".toList, smoothMount, 43⟩

/-- The device is mounted with the key it was encrypted with, and what it held is gone. -/
theorem remount_formats :
    ¬ Throughout Survives [keyedRound "false".toList] (encryptedGuest false) ∧
      ¬ Throughout Survives [keyedRound "true".toList] (encryptedGuest true) := by
  have emptied : ∀ integrity, ∀ dataIntegrity,
    ((keyedRound dataIntegrity).mounts (encryptedGuest integrity)).2.formatted ≠ [] →
      ¬ Throughout Survives [keyedRound dataIntegrity] (encryptedGuest integrity) := by
    intro integrity dataIntegrity formatted survives
    exact formatted (survives.1 nofun).1
  exact ⟨emptied false _ (by decide +kernel), emptied true _ (by decide +kernel)⟩

end Sample
end GuestComponents.Hub.SecureMount
