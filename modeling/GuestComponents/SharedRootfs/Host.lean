import GuestComponents.Lib.Program
import GuestComponents.SharedRootfs.Store

/-! The operations that the shared-rootfs code and the vsock server perform, one
atomic step each: file-system calls, external commands (their start and their
end), the RMM share device and the image pull. Every operation can fail. The
world keeps the disk and the history of what every process began, did and got
as an answer. -/
namespace GuestComponents.SharedRootfs
open Lib

/-- `coco_image_share.rs::SharedImage`. -/
structure SharedImage where
  shareId : Nat
  sourceRdAddr : Nat
  imageSize : Nat
  pageCount : Nat
  deriving DecidableEq

/-- `RootfsImageInfo`, less its timings. -/
structure RootfsImageInfo where
  path : Path
  format : RootfsImageFormat
  size : Nat
  sha256 : Text
  deriving DecidableEq

/-- `PrepareRootfsResponse`. -/
structure PrepareRootfsResponse where
  imageId : Text
  fsType : Text
  imageSize : Nat
  blockSize : Nat
  rootfsDigest : Text
  ociConfigJson : List UInt8
  sourceRdAddr : Nat
  shareId : Nat
  pageCount : Nat
  deriving DecidableEq

/-- A call into the library or the server. `polls` is the number of times its
wait loop looks before the timeout has passed. -/
inductive Request where
  | writeCache (entry : CacheEntry)
  | writeBundle (entry : BundleEntry)
  | prepare (imageRef imageId : Text) (bundleDir : Path)
  | prepareImage (rootfsDir imagesDir : Path) (safeImageId imageRef : Text)
  | wait (imageRef : Text) (polls : Nat)
  | prepareRootfs (imageRef : Text) (polls : Nat)
  deriving DecidableEq

inductive Reply where
  | wrote (result : Except Error Unit)
  | prepared (result : Except Error CacheEntry)
  | image (result : Except Error RootfsImageInfo)
  | waited (result : Except Error (Option CacheEntry))
  | rootfs (result : Except Error PrepareRootfsResponse)
  deriving DecidableEq

/-- The programs of `build_erofs_image`, `build_squashfs_image` and
`build_ext4_image`. -/
inductive Command where
  | mkfsErofs (preserveXattrs : Bool) (outputImage rootfsDir : Path)
  | mksquashfs (rootfsDir outputImage : Path) (compressor : Text)
  | truncate (sizeMb : Nat) (outputImage : Path)
  | mkfsExt4 (rootfsDir outputImage : Path)
  deriving DecidableEq

def Command.outputImage : Command → Path
  | mkfsErofs _ output _ => output
  | mksquashfs _ output _ => output
  | truncate _ output => output
  | mkfsExt4 _ output => output

/-- Where in the source a cache entry is read. No operation depends on it. -/
inductive Site where
  | lookup | wait | recheck | byImageId
  deriving DecidableEq

inductive Op where
  | readCache (site : Site) (key : Text)
  | readBundle (key : Text)
  | validateCache (entry : CacheEntry)
  | validateBundle (entry : BundleEntry)
  | createDirAll (path : Path)
  | writeFile (path : Path) (data : FileData)
  | rename (source target : Path)
  | removeFile (path : Path)
  | isFile (path : Path)
  | isDir (path : Path)
  | pathExists (path : Path)
  | metadata (path : Path)
  | readConfig (path : Path)
  | readSidecar (path : Path)
  | sha256File (path : Path)
  | rootfsContentSize (rootfsDir : Path)
  | commandAvailable (program : String)
  | envTruthy (name : String)
  | startCommand (command : Command)
  | awaitCommand (command : Command)
  | createShare (imageRef imageId : Text) (path : Path)
  | pullImage (imageRef : Text) (bundlePath : Path)
  | nowMillis
  | reply (reply : Reply)
  deriving DecidableEq

abbrev Answer : Op → Type
  | .readCache _ _ => Except Error (Option CacheEntry)
  | .readBundle _ => Except Error (Option BundleEntry)
  | .isFile _ | .isDir _ | .pathExists _ | .commandAvailable _ | .envTruthy _ => Bool
  | .metadata _ => Except Error (Nat × Nat)
  | .readConfig _ => Except Error (List UInt8)
  | .readSidecar _ => Except Error (Option DigestSidecar)
  | .sha256File _ | .pullImage _ _ => Except Error Text
  | .rootfsContentSize _ => Except Error Nat
  | .createShare _ _ _ => Except Error SharedImage
  | .nowMillis => Nat
  | .reply _ => Unit
  | _ => Except Error Unit

inductive Event where
  | began (pid : Nat) (request : Request)
  | did (pid : Nat) (op : Op) (answer : Answer op)
  | died (pid : Nat)

structure World where
  disk : Disk
  history : List Event

/-- What the environment decides at one operation: whether it fails, what a
failed write or command leaves, and the values that come from outside. -/
structure Choice where
  fails : Bool := false
  leaves : Option Nat := none
  imageId : Text := []
  config : Option (List UInt8) := none
  share : SharedImage := ⟨1, 1, 1, 1⟩
  size : Nat := 1
  modified : Nat := 0
  digest : Text := []
  flag : Bool := true

/-- An operation that fails where the environment says so. -/
def outcome {α : Type} (fails : Bool) (message : String) (path : Path) (value : α) : Except Error α :=
  if fails then .error (.here message path) else .ok value

/-- The output file at the start of a command. -/
def Command.opens (pid : Nat) (disk : Disk) (choice : Choice) (command : Command) : Disk :=
  match command with
  | mkfsExt4 _ output =>
    match disk.files output with
    | none => disk
    | some file => disk.put output
      ⟨.image (if file.data = .image (.growing pid) then .growing pid else .damaged),
        file.size, choice.modified⟩
  | _ => disk.put command.outputImage ⟨.image (.growing pid), 0, choice.modified⟩

/-- What a command that succeeds makes of the file it has been writing. -/
def Command.finished (pid : Nat) (choice : Choice) (file : File) (command : Command) : File :=
  if file.data = .image (.growing pid) then
    match command with
    | mkfsErofs _ _ rootfsDir => ⟨.image (.complete rootfsDir), choice.size, choice.modified⟩
    | mksquashfs rootfsDir _ _ => ⟨.image (.complete rootfsDir), choice.size, choice.modified⟩
    | truncate sizeMb _ => ⟨.image (.growing pid), sizeMb * 1048576, choice.modified⟩
    | mkfsExt4 rootfsDir _ => ⟨.image (.complete rootfsDir), file.size, choice.modified⟩
  else ⟨.image .damaged, choice.size, choice.modified⟩

/-- The output file at the end of a command. -/
def Command.closes (pid : Nat) (disk : Disk) (choice : Choice) (command : Command) : Disk :=
  if choice.fails then
    match choice.leaves with
    | none => disk.drop command.outputImage
    | some size => disk.put command.outputImage ⟨.image (.growing pid), size, choice.modified⟩
  else match disk.files command.outputImage with
    | none => disk
    | some file => disk.put command.outputImage (command.finished pid choice file)

/-- One operation on the disk. -/
def act (pid : Nat) (disk : Disk) : (op : Op) → Choice → Answer op × Disk
  | .readCache _ key, choice =>
    (if choice.fails then .error (.here "failed to read" (cachePath key cacheFileSuffix))
      else disk.readCacheEntry key, disk)
  | .readBundle key, choice =>
    (if choice.fails then .error (.here "failed to read" (bundleIndexPath key))
      else disk.readBundleEntry key, disk)
  | .validateCache entry, _ => (disk.validateCacheEntry entry, disk)
  | .validateBundle entry, _ => (disk.validateBundleEntry entry, disk)
  | .createDirAll path, choice =>
    (outcome choice.fails "failed to create" path (), if choice.fails then disk else disk.addDir path)
  | .writeFile path data, choice =>
    (outcome choice.fails "failed to write" path (),
      if choice.fails then
        match choice.leaves with
        | none => disk
        | some size => disk.put path ⟨.bytes [], size, choice.modified⟩
      else disk.put path ⟨data, choice.size, choice.modified⟩)
  | .rename source target, choice =>
    match disk.files source with
    | none => (.error (.here "failed to rename" source), disk)
    | some file => (outcome choice.fails "failed to rename" source (),
        if choice.fails then disk else (disk.drop source).put target file)
  | .removeFile path, choice =>
    match disk.files path with
    | none => (.error (.here "failed to remove" path), disk)
    | some _ => (outcome choice.fails "failed to remove" path (),
        if choice.fails then disk else disk.drop path)
  | .isFile path, _ => (disk.isFile path, disk)
  | .isDir path, _ => (disk.isDir path, disk)
  | .pathExists path, _ => (disk.pathExists path, disk)
  | .metadata path, choice =>
    (match disk.files path with
      | some file => outcome choice.fails "failed to stat" path (file.size, file.modified)
      | none => outcome (choice.fails || !disk.isDir path) "failed to stat" path
          (choice.size, choice.modified), disk)
  | .readConfig path, choice =>
    (match disk.files path with
      | some ⟨.bytes data, _, _⟩ => outcome choice.fails "failed to read" path data
      | _ => .error (.here "failed to read" path), disk)
  | .readSidecar path, choice =>
    (match disk.files path with
      | none => .ok none
      | some ⟨.digestSidecar sidecar, _, _⟩ => outcome choice.fails "failed to read" path (some sidecar)
      | some _ => outcome choice.fails "failed to read" path none, disk)
  | .sha256File path, choice =>
    (outcome (choice.fails || !disk.isFile path) "failed to open" path choice.digest, disk)
  | .rootfsContentSize rootfsDir, choice =>
    (outcome choice.fails "failed to walk rootfs source directory" rootfsDir choice.size, disk)
  | .commandAvailable _, choice => (choice.flag, disk)
  | .envTruthy _, choice => (choice.flag, disk)
  | .startCommand command, choice =>
    (outcome choice.fails "failed to execute" command.outputImage (),
      if choice.fails then disk else command.opens pid disk choice)
  | .awaitCommand command, choice =>
    (outcome choice.fails "command failed" command.outputImage (), command.closes pid disk choice)
  | .createShare _ _ path, choice => (outcome choice.fails "failed to create RMM share for" path choice.share, disk)
  | .pullImage _ bundlePath, choice =>
    (outcome choice.fails "pull_image failed for" bundlePath choice.imageId,
      if choice.fails then disk
      else
        let pulled := disk.addDir (Disk.bundleRootfs bundlePath)
        match choice.config with
        | none => pulled
        | some data => pulled.put (Disk.bundleConfig bundlePath) ⟨.bytes data, choice.size, choice.modified⟩)
  | .nowMillis, choice => (choice.modified, disk)
  | .reply _, _ => ((), disk)

/-- The host: operations change the disk and are recorded. -/
def host : Service Op Answer World Choice Request where
  perform pid world op choice :=
    ((act pid world.disk op choice).1,
      ⟨(act pid world.disk op choice).2, .did pid op (act pid world.disk op choice).1 :: world.history⟩)
  began pid request world := { world with history := .began pid request :: world.history }
  died pid world := { world with history := .died pid :: world.history }

/-- The regular files an operation may change. -/
def Op.touches : Op → Path → Prop
  | .writeFile path _, changed => changed = path
  | .rename source target, changed => changed = source ∨ changed = target
  | .removeFile path, changed => changed = path
  | .startCommand command, changed => changed = command.outputImage
  | .awaitCommand command, changed => changed = command.outputImage
  | .pullImage _ bundlePath, changed => changed = Disk.bundleConfig bundlePath
  | _, _ => False

/-- The directories an operation may create. -/
def Op.creates : Op → Path → Prop
  | .createDirAll path, created => created = path
  | .pullImage _ bundlePath, created => created = Disk.bundleRootfs bundlePath
  | _, _ => False

section Frame

variable {disk : Disk} {path : Path} {file : File} {pid : Nat} {op : Op} {choice : Choice}

@[simp] theorem put_files_self : (disk.put path file).files path = some file :=
  Function.update_self ..

theorem put_files_ne {other : Path} (differs : other ≠ path) :
    (disk.put path file).files other = disk.files other := Function.update_of_ne differs ..

@[simp] theorem drop_files_self : (disk.drop path).files path = none := Function.update_self ..

theorem drop_files_ne {other : Path} (differs : other ≠ path) :
    (disk.drop path).files other = disk.files other := Function.update_of_ne differs ..

@[simp] theorem addDir_files : (disk.addDir path).files = disk.files := rfl
@[simp] theorem put_dirs : (disk.put path file).dirs = disk.dirs := rfl
@[simp] theorem drop_dirs : (disk.drop path).dirs = disk.dirs := rfl

@[simp] theorem addDir_dirs_self : (disk.addDir path).dirs path = true := Function.update_self ..

theorem addDir_dirs_ne {other : Path} (differs : other ≠ path) :
    (disk.addDir path).dirs other = disk.dirs other := Function.update_of_ne differs ..

theorem opens_files {command : Command} (other : path ≠ command.outputImage) :
    (command.opens pid disk choice).files path = disk.files path := by
  cases command with
  | mkfsExt4 rootfsDir output =>
    simp only [Command.opens]
    split
    · rfl
    · exact put_files_ne other
  | _ => exact put_files_ne other

theorem closes_files {command : Command} (other : path ≠ command.outputImage) :
    (command.closes pid disk choice).files path = disk.files path := by
  unfold Command.closes
  split <;> split <;> first | rfl | exact put_files_ne other | exact drop_files_ne other

theorem opens_dirs {command : Command} : (command.opens pid disk choice).dirs = disk.dirs := by
  cases command with
  | mkfsExt4 rootfsDir output =>
    simp only [Command.opens]
    split <;> rfl
  | _ => rfl

theorem closes_dirs {command : Command} : (command.closes pid disk choice).dirs = disk.dirs := by
  unfold Command.closes
  split <;> split <;> rfl

theorem closes_success {command : Command} (works : choice.fails = false)
    (found : disk.files command.outputImage = some file) : command.closes pid disk choice =
      disk.put command.outputImage (command.finished pid choice file) := by
  simp [Command.closes, works, found]

theorem outcome_ok {α : Type} {fails : Bool} {message : String} {value got : α} :
    outcome fails message path value = .ok got ↔ fails = false ∧ value = got := by
  unfold outcome
  split <;> simp_all

attribute [local simp] act in
theorem act_found {site : Site} {key : Text} {entry : CacheEntry}
    (found : (act pid disk (.readCache site key) choice).1 = .ok (some entry)) : disk.Hits key entry := by
  simp only [act] at found
  split at found
  · cases found
  · exact found

theorem act_missed {site : Site} {key : Text}
    (missed : (act pid disk (.readCache site key) choice).1 = .ok none) :
    choice.fails = false ∧ disk.files (cachePath key cacheFileSuffix) = none := by
  simp only [act] at missed
  split at missed
  · cases missed
  · rename_i works
    exact ⟨eq_false_of_ne_true works, disk.readCacheEntry_none.mp missed⟩

/-- A write that succeeds leaves what was written. -/
theorem act_wrote {data : FileData} (wrote : (act pid disk (.writeFile path data) choice).1 = .ok ()) :
    (act pid disk (.writeFile path data) choice).2 = disk.put path ⟨data, choice.size, choice.modified⟩ := by
  obtain ⟨works, _⟩ := outcome_ok.mp wrote
  simp only [act, works, Bool.false_eq_true, if_false]

/-- A rename that succeeds moves the file. -/
theorem act_renamed {source target : Path} (renamed : (act pid disk (.rename source target) choice).1 = .ok ()) :
    ∃ moved, disk.files source = some moved ∧
      (act pid disk (.rename source target) choice).2 = (disk.drop source).put target moved := by
  simp only [act] at renamed ⊢
  split at renamed
  · cases renamed
  · rename_i moved found
    obtain ⟨works, _⟩ := outcome_ok.mp renamed
    exact ⟨moved, found, by simp only [works, Bool.false_eq_true, if_false]⟩

theorem act_removeFile : (act pid disk (.removeFile path) choice).2 =
    if disk.isFile path = true ∧ choice.fails = false then disk.drop path else disk := by
  simp only [act, Disk.isFile]
  split
  · rename_i absent
    simp [absent]
  · rename_i present
    cases choice.fails <;> simp [present]

/-- A rename that fails leaves the disk. -/
theorem act_not_renamed {source target : Path} {error : Error}
    (failed : (act pid disk (.rename source target) choice).1 = .error error) :
    (act pid disk (.rename source target) choice).2 = disk := by
  simp only [act] at failed ⊢
  split at failed
  · rfl
  · simp only [outcome] at failed
    split at failed
    · rename_i fails
      simp only [fails, if_true]
    · cases failed

/-- An operation leaves every file alone that it does not touch. -/
theorem act_files (untouched : ¬ op.touches path) :
    (act pid disk op choice).2.files path = disk.files path := by
  cases op with
  | createDirAll _ => simp only [act]; split <;> rfl
  | writeFile target data =>
    simp only [act]
    split
    · split
      · rfl
      · exact put_files_ne untouched
    · exact put_files_ne untouched
  | rename source target =>
    simp only [Op.touches, not_or] at untouched
    simp only [act]
    split
    · rfl
    · dsimp only
      split
      · rfl
      · rw [put_files_ne untouched.2, drop_files_ne untouched.1]
  | removeFile target =>
    simp only [act]
    split
    · rfl
    · dsimp only
      split
      · rfl
      · exact drop_files_ne untouched
  | startCommand command =>
    simp only [act]
    split
    · rfl
    · exact opens_files untouched
  | awaitCommand command => exact closes_files untouched
  | pullImage imageRef bundlePath =>
    simp only [act]
    split
    · rfl
    · split
      · rfl
      · exact put_files_ne untouched
  | _ => rfl

/-- A file's content is an entry of the cache or of the bundle index. -/
inductive FileData.IsEntry : FileData → Prop where
  | cacheEntry (entry : CacheEntry) : IsEntry (.cacheEntry entry)
  | bundleEntry (entry : BundleEntry) : IsEntry (.bundleEntry entry)

private theorem put_stored {other : Path} {found : File} (stored : (disk.put other file).files path = some found)
    (plain : ¬ file.data.IsEntry) (entry : found.data.IsEntry) : disk.files path = some found := by
  by_cases same : path = other
  · subst same
    rw [put_files_self] at stored
    cases stored
    exact absurd entry plain
  · rwa [put_files_ne same] at stored

private theorem drop_stored {other : Path} {found : File}
    (stored : (disk.drop other).files path = some found) : disk.files path = some found := by
  by_cases same : path = other
  · subst same
    rw [drop_files_self] at stored
    cases stored
  · rwa [drop_files_ne same] at stored

private theorem opens_stored {command : Command} {found : File}
    (stored : (command.opens pid disk choice).files path = some found) (entry : found.data.IsEntry) :
    disk.files path = some found := by
  cases command with
  | mkfsExt4 rootfsDir output =>
    simp only [Command.opens] at stored
    split at stored
    · exact stored
    · exact put_stored stored (by rintro ⟨⟩) entry
  | _ => exact put_stored stored (by rintro ⟨⟩) entry

private theorem finished_plain {command : Command} : ¬ (command.finished pid choice file).data.IsEntry := by
  unfold Command.finished
  split
  · split <;> rintro ⟨⟩
  · rintro ⟨⟩

private theorem closes_stored {command : Command} {found : File}
    (stored : (command.closes pid disk choice).files path = some found) (entry : found.data.IsEntry) :
    disk.files path = some found := by
  unfold Command.closes at stored
  split at stored
  · split at stored
    · exact drop_stored stored
    · exact put_stored stored (by rintro ⟨⟩) entry
  · split at stored
    · exact stored
    · exact put_stored stored finished_plain entry

/-- An entry that a file holds after an operation was there before it, or came
by a rename, or is the content the operation wrote. -/
theorem act_entry {found : File} (stored : (act pid disk op choice).2.files path = some found)
    (entry : found.data.IsEntry) : disk.files path = some found ∨
      (∃ source, op = .rename source path ∧ disk.files source = some found) ∨
      op = .writeFile path found.data := by
  cases op with
  | createDirAll _ =>
    simp only [act] at stored
    split at stored <;> exact .inl stored
  | writeFile target data =>
    simp only [act] at stored
    split at stored
    · split at stored
      · exact .inl stored
      · exact .inl (put_stored stored (by rintro ⟨⟩) entry)
    · by_cases same : path = target
      · subst same
        rw [put_files_self] at stored
        cases stored
        exact .inr (.inr rfl)
      · rw [put_files_ne same] at stored
        exact .inl stored
  | rename source target =>
    simp only [act] at stored
    split at stored
    · exact .inl stored
    · rename_i moved present
      dsimp only at stored
      split at stored
      · exact .inl stored
      · by_cases same : path = target
        · subst same
          rw [put_files_self] at stored
          cases stored
          exact .inr (.inl ⟨source, rfl, present⟩)
        · rw [put_files_ne same] at stored
          exact .inl (drop_stored stored)
  | removeFile target =>
    simp only [act] at stored
    split at stored
    · exact .inl stored
    · dsimp only at stored
      split at stored
      · exact .inl stored
      · exact .inl (drop_stored stored)
  | startCommand command =>
    simp only [act] at stored
    split at stored
    · exact .inl stored
    · exact .inl (opens_stored stored entry)
  | awaitCommand command => exact .inl (closes_stored stored entry)
  | pullImage imageRef bundlePath =>
    simp only [act] at stored
    split at stored
    · exact .inl stored
    · split at stored
      · exact .inl stored
      · exact .inl (put_stored stored (by rintro ⟨⟩) entry)
  | _ => exact .inl stored

/-- No operation removes a directory, and only these create one. -/
theorem act_dirs (absent : ¬ op.creates path) :
    (act pid disk op choice).2.dirs path = disk.dirs path := by
  cases op with
  | createDirAll _ =>
    simp only [act]
    split
    · rfl
    · exact addDir_dirs_ne absent
  | writeFile target data => simp only [act]; split <;> [skip; rfl]; split <;> rfl
  | rename source target => simp only [act]; split <;> [rfl; skip]; dsimp only; split <;> rfl
  | removeFile target => simp only [act]; split <;> [rfl; skip]; dsimp only; split <;> rfl
  | startCommand command => simp only [act]; split <;> [rfl; rw [opens_dirs]]
  | awaitCommand command => simp only [act, closes_dirs]
  | pullImage imageRef bundlePath =>
    simp only [act]
    split
    · rfl
    · split <;> exact addDir_dirs_ne absent
  | _ => rfl

/-- A directory that exists stays. -/
theorem act_keeps_dir (present : disk.dirs path = true) :
    (act pid disk op choice).2.dirs path = true := by
  by_cases created : op.creates path
  · cases op with
    | createDirAll target =>
      cases created
      simp only [act]
      split
      · exact present
      · exact addDir_dirs_self
    | pullImage imageRef bundlePath =>
      cases created
      simp only [act]
      split
      · exact present
      · split <;> exact addDir_dirs_self
    | _ => cases created
  · rw [act_dirs created, present]

end Frame

end GuestComponents.SharedRootfs
