import GuestComponents.Lib.Text
import Mathlib.Logic.Function.Basic

/-! The shared-rootfs directory: the names its files get from keys, the entries
of the cache and of the bundle index, and what a reader makes of the files as
they stand. Serialisation is taken at its word: a file holds the entry that was
written to it, or bytes that no reader can parse. -/
namespace GuestComponents.SharedRootfs
open Lib

/-- The directories below `shared_rootfs_dir()`. -/
inductive Area where
  | cache | images | bundles | bundleIndex
  deriving DecidableEq

/-- A path below `shared_rootfs_dir()`, or another one. -/
inductive Path where
  | shared (area : Area) (names : List Text)
  | outside (text : Text)
  deriving DecidableEq

/-- `Path::join` with one component. -/
def Path.join : Path → Text → Path
  | shared area names, name => shared area (names ++ [name])
  | outside text, name => outside (text ++ '/' :: name)

/-- `shared_rootfs.rs::sanitize_path_component`; the vsock server has a copy. -/
def sanitizePathComponent (input : Text) : Text :=
  let out := input.map fun ch =>
    if ch.isAlphanum || ch == '.' || ch == '-' || ch == '_' then ch else '_'
  if out = [] then "image".toList else out

theorem sanitizePathComponent_ne_nil (input : Text) : sanitizePathComponent input ≠ [] := by
  simp only [sanitizePathComponent]
  split
  · decide
  · assumption

/-- `format!("{}.{}", component, suffix)`. -/
def fileName (component suffix : Text) : Text := component ++ '.' :: suffix

/-- `Path::with_extension` on a file name: what follows the last dot goes, the
dot included, unless only the dot is before it. -/
def withExtension (name extension : Text) : Text :=
  let stem := (name.reverse.dropWhile (· ≠ '.')).tail.reverse
  fileName (if stem = [] then name else stem) extension

def cacheFileSuffix : Text := "json".toList
def bundleFileSuffix : Text := "bundle.json".toList
def pendingFileSuffix : Text := "pending".toList
def digestFileSuffix : Text := "sha256.json".toList

/-- `cache_path`. -/
def cachePath (key suffix : Text) : Path :=
  .shared .cache [fileName (sanitizePathComponent key) suffix]

/-- `bundle_index_path`. -/
def bundleIndexPath (key : Text) : Path :=
  .shared .bundleIndex [fileName (sanitizePathComponent key) bundleFileSuffix]

def tmpSuffix : Text := ".tmp".toList

/-- The temporary file `write_cache_entry_for_key` renames to its target. -/
def cacheTmpPath (key : Text) : Path :=
  .shared .cache [withExtension (fileName (sanitizePathComponent key) cacheFileSuffix)
    (cacheFileSuffix ++ tmpSuffix)]

/-- The temporary file of `write_bundle_entry_for_key`. -/
def bundleTmpPath (key : Text) : Path :=
  .shared .bundleIndex [withExtension (fileName (sanitizePathComponent key) bundleFileSuffix)
    (bundleFileSuffix ++ tmpSuffix)]

def pendingPath (key : Text) : Path := cachePath key pendingFileSuffix

/-- `RootfsImageFormat`. -/
inductive RootfsImageFormat where
  | erofs | squashfs | ext4
  deriving DecidableEq

def RootfsImageFormat.asFsType : RootfsImageFormat → Text
  | erofs => "erofs".toList
  | squashfs => "squashfs".toList
  | ext4 => "ext4".toList

/-- The image file of a sanitised image id, as `prepare_shared_rootfs_image`
names it. -/
def imagePath (imagesDir : Path) (safeImageId : Text) (format : RootfsImageFormat) : Path :=
  imagesDir.join (fileName safeImageId format.asFsType)

/-- `SharedRootfsCacheEntry`. -/
structure CacheEntry where
  imageRef : Text
  imageId : Text
  fsType : Text
  imageSize : Nat
  blockSize : Nat
  rootfsDigest : Text
  ociConfigJson : List UInt8
  sourceRdAddr : Nat
  shareId : Nat
  pageCount : Nat
  rootfsImagePath : Path
  deriving DecidableEq

/-- `SharedRootfsBundleEntry`. -/
structure BundleEntry where
  imageRef : Text
  imageId : Text
  bundlePath : Path
  deriving DecidableEq

/-- `RootfsDigestSidecar`. -/
structure DigestSidecar where
  size : Nat
  modifiedUnixNanos : Nat
  sha256 : Text
  deriving DecidableEq

/-- An image file: what a build command of a process is still writing, the
output of a build of a source directory that ran to completion, or a file that
two builds wrote to. -/
inductive ImageData where
  | growing (builder : Nat)
  | complete (source : Path)
  | damaged
  deriving DecidableEq

inductive FileData where
  | cacheEntry (entry : CacheEntry)
  | bundleEntry (entry : BundleEntry)
  | digestSidecar (sidecar : DigestSidecar)
  | pending
  | image (image : ImageData)
  | bytes (data : List UInt8)
  deriving DecidableEq

structure File where
  data : FileData
  size : Nat
  modified : Nat
  deriving DecidableEq

/-- An error of the library or of the server: what failed, where, and why. -/
inductive Error where
  | here (message : String) (path : Option Path)
  | context (message : String) (path : Option Path) (cause : Error)
  deriving DecidableEq

/-- The regular files and the directories that exist. -/
structure Disk where
  files : Path → Option File
  dirs : Path → Bool

namespace Disk

/-- No file and no directory. -/
def empty : Disk := ⟨fun _ => none, fun _ => false⟩

def put (disk : Disk) (path : Path) (file : File) : Disk :=
  { disk with files := Function.update disk.files path (some file) }

def drop (disk : Disk) (path : Path) : Disk :=
  { disk with files := Function.update disk.files path none }

def addDir (disk : Disk) (path : Path) : Disk :=
  { disk with dirs := Function.update disk.dirs path true }

variable (disk : Disk)

def isFile (path : Path) : Bool := (disk.files path).isSome

def isDir (path : Path) : Bool := disk.dirs path

def pathExists (path : Path) : Bool := disk.isFile path || disk.isDir path

/-- `validate_shared_rootfs_cache_entry`. -/
def validateCacheEntry (entry : CacheEntry) : Except Error Unit :=
  if entry.imageRef = [] then
    .error (.here "shared rootfs cache entry has empty image_ref" none)
  else if entry.imageId = [] then
    .error (.here "shared rootfs cache entry has empty image_id" none)
  else if entry.shareId = 0 ∨ entry.sourceRdAddr = 0 then
    .error (.here "shared rootfs cache entry has invalid RMM descriptor" none)
  else if entry.imageSize = 0 ∨ entry.pageCount = 0 then
    .error (.here "shared rootfs cache entry has invalid image size/pages" none)
  else match disk.files entry.rootfsImagePath with
    | none => .error (.here "shared rootfs image does not exist" entry.rootfsImagePath)
    | some file =>
      if file.size ≠ entry.imageSize then
        .error (.here "shared rootfs image size changed" entry.rootfsImagePath)
      else .ok ()

def bundleRootfs (bundlePath : Path) : Path := bundlePath.join "rootfs".toList

def bundleConfig (bundlePath : Path) : Path := bundlePath.join "config.json".toList

/-- `validate_shared_rootfs_bundle_entry`. -/
def validateBundleEntry (entry : BundleEntry) : Except Error Unit :=
  if entry.imageRef = [] then
    .error (.here "shared rootfs bundle entry has empty image_ref" none)
  else if entry.imageId = [] then
    .error (.here "shared rootfs bundle entry has empty image_id" none)
  else if disk.isDir entry.bundlePath = false then
    .error (.here "shared rootfs bundle does not exist" entry.bundlePath)
  else if disk.isDir (bundleRootfs entry.bundlePath) = false then
    .error (.here "shared rootfs bundle has no rootfs" (bundleRootfs entry.bundlePath))
  else .ok ()

/-- `read_shared_rootfs_cache_entry`. -/
def readCacheEntry (key : Text) : Except Error (Option CacheEntry) :=
  let path := cachePath key cacheFileSuffix
  match disk.files path with
  | none => .ok none
  | some file =>
    match file.data with
    | .cacheEntry entry =>
      match disk.validateCacheEntry entry with
      | .error cause => .error (.context "invalid shared rootfs cache entry" path cause)
      | .ok () => .ok (some entry)
    | _ => .error (.here "failed to parse" path)

/-- `read_shared_rootfs_bundle_entry`. -/
def readBundleEntry (key : Text) : Except Error (Option BundleEntry) :=
  let path := bundleIndexPath key
  match disk.files path with
  | none => .ok none
  | some file =>
    match file.data with
    | .bundleEntry entry =>
      match disk.validateBundleEntry entry with
      | .error cause => .error (.context "invalid shared rootfs bundle entry" path cause)
      | .ok () => .ok (some entry)
    | _ => .error (.here "failed to parse" path)

/-- The key's entry is present and valid. -/
def Hits (key : Text) (entry : CacheEntry) : Prop := disk.readCacheEntry key = .ok (some entry)

/-- The key has an entry, one that its reader gives. -/
def hasEntry (key : Text) : Bool :=
  match disk.readCacheEntry key with
  | .ok (some _) => true
  | _ => false

/-- What a valid entry is. -/
theorem validateCacheEntry_iff {entry : CacheEntry} : disk.validateCacheEntry entry = .ok () ↔
    entry.imageRef ≠ [] ∧ entry.imageId ≠ [] ∧ (entry.shareId ≠ 0 ∧ entry.sourceRdAddr ≠ 0) ∧
      (entry.imageSize ≠ 0 ∧ entry.pageCount ≠ 0) ∧
      ∃ file, disk.files entry.rootfsImagePath = some file ∧ file.size = entry.imageSize := by
  constructor
  · intro valid
    unfold validateCacheEntry at valid
    split at valid
    · cases valid
    · split at valid
      · cases valid
      · split at valid
        · cases valid
        · split at valid
          · cases valid
          · rename_i named identified descriptor sized
            split at valid
            · cases valid
            · rename_i file found
              split at valid
              · cases valid
              · rename_i size
                exact ⟨named, identified, not_or.mp descriptor, not_or.mp sized, file, found,
                  not_not.mp size⟩
  · rintro ⟨named, identified, ⟨share, source⟩, ⟨size, pages⟩, file, found, same⟩
    rw [validateCacheEntry, if_neg named, if_neg identified, if_neg (not_or.mpr ⟨share, source⟩),
      if_neg (not_or.mpr ⟨size, pages⟩), found]
    exact if_neg (not_not_intro same)

/-- What a valid bundle entry is. -/
theorem validateBundleEntry_iff {entry : BundleEntry} : disk.validateBundleEntry entry = .ok () ↔
    entry.imageRef ≠ [] ∧ entry.imageId ≠ [] ∧ disk.isDir entry.bundlePath = true ∧
      disk.isDir (bundleRootfs entry.bundlePath) = true := by
  constructor
  · intro valid
    unfold validateBundleEntry at valid
    split at valid
    · cases valid
    · split at valid
      · cases valid
      · split at valid
        · cases valid
        · split at valid
          · cases valid
          · rename_i named identified bundle rootfs
            exact ⟨named, identified, eq_true_of_ne_false bundle, eq_true_of_ne_false rootfs⟩
  · rintro ⟨named, identified, bundle, rootfs⟩
    simp [validateBundleEntry, named, identified, bundle, rootfs]

/-- A hit is a file that holds a valid entry. -/
theorem hits_iff {key : Text} {entry : CacheEntry} : disk.Hits key entry ↔
    ∃ file, disk.files (cachePath key cacheFileSuffix) = some file ∧ file.data = .cacheEntry entry ∧
      disk.validateCacheEntry entry = .ok () := by
  constructor
  · intro hits
    simp only [Hits, readCacheEntry] at hits
    split at hits
    · cases hits
    · rename_i file found
      split at hits
      · rename_i stored data
        split at hits
        · cases hits
        · rename_i valid
          cases hits
          exact ⟨file, found, data, valid⟩
      · cases hits
  · rintro ⟨file, found, data, valid⟩
    simp only [Hits, readCacheEntry, found, data, valid]

/-- A key is missing when it has no file. -/
theorem readCacheEntry_none {key : Text} : disk.readCacheEntry key = .ok none ↔
    disk.files (cachePath key cacheFileSuffix) = none := by
  constructor
  · intro missing
    simp only [readCacheEntry] at missing
    split at missing
    · assumption
    · split at missing
      · split at missing <;> cases missing
      · cases missing
  · intro absent
    simp only [readCacheEntry, absent]

/-- Validation looks at the entry's image file only. -/
theorem validateCacheEntry_same {after : Disk} {entry : CacheEntry}
    (same : after.files entry.rootfsImagePath = disk.files entry.rootfsImagePath) :
    after.validateCacheEntry entry = disk.validateCacheEntry entry := by
  simp only [validateCacheEntry, same]

end Disk

section Names

variable {component component' suffix : Text}

private theorem no_dots {text : Text} (plain : '.' ∉ text) :
    ∀ c ∈ text.reverse, decide (c ≠ '.') = true := by
  intro c member
  rw [decide_eq_true_iff]
  rintro rfl
  exact plain (List.mem_reverse.mp member)

theorem fileName_injective (same : fileName component suffix = fileName component' suffix) :
    component = component' := List.append_cancel_right same

/-- Names with suffixes that have no dot determine the suffix. -/
theorem fileName_suffix {suffix' : Text} (plain : '.' ∉ suffix) (plain' : '.' ∉ suffix')
    (same : fileName component suffix = fileName component' suffix') :
    component = component' ∧ suffix = suffix' := by
  have parts := congrArg List.reverse same
  simp only [fileName, List.reverse_append, List.reverse_cons, List.append_assoc,
    List.singleton_append] at parts
  have heads := congrArg (List.takeWhile (· ≠ '.')) parts
  rw [List.takeWhile_append_of_pos (no_dots plain),
    List.takeWhile_append_of_pos (no_dots plain')] at heads
  simp only [ne_eq, decide_not, List.takeWhile_cons, decide_true, Bool.not_true,
    Bool.false_eq_true, if_false, List.append_nil, List.reverse_inj] at heads
  subst heads
  exact ⟨fileName_injective same, rfl⟩

theorem withExtension_fileName {extension : Text} (plain : '.' ∉ suffix) (solid : component ≠ []) :
    withExtension (fileName component suffix) extension = fileName component extension := by
  have stem : ((fileName component suffix).reverse.dropWhile (· ≠ '.')).tail.reverse = component := by
    rw [fileName, List.reverse_append, List.reverse_cons, List.append_assoc,
      List.dropWhile_append_of_pos (no_dots plain)]
    simp
  simp only [withExtension, stem, if_neg solid]

theorem cacheTmpPath_eq (key : Text) : cacheTmpPath key =
    .shared .cache [fileName (sanitizePathComponent key) (cacheFileSuffix ++ tmpSuffix)] := by
  rw [cacheTmpPath, withExtension_fileName (by decide) (sanitizePathComponent_ne_nil key)]

theorem cachePath_eq_iff {key other suffix : Text} :
    cachePath key suffix = cachePath other suffix ↔
      sanitizePathComponent key = sanitizePathComponent other := by
  constructor
  · intro same
    exact fileName_injective (by simpa [cachePath] using same)
  · intro same
    rw [cachePath, cachePath, same]

theorem cacheTmpPath_eq_iff {key other : Text} : cacheTmpPath key = cacheTmpPath other ↔
    cachePath key cacheFileSuffix = cachePath other cacheFileSuffix := by
  rw [cachePath_eq_iff, cacheTmpPath_eq, cacheTmpPath_eq]
  constructor
  · intro same
    exact fileName_injective (by simpa using same)
  · intro same
    rw [same]

/-- The last letter of a path. -/
def Path.lastLetter : Path → Option Char
  | .shared _ names => names.getLast?.bind List.getLast?
  | .outside text => text.getLast?

theorem fileName_lastLetter {component suffix : Text} {letter : Char} (last : suffix.getLast? = some letter) :
    (fileName component suffix).getLast? = some letter := by
  rw [fileName, List.getLast?_append, List.getLast?_cons, last]
  rfl

theorem pending_lastLetter (key : Text) : (pendingPath key).lastLetter = some 'g' :=
  fileName_lastLetter (by decide)

theorem entry_lastLetter (key : Text) : (cachePath key cacheFileSuffix).lastLetter = some 'n' :=
  fileName_lastLetter (by decide)

theorem tmp_lastLetter (key : Text) : (cacheTmpPath key).lastLetter = some 'p' := by
  rw [cacheTmpPath_eq]
  exact fileName_lastLetter (by decide)

theorem tmp_ne_entry (key other : Text) : cachePath other cacheFileSuffix ≠ cacheTmpPath key := by
  intro same
  have letters := congrArg Path.lastLetter same
  rw [entry_lastLetter, tmp_lastLetter] at letters
  exact absurd letters (by decide)

theorem pending_ne_entry (key other : Text) : pendingPath key ≠ cachePath other cacheFileSuffix := by
  intro same
  have letters := congrArg Path.lastLetter same
  rw [pending_lastLetter, entry_lastLetter] at letters
  exact absurd letters (by decide)

theorem pending_ne_tmp (key other : Text) : pendingPath key ≠ cacheTmpPath other := by
  intro same
  have letters := congrArg Path.lastLetter same
  rw [pending_lastLetter, tmp_lastLetter] at letters
  exact absurd letters (by decide)

/-- Two image files are the same file only for one id and one format. -/
theorem imagePath_injective {imagesDir : Path} {safe safe' : Text} {format format' : RootfsImageFormat}
    (same : imagePath imagesDir safe format = imagePath imagesDir safe' format') :
    safe = safe' ∧ format = format' := by
  have plain : ∀ format : RootfsImageFormat, '.' ∉ format.asFsType := by
    intro format
    cases format <;> decide
  have names : fileName safe format.asFsType = fileName safe' format'.asFsType := by
    cases imagesDir <;> simpa [imagePath, Path.join] using same
  obtain ⟨ids, formats⟩ := fileName_suffix (plain format) (plain format') names
  refine ⟨ids, ?_⟩
  revert formats
  cases format <;> cases format' <;> decide

end Names

end GuestComponents.SharedRootfs
