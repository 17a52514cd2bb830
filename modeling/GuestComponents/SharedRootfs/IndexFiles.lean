import GuestComponents.Lib.Inodes
import GuestComponents.Lib.Program
import GuestComponents.SharedRootfs.Store

/-! The files of the cache and of the bundle index, one system call at a time. The
host of the calls takes `fs::write` as one step; here it is an `open` that
truncates and then a `write` for every byte, so that writers which share a
temporary file meet inside it, and `fs::read` is an `open` and a `read` for
every byte. Writers and readers change nothing that an entry is validated
against, so the rest of the disk is a constant. -/
namespace GuestComponents.SharedRootfs
open Lib

/-- `Path::parent`. -/
def Path.parent : Path → Path
  | .shared area names => .shared area names.dropLast
  | .outside text => .outside (text.reverse.dropWhile (· ≠ '/')).tail.reverse

/-- One kind of index: its files, its entries, their checks and their serialised form. -/
structure Index (Entry : Type) where
  path : Text → Path
  tmpPath : Text → Path
  imageRef : Entry → Text
  imageId : Entry → Text
  validate : Entry → Except Error Unit
  invalid : String
  toVec : Entry → List UInt8
  fromSlice : List UInt8 → Option Entry
  apart : ∀ key other, path key ≠ tmpPath other
  beside : ∀ key, (tmpPath key).parent = (path key).parent

/-- The cache: `write_cache_entry_for_key`, `write_shared_rootfs_cache_entry` and
`read_shared_rootfs_cache_entry`. -/
def cacheIndex (disk : Disk) (toVec : CacheEntry → List UInt8)
    (fromSlice : List UInt8 → Option CacheEntry) : Index CacheEntry where
  path key := cachePath key cacheFileSuffix
  tmpPath := cacheTmpPath
  imageRef := CacheEntry.imageRef
  imageId := CacheEntry.imageId
  validate := disk.validateCacheEntry
  invalid := "invalid shared rootfs cache entry"
  toVec := toVec
  fromSlice := fromSlice
  apart key other := tmp_ne_entry other key
  beside _ := rfl

theorem lastLetter_fileName {area : Area} {component suffix : Text} {letter : Char}
    (ends : suffix.getLast? = some letter) :
    (Path.shared area [fileName component suffix]).lastLetter = some letter := by
  simp [Path.lastLetter, fileName, List.getLast?_append, List.getLast?_cons, ends]

theorem withExtension_stem (name extension : Text) :
    ∃ stem, withExtension name extension = fileName stem extension := ⟨_, rfl⟩

theorem bundleTmp_ne_entry (key other : Text) : bundleIndexPath key ≠ bundleTmpPath other := by
  intro same
  obtain ⟨stem, extended⟩ := withExtension_stem (fileName (sanitizePathComponent other) bundleFileSuffix)
    (bundleFileSuffix ++ tmpSuffix)
  have names := congrArg Path.lastLetter same
  rw [bundleTmpPath, extended, @lastLetter_fileName _ _ _ 'p' (by rfl), bundleIndexPath,
    @lastLetter_fileName _ _ _ 'n' (by rfl)] at names
  exact absurd names (by decide)

/-- The bundle index: `write_bundle_entry_for_key`, `write_shared_rootfs_bundle_entry`
and `read_shared_rootfs_bundle_entry`. -/
def bundleIndex (disk : Disk) (toVec : BundleEntry → List UInt8)
    (fromSlice : List UInt8 → Option BundleEntry) : Index BundleEntry where
  path := bundleIndexPath
  tmpPath := bundleTmpPath
  imageRef := BundleEntry.imageRef
  imageId := BundleEntry.imageId
  validate := disk.validateBundleEntry
  invalid := "invalid shared rootfs bundle entry"
  toVec := toVec
  fromSlice := fromSlice
  apart := bundleTmp_ne_entry
  beside _ := rfl

namespace IndexFiles

variable {Entry : Type}

/-- What a process reports: how a write of an entry ended, or a read of a key. -/
inductive Reply (Entry : Type) where
  | wrote (entry : Entry) (result : Except Error Unit)
  | read (key : Text) (result : Except Error (Option Entry))
  deriving DecidableEq

inductive Op (Entry : Type) where
  | createDirAll (path : Path)
  | create (path : Path)
  | write (inode offset : Nat) (byte : UInt8)
  | rename (source target : Path)
  | openFile (path : Path)
  | read (inode offset : Nat)
  | reply (reply : Reply Entry)

/-- An open gives an inode or finds nothing; a read gives a byte or the end. -/
abbrev Answer : Op Entry → Type
  | .create _ | .openFile _ => Option Nat
  | .rename _ _ => Bool
  | .read _ _ => Option UInt8
  | _ => Unit

abbrev Prog (Entry : Type) := Program (Op Entry) Answer

abbrev Fail (Entry : Type) := Fallible (Op Entry) Answer Error

abbrev call (op : Op Entry) : Prog Entry (Answer op) := Program.perform op

/-- A check that performs nothing. -/
abbrev attempt {α : Type} (result : Except Error α) : Fail Entry α := ExceptT.mk (pure result)

abbrev ask {α : Type} (program : Prog Entry α) : Fail Entry α := ExceptT.lift program

/-- `write_all`, from an offset on. -/
def writeAll (inode : Nat) : Nat → List UInt8 → Prog Entry Unit
  | _, [] => pure ()
  | offset, byte :: rest => do
    call (.write inode offset byte)
    writeAll inode (offset + 1) rest

/-- `fs::write`. -/
def fsWrite (path : Path) (data : List UInt8) : Fail Entry Unit := do
  match ← ask (call (.create path)) with
  | none => throw (.here "failed to write" path)
  | some inode => ask (writeAll inode 0 data)

/-- The loop of `fs::read`, which has not come to its end after this many reads
where it gives nothing. -/
def readToEnd (inode : Nat) : Nat → List UInt8 → Prog Entry (Option (List UInt8))
  | 0, _ => pure none
  | reads + 1, data => do
    match ← call (.read inode data.length) with
    | none => pure (some data)
    | some byte => readToEnd inode reads (data ++ [byte])

variable (index : Index Entry)

/-- `write_cache_entry_for_key` and `write_bundle_entry_for_key`. -/
def writeEntryForKey (key : Text) (entry : Entry) : Fail Entry Unit := do
  ask (call (.createDirAll (index.path key).parent))
  fsWrite (index.tmpPath key) (index.toVec entry)
  if ← ask (call (.rename (index.tmpPath key) (index.path key))) then pure ()
  else throw (.here "failed to rename" (index.tmpPath key))

/-- `write_shared_rootfs_cache_entry` and `write_shared_rootfs_bundle_entry`. -/
def writeEntry (entry : Entry) : Fail Entry Unit := do
  attempt (index.validate entry)
  writeEntryForKey index (index.imageRef entry) entry
  if index.imageId entry ≠ index.imageRef entry then
    writeEntryForKey index (index.imageId entry) entry
  else pure ()

/-- What a reader makes of the bytes of a file. -/
def parse (key : Text) (data : List UInt8) : Except Error (Option Entry) :=
  match index.fromSlice data with
  | none => .error (.here "failed to parse" (index.path key))
  | some entry =>
    match index.validate entry with
    | .error cause => .error (.context index.invalid (index.path key) cause)
    | .ok () => .ok (some entry)

/-- `read_shared_rootfs_cache_entry` and `read_shared_rootfs_bundle_entry`, without a
result where the file is still being read. -/
def readEntry (key : Text) (reads : Nat) : Prog Entry (Option (Except Error (Option Entry))) := do
  match ← call (.openFile (index.path key)) with
  | none => pure (some (.ok none))
  | some inode =>
    match ← readToEnd inode reads [] with
    | none => pure none
    | some data => pure (some (parse index key data))

/-- A call: the write of one of the entries that are to be written, or a read of a
key that takes up to so many reads of its file. -/
inductive Request where
  | write (writer : Nat)
  | read (key : Text) (reads : Nat)

/-- A call, up to its reply. -/
def Request.program (entries : Nat → Entry) : Request → Prog Entry Unit
  | .write writer => do
    call (.reply (.wrote (entries writer) (← (writeEntry index (entries writer)).run)))
  | .read key reads => do
    match ← readEntry index key reads with
    | none => pure ()
    | some result => call (.reply (.read key result))

/-- The files and the directories, and what is noted of the run: the calls, the
temporary file that a process has opened and not renamed, the renames and the replies. -/
structure World (Entry : Type) where
  files : Inodes Path
  dirs : Path → Bool
  requests : List (Nat × Request)
  holds : Nat → Option (Path × Nat)
  renamed : List (Nat × Path)
  replies : List (Reply Entry)

/-- No file, no directory and no call. -/
def World.blank : World Entry := ⟨.empty, fun _ => false, [], fun _ => none, [], []⟩

/-- A process has opened a temporary file. -/
def World.opened (world : World Entry) (pid : Nat) (path : Path) : World Entry :=
  { world with
    files := (world.files.create path).2
    holds := Function.update world.holds pid (some (path, (world.files.create path).1)) }

/-- A process has renamed a temporary file to this path. -/
def World.moved (world : World Entry) (pid : Nat) (target : Path) (files : Inodes Path) : World Entry :=
  { world with
    files := files
    holds := Function.update world.holds pid none
    renamed := (pid, target) :: world.renamed }

/-- One system call of a process, or its reply. -/
def perform (pid : Nat) (world : World Entry) : (op : Op Entry) → Answer op × World Entry
  | .createDirAll path => ((), { world with dirs := Function.update world.dirs path true })
  | .create path =>
    if world.dirs path.parent then
      (some (world.files.create path).1, world.opened pid path)
    else (none, world)
  | .write inode offset byte => ((), { world with files := world.files.write inode offset byte })
  | .rename source target =>
    match world.files.rename source target with
    | none => (false, world)
    | some files => (true, world.moved pid target files)
  | .openFile path => (world.files.inodeOf path, world)
  | .read inode offset => (world.files.read inode offset, world)
  | .reply reply => ((), { world with replies := reply :: world.replies })

/-- The kernel, for these calls. Nothing depends on a choice of the environment. -/
def kernel : Service (Op Entry) Answer (World Entry) Unit Request where
  perform pid world op _ := perform pid world op
  began pid request world := { world with requests := (pid, request) :: world.requests }
  died pid world := { world with holds := Function.update world.holds pid none }

/-- Concurrent writers and readers of an index, any number of them, each of which
may die at any point. -/
def accesses (entries : Nat → Entry) :
    System (Pool (Op Entry) Answer (World Entry)) (PoolLabel Request Unit) :=
  kernel.pool (Request.program index entries) (· = .blank)

end IndexFiles

end GuestComponents.SharedRootfs
