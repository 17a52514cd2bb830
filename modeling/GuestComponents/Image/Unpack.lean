import GuestComponents.Image.LayerStore
import GuestComponents.Lib.Program

/-! `unpack.rs`: the entries of a layer's archive, as operations on files. What the archive
crate does with an entry it keeps within the directory of the layer; the owner, the mode, the
times and the whiteouts are set by path. These paths stay in the directory exactly where none of
the entries that are reached leads above it (`unpack_within_iff`). -/
namespace GuestComponents.Image.Unpack
open Lib Lib.Text

/-- What is done to a file. -/
inductive Act where
  | pathExists
  | removeDirAll
  | createDirAll
  | openFile (write : Bool)
  | setXattr (name : Text)
  /-- `Entry::unpack_in`, which skips an entry with `..` and follows no link out of the directory. -/
  | unpackIn (entry : Text) (xattrs : Bool)
  | mknod
  | lchown (uid gid : UInt32)
  | fchown (uid gid : UInt32)
  | setPermissions (mode : UInt32)
  | setFileTimes (mtime : Int64)
  | utimes (mtime : Int64)

/-- An operation, with the path that the operating system is given. -/
structure FileOp where
  act : Act
  path : Text

abbrev Answer (_ : FileOp) : Type := Except String Unit

abbrev Prog := Fallible FileOp Answer String

/-- An operation whose error ends the unpacking. -/
def call (act : Act) (path : Text) : Prog Unit := ExceptT.mk (Program.perform ⟨act, path⟩)

/-- An operation whose error is only looked at. -/
def succeeds (act : Act) (path : Text) : Prog Bool := ExceptT.lift (Except.isOk <$> Program.perform ⟨act, path⟩)

def ofExcept {α : Type} (result : Except String α) : Prog α := ExceptT.mk (pure result)

section Paths

/-- `std::path::Component`. -/
inductive Component where
  | rootDir
  | curDir
  | parentDir
  | normal (name : Text)

def Component.text : Component → Text
  | rootDir => []
  | curDir => ['.']
  | parentDir => ['.', '.']
  | normal name => name

/-- `Path::components`: of the dots only a leading one is kept. -/
def components (path : Text) : List Component :=
  let parts := split '/' path
  let leading :=
    if path.head? = some '/' then [.rootDir]
    else if parts.head? = some ['.'] then [.curDir]
    else []
  leading ++ parts.filterMap fun part =>
    if part = [] ∨ part = ['.'] then none
    else if part = ['.', '.'] then some .parentDir
    else some (.normal part)

/-- `Components::as_path`, with one separator between two components. -/
def asPath : List Component → Text
  | .rootDir :: rest => '/' :: List.intercalate ['/'] (rest.map Component.text)
  | components => List.intercalate ['/'] (components.map Component.text)

/-- `Path::file_name`. -/
def fileName (path : Text) : Option Text :=
  match (components path).getLast? with
  | some (.normal name) => some name
  | _ => none

/-- `Path::parent`. -/
def parent (path : Text) : Option Text :=
  match (components path).getLast? with
  | none => none
  | some .rootDir => none
  | some _ => some (asPath (components path).dropLast)

/-- `Path::join`. -/
def join (base path : Text) : Text :=
  if path.head? = some '/' then path
  else if base = [] ∨ base.getLast? = some '/' then base ++ path
  else base ++ '/' :: path

end Paths

inductive EntryType where
  | regular
  | directory
  | symlink
  | hardLink
  | other
  deriving DecidableEq

/-- An entry of the archive. -/
structure TarEntry where
  path : Text
  /-- The name of the file is UTF-8. -/
  unicode : Bool
  kind : EntryType
  ustar : Bool
  uid : Except String UInt64
  gid : Except String UInt64
  mode : Option UInt32
  mtime : Except String UInt64

/-- `WHITEOUT_PREFIX`. -/
def whiteoutPrefix : Text := ".wh.".toList

/-- `WHITEOUT_OPAQUE_DIR`. -/
def whiteoutOpaqueDir : Text := ".wh..wh..opq".toList

/-- `is_whiteout`. -/
def isWhiteout (name : Text) : Bool := whiteoutPrefix.isPrefixOf name

/-- `u64::try_into::<u32>`. -/
def asU32 (error : String) (n : UInt64) : Except String UInt32 :=
  if n.toNat < 2 ^ 32 then .ok n.toUInt32 else .error error

/-- `CString::new`. -/
def cString (path : Text) : Prog Unit :=
  if path.contains '\x00' then throw "nul byte found in provided data" else pure ()

/-- `is_attr_available`. -/
def isAttrAvailable (path : Text) : Prog Bool := do
  call (.openFile false) path
  succeeds (.setXattr "user.overlay.origin".toList) path

inductive ChownType where
  | lChown
  | fChown

/-- `set_perms_ownerships`. -/
def setPermsOwnerships (path : Text) (chown : ChownType) (uid gid : UInt32) (mode : Option UInt32) : Prog Unit := do
  match chown with
  | .fChown => call (.fchown uid gid) path
  | .lChown => call (.lchown uid gid) path
  match mode with
  | some mode => call (.setPermissions mode) path
  | none => pure ()

/-- `convert_whiteout`. -/
def convertWhiteout (name path : Text) (uid gid : UInt32) (mode : Option UInt32) (destination : Text) : Prog Unit :=
  match parent path with
  | none => throw "Invalid whiteout parent for path"
  | some parent =>
    if name = whiteoutOpaqueDir then call (.setXattr "trusted.overlay.opaque".toList) (join destination parent)
    else match name.dropPrefix? whiteoutPrefix with
      | none => throw "Failed to strip whiteout prefix"
      | some originalName => do
        let path := destination ++ '/' :: join parent originalName
        cString path
        call .mknod path
        setPermsOwnerships path .lChown uid gid mode

/-- The times that the directories are given at the end. -/
abbrev Dirs := AList fun _ : Text => Int64

namespace TarEntry

variable (entry : TarEntry)

/-- The name of the file, or the empty one. -/
def name : Text := (fileName entry.path).getD []

def unicodeName : Except String Text :=
  if entry.unicode then .ok entry.name else .error "Invalid unicode in path"

def isDirectory : Bool := entry.kind = .directory || !entry.ustar && entry.path.getLast? = some '/'

def isLink : Bool := entry.kind = .symlink || entry.kind = .hardLink

/-- The owner that the header gives. -/
def owner : Except String (UInt32 × UInt32) := do
  let uid ← entry.uid >>= asU32 "UID is too large!"
  let gid ← entry.gid >>= asU32 "GID is too large!"
  pure (uid, gid)

end TarEntry

/-- What is done for an entry after the archive crate has unpacked it. -/
def setMetadata (path : Text) (entry : TarEntry) (uid gid : UInt32) (mtime : Int64) (dirs : Dirs) : Prog Dirs := do
  if entry.isDirectory then
    setPermsOwnerships path .lChown uid gid entry.mode
    pure (dirs.insert path mtime)
  else if entry.isLink then pure dirs
  else
    call (.openFile true) path
    setPermsOwnerships path .fChown uid gid entry.mode
    call (.setFileTimes mtime) path
    pure dirs

/-- An entry that is no whiteout. -/
def unpackFile (attrAvailable : Bool) (destination : Text) (dirs : Dirs) (entry : TarEntry) (uid gid : UInt32) :
    Prog Dirs := do
  call (.unpackIn entry.path attrAvailable) destination
  let path := destination ++ '/' :: entry.path
  cString path
  let mtime ← ofExcept entry.mtime
  setMetadata path entry uid gid mtime.toInt64 dirs

/-- The body of the loop over the entries. -/
def unpackEntry (attrAvailable : Bool) (destination : Text) (dirs : Dirs) (entry : TarEntry) : Prog Dirs := do
  let name ← ofExcept entry.unicodeName
  let (uid, gid) ← ofExcept entry.owner
  if attrAvailable && isWhiteout name then
    convertWhiteout name entry.path uid gid entry.mode destination
    pure dirs
  else unpackFile attrAvailable destination dirs entry uid gid

/-- The loop over the entries, up to one that cannot be read. -/
def unpackEntries (attrAvailable : Bool) (destination : Text) (dirs : Dirs) : List (Except String TarEntry) → Prog Dirs
  | [] => pure dirs
  | .error error :: _ => throw error
  | .ok entry :: rest => do
    let dirs ← unpackEntry attrAvailable destination dirs entry
    unpackEntries attrAvailable destination dirs rest

/-- The order in which a `HashMap` is walked. -/
structure HashOrder where
  walk : List (Sigma fun _ : Text => Int64) → List (Sigma fun _ : Text => Int64)
  perm : ∀ entries, (walk entries).Perm entries

/-- Directory timestamps need update after all files are extracted. -/
def setTimes : List (Sigma fun _ : Text => Int64) → Prog Unit
  | [] => pure ()
  | ⟨path, mtime⟩ :: rest => do
    call (.utimes mtime) path
    setTimes rest

/-- `if destination.exists() { remove_dir_all(destination)?; }`. -/
def removeOld (destination : Text) : Prog Unit := do
  if ← succeeds .pathExists destination then call .removeDirAll destination
  else pure ()

/-- `unpack`. -/
def unpack (order : HashOrder) (entries : List (Except String TarEntry)) (destination : Text) : Prog Unit := do
  removeOld destination
  call .createDirAll destination
  let attrAvailable ← isAttrAvailable destination
  let dirs ← unpackEntries attrAvailable destination ∅ entries
  setTimes (order.walk dirs.entries)

section Specification

/-- The parts of a path, from this depth on, never lead above where it starts. -/
def staysBelow : Nat → List Text → Bool
  | _, [] => true
  | depth, part :: parts =>
    if part = [] ∨ part = ['.'] then staysBelow depth parts
    else if part = ['.', '.'] then decide (0 < depth) && staysBelow (depth - 1) parts
    else staysBelow (depth + 1) parts

/-- The path is the directory, or leads from it to something below. -/
def Within (destination path : Text) : Prop :=
  path = destination ∨ ∃ rest, path = destination ++ '/' :: rest ∧ staysBelow 0 (split '/' rest) = true

namespace TarEntry

variable (attrAvailable : Bool) (destination : Text) (entry : TarEntry)

/-- Where the entry's file is, or the directory that it marks. -/
def place : Text :=
  if attrAvailable && isWhiteout entry.name then
    let parent := (parent entry.path).getD []
    if entry.name = whiteoutOpaqueDir then join destination parent
    else destination ++ '/' :: join parent (entry.name.drop whiteoutPrefix.length)
  else destination ++ '/' :: entry.path

/-- The entry can be handled, as far as it says itself. -/
def passes : Bool :=
  entry.unicode && entry.owner.isOk &&
    if attrAvailable && isWhiteout entry.name then
      entry.name = whiteoutOpaqueDir || !(entry.place attrAvailable destination).contains '\x00'
    else !(entry.place attrAvailable destination).contains '\x00' && entry.mtime.isOk

/-- Something is done at the entry's place, beside what the archive crate does. -/
def acts : Bool :=
  entry.passes attrAvailable destination &&
    (attrAvailable && isWhiteout entry.name || entry.isDirectory || !entry.isLink)

end TarEntry

/-- The entries that the unpacking may come to: those before the first that cannot be read or
handled, and that one. -/
def reached (attrAvailable : Bool) (destination : Text) : List (Except String TarEntry) → List TarEntry
  | .ok entry :: rest =>
    if entry.passes attrAvailable destination then entry :: reached attrAvailable destination rest else [entry]
  | _ => []

end Specification

section Operations

variable {kind : FileOp → Prop} {act : Act} {path : Text} {α : Type} {result : Except String α} {value : α}

@[simp] theorem only_call : Program.Only kind (call act path).run ↔ kind ⟨act, path⟩ :=
  ⟨And.left, fun allowed => ⟨allowed, fun _ => trivial⟩⟩

@[simp] theorem mayReturn_call (ended : Unit) : Program.MayReturn (call act path).run (.ok ended) := ⟨.ok ended, rfl⟩

@[simp] theorem only_succeeds : Program.Only kind (succeeds act path).run ↔ kind ⟨act, path⟩ :=
  ⟨And.left, fun allowed => ⟨allowed, fun _ => trivial⟩⟩

@[simp] theorem mayReturn_succeeds (found : Bool) : Program.MayReturn (succeeds act path).run (.ok found) := by
  cases found with
  | true => exact ⟨.ok (), rfl⟩
  | false => exact ⟨.error "", rfl⟩

@[simp] theorem only_ofExcept : Program.Only kind (ofExcept result).run := trivial

@[simp] theorem mayReturn_ofExcept : Program.MayReturn (ofExcept result).run (.ok value) ↔ result = .ok value :=
  Iff.rfl

@[simp] theorem only_cString : Program.Only kind (cString path).run := by
  unfold cString
  split <;> exact Program.only_pure

@[simp] theorem mayReturn_cString (ended : Unit) :
    Program.MayReturn (cString path).run (.ok ended) ↔ path.contains '\x00' = false := by
  unfold cString
  split
  · rename_i nul
    rw [nul]
    simp
  · rename_i clean
    rw [Bool.not_eq_true] at clean
    rw [clean]
    simp

end Operations

section Entries

variable {attrAvailable : Bool} {path destination : Text} {uid gid : UInt32} {mode : Option UInt32} {entry : TarEntry}
  {dirs after : Dirs}

theorem within_self : Within destination destination := .inl rfl

/-- A path that begins in the directory stays there if the rest of it never leads above. -/
theorem within_append {rest : Text} : Within destination (destination ++ '/' :: rest) ↔
    staysBelow 0 (split '/' rest) = true := by
  constructor
  · rintro (same | ⟨other, same, below⟩)
    · have lengths := congrArg List.length same
      simp at lengths
    · rw [List.append_cancel_left_eq, List.cons.injEq] at same
      rw [same.2]
      exact below
  · exact fun below => .inr ⟨rest, rfl, below⟩

theorem only_setPermsOwnerships (chown : ChownType) :
    Program.Only (fun op => Within destination op.path) (setPermsOwnerships path chown uid gid mode).run ↔
      Within destination path := by
  cases chown <;> cases mode <;> simp only [setPermsOwnerships, Fallible.only_bind] <;> simp

theorem mayReturn_setPermsOwnerships (chown : ChownType) (ended : Unit) :
    Program.MayReturn (setPermsOwnerships path chown uid gid mode).run (.ok ended) := by
  cases chown <;> cases mode <;> simp only [setPermsOwnerships, Fallible.mayReturn_bind] <;> simp

/-- A file with a name has a parent. -/
theorem parent_of_fileName {name : Text} (named : fileName path = some name) : ∃ above, parent path = some above := by
  unfold fileName at named
  unfold parent
  split at named
  · rename_i last
    rw [last]
    exact ⟨_, rfl⟩
  · cases named

theorem fileName_of_isWhiteout (hides : isWhiteout entry.name = true) : fileName entry.path = some entry.name := by
  unfold TarEntry.name at hides ⊢
  cases named : fileName entry.path with
  | none =>
    rw [named] at hides
    cases hides
  | some name => rfl

theorem dropPrefix_of_isWhiteout {name : Text} (hides : isWhiteout name = true) :
    name.dropPrefix? whiteoutPrefix = some (name.drop whiteoutPrefix.length) := by
  obtain ⟨rest, rfl⟩ := List.isPrefixOf_iff_prefix.mp hides
  rw [List.drop_left]
  exact List.dropPrefix?_eq_some_iff.mpr ⟨whiteoutPrefix, rfl, by simp⟩

/-- Where a whiteout is made, or a directory marked. -/
theorem place_of_isWhiteout (hides : isWhiteout entry.name = true) : ∃ above, parent entry.path = some above ∧
    entry.place true destination = if entry.name = whiteoutOpaqueDir then join destination above
      else destination ++ '/' :: join above (entry.name.drop whiteoutPrefix.length) := by
  obtain ⟨above, found⟩ := parent_of_fileName (fileName_of_isWhiteout hides)
  refine ⟨above, found, ?_⟩
  simp [TarEntry.place, hides, found]

theorem place_of_file (shows : (attrAvailable && isWhiteout entry.name) = false) :
    entry.place attrAvailable destination = destination ++ '/' :: entry.path := by
  simp [TarEntry.place, shows]

theorem only_convertWhiteout (hides : isWhiteout entry.name = true) :
    Program.Only (fun op => Within destination op.path)
        (convertWhiteout entry.name entry.path uid gid mode destination).run ↔
      (entry.name = whiteoutOpaqueDir ∨ (entry.place true destination).contains '\x00' = false →
        Within destination (entry.place true destination)) := by
  obtain ⟨above, found, place⟩ := place_of_isWhiteout hides
  rw [place]
  unfold convertWhiteout
  rw [found]
  dsimp only
  by_cases marks : entry.name = whiteoutOpaqueDir
  · simp [marks]
  · rw [if_neg marks, if_neg marks, dropPrefix_of_isWhiteout hides]
    simp only [Fallible.only_bind, only_setPermsOwnerships]
    simp [marks]

theorem mayReturn_convertWhiteout (hides : isWhiteout entry.name = true) (ended : Unit) :
    Program.MayReturn (convertWhiteout entry.name entry.path uid gid mode destination).run (.ok ended) ↔
      entry.name = whiteoutOpaqueDir ∨ (entry.place true destination).contains '\x00' = false := by
  obtain ⟨above, found, place⟩ := place_of_isWhiteout hides
  rw [place]
  unfold convertWhiteout
  rw [found]
  dsimp only
  by_cases marks : entry.name = whiteoutOpaqueDir
  · simp [marks]
  · rw [if_neg marks, if_neg marks, dropPrefix_of_isWhiteout hides]
    simp only [Fallible.mayReturn_bind, mayReturn_setPermsOwnerships]
    simp [marks]

theorem only_setMetadata {mtime : Int64} :
    Program.Only (fun op => Within destination op.path) (setMetadata path entry uid gid mtime dirs).run ↔
      ((entry.isDirectory || !entry.isLink) = true → Within destination path) := by
  unfold setMetadata
  cases entry.isDirectory with
  | true =>
    simp only [Bool.true_or, if_true, Fallible.only_bind, only_setPermsOwnerships]
    simp
  | false =>
    cases entry.isLink with
    | true => simp
    | false =>
      simp only [Bool.false_eq_true, if_false, Fallible.only_bind, only_setPermsOwnerships]
      simp +contextual

theorem mayReturn_setMetadata {mtime : Int64} :
    Program.MayReturn (setMetadata path entry uid gid mtime dirs).run (.ok after) ↔
      (if entry.isDirectory then dirs.insert path mtime else dirs) = after := by
  unfold setMetadata
  cases entry.isDirectory with
  | true =>
    simp only [if_true, Fallible.mayReturn_bind, mayReturn_setPermsOwnerships]
    simp
  | false =>
    cases entry.isLink with
    | true => simp
    | false =>
      simp only [Bool.false_eq_true, if_false, Fallible.mayReturn_bind, mayReturn_setPermsOwnerships]
      simp

theorem unicodeName_eq_ok {name : Text} :
    entry.unicodeName = .ok name ↔ entry.unicode = true ∧ entry.name = name := by
  unfold TarEntry.unicodeName
  cases entry.unicode with
  | true => simp
  | false => simp

theorem only_unpackFile :
    Program.Only (fun op => Within destination op.path)
        (unpackFile attrAvailable destination dirs entry uid gid).run ↔
      ((destination ++ '/' :: entry.path).contains '\x00' = false → ∀ mtime, entry.mtime = .ok mtime →
        (entry.isDirectory || !entry.isLink) = true → Within destination (destination ++ '/' :: entry.path)) := by
  unfold unpackFile
  simp only [Fallible.only_bind, only_call, only_cString, only_ofExcept, only_setMetadata, mayReturn_call,
    mayReturn_cString, mayReturn_ofExcept, within_self, true_and, forall_const]

theorem mayReturn_unpackFile :
    Program.MayReturn (unpackFile attrAvailable destination dirs entry uid gid).run (.ok after) ↔
      (destination ++ '/' :: entry.path).contains '\x00' = false ∧ ∃ mtime, entry.mtime = .ok mtime ∧
        (if entry.isDirectory then dirs.insert (destination ++ '/' :: entry.path) mtime.toInt64 else dirs) = after := by
  unfold unpackFile
  simp only [Fallible.mayReturn_bind, mayReturn_call, mayReturn_cString, mayReturn_ofExcept, mayReturn_setMetadata,
    true_and, exists_const]

/-- What the entry says of itself is enough. -/
theorem passes_iff : entry.passes attrAvailable destination = true ↔
    entry.unicode = true ∧ (∃ owner, entry.owner = .ok owner) ∧
      if (attrAvailable && isWhiteout entry.name) = true then
        entry.name = whiteoutOpaqueDir ∨ (entry.place attrAvailable destination).contains '\x00' = false
      else (entry.place attrAvailable destination).contains '\x00' = false ∧ ∃ mtime, entry.mtime = .ok mtime := by
  have isOk {ε α : Type} (result : Except ε α) : result.isOk = true ↔ ∃ value, result = .ok value := by
    cases result with
    | error error => simp [Except.isOk, Except.toBool]
    | ok value => simp [Except.isOk, Except.toBool]
  unfold TarEntry.passes
  rw [Bool.and_eq_true, Bool.and_eq_true, isOk, and_assoc]
  split
  · simp
  · simp [isOk]

/-- What is done for one entry stays in the directory, unless something is done at a place that
does not. -/
theorem only_unpackEntry :
    Program.Only (fun op => Within destination op.path) (unpackEntry attrAvailable destination dirs entry).run ↔
      (entry.acts attrAvailable destination = true → Within destination (entry.place attrAvailable destination)) := by
  unfold unpackEntry TarEntry.acts
  rw [Bool.and_eq_true, passes_iff]
  simp only [Fallible.only_bind, only_ofExcept, mayReturn_ofExcept, unicodeName_eq_ok, true_and]
  constructor
  · rintro only ⟨⟨unicode, ⟨owner, owned⟩, rest⟩, acts⟩
    have ran := only entry.name ⟨unicode, rfl⟩ owner owned
    split at rest
    · rename_i hides
      rw [if_pos hides] at ran
      obtain ⟨rfl, hides⟩ := Bool.and_eq_true_iff.mp hides
      exact (only_convertWhiteout hides).mp (Fallible.only_bind.mp ran).1 rest
    · rename_i shows
      rw [if_neg shows] at ran
      rw [Bool.not_eq_true] at shows
      rw [place_of_file shows] at rest ⊢
      obtain ⟨clean, mtime, read⟩ := rest
      exact only_unpackFile.mp ran clean mtime read (by simpa [shows] using acts)
  · rintro within name ⟨unicode, rfl⟩ owner owned
    split
    · rename_i hides
      refine Fallible.only_bind.mpr ⟨?_, fun _ _ => Program.only_pure⟩
      obtain ⟨rfl, hides'⟩ := Bool.and_eq_true_iff.mp hides
      refine (only_convertWhiteout hides').mpr fun made => within ⟨⟨unicode, ⟨owner, owned⟩, ?_⟩, ?_⟩
      · rw [if_pos hides]
        exact made
      · simp [hides']
    · rename_i shows
      rw [Bool.not_eq_true] at shows
      rw [place_of_file shows] at within
      refine only_unpackFile.mpr fun clean mtime read acts => within ⟨⟨unicode, ⟨owner, owned⟩, ?_⟩, ?_⟩
      · rw [if_neg (by simp [shows])]
        exact ⟨clean, mtime, read⟩
      · simpa [shows] using acts

/-- An entry is done with if it says enough, and its directory may be among those whose times are set. -/
theorem mayReturn_unpackEntry :
    Program.MayReturn (unpackEntry attrAvailable destination dirs entry).run (.ok after) →
      entry.passes attrAvailable destination = true ∧ ∀ path ∈ after, path ∈ dirs ∨
        entry.acts attrAvailable destination = true ∧ path = entry.place attrAvailable destination := by
  unfold unpackEntry TarEntry.acts
  rw [passes_iff]
  simp only [Fallible.mayReturn_bind, mayReturn_ofExcept, unicodeName_eq_ok]
  rintro ⟨name, ⟨unicode, rfl⟩, owner, owned, ends⟩
  split at ends
  · rename_i hides
    obtain ⟨_, converted, ends⟩ := Fallible.mayReturn_bind.mp ends
    cases ends
    rw [if_pos hides]
    obtain ⟨rfl, hides⟩ := Bool.and_eq_true_iff.mp hides
    exact ⟨⟨unicode, ⟨owner, owned⟩, (mayReturn_convertWhiteout hides _).mp converted⟩, fun _ listed =>
      .inl listed⟩
  · rename_i shows
    obtain ⟨clean, mtime, read, same⟩ := mayReturn_unpackFile.mp ends
    rw [if_neg shows]
    rw [Bool.not_eq_true] at shows
    rw [place_of_file shows]
    have passes : entry.passes attrAvailable destination = true := by
      rw [passes_iff, if_neg (by simp [shows]), place_of_file shows]
      exact ⟨unicode, ⟨owner, owned⟩, clean, mtime, read⟩
    refine ⟨⟨unicode, ⟨owner, owned⟩, clean, mtime, read⟩, ?_⟩
    intro path listed
    subst same
    split at listed
    · rename_i directory
      rcases (AList.mem_insert _).mp listed with rfl | before
      · exact .inr ⟨by simp [passes, directory], rfl⟩
      · exact .inl before
    · exact .inl listed

/-- An entry that says enough may be done with. -/
theorem unpackEntry_mayReturn (passes : entry.passes attrAvailable destination = true) :
    ∃ after, Program.MayReturn (unpackEntry attrAvailable destination dirs entry).run (.ok after) := by
  obtain ⟨unicode, ⟨owner, owned⟩, rest⟩ := passes_iff.mp passes
  unfold unpackEntry
  simp only [Fallible.mayReturn_bind, mayReturn_ofExcept, unicodeName_eq_ok]
  split at rest
  · rename_i hides
    refine ⟨dirs, entry.name, ⟨unicode, rfl⟩, owner, owned, ?_⟩
    rw [if_pos hides]
    obtain ⟨rfl, hides⟩ := Bool.and_eq_true_iff.mp hides
    exact Fallible.mayReturn_bind.mpr ⟨(), (mayReturn_convertWhiteout hides ()).mpr rest, rfl⟩
  · rename_i shows
    obtain ⟨clean, mtime, read⟩ := rest
    refine ⟨if entry.isDirectory then dirs.insert (destination ++ '/' :: entry.path) mtime.toInt64 else dirs,
      entry.name, ⟨unicode, rfl⟩, owner, owned, ?_⟩
    rw [if_neg shows]
    rw [Bool.not_eq_true] at shows
    rw [place_of_file shows] at clean
    exact mayReturn_unpackFile.mpr ⟨clean, mtime, read, rfl⟩

end Entries

section Runs

variable {attrAvailable : Bool} {destination : Text} {entries : List (Except String TarEntry)} {dirs after : Dirs}

/-- The entries that are reached stay in the directory. -/
def Stays (attrAvailable : Bool) (destination : Text) (entries : List (Except String TarEntry)) : Prop :=
  ∀ entry ∈ reached attrAvailable destination entries, entry.acts attrAvailable destination = true →
    Within destination (entry.place attrAvailable destination)

theorem only_unpackEntries :
    Program.Only (fun op => Within destination op.path) (unpackEntries attrAvailable destination dirs entries).run ↔
      Stays attrAvailable destination entries := by
  induction entries generalizing dirs with
  | nil => simp [unpackEntries, Stays, reached]
  | cons first rest ih =>
    cases first with
    | error error => simp [unpackEntries, Stays, reached]
    | ok entry =>
      rw [unpackEntries, Fallible.only_bind, only_unpackEntry, Stays, reached]
      split
      · rename_i passes
        obtain ⟨after, returns⟩ := @unpackEntry_mayReturn attrAvailable destination entry dirs passes
        rw [List.forall_mem_cons]
        refine and_congr_right fun _ => ⟨fun only => ih.mp (only after returns), fun stays _ _ => ih.mpr stays⟩
      · rename_i stops
        rw [List.forall_mem_singleton]
        exact and_iff_left fun _ returns => absurd (mayReturn_unpackEntry returns).1 stops

/-- The directories whose times are set are those of entries that were reached. -/
theorem mayReturn_unpackEntries (stays : Stays attrAvailable destination entries)
    (before : ∀ path ∈ dirs, Within destination path)
    (returns : Program.MayReturn (unpackEntries attrAvailable destination dirs entries).run (.ok after)) :
    ∀ path ∈ after, Within destination path := by
  induction entries generalizing dirs with
  | nil =>
    cases returns
    exact before
  | cons first rest ih =>
    cases first with
    | error error => cases returns
    | ok entry =>
      obtain ⟨middle, done, returns⟩ := Fallible.mayReturn_bind.mp returns
      obtain ⟨passes, listed⟩ := mayReturn_unpackEntry done
      rw [Stays, reached, if_pos passes, List.forall_mem_cons] at stays
      refine ih stays.2 ?_ returns
      intro path inside
      rcases listed path inside with earlier | ⟨acts, rfl⟩
      · exact before path earlier
      · exact stays.1 acts

theorem only_setTimes {times : List (Sigma fun _ : Text => Int64)} :
    Program.Only (fun op => Within destination op.path) (setTimes times).run ↔
      ∀ time ∈ times, Within destination time.1 := by
  induction times with
  | nil => simp [setTimes]
  | cons first rest ih =>
    rw [List.forall_mem_cons]
    simp only [setTimes, Fallible.only_bind, ih]
    simp

/-- A file of another layer. -/
def besideEntry : TarEntry := ⟨"etc/../../1/etc/shadow".toList, true, .regular, true, .ok 0, .ok 0, none, .ok 0⟩

example : ¬ Stays false "/run/image-rs/layers/0".toList [.ok besideEntry] := by
  intro stays
  have within := stays besideEntry List.mem_cons_self (by decide)
  exact absurd (within_append.mp within) (by decide)

end Runs

end GuestComponents.Image.Unpack
