import GuestComponents.Lib.Alone
import GuestComponents.SharedRootfs.Cache

/-! The two files of a cache entry, which is written under its image reference and then under its
image id. A write that fails between the two leaves the first file new and the second one old, and
keys that differ may have one file. Where a write does neither, the two lookups agree on every
entry that was written last, and a write that fails leaves both of them as they were
(`entry_pair_agrees`). -/
namespace GuestComponents.SharedRootfs.EntryPair
open Lib

abbrev entryPath (key : Text) : Path := cachePath key cacheFileSuffix

/-- A program that is the only one to run. -/
abbrev alone {α : Type} (choose : Nat → Choice) (program : Fail α) : Action (Disk × Nat) Error α :=
  Fallible.alone (act 0) choose program

/-- One call, with a choice of the environment for each of its operations. -/
def write (choose : Nat → Choice) (entry : CacheEntry) (disk : Disk) : Except Error Unit × Disk :=
  ((alone choose (writeSharedRootfsCacheEntry entry) (disk, 0)).1,
    (alone choose (writeSharedRootfsCacheEntry entry) (disk, 0)).2.1)

section Key

/-- The three operations of one file, from this one on, do not fail. -/
def Works (choose : Nat → Choice) (n : Nat) : Prop :=
  (choose n).fails = false ∧ (choose (n + 1)).fails = false ∧ (choose (n + 2)).fails = false

instance (choose : Nat → Choice) (n : Nat) : Decidable (Works choose n) := by
  unfold Works
  infer_instance

/-- The file of the key holds the entry. -/
def Holds (disk : Disk) (key : Text) (entry : CacheEntry) : Prop :=
  ∃ file, disk.files (entryPath key) = some file ∧ file.data = .cacheEntry entry

/-- The entry was put into the key's file, and no other file was changed but the temporary one. -/
structure Stored (key : Text) (entry : CacheEntry) (before after : Disk) : Prop where
  holds : Holds after key entry
  others : ∀ path, path ≠ entryPath key → path ≠ cacheTmpPath key → after.files path = before.files path

/-- No file but the temporary one was changed. -/
def Untouched (key : Text) (before after : Disk) : Prop :=
  ∀ path, path ≠ cacheTmpPath key → after.files path = before.files path

variable {choose : Nat → Choice} {disk : Disk} {key : Text} {entry : CacheEntry} {n : Nat}

theorem alone_createDirAll (path : Path) : alone choose (attempt (call (.createDirAll path))) (disk, n) =
    (outcome (choose n).fails "failed to create" path (),
      if (choose n).fails then disk else disk.addDir path, n + 1) := rfl

theorem alone_writeFile (path : Path) (data : FileData) :
    alone choose (attempt (call (.writeFile path data))) (disk, n) =
    (outcome (choose n).fails "failed to write" path (), (act 0 disk (.writeFile path data) (choose n)).2, n + 1) := rfl

theorem alone_rename (source target : Path) : alone choose (attempt (call (.rename source target))) (disk, n) =
    ((act 0 disk (.rename source target) (choose n)).1, (act 0 disk (.rename source target) (choose n)).2, n + 1) := rfl

/-- The write of one file: all of its operations work, or the file is as it was. -/
theorem writeKey_cases :
    (Works choose n ∧ ∃ after, alone choose (writeCacheEntryForKey key entry) (disk, n) = (.ok (), after, n + 3) ∧
      Stored key entry disk after) ∨
    (¬ Works choose n ∧ ∃ error after m,
      alone choose (writeCacheEntryForKey key entry) (disk, n) = (.error error, after, m) ∧
      Untouched key disk after) := by
  have unfolded : alone choose (writeCacheEntryForKey key entry) =
      (alone choose (attempt (call (.createDirAll (.shared .cache [])))) >>= fun _ =>
        alone choose (attempt (call (.writeFile (cacheTmpPath key) (.cacheEntry entry)))) >>= fun _ =>
          alone choose (attempt (call (.rename (cacheTmpPath key) (entryPath key))))) := by
    rw [writeCacheEntryForKey, alone, Fallible.alone_bind]
    refine congrArg _ (funext fun _ => ?_)
    rw [Fallible.alone_bind]
  rw [unfolded]
  cases made : (choose n).fails with
  | true =>
    have failed := @alone_createDirAll choose disk n (.shared .cache [])
    rw [made] at failed
    exact .inr ⟨fun works => absurd works.1 (by simp [made]), _, _, _, Action.bind_error failed, fun _ _ => rfl⟩
  | false =>
    let base := disk.addDir (.shared .cache [])
    have dir : alone choose (attempt (call (.createDirAll (.shared .cache [])))) (disk, n) = (.ok (), base, n + 1) := by
      rw [alone_createDirAll, made]
      rfl
    rw [Action.bind_ok dir]
    cases wrote : (choose (n + 1)).fails with
    | true =>
      have failed := @alone_writeFile choose base (n + 1) (cacheTmpPath key) (.cacheEntry entry)
      rw [wrote] at failed
      refine .inr ⟨fun works => absurd works.2.1 (by simp [wrote]), _, _, _, Action.bind_error failed, ?_⟩
      intro path differs
      exact @act_files _ path 0 (.writeFile (cacheTmpPath key) (.cacheEntry entry)) _ (fun touched => differs touched)
    | false =>
      let file : File := ⟨.cacheEntry entry, (choose (n + 1)).size, (choose (n + 1)).modified⟩
      have written : alone choose (attempt (call (.writeFile (cacheTmpPath key) (.cacheEntry entry)))) (base, n + 1) =
          (.ok (), base.put (cacheTmpPath key) file, n + 2) := by
        rw [alone_writeFile, wrote, act_wrote (by simp [act, outcome, wrote])]
        rfl
      rw [Action.bind_ok written]
      have there : (base.put (cacheTmpPath key) file).files (cacheTmpPath key) = some file := put_files_self
      cases renamed : (choose (n + 2)).fails with
      | true =>
        have failed : alone choose (attempt (call (.rename (cacheTmpPath key) (entryPath key))))
            (base.put (cacheTmpPath key) file, n + 2) =
            (.error (.here "failed to rename" (cacheTmpPath key)), base.put (cacheTmpPath key) file, n + 3) := by
          rw [alone_rename]
          simp only [act, there, renamed, outcome, if_true]
        refine .inr ⟨fun works => absurd works.2.2 (by simp [renamed]), _, _, _, failed, ?_⟩
        intro path differs
        rw [put_files_ne differs]
        rfl
      | false =>
        have moved : alone choose (attempt (call (.rename (cacheTmpPath key) (entryPath key))))
            (base.put (cacheTmpPath key) file, n + 2) =
            (.ok (), ((base.put (cacheTmpPath key) file).drop (cacheTmpPath key)).put (entryPath key) file, n + 3) := by
          rw [alone_rename]
          simp only [act, there, renamed, outcome, Bool.false_eq_true, if_false]
        refine .inl ⟨⟨made, wrote, renamed⟩, _, moved, ⟨file, put_files_self, rfl⟩, ?_⟩
        intro path differs differs'
        rw [put_files_ne differs, drop_files_ne differs', put_files_ne differs']
        rfl

/-- The files that a stored entry leaves are those of another key. -/
theorem Stored.keeps {before after : Disk} {other : Text} {kept : CacheEntry} (stored : Stored key entry before after)
    (apart : entryPath other ≠ entryPath key) (holds : Holds before other kept) : Holds after other kept := by
  obtain ⟨file, found, data⟩ := holds
  exact ⟨file, by rw [stored.others _ apart (tmp_ne_entry key other), found], data⟩

theorem Untouched.keeps {before after : Disk} {other : Text} {kept : CacheEntry} (untouched : Untouched key before after)
    (holds : Holds before other kept) : Holds after other kept := by
  obtain ⟨file, found, data⟩ := holds
  exact ⟨file, by rw [untouched _ (tmp_ne_entry key other), found], data⟩

end Key

section Write

variable {choose : Nat → Choice} {disk : Disk} {entry : CacheEntry}

/-- How a write ends: both files hold the entry; or it is invalid and nothing was done; or the first file
was not written; or it was, and the second one was not. -/
inductive Ends (choose : Nat → Choice) (entry : CacheEntry) (disk : Disk) : Except Error Unit → Disk → Prop
  | done {after : Disk} (ref : Holds after entry.imageRef entry) (id : Holds after entry.imageId entry)
      (others : ∀ path, path ≠ entryPath entry.imageRef → path ≠ entryPath entry.imageId →
        path ≠ cacheTmpPath entry.imageRef → path ≠ cacheTmpPath entry.imageId →
        after.files path = disk.files path) :
      Ends choose entry disk (.ok ()) after
  | invalid {error : Error} : Ends choose entry disk (.error error) disk
  | first {error : Error} {after : Disk} (untouched : Untouched entry.imageRef disk after) :
      Ends choose entry disk (.error error) after
  | half {error : Error} {middle after : Disk} (valid : disk.validateCacheEntry entry = .ok ())
      (differs : entry.imageId ≠ entry.imageRef) (works : Works choose 1) (fails : ¬ Works choose 4)
      (stored : Stored entry.imageRef entry disk middle) (untouched : Untouched entry.imageId middle after) :
      Ends choose entry disk (.error error) after

theorem write_ends (choose : Nat → Choice) (entry : CacheEntry) (disk : Disk) :
    Ends choose entry disk (write choose entry disk).1 (write choose entry disk).2 := by
  have unfolded : alone choose (writeSharedRootfsCacheEntry entry) =
      (alone choose (attempt (call (.validateCache entry))) >>= fun _ =>
        alone choose (writeCacheEntryForKey entry.imageRef entry) >>= fun _ =>
          alone choose
            (if entry.imageId ≠ entry.imageRef then writeCacheEntryForKey entry.imageId entry else pure ())) := by
    rw [writeSharedRootfsCacheEntry, alone, Fallible.alone_bind]
    refine congrArg _ (funext fun _ => ?_)
    rw [Fallible.alone_bind]
  have checked : alone choose (attempt (call (.validateCache entry))) (disk, 0) = (disk.validateCacheEntry entry,
      disk, 1) := rfl
  rw [write, unfolded]
  rcases valid : disk.validateCacheEntry entry with error | done
  · rw [valid] at checked
    rw [Action.bind_error checked]
    exact .invalid
  · rw [valid] at checked
    rw [Action.bind_ok checked]
    rcases @writeKey_cases choose disk entry.imageRef entry 1 with
      ⟨works, middle, ran, stored⟩ | ⟨_, error, after, m, ran, untouched⟩
    · rw [Action.bind_ok ran]
      by_cases differs : entry.imageId ≠ entry.imageRef
      · rw [if_pos differs]
        rcases @writeKey_cases choose middle entry.imageId entry 4 with
          ⟨_, after, ran', stored'⟩ | ⟨fails, error, after, m, ran', untouched⟩
        · rw [ran']
          refine .done ?_ stored'.holds ?_
          · by_cases same : entryPath entry.imageRef = entryPath entry.imageId
            · obtain ⟨file, found, data⟩ := stored'.holds
              exact ⟨file, by rw [same, found], data⟩
            · exact stored'.keeps same stored.holds
          · intro path ref id tmp tmp'
            rw [stored'.others path id tmp', stored.others path ref tmp]
        · rw [ran']
          exact .half valid differs works fails stored untouched
      · rw [if_neg differs]
        refine .done stored.holds ?_ fun path ref _ tmp _ => stored.others path ref tmp
        rw [not_not.mp differs]
        exact stored.holds
    · rw [Action.bind_error ran]
      exact .first untouched

end Write

section Runs

/-- The path is of the cache directory. -/
def inCache : Path → Bool
  | .shared .cache _ => true
  | _ => false

/-- The lookups by an entry's two keys. -/
def lookups (disk : Disk) (entry : CacheEntry) : Except Error (Option CacheEntry) × Except Error (Option CacheEntry) :=
  (disk.readCacheEntry entry.imageRef, disk.readCacheEntry entry.imageId)

/-- A write that was made: its entry, whether it was `Ok`, and the lookups before it and after it. -/
structure Made where
  entry : CacheEntry
  ok : Bool
  before : Except Error (Option CacheEntry) × Except Error (Option CacheEntry)
  after : Except Error (Option CacheEntry) × Except Error (Option CacheEntry)

/-- The disk, and the writes that were made, the latest one first. -/
structure State where
  disk : Disk
  writes : List Made

/-- A write, or a change of other files. -/
inductive Label where
  | write (entry : CacheEntry) (choose : Nat → Choice)
  | elsewhere (files : Path → Option File) (dirs : Path → Bool)

def State.write (entry : CacheEntry) (choose : Nat → Choice) (state : State) : State :=
  let ran := EntryPair.write choose entry state.disk
  ⟨ran.2, ⟨entry, ran.1.isOk, lookups state.disk entry, lookups ran.2 entry⟩ :: state.writes⟩

def State.elsewhere (files : Path → Option File) (dirs : Path → Bool) (state : State) : State :=
  { state with disk := ⟨fun path => if inCache path then state.disk.files path else files path, dirs⟩ }

/-- The writes of one process, from any disk. -/
def entryWrites : System State Label where
  start state := state.writes = []
  step state
    | .write entry choose => some (state.write entry choose)
    | .elsewhere files dirs => some (state.elsewhere files dirs)

/-- The key is one of the entry's. -/
def Names (entry : CacheEntry) (key : Text) : Prop := key = entry.imageRef ∨ key = entry.imageId

/-- After a write that was `Ok`, and with no later write of one of its keys, two lookups that succeed give the entry. -/
def Agree (state : State) : Prop :=
  ∀ later made earlier, state.writes = later ++ made :: earlier → made.ok = true →
    (∀ other ∈ later, ¬ Names other.entry made.entry.imageRef ∧ ¬ Names other.entry made.entry.imageId) →
      ∀ byRef byId, state.disk.Hits made.entry.imageRef byRef → state.disk.Hits made.entry.imageId byId →
        byRef = made.entry ∧ byId = made.entry

/-- A write that failed has changed neither lookup. -/
def Atomic (state : State) : Prop := ∀ made ∈ state.writes, made.ok = false → made.after = made.before

/-- A key of the entry has the file of no other key whose entry was written before. -/
def KeysApart (state : State) (entry : CacheEntry) : Prop :=
  ∀ made ∈ state.writes, made.ok = true → ∀ key key', Names entry key → Names made.entry key' →
    sanitizePathComponent key = sanitizePathComponent key' → key = key'

/-- The write fails between its two files. -/
def FailsHalfway (disk : Disk) (entry : CacheEntry) (choose : Nat → Choice) : Prop :=
  disk.validateCacheEntry entry = .ok () ∧ entry.imageId ≠ entry.imageRef ∧ Works choose 1 ∧ ¬ Works choose 4

/-- The entries under the two keys do not name files of the cache directory as their images. -/
def ImagesApart (disk : Disk) (entry : CacheEntry) : Prop :=
  ∀ key stored, Names entry key → Holds disk key stored → inCache stored.rootfsImagePath = false

/-- Writes of keys with files of their own, that do not fail between their files unless the first one had the entry. -/
def Allowed (state : State) : Label → Prop
  | .write entry choose => KeysApart state entry ∧ ImagesApart state.disk entry ∧
      (FailsHalfway state.disk entry choose → state.disk.Hits entry.imageRef entry)
  | .elsewhere _ _ => True

variable {choose : Nat → Choice} {disk after : Disk} {entry kept : CacheEntry} {state : State} {key other : Text}

theorem inCache_entryPath (key : Text) : inCache (entryPath key) = true := rfl

theorem inCache_tmpPath (key : Text) : inCache (cacheTmpPath key) = true := rfl

theorem ne_of_inCache {path path' : Path} (outside : inCache path = false) (inside : inCache path' = true) :
    path ≠ path' := by
  rintro rfl
  rw [inside] at outside
  cases outside

/-- A write keeps the files of other keys. -/
theorem Ends.keeps {result : Except Error Unit} (ends : Ends choose entry disk result after)
    (apart : entryPath other ≠ entryPath entry.imageRef) (apart' : entryPath other ≠ entryPath entry.imageId)
    (holds : Holds disk other kept) : Holds after other kept := by
  cases ends with
  | done _ _ others =>
    obtain ⟨file, found, data⟩ := holds
    exact ⟨file, by rw [others _ apart apart' (tmp_ne_entry _ _) (tmp_ne_entry _ _), found], data⟩
  | invalid => exact holds
  | first untouched => exact untouched.keeps holds
  | half _ _ _ _ stored untouched => exact untouched.keeps (stored.keeps apart holds)

theorem hits_holds (hits : disk.Hits key entry) : Holds disk key entry := by
  obtain ⟨file, found, data, _⟩ := disk.hits_iff.mp hits
  exact ⟨file, found, data⟩

theorem Holds.unique (holds : Holds disk key entry) (holds' : Holds disk key kept) : entry = kept := by
  obtain ⟨file, found, data⟩ := holds
  obtain ⟨file', found', data'⟩ := holds'
  rw [found] at found'
  cases found'
  rw [data] at data'
  cases data'
  rfl

/-- A lookup depends on the key's file and on the image of the entry in it. -/
theorem readCacheEntry_same (file : after.files (entryPath key) = disk.files (entryPath key))
    (image : ∀ stored, Holds disk key stored →
      after.files stored.rootfsImagePath = disk.files stored.rootfsImagePath) :
    after.readCacheEntry key = disk.readCacheEntry key := by
  have file' : after.files (cachePath key cacheFileSuffix) = disk.files (cachePath key cacheFileSuffix) := file
  simp only [Disk.readCacheEntry, file']
  cases there : disk.files (cachePath key cacheFileSuffix) with
  | none => rfl
  | some found =>
    cases data : found.data with
    | cacheEntry stored =>
      have valid := Disk.validateCacheEntry_same disk (image stored ⟨found, there, data⟩)
      simp only [data, valid]
    | _ => simp only [data]

/-- With the images elsewhere, a write that fails with its first file leaves the lookups. -/
theorem Untouched.lookups {tmp : Text} (untouched : Untouched tmp disk after) (apart : ImagesApart disk entry) :
    lookups after entry = EntryPair.lookups disk entry := by
  have one : ∀ key, Names entry key → after.readCacheEntry key = disk.readCacheEntry key := by
    intro key names
    refine readCacheEntry_same (untouched _ (tmp_ne_entry tmp key)) fun stored holds => ?_
    exact untouched _ (ne_of_inCache (apart key stored names holds) (inCache_tmpPath tmp))
  exact Prod.ext (one _ (.inl rfl)) (one _ (.inr rfl))

/-- A write that fails leaves the lookups, where it does not fail halfway or has its entry in the first file. -/
theorem Ends.lookups {error : Error} (ends : Ends choose entry disk (.error error) after)
    (apart : ImagesApart disk entry)
    (halfway : FailsHalfway disk entry choose → disk.Hits entry.imageRef entry) :
    lookups after entry = EntryPair.lookups disk entry := by
  cases ends with
  | invalid => rfl
  | first untouched => exact untouched.lookups apart
  | half valid differs works fails stored untouched =>
    rename_i middle
    have hits := halfway ⟨valid, differs, works, fails⟩
    have outside := apart _ entry (.inl rfl) (hits_holds hits)
    -- The image of the entry is as it was, so that it is valid as before.
    have image : ∀ path, inCache path = false → after.files path = disk.files path := by
      intro path out
      rw [untouched path (ne_of_inCache out (inCache_tmpPath _)),
        stored.others path (ne_of_inCache out (inCache_entryPath _))
        (ne_of_inCache out (inCache_tmpPath _))]
    have valid' : after.validateCacheEntry entry = .ok () := by
      rw [Disk.validateCacheEntry_same disk (image _ outside), valid]
    have hits' : after.Hits entry.imageRef entry := by
      obtain ⟨file, found, data⟩ := untouched.keeps stored.holds
      exact after.hits_iff.mpr ⟨file, found, data, valid'⟩
    have byRef : after.readCacheEntry entry.imageRef = disk.readCacheEntry entry.imageRef := hits'.trans hits.symm
    have byId : after.readCacheEntry entry.imageId = disk.readCacheEntry entry.imageId := by
      by_cases same : entryPath entry.imageId = entryPath entry.imageRef
      · have shared : ∀ disk : Disk, disk.readCacheEntry entry.imageId = disk.readCacheEntry entry.imageRef := by
          intro disk
          have same' : cachePath entry.imageId cacheFileSuffix = cachePath entry.imageRef cacheFileSuffix := same
          simp only [Disk.readCacheEntry, same']
        rw [shared, shared, byRef]
      · refine readCacheEntry_same ?_ fun stored' holds => image _ (apart _ stored' (.inr rfl) holds)
        rw [untouched _ (tmp_ne_entry _ _), stored.others _ same (tmp_ne_entry _ _)]
    exact Prod.ext byRef byId

/-- The files of the two keys hold the entry that was written last under them. -/
def Kept (state : State) : Prop :=
  ∀ later made earlier, state.writes = later ++ made :: earlier → made.ok = true →
    (∀ other ∈ later, ¬ Names other.entry made.entry.imageRef ∧ ¬ Names other.entry made.entry.imageId) →
      Holds state.disk made.entry.imageRef made.entry ∧ Holds state.disk made.entry.imageId made.entry

theorem Kept.agree (keeps : Kept state) : Agree state := by
  intro later made earlier listed ok untouched byRef byId hits hits'
  obtain ⟨ref, id⟩ := keeps later made earlier listed ok untouched
  exact ⟨(hits_holds hits).unique ref, (hits_holds hits').unique id⟩

/-- The step lemma: a write that is allowed. -/
theorem write_step (keeps : Kept state) (atomic : Atomic state) (apart : KeysApart state entry)
    (images : ImagesApart state.disk entry) (halfway : FailsHalfway state.disk entry choose →
      state.disk.Hits entry.imageRef entry) :
    Kept (state.write entry choose) ∧ Atomic (state.write entry choose) := by
  have ends := write_ends choose entry state.disk
  constructor
  · intro later made earlier listed ok untouched
    cases later with
    | nil =>
      obtain ⟨rfl, rfl⟩ := List.cons.inj listed
      change (write choose entry state.disk).1.isOk = true at ok
      rcases result : (write choose entry state.disk).1 with error | done
      · rw [result] at ok
        cases ok
      · rw [result] at ends
        obtain ⟨ref, id, _⟩ := ends
        exact ⟨ref, id⟩
    | cons last later =>
      obtain ⟨rfl, before⟩ := List.cons.inj listed
      obtain ⟨latest, others⟩ := List.forall_mem_cons.mp untouched
      obtain ⟨ref, id⟩ := keeps later made earlier before ok others
      have among : made ∈ state.writes := by
        rw [before]
        exact List.mem_append_right _ List.mem_cons_self
      have differ : ∀ key', Names made.entry key' → ¬ Names entry key' →
          entryPath key' ≠ entryPath entry.imageRef ∧ entryPath key' ≠ entryPath entry.imageId := by
        intro key' names other
        refine ⟨fun same => other ?_, fun same => other ?_⟩
        · exact .inl (apart made among ok _ key' (.inl rfl) names (cachePath_eq_iff.mp same.symm)).symm
        · exact .inr (apart made among ok _ key' (.inr rfl) names (cachePath_eq_iff.mp same.symm)).symm
      have apartRef := differ _ (.inl rfl) latest.1
      have apartId := differ _ (.inr rfl) latest.2
      exact ⟨ends.keeps apartRef.1 apartRef.2 ref, ends.keeps apartId.1 apartId.2 id⟩
  · intro made listed failed
    rcases List.mem_cons.mp listed with rfl | earlier
    · change (write choose entry state.disk).1.isOk = false at failed
      change lookups (write choose entry state.disk).2 entry = lookups state.disk entry
      rcases result : (write choose entry state.disk).1 with error | done
      · rw [result] at ends
        exact ends.lookups images halfway
      · rw [result] at failed
        cases failed
    · exact atomic made earlier failed

theorem elsewhere_step {files : Path → Option File} {dirs : Path → Bool} (keeps : Kept state) :
    Kept (state.elsewhere files dirs) := by
  intro later made earlier listed ok untouched
  obtain ⟨⟨file, found, data⟩, ⟨file', found', data'⟩⟩ := keeps later made earlier listed ok untouched
  exact ⟨⟨file, found, data⟩, ⟨file', found', data'⟩⟩

/-- In every run whose writes are allowed, the two lookups of an entry agree on it, and a write that fails has changed
neither of its lookups. -/
theorem entry_pair_agrees (reached : entryWrites.Reachable Allowed state) : Agree state ∧ Atomic state := by
  have invariant := @System.Reachable.invariant _ _ _ _ _ (fun state => Kept state ∧ Atomic state)
    (by
      intro state none
      change state.writes = [] at none
      constructor
      · intro later made earlier listed
        rw [none] at listed
        simp at listed
      · intro made listed
        rw [none] at listed
        exact absurd listed List.not_mem_nil)
    (by
      rintro state (⟨entry, choose⟩ | ⟨files, dirs⟩) next ⟨keeps, atomic⟩ allowed ran
      · cases ran
        exact write_step keeps atomic allowed.1 allowed.2.1 allowed.2.2
      · cases ran
        exact ⟨elsewhere_step keeps, atomic⟩)
    reached
  exact ⟨invariant.1.agree, invariant.2⟩

def sampleImage : Path := .shared .images ["app.ext4".toList]

def sampleEntry : CacheEntry where
  imageRef := "quay.io/app:1".toList
  imageId := "sha256:aa".toList
  fsType := "ext4".toList
  imageSize := 4096
  blockSize := 4096
  rootfsDigest := "sha256:bb".toList
  ociConfigJson := []
  sourceRdAddr := 1
  shareId := 1
  pageCount := 1
  rootfsImagePath := sampleImage

/-- An entry for another reference, of which the file has the same name. -/
def collidingEntry : CacheEntry := { sampleEntry with imageRef := "quay.io_app_1".toList, imageId := "sha256:cc".toList }

/-- A disk with the image file only. -/
def sampleState : State := ⟨Disk.empty.put sampleImage ⟨.image (.complete sampleImage), 4096, 0⟩, []⟩

def works (_ : Nat) : Choice := {}

/-- The rename to the second file is refused. -/
def secondRenameFails (n : Nat) : Choice := { fails := n == 6 }

/-- A write that fails halfway changes the first lookup, and a write for another key takes the file of one. -/
theorem halfway_changes_lookup :
    (∃ state, entryWrites.Reachable System.Free state ∧ ¬ Atomic state) ∧
      ∃ state, entryWrites.Reachable System.Free state ∧ ¬ Agree state := by
  have starts : entryWrites.start sampleState := rfl
  have half : entryWrites.step sampleState (.write sampleEntry secondRenameFails) =
      some (sampleState.write sampleEntry secondRenameFails) := rfl
  have first : entryWrites.step sampleState (.write sampleEntry works) = some (sampleState.write sampleEntry works) :=
    rfl
  have second : entryWrites.step (sampleState.write sampleEntry works) (.write collidingEntry works) =
      some ((sampleState.write sampleEntry works).write collidingEntry works) := rfl
  constructor
  · refine ⟨_, .step (.start starts) trivial half, fun atomic => ?_⟩
    have same := congrArg Prod.fst (atomic _ List.mem_cons_self (by decide +kernel))
    have before : sampleState.disk.readCacheEntry sampleEntry.imageRef = .ok none := by decide +kernel
    have after : (write secondRenameFails sampleEntry sampleState.disk).2.readCacheEntry sampleEntry.imageRef =
        .ok (some sampleEntry) := by decide +kernel
    change (write secondRenameFails sampleEntry sampleState.disk).2.readCacheEntry sampleEntry.imageRef =
      sampleState.disk.readCacheEntry sampleEntry.imageRef at same
    rw [before, after] at same
    cases same
  · refine ⟨_, .step (.step (.start starts) trivial first) trivial second, fun agree => ?_⟩
    have untouched : ¬ Names collidingEntry sampleEntry.imageRef ∧ ¬ Names collidingEntry sampleEntry.imageId := by
      unfold Names
      decide +kernel
    have byRef : ((sampleState.write sampleEntry works).write collidingEntry works).disk.Hits sampleEntry.imageRef
        collidingEntry := by
      unfold Disk.Hits
      decide +kernel
    have byId : ((sampleState.write sampleEntry works).write collidingEntry works).disk.Hits sampleEntry.imageId
        sampleEntry := by
      unfold Disk.Hits
      decide +kernel
    have both := agree [_] _ [] rfl (by decide +kernel) (List.forall_mem_singleton.mpr untouched) _ _ byRef byId
    exact absurd both.1 (by decide +kernel)

theorem one_write_agrees :
    ∃ state, entryWrites.Reachable Allowed state ∧ state.disk.Hits sampleEntry.imageRef sampleEntry ∧
    state.disk.Hits sampleEntry.imageId sampleEntry ∧ Agree state ∧ Atomic state := by
  have starts : entryWrites.start sampleState := rfl
  have first : entryWrites.step sampleState (.write sampleEntry works) = some (sampleState.write sampleEntry works) :=
    rfl
  have allowed : Allowed sampleState (.write sampleEntry works) := by
    refine ⟨fun made listed => absurd listed List.not_mem_nil, ?_, ?_⟩
    · rintro key stored _ ⟨file, found, _⟩
      have other : entryPath key ≠ sampleImage := nofun
      rw [sampleState, put_files_ne other] at found
      cases found
    · rintro ⟨_, _, _, fails⟩
      exact absurd (show Works works 4 from ⟨rfl, rfl, rfl⟩) fails
  have reached := System.Reachable.step (.start starts) allowed first
  have byRef : (sampleState.write sampleEntry works).disk.Hits sampleEntry.imageRef sampleEntry := by
    unfold Disk.Hits
    decide +kernel
  have byId : (sampleState.write sampleEntry works).disk.Hits sampleEntry.imageId sampleEntry := by
    unfold Disk.Hits
    decide +kernel
  exact ⟨_, reached, byRef, byId, entry_pair_agrees reached⟩

end Runs

end GuestComponents.SharedRootfs.EntryPair
