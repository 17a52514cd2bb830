import GuestComponents.SharedRootfs.History

/-! Keys and the files they name. References and image ids share one key space and
become file names by a lossy map, and nothing compares a stored key with the one
that was asked for. So a reader gets its own key's entry, a request the image of
its own reference, and an image id a file of its own, only for keys that the map
keeps apart (`keys_isolated`). -/
namespace GuestComponents.SharedRootfs.KeyIsolation
open Lib Program

/-- Keys that `sanitize_path_component` keeps apart, and which reference is used
with which image id. A reference that is also an image id is used with itself. -/
structure Keys where
  key : Text → Prop
  used : Text → Text → Prop
  of_used : ∀ {reference id}, used reference id → key reference ∧ key id
  distinct : ∀ {one other}, key one → key other →
    sanitizePathComponent one = sanitizePathComponent other → one = other
  apart : ∀ {reference id reference' id'}, used reference id → used reference' id' → reference = id' →
    id = reference

/-- The reference has been used with the image id. -/
inductive Associated (reference id : Text) (history : List Event) : Prop where
  | wroteCache {pid : Nat} {entry : CacheEntry} : .began pid (.writeCache entry) ∈ history →
      entry.imageRef = reference → entry.imageId = id → Associated reference id history
  | wroteBundle {pid : Nat} {entry : BundleEntry} : .began pid (.writeBundle entry) ∈ history →
      entry.imageRef = reference → entry.imageId = id → Associated reference id history
  | prepared {pid : Nat} {bundleDir : Path} : .began pid (.prepare reference id bundleDir) ∈ history →
      Associated reference id history
  | pulled {pid : Nat} {bundlePath : Path} : .did pid (.pullImage reference bundlePath) (.ok id) ∈ history →
      Associated reference id history

/-- The id is an image id of the reference, or the reference itself is the id. -/
def ImageOf (reference id : Text) (history : List Event) : Prop :=
  Associated reference id history ∨ id = reference ∧ ∃ other, Associated other id history

def IsImage (id : Text) (path : Path) : Prop :=
  ∃ format, path = imagePath imagesDir (sanitizePathComponent id) format

/-- The digest was computed from the file. -/
def Hashed (path : Path) (sha256 : Text) (history : List Event) : Prop :=
  ∃ pid, .did pid (.sha256File path) (.ok sha256) ∈ history

/-- The digest of an image file that may have been hashed. -/
def DigestOf (path : Path) (id digest : Text) (history : List Event) : Prop :=
  ∃ sha256, digest = sharedRootfsDigest sha256 id ∧ (sha256 = [] ∨ Hashed path sha256 history)

/-- The share and the digest of the entry were made from an image file of its id. -/
structure Created (entry : CacheEntry) (history : List Event) : Prop where
  share : ∃ pid reference share, .did pid (.createShare reference entry.imageId entry.rootfsImagePath)
      (.ok share) ∈ history ∧ entry.shareId = share.shareId ∧ entry.sourceRdAddr = share.sourceRdAddr ∧
    entry.pageCount = share.pageCount
  digest : DigestOf entry.rootfsImagePath entry.imageId entry.rootfsDigest history

/-- The entry, under whatever reference, was made of its own image id: here, or by
the caller that wrote it. -/
def Made (entry : CacheEntry) (history : List Event) : Prop :=
  Created entry history ∨ ∃ pid written, .began pid (.writeCache written) ∈ history ∧
    entry = { written with imageRef := entry.imageRef }

/-- The entry is of an image of its reference. -/
structure Genuine (entry : CacheEntry) (history : List Event) : Prop where
  image : ImageOf entry.imageRef entry.imageId history
  path : IsImage entry.imageId entry.rootfsImagePath
  made : Made entry history

/-- A file that is written under one name and renamed to another. -/
inductive Slot : Path → Path → Prop where
  | cache (key : Text) : Slot (cacheTmpPath key) (cachePath key cacheFileSuffix)
  | index (key : Text) : Slot (bundleTmpPath key) (bundleIndexPath key)
  | sidecar (safeImageId : Text) (format : RootfsImageFormat) :
      Slot (sidecarTmpPath (rootfsDigestSidecarPath (imagePath imagesDir safeImageId format)))
        (rootfsDigestSidecarPath (imagePath imagesDir safeImageId format))

/-- What may stand in the file of this final name. -/
def Owns (final : Path) (history : List Event) : FileData → Prop
  | .cacheEntry entry => Genuine entry history ∧ (final = cachePath entry.imageRef cacheFileSuffix ∨
      final = cachePath entry.imageId cacheFileSuffix)
  | .bundleEntry entry => ImageOf entry.imageRef entry.imageId history ∧
      (final = bundleIndexPath entry.imageRef ∨ final = bundleIndexPath entry.imageId)
  | .digestSidecar sidecar => ∃ safeImageId format,
      final = rootfsDigestSidecarPath (imagePath imagesDir safeImageId format) ∧
        Hashed (imagePath imagesDir safeImageId format) sidecar.sha256 history
  | _ => True

/-- An entry, an index entry or a sidecar. -/
def Tagged : FileData → Prop
  | .cacheEntry _ | .bundleEntry _ | .digestSidecar _ => True
  | _ => False

def Belongs (path : Path) (data : FileData) (history : List Event) : Prop :=
  ∃ tmp final, Slot tmp final ∧ (path = tmp ∨ path = final) ∧ Owns final history data

/-- The reply names an image of the reference, and its share and its digest are of
that image. -/
def Answered (reference : Text) (response : PrepareRootfsResponse) (history : List Event) : Prop :=
  ∃ entry, response = replyFromCacheEntry entry ∧ Made entry history ∧
    ImageOf reference entry.imageId history

/-- What all histories over such keys keep. -/
structure Kept (keys : Keys) (world : World) : Prop where
  associated : ∀ reference id, Associated reference id world.history → keys.used reference id
  files : ∀ path file, world.disk.files path = some file → Tagged file.data →
    Belongs path file.data world.history
  shared : ∀ pid reference id path answer, .did pid (.createShare reference id path) answer ∈ world.history →
    keys.key id ∧ IsImage id path
  answered : ∀ pid response, .did pid (.reply (.rootfs (.ok response))) () ∈ world.history →
    ∃ reference polls, .began pid (.prepareRootfs reference polls) ∈ world.history ∧
      Answered reference response world.history

variable {keys : Keys} {pid : Nat} {world : World} {event : Event} {before after history : List Event}
  {reference id key : Text} {entry : CacheEntry} {path tmp final : Path} {data : FileData}

section Histories

theorem Associated.lasts (grows : ∀ event ∈ before, event ∈ after) (known : Associated reference id before) :
    Associated reference id after := by
  cases known with
  | wroteCache member named identified => exact .wroteCache (grows _ member) named identified
  | wroteBundle member named identified => exact .wroteBundle (grows _ member) named identified
  | prepared member => exact .prepared (grows _ member)
  | pulled member => exact .pulled (grows _ member)

theorem ImageOf.lasts (grows : ∀ event ∈ before, event ∈ after) (known : ImageOf reference id before) :
    ImageOf reference id after := by
  rcases known with known | ⟨same, other, known⟩
  · exact .inl (known.lasts grows)
  · exact .inr ⟨same, other, known.lasts grows⟩

theorem Hashed.lasts {sha256 : Text} (grows : ∀ event ∈ before, event ∈ after)
    (known : Hashed path sha256 before) : Hashed path sha256 after := by
  obtain ⟨pid, member⟩ := known
  exact ⟨pid, grows _ member⟩

theorem Made.lasts (grows : ∀ event ∈ before, event ∈ after) (known : Made entry before) :
    Made entry after := by
  rcases known with ⟨⟨pid, reference, share, member, same⟩, sha256, digest, hashed⟩ | ⟨pid,
    written, member, same⟩
  · exact .inl ⟨⟨pid, reference, share, grows _ member, same⟩, sha256, digest,
      hashed.imp_right (·.lasts grows)⟩
  · exact .inr ⟨pid, written, grows _ member, same⟩

theorem Genuine.lasts (grows : ∀ event ∈ before, event ∈ after) (known : Genuine entry before) :
    Genuine entry after :=
  ⟨known.image.lasts grows, known.path, known.made.lasts grows⟩

theorem Owns.lasts (grows : ∀ event ∈ before, event ∈ after) (known : Owns final before data) :
    Owns final after data := by
  cases data with
  | cacheEntry entry => exact ⟨known.1.lasts grows, known.2⟩
  | bundleEntry entry => exact ⟨known.1.lasts grows, known.2⟩
  | digestSidecar sidecar =>
    obtain ⟨safeImageId, format, same, hashed⟩ := known
    exact ⟨safeImageId, format, same, hashed.lasts grows⟩
  | _ => trivial

theorem Belongs.lasts (grows : ∀ event ∈ before, event ∈ after) (known : Belongs path data before) :
    Belongs path data after := by
  obtain ⟨tmp, final, slot, at_, owns⟩ := known
  exact ⟨tmp, final, slot, at_, owns.lasts grows⟩

theorem Answered.lasts {response : PrepareRootfsResponse} (grows : ∀ event ∈ before, event ∈ after)
    (known : Answered reference response before) : Answered reference response after := by
  obtain ⟨entry, same, made, image⟩ := known
  exact ⟨entry, same, made.lasts grows, image.lasts grows⟩

/-- An entry written under another reference is made of the same image. -/
theorem Made.alias (made : Made entry history) (reference : Text) :
    Made { entry with imageRef := reference } history := by
  rcases made with ⟨share, digest⟩ | ⟨pid, written, member, same⟩
  · exact .inl ⟨share, digest⟩
  · refine .inr ⟨pid, written, member, ?_⟩
    rw [same]

theorem ImageOf.self (known : ImageOf reference id history) : ImageOf id id history := by
  rcases known with known | ⟨rfl, other, known⟩
  · exact .inr ⟨rfl, reference, known⟩
  · exact .inr ⟨rfl, other, known⟩

end Histories

section Slots

theorem bundleTmpPath_eq (key : Text) : bundleTmpPath key = .shared .bundleIndex
    [fileName (fileName (sanitizePathComponent key) "bundle".toList) (bundleFileSuffix ++ tmpSuffix)] := by
  have nested : fileName (sanitizePathComponent key) bundleFileSuffix =
      fileName (fileName (sanitizePathComponent key) "bundle".toList) "json".toList := by
    have parts : bundleFileSuffix = "bundle".toList ++ '.' :: "json".toList := by decide
    rw [fileName, fileName, fileName, parts, List.append_assoc, List.cons_append]
  have plain : '.' ∉ "json".toList := by decide
  have solid : fileName (sanitizePathComponent key) "bundle".toList ≠ [] := by simp [fileName]
  rw [bundleTmpPath, nested, withExtension_fileName plain solid]

theorem bundleIndexPath_eq_iff {other : Text} : bundleIndexPath key = bundleIndexPath other ↔
    sanitizePathComponent key = sanitizePathComponent other := by
  constructor
  · intro same
    exact fileName_injective (by simpa [bundleIndexPath] using same)
  · intro same
    rw [bundleIndexPath, bundleIndexPath, same]

theorem bundleTmpPath_injective {other : Text} (same : bundleTmpPath key = bundleTmpPath other) :
    bundleIndexPath key = bundleIndexPath other := by
  rw [bundleTmpPath_eq, bundleTmpPath_eq] at same
  have names : fileName (fileName (sanitizePathComponent key) "bundle".toList) (bundleFileSuffix ++ tmpSuffix) =
      fileName (fileName (sanitizePathComponent other) "bundle".toList) (bundleFileSuffix ++ tmpSuffix) := by
    simpa using same
  exact bundleIndexPath_eq_iff.mpr (fileName_injective (fileName_injective names))

/-- A temporary name ends in another letter than a final one. -/
theorem Slot.letters (slot : Slot tmp final) : tmp.lastLetter = some 'p' ∧ final.lastLetter = some 'n' := by
  cases slot with
  | cache key =>
    rw [cacheTmpPath_eq]
    exact ⟨@join_lastLetter (.shared .cache []) _ _ 'p' (by decide),
      @join_lastLetter (.shared .cache []) _ _ 'n' (by decide)⟩
  | index key =>
    rw [bundleTmpPath_eq]
    exact ⟨@join_lastLetter (.shared .bundleIndex []) _ _ 'p' (by decide),
      @join_lastLetter (.shared .bundleIndex []) _ _ 'n' (by decide)⟩
  | sidecar safeImageId format => exact ⟨sidecarTmp_lastLetter _, sidecar_lastLetter _⟩

theorem Slot.final_ne_tmp {tmp' final' : Path} (slot : Slot tmp final) (slot' : Slot tmp' final') :
    final ≠ tmp' := by
  intro same
  have letters := slot.letters.2
  rw [same, slot'.letters.1] at letters
  cases letters

theorem Slot.final_unique {final' : Path} (slot : Slot tmp final) (slot' : Slot tmp final') :
    final = final' := by
  generalize same : tmp = tmp' at slot'
  cases slot with
  | cache key =>
    cases slot' with
    | cache other => exact cacheTmpPath_eq_iff.mp same
    | index other => cases same
    | sidecar safe format => cases same
  | index key =>
    cases slot' with
    | cache other => cases same
    | index other => exact bundleTmpPath_injective same
    | sidecar safe format => cases same
  | sidecar safe format =>
    cases slot' with
    | cache other => cases same
    | index other => cases same
    | sidecar safe' format' =>
      simp only [rootfsDigestSidecarPath, imagePath, imagesDir, Path.join, sidecarTmpPath] at same ⊢
      simpa using same

theorem sidecarPath_injective {safe safe' : Text} {format format' : RootfsImageFormat}
    (same : rootfsDigestSidecarPath (imagePath imagesDir safe format) =
      rootfsDigestSidecarPath (imagePath imagesDir safe' format')) :
    imagePath imagesDir safe format = imagePath imagesDir safe' format' := by
  simp only [rootfsDigestSidecarPath, imagePath, imagesDir, Path.join] at same ⊢
  have names : fileName (fileName safe format.asFsType) digestFileSuffix =
      fileName (fileName safe' format'.asFsType) digestFileSuffix := by simpa using same
  rw [fileName_injective names]

/-- A rename of a slot's file keeps it where it belongs. -/
theorem Belongs.renamed {source target : Path} (slot : Slot source target)
    (known : Belongs source data history) : Belongs target data history := by
  obtain ⟨tmp, final, other, rfl | rfl, owns⟩ := known
  · exact ⟨source, final, other, .inr (slot.final_unique other), owns⟩
  · exact absurd rfl (other.final_ne_tmp slot)

/-- What a file under a final name holds may stand there. -/
theorem Belongs.owns (slot : Slot tmp final) (known : Belongs final data history) : Owns final history data := by
  obtain ⟨tmp', final', other, rfl | rfl, owns⟩ := known
  · exact absurd rfl (slot.final_ne_tmp other)
  · exact owns

end Slots

section Steps

variable {op : Op} {choice : Choice} {disk : Disk} {file : File}

theorem put_data {other : Path} {new : File}
    (found : (disk.put other new).files path = some file) :
    (path = other ∧ file = new) ∨ disk.files path = some file := by
  by_cases same : path = other
  · subst same
    rw [put_files_self] at found
    cases found
    exact .inl ⟨rfl, rfl⟩
  · rw [put_files_ne same] at found
    exact .inr found

theorem drop_data {other : Path} (found : (disk.drop other).files path = some file) :
    disk.files path = some file := by
  by_cases same : path = other
  · subst same
    rw [drop_files_self] at found
    cases found
  · rwa [drop_files_ne same] at found

/-- Where a tagged file comes from: it was there, or was written or renamed. -/
theorem act_tagged (found : (act pid disk op choice).2.files path = some file) (tagged : Tagged file.data) :
    disk.files path = some file ∨ op = .writeFile path file.data ∨
      ∃ source, op = .rename source path ∧ disk.files source = some file := by
  have untagged : ∀ {target new}, (disk.put target new).files path = some file → ¬ Tagged new.data →
      disk.files path = some file := by
    intro target new found other
    rcases put_data found with ⟨_, rfl⟩ | old
    · exact absurd tagged other
    · exact old
  cases op with
  | createDirAll target =>
    simp only [act] at found
    split at found <;> exact .inl found
  | writeFile target data =>
    simp only [act] at found
    split at found
    · split at found
      · exact .inl found
      · exact .inl (untagged found id)
    · rcases put_data found with ⟨rfl, rfl⟩ | old
      · exact .inr (.inl rfl)
      · exact .inl old
  | rename source target =>
    simp only [act] at found
    split at found
    · exact .inl found
    · rename_i moved there
      split at found
      · exact .inl found
      · rcases put_data found with ⟨rfl, rfl⟩ | old
        · exact .inr (.inr ⟨source, rfl, there⟩)
        · exact .inl (drop_data old)
  | removeFile target =>
    simp only [act] at found
    split at found
    · exact .inl found
    · split at found
      · exact .inl found
      · exact .inl (drop_data found)
  | startCommand command =>
    simp only [act] at found
    split at found
    · exact .inl found
    · cases command with
      | mkfsExt4 rootfsDir output =>
        simp only [Command.opens] at found
        split at found
        · exact .inl found
        · exact .inl (untagged found id)
      | _ => exact .inl (untagged found id)
  | awaitCommand command =>
    simp only [act, Command.closes] at found
    split at found
    · split at found
      · exact .inl (drop_data found)
      · exact .inl (untagged found id)
    · split at found
      · exact .inl found
      · refine .inl (untagged found ?_)
        unfold Command.finished
        split
        · cases command <;> exact id
        · exact id
  | pullImage reference bundlePath =>
    simp only [act] at found
    split at found
    · exact .inl found
    · split at found
      · exact .inl found
      · exact .inl (untagged found id)
  | _ => exact .inl found

/-- A sidecar that is read is what the file holds. -/
theorem act_sidecar {sidecar : DigestSidecar}
    (read : (act pid disk (.readSidecar path) choice).1 = .ok (some sidecar)) :
    ∃ file, disk.files path = some file ∧ file.data = .digestSidecar sidecar := by
  simp only [act] at read
  split at read
  · cases read
  · rename_i stored size modified found
    obtain ⟨_, same⟩ := outcome_ok.mp read
    cases same
    exact ⟨_, found, rfl⟩
  · obtain ⟨_, same⟩ := outcome_ok.mp read
    cases same

/-- What the operation writes and renames belongs where it goes. -/
structure Keeps (history : List Event) (op : Op) : Prop where
  writes : ∀ path data, op = .writeFile path data → Tagged data → Belongs path data history
  renames : ∀ source target, op = .rename source target → Slot source target

/-- The operation says nothing of references, image files or replies. -/
structure Silent (op : Op) : Prop where
  pull : ∀ reference bundlePath, op ≠ .pullImage reference bundlePath
  share : ∀ reference id path, op ≠ .createShare reference id path
  reply : ∀ reply, op ≠ .reply reply

/-- The world after an operation of a process. -/
abbrev done (pid : Nat) (world : World) (op : Op) (choice : Choice) : World :=
  (host.perform pid world op choice).2

theorem grows_done : ∀ event ∈ world.history, event ∈ (done pid world op choice).history :=
  fun _ member => List.mem_cons_of_mem _ member

theorem Kept.files_done (kept : Kept keys world) (keeps : Keeps world.history op) :
    ∀ path file, (done pid world op choice).disk.files path = some file → Tagged file.data →
      Belongs path file.data (done pid world op choice).history := by
  intro path file found tagged
  refine Belongs.lasts grows_done ?_
  rcases act_tagged found tagged with old | written | ⟨source, renamed, moved⟩
  · exact kept.files path file old tagged
  · exact keeps.writes path file.data written tagged
  · exact (kept.files source file moved tagged).renamed (keeps.renames source path renamed)

theorem associated_cons (known : Associated reference id (event :: history)) :
    Associated reference id history ∨ (∃ pid request, event = .began pid request) ∨
      ∃ pid bundlePath, event = .did pid (.pullImage reference bundlePath) (.ok id) := by
  cases known with
  | wroteCache member named identified =>
    rcases List.mem_cons.mp member with rfl | old
    · exact .inr (.inl ⟨_, _, rfl⟩)
    · exact .inl (.wroteCache old named identified)
  | wroteBundle member named identified =>
    rcases List.mem_cons.mp member with rfl | old
    · exact .inr (.inl ⟨_, _, rfl⟩)
    · exact .inl (.wroteBundle old named identified)
  | prepared member =>
    rcases List.mem_cons.mp member with rfl | old
    · exact .inr (.inl ⟨_, _, rfl⟩)
    · exact .inl (.prepared old)
  | pulled member =>
    rcases List.mem_cons.mp member with rfl | old
    · exact .inr (.inr ⟨_, _, rfl⟩)
    · exact .inl (.pulled old)

/-- One operation that keeps the files where they belong, and what its event adds. -/
theorem Kept.done (kept : Kept keys world) (keeps : Keeps world.history op)
    (pulls : ∀ reference bundlePath, op = .pullImage reference bundlePath → choice.fails = false →
      keys.used reference choice.imageId)
    (shares : ∀ reference id path, op = .createShare reference id path → keys.key id ∧ IsImage id path)
    (replies : ∀ response, op = .reply (.rootfs (.ok response)) → ∃ reference polls,
      .began pid (.prepareRootfs reference polls) ∈ world.history ∧ Answered reference response world.history) :
    Kept keys (KeyIsolation.done pid world op choice) where
  associated reference id known := by
    rcases associated_cons known with old | ⟨other, request, impossible⟩ | ⟨other, bundlePath, same⟩
    · exact kept.associated reference id old
    · cases impossible
    · obtain ⟨rfl, rfl, pulled⟩ := Event.did.inj same
      obtain ⟨works, identified⟩ := outcome_ok.mp (eq_of_heq pulled)
      rw [← identified]
      exact pulls reference bundlePath rfl works
  files := kept.files_done keeps
  shared other reference id path answer member := by
    rcases List.mem_cons.mp member with same | old
    · obtain ⟨_, same, _⟩ := Event.did.inj same
      exact shares reference id path same.symm
    · exact kept.shared other reference id path answer old
  answered other response member := by
    rcases List.mem_cons.mp member with same | old
    · obtain ⟨rfl, same, _⟩ := Event.did.inj same
      obtain ⟨reference, polls, began, answered⟩ := replies response same.symm
      exact ⟨reference, polls, grows_done _ began, answered.lasts grows_done⟩
    · obtain ⟨reference, polls, began, answered⟩ := kept.answered other response old
      exact ⟨reference, polls, grows_done _ began, answered.lasts grows_done⟩

theorem Kept.silent (kept : Kept keys world) (keeps : Keeps world.history op) (silent : Silent op) :
    Kept keys (KeyIsolation.done pid world op choice) :=
  kept.done keeps (fun _ _ same => absurd same (silent.pull _ _)) (fun _ _ _ same => absurd same (silent.share _ _ _))
    fun _ same => absurd same (silent.reply _)

end Steps

/-- The calls over the keys: entries that a caller writes are of its keys and name
an image file of their id. -/
def Fits (keys : Keys) : Request → Prop
  | .writeCache entry => keys.used entry.imageRef entry.imageId ∧ IsImage entry.imageId entry.rootfsImagePath
  | .writeBundle entry => keys.used entry.imageRef entry.imageId
  | .prepare imageRef imageId _ => keys.used imageRef imageId
  | .prepareRootfs imageRef _ => keys.key imageRef
  | .wait _ _ => True
  | .prepareImage _ _ _ _ => False

/-- An event that is no operation shares nothing. -/
theorem Kept.shared_cons (kept : Kept keys world) {event : Event}
    (noOp : ∀ pid op answer, event ≠ .did pid op answer) (other : Nat) (reference id : Text) (path : Path)
    (answer : Answer (.createShare reference id path))
    (member : .did other (.createShare reference id path) answer ∈ event :: world.history) :
    keys.key id ∧ IsImage id path := by
  rcases List.mem_cons.mp member with same | old
  · exact absurd same.symm (noOp _ _ _)
  · exact kept.shared other reference id path answer old

/-- An event that is no operation answers nothing. -/
theorem Kept.answered_cons (kept : Kept keys world) {event : Event}
    (noOp : ∀ pid op answer, event ≠ .did pid op answer) (other : Nat) (response : PrepareRootfsResponse)
    (member : .did other (.reply (.rootfs (.ok response))) () ∈ event :: world.history) :
    ∃ reference polls, .began other (.prepareRootfs reference polls) ∈ event :: world.history ∧
      Answered reference response (event :: world.history) := by
  rcases List.mem_cons.mp member with same | old
  · exact absurd same.symm (noOp _ _ _)
  · obtain ⟨reference, polls, began, answered⟩ := kept.answered other response old
    exact ⟨reference, polls, List.mem_cons_of_mem _ began, answered.lasts fun _ => List.mem_cons_of_mem _⟩

theorem Kept.began (kept : Kept keys world) {request : Request} (fits : Fits keys request) :
    Kept keys (host.began pid request world) where
  associated reference id known := by
    rcases known with ⟨member, rfl, rfl⟩ | ⟨member, rfl, rfl⟩ | member | member <;>
      rcases List.mem_cons.mp member with same | old
    · cases same
      exact fits.1
    · exact kept.associated _ _ (.wroteCache old rfl rfl)
    · cases same
      exact fits
    · exact kept.associated _ _ (.wroteBundle old rfl rfl)
    · cases same
      exact fits
    · exact kept.associated _ _ (.prepared old)
    · cases same
    · exact kept.associated _ _ (.pulled old)
  files path file found tagged := (kept.files path file found tagged).lasts fun _ => List.mem_cons_of_mem _
  shared := kept.shared_cons fun _ _ _ same => Event.noConfusion same
  answered := kept.answered_cons fun _ _ _ same => Event.noConfusion same

theorem Kept.died (kept : Kept keys world) : Kept keys (host.died pid world) where
  associated reference id known := by
    rcases associated_cons known with old | ⟨other, request, impossible⟩ | ⟨other, bundlePath, impossible⟩
    · exact kept.associated reference id old
    · cases impossible
    · cases impossible
  files path file found tagged := (kept.files path file found tagged).lasts fun _ => List.mem_cons_of_mem _
  shared := kept.shared_cons fun _ _ _ same => Event.noConfusion same
  answered := kept.answered_cons fun _ _ _ same => Event.noConfusion same

/-- Every process only adds to the history. -/
def contract (keys : Keys) : Contract host where
  inv := Kept keys
  permits _ _ op choice := ∀ reference bundlePath, op = .pullImage reference bundlePath →
    choice.fails = false → keys.key reference → keys.used reference choice.imageId
  mayStart _ _ request := Fits keys request
  mayDie _ _ := True
  guarantee _ world after := ∀ event ∈ world.history, event ∈ after.history
  rely _ world after := ∀ event ∈ world.history, event ∈ after.history
  rely_refl _ _ _ member := member
  rely_trans _ _ _ _ first second event member := second event (first event member)
  compatible _ _ _ grows := grows
  starts kept fits := ⟨kept.began fits, fun _ _ _ => List.mem_cons_of_mem _⟩
  dies kept _ := ⟨kept.died, fun _ _ _ => List.mem_cons_of_mem _⟩

/-- Something a history shows, and every longer one. -/
structure Fact where
  holds : List Event → Prop
  lasts : ∀ {before after}, (∀ event ∈ before, event ∈ after) → holds before → holds after

namespace Fact

/-- Nothing. -/
def any : Fact := ⟨fun _ => True, fun _ known => known⟩

def and (one other : Fact) : Fact where
  holds history := one.holds history ∧ other.holds history
  lasts grows known := ⟨one.lasts grows known.1, other.lasts grows known.2⟩

/-- What a success shows. -/
def onOk {α : Type} (learnt : α → Fact) : Except Error α → Fact
  | .ok value => learnt value
  | .error _ => any

theorem stable (fact : Fact) : (contract keys).Stable pid fun world => fact.holds world.history :=
  fun _ _ => fact.lasts

end Fact

variable {α β : Type} {fact one : Fact} {kind : Op → Prop}

/-- While the fact is known the program keeps everything, and its result shows more. -/
def Learns (keys : Keys) (pid : Nat) (fact : Fact) (program : Prog α) (learnt : α → Fact) : Prop :=
  (contract keys).Triple pid (fun world => fact.holds world.history) program
    fun value world => (learnt value).holds world.history

/-- The same of a program that may fail. -/
abbrev Tells (keys : Keys) (pid : Nat) (fact : Fact) (program : Fail α) (learnt : α → Fact) : Prop :=
  Learns keys pid fact program.run (Fact.onOk learnt)

namespace Learns

variable {program : Prog α} {learnt learnt' : α → Fact}

theorem consequence (learns : Learns keys pid fact program learnt)
    (before : ∀ history, one.holds history → fact.holds history)
    (after : ∀ value world, Kept keys world → (learnt value).holds world.history →
      (learnt' value).holds world.history) : Learns keys pid one program learnt' :=
  Contract.Triple.consequence learns (fun _ _ => before _) after

/-- What is known stays known. -/
theorem keep (learns : Learns keys pid fact program learnt) :
    Learns keys pid fact program fun value => fact.and (learnt value) := by
  have framed := Contract.Triple.frame learns fact.stable fact.lasts
  exact framed.consequence (fun _ _ known => ⟨known, known⟩) fun _ _ _ known => known

theorem bind {rest : α → Prog β} {final : β → Fact} (first : Learns keys pid fact program learnt)
    (second : ∀ value, Learns keys pid (fact.and (learnt value)) (rest value) final) :
    Learns keys pid fact (program >>= rest) final :=
  Contract.Triple.bind first.keep second

theorem pure {value : α} (shows : ∀ history, fact.holds history → (learnt value).holds history) :
    Learns keys pid fact (Pure.pure value) learnt :=
  Contract.Triple.pure fact.stable fun _ _ => shows _

theorem perform {op : Op} {learnt : Answer op → Fact}
    (step : ∀ world choice, Kept keys world → fact.holds world.history →
      (contract keys).permits pid world op choice → Kept keys (done pid world op choice) ∧
        (learnt (host.perform pid world op choice).1).holds (done pid world op choice).history) :
    Learns keys pid fact (call op) learnt := by
  refine Contract.Triple.perform fact.stable (fun answer => (learnt answer).stable) ?_
  intro world choice kept known permitted
  obtain ⟨kept', shows⟩ := step world choice kept known permitted
  exact ⟨kept', grows_done, shows⟩

/-- A program whose operations all keep everything while the fact is known. -/
theorem only (only : Only kind program)
    (keeps : ∀ op, kind op → Silent op ∧ ∀ history, fact.holds history → Keeps history op) :
    Learns keys pid fact program fun _ => Fact.any := by
  refine (Contract.Triple.only only fact.stable ?_).consequence (fun _ _ known => known) fun _ _ _ _ => trivial
  intro op world choice is kept known _
  obtain ⟨silent, keeps⟩ := keeps op is
  exact ⟨kept.silent (keeps _ known) silent, grows_done, fact.lasts grows_done known⟩

end Learns

namespace Tells

variable {program : Fail α} {learnt : α → Fact}

theorem bind {rest : α → Fail β} {final : β → Fact} (first : Tells keys pid fact program learnt)
    (second : ∀ value, Tells keys pid (fact.and (learnt value)) (rest value) final) :
    Tells keys pid fact (program >>= rest) final := by
  refine Learns.bind first ?_
  rintro (error | value)
  · exact Learns.pure fun _ _ => trivial
  · exact second value

/-- A part that shows nothing new. -/
theorem andThen {rest : α → Fail β} {final : β → Fact} (first : Tells keys pid fact program fun _ => Fact.any)
    (second : ∀ value, Tells keys pid fact (rest value) final) : Tells keys pid fact (program >>= rest) final :=
  bind first fun value => (second value).consequence (fun _ known => known.1) fun _ _ _ known => known

theorem pure {value : α} (shows : ∀ history, fact.holds history → (learnt value).holds history) :
    Tells keys pid fact (Pure.pure value) learnt := Learns.pure shows

theorem throw {error : Error} : Tells keys pid fact (throw error : Fail α) learnt :=
  Learns.pure fun _ _ => trivial

/-- A part whose failure is looked at, or that cannot fail. -/
theorem ask {program : Prog α} (learns : Learns keys pid fact program learnt) :
    Tells keys pid fact (ask program) learnt := by
  refine Learns.bind learns fun value => Learns.pure fun _ known => known.2

theorem withContext {message : String} {path : Path} (tells : Tells keys pid fact program learnt) :
    Tells keys pid fact (withContext message path program) learnt := by
  refine Learns.bind tells ?_
  rintro (error | value)
  · exact Learns.pure fun _ _ => trivial
  · exact Learns.pure fun _ known => known.2

/-- A program that may fail and whose operations keep everything. -/
theorem only (only : Only kind program.run)
    (keeps : ∀ op, kind op → Silent op ∧ ∀ history, fact.holds history → Keeps history op) :
    Tells keys pid fact program fun _ => Fact.any := by
  refine (Learns.only only keeps).consequence (fun _ known => known) ?_
  rintro (error | value) <;> exact fun _ _ _ => trivial

end Tells

section Facts

/-- The id is an image id of the reference. -/
def imageOf (reference id : Text) : Fact := ⟨ImageOf reference id, ImageOf.lasts⟩

def genuine (entry : CacheEntry) : Fact := ⟨Genuine entry, Genuine.lasts⟩

/-- The entry is one for the key. -/
def answers (key : Text) (entry : CacheEntry) : Fact where
  holds history := Genuine entry history ∧ (entry.imageRef = key ∨ entry.imageId = key)
  lasts grows known := ⟨known.1.lasts grows, known.2⟩

def foundFor (key : Text) (found : Option CacheEntry) : Fact where
  holds history := ∀ entry, found = some entry → (answers key entry).holds history
  lasts grows known entry same := (answers key entry).lasts grows (known entry same)

def hashed (path : Path) (sha256 : Text) : Fact where
  holds history := sha256 = [] ∨ Hashed path sha256 history
  lasts grows known := known.imp_right (·.lasts grows)

/-- The image lies where images of the id lie, and its digest is its own. -/
def imageAt (safeImageId : Text) (info : RootfsImageInfo) : Fact where
  holds history := (∃ format, info.path = imagePath imagesDir safeImageId format) ∧
    (hashed info.path info.sha256).holds history
  lasts grows known := ⟨known.1, (hashed _ _).lasts grows known.2⟩

theorem Kept.used_key (kept : Kept keys world) (image : ImageOf reference id world.history) : keys.key id := by
  rcases image with known | ⟨_, other, known⟩
  · exact (keys.of_used (kept.associated _ _ known)).2
  · exact (keys.of_used (kept.associated _ _ known)).2

theorem Kept.reference_key (kept : Kept keys world) (image : ImageOf reference id world.history) :
    keys.key reference := by
  rcases image with known | ⟨rfl, other, known⟩
  · exact (keys.of_used (kept.associated _ _ known)).1
  · exact (keys.of_used (kept.associated _ _ known)).2

/-- A reference that is an image id has no other image id. -/
theorem Kept.apart (kept : Kept keys world) {other : Text} (image : ImageOf reference id world.history)
    (identifies : ImageOf other reference world.history) : id = reference := by
  rcases image with known | ⟨same, _⟩
  · rcases identifies with known' | ⟨_, _, known'⟩
    · exact keys.apart (kept.associated _ _ known) (kept.associated _ _ known') rfl
    · exact keys.apart (kept.associated _ _ known) (kept.associated _ _ known') rfl
  · exact same

/-- A read gives an entry for its own key. -/
theorem Kept.reads (kept : Kept keys world) (own : keys.key key) (hits : world.disk.Hits key entry) :
    (answers key entry).holds world.history := by
  obtain ⟨file, found, data, _⟩ := world.disk.hits_iff.mp hits
  have belongs := kept.files _ file found (data ▸ trivial)
  rw [data] at belongs
  obtain ⟨genuine, same | same⟩ := belongs.owns (.cache key)
  · refine ⟨genuine, .inl (keys.distinct (kept.reference_key genuine.image) own ?_)⟩
    exact (cachePath_eq_iff.mp same).symm
  · refine ⟨genuine, .inr (keys.distinct (kept.used_key genuine.image) own ?_)⟩
    exact (cachePath_eq_iff.mp same).symm

/-- A read of the index gives an entry for its own key. -/
theorem Kept.readsIndex (kept : Kept keys world) (own : keys.key key) {entry : BundleEntry}
    (read : world.disk.readBundleEntry key = .ok (some entry)) :
    ImageOf entry.imageRef entry.imageId world.history ∧ (entry.imageRef = key ∨ entry.imageId = key) := by
  obtain ⟨file, found, data⟩ : ∃ file, world.disk.files (bundleIndexPath key) = some file ∧
      file.data = .bundleEntry entry := by
    simp only [Disk.readBundleEntry] at read
    split at read
    · cases read
    · rename_i file found
      split at read
      · rename_i stored data
        split at read
        · cases read
        · cases read
          exact ⟨file, found, data⟩
      · cases read
  have belongs := kept.files _ file found (data ▸ trivial)
  rw [data] at belongs
  obtain ⟨image, same | same⟩ := belongs.owns (.index key)
  · exact ⟨image, .inl (keys.distinct (kept.reference_key image) own (bundleIndexPath_eq_iff.mp same).symm)⟩
  · exact ⟨image, .inr (keys.distinct (kept.used_key image) own (bundleIndexPath_eq_iff.mp same).symm)⟩

end Facts

section Operations

theorem keeps_of_other {op : Op} (write : ∀ path data, op ≠ .writeFile path data)
    (rename : ∀ source target, op ≠ .rename source target) : Keeps history op :=
  ⟨fun _ _ same => absurd same (write _ _), fun _ _ same => absurd same (rename _ _)⟩

variable {op : Op}

theorem Quiet.silent (quiet : Quiet op) : Silent op := by
  cases quiet <;> exact ⟨by simp, by simp, by simp⟩

theorem Quiet.keeps (quiet : Quiet op) : Keeps history op := by
  cases quiet <;> exact keeps_of_other (by simp) (by simp)

theorem LookOp.silent (look : LookOp reference op) : Silent op := by
  cases look <;> exact ⟨by simp, by simp, by simp⟩

/-- Operations that keep everything, whatever is known. -/
def Plain (op : Op) : Prop := Silent op ∧ ∀ history, Keeps history op

theorem Quiet.plain (quiet : Quiet op) : Plain op := ⟨Quiet.silent quiet, fun _ => Quiet.keeps quiet⟩

theorem MarkerOp.plain (marker : MarkerOp reference op) : Plain op := by
  cases marker with
  | mark =>
    refine ⟨⟨by simp, by simp, by simp⟩, fun history => ⟨fun path data same tagged => ?_, by simp⟩⟩
    cases same
    cases tagged
  | _ => exact ⟨⟨by simp, by simp, by simp⟩, fun _ => keeps_of_other (by simp) (by simp)⟩

/-- The writes of an entry that is genuine. -/
theorem EntryOp.harmless (writes : EntryOp entry op) :
    Silent op ∧ ∀ history, Genuine entry history → Keeps history op := by
  cases writes with
  | @writeFile key names =>
    refine ⟨⟨by simp, by simp, by simp⟩, fun history genuine => ⟨fun path data same _ => ?_, by simp⟩⟩
    cases same
    refine ⟨_, _, .cache key, .inl rfl, genuine, ?_⟩
    exact names.imp (fun same => by rw [same]) fun same => by rw [same]
  | rename key =>
    refine ⟨⟨by simp, by simp, by simp⟩, fun history _ => ⟨by simp, fun source target same => ?_⟩⟩
    cases same
    exact .cache key
  | _ => exact ⟨⟨by simp, by simp, by simp⟩, fun _ _ => keeps_of_other (by simp) (by simp)⟩

/-- The writes of an index entry that names an image of its reference. -/
theorem IndexOp.harmless {entry : BundleEntry} (writes : IndexOp entry op) :
    Silent op ∧ ∀ history, ImageOf entry.imageRef entry.imageId history → Keeps history op := by
  cases writes with
  | @writeFile key names =>
    refine ⟨⟨by simp, by simp, by simp⟩, fun history image => ⟨fun path data same _ => ?_, by simp⟩⟩
    cases same
    refine ⟨_, _, .index key, .inl rfl, image, ?_⟩
    exact names.imp (fun same => by rw [same]) fun same => by rw [same]
  | rename key =>
    refine ⟨⟨by simp, by simp, by simp⟩, fun history _ => ⟨by simp, fun source target same => ?_⟩⟩
    cases same
    exact .index key
  | _ => exact ⟨⟨by simp, by simp, by simp⟩, fun _ _ => keeps_of_other (by simp) (by simp)⟩

end Operations

section Programs

theorem plain_of_other {op : Op} (silent : Silent op) (write : ∀ path data, op ≠ .writeFile path data)
    (rename : ∀ source target, op ≠ .rename source target) : Plain op :=
  ⟨silent, fun _ => keeps_of_other write rename⟩

theorem plain_createDirAll (path : Path) : Plain (.createDirAll path) :=
  plain_of_other ⟨by simp, by simp, by simp⟩ (by simp) (by simp)

theorem plain_removeFile (path : Path) : Plain (.removeFile path) :=
  plain_of_other ⟨by simp, by simp, by simp⟩ (by simp) (by simp)

theorem tells_plain {program : Fail α} (only : Only Plain program.run) :
    Tells keys pid fact program fun _ => Fact.any :=
  Tells.only only fun _ plain => ⟨plain.1, fun history _ => plain.2 history⟩

theorem learns_plain {program : Prog α} (only : Only Plain program) :
    Learns keys pid fact program fun _ => Fact.any :=
  Learns.only only fun _ plain => ⟨plain.1, fun history _ => plain.2 history⟩

theorem asks_quiet {op : Op} (quiet : Quiet op) : Learns keys pid fact (call op) fun _ => Fact.any :=
  learns_plain (only_perform (Quiet.plain quiet))

/-- One operation that keeps everything while the fact is known. -/
theorem tells_op {program : Prog (Except Error α)} {op : Op} (only : Only (· = op) program) (silent : Silent op)
    (keeps : ∀ history, fact.holds history → Keeps history op) :
    Tells keys pid fact (attempt program) fun _ => Fact.any :=
  Tells.only only fun other same => by
    subst same
    exact ⟨silent, keeps⟩

/-- A digest is that of the image it is asked for, also where the sidecar has it. -/
theorem tells_digestIf (hashImage : Bool) (safeImageId : Text) (format : RootfsImageFormat) (size modified : Nat) :
    Tells keys pid fact (digestIf hashImage (imagePath imagesDir safeImageId format) size modified)
      fun sha256 => hashed (imagePath imagesDir safeImageId format) sha256 := by
  unfold digestIf
  split
  · have slot := Slot.sidecar safeImageId format
    -- The sidecar under the image's name was written with a hash of that image.
    have known : Tells keys pid fact
        (attempt (call (.readSidecar (rootfsDigestSidecarPath (imagePath imagesDir safeImageId format)))))
        fun found => ⟨fun history => ∀ sidecar, found = some sidecar →
            Hashed (imagePath imagesDir safeImageId format) sidecar.sha256 history,
          fun grows known sidecar same => (known sidecar same).lasts grows⟩ := by
      refine Learns.perform fun world choice kept _ _ => ?_
      refine ⟨kept.silent (Quiet.keeps (.readSidecar _)) (Quiet.silent (.readSidecar _)), ?_⟩
      cases answer : (act pid world.disk (.readSidecar (rootfsDigestSidecarPath
          (imagePath imagesDir safeImageId format))) choice).1 with
      | error cause =>
        simp only [host, answer]
        trivial
      | ok found =>
        simp only [host, answer]
        rintro sidecar rfl
        obtain ⟨file, stored, data⟩ := act_sidecar answer
        have belongs := kept.files _ file stored (data ▸ trivial)
        rw [data] at belongs
        obtain ⟨safe, other, same, hash⟩ := belongs.owns slot
        rw [sidecarPath_injective same]
        exact hash.lasts grows_done
    have hash : ∀ {fact : Fact}, Tells keys pid fact
        (attempt (call (.sha256File (imagePath imagesDir safeImageId format))))
        fun sha256 => ⟨Hashed (imagePath imagesDir safeImageId format) sha256, Hashed.lasts⟩ := by
      intro fact
      refine Learns.perform fun world choice kept _ _ => ?_
      refine ⟨kept.silent (Quiet.keeps (.sha256File _)) (Quiet.silent (.sha256File _)), ?_⟩
      cases answer : (act pid world.disk (.sha256File (imagePath imagesDir safeImageId format)) choice).1 with
      | error cause =>
        simp only [host, answer]
        trivial
      | ok sha256 =>
        simp only [host, answer]
        refine ⟨pid, ?_⟩
        rw [← answer]
        exact List.mem_cons_self
    refine Tells.bind known fun found => ?_
    split
    · rename_i sidecar same
      refine Tells.pure fun history shown => .inr (shown.2 sidecar ?_)
      exact (Option.filter_eq_some_iff.mp same).1
    · refine Tells.bind hash fun sha256 => ?_
      refine Tells.andThen (tells_op (only_perform rfl) ⟨by simp, by simp, by simp⟩ ?_) fun _ => ?_
      · refine fun history shown => ⟨fun path data same _ => ?_, by simp⟩
        cases same
        exact ⟨_, _, slot, .inl rfl, safeImageId, format, rfl, shown.2⟩
      refine Tells.andThen (tells_op (only_perform rfl) ⟨by simp, by simp, by simp⟩ ?_) fun _ => ?_
      · refine fun history _ => ⟨by simp, fun source target same => ?_⟩
        cases same
        exact slot
      · exact Tells.pure fun history shown => .inr shown.2
  · exact Tells.pure fun _ _ => .inl rfl

theorem plain_command (command : Command) : Plain (.startCommand command) ∧ Plain (.awaitCommand command) :=
  ⟨plain_of_other ⟨by simp, by simp, by simp⟩ (by simp) (by simp),
    plain_of_other ⟨by simp, by simp, by simp⟩ (by simp) (by simp)⟩

theorem tells_buildRootfsImage (rootfsDir : Path) (safeImageId : Text) (format : RootfsImageFormat)
    (hashImage : Bool) : Tells keys pid fact (buildRootfsImage imagesDir
      (.forFormat format rootfsDir (imagePath imagesDir safeImageId format) hashImage)) (imageAt safeImageId) := by
  refine Tells.andThen (.ask (asks_quiet (.isDir _))) fun present => ?_
  split
  · refine Tells.andThen (tells_plain (only_perform (plain_createDirAll _))) fun _ => ?_
    refine Tells.andThen (tells_plain ?_) fun _ => ?_
    · refine Only.bind_fallible (.lift (only_perform (Quiet.plain (.pathExists _)))) fun old => ?_
      split
      · exact only_perform (plain_removeFile _)
      · trivial
    refine Tells.andThen (.ask (learns_plain (only_perform (plain_removeFile _)))) fun _ => ?_
    refine Tells.andThen (tells_plain ?_) fun _ => ?_
    · exact only_buildImage (fun _ => Quiet.plain) fun command _ => plain_command command
    refine Tells.andThen (tells_plain (only_perform (Quiet.plain (.metadata _)))) fun stat => ?_
    refine Tells.bind (tells_digestIf _ _ _ _ _) fun sha256 => ?_
    exact Tells.pure fun history shown => ⟨⟨format, rfl⟩, shown.2⟩
  · exact Tells.throw

theorem tells_prepareFormats (rootfsDir : Path) (safeImageId : Text) (formats : List RootfsImageFormat) :
    Tells keys pid fact (prepareFormats rootfsDir imagesDir safeImageId formats) (imageAt safeImageId) := by
  induction formats generalizing fact with
  | nil => exact Tells.throw
  | cons format formats ih =>
    refine Tells.andThen (.ask (asks_quiet (.pathExists _))) fun present => ?_
    split
    · refine Tells.andThen (tells_plain (only_perform (Quiet.plain (.metadata _)))) fun stat => ?_
      refine Tells.andThen (.ask (asks_quiet (.envTruthy _))) fun hashImage => ?_
      refine Tells.bind (tells_digestIf _ _ _ _ _) fun sha256 => ?_
      exact Tells.pure fun history shown => ⟨⟨format, rfl⟩, shown.2⟩
    · refine Tells.andThen (.ask (asks_quiet (.envTruthy _))) fun hashImage => ?_
      refine Tells.bind (.ask (tells_buildRootfsImage rootfsDir safeImageId format hashImage)) fun result => ?_
      cases result with
      | ok info => exact Tells.pure fun history shown => shown.2
      | error cause => exact ih

/-- The image of an id, where the id's images lie. -/
theorem tells_prepareImage (rootfsDir : Path) (safeImageId : Text) : Tells keys pid fact
    (prepareSharedRootfsImage rootfsDir imagesDir safeImageId) (imageAt safeImageId) := by
  have candidate : ∀ {program}, Only Plain (call (.commandAvailable program)) :=
    only_perform (Quiet.plain (.commandAvailable _))
  refine Tells.andThen (.ask (learns_plain ?_)) fun formats => tells_prepareFormats _ _ _
  exact candidate.bind fun _ => candidate.bind fun _ => trivial

theorem tells_writeEntry (known : ∀ history, fact.holds history → Genuine entry history) :
    Tells keys pid fact (writeSharedRootfsCacheEntry entry) fun _ => Fact.any := by
  refine Tells.only (only_writeSharedRootfsCacheEntry entry) fun op writes => ?_
  obtain ⟨silent, keeps⟩ := EntryOp.harmless writes
  exact ⟨silent, fun history shown => keeps history (known history shown)⟩

theorem tells_writeBundle {entry : BundleEntry}
    (known : ∀ history, fact.holds history → ImageOf entry.imageRef entry.imageId history) :
    Tells keys pid fact (writeSharedRootfsBundleEntry entry) fun _ => Fact.any := by
  refine Tells.only (only_indexBundleEntry entry) fun op writes => ?_
  obtain ⟨silent, keeps⟩ := IndexOp.harmless writes
  exact ⟨silent, fun history shown => keeps history (known history shown)⟩

theorem tells_mark (imageRef : Text) :
    Tells keys pid fact (markSharedRootfsCachePending imageRef) fun _ => Fact.any :=
  tells_plain ((only_markSharedRootfsCachePending imageRef).weaken fun _ => MarkerOp.plain)

theorem learns_clear (imageRef : Text) :
    Learns keys pid fact (clearSharedRootfsCachePending imageRef) fun _ => Fact.any :=
  learns_plain ((only_clearSharedRootfsCachePending imageRef).weaken fun _ => MarkerOp.plain)

/-- A read of an entry under a key. -/
theorem tells_read (site : Site) (own : ∀ world, Kept keys world → fact.holds world.history → keys.key key) :
    Tells keys pid fact (readSharedRootfsCacheEntry site key) (foundFor key) := by
  refine Learns.perform fun world choice kept known _ => ?_
  refine ⟨kept.silent (keeps_of_other (by simp) (by simp)) ⟨by simp, by simp, by simp⟩, ?_⟩
  cases answer : (act pid world.disk (.readCache site key) choice).1 with
  | error cause =>
    simp only [host, answer]
    trivial
  | ok found =>
    simp only [host, answer]
    rintro entry rfl
    exact (answers key entry).lasts grows_done (kept.reads (own world kept known) (act_found answer))

/-- `prepare_shared_rootfs_cache_from_bundle_inner`. -/
theorem tells_inner (bundleDir : Path) (known : ∀ history, fact.holds history → ImageOf reference id history) :
    Tells keys pid fact (prepareFromBundleInner reference id bundleDir) (answers reference) := by
  refine Tells.andThen (.ask (asks_quiet (.isDir _))) fun present => ?_
  split
  · refine Tells.andThen (tells_plain (only_perform (plain_createDirAll _))) fun _ => ?_
    refine Tells.bind (tells_prepareImage _ _) fun info => ?_
    have share : Tells keys pid (fact.and (imageAt (sanitizePathComponent id) info))
        (attempt (call (.createShare reference id info.path))) fun share =>
          ⟨fun history => ∃ pid reference, .did pid (.createShare reference id info.path) (.ok share) ∈ history,
            fun grows ⟨pid, reference, member⟩ => ⟨pid, reference, grows _ member⟩⟩ := by
      refine Learns.perform fun world choice kept shown _ => ?_
      refine ⟨kept.done (keeps_of_other (by simp) (by simp)) (by simp) ?_ (by simp), ?_⟩
      · rintro _ _ _ same
        cases same
        exact ⟨kept.used_key (known _ shown.1), shown.2.1⟩
      · cases answer : (act pid world.disk (.createShare reference id info.path) choice).1 with
        | error cause =>
          simp only [host, answer]
          trivial
        | ok share =>
          simp only [host, answer]
          refine ⟨pid, reference, ?_⟩
          rw [← answer]
          exact List.mem_cons_self
    refine Tells.bind share fun share => ?_
    refine Tells.andThen (.ask (asks_quiet (.readConfig _))) fun read => ?_
    have genuine : ∀ config history, ImageOf reference id history →
      (imageAt (sanitizePathComponent id) info).holds history →
        (∃ pid reference, .did pid (.createShare reference id info.path) (.ok share) ∈ history) →
        Genuine (.ofShare reference id info share config) history := by
      rintro config history image ⟨⟨format, path⟩, hashed⟩ ⟨builder, other, member⟩
      refine ⟨image, ⟨format, path⟩, .inl ⟨⟨builder, other, share, member, rfl, rfl, rfl⟩, ?_⟩⟩
      exact ⟨info.sha256, rfl, hashed⟩
    refine Tells.andThen (tells_writeEntry fun history shown => ?_) fun _ => ?_
    · exact genuine _ _ (known _ shown.1.1) shown.1.2 shown.2
    · refine Tells.pure fun history shown => ⟨?_, .inl rfl⟩
      exact genuine _ _ (known _ shown.1.1) shown.1.2 shown.2
  · exact Tells.throw

/-- A read under the image id of a reference gives an entry of that image id. -/
theorem tells_readById (known : ∀ history, fact.holds history → ImageOf reference id history) :
    Tells keys pid fact (readSharedRootfsCacheEntry .byImageId id)
      fun found => ⟨fun history => ∀ entry, found = some entry → Genuine entry history ∧ entry.imageId = id,
        fun grows shown entry same => ⟨(shown entry same).1.lasts grows, (shown entry same).2⟩⟩ := by
  have read : Tells keys pid fact (readSharedRootfsCacheEntry .byImageId id) (foundFor id) :=
    tells_read .byImageId fun world kept shown => kept.used_key (known _ shown)
  refine read.keep.consequence (fun _ shown => shown) ?_
  rintro (error | found) world kept ⟨shown, for_⟩
  · trivial
  · rintro entry rfl
    obtain ⟨genuine, same | same⟩ := for_ entry rfl
    · have identifies : ImageOf reference entry.imageRef world.history := same ▸ known _ shown
      exact ⟨genuine, (kept.apart genuine.image identifies).trans same⟩
    · exact ⟨genuine, same⟩

/-- `prepare_shared_rootfs_cache_from_bundle`. -/
theorem tells_prepare (bundleDir : Path) (known : ∀ history, fact.holds history → ImageOf reference id history) :
    Tells keys pid fact (prepareSharedRootfsCacheFromBundle reference id bundleDir) (answers reference) := by
  refine Tells.bind (tells_read .recheck fun world kept shown => kept.reference_key (known _ shown)) fun found => ?_
  split
  · exact Tells.pure fun history shown => shown.2 _ rfl
  · refine Tells.bind (tells_readById fun history shown => known history shown.1) fun found => ?_
    split
    · rename_i entry
      have aliased : ∀ history, ImageOf reference id history → Genuine entry history ∧ entry.imageId = id →
          Genuine { entry with imageRef := reference, imageId := id } history := by
        rintro history image ⟨genuine, rfl⟩
        exact ⟨image, genuine.path, genuine.made.alias reference⟩
      refine Tells.andThen (tells_writeEntry fun history shown => ?_) fun _ => ?_
      · exact aliased history (known _ shown.1.1) (shown.2 entry rfl)
      · refine Tells.pure fun history shown => ⟨?_, .inl rfl⟩
        exact aliased history (known _ shown.1.1) (shown.2 entry rfl)
    · refine Tells.andThen (tells_mark reference) fun _ => ?_
      refine Tells.bind (.ask (tells_inner bundleDir fun history shown => known _ shown.1.1)) fun result => ?_
      refine Tells.andThen (.ask (learns_clear reference)) fun _ => ?_
      exact Learns.pure fun history shown => shown.2

/-- `lookup_cached_shared_rootfs`. -/
theorem tells_waitCached (own : keys.key key) (polls : Nat) :
    Tells keys pid fact (waitForCachedSharedRootfs key polls) (foundFor key) := by
  have read : ∀ {fact : Fact} {message path}, Tells keys pid fact
      (withContext message path (readSharedRootfsCacheEntry .wait key)) (foundFor key) :=
    Tells.withContext (tells_read .wait fun _ _ _ => own)
  have pending : ∀ {fact : Fact}, Learns keys pid fact (sharedRootfsCachePending key) fun _ => Fact.any :=
    learns_plain (only_perform (plain_of_other ⟨by simp, by simp, by simp⟩ (by simp) (by simp)))
  induction polls generalizing fact with
  | zero =>
    unfold waitForCachedSharedRootfs
    refine Tells.bind read fun found => ?_
    split
    · exact Tells.pure fun history shown => shown.2
    · refine Tells.andThen (.ask pending) fun marked => ?_
      split <;> exact Tells.pure fun history shown => shown.2
  | succ left ih =>
    unfold waitForCachedSharedRootfs
    refine Tells.bind read fun found => ?_
    split
    · exact Tells.pure fun history shown => shown.2
    · refine Tells.andThen (.ask pending) fun marked => ?_
      split
      · exact ih
      · exact Tells.pure fun history shown => shown.2

theorem tells_lookup (own : keys.key key) (polls : Nat) :
    Tells keys pid fact (lookupCachedSharedRootfs key polls) (foundFor key) := by
  have nothing : ∀ {fact : Fact}, Tells keys pid fact (pure none : Fail (Option CacheEntry)) (foundFor key) :=
    Tells.pure fun history _ entry impossible => by cases impossible
  refine Tells.bind (.ask (tells_read .lookup fun _ _ _ => own)) fun result => ?_
  split
  · exact Tells.pure fun history shown => shown.2
  · refine Tells.andThen (.ask (learns_plain (only_perform ?_))) fun marked => ?_
    · exact plain_of_other ⟨by simp, by simp, by simp⟩ (by simp) (by simp)
    split
    · exact tells_waitCached own polls
    · exact nothing

/-- `lookup_pulled_bundle`. -/
theorem learns_pulledBundle (own : keys.key key) : Learns keys pid fact (lookupPulledBundle key)
    fun found => ⟨fun history => ∀ bundle, found = some bundle → ImageOf key bundle.imageId history,
      fun grows shown bundle same => (shown bundle same).lasts grows⟩ := by
  have read : Tells keys pid fact (readSharedRootfsBundleEntry key)
      fun found => ⟨fun history => ∀ bundle, found = some bundle → ImageOf key bundle.imageId history,
        fun grows shown bundle same => (shown bundle same).lasts grows⟩ := by
    refine Learns.perform fun world choice kept _ _ => ?_
    refine ⟨kept.silent (keeps_of_other (by simp) (by simp)) ⟨by simp, by simp, by simp⟩, ?_⟩
    cases answer : (act pid world.disk (.readBundle key) choice).1 with
    | error cause =>
      simp only [host, answer]
      trivial
    | ok found =>
      simp only [host, answer]
      rintro bundle rfl
      refine ImageOf.lasts grows_done ?_
      simp only [act] at answer
      split at answer
      · cases answer
      · obtain ⟨image, rfl | rfl⟩ := kept.readsIndex own answer
        · exact image
        · exact image.self
  refine Learns.bind read fun result => ?_
  cases result with
  | ok found => exact Learns.pure fun history shown => shown.2
  | error cause =>
    refine Learns.pure fun history _ bundle impossible => ?_
    cases impossible

/-- The pull, the index and the preparation of the image it gave. -/
theorem tells_pullAndPrepare (own : keys.key key) : Tells keys pid fact (pullAndPrepare key) (answers key) := by
  refine Tells.andThen (.ask (asks_quiet .nowMillis)) fun requestId => ?_
  refine Tells.andThen (tells_plain (only_perform (plain_createDirAll _))) fun _ => ?_
  refine Tells.andThen (tells_plain (only_perform (plain_createDirAll _))) fun _ => ?_
  refine Tells.bind (.ask (tells_mark key)) fun marked => ?_
  have clear : ∀ {fact : Fact}, Learns keys pid fact (clearMarked key marked) fun _ => Fact.any :=
    clearMarked_cases (P := fun clear => Learns keys pid _ clear fun _ => Fact.any) (learns_clear key)
      (Learns.pure fun _ _ => trivial) marked
  have pull : ∀ {fact : Fact} {bundlePath}, Learns keys pid fact (call (.pullImage key bundlePath))
      (Fact.onOk fun id => imageOf key id) := by
    intro fact bundlePath
    refine Learns.perform fun world choice kept _ permitted => ?_
    refine ⟨kept.done (keeps_of_other (by simp) (by simp)) ?_ (by simp) (by simp), ?_⟩
    · intro reference path same works
      cases same
      exact permitted key bundlePath rfl works own
    · cases answer : (act pid world.disk (.pullImage key bundlePath) choice).1 with
      | error cause =>
        simp only [host, answer]
        trivial
      | ok id =>
        simp only [host, answer]
        refine .inl (@Associated.pulled key id _ pid bundlePath ?_)
        rw [← answer]
        exact List.mem_cons_self
  refine Tells.bind (.ask pull) fun pulled => ?_
  cases pulled with
  | error cause =>
    refine Tells.andThen (.ask clear) fun _ => ?_
    exact Tells.throw
  | ok id =>
    refine Tells.bind (.ask (tells_writeBundle fun history shown => shown.2)) fun _ => ?_
    refine Tells.bind (.ask (Tells.withContext (tells_prepare _ fun history shown => shown.1.2))) fun result => ?_
    refine Tells.andThen (.ask clear) fun _ => ?_
    exact Learns.pure fun history shown => shown.2

theorem tells_prepareRootfsEntry (own : keys.key key) (polls : Nat) :
    Tells keys pid fact (prepareRootfsEntry key polls) (answers key) := by
  refine Tells.bind (tells_lookup own polls) fun found => ?_
  split
  · exact Tells.pure fun history shown => shown.2 _ rfl
  · refine Tells.bind (.ask (learns_pulledBundle own)) fun bundle => ?_
    split
    · exact Tells.withContext (tells_prepare _ fun history shown => shown.2 _ rfl)
    · exact tells_pullAndPrepare own

/-- An entry for a key is of an image of the key. -/
theorem answered_of_answers (answers : (answers key entry).holds history) :
    Answered key (replyFromCacheEntry entry) history := by
  obtain ⟨genuine, rfl | rfl⟩ := answers
  · exact ⟨entry, rfl, genuine.made, genuine.image⟩
  · exact ⟨entry, rfl, genuine.made, genuine.image.self⟩

theorem learns_reply (reply : Reply)
    (right : ∀ response, reply = .rootfs (.ok response) → ∀ history, fact.holds history → ∃ reference polls,
      .began pid (.prepareRootfs reference polls) ∈ history ∧ Answered reference response history) :
    Learns keys pid fact (call (.reply reply)) fun _ => Fact.any := by
  refine Learns.perform fun world choice kept shown _ => ⟨?_, trivial⟩
  refine kept.done (keeps_of_other (by simp) (by simp)) (by simp) (by simp) fun response same => ?_
  cases same
  exact right response rfl _ shown

def began (pid : Nat) (request : Request) : Fact :=
  ⟨fun history => .began pid request ∈ history, fun grows member => grows _ member⟩

/-- Every call, from its start to its reply. -/
theorem learns_request {request : Request} (fits : Fits keys request) :
    Learns keys pid (began pid request) request.program fun _ => Fact.any := by
  have silent : ∀ {fact : Fact} {reply}, (∀ response, reply ≠ .rootfs (.ok response)) →
      Learns keys pid fact (call (.reply reply)) fun _ => Fact.any :=
    fun other => learns_reply _ fun response same => absurd same (other response)
  cases request with
  | writeCache entry =>
    refine Learns.bind (tells_writeEntry fun history shown => ?_) fun _ => silent (by simp)
    exact ⟨.inl (.wroteCache shown rfl rfl), fits.2, .inr ⟨pid, entry, shown, rfl⟩⟩
  | writeBundle entry =>
    refine Learns.bind (tells_writeBundle fun history shown => ?_) fun _ => silent (by simp)
    exact .inl (.wroteBundle shown rfl rfl)
  | prepare reference id bundleDir =>
    refine Learns.bind (tells_prepare bundleDir fun history shown => ?_) fun _ => silent (by simp)
    exact .inl (.prepared shown)
  | prepareImage rootfsDir directory safeImageId reference => exact absurd fits id
  | wait reference polls =>
    refine Learns.bind (learns_plain ?_) fun _ => silent (by simp)
    refine (only_waitForSharedRootfsCacheEntry reference polls).weaken fun op look => ?_
    refine plain_of_other (LookOp.silent look) ?_ ?_ <;> cases look <;> simp
  | prepareRootfs reference polls =>
    have response : Tells keys pid (began pid (.prepareRootfs reference polls))
        (prepareRootfsResponse reference polls)
        fun response => ⟨Answered reference response, Answered.lasts⟩ := by
      refine Tells.bind (tells_prepareRootfsEntry fits polls) fun entry => ?_
      exact Tells.pure fun history shown => answered_of_answers shown.2
    refine Learns.bind response fun result => learns_reply _ ?_
    rintro response same history ⟨begun, shown⟩
    cases result with
    | error cause => cases same
    | ok value =>
      cases same
      exact ⟨reference, polls, begun, shown⟩

end Programs

/-- The calls are over the keys, and a pull of a key gives an image id it is used with. -/
def Within (keys : Keys) (pool : Pool Op Answer World) : PoolLabel Request Choice → Prop
  | .start _ request => Fits keys request
  | .step pid choice => ∀ reference bundlePath next,
      pool.procs pid = some (.call (.pullImage reference bundlePath) next) → choice.fails = false →
      keys.key reference → keys.used reference choice.imageId
  | .die _ => True

/-- No entry, no index entry and no sidecar yet. -/
def NoEntries (disk : Disk) : Prop := ∀ path file, disk.files path = some file → ¬ Tagged file.data

/-- The file is shared for the image id, or named by a stored entry of it. -/
def UsesImage (id : Text) (path : Path) (world : World) : Prop :=
  (∃ pid reference answer, .did pid (.createShare reference id path) answer ∈ world.history) ∨
    ∃ place file entry, world.disk.files place = some file ∧ file.data = .cacheEntry entry ∧
      entry.imageId = id ∧ entry.rootfsImagePath = path

theorem Kept.uses (kept : Kept keys world) (uses : UsesImage id path world) : keys.key id ∧ IsImage id path := by
  rcases uses with ⟨pid, reference, answer, member⟩ | ⟨place, file, entry, found, data, rfl, rfl⟩
  · exact kept.shared pid reference id path answer member
  · obtain ⟨tmp, final, slot, _, owns⟩ := kept.files place file found (data ▸ trivial)
    rw [data] at owns
    exact ⟨kept.used_key owns.1.image, owns.1.path⟩

/-- In every interleaving of calls over keys that the file names keep apart: reads
give an entry for their own key, replies are made of an image of the reference that
was asked for and of no other image id, and no two image ids use one image file. -/
theorem keys_isolated (keys : Keys) {pool : Pool Op Answer World}
    (reached : (calls NoEntries).Reachable (Within keys) pool) :
    (∀ key entry, keys.key key → pool.world.disk.readCacheEntry key = .ok (some entry) →
      entry.imageRef = key ∨ entry.imageId = key) ∧
    (∀ key entry, keys.key key → pool.world.disk.readBundleEntry key = .ok (some entry) →
      entry.imageRef = key ∨ entry.imageId = key) ∧
    (∀ pid reference polls response, .began pid (.prepareRootfs reference polls) ∈ pool.world.history →
      .did pid (.reply (.rootfs (.ok response))) () ∈ pool.world.history → ∃ entry,
        response = replyFromCacheEntry entry ∧ Made entry pool.world.history ∧
        ImageOf reference entry.imageId pool.world.history ∧
        (entry.imageId = reference → ∀ id, Associated reference id pool.world.history → id = reference)) ∧
    ∀ id other path, UsesImage id path pool.world → UsesImage other path pool.world → id = other := by
  have kept : Kept keys pool.world := by
    refine (calls_safe (contract keys) ?_ ?_ ?_ reached).inv
    · intro disk none
      refine ⟨fun reference id known => ?_, fun path file found tagged => absurd tagged (none path file found),
        fun _ _ _ _ _ member => ?_, fun _ _ member => ?_⟩
      · rcases known with ⟨member, _⟩ | ⟨member, _⟩ | member | member <;> cases member
      · cases member
      · cases member
    · rintro pid request world kept ⟨before, fits, rfl⟩
      exact learns_request fits _ kept List.mem_cons_self
    · rintro pool (⟨pid, request⟩ | ⟨pid, choice⟩ | ⟨pid⟩) allowed _
      · exact allowed
      · rintro op next found reference bundlePath rfl
        exact allowed reference bundlePath next found
      · trivial
  refine ⟨fun key entry own read => (kept.reads own read).2, fun key entry own read => (kept.readsIndex own read).2,
    fun pid reference polls response begun replied => ?_, fun id other path uses uses' => ?_⟩
  · obtain ⟨reference', polls', begun', entry, same, made, image⟩ := kept.answered pid response replied
    have one : Request.prepareRootfs reference polls = .prepareRootfs reference' polls' :=
      began_once reached begun begun'
    cases one
    refine ⟨entry, same, made, image, fun identifies id known => ?_⟩
    exact kept.apart (.inl known) (identifies ▸ image)
  · obtain ⟨own, format, rfl⟩ := kept.uses uses
    obtain ⟨own', format', same⟩ := kept.uses uses'
    exact keys.distinct own own' (imagePath_injective same).1

section Examples

def works : Choice := { imageId := "i".toList }

def workingSteps (pid count : Nat) : List (PoolLabel Request Choice) := List.replicate count (.step pid works)

/-- A reference and its image id. -/
def oneImage : Keys where
  key name := name = "x".toList ∨ name = "i".toList
  used reference id := (reference = "x".toList ∨ reference = "i".toList) ∧ id = "i".toList
  of_used := by
    rintro reference id ⟨own, rfl⟩
    exact ⟨own, .inr rfl⟩
  distinct := by
    rintro one other (rfl | rfl) (rfl | rfl) same
    · rfl
    · exact absurd same (by decide)
    · exact absurd same (by decide)
    · rfl
  apart := by
    rintro reference id reference' id' ⟨_, rfl⟩ ⟨_, rfl⟩ same
    exact same.symm

def blank : Pool Op Answer World := ⟨⟨.empty, []⟩, fun _ => none⟩

/-- One request, from its start to its reply. -/
def oneRequest : Option (Pool Op Answer World) :=
  (calls NoEntries).exec blank (.start 0 (.prepareRootfs "x".toList 0) :: workingSteps 0 50)

theorem oneRequest_ends : oneRequest.isSome = true := by decide +kernel

theorem one_request_isolated : ∃ entry,
    (oneRequest.get oneRequest_ends).world.disk.readCacheEntry "x".toList = .ok (some entry) ∧
      (entry.imageRef = "x".toList ∨ entry.imageId = "x".toList) := by
  have reached : (calls NoEntries).Reachable (Within oneImage) (oneRequest.get oneRequest_ends) := by
    refine System.reachable_of_exec ⟨⟨?_, rfl⟩, rfl⟩ ?_ (Option.some_get oneRequest_ends).symm
    · intro path file found
      cases found
    · intro label member state
      rcases List.mem_cons.mp member with rfl | step
      · exact .inl rfl
      · rw [workingSteps, List.mem_replicate] at step
        obtain ⟨_, rfl⟩ := step
        exact fun reference bundlePath next _ _ own => ⟨own, rfl⟩
  have found : (((oneRequest.get oneRequest_ends).world.disk.readCacheEntry "x".toList).toOption.join).isSome =
      true := by decide +kernel
  cases read : (oneRequest.get oneRequest_ends).world.disk.readCacheEntry "x".toList with
  | error error =>
    rw [read] at found
    cases found
  | ok stored =>
    cases stored with
    | none =>
      rw [read] at found
      cases found
    | some entry => exact ⟨entry, rfl, (keys_isolated oneImage reached).1 "x".toList entry (.inl rfl) read⟩

def bundleDir : Path := .outside "bundle".toList

/-- An image is prepared for one reference; then another one is asked for, whose
file name is the same. -/
def afterCollision : Option (Pool Op Answer World) :=
  (calls NoEntries).exec ⟨⟨Disk.empty.addDir (Disk.bundleRootfs bundleDir), []⟩, fun _ => none⟩
    (.start 0 (.prepare "a/b".toList "i".toList bundleDir) :: (workingSteps 0 33 ++
      (.start 1 (.prepareRootfs "a_b".toList 0) :: workingSteps 1 2)))

theorem afterCollision_some : afterCollision.isSome = true := by decide +kernel

/-- The last call, of a process that looked once and replied. -/
def lastCall : List Event → Option (Request × PrepareRootfsResponse)
  | .did 1 (.reply (.rootfs (.ok response))) _ :: _ :: .began 1 request :: _ => some (request, response)
  | _ => none

theorem lastCall_mem {history : List Event} {request : Request} {response : PrepareRootfsResponse}
    (last : lastCall history = some (request, response)) :
    .began 1 request ∈ history ∧ .did 1 (.reply (.rootfs (.ok response))) () ∈ history := by
  unfold lastCall at last
  split at last
  · cases last
    simp
  · cases last

/-- What a read under the second reference gives. -/
def collidingEntry : Option CacheEntry :=
  match (afterCollision.get afterCollision_some).world.disk.readCacheEntry "a_b".toList with
  | .ok found => found
  | .error _ => none

theorem collidingEntry_some : collidingEntry.isSome = true := by decide +kernel

theorem other_reference_served : ∃ (pool : Pool Op Answer World) (entry : CacheEntry),
    (calls NoEntries).Reachable System.Free pool ∧
      pool.world.disk.readCacheEntry "a_b".toList = .ok (some entry) ∧
      entry.imageRef = "a/b".toList ∧ entry.imageId = "i".toList ∧
      .began 1 (.prepareRootfs "a_b".toList 0) ∈ pool.world.history ∧
      .did 1 (.reply (.rootfs (.ok (replyFromCacheEntry entry)))) () ∈ pool.world.history := by
  refine ⟨afterCollision.get afterCollision_some, collidingEntry.get collidingEntry_some, ?_, ?_, ?_, ?_, ?_⟩
  · refine System.reachable_of_exec ⟨⟨?_, rfl⟩, rfl⟩ (fun _ _ _ => trivial)
      (Option.some_get afterCollision_some).symm
    intro path file found
    cases found
  · have found : collidingEntry = some (collidingEntry.get collidingEntry_some) :=
      (Option.some_get collidingEntry_some).symm
    generalize collidingEntry.get collidingEntry_some = entry at found ⊢
    unfold collidingEntry at found
    split at found
    · rename_i read
      rw [read, found]
    · cases found
  · decide +kernel
  · decide +kernel
  · exact lastCall_mem (by decide +kernel)

end Examples

end GuestComponents.SharedRootfs.KeyIsolation
