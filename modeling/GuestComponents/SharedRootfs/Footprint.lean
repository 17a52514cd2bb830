import GuestComponents.SharedRootfs.Server

/-! Which operations each function performs, on every branch. An image build
works on the files of its image; index writes work on their entry's files; the
marker functions work on the marker. `CompleteImages`, `KeyIsolation`,
`IndexAtomicity` and the other modules about a whole pool of calls use these
facts to pass over the parts of a program that cannot matter to them. -/
namespace GuestComponents.SharedRootfs
open Lib Program

/-- An image file of this id, its digest sidecar or the sidecar's temporary. -/
def ImageFile (imagesDir : Path) (safeImageId : Text) (path : Path) : Prop :=
  ∃ format, path = imagePath imagesDir safeImageId format ∨
    path = rootfsDigestSidecarPath (imagePath imagesDir safeImageId format) ∨
    path = sidecarTmpPath (rootfsDigestSidecarPath (imagePath imagesDir safeImageId format))

/-- Operations that change no file and read no entry and no marker. -/
inductive Quiet : Op → Prop where
  | createDirAll (area : Area) : Quiet (.createDirAll (.shared area []))
  | isDir (path : Path) : Quiet (.isDir path)
  | pathExists (path : Path) : Quiet (.pathExists path)
  | metadata (path : Path) : Quiet (.metadata path)
  | readConfig (path : Path) : Quiet (.readConfig path)
  | readSidecar (path : Path) : Quiet (.readSidecar path)
  | sha256File (path : Path) : Quiet (.sha256File path)
  | rootfsContentSize (rootfsDir : Path) : Quiet (.rootfsContentSize rootfsDir)
  | commandAvailable (program : String) : Quiet (.commandAvailable program)
  | envTruthy (name : String) : Quiet (.envTruthy name)
  | nowMillis : Quiet .nowMillis

/-- Operations of an image build on the files of the image. -/
inductive ImageOp (files : Path → Prop) : Op → Prop where
  | quiet {op : Op} : Quiet op → ImageOp files op
  | createDirAll (path : Path) : ImageOp files (.createDirAll path)
  | removeFile {path : Path} : files path → ImageOp files (.removeFile path)
  | writeFile {path : Path} {sidecar : DigestSidecar} : files path →
      ImageOp files (.writeFile path (.digestSidecar sidecar))
  | rename {source target : Path} : files source → files target → ImageOp files (.rename source target)
  | startCommand {command : Command} : files command.outputImage → ImageOp files (.startCommand command)
  | awaitCommand {command : Command} : files command.outputImage → ImageOp files (.awaitCommand command)

theorem Quiet.touches {op : Op} (quiet : Quiet op) (path : Path) : ¬ op.touches path := by
  cases quiet <;> exact id

theorem ImageOp.touches {files : Path → Prop} {op : Op} {path : Path} (image : ImageOp files op)
    (touched : op.touches path) : files path := by
  cases image with
  | quiet quiet => exact absurd touched (quiet.touches path)
  | createDirAll _ => cases touched
  | removeFile own => cases touched; exact own
  | writeFile own => cases touched; exact own
  | rename source target => rcases touched with rfl | rfl <;> assumption
  | startCommand own => cases touched; exact own
  | awaitCommand own => cases touched; exact own

/-- An image's files lie in the images directory. -/
theorem imageFile_area {safeImageId : Text} {path : Path} (image : ImageFile imagesDir safeImageId path) :
    ∃ names, path = .shared .images names := by
  obtain ⟨format, rfl | rfl | rfl⟩ := image <;> exact ⟨_, rfl⟩

theorem join_lastLetter {directory : Path} {component suffix : Text} {letter : Char}
    (last : suffix.getLast? = some letter) :
    (directory.join (fileName component suffix)).lastLetter = some letter := by
  cases directory with
  | shared area names =>
    simp only [Path.join, Path.lastLetter, List.getLast?_concat, Option.bind_some]
    exact fileName_lastLetter last
  | outside text =>
    simp only [Path.join, Path.lastLetter]
    rw [List.getLast?_append, List.getLast?_cons, fileName_lastLetter last]
    rfl

theorem sidecar_lastLetter (path : Path) : (rootfsDigestSidecarPath path).lastLetter = some 'n' := by
  have last : digestFileSuffix.getLast? = some 'n' := by decide
  cases path with
  | shared area names =>
    simp only [rootfsDigestSidecarPath, Path.lastLetter, List.getLast?_concat, Option.bind_some]
    exact fileName_lastLetter last
  | outside text => exact fileName_lastLetter last

theorem sidecarTmp_lastLetter (path : Path) : (sidecarTmpPath path).lastLetter = some 'p' := by
  have last : tmpSuffix.getLast? = some 'p' := by decide
  cases path with
  | shared area names =>
    simp only [sidecarTmpPath, Path.lastLetter, List.getLast?_concat, Option.bind_some]
    rw [List.getLast?_append, last]
    rfl
  | outside text =>
    simp only [sidecarTmpPath, Path.lastLetter]
    rw [List.getLast?_append, last]
    rfl

theorem image_lastLetter (directory : Path) (safeImageId : Text) (format : RootfsImageFormat) :
    (imagePath directory safeImageId format).lastLetter = some 's' ∨
      (imagePath directory safeImageId format).lastLetter = some '4' := by
  cases format
  · exact .inl (join_lastLetter (by decide))
  · exact .inl (join_lastLetter (by decide))
  · exact .inr (join_lastLetter (by decide))

theorem image_ne_sidecar {directory path : Path} {safeImageId : Text} {format : RootfsImageFormat} :
    imagePath directory safeImageId format ≠ rootfsDigestSidecarPath path := by
  intro same
  rcases image_lastLetter directory safeImageId format with letter | letter <;>
    rw [same, sidecar_lastLetter] at letter <;> cases letter

theorem image_ne_sidecarTmp {directory path : Path} {safeImageId : Text} {format : RootfsImageFormat} :
    imagePath directory safeImageId format ≠ sidecarTmpPath path := by
  intro same
  rcases image_lastLetter directory safeImageId format with letter | letter <;>
    rw [same, sidecarTmp_lastLetter] at letter <;> cases letter

theorem image_ne_directory {directory : Path} {safeImageId : Text} {format : RootfsImageFormat} :
    imagePath directory safeImageId format ≠ directory := by
  cases directory <;> simp [imagePath, Path.join]

/-- No file of an image is a marker. -/
theorem pending_not_image {directory : Path} {safeImageId key : Text} :
    ¬ ImageFile directory safeImageId (pendingPath key) := by
  rintro ⟨format, same | same | same⟩ <;> have letters := congrArg Path.lastLetter same
  · rw [pending_lastLetter] at letters
    rcases image_lastLetter directory safeImageId format with letter | letter <;>
      rw [letter] at letters <;> cases letters
  · rw [pending_lastLetter, sidecar_lastLetter] at letters
    cases letters
  · rw [pending_lastLetter, sidecarTmp_lastLetter] at letters
    cases letters

section Image

variable {files : Path → Prop}

theorem only_withContext {α : Type} {kind : Op → Prop} {message : String} {path : Path}
    {program : Fail α} (only : Only kind program.run) :
    Only kind (withContext message path program).run := by
  refine Only.bind only ?_
  rintro (cause | value) <;> trivial

/-- A build looks around and runs commands that write its image. -/
theorem only_buildImage {kind : Op → Prop} {options : BuildRootfsImageOptions}
    (quiet : ∀ op, Quiet op → kind op)
    (commands : ∀ command, command.outputImage = options.outputImage →
      kind (.startCommand command) ∧ kind (.awaitCommand command)) :
    Only kind (buildImage options).run := by
  have runs : ∀ command, command.outputImage = options.outputImage → Only kind (runCommand command).run :=
    fun command own => Only.bind_fallible (only_perform (commands command own).1) fun _ =>
      only_perform (commands command own).2
  unfold buildImage
  split
  · refine Only.bind_fallible (.lift (only_perform (quiet _ (.envTruthy _)))) fun _ => ?_
    exact only_withContext (runs _ rfl)
  · exact runs _ rfl
  · refine Only.bind_fallible ?_ fun _ => ?_
    · exact Only.bind_fallible (only_perform (quiet _ (.rootfsContentSize _))) fun _ => trivial
    · exact Only.bind_fallible (runs _ rfl) fun _ => runs _ rfl

/-- What a digest does: it reads the image and its sidecar, and writes the sidecar. -/
theorem only_rootfsDigestForImage {kind : Op → Prop} {path : Path} {size modified : Nat}
    (reads : kind (.readSidecar (rootfsDigestSidecarPath path))) (hashes : kind (.sha256File path))
    (writes : ∀ sidecar, kind (.writeFile (sidecarTmpPath (rootfsDigestSidecarPath path)) (.digestSidecar sidecar)))
    (renames : kind (.rename (sidecarTmpPath (rootfsDigestSidecarPath path)) (rootfsDigestSidecarPath path))) :
    Only kind (rootfsDigestForImage path size modified).run := by
  refine Only.bind_fallible (only_perform reads) fun known => ?_
  split
  · trivial
  · refine Only.bind_fallible (only_perform hashes) fun sha256 => ?_
    refine Only.bind_fallible (only_perform (writes _)) fun _ => ?_
    exact Only.bind_fallible (only_perform renames) fun _ => trivial

theorem only_digestIf {hashImage : Bool} {path : Path} {size modified : Nat}
    (sidecar : files (rootfsDigestSidecarPath path))
    (tmp : files (sidecarTmpPath (rootfsDigestSidecarPath path))) :
    Only (ImageOp files) (digestIf hashImage path size modified).run := by
  unfold digestIf
  split
  · exact only_rootfsDigestForImage (.quiet (.readSidecar _)) (.quiet (.sha256File _))
      (fun _ => .writeFile tmp) (.rename tmp sidecar)
  · trivial

theorem only_buildRootfsImage {imagesDir : Path} {options : BuildRootfsImageOptions}
    (own : files options.outputImage) (sidecar : files (rootfsDigestSidecarPath options.outputImage))
    (tmp : files (sidecarTmpPath (rootfsDigestSidecarPath options.outputImage))) :
    Only (ImageOp files) (buildRootfsImage imagesDir options).run := by
  refine Only.bind_fallible (.lift (only_perform (.quiet (.isDir _)))) fun present => ?_
  split
  · refine Only.bind_fallible (only_perform (.createDirAll _)) fun _ => ?_
    refine Only.bind_fallible ?_ fun _ => ?_
    · refine Only.bind_fallible (.lift (only_perform (.quiet (.pathExists _)))) fun old => ?_
      split
      · exact only_perform (.removeFile own)
      · trivial
    · refine Only.bind_fallible (.lift (only_perform (.removeFile sidecar))) fun _ => ?_
      refine Only.bind_fallible (only_buildImage (fun _ => .quiet) fun command output => ?_) fun _ => ?_
      · exact ⟨.startCommand (output ▸ own), .awaitCommand (output ▸ own)⟩
      refine Only.bind_fallible (only_perform (.quiet (.metadata _))) fun stat => ?_
      exact Only.bind_fallible (only_digestIf sidecar tmp) fun _ => trivial
  · trivial

/-- `prepare_shared_rootfs_image` works on the files of its own image id. -/
theorem only_prepareSharedRootfsImage (rootfsDir imagesDir : Path) (safeImageId : Text) :
    Only (ImageOp (ImageFile imagesDir safeImageId))
      (prepareSharedRootfsImage rootfsDir imagesDir safeImageId).run := by
  have formats : ∀ formats, Only (ImageOp (ImageFile imagesDir safeImageId))
      (prepareFormats rootfsDir imagesDir safeImageId formats).run := by
    intro formats
    induction formats with
    | nil => trivial
    | cons format formats ih =>
      have image : ImageFile imagesDir safeImageId (imagePath imagesDir safeImageId format) :=
        ⟨format, .inl rfl⟩
      have sidecar : ImageFile imagesDir safeImageId
          (rootfsDigestSidecarPath (imagePath imagesDir safeImageId format)) :=
        ⟨format, .inr (.inl rfl)⟩
      have tmp : ImageFile imagesDir safeImageId
          (sidecarTmpPath (rootfsDigestSidecarPath (imagePath imagesDir safeImageId format))) :=
        ⟨format, .inr (.inr rfl)⟩
      refine Only.bind_fallible (.lift (only_perform (.quiet (.pathExists _)))) fun present => ?_
      split
      · refine Only.bind_fallible (only_perform (.quiet (.metadata _))) fun stat => ?_
        refine Only.bind_fallible (.lift (only_perform (.quiet (.envTruthy _)))) fun hash => ?_
        exact Only.bind_fallible (only_digestIf sidecar tmp) fun _ => trivial
      · refine Only.bind_fallible (.lift (only_perform (.quiet (.envTruthy _)))) fun hash => ?_
        refine Only.bind_fallible (.lift (only_buildRootfsImage image sidecar tmp)) fun result => ?_
        split
        · trivial
        · exact ih
  refine Only.bind_fallible (.lift ?_) fun candidates => formats candidates
  refine Only.bind (only_perform (.quiet (.commandAvailable _))) fun _ => ?_
  exact Only.bind (only_perform (.quiet (.commandAvailable _))) fun _ => trivial

/-- `build_rootfs_image` reports the path it was given. -/
theorem gives_buildRootfsImage {imagesDir : Path} {options : BuildRootfsImageOptions} :
    (buildRootfsImage imagesDir options).Gives fun info => info.path = options.outputImage := by
  refine Fallible.Gives.rest fun present => ?_
  split
  · refine .rest fun _ => .rest fun _ => .rest fun _ => .rest fun _ => .rest fun stat => ?_
    exact .rest fun sha256 => .pure rfl
  · exact .throw

/-- The image of an id is one of the id's image files. -/
theorem gives_prepareSharedRootfsImage {rootfsDir imagesDir : Path} {safeImageId : Text} :
    (prepareSharedRootfsImage rootfsDir imagesDir safeImageId).Gives
      fun info => ∃ format, info.path = imagePath imagesDir safeImageId format := by
  have formats : ∀ formats, (prepareFormats rootfsDir imagesDir safeImageId formats).Gives
      fun info => ∃ format, info.path = imagePath imagesDir safeImageId format := by
    intro formats
    induction formats with
    | nil => exact .throw
    | cons format formats ih =>
      refine .rest fun present => ?_
      split
      · exact .rest fun stat => .rest fun hash => .rest fun sha256 => .pure ⟨format, rfl⟩
      · refine .rest fun hash => ?_
        refine Fallible.Gives.bind (fun built : Except Error RootfsImageInfo =>
          ∀ info, built = .ok info → info.path = imagePath imagesDir safeImageId format) ?_ fun built known => ?_
        · exact .lift gives_buildRootfsImage
        · split
          · rename_i info
            exact .pure ⟨format, known info rfl⟩
          · exact ih
  exact .rest fun candidates => formats candidates

end Image

/-- Operations on the bundle index. -/
inductive BundleOp : Op → Prop where
  | quiet {op : Op} : Quiet op → BundleOp op
  | readBundle (key : Text) : BundleOp (.readBundle key)
  | validateBundle (entry : BundleEntry) : BundleOp (.validateBundle entry)
  | writeFile {name : Text} {entry : BundleEntry} :
      BundleOp (.writeFile (.shared .bundleIndex [name]) (.bundleEntry entry))
  | rename {source target : Text} :
      BundleOp (.rename (.shared .bundleIndex [source]) (.shared .bundleIndex [target]))

/-- Operations that write an index entry, under its reference or its image id. -/
inductive IndexOp (entry : BundleEntry) : Op → Prop where
  | createDirAll : IndexOp entry (.createDirAll (.shared .bundleIndex []))
  | validateBundle : IndexOp entry (.validateBundle entry)
  | writeFile {key : Text} : key = entry.imageRef ∨ key = entry.imageId →
      IndexOp entry (.writeFile (bundleTmpPath key) (.bundleEntry entry))
  | rename (key : Text) : IndexOp entry (.rename (bundleTmpPath key) (bundleIndexPath key))

theorem IndexOp.bundle {entry : BundleEntry} {op : Op} (index : IndexOp entry op) : BundleOp op := by
  cases index with
  | createDirAll => exact .quiet (.createDirAll .bundleIndex)
  | validateBundle => exact .validateBundle entry
  | writeFile names => exact .writeFile
  | rename key => exact .rename

theorem only_indexBundleEntry (entry : BundleEntry) :
    Only (IndexOp entry) (writeSharedRootfsBundleEntry entry).run := by
  have forKey : ∀ key, key = entry.imageRef ∨ key = entry.imageId →
      Only (IndexOp entry) (writeBundleEntryForKey key entry).run := by
    intro key names
    refine Only.bind_fallible (only_perform .createDirAll) fun _ => ?_
    exact Only.bind_fallible (only_perform (.writeFile names)) fun _ => only_perform (.rename key)
  refine Only.bind_fallible (only_perform .validateBundle) fun _ => ?_
  refine Only.bind_fallible (forKey _ (.inl rfl)) fun _ => ?_
  split
  · exact forKey _ (.inr rfl)
  · trivial

theorem only_writeSharedRootfsBundleEntry (entry : BundleEntry) :
    Only BundleOp (writeSharedRootfsBundleEntry entry).run :=
  (only_indexBundleEntry entry).weaken fun _ index => index.bundle

theorem only_lookupPulledBundle (imageRef : Text) : Only BundleOp (lookupPulledBundle imageRef) := by
  refine Only.bind (only_perform (.readBundle _)) ?_
  rintro (cause | found) <;> trivial

theorem BundleOp.touches {op : Op} {path : Path} (bundle : BundleOp op) (touched : op.touches path) :
    ∃ name, path = .shared .bundleIndex [name] := by
  cases bundle with
  | quiet quiet => exact absurd touched (quiet.touches path)
  | readBundle _ => cases touched
  | validateBundle _ => cases touched
  | writeFile => exact ⟨_, touched⟩
  | rename => rcases touched with rfl | rfl <;> exact ⟨_, rfl⟩

/-- Operations that write an entry, under its reference or its image id. -/
inductive EntryOp (entry : CacheEntry) : Op → Prop where
  | createDirAll (path : Path) : EntryOp entry (.createDirAll path)
  | validateCache : EntryOp entry (.validateCache entry)
  | writeFile {key : Text} : key = entry.imageRef ∨ key = entry.imageId →
      EntryOp entry (.writeFile (cacheTmpPath key) (.cacheEntry entry))
  | rename (key : Text) : EntryOp entry (.rename (cacheTmpPath key) (cachePath key cacheFileSuffix))

theorem only_writeSharedRootfsCacheEntry (entry : CacheEntry) :
    Only (EntryOp entry) (writeSharedRootfsCacheEntry entry).run := by
  have forKey : ∀ key, key = entry.imageRef ∨ key = entry.imageId →
      Only (EntryOp entry) (writeCacheEntryForKey key entry).run := by
    intro key names
    refine Only.bind_fallible (only_perform (.createDirAll _)) fun _ => ?_
    exact Only.bind_fallible (only_perform (.writeFile names)) fun _ => only_perform (.rename key)
  refine Only.bind_fallible (only_perform .validateCache) fun _ => ?_
  refine Only.bind_fallible (forKey _ (.inl rfl)) fun _ => ?_
  split
  · exact forKey _ (.inr rfl)
  · trivial

/-- Operations on the marker of a reference. -/
inductive MarkerOp (imageRef : Text) : Op → Prop where
  | createDirAll (path : Path) : MarkerOp imageRef (.createDirAll path)
  | mark : MarkerOp imageRef (.writeFile (pendingPath imageRef) .pending)
  | clear : MarkerOp imageRef (.removeFile (pendingPath imageRef))

theorem only_markSharedRootfsCachePending (imageRef : Text) :
    Only (MarkerOp imageRef) (markSharedRootfsCachePending imageRef).run :=
  Only.bind_fallible (only_perform (.createDirAll _)) fun _ => only_perform .mark

theorem only_clearSharedRootfsCachePending (imageRef : Text) :
    Only (MarkerOp imageRef) (clearSharedRootfsCachePending imageRef) :=
  Only.bind (only_perform .clear) fun _ => trivial

/-- The looks of a lookup or a wait: at the cache entry and at the marker. -/
inductive LookOp (imageRef : Text) : Op → Prop where
  | lookup : LookOp imageRef (.readCache .lookup imageRef)
  | wait : LookOp imageRef (.readCache .wait imageRef)
  | isFile : LookOp imageRef (.isFile (pendingPath imageRef))

/-- Both wait loops only look. -/
theorem only_waitForSharedRootfsCacheEntry (imageRef : Text) (polls : Nat) :
    Only (LookOp imageRef) (waitForSharedRootfsCacheEntry imageRef polls).run := by
  induction polls with
  | zero =>
    unfold waitForSharedRootfsCacheEntry
    refine Only.bind_fallible (only_perform .wait) fun found => ?_
    split
    · trivial
    · refine Only.bind_fallible (only_perform .isFile).lift fun pending => ?_
      split <;> trivial
  | succ left ih =>
    unfold waitForSharedRootfsCacheEntry
    refine Only.bind_fallible (only_perform .wait) fun found => ?_
    split
    · trivial
    · refine Only.bind_fallible (only_perform .isFile).lift fun pending => ?_
      split
      · exact ih
      · trivial

theorem only_waitForCachedSharedRootfs (imageRef : Text) (polls : Nat) :
    Only (LookOp imageRef) (waitForCachedSharedRootfs imageRef polls).run := by
  induction polls with
  | zero =>
    unfold waitForCachedSharedRootfs
    refine Only.bind_fallible (only_withContext (only_perform .wait)) fun found => ?_
    split
    · trivial
    · refine Only.bind_fallible (only_perform .isFile).lift fun pending => ?_
      split <;> trivial
  | succ left ih =>
    unfold waitForCachedSharedRootfs
    refine Only.bind_fallible (only_withContext (only_perform .wait)) fun found => ?_
    split
    · trivial
    · refine Only.bind_fallible (only_perform .isFile).lift fun pending => ?_
      split
      · exact ih
      · trivial

theorem only_lookupCachedSharedRootfs (imageRef : Text) (polls : Nat) :
    Only (LookOp imageRef) (lookupCachedSharedRootfs imageRef polls).run := by
  refine Only.bind_fallible (only_perform .lookup).lift fun found => ?_
  split
  · trivial
  · refine Only.bind_fallible (only_perform .isFile).lift fun pending => ?_
    split
    · exact only_waitForCachedSharedRootfs _ _
    · trivial

end GuestComponents.SharedRootfs
