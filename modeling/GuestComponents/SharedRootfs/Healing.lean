import GuestComponents.SharedRootfs.Undisturbed

/-! What one undisturbed request makes of the store it finds, when everything it
asks of the host succeeds. An invalid entry is a miss to the server's lookup
and an error to the library's second read, so the store is repaired exactly
where neither the reference's nor the image id's entry is invalid and the image
file a build would use is not an empty leftover (`Healable`). -/
namespace GuestComponents.SharedRootfs
open Lib Program

/-- The image id's own entry is valid, or missing over a usable image file. -/
def IdHealable (disk : Disk) (imageId : Text) (format : RootfsImageFormat) : Prop :=
  match disk.readCacheEntry imageId with
  | .ok (some _) => True
  | .ok none => ImageUsable disk (imagePath imagesDir (sanitizePathComponent imageId) format)
  | .error _ => False

/-- The image id a request works with: the bundle index's, or the registry's. -/
def requestImageId (disk : Disk) (imageRef pulled : Text) : Text :=
  match disk.readBundleEntry imageRef with
  | .ok (some bundle) => bundle.imageId
  | _ => pulled

/-- The reference's entry is valid, or missing and to be had by its image id. -/
def Healable (disk : Disk) (imageRef pulled : Text) (format : RootfsImageFormat) : Prop :=
  match disk.readCacheEntry imageRef with
  | .ok (some _) => True
  | .ok none => imageRef ≠ [] ∧ IdHealable disk (requestImageId disk imageRef pulled) format
  | .error _ => False

instance (disk : Disk) (imageId : Text) (format : RootfsImageFormat) :
    Decidable (IdHealable disk imageId format) := by
  unfold IdHealable
  split <;> infer_instance

instance (disk : Disk) (imageRef pulled : Text) (format : RootfsImageFormat) :
    Decidable (Healable disk imageRef pulled format) := by
  unfold Healable
  split <;> infer_instance

/-- Entries name files of the images directory. -/
def Placed (disk : Disk) : Prop :=
  ∀ key file entry, disk.files (cachePath key cacheFileSuffix) = some file →
    file.data = .cacheEntry entry → ∃ name, entry.rootfsImagePath = .shared .images [name]

/-- The paths that reading the cache and finding an image depend on. -/
inductive Watched : Path → Prop where
  | entry (key : Text) : Watched (cachePath key cacheFileSuffix)
  | image (name : Text) : Watched (.shared .images [name])

/-- Two disks agree on the watched paths. -/
def Agree (disk after : Disk) : Prop :=
  ∀ path, Watched path → after.files path = disk.files path ∧ after.dirs path = disk.dirs path

/-- Operations that leave the watched paths alone. -/
def Aside (op : Op) : Prop := ∀ path, Watched path → ¬ op.touches path ∧ ¬ op.creates path

section Watched

variable {disk after : Disk}

theorem Agree.refl (disk : Disk) : Agree disk disk := fun _ _ => ⟨rfl, rfl⟩

theorem Agree.trans {last : Disk} (first : Agree disk after) (second : Agree after last) :
    Agree disk last := fun path watched =>
  ⟨(second path watched).1.trans (first path watched).1,
    (second path watched).2.trans (first path watched).2⟩

theorem Aside.agree {op : Op} (aside : Aside op) (pid : Nat) (disk : Disk) (choice : Choice) :
    Agree disk (act pid disk op choice).2 := fun path watched =>
  ⟨act_files (aside path watched).1, act_dirs (aside path watched).2⟩

theorem Agree.read (agree : Agree disk after) (placed : Placed disk) (key : Text) :
    after.readCacheEntry key = disk.readCacheEntry key := by
  simp only [Disk.readCacheEntry, (agree _ (.entry key)).1]
  split
  · rfl
  · rename_i file found
    split
    · rename_i entry data
      obtain ⟨name, path⟩ := placed key file entry found data
      rw [Disk.validateCacheEntry_same]
      rw [path]
      exact (agree _ (.image name)).1
    · rfl

theorem watched_imagePath (safeImageId : Text) (format : RootfsImageFormat) :
    Watched (imagePath imagesDir safeImageId format) := .image _

theorem Agree.usable (agree : Agree disk after) (safeImageId : Text) (format : RootfsImageFormat) :
    ImageUsable after (imagePath imagesDir safeImageId format) ↔
      ImageUsable disk (imagePath imagesDir safeImageId format) := by
  obtain ⟨files, dirs⟩ := agree _ (watched_imagePath safeImageId format)
  simp only [ImageUsable, files, Disk.isDir, dirs]

theorem not_watched_bundleIndex (name : Text) : ¬ Watched (.shared .bundleIndex [name]) := by
  intro watched
  cases watched

theorem not_watched_bundles (names : List Text) : ¬ Watched (.shared .bundles names) := by
  intro watched
  cases watched

theorem not_watched_root (area : Area) : ¬ Watched (.shared area []) := by
  intro watched
  cases watched

theorem pendingPath_ne_entry (imageRef key : Text) :
    pendingPath imageRef ≠ cachePath key cacheFileSuffix := by
  intro same
  simp only [pendingPath, cachePath, Path.shared.injEq, List.cons.injEq, true_and, and_true] at same
  have suffixes := (fileName_suffix (by decide) (by decide) same).2
  revert suffixes
  decide

theorem not_watched_pending (imageRef : Text) : ¬ Watched (pendingPath imageRef) := by
  intro watched
  generalize shape : pendingPath imageRef = path at watched
  cases watched with
  | entry key => exact pendingPath_ne_entry imageRef key shape
  | image name => cases shape

theorem Quiet.aside {op : Op} (quiet : Quiet op) : Aside op := by
  intro path watched
  refine ⟨quiet.touches path, ?_⟩
  cases quiet with
  | createDirAll area =>
    rintro rfl
    exact not_watched_root area watched
  | _ => exact id

theorem BundleOp.aside {op : Op} (bundle : BundleOp op) : Aside op := by
  intro path watched
  constructor
  · intro touched
    obtain ⟨name, rfl⟩ := bundle.touches touched
    exact not_watched_bundleIndex name watched
  · cases bundle with
    | quiet quiet => exact (quiet.aside path watched).2
    | _ => exact id

theorem aside_markOp (imageRef : Text) (data : FileData) : Aside (.writeFile (pendingPath imageRef) data) := by
  intro path watched
  refine ⟨?_, id⟩
  rintro rfl
  exact not_watched_pending imageRef watched

theorem aside_clearOp (imageRef : Text) : Aside (.removeFile (pendingPath imageRef)) := by
  intro path watched
  refine ⟨?_, id⟩
  rintro rfl
  exact not_watched_pending imageRef watched

theorem only_mark (imageRef : Text) : Only Aside (markSharedRootfsCachePending imageRef).run :=
  Only.bind_fallible (only_perform (Quiet.createDirAll _).aside) fun _ =>
    only_perform (aside_markOp imageRef _)

theorem only_clear (imageRef : Text) : Only Aside (clearSharedRootfsCachePending imageRef) :=
  Only.bind (only_perform (aside_clearOp imageRef)) fun _ => trivial

end Watched

section Request

variable {pid : Nat} {env : World → Op → Choice} {imageRef imageId : Text}
  {available : String → Bool} {disk : Disk}

/-- Programs that keep aside change nothing that is watched. -/
theorem ends_aside {α : Type} {program : Prog α} (only : Only Aside program) :
    host.Ends pid env (fun world => Agree disk world.disk) program
      fun _ world => Agree disk world.disk :=
  Service.Ends.only only fun _ _ aside agree => agree.trans (aside.agree pid _ _)

/-- The reference's entry is valid, over an image of the images directory. -/
def Entered (disk : Disk) (reference : Text) : Prop :=
  ∃ entry, (∃ name, entry.rootfsImagePath = .shared .images [name]) ∧ disk.Hits reference entry

theorem Agree.entered {after : Disk} {reference : Text} (agree : Agree disk after)
    (entered : Entered disk reference) : Entered after reference := by
  obtain ⟨entry, ⟨name, path⟩, hits⟩ := entered
  obtain ⟨file, found, data, valid⟩ := (disk.hits_iff).mp hits
  have same : after.files entry.rootfsImagePath = disk.files entry.rootfsImagePath := by
    rw [path]
    exact (agree _ (.image name)).1
  refine ⟨entry, ⟨name, path⟩, (after.hits_iff).mpr ⟨file, ?_, data, ?_⟩⟩
  · rw [(agree _ (.entry reference)).1, found]
  · rw [Disk.validateCacheEntry_same _ same, valid]

/-- An image file of the images directory, of the size the build reported. -/
def Built (disk : Disk) (info : RootfsImageInfo) : Prop :=
  (∃ name, info.path = .shared .images [name]) ∧ info.size ≠ 0 ∧
    ∃ file, disk.files info.path = some file ∧ file.size = info.size

/-- What the device answers when it creates a share. -/
def Descriptor (share : SharedImage) : Prop :=
  share.shareId ≠ 0 ∧ share.sourceRdAddr ≠ 0 ∧ share.pageCount ≠ 0

theorem validate_built {info : RootfsImageInfo} {share : SharedImage} {reference id : Text}
    {config : List UInt8} (named : reference ≠ []) (identified : id ≠ []) (built : Built disk info)
    (descriptor : Descriptor share) :
    disk.validateCacheEntry (.ofShare reference id info share config) = .ok () := by
  obtain ⟨_, sized, file, found, size⟩ := built
  exact (disk.validateCacheEntry_iff).mpr
    ⟨named, identified, ⟨descriptor.1, descriptor.2.1⟩, ⟨sized, descriptor.2.2⟩, file, found, size⟩

theorem validate_unbuilt {info : RootfsImageInfo} {share : SharedImage} {reference id : Text}
    {config : List UInt8} (empty : reference = [] ∨ info.size = 0 ∨ disk.files info.path = none) :
    ∃ error, disk.validateCacheEntry (.ofShare reference id info share config) = .error error := by
  cases result : disk.validateCacheEntry (.ofShare reference id info share config) with
  | error error => exact ⟨error, rfl⟩
  | ok value =>
    obtain ⟨named, _, _, ⟨sized, _⟩, file, found, _⟩ := (disk.validateCacheEntry_iff).mp result
    rcases empty with unnamed | zero | absent
    · exact absurd unnamed named
    · exact absurd zero sized
    · exact absurd (found.symm.trans absent) (by simp)

section Preparing

variable (succeeds : Succeeds env imageRef imageId available) {reference id : Text} {bundleDir : Path}

include succeeds

theorem achieves_imagesDir {safeImageId : Text} {rootfsDir : Path} {format : RootfsImageFormat}
    {usable : Prop} : Achieves pid env (fun disk => disk.isDir rootfsDir = true ∧
        (ImageUsable disk (imagePath imagesDir safeImageId format) ↔ usable))
      (attempt (call (.createDirAll imagesDir))) fun _ disk => disk.isDir rootfsDir = true ∧
        (ImageUsable disk (imagePath imagesDir safeImageId format) ↔ usable) := by
  refine achieves_createDirAll succeeds ?_
  rintro disk ⟨rootfs, same⟩
  have agree : Agree disk (disk.addDir imagesDir) := fun path watched =>
    ⟨rfl, addDir_dirs_ne fun equal => not_watched_root _ (equal ▸ watched)⟩
  refine ⟨?_, (agree.usable _ _).trans same⟩
  by_cases equal : rootfsDir = imagesDir
  · rw [equal]
    exact addDir_dirs_self
  · exact (addDir_dirs_ne equal).trans rootfs

theorem achieves_createShare {pre : Disk → Prop} {path : Path} :
    Achieves pid env pre (attempt (call (.createShare reference id path)))
      fun share disk => Descriptor share ∧ pre disk := by
  refine Service.Ends.perform fun world holds => ⟨_, ?_, succeeds.shares world reference id path, holds⟩
  simp [host, act, outcome, succeeds.works]

/-- A built or reused image becomes a share and an entry. -/
theorem achieves_inner (named : reference ≠ []) (identified : id ≠ []) :
    Achieves pid env (fun disk => disk.isDir (Disk.bundleRootfs bundleDir) = true ∧
        (ImageUsable disk (imagePath imagesDir (sanitizePathComponent id) (firstFormat available)) ↔ True))
      (prepareFromBundleInner reference id bundleDir) fun _ disk => Entered disk reference := by
  refine Achieves.bind (fun present disk => present = true ∧ disk.isDir (Disk.bundleRootfs bundleDir) = true ∧
    (ImageUsable disk (imagePath imagesDir (sanitizePathComponent id) (firstFormat available)) ↔ True)) ?_
    fun present => ?_
  · exact Achieves.ask (Service.Ends.perform fun _ holds => ⟨holds.1, holds⟩)
  · by_cases there : present = true
    · subst there
      rw [if_pos rfl]
      refine Achieves.bind _ ((achieves_imagesDir succeeds).weaken (fun _ holds => holds.2)
        fun _ _ holds => holds) fun _ => ?_
      refine Achieves.bind (fun info disk => Built disk info) ?_ fun info => ?_
      · refine (achieves_prepareSharedRootfsImage succeeds).weaken
          (fun _ holds => ⟨holds.1, holds.2.mpr trivial⟩) ?_
        rintro info disk ⟨path, sized, found⟩
        exact ⟨⟨_, path⟩, sized, found⟩
      · refine Achieves.bind _ (achieves_createShare succeeds) fun share => ?_
        refine Achieves.bind (fun _ disk => Descriptor share ∧ Built disk info) ?_ fun read => ?_
        · exact Achieves.ask (Service.Ends.perform fun _ holds => holds)
        · rintro world ⟨descriptor, built⟩
          obtain ⟨name, path⟩ := built.1
          have writes : ∀ config, Achieves pid env (fun disk => Built disk info)
              (writeSharedRootfsCacheEntry (.ofShare reference id info share config) >>= fun _ =>
                pure (CacheEntry.ofShare reference id info share config))
              fun _ disk => Entered disk reference := by
            intro config
            refine Achieves.bind _ (achieves_writeSharedRootfsCacheEntry succeeds
              (show (CacheEntry.ofShare reference id info share config).rootfsImagePath =
                .shared .images [name] from path)
              fun disk built => validate_built named identified built descriptor) fun _ => ?_
            exact Achieves.pure fun disk hits => ⟨_, ⟨name, path⟩, hits⟩
          exact writes _ world built
    · intro world holds
      exact absurd holds.1 there

/-- Without a reference, or over an image that is not usable, no entry is made. -/
theorem fails_inner (unusable : Prop) (cause : reference = [] ∨ unusable) :
    Fails pid env (fun disk => disk.isDir (Disk.bundleRootfs bundleDir) = true ∧
        (ImageUsable disk (imagePath imagesDir (sanitizePathComponent id) (firstFormat available)) ↔
          ¬ unusable))
      (prepareFromBundleInner reference id bundleDir) := by
  refine Achieves.fails (fun present disk => present = true ∧
    disk.isDir (Disk.bundleRootfs bundleDir) = true ∧
    (ImageUsable disk (imagePath imagesDir (sanitizePathComponent id) (firstFormat available)) ↔
      ¬ unusable)) ?_ fun present => ?_
  · exact Achieves.ask (Service.Ends.perform fun _ holds => ⟨holds.1, holds⟩)
  · by_cases there : present = true
    · subst there
      rw [if_pos rfl]
      refine Achieves.fails _ ((achieves_imagesDir succeeds).weaken (fun _ holds => holds.2)
        fun _ _ holds => holds) fun _ => ?_
      refine Service.Ends.bind_fallible (fun info world => reference = [] ∨ info.size = 0 ∨
        world.disk.files info.path = none) ?_ fun info => ?_
      · intro world holds
        split
        · rename_i info succeeded
          rcases cause with unnamed | bad
          · exact .inl unnamed
          · exact .inr (ends_prepareUnusable succeeds world (fun usable => holds.2.mp usable bad) info succeeded)
        · exact ⟨_, rfl⟩
      · refine Achieves.fails (fun _ disk => reference = [] ∨ info.size = 0 ∨ disk.files info.path = none)
          ((achieves_createShare succeeds).weaken (fun _ empty => empty) fun _ _ holds => holds.2)
          fun share => ?_
        refine Achieves.fails (fun _ disk => reference = [] ∨ info.size = 0 ∨
          disk.files info.path = none) ?_ fun read => ?_
        · exact Achieves.ask (Service.Ends.perform fun _ empty => empty)
        · exact Fails.bind (fails_writeSharedRootfsCacheEntry fun disk empty => validate_unbuilt empty)
    · intro world holds
      exact absurd holds.1 there

/-- What the preparation relies on: nothing watched has changed since the first
disk, and the bundle has its rootfs. -/
def Ready (disk : Disk) (bundleDir : Path) (now : Disk) : Prop :=
  Agree disk now ∧ now.isDir (Disk.bundleRootfs bundleDir) = true

omit succeeds in
theorem Ready.perform {now : Disk} {op : Op} {choice : Choice} (ready : Ready disk bundleDir now)
    (aside : Aside op) : Ready disk bundleDir (act pid now op choice).2 :=
  ⟨ready.1.trans (aside.agree pid now choice), act_keeps_dir ready.2⟩

omit succeeds in
theorem ends_ready {α : Type} {program : Prog α} (only : Only Aside program) :
    host.Ends pid env (fun world => Ready disk bundleDir world.disk) program
      fun _ world => Ready disk bundleDir world.disk :=
  Service.Ends.only only fun _ _ aside ready => ready.perform aside

omit succeeds in
theorem ends_entered {α : Type} {program : Prog α} (only : Only Aside program) :
    host.Ends pid env (fun world => Entered world.disk reference) program
      fun _ world => Entered world.disk reference :=
  Service.Ends.only only fun _ _ aside entered => (aside.agree pid _ _).entered entered

theorem achieves_mark : Achieves pid env (Ready disk bundleDir) (markSharedRootfsCachePending reference)
    fun _ => Ready disk bundleDir := by
  refine Achieves.bind (fun _ => Ready disk bundleDir) ?_ fun _ => ?_
  · exact achieves_createDirAll succeeds fun now ready =>
      @Ready.perform pid disk bundleDir now _ {} ready (Quiet.createDirAll .cache).aside
  · exact achieves_writeFile succeeds fun now size modified ready =>
      @Ready.perform pid disk bundleDir now _ { size, modified } ready (aside_markOp reference .pending)

/-- An entry that is valid for the id is valid for the reference too. -/
theorem achieves_alias {entry : CacheEntry} (named : reference ≠ []) (identified : id ≠ [])
    (placed : Placed disk) (byId : disk.readCacheEntry id = .ok (some entry)) :
    Achieves pid env (Ready disk bundleDir)
      (writeSharedRootfsCacheEntry { entry with imageRef := reference, imageId := id } >>= fun _ =>
        pure { entry with imageRef := reference, imageId := id }) fun _ now => Entered now reference := by
  obtain ⟨file, found, data, valid⟩ := (disk.hits_iff).mp byId
  obtain ⟨name, path⟩ := placed id file entry found data
  let aliased := { entry with imageRef := reference, imageId := id }
  have aliasedPath : aliased.rootfsImagePath = .shared .images [name] := path
  refine Achieves.bind _ (achieves_writeSharedRootfsCacheEntry succeeds aliasedPath fun now ready => ?_)
    fun _ => Achieves.pure fun now hits => ⟨aliased, ⟨name, path⟩, hits⟩
  · obtain ⟨_, _, descriptor, sized, image, present, size⟩ := (disk.validateCacheEntry_iff).mp valid
    refine (now.validateCacheEntry_iff).mpr ⟨named, identified, descriptor, sized, image, ?_, size⟩
    rw [aliasedPath, (ready.1 _ (.image name)).1, ← path, present]

/-- The part of the preparation between the marker's two ends. -/
theorem achieves_marked (named : reference ≠ []) (identified : id ≠ [])
    (usable : ImageUsable disk (imagePath imagesDir (sanitizePathComponent id) (firstFormat available))) :
    Achieves pid env (Ready disk bundleDir) (do
      markSharedRootfsCachePending reference
      let result ← ask (prepareFromBundleInner reference id bundleDir).run
      ask (clearSharedRootfsCachePending reference)
      attempt (pure result)) fun _ now => Entered now reference := by
  refine Achieves.bind _ (achieves_mark succeeds) fun _ => ?_
  refine Achieves.bind (fun result now => ∃ entry : CacheEntry, result = .ok entry ∧ Entered now reference)
    (Achieves.ask ?_) fun result => ?_
  · refine (achieves_inner succeeds named identified).consequence ?_ fun _ _ reached => reached
    exact fun world ready => ⟨ready.2, iff_true_intro ((ready.1.usable _ _).mpr usable)⟩
  · rintro world ⟨entry, rfl, entered⟩
    have clears : Achieves pid env (fun now => Entered now reference)
        (ask (clearSharedRootfsCachePending reference)) fun _ now => Entered now reference :=
      Achieves.ask (ends_entered (only_clear reference))
    have whole : Achieves pid env (fun now => Entered now reference)
        (ask (clearSharedRootfsCachePending reference) >>= fun _ => attempt (pure (.ok entry)))
        fun _ now => Entered now reference :=
      Achieves.bind _ clears fun _ => fun now entered => ⟨entry, rfl, entered⟩
    exact whole world entered

theorem fails_marked (cause : reference = [] ∨ ¬ ImageUsable disk
      (imagePath imagesDir (sanitizePathComponent id) (firstFormat available))) :
    Fails pid env (Ready disk bundleDir) (do
      markSharedRootfsCachePending reference
      let result ← ask (prepareFromBundleInner reference id bundleDir).run
      ask (clearSharedRootfsCachePending reference)
      attempt (pure result)) := by
  refine Achieves.fails _ (achieves_mark succeeds) fun _ => ?_
  refine Achieves.fails (fun result _ => ∃ error : Error, result = .error error) (Achieves.ask ?_)
    fun result => ?_
  · refine (fails_inner succeeds _ cause).consequence ?_ fun _ _ failed => failed
    exact fun world ready => ⟨ready.2, (ready.1.usable _ _).trans not_not.symm⟩
  · rintro world ⟨error, rfl⟩
    have clears : Achieves pid env (fun _ => True) (ask (clearSharedRootfsCachePending reference))
        fun _ _ => True := Achieves.ask fun _ _ => trivial
    have whole : Fails pid env (fun _ => True)
        (ask (clearSharedRootfsCachePending reference) >>= fun _ =>
          (attempt (pure (.error error)) : Fail CacheEntry)) :=
      Achieves.fails _ clears fun _ => fun _ _ => ⟨error, rfl⟩
    exact whole world trivial

/-- The preparation of an entry that the reference does not have yet. -/
theorem achieves_prepare (named : reference ≠ []) (identified : id ≠ [])
    (placed : Placed disk) (missing : disk.readCacheEntry reference = .ok none)
    (healable : IdHealable disk id (firstFormat available)) :
    Achieves pid env (Ready disk bundleDir)
      (prepareSharedRootfsCacheFromBundle reference id bundleDir) fun _ now => Entered now reference := by
  refine Achieves.bind _ (achieves_read succeeds none fun now ready => ?_) fun found => ?_
  · rw [ready.1.read placed, missing]
  · rcases found with _ | entry
    · cases byId : disk.readCacheEntry id with
      | error error => simp [IdHealable, byId] at healable
      | ok found =>
        refine Achieves.bind _ ((achieves_read succeeds found fun now ready => ?_).weaken
          (fun _ holds => holds.2) fun _ _ holds => holds) fun found' => ?_
        · rw [ready.1.read placed, byId]
        · rintro world ⟨rfl, ready⟩
          rcases found' with _ | entry
          · simp only [IdHealable, byId] at healable
            exact achieves_marked succeeds named identified healable world ready
          · exact achieves_alias succeeds named identified placed byId world ready
    · intro world holds
      cases holds.1

/-- An invalid entry stops the preparation, and so does an id that has none and
cannot get one. -/
theorem fails_prepare (placed : Placed disk)
    (stuck : (∃ error, disk.readCacheEntry reference = .error error) ∨
      disk.readCacheEntry reference = .ok none ∧
        (reference = [] ∨ ¬ IdHealable disk id (firstFormat available))) :
    Fails pid env (Ready disk bundleDir)
      (prepareSharedRootfsCacheFromBundle reference id bundleDir) := by
  rcases stuck with ⟨error, invalid⟩ | ⟨missing, stuck⟩
  · exact Fails.bind (fails_read succeeds error fun now ready => by rw [ready.1.read placed, invalid])
  · refine Achieves.fails _ (achieves_read succeeds none fun now ready => ?_) fun found => ?_
    · rw [ready.1.read placed, missing]
    · rcases found with _ | entry
      · cases byId : disk.readCacheEntry id with
        | error error =>
          refine Fails.bind (fails_read succeeds error fun now holds => ?_)
          rw [holds.2.1.read placed, byId]
        | ok found =>
          refine Achieves.fails _ ((achieves_read succeeds found fun now ready => ?_).weaken
            (fun _ holds => holds.2) fun _ _ holds => holds) fun found' => ?_
          · rw [ready.1.read placed, byId]
          · rintro world ⟨rfl, ready⟩
            rcases found' with _ | entry
            · refine fails_marked succeeds ?_ world ready
              simpa only [IdHealable, byId] using stuck
            · refine Fails.bind (fails_writeSharedRootfsCacheEntry fun now _ => ?_) world ready
              have unnamed : reference = [] := stuck.resolve_right fun never => never (by simp [IdHealable, byId])
              exact ⟨_, by simp only [Disk.validateCacheEntry, unnamed]; rfl⟩
      · intro world holds
        cases holds.1

end Preparing

section Serving

variable (succeeds : Succeeds env imageRef imageId available)

include succeeds

/-- A miss, or the error of an entry that is invalid. -/
def Missed (disk : Disk) (reference : Text) (result : Except Error (Option CacheEntry)) (world : World) :
    Prop :=
  match result with
  | .ok found => found = none ∧ world.disk = disk
  | .error _ => ∃ error, disk.readCacheEntry reference = .error error

/-- Reading the cache in the wait loop, where there is no valid entry. -/
theorem ends_poll (miss : ∀ entry, disk.readCacheEntry imageRef ≠ .ok (some entry)) :
    host.Ends pid env (fun world => world.disk = disk)
      (withContext "failed waiting for shared rootfs cache" (cachePath imageRef cacheFileSuffix)
        (readSharedRootfsCacheEntry .wait imageRef)).run (Missed disk imageRef) := by
  cases read : disk.readCacheEntry imageRef with
  | error error =>
    have failed : Fails pid env (fun now => now = disk) (readSharedRootfsCacheEntry .wait imageRef) :=
      fails_read succeeds error fun now same => by rw [same, read]
    intro world same
    obtain ⟨reported, result⟩ := failed.withContext _ _ world same
    rw [result]
    exact ⟨error, read⟩
  | ok found =>
    have achieved : Achieves pid env (fun now => now = disk) (readSharedRootfsCacheEntry .wait imageRef)
        fun value now => value = found ∧ now = disk :=
      achieves_read succeeds found fun now same => by rw [same, read]
    intro world same
    obtain ⟨value, result, rfl, still⟩ := achieved.withContext _ _ world same
    rw [result]
    refine ⟨?_, still⟩
    cases value with
    | none => rfl
    | some entry => exact absurd read (miss entry)

/-- The wait on a marker that nobody clears. -/
theorem ends_wait (miss : ∀ entry, disk.readCacheEntry imageRef ≠ .ok (some entry)) (polls : Nat) :
    host.Ends pid env (fun world => world.disk = disk) (waitForCachedSharedRootfs imageRef polls).run
      (Missed disk imageRef) := by
  have poll : ∀ rest : Fail (Option CacheEntry),
      host.Ends pid env (fun world => world.disk = disk) rest.run (Missed disk imageRef) →
      host.Ends pid env (fun world => world.disk = disk)
        (ask (sharedRootfsCachePending imageRef) >>= fun pending => if pending then rest else pure none).run
        (Missed disk imageRef) := by
    intro rest ends
    refine Service.Ends.bind_fallible (fun _ world => world.disk = disk)
      (Service.Ends.lift (Service.Ends.perform fun _ same => same)) fun pending => ?_
    split
    · exact ends
    · exact Service.Ends.pure fun _ same => ⟨rfl, same⟩
  induction polls with
  | zero =>
    rw [waitForCachedSharedRootfs]
    refine Service.Ends.bind_fallible (fun found world => found = none ∧ world.disk = disk)
      ((ends_poll succeeds miss).consequence (fun _ same => same)
        (by rintro (error | found) world missed <;> exact missed)) fun found => ?_
    rintro world ⟨rfl, same⟩
    exact poll (pure none) (Service.Ends.pure fun _ same => ⟨rfl, same⟩) world same
  | succ left ih =>
    rw [waitForCachedSharedRootfs]
    refine Service.Ends.bind_fallible (fun found world => found = none ∧ world.disk = disk)
      ((ends_poll succeeds miss).consequence (fun _ same => same)
        (by rintro (error | found) world missed <;> exact missed)) fun found => ?_
    rintro world ⟨rfl, same⟩
    exact poll _ ih world same

/-- Alone, the lookup gives no entry where there is no valid one, unless an
invalid entry meets a pending marker. -/
theorem ends_lookup (miss : ∀ entry, disk.readCacheEntry imageRef ≠ .ok (some entry)) (polls : Nat) :
    host.Ends pid env (fun world => world.disk = disk) (lookupCachedSharedRootfs imageRef polls).run
      (Missed disk imageRef) := by
  refine Service.Ends.bind_fallible (fun read world => read = disk.readCacheEntry imageRef ∧
    world.disk = disk) ?_ fun read => ?_
  · refine Service.Ends.lift (Service.Ends.perform fun world same => ⟨?_, same⟩)
    simp [host, act, succeeds.works, show world.disk = disk from same]
  · rintro world ⟨rfl, same⟩
    have rest : host.Ends pid env (fun world => world.disk = disk)
        (ask (sharedRootfsCachePending imageRef) >>= fun pending =>
          if pending then waitForCachedSharedRootfs imageRef polls else pure none).run
        (Missed disk imageRef) := by
      refine Service.Ends.bind_fallible (fun _ world => world.disk = disk)
        (Service.Ends.lift (Service.Ends.perform fun _ same => same)) fun pending => ?_
      split
      · exact ends_wait succeeds miss polls
      · exact Service.Ends.pure fun _ same => ⟨rfl, same⟩
    split
    · rename_i entry hit
      exact absurd hit (miss entry)
    · exact rest world same

theorem achieves_lookup_hit {entry : CacheEntry} (hit : disk.readCacheEntry imageRef = .ok (some entry))
    (polls : Nat) : Achieves pid env (fun now => now = disk) (lookupCachedSharedRootfs imageRef polls)
      fun found now => found = some entry ∧ now = disk := by
  refine Achieves.bind (fun read now => read = .ok (some entry) ∧ now = disk) ?_ fun read => ?_
  · refine Achieves.ask (Service.Ends.perform fun world same => ⟨?_, same⟩)
    simp [host, act, succeeds.works, show world.disk = disk from same, hit]
  · rintro world ⟨rfl, same⟩
    exact ⟨_, rfl, rfl, same⟩

theorem achieves_bundle {read : Except Error (Option BundleEntry)}
    (index : disk.readBundleEntry imageRef = read) :
    Achieves pid env (fun now => now = disk) (ask (lookupPulledBundle imageRef))
      fun found now => found = read.toOption.join ∧ now = disk := by
  refine Achieves.ask (Service.Ends.bind (fun result world => result = read ∧ world.disk = disk) ?_
    fun result => ?_)
  · refine Service.Ends.perform fun world same => ⟨?_, same⟩
    simp [host, act, succeeds.works, show world.disk = disk from same, index]
  · rintro world ⟨rfl, same⟩
    cases result <;> exact ⟨rfl, same⟩

/-- A pull gives the bundle its rootfs. -/
theorem achieves_pull {bundlePath : Path} (names : List Text) (bundles : bundlePath = .shared .bundles names) :
    host.Ends pid env (fun world => Agree disk world.disk) (call (.pullImage imageRef bundlePath))
      fun result world => result = .ok imageId ∧ Ready disk bundlePath world.disk := by
  refine Service.Ends.perform fun world agree => ⟨?_, ?_, ?_⟩
  · simp [host, act, outcome, succeeds.works, succeeds.pulls]
  · refine Agree.trans agree fun path watched => ⟨?_, ?_⟩
    · refine act_files fun touched => ?_
      rw [touched, Disk.bundleConfig, bundles, Path.join] at watched
      exact not_watched_bundles _ watched
    · refine act_dirs fun created => ?_
      rw [created, Disk.bundleRootfs, bundles, Path.join] at watched
      exact not_watched_bundles _ watched
  · simp only [host, act, succeeds.works, Bool.false_eq_true, if_false]
    split <;> exact addDir_dirs_self

/-- The rest of a request after the pull, in which only the preparation counts. -/
def afterPull (reference id : Text) (bundlePath : Path) (clear : Prog Unit) : Fail CacheEntry := do
  let _ ← ask (writeSharedRootfsBundleEntry ⟨reference, id, bundlePath⟩).run
  let entry ← ask (prepareEntryFromBundle reference id bundlePath).run
  ask clear
  attempt (pure entry)

/-- A pulled image is indexed and prepared; how that ends is left open. -/
theorem ends_pullAndPrepare {result : Except Error CacheEntry → World → Prop}
    (rest : ∀ bundlePath clear, Only Aside clear →
      host.Ends pid env (fun world => Ready disk bundlePath world.disk)
        (afterPull imageRef imageId bundlePath clear).run result) :
    host.Ends pid env (fun world => world.disk = disk) (pullAndPrepare imageRef).run result := by
  refine Achieves.andThen (fun now => now = disk) (fun _ now => now = disk) ?_ fun requestId => ?_
  · exact Achieves.ask (Service.Ends.perform fun _ same => same)
  refine Achieves.andThen (fun now => now = disk) (fun _ => Agree disk) ?_ fun _ => ?_
  · refine achieves_createDirAll succeeds ?_
    rintro now rfl
    exact fun path watched => ⟨rfl, addDir_dirs_ne fun same => not_watched_bundles _ (same ▸ watched)⟩
  refine Achieves.andThen (Agree disk) (fun _ => Agree disk) ?_ fun _ => ?_
  · refine achieves_createDirAll succeeds fun now agree => agree.trans ?_
    exact fun path watched => ⟨rfl, addDir_dirs_ne fun same => not_watched_root _ (same ▸ watched)⟩
  refine Achieves.andThen (Agree disk) (fun _ => Agree disk) (Achieves.ask (ends_aside (only_mark _))) fun marked => ?_
  refine Achieves.andThen (Agree disk) (fun pulled now => pulled = .ok imageId ∧
    Ready disk (requestBundlePath imageRef requestId) now) ?_ fun pulled => ?_
  · exact Achieves.ask (achieves_pull succeeds _ rfl)
  rintro world ⟨rfl, ready⟩
  exact rest _ (clearMarked imageRef marked) (clearMarked_cases (only_clear imageRef) trivial marked) world ready

/-- The entry's preparation decides how the rest of a request ends. -/
theorem achieves_afterPull {bundlePath : Path} {clear : Prog Unit} (aside : Only Aside clear)
    (named : imageRef ≠ []) (placed : Placed disk) (missing : disk.readCacheEntry imageRef = .ok none)
    (healable : IdHealable disk imageId (firstFormat available)) :
    Achieves pid env (Ready disk bundlePath) (afterPull imageRef imageId bundlePath clear)
      fun _ now => Entered now imageRef := by
  refine Achieves.bind (fun _ => Ready disk bundlePath) (Achieves.ask ?_) fun _ => ?_
  · exact ends_ready ((only_writeSharedRootfsBundleEntry _).weaken fun _ bundle => bundle.aside)
  refine Achieves.bind (fun result now => ∃ entry : CacheEntry, result = .ok entry ∧ Entered now imageRef)
    (Achieves.ask ?_) fun result => ?_
  · exact (achieves_prepare succeeds named succeeds.named placed missing healable).withContext _ _
  rintro world ⟨entry, rfl, entered⟩
  have clears : Achieves pid env (fun now => Entered now imageRef)
      (ask clear >>= fun _ => attempt (pure (.ok entry))) fun _ now => Entered now imageRef :=
    Achieves.bind (fun _ now => Entered now imageRef) (Achieves.ask (ends_entered aside))
      fun _ => fun now entered => ⟨entry, rfl, entered⟩
  exact clears world entered

theorem fails_afterPull {bundlePath : Path} {clear : Prog Unit} (placed : Placed disk)
    (stuck : (∃ error, disk.readCacheEntry imageRef = .error error) ∨
      disk.readCacheEntry imageRef = .ok none ∧
        (imageRef = [] ∨ ¬ IdHealable disk imageId (firstFormat available))) :
    Fails pid env (Ready disk bundlePath) (afterPull imageRef imageId bundlePath clear) := by
  refine Achieves.fails (fun _ => Ready disk bundlePath) (Achieves.ask ?_) fun _ => ?_
  · exact ends_ready ((only_writeSharedRootfsBundleEntry _).weaken fun _ bundle => bundle.aside)
  refine Achieves.fails (fun result _ => ∃ error : Error, result = .error error) (Achieves.ask ?_)
    fun result => ?_
  · exact (fails_prepare succeeds placed stuck).withContext _ _
  rintro world ⟨error, rfl⟩
  have clears : Fails pid env (fun _ => True)
      (ask clear >>= fun _ => (attempt (pure (.error error)) : Fail CacheEntry)) :=
    Achieves.fails (fun _ _ => True) (Achieves.ask fun _ _ => trivial) fun _ => fun _ _ => ⟨error, rfl⟩
  exact clears world trivial

omit succeeds in
theorem ready_of_eq {bundleDir : Path} {world : World} (same : world.disk = disk)
    (ready : Ready disk bundleDir disk) : Ready disk bundleDir world.disk := by
  rw [same]
  exact ready

omit succeeds in
/-- The index gives bundles that have an image id and a rootfs. -/
theorem bundle_ready {bundle : BundleEntry} (index : disk.readBundleEntry imageRef = .ok (some bundle)) :
    bundle.imageId ≠ [] ∧ Ready disk bundle.bundlePath disk := by
  simp only [Disk.readBundleEntry] at index
  split at index
  · cases index
  · split at index
    · split at index
      · cases index
      · rename_i valid
        cases index
        obtain ⟨_, identified, _, rootfs⟩ := (disk.validateBundleEntry_iff).mp valid
        exact ⟨identified, Agree.refl disk, rootfs⟩
    · cases index

/-- A missing entry that can be had is prepared, from the indexed bundle or from
a fresh pull. -/
theorem achieves_prepareMissingEntry (named : imageRef ≠ []) (placed : Placed disk)
    (missing : disk.readCacheEntry imageRef = .ok none)
    (healable : IdHealable disk (requestImageId disk imageRef imageId) (firstFormat available)) :
    Achieves pid env (fun now => now = disk) (prepareMissingEntry imageRef)
      fun _ now => Entered now imageRef := by
  refine Achieves.bind _ (achieves_bundle succeeds rfl) fun found => ?_
  rintro world ⟨rfl, same⟩
  have pull : requestImageId disk imageRef imageId = imageId →
      Achieves pid env (fun now => now = disk) (pullAndPrepare imageRef) fun _ now => Entered now imageRef := by
    intro id
    rw [id] at healable
    exact ends_pullAndPrepare succeeds fun _ _ aside =>
      achieves_afterPull succeeds aside named placed missing healable
  cases index : disk.readBundleEntry imageRef with
  | error error => exact pull (by simp [requestImageId, index]) world same
  | ok found =>
    cases found with
    | none => exact pull (by simp [requestImageId, index]) world same
    | some bundle =>
      have id : requestImageId disk imageRef imageId = bundle.imageId := by simp [requestImageId, index]
      rw [id] at healable
      obtain ⟨identified, ready⟩ := bundle_ready index
      refine (achieves_prepare succeeds named identified placed missing healable).withContext _ _ world ?_
      exact ready_of_eq same ready

theorem fails_prepareMissingEntry (placed : Placed disk)
    (stuck : (∃ error, disk.readCacheEntry imageRef = .error error) ∨
      disk.readCacheEntry imageRef = .ok none ∧ (imageRef = [] ∨
        ¬ IdHealable disk (requestImageId disk imageRef imageId) (firstFormat available))) :
    Fails pid env (fun now => now = disk) (prepareMissingEntry imageRef) := by
  refine Achieves.fails _ (achieves_bundle succeeds rfl) fun found => ?_
  rintro world ⟨rfl, same⟩
  have pull : requestImageId disk imageRef imageId = imageId →
      Fails pid env (fun now => now = disk) (pullAndPrepare imageRef) := by
    intro id
    rw [id] at stuck
    exact ends_pullAndPrepare succeeds fun _ _ _ => fails_afterPull succeeds placed stuck
  cases index : disk.readBundleEntry imageRef with
  | error error => exact pull (by simp [requestImageId, index]) world same
  | ok found =>
    cases found with
    | none => exact pull (by simp [requestImageId, index]) world same
    | some bundle =>
      have id : requestImageId disk imageRef imageId = bundle.imageId := by simp [requestImageId, index]
      rw [id] at stuck
      refine (fails_prepare succeeds placed stuck).withContext _ _ world ?_
      have ready := (bundle_ready index).2
      exact ready_of_eq same ready

/-- A request for a valid entry, or for a missing one that can be had, leaves a
valid one. -/
theorem achieves_prepareRootfsEntry (polls : Nat) (placed : Placed disk)
    (healable : Healable disk imageRef imageId (firstFormat available)) :
    Achieves pid env (fun now => now = disk) (prepareRootfsEntry imageRef polls)
      fun _ now => Entered now imageRef := by
  cases read : disk.readCacheEntry imageRef with
  | error error => simp [Healable, read] at healable
  | ok found =>
    cases found with
    | some entry =>
      refine Achieves.bind _ (achieves_lookup_hit succeeds read polls) fun found => ?_
      rintro world ⟨rfl, rfl⟩
      obtain ⟨file, stored, data, _⟩ := (Disk.hits_iff _).mp read
      exact ⟨_, rfl, entry, placed _ _ _ stored data, read⟩
    | none =>
      simp only [Healable, read] at healable
      have miss : ∀ entry, disk.readCacheEntry imageRef ≠ .ok (some entry) := by simp [read]
      refine Service.Ends.bind_fallible (fun found world => found = none ∧ world.disk = disk)
        ((ends_lookup succeeds miss polls).consequence (fun _ same => same) ?_) fun found => ?_
      · rintro (error | found) world missed
        · obtain ⟨invalid, contradiction⟩ := missed
          rw [read] at contradiction
          cases contradiction
        · exact missed
      · rintro world ⟨rfl, same⟩
        exact achieves_prepareMissingEntry succeeds healable.1 placed read healable.2 world same

/-- A request that meets an invalid entry, or cannot make a valid one, fails. -/
theorem fails_prepareRootfsEntry (polls : Nat) (placed : Placed disk)
    (stuck : ¬ Healable disk imageRef imageId (firstFormat available)) :
    Fails pid env (fun now => now = disk) (prepareRootfsEntry imageRef polls) := by
  have miss : ∀ entry, disk.readCacheEntry imageRef ≠ .ok (some entry) := by
    intro entry hit
    simp [Healable, hit] at stuck
  have cause : (∃ error, disk.readCacheEntry imageRef = .error error) ∨
      disk.readCacheEntry imageRef = .ok none ∧ (imageRef = [] ∨
        ¬ IdHealable disk (requestImageId disk imageRef imageId) (firstFormat available)) := by
    cases read : disk.readCacheEntry imageRef with
    | error error => exact .inl ⟨error, rfl⟩
    | ok found =>
      cases found with
      | some entry => exact absurd read (miss entry)
      | none =>
        simp only [Healable, read] at stuck
        exact .inr ⟨rfl, or_iff_not_imp_left.mpr fun named healable => stuck ⟨named, healable⟩⟩
  refine Service.Ends.bind_fallible (fun found world => found = none ∧ world.disk = disk)
    ((ends_lookup succeeds miss polls).consequence (fun _ same => same) ?_) fun found => ?_
  · rintro (error | found) world missed
    · exact ⟨error, rfl⟩
    · exact missed
  · rintro world ⟨rfl, same⟩
    exact fails_prepareMissingEntry succeeds placed cause world same

end Serving

/-- After everything succeeds, a request on its own succeeds and leaves an entry
that the next request hits exactly when the store is healable. -/
theorem request_heals_iff (succeeds : Succeeds env imageRef imageId available) (world : World)
    (placed : Placed world.disk) (polls : Nat) :
    ((∃ response, (host.alone pid env (prepareRootfsResponse imageRef polls).run world).1 = .ok response) ∧
      ∃ entry, (host.alone pid env (prepareRootfsResponse imageRef polls).run world).2.disk.Hits
        imageRef entry) ↔
    Healable world.disk imageRef imageId (firstFormat available) := by
  constructor
  · rintro ⟨⟨response, succeeded⟩, _⟩
    by_contra stuck
    have fails : Fails pid env (fun now => now = world.disk) (prepareRootfsResponse imageRef polls) :=
      Fails.bind (fails_prepareRootfsEntry succeeds polls placed stuck)
    obtain ⟨error, failed⟩ := fails world rfl
    rw [failed] at succeeded
    cases succeeded
  · intro healable
    have achieves : Achieves pid env (fun now => now = world.disk) (prepareRootfsResponse imageRef polls)
        fun _ now => Entered now imageRef :=
      Achieves.bind _ (achieves_prepareRootfsEntry succeeds polls placed healable) fun entry =>
        Achieves.pure fun _ entered => entered
    obtain ⟨response, succeeded, entry, _, hits⟩ := achieves world rfl
    exact ⟨⟨response, succeeded⟩, entry, hits⟩

end Request

end GuestComponents.SharedRootfs
