import GuestComponents.SharedRootfs.Footprint

/-! One process with the host to itself, where every operation succeeds. The
rules below follow a program over the disk alone: it achieves a postcondition,
or it fails. They give what writing an entry leaves, and what a build makes of
the place where the image file should be. -/
namespace GuestComponents.SharedRootfs
open Lib Program

/-- From now on every operation succeeds: the registry answers with this image
id, the device creates shares, and commands that write an image write some of it. -/
structure Succeeds (env : World → Op → Choice) (imageRef imageId : Text)
    (available : String → Bool) : Prop where
  works : ∀ world op, (env world op).fails = false
  pulls : ∀ world bundlePath, (env world (.pullImage imageRef bundlePath)).imageId = imageId
  named : imageId ≠ []
  shares : ∀ world imageRef imageId path,
    let share := (env world (.createShare imageRef imageId path)).share
    share.shareId ≠ 0 ∧ share.sourceRdAddr ≠ 0 ∧ share.pageCount ≠ 0
  builds : ∀ world command, (env world (.awaitCommand command)).size ≠ 0
  tools : ∀ world program, (env world (.commandAvailable program)).flag = available program

/-- The first of `rootfs_image_format_candidates`. -/
def firstFormat (available : String → Bool) : RootfsImageFormat :=
  if available "mkfs.erofs" then .erofs else if available "mksquashfs" then .squashfs else .ext4

/-- The image file is there and not empty, or nothing is there. -/
def ImageUsable (disk : Disk) (path : Path) : Prop :=
  match disk.files path with
  | some file => file.size ≠ 0
  | none => disk.isDir path = false

instance (disk : Disk) (path : Path) : Decidable (ImageUsable disk path) := by
  unfold ImageUsable
  split <;> infer_instance

section Undisturbed

variable {pid : Nat} {env : World → Op → Choice} {imageRef imageId : Text}
  {available : String → Bool} {disk : Disk}

variable (pid env) in
/-- From a disk with `pre` the program succeeds, with `post`. -/
def Achieves {α : Type} (pre : Disk → Prop) (program : Fail α) (post : α → Disk → Prop) : Prop :=
  host.Ends pid env (fun world => pre world.disk) program.run
    fun result world => ∃ value, result = .ok value ∧ post value world.disk

variable (pid env) in
/-- From a disk with `pre` the program fails. -/
def Fails {α : Type} (pre : Disk → Prop) (program : Fail α) : Prop :=
  host.Ends pid env (fun world => pre world.disk) program.run fun result _ => ∃ error, result = .error error

section Rules

variable {α β : Type} {pre pre' : Disk → Prop} {middle post : α → Disk → Prop} {first : Fail α}
  {rest : α → Fail β} {final : β → Disk → Prop}

/-- Sequencing after a part that succeeds. -/
theorem Achieves.andThen {result : Except Error β → World → Prop} (pre : Disk → Prop)
    (middle : α → Disk → Prop) (one : Achieves pid env pre first middle)
    (two : ∀ value, host.Ends pid env (fun world => middle value world.disk) (rest value).run result) :
    host.Ends pid env (fun world => pre world.disk) (first >>= rest).run result := by
  refine Service.Ends.bind_fallible _ (one.consequence (fun _ holds => holds) ?_) two
  rintro result world ⟨value, rfl, reached⟩
  exact reached

theorem Achieves.bind (middle : α → Disk → Prop) (one : Achieves pid env pre first middle)
    (two : ∀ value, Achieves pid env (middle value) (rest value) final) :
    Achieves pid env pre (first >>= rest) final := one.andThen pre middle two

theorem Achieves.fails (middle : α → Disk → Prop) (one : Achieves pid env pre first middle)
    (two : ∀ value, Fails pid env (middle value) (rest value)) : Fails pid env pre (first >>= rest) :=
  one.andThen pre middle two

theorem Fails.bind (one : Fails pid env pre first) : Fails pid env pre (first >>= rest) := by
  refine Service.Ends.bind _ one fun result => ?_
  rintro world ⟨error, rfl⟩
  exact ⟨error, rfl⟩

theorem Achieves.weaken (one : Achieves pid env pre first middle) (before : ∀ disk, pre' disk → pre disk)
    (after : ∀ value disk, middle value disk → post value disk) : Achieves pid env pre' first post := by
  refine one.consequence (fun world => before world.disk) ?_
  rintro result world ⟨value, rfl, reached⟩
  exact ⟨value, rfl, after value _ reached⟩

theorem Achieves.pure {value : α} (reached : ∀ disk, pre disk → post value disk) :
    Achieves pid env pre (Pure.pure value) post :=
  fun world holds => ⟨value, rfl, reached world.disk holds⟩

/-- A part whose result is looked at rather than passed on. -/
theorem Achieves.ask {program : Prog α} (ends : host.Ends pid env (fun world => pre world.disk) program
    fun value world => post value world.disk) : Achieves pid env pre (ask program) post :=
  Service.Ends.lift (ends.consequence (fun _ holds => holds) fun value _ reached => ⟨value, rfl, reached⟩)

theorem Achieves.withContext (one : Achieves pid env pre first post) (message : String) (path : Path) :
    Achieves pid env pre (SharedRootfs.withContext message path first) post := by
  refine Service.Ends.bind _ one fun result => ?_
  rintro world ⟨value, rfl, reached⟩
  exact ⟨value, rfl, reached⟩

theorem Fails.withContext (one : Fails pid env pre first) (message : String) (path : Path) :
    Fails pid env pre (SharedRootfs.withContext message path first) := by
  refine Service.Ends.bind _ one fun result => ?_
  rintro world ⟨error, rfl⟩
  exact ⟨_, rfl⟩

end Rules

/-- Operations that do not touch a file leave it. -/
theorem ends_untouched {α : Type} {program : Prog α} {path : Path} {file : Option File}
    (only : Only (fun op => ¬ op.touches path) program) :
    host.Ends pid env (fun world => world.disk.files path = file) program
      fun _ world => world.disk.files path = file :=
  Service.Ends.only only fun _ _ untouched found => (act_files untouched).trans found

section Operations

variable (succeeds : Succeeds env imageRef imageId available) {pre post : Disk → Prop}

include succeeds

theorem achieves_read {site : Site} {key : Text} (found : Option CacheEntry)
    (reads : ∀ disk, pre disk → disk.readCacheEntry key = .ok found) :
    Achieves pid env pre (readSharedRootfsCacheEntry site key) fun value disk => value = found ∧ pre disk := by
  refine Service.Ends.perform fun world holds => ⟨found, ?_, rfl, holds⟩
  simp [host, act, succeeds.works, reads _ holds]

theorem fails_read {site : Site} {key : Text} (error : Error)
    (reads : ∀ disk, pre disk → disk.readCacheEntry key = .error error) :
    Fails pid env pre (readSharedRootfsCacheEntry site key) := by
  refine Service.Ends.perform fun world holds => ⟨error, ?_⟩
  simp [host, act, succeeds.works, reads _ holds]

theorem achieves_createDirAll {path : Path} (reached : ∀ disk, pre disk → post (disk.addDir path)) :
    Achieves pid env pre (attempt (call (.createDirAll path))) fun _ => post := by
  refine Service.Ends.perform fun world holds => ⟨(), ?_⟩
  simp only [host, act, succeeds.works, outcome]
  exact ⟨rfl, reached _ holds⟩

theorem achieves_writeFile {path : Path} {data : FileData}
    (reached : ∀ disk size modified, pre disk → post (disk.put path ⟨data, size, modified⟩)) :
    Achieves pid env pre (attempt (call (.writeFile path data))) fun _ => post := by
  refine Service.Ends.perform fun world holds => ⟨(), ?_⟩
  simp only [host, act, succeeds.works, outcome]
  exact ⟨rfl, reached _ _ _ holds⟩

theorem achieves_rename {source target : Path} (reached : ∀ disk, pre disk →
    ∃ file, disk.files source = some file ∧ post ((disk.drop source).put target file)) :
    Achieves pid env pre (attempt (call (.rename source target))) fun _ => post := by
  refine Service.Ends.perform fun world holds => ⟨(), ?_⟩
  obtain ⟨file, found, after⟩ := reached _ holds
  simp only [host, act, succeeds.works, outcome, found]
  exact ⟨rfl, after⟩

end Operations

/-- The images directory's files are those of the first disk, and the entry is
held under these keys. -/
structure Wrote (disk : Disk) (entry : CacheEntry) (keys : Text → Prop) (after : Disk) : Prop where
  images : ∀ name, after.files (.shared .images [name]) = disk.files (.shared .images [name])
  held : ∀ key, keys key → ∃ file, after.files (cachePath key cacheFileSuffix) = some file ∧
    file.data = .cacheEntry entry

section Writing

variable {entry : CacheEntry} {keys : Text → Prop} {after : Disk} {file : File}

theorem Wrote.put_tmp (wrote : Wrote disk entry keys after) (key : Text) :
    Wrote disk entry keys (after.put (cacheTmpPath key) file) := by
  refine ⟨fun name => ?_, fun other held => ?_⟩
  · rw [put_files_ne (by simp [cacheTmpPath]), wrote.images]
  · obtain ⟨old, found, data⟩ := wrote.held other held
    exact ⟨old, by rw [put_files_ne (tmp_ne_entry key other), found], data⟩

theorem Wrote.rename (wrote : Wrote disk entry keys after) (key : Text)
    (data : file.data = .cacheEntry entry) :
    Wrote disk entry (fun other => other = key ∨ keys other)
      ((after.drop (cacheTmpPath key)).put (cachePath key cacheFileSuffix) file) := by
  refine ⟨fun name => ?_, fun other held => ?_⟩
  · rw [put_files_ne (by simp [cachePath]), drop_files_ne (by simp [cacheTmpPath]), wrote.images]
  · by_cases same : cachePath other cacheFileSuffix = cachePath key cacheFileSuffix
    · exact ⟨file, by rw [same, put_files_self], data⟩
    · have kept : keys other := held.resolve_left fun equal => same (by rw [equal])
      obtain ⟨old, found, oldData⟩ := wrote.held other kept
      refine ⟨old, ?_, oldData⟩
      rw [put_files_ne same, drop_files_ne (tmp_ne_entry key other), found]

/-- Writing an entry for one more key. -/
theorem achieves_writeCacheEntryForKey (succeeds : Succeeds env imageRef imageId available) (key : Text) :
    Achieves pid env (Wrote disk entry keys) (writeCacheEntryForKey key entry)
      fun _ => Wrote disk entry fun other => other = key ∨ keys other := by
  refine Achieves.bind (fun _ => Wrote disk entry keys) ?_ fun _ => ?_
  · exact achieves_createDirAll succeeds fun _ wrote => ⟨wrote.images, wrote.held⟩
  · refine Achieves.bind (fun _ after => Wrote disk entry keys after ∧
      ∃ file, after.files (cacheTmpPath key) = some file ∧ file.data = .cacheEntry entry) ?_ fun _ => ?_
    · exact achieves_writeFile succeeds fun after size modified wrote =>
        ⟨wrote.put_tmp key, _, put_files_self, rfl⟩
    · refine achieves_rename succeeds ?_
      rintro after ⟨wrote, file, found, data⟩
      exact ⟨file, found, wrote.rename key data⟩

/-- A valid entry over an image of the images directory is written so that the
reference hits it. -/
theorem achieves_writeSharedRootfsCacheEntry (succeeds : Succeeds env imageRef imageId available)
    {pre : Disk → Prop} {name : Text} (placed : entry.rootfsImagePath = .shared .images [name])
    (valid : ∀ disk, pre disk → disk.validateCacheEntry entry = .ok ()) :
    Achieves pid env pre (writeSharedRootfsCacheEntry entry)
      fun _ after => after.Hits entry.imageRef entry := by
  intro world holds
  have hits : ∀ after, Wrote world.disk entry (fun other => other = entry.imageRef) after →
      after.Hits entry.imageRef entry := by
    intro after wrote
    obtain ⟨file, found, data⟩ := wrote.held _ rfl
    have same : after.files entry.rootfsImagePath = world.disk.files entry.rootfsImagePath := by
      rw [placed]
      exact wrote.images name
    have still : after.validateCacheEntry entry = .ok () := by
      rw [Disk.validateCacheEntry_same _ same]
      exact valid _ holds
    exact (after.hits_iff).mpr ⟨file, found, data, still⟩
  have writes : Achieves pid env (fun now => now = world.disk) (writeSharedRootfsCacheEntry entry)
      fun _ after => Wrote world.disk entry (fun other => other = entry.imageRef) after := by
    refine Achieves.bind (fun _ => Wrote world.disk entry fun _ => False) ?_ fun _ => ?_
    · refine Service.Ends.perform fun now (same : now.disk = world.disk) => ?_
      have valid' : now.disk.validateCacheEntry entry = .ok () := by rw [same]; exact valid _ holds
      exact ⟨(), valid', fun name => by rw [← same]; rfl, fun _ impossible => impossible.elim⟩
    · refine Achieves.bind _ (achieves_writeCacheEntryForKey succeeds entry.imageRef) fun _ => ?_
      split
      · refine (achieves_writeCacheEntryForKey succeeds entry.imageId).weaken (fun _ wrote => wrote) ?_
        exact fun _ after wrote => ⟨wrote.images, fun key same => wrote.held key (.inr (.inl same))⟩
      · exact Achieves.pure fun after wrote =>
          ⟨wrote.images, fun key same => wrote.held key (.inl same)⟩
  obtain ⟨value, succeeded, wrote⟩ := writes world rfl
  exact ⟨value, succeeded, hits _ wrote⟩

theorem fails_writeSharedRootfsCacheEntry {pre : Disk → Prop}
    (invalid : ∀ disk, pre disk → ∃ error, disk.validateCacheEntry entry = .error error) :
    Fails pid env pre (writeSharedRootfsCacheEntry entry) :=
  Fails.bind (Service.Ends.perform fun _ holds => invalid _ holds)

end Writing

section Building

variable (succeeds : Succeeds env imageRef imageId available) {pre post : Disk → Prop}
  {name : Text} {file : File}

include succeeds

theorem achieves_startCommand {command : Command}
    (reached : ∀ disk choice, pre disk → post (command.opens pid disk choice)) :
    Achieves pid env pre (attempt (call (.startCommand command))) fun _ => post := by
  refine Service.Ends.perform fun world holds => ⟨(), ?_⟩
  simp only [host, act, succeeds.works, outcome]
  exact ⟨rfl, reached _ _ holds⟩

theorem achieves_awaitCommand {command : Command} (reached : ∀ disk choice, choice.fails = false →
    choice.size ≠ 0 → pre disk → post (command.closes pid disk choice)) :
    Achieves pid env pre (attempt (call (.awaitCommand command))) fun _ => post := by
  refine Service.Ends.perform fun world holds => ⟨(), ?_⟩
  refine ⟨by simp [host, act, outcome, succeeds.works], ?_⟩
  exact reached _ _ (succeeds.works _ _) (succeeds.builds _ _) holds

theorem achieves_metadata {path : Path} (found : ∀ disk, pre disk → disk.files path = some file) :
    Achieves pid env pre (attempt (call (.metadata path)))
      fun stat disk => stat = (file.size, file.modified) ∧ pre disk := by
  refine Service.Ends.perform fun world holds => ⟨(file.size, file.modified), ?_, rfl, holds⟩
  simp [host, act, outcome, succeeds.works, found _ holds]

/-- Hashing an image file leaves it as it is. -/
theorem achieves_digestIf {hashImage : Bool} {size modified : Nat} :
    Achieves pid env (fun disk => disk.files (.shared .images [name]) = some file)
      (digestIf hashImage (.shared .images [name]) size modified)
      fun _ disk => disk.files (.shared .images [name]) = some file := by
  have sidecar : Path.shared .images [name] ≠ rootfsDigestSidecarPath (.shared .images [name]) := by
    simp [rootfsDigestSidecarPath, fileName]
  have tmp : Path.shared .images [name] ≠
      sidecarTmpPath (rootfsDigestSidecarPath (.shared .images [name])) := by
    simp [rootfsDigestSidecarPath, sidecarTmpPath, fileName]
  unfold digestIf
  split
  · refine Achieves.bind (fun _ disk => disk.files (.shared .images [name]) = some file) ?_ fun known => ?_
    · refine Service.Ends.perform fun world holds => ?_
      simp only [host, act, outcome, succeeds.works]
      split <;> exact ⟨_, rfl, holds⟩
    · split
      · exact Achieves.pure fun _ holds => holds
      · refine Achieves.bind (fun _ disk => disk.files (.shared .images [name]) = some file) ?_ fun sha256 => ?_
        · refine Service.Ends.perform fun world holds => ?_
          have present : world.disk.isFile (.shared .images [name]) = true := by
            simp [Disk.isFile, show world.disk.files (.shared .images [name]) = some file from holds]
          simp only [host, act, outcome, succeeds.works, present]
          exact ⟨_, rfl, holds⟩
        · refine Achieves.bind (fun _ disk => disk.files (.shared .images [name]) = some file ∧
            ∃ written, disk.files (sidecarTmpPath (rootfsDigestSidecarPath (.shared .images [name]))) =
              some written) ?_ fun _ => ?_
          · exact achieves_writeFile succeeds fun disk _ _ holds =>
              ⟨by rw [put_files_ne tmp]; exact holds, _, put_files_self⟩
          · refine Achieves.bind (fun _ disk => disk.files (.shared .images [name]) = some file) ?_
              fun _ => Achieves.pure fun _ holds => holds
            refine achieves_rename succeeds ?_
            rintro disk ⟨holds, written, found⟩
            exact ⟨written, found, by rw [put_files_ne sidecar, drop_files_ne tmp]; exact holds⟩
  · exact Achieves.pure fun _ holds => holds

/-- A command that writes a whole image makes a complete file that is not empty. -/
theorem achieves_writesImage {command : Command}
    (whole : ∀ disk choice, command.opens pid disk choice =
      disk.put command.outputImage ⟨.image (.growing pid), 0, choice.modified⟩)
    (sized : ∀ choice file, file.data = .image (.growing pid) →
      (command.finished pid choice file).size = choice.size) :
    Achieves pid env (fun _ => True) (runCommand command)
      fun _ disk => ∃ file, disk.files command.outputImage = some file ∧ file.size ≠ 0 := by
  refine Achieves.bind (fun _ disk => ∃ modified, disk.files command.outputImage =
    some ⟨.image (.growing pid), 0, modified⟩) ?_ fun _ => ?_
  · exact achieves_startCommand succeeds fun disk choice _ =>
      ⟨choice.modified, by rw [whole, put_files_self]⟩
  · refine achieves_awaitCommand succeeds ?_
    rintro disk choice works written ⟨modified, found⟩
    rw [closes_success works found]
    exact ⟨_, put_files_self, by rw [sized _ _ rfl]; exact written⟩

/-- Every format's build makes an image file that is not empty. -/
theorem achieves_buildImage {options : BuildRootfsImageOptions} :
    Achieves pid env (fun _ => True) (buildImage options)
      fun _ disk => ∃ file, disk.files options.outputImage = some file ∧ file.size ≠ 0 := by
  unfold buildImage
  split
  · refine Achieves.bind (fun _ _ => True) ?_ fun preserveXattrs => ?_
    · exact Achieves.ask (Service.Ends.perform fun _ _ => trivial)
    · refine Achieves.withContext ?_ _ _
      exact achieves_writesImage succeeds (fun _ _ => rfl)
        fun choice file growing => by simp [Command.finished, growing]
  · exact achieves_writesImage succeeds (fun _ _ => rfl)
      fun choice file growing => by simp [Command.finished, growing]
  · refine Achieves.bind (fun sizeMb _ => sizeMb ≠ 0) ?_ fun sizeMb => ?_
    · refine Achieves.bind (fun _ _ => True) ?_ fun contentSize => ?_
      · refine Service.Ends.perform fun world _ => ?_
        simp only [host, act, outcome, succeeds.works]
        exact ⟨_, rfl, trivial⟩
      · refine Achieves.pure fun _ _ => ?_
        omega
    · refine Achieves.bind (fun _ disk => ∃ modified, disk.files options.outputImage =
        some ⟨.image (.growing pid), sizeMb * 1048576, modified⟩ ∧ sizeMb ≠ 0) ?_ fun _ => ?_
      · refine Achieves.bind (fun _ disk => ∃ modified, disk.files options.outputImage =
          some ⟨.image (.growing pid), 0, modified⟩ ∧ sizeMb ≠ 0) ?_ fun _ => ?_
        · exact achieves_startCommand succeeds fun disk choice sized =>
            ⟨choice.modified, put_files_self, sized⟩
        · refine achieves_awaitCommand succeeds ?_
          rintro disk choice works _ ⟨modified, found, sized⟩
          rw [closes_success works found]
          exact ⟨choice.modified, put_files_self.trans (by simp [Command.finished]), sized⟩
      · refine Achieves.bind (fun _ disk => ∃ modified, disk.files options.outputImage =
          some ⟨.image (.growing pid), sizeMb * 1048576, modified⟩ ∧ sizeMb ≠ 0) ?_ fun _ => ?_
        · refine achieves_startCommand succeeds ?_
          rintro disk choice ⟨modified, found, sized⟩
          simp only [Command.opens, found]
          exact ⟨choice.modified, put_files_self, sized⟩
        · refine achieves_awaitCommand succeeds ?_
          rintro disk choice works _ ⟨modified, found, sized⟩
          rw [closes_success works found]
          refine ⟨_, put_files_self, ?_⟩
          simp [Command.finished, sized]

/-- A build where no image file is makes one, and it is not empty. -/
theorem achieves_buildRootfsImage {options : BuildRootfsImageOptions}
    (output : options.outputImage = .shared .images [name]) :
    Achieves pid env (fun disk => disk.isDir options.rootfsDir = true ∧
        disk.files (.shared .images [name]) = none ∧ disk.isDir (.shared .images [name]) = false)
      (buildRootfsImage imagesDir options)
      fun info disk => info.path = .shared .images [name] ∧ info.size ≠ 0 ∧
        ∃ file, disk.files (.shared .images [name]) = some file ∧ file.size = info.size := by
  refine Achieves.bind (fun present disk => present = true ∧ disk.files (.shared .images [name]) = none ∧
      disk.isDir (.shared .images [name]) = false) ?_ fun present => ?_
  · exact Achieves.ask (Service.Ends.perform fun world holds => holds)
  · by_cases there : present = true
    · subst there
      rw [if_pos rfl]
      refine Achieves.bind (fun _ disk => disk.files (.shared .images [name]) = none ∧
        disk.isDir (.shared .images [name]) = false) ?_ fun _ => ?_
      · refine achieves_createDirAll succeeds ?_
        rintro disk ⟨_, absent, noDir⟩
        exact ⟨absent, (addDir_dirs_ne (by simp [imagesDir])).trans noDir⟩
      · refine Achieves.bind (fun _ _ => True) ?_ fun _ => ?_
        · refine Achieves.bind (fun old _ => old = false) ?_ fun old => ?_
          · refine Achieves.ask (Service.Ends.perform ?_)
            rintro world ⟨absent, noDir⟩
            simp [host, act, output, Disk.pathExists, Disk.isFile, absent, noDir]
          · by_cases none : old = true
            · intro world absent
              rw [none] at absent
              cases absent
            · rw [if_neg none]
              exact Achieves.pure fun _ _ => trivial
        · refine Achieves.bind (fun _ _ => True) ?_ fun _ => ?_
          · exact Achieves.ask (Service.Ends.perform fun _ _ => trivial)
          · refine Achieves.bind _ (achieves_buildImage succeeds) fun _ => ?_
            rintro world ⟨file, built, sized⟩
            rw [output] at built ⊢
            have measured : Achieves pid env (fun disk => disk.files (.shared .images [name]) = some file)
                (attempt (call (.metadata (.shared .images [name]))) >>= fun stat => do
                  let sha256 ← digestIf options.hashImage (.shared .images [name]) stat.1 stat.2
                  pure (⟨.shared .images [name], options.format, stat.1, sha256⟩ : RootfsImageInfo))
                fun info disk => info.path = .shared .images [name] ∧ info.size ≠ 0 ∧
                  ∃ file, disk.files (.shared .images [name]) = some file ∧ file.size = info.size := by
              refine Achieves.bind _ (achieves_metadata succeeds fun _ found => found) fun stat => ?_
              refine Achieves.bind (fun _ disk => stat = (file.size, file.modified) ∧
                disk.files (.shared .images [name]) = some file) ?_ fun sha256 => ?_
              · intro now holds
                obtain ⟨same, found⟩ := holds
                obtain ⟨value, succeeded, still⟩ := achieves_digestIf succeeds now found
                exact ⟨value, succeeded, same, still⟩
              · refine Achieves.pure ?_
                rintro disk ⟨rfl, found⟩
                exact ⟨rfl, sized, file, found, rfl⟩
            exact measured world built
    · intro world holds
      exact absurd holds.1 there

/-- An image that is there is taken with the size it has. -/
theorem achieves_reuse {rootfsDir : Path} {safeImageId : Text} {format : RootfsImageFormat}
    {formats : List RootfsImageFormat} :
    Achieves pid env (fun disk => disk.files (imagePath imagesDir safeImageId format) = some file)
      (prepareFormats rootfsDir imagesDir safeImageId (format :: formats))
      fun info disk => info.path = imagePath imagesDir safeImageId format ∧ info.size = file.size ∧
        disk.files (imagePath imagesDir safeImageId format) = some file := by
  refine Achieves.bind (fun present disk => present = true ∧
    disk.files (imagePath imagesDir safeImageId format) = some file) ?_ fun present => ?_
  · refine Achieves.ask (Service.Ends.perform fun world found => ⟨?_, found⟩)
    simp [host, act, Disk.pathExists, Disk.isFile,
      show world.disk.files (imagePath imagesDir safeImageId format) = some file from found]
  · by_cases there : present = true
    · subst there
      rw [if_pos rfl]
      refine Achieves.bind _ (achieves_metadata succeeds fun _ holds => holds.2) fun stat => ?_
      refine Achieves.bind (fun _ disk => stat.1 = file.size ∧
        disk.files (imagePath imagesDir safeImageId format) = some file) ?_ fun hashImage => ?_
      · refine Achieves.ask (Service.Ends.perform ?_)
        rintro world ⟨rfl, _, found⟩
        exact ⟨rfl, found⟩
      · refine Achieves.bind (fun _ disk => stat.1 = file.size ∧
          disk.files (imagePath imagesDir safeImageId format) = some file) ?_ fun sha256 => ?_
        · intro world holds
          obtain ⟨value, succeeded, still⟩ := achieves_digestIf succeeds world holds.2
          exact ⟨value, succeeded, holds.1, still⟩
        · exact Achieves.pure fun _ holds => ⟨rfl, holds⟩
    · intro world holds
      exact absurd holds.1 there

/-- A usable image path ends as an image of the size the result names. -/
theorem achieves_prepareFormats {rootfsDir : Path} {safeImageId : Text} {format : RootfsImageFormat}
    {formats : List RootfsImageFormat} :
    Achieves pid env (fun disk => disk.isDir rootfsDir = true ∧
        ImageUsable disk (imagePath imagesDir safeImageId format))
      (prepareFormats rootfsDir imagesDir safeImageId (format :: formats))
      fun info disk => info.path = imagePath imagesDir safeImageId format ∧ info.size ≠ 0 ∧
        ∃ file, disk.files (imagePath imagesDir safeImageId format) = some file ∧
          file.size = info.size := by
  rintro world ⟨rootfs, usable⟩
  unfold ImageUsable at usable
  split at usable
  · rename_i file found
    obtain ⟨info, succeeded, path, size, still⟩ := achieves_reuse succeeds world found
    exact ⟨info, succeeded, path, by rw [size]; exact usable, file, still, size.symm⟩
  · rename_i absent
    have builds : Achieves pid env (fun disk => disk.isDir rootfsDir = true ∧
        disk.files (imagePath imagesDir safeImageId format) = none ∧
        disk.isDir (imagePath imagesDir safeImageId format) = false)
      (prepareFormats rootfsDir imagesDir safeImageId (format :: formats))
      fun info disk => info.path = imagePath imagesDir safeImageId format ∧ info.size ≠ 0 ∧
        ∃ file, disk.files (imagePath imagesDir safeImageId format) = some file ∧
          file.size = info.size := by
      refine Achieves.bind (fun present disk => present = false ∧ disk.isDir rootfsDir = true ∧
        disk.files (imagePath imagesDir safeImageId format) = none ∧
        disk.isDir (imagePath imagesDir safeImageId format) = false) ?_ fun present => ?_
      · refine Achieves.ask (Service.Ends.perform ?_)
        rintro now ⟨rootfs, absent, noDir⟩
        refine ⟨?_, rootfs, absent, noDir⟩
        simp [host, act, Disk.pathExists, Disk.isFile, absent, noDir]
      · by_cases there : present = true
        · subst there
          intro now holds
          cases holds.1
        · rw [if_neg there]
          refine Achieves.bind (fun _ disk => disk.isDir rootfsDir = true ∧
            disk.files (imagePath imagesDir safeImageId format) = none ∧
            disk.isDir (imagePath imagesDir safeImageId format) = false) ?_ fun hashImage => ?_
          · exact Achieves.ask (Service.Ends.perform fun _ holds => holds.2)
          · have built : Achieves pid env _ (buildRootfsImage imagesDir
                (.forFormat format rootfsDir (imagePath imagesDir safeImageId format) hashImage)) _ :=
              achieves_buildRootfsImage succeeds
                (show _ = Path.shared .images [fileName safeImageId format.asFsType] from rfl)
            refine Achieves.bind (fun result disk => ∃ info : RootfsImageInfo, result = .ok info ∧
              info.path = imagePath imagesDir safeImageId format ∧ info.size ≠ 0 ∧
              ∃ file, disk.files (imagePath imagesDir safeImageId format) = some file ∧
                file.size = info.size) (Achieves.ask built) fun result => ?_
            rintro now ⟨info, rfl, reached⟩
            exact ⟨info, rfl, reached⟩
    exact builds world ⟨rootfs, absent, usable⟩

omit succeeds in
/-- A directory in the image's place is taken for an image that is there. -/
theorem ends_directory {rootfsDir : Path} {safeImageId : Text} {format : RootfsImageFormat}
    {formats : List RootfsImageFormat} :
    host.Ends pid env (fun world => world.disk.isDir (imagePath imagesDir safeImageId format) = true ∧
        world.disk.files (imagePath imagesDir safeImageId format) = none)
      (prepareFormats rootfsDir imagesDir safeImageId (format :: formats)).run
      fun result world => (∀ info, result = .ok info → info.path = imagePath imagesDir safeImageId format) ∧
        world.disk.files (imagePath imagesDir safeImageId format) = none := by
  have failed : ∀ error : Error, ∀ info : RootfsImageInfo, Except.error error = .ok info →
      info.path = imagePath imagesDir safeImageId format := fun _ _ same => by cases same
  have sidecar : imagePath imagesDir safeImageId format ≠
      rootfsDigestSidecarPath (imagePath imagesDir safeImageId format) := by
    simp [imagePath, imagesDir, Path.join, rootfsDigestSidecarPath, fileName]
  have tmp : imagePath imagesDir safeImageId format ≠
      sidecarTmpPath (rootfsDigestSidecarPath (imagePath imagesDir safeImageId format)) := by
    simp [imagePath, imagesDir, Path.join, rootfsDigestSidecarPath, sidecarTmpPath, fileName]
  have hashes : ∀ hashImage size modified, Only (fun op => ¬ op.touches (imagePath imagesDir safeImageId format))
      (digestIf hashImage (imagePath imagesDir safeImageId format) size modified).run := by
    intro hashImage size modified
    have others : Only (ImageOp fun path => path ≠ imagePath imagesDir safeImageId format)
        (digestIf hashImage (imagePath imagesDir safeImageId format) size modified).run :=
      only_digestIf (Ne.symm sidecar) (Ne.symm tmp)
    exact others.weaken fun op image touched => image.touches touched rfl
  refine Service.Ends.bind_fallible (fun present world => present = true ∧
    world.disk.files (imagePath imagesDir safeImageId format) = none) ?_ fun present => ?_
  · refine Service.Ends.lift (Service.Ends.perform ?_)
    rintro world ⟨directory, absent⟩
    exact ⟨by simp [host, act, Disk.pathExists, directory], absent⟩
  · by_cases there : present = true
    · subst there
      rw [if_pos rfl]
      refine Service.Ends.bind_fallible (fun _ world =>
        world.disk.files (imagePath imagesDir safeImageId format) = none) ?_ fun stat => ?_
      · refine Service.Ends.perform fun world holds => ?_
        split
        · exact holds.2
        · exact ⟨failed _, holds.2⟩
      · refine Service.Ends.bind_fallible (fun _ world =>
          world.disk.files (imagePath imagesDir safeImageId format) = none) ?_ fun hashImage => ?_
        · exact Service.Ends.lift (Service.Ends.perform fun _ holds => holds)
        · refine Service.Ends.bind_fallible (fun _ world =>
            world.disk.files (imagePath imagesDir safeImageId format) = none) ?_ fun sha256 => ?_
          · refine (ends_untouched (hashes hashImage stat.1 stat.2)).consequence (fun _ holds => holds) ?_
            intro result world holds
            split
            · exact holds
            · exact ⟨failed _, holds⟩
          · exact fun world holds => ⟨fun info same => by cases same; rfl, holds⟩
    · intro world holds
      exact absurd holds.1 there

/-- An image path that is not usable gives no image that an entry could name. -/
theorem ends_unusable {rootfsDir : Path} {safeImageId : Text} {format : RootfsImageFormat}
    {formats : List RootfsImageFormat} :
    host.Ends pid env (fun world => ¬ ImageUsable world.disk (imagePath imagesDir safeImageId format))
      (prepareFormats rootfsDir imagesDir safeImageId (format :: formats)).run
      fun result world => ∀ info, result = .ok info →
        info.path = imagePath imagesDir safeImageId format ∧
        (info.size = 0 ∨ world.disk.files (imagePath imagesDir safeImageId format) = none) := by
  intro world unusable
  unfold ImageUsable at unusable
  split at unusable
  · rename_i file found
    obtain ⟨info, succeeded, path, size, still⟩ := achieves_reuse succeeds world found
    rw [not_not] at unusable
    intro other same
    cases succeeded.symm.trans same
    exact ⟨path, .inl (size.trans unusable)⟩
  · rename_i absent
    rw [Bool.not_eq_false] at unusable
    obtain ⟨path, still⟩ := ends_directory world ⟨unusable, absent⟩
    exact fun info same => ⟨path info same, .inr still⟩

theorem achieves_candidates (pre : Disk → Prop) :
    Achieves pid env pre (ask rootfsImageFormatCandidates)
      fun formats disk => (∃ rest, formats = firstFormat available :: rest) ∧ pre disk := by
  refine Achieves.ask ?_
  refine Service.Ends.bind (fun erofs world => erofs = available "mkfs.erofs" ∧ pre world.disk) ?_
    fun erofs => ?_
  · exact Service.Ends.perform fun world holds => ⟨succeeds.tools _ _, holds⟩
  · refine Service.Ends.bind (fun squashfs world => squashfs = available "mksquashfs" ∧
      erofs = available "mkfs.erofs" ∧ pre world.disk) ?_ fun squashfs => ?_
    · exact Service.Ends.perform fun world holds => ⟨succeeds.tools _ _, holds⟩
    · rintro world ⟨rfl, rfl, holds⟩
      refine ⟨?_, holds⟩
      unfold firstFormat
      by_cases erofs : available "mkfs.erofs" = true
      · exact ⟨_, by simp only [erofs, if_true]; rfl⟩
      · by_cases squashfs : available "mksquashfs" = true
        · exact ⟨_, by simp only [erofs, squashfs, if_true]; rfl⟩
        · exact ⟨_, by simp only [erofs, squashfs]; rfl⟩

/-- The image of a usable path, in the format a build would try first. -/
theorem achieves_prepareSharedRootfsImage {rootfsDir : Path} {safeImageId : Text} :
    Achieves pid env (fun disk => disk.isDir rootfsDir = true ∧
        ImageUsable disk (imagePath imagesDir safeImageId (firstFormat available)))
      (prepareSharedRootfsImage rootfsDir imagesDir safeImageId)
      fun info disk => info.path = imagePath imagesDir safeImageId (firstFormat available) ∧
        info.size ≠ 0 ∧ ∃ file, disk.files info.path = some file ∧ file.size = info.size := by
  refine Achieves.bind _ (achieves_candidates succeeds _) fun formats => ?_
  rintro world ⟨⟨rest, rfl⟩, holds⟩
  obtain ⟨info, succeeded, path, size, file, found, sized⟩ := achieves_prepareFormats succeeds world holds
  exact ⟨info, succeeded, path, size, file, by rw [path]; exact found, sized⟩

theorem ends_prepareUnusable {rootfsDir : Path} {safeImageId : Text} :
    host.Ends pid env (fun world => ¬ ImageUsable world.disk
        (imagePath imagesDir safeImageId (firstFormat available)))
      (prepareSharedRootfsImage rootfsDir imagesDir safeImageId).run
      fun result world => ∀ info, result = .ok info →
        info.size = 0 ∨ world.disk.files info.path = none := by
  refine Service.Ends.bind_fallible (fun formats world =>
    (∃ rest, formats = firstFormat available :: rest) ∧ ¬ ImageUsable world.disk
      (imagePath imagesDir safeImageId (firstFormat available))) ?_ fun formats => ?_
  · refine (achieves_candidates succeeds fun disk => ¬ ImageUsable disk
      (imagePath imagesDir safeImageId (firstFormat available))).consequence (fun _ holds => holds) ?_
    rintro result world ⟨value, rfl, reached⟩
    exact reached
  · rintro world ⟨⟨rest, rfl⟩, unusable⟩
    intro info same
    obtain ⟨path, empty⟩ := ends_unusable succeeds world unusable info same
    rw [path]
    exact empty

end Building

end Undisturbed

end GuestComponents.SharedRootfs
