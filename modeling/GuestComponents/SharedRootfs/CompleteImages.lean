import GuestComponents.SharedRootfs.History

/-! Concurrent preparations of image files in one directory. A call reuses a file
because it exists, and a build writes to the file's final path, so what a call
reports is complete only while no call looks for a file that another is
building, and builds that fail or die leave no file (`served_images_complete`). -/
namespace GuestComponents.SharedRootfs.CompleteImages
open Lib Program

/-- What an event says of its process's build: it now builds the image at a path,
or builds none. The build at a path begins where the path is found free; it ends
with its last command, when a command fails, at a reply and at a death. -/
def buildStage : Event → Option (Option Path)
  | .did _ (.pathExists path) found => some (if found then none else some path)
  | .did _ (.awaitCommand (.truncate _ _)) (.ok _) => none
  | .did _ (.awaitCommand _) _ => some none
  | .did _ (.reply _) _ => some none
  | .died _ => some none
  | _ => none

/-- The path of the image that a process is building. -/
def building (pid : Nat) : List Event → Option Path
  | [] => none
  | event :: history =>
    if event.pid = pid then (buildStage event).getD (building pid history) else building pid history

def Building (pid : Nat) (path : Path) (history : List Event) : Prop := building pid history = some path

variable (directory : Path)

def IsImage (path : Path) : Prop := ∃ safeImageId format, path = imagePath directory safeImageId format

/-- The directory is the root filesystem of a call for this image id. -/
def Source (safeImageId : Text) (source : Path) (history : List Event) : Prop :=
  ∃ pid imageRef, .began pid (.prepareImage source directory safeImageId imageRef) ∈ history

/-- The file is the output of a build of this source that ran to completion. -/
def Complete (disk : Disk) (path source : Path) : Prop :=
  ∃ file, disk.files path = some file ∧ file.data = .image (.complete source)

/-- Nobody is building the image, and it is complete. -/
def Settled (world : World) (path source : Path) : Prop :=
  Complete world.disk path source ∧ ∀ pid, ¬ Building pid path world.history

/-- The successful replies. -/
def servedImage : Event → Option (Nat × RootfsImageInfo)
  | .did pid (.reply (.image (.ok info))) _ => some (pid, info)
  | _ => none

def servedImages (history : List Event) : List (Nat × RootfsImageInfo) := history.filterMap servedImage

/-- The reply names a complete image of the caller's own image id, which nobody is
rebuilding or removing. -/
def Served (world : World) (pid : Nat) (info : RootfsImageInfo) : Prop :=
  ∃ rootfsDir safeImageId imageRef format source,
    .began pid (.prepareImage rootfsDir directory safeImageId imageRef) ∈ world.history ∧
    info.path = imagePath directory safeImageId format ∧ Source directory safeImageId source world.history ∧
    Settled world info.path source

/-- The considered steps: preparations in the directory begin; nobody looks for an
image that another process is building; a command that fails leaves no output
and the second command of a build starts; no process dies while an image file
that it is making is unfinished, from its creation to the end of the last command. -/
def Orderly (pool : Pool Op Answer World) : PoolLabel Request Choice → Prop
  | .start _ request => ∃ rootfsDir safeImageId imageRef,
      request = .prepareImage rootfsDir directory safeImageId imageRef
  | .step pid choice =>
    (∀ path next, pool.procs pid = some (.call (.pathExists path) next) →
      ∀ other, other ≠ pid → ¬ Building other path pool.world.history) ∧
    (∀ command next, pool.procs pid = some (.call (.awaitCommand command) next) →
      choice.fails = true → choice.leaves = none) ∧
    ∀ rootfsDir output next, pool.procs pid = some (.call (.startCommand (.mkfsExt4 rootfsDir output)) next) →
      choice.fails = false
  | .die pid => ∀ path file, pool.world.disk.files path = some file → file.data ≠ .image (.growing pid)

/-- What all considered runs keep. -/
structure Kept (world : World) : Prop where
  exclusive : ∀ path one other, Building one path world.history → Building other path world.history →
    one = other
  images : ∀ pid path, Building pid path world.history → IsImage directory path
  writing : ∀ pid path file, Building pid path world.history → world.disk.files path = some file →
    file.data = .image (.growing pid)
  settled : ∀ safeImageId format file,
    world.disk.files (imagePath directory safeImageId format) = some file →
    (∃ source, file.data = .image (.complete source) ∧ Source directory safeImageId source world.history) ∨
      ∃ pid, Building pid (imagePath directory safeImageId format) world.history
  plain : ∀ path, IsImage directory path → world.disk.dirs path = false
  served : ∀ pid info, (pid, info) ∈ servedImages world.history → Served directory world pid info

/-- A step touches images only where its process is building, and a process begins
to build only where there is no file. -/
structure Steps (pid : Nat) (world after : World) : Prop where
  records : ∃ event, event.pid = pid ∧ after.history = event :: world.history
  touches : ∀ path, IsImage directory path → Building pid path world.history ∨
    after.disk.files path = world.disk.files path
  begins : ∀ path, Building pid path after.history → Building pid path world.history ∨
    world.disk.files path = none

/-- What a process may rely on between its own steps. -/
structure Meanwhile (pid : Nat) (world after : World) : Prop where
  others : Others pid world.history after.history
  mine : ∀ path, Building pid path world.history → after.disk.files path = world.disk.files path
  keeps : ∀ path source, IsImage directory path → Settled world path source → Settled after path source

variable {directory} {pid other : Nat} {world after last : World} {event : Event} {path source : Path}
  {before history : List Event} {op : Op} {choice : Choice}

theorem building_cons_own (own : event.pid = pid) :
    building pid (event :: history) = (buildStage event).getD (building pid history) := by
  simp [building, own]

theorem building_cons_other (foreign : event.pid ≠ pid) :
    building pid (event :: history) = building pid history := by
  simp [building, foreign]

theorem idle_of_ended (own : event.pid = pid) (ended : buildStage event = some none) :
    building pid (event :: history) = none := by
  rw [building_cons_own own, ended]
  rfl

theorem building_others (others : Others pid before history) : building pid history = building pid before := by
  obtain ⟨events, rfl, foreign⟩ := others
  induction events with
  | nil => rfl
  | cons event events ih =>
    rw [List.cons_append, building_cons_other (foreign event List.mem_cons_self)]
    exact ih fun event member => foreign event (List.mem_cons_of_mem _ member)

theorem Source.grows (others : Others other before history) {safeImageId : Text}
    (built : Source directory safeImageId source before) : Source directory safeImageId source history := by
  obtain ⟨pid, imageRef, member⟩ := built
  exact ⟨pid, imageRef, others.grows member⟩

theorem Steps.others (steps : Steps directory pid world after) (differs : other ≠ pid) :
    Others other world.history after.history := by
  obtain ⟨event, own, recorded⟩ := steps.records
  rw [recorded]
  exact .one (own ▸ Ne.symm differs)

/-- A complete image that nobody builds stays so. -/
theorem Steps.keeps (steps : Steps directory pid world after) (image : IsImage directory path)
    (settled : Settled world path source) : Settled after path source := by
  obtain ⟨⟨file, found, data⟩, nobody⟩ := settled
  have same : after.disk.files path = world.disk.files path :=
    (steps.touches path image).resolve_left (nobody pid)
  refine ⟨⟨file, same.trans found, data⟩, fun other builds => ?_⟩
  by_cases own : other = pid
  · subst own
    rcases steps.begins path builds with before | free
    · exact nobody other before
    · rw [free] at found
      cases found
  · rw [Building, building_others (steps.others own)] at builds
    exact nobody other builds

theorem Meanwhile.trans (first : Meanwhile directory pid world after)
    (second : Meanwhile directory pid after last) : Meanwhile directory pid world last where
  others := first.others.trans second.others
  mine path builds := by
    rw [second.mine path ((building_others first.others).trans builds), first.mine path builds]
  keeps path source image settled := second.keeps path source image (first.keeps path source image settled)

theorem Steps.meanwhile (differs : pid ≠ other) (kept : Kept directory world)
    (steps : Steps directory pid world after) : Meanwhile directory other world after where
  others := steps.others (Ne.symm differs)
  mine path builds := by
    refine (steps.touches path (kept.images other path builds)).resolve_left fun builds' => ?_
    exact differs (kept.exclusive path pid other builds' builds)
  keeps path source image settled := steps.keeps image settled

theorem Served.keeps {info : RootfsImageInfo} (steps : Steps directory pid world after)
    (served : Served directory world other info) : Served directory after other info := by
  obtain ⟨rootfsDir, safeImageId, imageRef, format, source, began, image, built, settled⟩ := served
  obtain ⟨event, own, recorded⟩ := steps.records
  refine ⟨rootfsDir, safeImageId, imageRef, format, source, ?_, image, ?_, ?_⟩
  · rw [recorded]
    exact List.mem_cons_of_mem _ began
  · obtain ⟨builder, reference, member⟩ := built
    rw [recorded]
    exact ⟨builder, reference, List.mem_cons_of_mem _ member⟩
  · exact steps.keeps ⟨safeImageId, format, image⟩ settled

/-- Replies stay right, and a new one is right when it is given. -/
theorem Kept.serves (kept : Kept directory world) (steps : Steps directory pid world after)
    (recorded : after.history = event :: world.history)
    (new : ∀ pid info, servedImage event = some (pid, info) → Served directory after pid info) :
    ∀ pid info, (pid, info) ∈ servedImages after.history → Served directory after pid info := by
  intro other info member
  rw [recorded, servedImages] at member
  cases reply : servedImage event with
  | none =>
    rw [List.filterMap_cons_none reply] at member
    exact (kept.served other info member).keeps steps
  | some served =>
    rw [List.filterMap_cons_some reply] at member
    rcases List.mem_cons.mp member with rfl | old
    · exact new other info reply
    · exact (kept.served other info old).keeps steps

variable (directory) in
/-- Operations away from the images that say nothing of a build. -/
structure Aside (op : Op) : Prop where
  files : ∀ path, IsImage directory path → ¬ op.touches path
  dirs : ∀ path, IsImage directory path → ¬ op.creates path
  stage : ∀ pid answer, buildStage (.did pid op answer) = none
  reply : ∀ pid answer, servedImage (.did pid op answer) = none

/-- The world after an operation of a process. -/
abbrev done (pid : Nat) (world : World) (op : Op) (choice : Choice) : World :=
  (host.perform pid world op choice).2

theorem done_others (differs : other ≠ pid) : Others other world.history (done pid world op choice).history :=
  .one (Ne.symm differs)

/-- Without a stage of its own, an event changes nobody's build. -/
theorem building_still (still : buildStage event = none) :
    building pid (event :: history) = building pid history := by
  by_cases own : event.pid = pid
  · rw [building_cons_own own, still]
    rfl
  · exact building_cons_other own

theorem Aside.building (aside : Aside directory op) :
    building other (done pid world op choice).history = building other world.history :=
  building_still (aside.stage _ _)

theorem Aside.same (aside : Aside directory op) (image : IsImage directory path) :
    (done pid world op choice).disk.files path = world.disk.files path := act_files (aside.files path image)

theorem Aside.steps (aside : Aside directory op) : Steps directory pid world (done pid world op choice) where
  records := ⟨_, rfl, rfl⟩
  touches _ image := .inr (aside.same image)
  begins _ builds := .inl (aside.building.symm.trans builds)

/-- An event without a stage of its own, away from the images. -/
theorem Kept.still (kept : Kept directory world) {disk : Disk} (still : buildStage event = none)
    (reply : servedImage event = none)
    (files : ∀ path, IsImage directory path → disk.files path = world.disk.files path)
    (dirs : ∀ path, IsImage directory path → disk.dirs path = world.disk.dirs path) :
    Kept directory ⟨disk, event :: world.history⟩ where
  exclusive path one other builds builds' := kept.exclusive path one other
    ((building_still still).symm.trans builds) ((building_still still).symm.trans builds')
  images process path builds := kept.images process path ((building_still still).symm.trans builds)
  writing process path file builds found := by
    have earlier : Building process path world.history := (building_still still).symm.trans builds
    rw [show disk.files path = _ from files path (kept.images process path earlier)] at found
    exact kept.writing process path file earlier found
  settled safeImageId format file found := by
    rw [show disk.files _ = _ from files _ ⟨safeImageId, format, rfl⟩] at found
    rcases kept.settled safeImageId format file found with ⟨source, data, builder, reference, member⟩ |
      ⟨process, builds⟩
    · exact .inl ⟨source, data, builder, reference, List.mem_cons_of_mem _ member⟩
    · exact .inr ⟨process, (building_still still).trans builds⟩
  plain path image := (dirs path image).trans (kept.plain path image)
  served := by
    have steps : Steps directory event.pid world ⟨disk, event :: world.history⟩ :=
      ⟨⟨event, rfl, rfl⟩, fun path image => .inr (files path image),
        fun path builds => .inl ((building_still still).symm.trans builds)⟩
    refine kept.serves steps rfl fun process info replied => ?_
    rw [reply] at replied
    cases replied

theorem Aside.kept (aside : Aside directory op) (kept : Kept directory world) :
    Kept directory (done pid world op choice) :=
  kept.still (aside.stage _ _) (aside.reply _ _) (fun _ image => aside.same image)
    fun path image => act_dirs (aside.dirs path image)

/-- The process may have begun a build, but nothing is at its path. -/
def Unwritten (pid : Nat) (world : World) : Prop :=
  ∀ path, Building pid path world.history → world.disk.files path = none

variable (directory) in
/-- An event by which a process turns to building one image or none, while it has
written nothing. -/
structure Turns (pid : Nat) (world : World) (event : Event) : Prop where
  own : event.pid = pid
  stage : buildStage event = some none ∨ ∃ path, buildStage event = some (some path) ∧
    IsImage directory path ∧ world.disk.files path = none ∧
      ∀ other, other ≠ pid → ¬ Building other path world.history

theorem Turns.builds_now {now : Option Path} (turns : Turns directory pid world event)
    (stage : buildStage event = some now) : building pid (event :: world.history) = now := by
  rw [building_cons_own turns.own, stage]
  rfl

theorem Turns.steps (turns : Turns directory pid world event) :
    Steps directory pid world ⟨world.disk, event :: world.history⟩ where
  records := ⟨event, turns.own, rfl⟩
  touches _ _ := .inr rfl
  begins path builds := by
    rcases turns.stage with stage | ⟨begun, stage, _, free, _⟩
    · rw [Building, turns.builds_now stage] at builds
      cases builds
    · rw [Building, turns.builds_now stage] at builds
      cases builds
      exact .inr free

theorem Turns.kept (turns : Turns directory pid world event) (kept : Kept directory world)
    (unwritten : Unwritten pid world)
    (new : ∀ process info, servedImage event = some (process, info) →
      Served directory ⟨world.disk, event :: world.history⟩ process info) :
    Kept directory ⟨world.disk, event :: world.history⟩ := by
  have foreign : ∀ {process}, process ≠ pid →
      building process (event :: world.history) = building process world.history :=
    fun differs => building_cons_other (turns.own ▸ Ne.symm differs)
  -- What the process builds now is free, and nobody else builds it.
  have fresh : ∀ path, Building pid path (event :: world.history) → IsImage directory path ∧
      world.disk.files path = none ∧ ∀ other, other ≠ pid → ¬ Building other path world.history := by
    intro path builds
    rcases turns.stage with stage | ⟨begun, stage, image, free, alone⟩
    · rw [Building, turns.builds_now stage] at builds
      cases builds
    · rw [Building, turns.builds_now stage] at builds
      cases builds
      exact ⟨image, free, alone⟩
  refine ⟨?_, ?_, ?_, ?_, kept.plain, kept.serves turns.steps rfl new⟩
  · intro path one other builds builds'
    by_cases first : one = pid
    · subst first
      by_contra differs
      refine (fresh path builds).2.2 other (Ne.symm differs) ?_
      exact (foreign (Ne.symm differs)).symm.trans builds'
    · by_cases second : other = pid
      · subst second
        exact absurd ((foreign first).symm.trans builds) ((fresh path builds').2.2 one first)
      · exact kept.exclusive path one other ((foreign first).symm.trans builds)
          ((foreign second).symm.trans builds')
  · intro process path builds
    by_cases own : process = pid
    · subst own
      exact (fresh path builds).1
    · exact kept.images process path ((foreign own).symm.trans builds)
  · intro process path file builds found
    by_cases own : process = pid
    · subst own
      have free := (fresh path builds).2.1
      rw [show world.disk.files path = some file from found] at free
      cases free
    · exact kept.writing process path file ((foreign own).symm.trans builds) found
  · intro safeImageId format file found
    rcases kept.settled safeImageId format file found with ⟨source, data, builder, reference, member⟩ |
      ⟨process, builds⟩
    · exact .inl ⟨source, data, builder, reference, List.mem_cons_of_mem _ member⟩
    · by_cases own : process = pid
      · subst own
        have free := unwritten _ builds
        rw [show world.disk.files _ = some file from found] at free
        cases free
      · exact .inr ⟨process, (foreign own).trans builds⟩

/-- What a build's command makes of its output: nothing, a file of its own that it
is still writing, or a complete image that ends the build. -/
structure Writes (pid : Nat) (world : World) (path : Path) (event : Event) (disk : Disk) : Prop where
  own : event.pid = pid
  builds : Building pid path world.history
  elsewhere : ∀ other, other ≠ path → disk.files other = world.disk.files other
  dirs : disk.dirs = world.disk.dirs
  reply : servedImage event = none

theorem Writes.steps {disk : Disk} (writes : Writes pid world path event disk)
    (stage : buildStage event = none ∨ buildStage event = some none) :
    Steps directory pid world ⟨disk, event :: world.history⟩ where
  records := ⟨event, writes.own, rfl⟩
  touches other _ := by
    by_cases same : other = path
    · subst same
      exact .inl writes.builds
    · exact .inr (writes.elsewhere other same)
  begins other builds := by
    rcases stage with still | ended
    · exact .inl ((building_still still).symm.trans builds)
    · rw [Building, building_cons_own writes.own, ended] at builds
      cases builds

/-- A command that keeps the build open. -/
theorem Writes.open {disk : Disk} (writes : Writes pid world path event disk) (kept : Kept directory world)
    (still : buildStage event = none)
    (file : ∀ file, disk.files path = some file → file.data = .image (.growing pid)) :
    Kept directory ⟨disk, event :: world.history⟩ where
  exclusive target one other builds builds' := kept.exclusive target one other
    ((building_still still).symm.trans builds) ((building_still still).symm.trans builds')
  images process target builds := kept.images process target ((building_still still).symm.trans builds)
  writing process target found builds stored := by
    have earlier : Building process target world.history := (building_still still).symm.trans builds
    by_cases same : target = path
    · subst same
      have own : process = pid := kept.exclusive target process pid earlier writes.builds
      rw [own]
      exact file found stored
    · rw [show disk.files target = _ from writes.elsewhere target same] at stored
      exact kept.writing process target found earlier stored
  settled safeImageId format found stored := by
    by_cases same : imagePath directory safeImageId format = path
    · exact .inr ⟨pid, (building_still still).trans (same ▸ writes.builds)⟩
    · rw [show disk.files _ = _ from writes.elsewhere _ same] at stored
      rcases kept.settled safeImageId format found stored with ⟨source, data, builder, reference, member⟩ |
        ⟨process, builds⟩
      · exact .inl ⟨source, data, builder, reference, List.mem_cons_of_mem _ member⟩
      · exact .inr ⟨process, (building_still still).trans builds⟩
  plain target image := by
    rw [writes.dirs]
    exact kept.plain target image
  served := kept.serves (writes.steps (.inl still)) rfl fun process info reply => by
    rw [writes.reply] at reply
    cases reply

/-- A command that ends the build, with nothing or a complete image at its path. -/
theorem Writes.close {disk : Disk} (writes : Writes pid world path event disk) (kept : Kept directory world)
    (ended : buildStage event = some none)
    (file : ∀ safeImageId format file, path = imagePath directory safeImageId format →
      disk.files path = some file → ∃ source, file.data = .image (.complete source) ∧
        Source directory safeImageId source world.history) :
    Kept directory ⟨disk, event :: world.history⟩ := by
  have steps : Steps directory pid world ⟨disk, event :: world.history⟩ := writes.steps (.inr ended)
  have idle : building pid (event :: world.history) = none := idle_of_ended writes.own ended
  have foreign : ∀ {process}, process ≠ pid →
      building process (event :: world.history) = building process world.history :=
    fun differs => building_cons_other (writes.own ▸ Ne.symm differs)
  have other_of : ∀ {process target}, Building process target (event :: world.history) → process ≠ pid := by
    rintro process target builds rfl
    rw [Building, idle] at builds
    cases builds
  refine ⟨?_, ?_, ?_, ?_, ?_, ?_⟩
  · intro target one other builds builds'
    exact kept.exclusive target one other ((foreign (other_of builds)).symm.trans builds)
      ((foreign (other_of builds')).symm.trans builds')
  · intro process target builds
    exact kept.images process target ((foreign (other_of builds)).symm.trans builds)
  · intro process target found builds stored
    have earlier : Building process target world.history := (foreign (other_of builds)).symm.trans builds
    have differs : target ≠ path := by
      rintro rfl
      exact other_of builds (kept.exclusive target process pid earlier writes.builds)
    rw [show disk.files target = _ from writes.elsewhere target differs] at stored
    exact kept.writing process target found earlier stored
  · intro safeImageId format found stored
    by_cases same : imagePath directory safeImageId format = path
    · subst same
      obtain ⟨source, data, builder, reference, member⟩ := file safeImageId format found rfl stored
      exact .inl ⟨source, data, builder, reference, List.mem_cons_of_mem _ member⟩
    · rw [show disk.files _ = _ from writes.elsewhere _ same] at stored
      rcases kept.settled safeImageId format found stored with ⟨source, data, builder, reference, member⟩ |
        ⟨process, builds⟩
      · exact .inl ⟨source, data, builder, reference, List.mem_cons_of_mem _ member⟩
      · refine .inr ⟨process, (foreign ?_).trans builds⟩
        rintro rfl
        rw [Building, writes.builds] at builds
        cases builds
        exact same rfl
  · intro target image
    rw [writes.dirs]
    exact kept.plain target image
  · refine kept.serves steps rfl fun process info reply => ?_
    rw [writes.reply] at reply
    cases reply

/-- A process that is not writing leaves no unfinished file behind. -/
theorem Kept.unwritten (kept : Kept directory world)
    (closed : ∀ path file, world.disk.files path = some file → file.data ≠ .image (.growing pid)) :
    Unwritten pid world := by
  intro path builds
  cases found : world.disk.files path with
  | none => rfl
  | some file => exact absurd (kept.writing pid path file builds found) (closed path file found)

/-- A death leaves what is kept, when nothing unfinished is left with it. -/
theorem turns_died : Turns directory pid world (.died pid) := ⟨rfl, .inl rfl⟩

/-- Nobody interferes with the image that a process is building. -/
def contract (directory : Path) : Contract host where
  inv := Kept directory
  permits pid world op choice :=
    (∀ path, op = .pathExists path → ∀ other, other ≠ pid → ¬ Building other path world.history) ∧
    (∀ command, op = .awaitCommand command → choice.fails = true → choice.leaves = none) ∧
    ∀ rootfsDir output, op = .startCommand (.mkfsExt4 rootfsDir output) → choice.fails = false
  mayStart pid world request := (∃ rootfsDir safeImageId imageRef,
    request = .prepareImage rootfsDir directory safeImageId imageRef) ∧ Fresh pid world.history
  mayDie pid world := ∀ path file, world.disk.files path = some file → file.data ≠ .image (.growing pid)
  guarantee := Steps directory
  rely := Meanwhile directory
  rely_refl pid _ := ⟨.refl pid _, fun _ _ => rfl, fun _ _ _ settled => settled⟩
  rely_trans _ _ _ _ first second := first.trans second
  compatible differs kept _ steps := steps.meanwhile differs kept
  starts := by
    intro pid world request kept _
    have kept' : Kept directory (host.began pid request world) :=
      kept.still rfl rfl (fun _ _ => rfl) fun _ _ => rfl
    have steps : Steps directory pid world (host.began pid request world) :=
      ⟨⟨.began pid request, rfl, rfl⟩, fun _ _ => .inr rfl,
        fun _ builds => .inl ((building_still rfl).symm.trans builds)⟩
    exact ⟨kept', fun other differs => steps.meanwhile (Ne.symm differs) kept⟩
  dies := by
    intro pid world kept closed
    have kept' : Kept directory (host.died pid world) :=
      turns_died.kept kept (kept.unwritten closed) fun process info reply => by cases reply
    have steps : Steps directory pid world (host.died pid world) := turns_died.steps
    exact ⟨kept', fun other differs => steps.meanwhile (Ne.symm differs) kept⟩

/-- A call of `prepare_shared_rootfs_image`, and the process that runs it. -/
structure Caller where
  pid : Nat
  rootfsDir : Path
  directory : Path
  safeImageId : Text
  imageRef : Text

namespace Caller

variable (caller : Caller) {format : RootfsImageFormat} {assertion : World → Prop}

/-- The image file of a format. -/
abbrev image (format : RootfsImageFormat) : Path := imagePath caller.directory caller.safeImageId format

/-- The call has begun. -/
def Began (world : World) : Prop :=
  .began caller.pid (.prepareImage caller.rootfsDir caller.directory caller.safeImageId caller.imageRef) ∈
    world.history

/-- The call has written nothing at the path it may be building at. -/
def Ready (world : World) : Prop := caller.Began world ∧ Unwritten caller.pid world

/-- The call is building this image, and has not begun to write it. -/
def Free (format : RootfsImageFormat) (world : World) : Prop :=
  caller.Began world ∧ Building caller.pid (caller.image format) world.history ∧
    world.disk.files (caller.image format) = none

/-- The call is writing this image. -/
def Opened (format : RootfsImageFormat) (world : World) : Prop :=
  caller.Began world ∧ Building caller.pid (caller.image format) world.history ∧
    ∃ file, world.disk.files (caller.image format) = some file ∧ file.data = .image (.growing caller.pid)

/-- The call is building nothing, and may report this image. -/
def Reports (format : RootfsImageFormat) (world : World) : Prop :=
  caller.Began world ∧ building caller.pid world.history = none ∧
    ∃ source, Source caller.directory caller.safeImageId source world.history ∧
      Settled world (caller.image format) source

/-- An assertion of the call that the others and its own operations away from the
images keep, and under which it may give up. -/
structure Own (assertion : World → Prop) : Prop where
  ready : ∀ {world}, assertion world → caller.Ready world
  stable : (contract caller.directory).Stable caller.pid assertion
  aside : ∀ {world op choice}, Aside caller.directory op → Kept caller.directory world → assertion world →
    assertion (done caller.pid world op choice)

variable {caller}

theorem image_isImage : IsImage caller.directory (caller.image format) := ⟨caller.safeImageId, format, rfl⟩

theorem Began.done (began : caller.Began world) : caller.Began (done pid world op choice) :=
  List.mem_cons_of_mem _ began

theorem own_ready : caller.Own caller.Ready where
  ready ready := ready
  stable := by
    rintro world after kept _ meanwhile ⟨began, unwritten⟩
    refine ⟨meanwhile.others.grows began, fun path builds => ?_⟩
    have earlier : Building caller.pid path world.history := (building_others meanwhile.others).symm.trans builds
    rw [meanwhile.mine path earlier]
    exact unwritten path earlier
  aside := by
    rintro world op choice aside kept ⟨began, unwritten⟩
    refine ⟨began.done, fun path builds => ?_⟩
    have earlier : Building caller.pid path world.history := aside.building.symm.trans builds
    rw [aside.same (kept.images caller.pid path earlier)]
    exact unwritten path earlier

theorem Free.ready (free : caller.Free format world) : caller.Ready world := by
  refine ⟨free.1, fun path builds => ?_⟩
  have same : some (caller.image format) = some path := free.2.1.symm.trans builds
  cases same
  exact free.2.2

theorem own_free : caller.Own (caller.Free format) where
  ready free := free.ready
  stable := by
    rintro world after _ _ meanwhile ⟨began, builds, free⟩
    exact ⟨meanwhile.others.grows began, (building_others meanwhile.others).trans builds,
      (meanwhile.mine _ builds).trans free⟩
  aside := by
    rintro world op choice aside _ ⟨began, builds, free⟩
    exact ⟨began.done, aside.building.trans builds, (aside.same image_isImage).trans free⟩

theorem opened_stable : (contract caller.directory).Stable caller.pid (caller.Opened format) := by
  rintro world after _ _ meanwhile ⟨began, builds, file, found, data⟩
  exact ⟨meanwhile.others.grows began, (building_others meanwhile.others).trans builds, file,
    (meanwhile.mine _ builds).trans found, data⟩

theorem Reports.ready (reports : caller.Reports format world) : caller.Ready world := by
  refine ⟨reports.1, fun path builds => ?_⟩
  rw [Building, reports.2.1] at builds
  cases builds

theorem own_reports : caller.Own (caller.Reports format) where
  ready reports := reports.ready
  stable := by
    rintro world after _ _ meanwhile ⟨began, idle, source, built, settled⟩
    exact ⟨meanwhile.others.grows began, (building_others meanwhile.others).trans idle, source,
      built.grows meanwhile.others, meanwhile.keeps _ _ image_isImage settled⟩
  aside := by
    rintro world op choice aside _ ⟨began, idle, source, ⟨builder, reference, member⟩, settled⟩
    have steps : Steps caller.directory caller.pid world (CompleteImages.done caller.pid world op choice) :=
      aside.steps
    exact ⟨began.done, aside.building.trans idle, source, ⟨builder, reference, List.mem_cons_of_mem _ member⟩,
      steps.keeps image_isImage settled⟩

theorem Own.only {α : Type} {program : Prog α} (own : caller.Own assertion)
    (only : Only (Aside caller.directory) program) :
    (contract caller.directory).Triple caller.pid assertion program fun _ => assertion :=
  Contract.Triple.only only own.stable fun _ _ _ aside kept holds _ =>
    ⟨aside.kept kept, aside.steps, own.aside aside kept holds⟩

theorem Own.attempt {α : Type} {program : Fail α} (own : caller.Own assertion)
    (only : Only (Aside caller.directory) program.run) :
    (contract caller.directory).Attempt caller.pid assertion program (fun _ => assertion) caller.Ready :=
  (own.only only).consequence (fun _ _ holds => holds) fun _ _ _ holds =>
    Contract.Either.intro (fun _ _ => holds) fun _ _ => own.ready holds

theorem Own.ask {α : Type} {program : Prog α} (own : caller.Own assertion)
    (only : Only (Aside caller.directory) program) :
    (contract caller.directory).Attempt caller.pid assertion (ask program) (fun _ => assertion) caller.Ready :=
  Contract.Attempt.lift (own.only only) fun _ => own.stable

section Commands

variable {choice : Choice}

/-- A command that cannot start leaves everything. -/
theorem start_failed (command : Command) (fails : choice.fails = true) (kept : Kept caller.directory world) :
    Kept caller.directory (CompleteImages.done caller.pid world (.startCommand command) choice) ∧
      Steps caller.directory caller.pid world
        (CompleteImages.done caller.pid world (.startCommand command) choice) ∧
      (caller.Ready world → caller.Ready (CompleteImages.done caller.pid world (.startCommand command) choice)) := by
  have unchanged : (act caller.pid world.disk (.startCommand command) choice).2 = world.disk := by
    simp only [act, fails, if_true]
  have same : CompleteImages.done caller.pid world (.startCommand command) choice = ⟨world.disk,
      .did caller.pid (.startCommand command) (act caller.pid world.disk (.startCommand command) choice).1 ::
        world.history⟩ := by
    simp only [CompleteImages.done, host, unchanged]
  rw [same]
  refine ⟨kept.still rfl rfl (fun _ _ => rfl) fun _ _ => rfl,
    ⟨⟨_, rfl, rfl⟩, fun _ _ => .inr rfl, fun _ builds => .inl ((building_still rfl).symm.trans builds)⟩, ?_⟩
  rintro ⟨began, unwritten⟩
  exact ⟨List.mem_cons_of_mem _ began, fun path builds => unwritten path ((building_still rfl).symm.trans builds)⟩

/-- A command that starts has its output open. -/
theorem start_opens (command : Command) (works : choice.fails = false) (kept : Kept caller.directory world)
    (began : caller.Began world)
    (builds : Building caller.pid (caller.image format) world.history)
    (opens : ∃ size, command.opens caller.pid world.disk choice =
      world.disk.put (caller.image format) ⟨.image (.growing caller.pid), size, choice.modified⟩) :
    Kept caller.directory (CompleteImages.done caller.pid world (.startCommand command) choice) ∧
      Steps caller.directory caller.pid world
        (CompleteImages.done caller.pid world (.startCommand command) choice) ∧
      caller.Opened format (CompleteImages.done caller.pid world (.startCommand command) choice) := by
  obtain ⟨size, opens⟩ := opens
  have disk : (act caller.pid world.disk (.startCommand command) choice).2 =
      world.disk.put (caller.image format) ⟨.image (.growing caller.pid), size, choice.modified⟩ := by
    simp only [act, works, Bool.false_eq_true, if_false, opens]
  have writes : Writes caller.pid world (caller.image format)
      (.did caller.pid (.startCommand command) (act caller.pid world.disk (.startCommand command) choice).1)
      (act caller.pid world.disk (.startCommand command) choice).2 := by
    refine ⟨rfl, builds, fun other differs => ?_, ?_, rfl⟩
    · rw [disk, put_files_ne differs]
    · rw [disk, put_dirs]
  refine ⟨writes.open kept rfl fun file found => ?_, writes.steps (.inl rfl), List.mem_cons_of_mem _ began,
    (building_still rfl).trans builds, ⟨.image (.growing caller.pid), size, choice.modified⟩, ?_, rfl⟩
  · rw [disk, put_files_self] at found
    cases found
    rfl
  · simp only [CompleteImages.done, host, disk]
    exact put_files_self

theorem outcome_failed {α : Type} {fails : Bool} {message : String} {value : α} {cause : Error}
    (failed : outcome fails message path value = .error cause) : fails = true := by
  unfold outcome at failed
  split at failed
  · assumption
  · cases failed

theorem attempt_start {command : Command} (output : command.outputImage = caller.image format)
    (first : ∀ rootfsDir output, command ≠ .mkfsExt4 rootfsDir output) :
    (contract caller.directory).Attempt caller.pid (caller.Free format) (attempt (call (.startCommand command)))
      (fun _ => caller.Opened format) caller.Ready := by
  refine Contract.Triple.perform own_free.stable
    (Contract.Either.stable (fun _ => opened_stable) own_ready.stable) ?_
  rintro world choice kept free _
  cases fails : choice.fails with
  | true =>
    obtain ⟨kept', steps, ready⟩ := start_failed command fails kept
    refine ⟨kept', steps, Contract.Either.intro (fun _ works => ?_) fun _ _ => ready free.ready⟩
    rw [(outcome_ok.mp works).1] at fails
    cases fails
  | false =>
    have opens : ∃ size, command.opens caller.pid world.disk choice =
        world.disk.put (caller.image format) ⟨.image (.growing caller.pid), size, choice.modified⟩ := by
      rw [← output]
      cases command with
      | mkfsExt4 rootfsDir target => exact absurd rfl (first rootfsDir target)
      | _ => exact ⟨0, rfl⟩
    obtain ⟨kept', steps, opened⟩ := start_opens command fails kept free.1 free.2.1 opens
    refine ⟨kept', steps, Contract.Either.intro (fun _ _ => opened) fun _ failed => ?_⟩
    rw [outcome_failed failed] at fails
    cases fails

/-- `mkfs.ext4` starts over the file that `truncate` made. -/
theorem attempt_startMkfsExt4 (rootfsDir : Path) : (contract caller.directory).Attempt caller.pid
    (caller.Opened format) (attempt (call (.startCommand (.mkfsExt4 rootfsDir (caller.image format)))))
    (fun _ => caller.Opened format) caller.Ready := by
  refine Contract.Triple.perform opened_stable
    (Contract.Either.stable (fun _ => opened_stable) own_ready.stable) ?_
  rintro world choice kept ⟨began, builds, file, found, data⟩ ⟨_, _, starts⟩
  have works : choice.fails = false := starts rootfsDir _ rfl
  have opens : ∃ size, (Command.mkfsExt4 rootfsDir (caller.image format)).opens caller.pid world.disk choice =
      world.disk.put (caller.image format) ⟨.image (.growing caller.pid), size, choice.modified⟩ :=
    ⟨file.size, by simp only [Command.opens, found, data, if_true]⟩
  obtain ⟨kept', steps, opened⟩ := start_opens _ works kept began builds opens
  refine ⟨kept', steps, Contract.Either.intro (fun _ _ => opened) fun _ failed => ?_⟩
  rw [outcome_failed failed] at works
  cases works

/-- A command that fails, and leaves no output, ends the build. -/
theorem await_failed (command : Command) (output : command.outputImage = caller.image format)
    (fails : choice.fails = true)
    (leaves : choice.leaves = none) (kept : Kept caller.directory world) (opened : caller.Opened format world) :
    Kept caller.directory (CompleteImages.done caller.pid world (.awaitCommand command) choice) ∧
      Steps caller.directory caller.pid world
        (CompleteImages.done caller.pid world (.awaitCommand command) choice) ∧
      caller.Ready (CompleteImages.done caller.pid world (.awaitCommand command) choice) := by
  obtain ⟨began, builds, file, found, data⟩ := opened
  have disk : (act caller.pid world.disk (.awaitCommand command) choice).2 =
      world.disk.drop (caller.image format) := by
    simp only [act, Command.closes, fails, if_true, leaves, output]
  have ended : buildStage (.did caller.pid (.awaitCommand command)
      (act caller.pid world.disk (.awaitCommand command) choice).1) = some none := by
    simp only [act, outcome, fails, if_true]
    cases command <;> rfl
  have writes : Writes caller.pid world (caller.image format)
      (.did caller.pid (.awaitCommand command) (act caller.pid world.disk (.awaitCommand command) choice).1)
      (act caller.pid world.disk (.awaitCommand command) choice).2 := by
    refine ⟨rfl, builds, fun other differs => ?_, ?_, rfl⟩
    · rw [disk, drop_files_ne differs]
    · rw [disk, drop_dirs]
  refine ⟨writes.close kept ended fun safe other file same stored => ?_, writes.steps (.inr ended),
    List.mem_cons_of_mem _ began, fun path builds => ?_⟩
  · rw [disk, drop_files_self] at stored
    cases stored
  · have idle : building caller.pid (CompleteImages.done caller.pid world (.awaitCommand command) choice).history =
        none := idle_of_ended rfl ended
    rw [Building, idle] at builds
    cases builds

/-- `truncate` leaves its file to the next command. -/
theorem attempt_awaitTruncate (sizeMb : Nat) : (contract caller.directory).Attempt caller.pid
    (caller.Opened format) (attempt (call (.awaitCommand (.truncate sizeMb (caller.image format)))))
    (fun _ => caller.Opened format) caller.Ready := by
  refine Contract.Triple.perform opened_stable
    (Contract.Either.stable (fun _ => opened_stable) own_ready.stable) ?_
  rintro world choice kept opened ⟨_, ends, _⟩
  cases fails : choice.fails with
  | true =>
    obtain ⟨kept', steps, ready⟩ := await_failed (.truncate sizeMb (caller.image format)) rfl fails
      (ends _ rfl fails) kept opened
    refine ⟨kept', steps, Contract.Either.intro (fun _ works => ?_) fun _ _ => ready⟩
    rw [(outcome_ok.mp works).1] at fails
    cases fails
  | false =>
    obtain ⟨began, builds, file, found, data⟩ := opened
    have closed : (act caller.pid world.disk (.awaitCommand (.truncate sizeMb (caller.image format))) choice).2 =
        world.disk.put (caller.image format)
          ⟨.image (.growing caller.pid), sizeMb * 1048576, choice.modified⟩ := by
      have closes : (Command.truncate sizeMb (caller.image format)).closes caller.pid world.disk choice = _ :=
        closes_success fails found
      rw [act, closes, Command.finished, if_pos data]
      rfl
    have still : buildStage (.did caller.pid (.awaitCommand (.truncate sizeMb (caller.image format)))
        (act caller.pid world.disk (.awaitCommand (.truncate sizeMb (caller.image format))) choice).1) = none := by
      simp only [act, outcome, fails, Bool.false_eq_true, if_false]
      rfl
    have writes : Writes caller.pid world (caller.image format)
        (.did caller.pid (.awaitCommand (.truncate sizeMb (caller.image format)))
          (act caller.pid world.disk (.awaitCommand (.truncate sizeMb (caller.image format))) choice).1)
        (act caller.pid world.disk (.awaitCommand (.truncate sizeMb (caller.image format))) choice).2 := by
      refine ⟨rfl, builds, fun other differs => ?_, ?_, rfl⟩
      · rw [closed, put_files_ne differs]
      · rw [closed, put_dirs]
    refine ⟨writes.open kept still fun other stored => ?_, writes.steps (.inl still),
      Contract.Either.intro (fun _ _ => ?_) fun _ failed => ?_⟩
    · rw [closed, put_files_self] at stored
      cases stored
      rfl
    · refine ⟨List.mem_cons_of_mem _ began, (building_still still).trans builds,
        ⟨.image (.growing caller.pid), sizeMb * 1048576, choice.modified⟩, ?_, rfl⟩
      simp only [host, closed]
      exact put_files_self
    · rw [outcome_failed failed] at fails
      cases fails

/-- The last command of a build completes the image. -/
theorem attempt_await {command : Command} (output : command.outputImage = caller.image format)
    (last : ∀ answer, buildStage (.did caller.pid (.awaitCommand command) answer) = some none)
    (finishes : ∀ choice file, file.data = .image (.growing caller.pid) →
      (command.finished caller.pid choice file).data = .image (.complete caller.rootfsDir)) :
    (contract caller.directory).Attempt caller.pid (caller.Opened format) (attempt (call (.awaitCommand command)))
      (fun _ => caller.Reports format) caller.Ready := by
  refine Contract.Triple.perform opened_stable
    (Contract.Either.stable (fun _ => own_reports.stable) own_ready.stable) ?_
  rintro world choice kept opened ⟨_, ends, _⟩
  cases fails : choice.fails with
  | true =>
    obtain ⟨kept', steps, ready⟩ := await_failed command output fails (ends _ rfl fails) kept opened
    refine ⟨kept', steps, Contract.Either.intro (fun _ works => ?_) fun _ _ => ready⟩
    rw [(outcome_ok.mp works).1] at fails
    cases fails
  | false =>
    obtain ⟨began, builds, file, found, data⟩ := opened
    have closed : (act caller.pid world.disk (.awaitCommand command) choice).2 =
        world.disk.put (caller.image format) (command.finished caller.pid choice file) := by
      rw [← output] at found ⊢
      exact closes_success fails found
    have source : Source caller.directory caller.safeImageId caller.rootfsDir world.history :=
      ⟨caller.pid, caller.imageRef, began⟩
    have complete : (command.finished caller.pid choice file).data = .image (.complete caller.rootfsDir) :=
      finishes choice file data
    have writes : Writes caller.pid world (caller.image format)
        (.did caller.pid (.awaitCommand command) (act caller.pid world.disk (.awaitCommand command) choice).1)
        (act caller.pid world.disk (.awaitCommand command) choice).2 := by
      refine ⟨rfl, builds, fun other differs => ?_, ?_, rfl⟩
      · rw [closed, put_files_ne differs]
      · rw [closed, put_dirs]
    have idle : building caller.pid (CompleteImages.done caller.pid world (.awaitCommand command) choice).history =
        none := idle_of_ended rfl (last _)
    refine ⟨writes.close kept (last _) fun safe other file same stored => ?_, writes.steps (.inr (last _)),
      Contract.Either.intro (fun _ _ => ?_) fun _ failed => ?_⟩
    · obtain ⟨rfl, rfl⟩ := imagePath_injective same
      rw [closed, put_files_self] at stored
      cases stored
      exact ⟨caller.rootfsDir, complete, source⟩
    · refine ⟨List.mem_cons_of_mem _ began, idle, caller.rootfsDir,
        ⟨caller.pid, caller.imageRef, List.mem_cons_of_mem _ began⟩, ⟨_, ?_, complete⟩,
          fun other builds' => ?_⟩
      · simp only [host, closed]
        exact put_files_self
      · by_cases own : other = caller.pid
        · subst own
          rw [Building, idle] at builds'
          cases builds'
        · have earlier : Building other (caller.image format) world.history :=
            (building_others (done_others own)).symm.trans builds'
          exact own (kept.exclusive _ other caller.pid earlier builds)
    · rw [outcome_failed failed] at fails
      cases fails

end Commands

section Programs

theorem unserved {op : Op} {answer : Answer op} (reply : ∀ reply, op ≠ .reply reply) :
    servedImage (.did pid op answer) = none := by
  unfold servedImage
  split
  · rename_i same
    cases same
    exact absurd rfl (reply _)
  · rfl

/-- The check for the image of a format, by a call that has written nothing. -/
theorem triple_pathExists (format : RootfsImageFormat) : (contract caller.directory).Triple caller.pid caller.Ready
    (call (.pathExists (caller.image format)))
    fun found => if found = true then caller.Reports format else caller.Free format := by
  have stable : ∀ found : Bool, (contract caller.directory).Stable caller.pid
      (if found = true then caller.Reports format else caller.Free format) := by
    intro found
    split
    · exact own_reports.stable
    · exact own_free.stable
  refine Contract.Triple.perform own_ready.stable stable ?_
  rintro world choice kept ⟨began, unwritten⟩ ⟨alone, _, _⟩
  have nobody : ∀ other, other ≠ caller.pid → ¬ Building other (caller.image format) world.history :=
    alone _ rfl
  have noDir : world.disk.isDir (caller.image format) = false := kept.plain _ image_isImage
  cases present : world.disk.files (caller.image format) with
  | none =>
    have missing : world.disk.pathExists (caller.image format) = false := by
      simp [Disk.pathExists, Disk.isFile, present, noDir]
    have turns : Turns caller.directory caller.pid world
        (.did caller.pid (.pathExists (caller.image format)) (world.disk.pathExists (caller.image format))) := by
      refine ⟨rfl, .inr ⟨caller.image format, ?_, image_isImage, present, nobody⟩⟩
      rw [missing]
      rfl
    have kept' := turns.kept kept unwritten fun process info reply => by
      rw [unserved fun _ => by simp] at reply
      cases reply
    refine ⟨kept', turns.steps, ?_⟩
    simp only [host, act, missing, Bool.false_eq_true, if_false]
    exact ⟨List.mem_cons_of_mem _ began, building_cons_own rfl, present⟩
  | some file =>
    have there : world.disk.pathExists (caller.image format) = true := by
      simp [Disk.pathExists, Disk.isFile, present]
    have turns : Turns caller.directory caller.pid world
        (.did caller.pid (.pathExists (caller.image format)) (world.disk.pathExists (caller.image format))) := by
      refine ⟨rfl, .inl ?_⟩
      rw [there]
      rfl
    have kept' := turns.kept kept unwritten fun process info reply => by
      rw [unserved fun _ => by simp] at reply
      cases reply
    have idle : ∀ other, ¬ Building other (caller.image format) world.history := by
      intro other builds
      by_cases own : other = caller.pid
      · subst own
        rw [unwritten _ builds] at present
        cases present
      · exact nobody other own builds
    obtain ⟨source, data, built⟩ : ∃ source, file.data = .image (.complete source) ∧
        Source caller.directory caller.safeImageId source world.history := by
      rcases kept.settled caller.safeImageId format file present with complete | ⟨other, builds⟩
      · exact complete
      · exact absurd builds (idle other)
    refine ⟨kept', turns.steps, ?_⟩
    have settled : Settled world (caller.image format) source := ⟨⟨file, present, data⟩, idle⟩
    obtain ⟨builder, reference, member⟩ := built
    simp only [host, act, there, if_true]
    refine ⟨List.mem_cons_of_mem _ began, building_cons_own rfl, source,
      ⟨builder, reference, List.mem_cons_of_mem _ member⟩, ?_⟩
    have after := turns.steps.keeps image_isImage settled
    rw [there] at after
    exact after

/-- The check of `build_rootfs_image`, which finds what the one before it found. -/
theorem attempt_removeOldImage : (contract caller.directory).Attempt caller.pid (caller.Free format)
    (removeOldImage (caller.image format)) (fun _ => caller.Free format) caller.Ready := by
  have check : (contract caller.directory).Triple caller.pid (caller.Free format)
      (call (.pathExists (caller.image format))) fun found world => found = false ∧ caller.Free format world := by
    refine Contract.Triple.perform own_free.stable
      (fun _ => fun kept kept' meanwhile free => ⟨free.1, own_free.stable kept kept' meanwhile free.2⟩) ?_
    rintro world choice kept free permitted
    have noDir : world.disk.isDir (caller.image format) = false := kept.plain _ image_isImage
    have missing : world.disk.pathExists (caller.image format) = false := by
      simp [Disk.pathExists, Disk.isFile, free.2.2, noDir]
    have turns : Turns caller.directory caller.pid world
        (.did caller.pid (.pathExists (caller.image format)) (world.disk.pathExists (caller.image format))) := by
      refine ⟨rfl, .inr ⟨caller.image format, ?_, image_isImage, free.2.2, permitted.1 _ rfl⟩⟩
      rw [missing]
      rfl
    have kept' := turns.kept kept free.ready.2 fun process info reply => by
      rw [unserved fun _ => by simp] at reply
      cases reply
    refine ⟨kept', turns.steps, missing, List.mem_cons_of_mem _ free.1, ?_, free.2.2⟩
    refine (building_cons_own rfl).trans ?_
    simp only [act, missing]
    rfl
  refine Contract.Attempt.bind (fun found world => found = false ∧ caller.Free format world)
    (Contract.Attempt.lift check fun _ => fun kept kept' meanwhile free =>
      ⟨free.1, own_free.stable kept kept' meanwhile free.2⟩) own_ready.stable fun found => ?_
  refine Contract.Triple.assume fun missing => ?_
  subst missing
  exact Contract.Attempt.pure own_free.stable fun _ _ free => free

/-- Operations that touch no image, create no directory at one and are no check, no
end of a command and no reply. -/
theorem aside_of {op : Op} (files : ∀ path, IsImage directory path → ¬ op.touches path)
    (dirs : ∀ path, IsImage directory path → ¬ op.creates path)
    (check : ∀ path, op ≠ .pathExists path) (await : ∀ command, op ≠ .awaitCommand command)
    (reply : ∀ reply, op ≠ .reply reply) : Aside directory op := by
  refine ⟨files, dirs, fun pid answer => ?_, fun pid answer => unserved reply⟩
  cases op with
  | pathExists path => exact absurd rfl (check path)
  | awaitCommand command => exact absurd rfl (await command)
  | reply other => exact absurd rfl (reply other)
  | _ => rfl

theorem aside_quiet {op : Op} (files : ∀ path, ¬ op.touches path) (dirs : ∀ path, ¬ op.creates path)
    (check : ∀ path, op ≠ .pathExists path) (await : ∀ command, op ≠ .awaitCommand command)
    (reply : ∀ reply, op ≠ .reply reply) : Only (Aside directory) (call op) :=
  only_perform (aside_of (fun path _ => files path) (fun path _ => dirs path) check await reply)

theorem only_digest (hashImage : Bool) (path : Path) (size modified : Nat) :
    Only (Aside directory) (digestIf hashImage path size modified).run := by
  unfold digestIf
  split
  · refine only_rootfsDigestForImage ?_ ?_ (fun _ => ?_) ?_ <;>
      refine aside_of (fun target image touched => ?_) (fun _ _ => id) (by simp) (by simp) (by simp) <;>
      obtain ⟨safe, format, rfl⟩ := image
    · cases touched
    · cases touched
    · exact image_ne_sidecarTmp touched
    · rcases touched with same | same
      · exact image_ne_sidecarTmp same
      · exact image_ne_sidecar same
  · trivial

/-- A build whose one command writes the image. -/
theorem attempt_runCommand {command : Command} (output : command.outputImage = caller.image format)
    (first : ∀ rootfsDir output, command ≠ .mkfsExt4 rootfsDir output)
    (last : ∀ answer, buildStage (.did caller.pid (.awaitCommand command) answer) = some none)
    (finishes : ∀ choice file, file.data = .image (.growing caller.pid) →
      (command.finished caller.pid choice file).data = .image (.complete caller.rootfsDir)) :
    (contract caller.directory).Attempt caller.pid (caller.Free format) (runCommand command)
      (fun _ => caller.Reports format) caller.Ready :=
  Contract.Attempt.bind _ (attempt_start output first) own_ready.stable fun _ => attempt_await output last finishes

/-- `build_erofs_image`, `build_squashfs_image` or `build_ext4_image`. -/
theorem attempt_buildImage (hashImage : Bool) : (contract caller.directory).Attempt caller.pid
    (caller.Free format) (buildImage (.forFormat format caller.rootfsDir (caller.image format) hashImage))
    (fun _ => caller.Reports format) caller.Ready := by
  cases format with
  | erofs =>
    refine Contract.Attempt.bind _ (own_free.ask (aside_quiet (fun _ => id) (fun _ => id) (by simp) (by simp)
      (by simp))) own_ready.stable fun preserveXattrs => ?_
    refine attempt_withContext _ _ ?_ (fun _ => own_reports.stable) own_ready.stable
    refine attempt_runCommand rfl (fun _ _ => by simp) (fun _ => rfl) fun choice file data => ?_
    rw [Command.finished, if_pos data]
    rfl
  | squashfs =>
    refine attempt_runCommand rfl (fun _ _ => by simp) (fun _ => rfl) fun choice file data => ?_
    rw [Command.finished, if_pos data]
    rfl
  | ext4 =>
    refine Contract.Attempt.bind _ (own_free.attempt ?_) own_ready.stable fun imageSizeMb => ?_
    · refine Only.bind_fallible (aside_quiet (fun _ => id) (fun _ => id) (by simp) (by simp) (by simp)) ?_
      exact fun _ => trivial
    refine Contract.Attempt.bind (fun _ => caller.Opened .ext4) ?_ own_ready.stable fun _ => ?_
    · exact Contract.Attempt.bind _ (attempt_start rfl fun _ _ => by simp) own_ready.stable fun _ =>
        attempt_awaitTruncate _
    · refine Contract.Attempt.bind _ (attempt_startMkfsExt4 _) own_ready.stable fun _ => ?_
      refine attempt_await rfl (fun _ => rfl) fun choice file data => ?_
      rw [Command.finished, if_pos data]
      rfl

/-- `build_rootfs_image` of a format whose image was not there. -/
theorem attempt_buildRootfsImage (hashImage : Bool) : (contract caller.directory).Attempt caller.pid
    (caller.Free format)
    (buildRootfsImage caller.directory (.forFormat format caller.rootfsDir (caller.image format) hashImage))
    (fun info world => info.path = caller.image format ∧ caller.Reports format world) caller.Ready := by
  refine Contract.Attempt.bind _ (own_free.ask (aside_quiet (fun _ => id) (fun _ => id) (by simp) (by simp)
    (by simp))) own_ready.stable fun present => ?_
  split
  · refine Contract.Attempt.bind _ (own_free.attempt (only_perform ?_)) own_ready.stable fun _ => ?_
    · refine aside_of (fun _ _ => id) (fun path image created => ?_) (by simp) (by simp) (by simp)
      obtain ⟨safe, other, rfl⟩ := image
      exact image_ne_directory created
    refine Contract.Attempt.bind _ attempt_removeOldImage own_ready.stable fun _ => ?_
    refine Contract.Attempt.bind _ (own_free.ask (only_perform ?_)) own_ready.stable fun _ => ?_
    · refine aside_of (fun path image touched => ?_) (fun _ _ => id) (by simp) (by simp) (by simp)
      obtain ⟨safe, other, rfl⟩ := image
      exact image_ne_sidecar touched
    refine Contract.Attempt.bind _ (attempt_buildImage hashImage) own_ready.stable fun _ => ?_
    refine Contract.Attempt.bind _ (own_reports.attempt (aside_quiet (fun _ => id) (fun _ => id) (by simp)
      (by simp) (by simp))) own_ready.stable fun stat => ?_
    refine Contract.Attempt.bind _ (own_reports.attempt (only_digest _ _ _ _)) own_ready.stable fun sha256 => ?_
    exact Contract.Attempt.pure own_reports.stable fun _ _ reports => ⟨rfl, reports⟩
  · exact Contract.Attempt.throw own_free.stable fun _ _ free => free.ready

/-- The loop over the candidate formats. -/
theorem attempt_prepareFormats (formats : List RootfsImageFormat) : (contract caller.directory).Attempt
    caller.pid caller.Ready (prepareFormats caller.rootfsDir caller.directory caller.safeImageId formats)
    (fun info world => ∃ format, info.path = caller.image format ∧ caller.Reports format world)
    caller.Ready := by
  induction formats with
  | nil => exact Contract.Attempt.throw own_ready.stable fun _ _ ready => ready
  | cons format formats ih =>
    have quiet : ∀ {name}, Only (Aside caller.directory) (call (.envTruthy name)) :=
      aside_quiet (fun _ => id) (fun _ => id) (by simp) (by simp) (by simp)
    refine Contract.Attempt.bind _ (Contract.Attempt.lift (triple_pathExists format) fun found => ?_)
      own_ready.stable fun found => ?_
    · split
      · exact own_reports.stable
      · exact own_free.stable
    cases found with
    | true =>
      refine Contract.Attempt.bind _ (own_reports.attempt (aside_quiet (fun _ => id) (fun _ => id) (by simp)
        (by simp) (by simp))) own_ready.stable fun stat => ?_
      refine Contract.Attempt.bind _ (own_reports.ask quiet) own_ready.stable fun hashImage => ?_
      refine Contract.Attempt.bind _ (own_reports.attempt (only_digest _ _ _ _)) own_ready.stable fun sha256 => ?_
      exact Contract.Attempt.pure own_reports.stable fun _ _ reports => ⟨format, rfl, reports⟩
    | false =>
      refine Contract.Attempt.bind _ (own_free.ask quiet) own_ready.stable fun hashImage => ?_
      have stable : ∀ result : Except Error RootfsImageInfo, (contract caller.directory).Stable caller.pid
          (Contract.Either (fun info world => info.path = caller.image format ∧ caller.Reports format world)
            caller.Ready result) := by
        refine Contract.Either.stable (fun info => ?_) own_ready.stable
        rintro world after kept kept' meanwhile ⟨path, reports⟩
        exact ⟨path, own_reports.stable kept kept' meanwhile reports⟩
      refine Contract.Attempt.bind _ (Contract.Attempt.lift (attempt_buildRootfsImage hashImage) stable)
        own_ready.stable fun result => ?_
      cases result with
      | ok info =>
        exact Contract.Attempt.pure (stable (.ok info)) fun _ _ holds => ⟨format, holds⟩
      | error cause => exact ih

/-- `prepare_shared_rootfs_image`. -/
theorem attempt_prepareImage : (contract caller.directory).Attempt caller.pid caller.Ready
    (prepareSharedRootfsImage caller.rootfsDir caller.directory caller.safeImageId)
    (fun info world => ∃ format, info.path = caller.image format ∧ caller.Reports format world)
    caller.Ready := by
  have quiet : ∀ {name}, Only (Aside caller.directory) (call (.commandAvailable name)) :=
    aside_quiet (fun _ => id) (fun _ => id) (by simp) (by simp) (by simp)
  refine Contract.Attempt.bind _ (own_ready.ask ?_) own_ready.stable fun formats =>
    attempt_prepareFormats formats
  exact quiet.bind fun _ => quiet.bind fun _ => trivial

/-- The reply of a call, which builds nothing any more. -/
theorem triple_reply (reply : Reply) {assertion : World → Prop}
    (stable : (contract caller.directory).Stable caller.pid assertion)
    (ready : ∀ world, assertion world → caller.Ready world)
    (new : ∀ world, assertion world → ∀ info, reply = .image (.ok info) →
      Served caller.directory world caller.pid info) :
    (contract caller.directory).Triple caller.pid assertion (call (.reply reply)) fun _ _ => True := by
  refine Contract.Triple.perform stable (fun _ _ _ _ _ _ _ => trivial) ?_
  intro world choice kept holds _
  have turns : Turns caller.directory caller.pid world (.did caller.pid (.reply reply) ()) := ⟨rfl, .inl rfl⟩
  refine ⟨turns.kept kept (ready world holds).2 fun process info replied => ?_, turns.steps, trivial⟩
  obtain ⟨rfl, rfl⟩ : reply = .image (.ok info) ∧ caller.pid = process := by
    unfold servedImage at replied
    split at replied
    · rename_i same
      cases same
      cases replied
      exact ⟨rfl, rfl⟩
    · cases replied
  exact (new world holds info rfl).keeps turns.steps

/-- A call, from its start to its reply. -/
theorem triple_call : (contract caller.directory).Triple caller.pid caller.Ready
    (Request.prepareImage caller.rootfsDir caller.directory caller.safeImageId caller.imageRef).program
    fun _ _ => True := by
  refine Contract.Triple.bind attempt_prepareImage fun result => ?_
  cases result with
  | error cause =>
    refine triple_reply _ own_ready.stable (fun _ ready => ready) fun _ _ info same => ?_
    cases same
  | ok info =>
    refine triple_reply _ ?_ ?_ ?_
    · rintro world after kept kept' meanwhile ⟨format, path, reports⟩
      exact ⟨format, path, own_reports.stable kept kept' meanwhile reports⟩
    · rintro world ⟨format, path, reports⟩
      exact reports.ready
    · rintro world ⟨format, path, began, _, source, built, settled⟩ info same
      cases same
      exact ⟨caller.rootfsDir, caller.safeImageId, caller.imageRef, format, source, began, path, built,
        path ▸ settled⟩

end Programs

end Caller

theorem building_fresh (fresh : Fresh pid history) : building pid history = none := by
  induction history with
  | nil => rfl
  | cons event history ih =>
    rw [building_cons_other (fresh event List.mem_cons_self)]
    exact ih fun earlier member => fresh earlier (List.mem_cons_of_mem _ member)

/-- The directory holds no image yet. -/
def NoImages (directory : Path) (disk : Disk) : Prop :=
  ∀ path, IsImage directory path → disk.pathExists path = false

theorem kept_initially {disk : Disk} (none : NoImages directory disk) : Kept directory ⟨disk, []⟩ := by
  have free : ∀ path, IsImage directory path → disk.files path = .none ∧ disk.dirs path = false := by
    intro path image
    have absent := none path image
    simpa [Disk.pathExists, Disk.isFile, Disk.isDir] using absent
  refine ⟨?_, ?_, ?_, ?_, fun path image => (free path image).2, ?_⟩
  · intro path one other builds
    cases builds
  · intro pid path builds
    cases builds
  · intro pid path file builds
    cases builds
  · intro safeImageId format file found
    rw [(free _ ⟨safeImageId, format, rfl⟩).1] at found
    cases found
  · intro pid info member
    cases member

/-- In every orderly interleaving of preparations in a directory without images,
with failing operations and dying processes, every image that was ever reported
is the output of a build of the caller's image id that ran to completion, and
nobody is building it. -/
theorem served_images_complete {pool : Pool Op Answer World}
    (reached : (calls (NoImages directory)).Reachable (Orderly directory) pool) :
    ∀ pid info, (pid, info) ∈ servedImages pool.world.history → Served directory pool.world pid info := by
  refine (calls_safe (contract directory) (fun _ => kept_initially) ?_ ?_ reached).inv.served
  · rintro pid request world kept ⟨before, ⟨⟨rootfsDir, safeImageId, imageRef, rfl⟩, fresh⟩, rfl⟩
    refine @Caller.triple_call ⟨pid, rootfsDir, directory, safeImageId, imageRef⟩ _ kept ⟨?_, ?_⟩
    · exact List.mem_cons_self
    · intro path builds
      have idle : building pid before.history = none := building_fresh fresh
      rw [Building, host, building_still rfl, idle] at builds
      cases builds
  · rintro pool (⟨pid, request⟩ | ⟨pid, choice⟩ | ⟨pid⟩) allowed fresh
    · exact ⟨allowed, fresh pid request rfl⟩
    · rintro op next found
      obtain ⟨alone, fails, starts⟩ := allowed
      refine ⟨?_, ?_, ?_⟩
      · rintro path rfl
        exact alone path next found
      · rintro command rfl
        exact fails command next found
      · rintro rootfsDir output rfl
        exact starts rootfsDir output next found
    · exact allowed

section Examples

def rootfsOf : Path := .outside "rootfs".toList

/-- A root filesystem, and no image yet. -/
def started : Pool Op Answer World := ⟨⟨Disk.empty.addDir rootfsOf, []⟩, fun _ => none⟩

theorem started_begins : (calls (NoImages imagesDir)).start started := by
  refine ⟨⟨?_, rfl⟩, rfl⟩
  rintro path ⟨safeImageId, format, rfl⟩
  have elsewhere : imagePath imagesDir safeImageId format ≠ rootfsOf := by
    intro same
    cases same
  have noDir : (Disk.empty.addDir rootfsOf).dirs (imagePath imagesDir safeImageId format) = false :=
    addDir_dirs_ne elsewhere
  have noFile : (Disk.empty.addDir rootfsOf).files (imagePath imagesDir safeImageId format) = none := rfl
  simp only [started, Disk.pathExists, Disk.isFile, Disk.isDir, noDir, noFile]
  rfl

def preparation : Request := .prepareImage rootfsOf imagesDir "i".toList "x".toList

def works : Choice := {}

/-- The command fails and leaves a part of its output. -/
def breaks : Choice := { fails := true, leaves := some 3 }

def workingSteps (pid count : Nat) : List (PoolLabel Request Choice) := List.replicate count (.step pid works)

/-- One preparation from its start to its reply. -/
def onePreparation : Option (Pool Op Answer World) :=
  (calls (NoImages imagesDir)).exec started (.start 0 preparation :: workingSteps 0 17)

theorem onePreparation_ends : onePreparation.isSome = true := by decide +kernel

/-- A process on its own, none of whose operations fails, is orderly. -/
theorem one_orderly {pool : Pool Op Answer World} (reached : (calls (NoImages directory)).Reachable
    (fun _ label => stepPid label = 0 ∧ match label with
      | .start _ request => ∃ rootfsDir safeImageId imageRef,
        request = .prepareImage rootfsDir directory safeImageId imageRef
      | .step _ choice => choice.fails = false
      | .die _ => False) pool) : (calls (NoImages directory)).Reachable (Orderly directory) pool := by
  refine reached.strengthen fun state label after before allowed _ => ?_
  have own := records_of_one (before.weaken fun _ _ allowed => allowed.1)
  cases label with
  | start pid request => exact allowed.2
  | step pid choice =>
    obtain ⟨rfl, works⟩ : pid = 0 ∧ choice.fails = false := allowed
    refine ⟨fun path next _ other differs builds => ?_, fun command next _ fails => ?_, fun _ _ _ _ => works⟩
    · have fresh : Fresh other state.world.history := fun event member => by
        rw [own event member]
        exact Ne.symm differs
      rw [Building, building_fresh fresh] at builds
      cases builds
    · rw [works] at fails
      cases fails
  | die pid => exact absurd allowed.2 id

theorem one_preparation_complete :
    (servedImages (onePreparation.get onePreparation_ends).world.history).length = 1 ∧
      ∀ pid info, (pid, info) ∈ servedImages (onePreparation.get onePreparation_ends).world.history →
        Served imagesDir (onePreparation.get onePreparation_ends).world pid info := by
  refine ⟨by decide +kernel, served_images_complete (one_orderly ?_)⟩
  refine System.reachable_of_exec started_begins ?_ (Option.some_get onePreparation_ends).symm
  intro label member _
  rcases List.mem_cons.mp member with rfl | step
  · exact ⟨rfl, _, _, _, rfl⟩
  · rw [workingSteps, List.mem_replicate] at step
    obtain ⟨_, rfl⟩ := step
    exact ⟨rfl, rfl⟩

/-- `mkfs.erofs` fails in the first call, which goes on to `mksquashfs` and replies;
then a second call for the same image id runs. -/
def afterBrokenBuild : Option (Pool Op Answer World) :=
  (calls (NoImages imagesDir)).exec started (.start 0 preparation :: (workingSteps 0 10 ++
    (.step 0 breaks :: (workingSteps 0 14 ++ (.start 1 preparation :: workingSteps 1 10)))))

theorem afterBrokenBuild_some : afterBrokenBuild.isSome = true := by decide +kernel

/-- The first reply is of the second call: it names what the failed command left. -/
def brokenReply : Option (Nat × File) :=
  match servedImages (afterBrokenBuild.get afterBrokenBuild_some).world.history with
  | (pid, info) :: _ => ((afterBrokenBuild.get afterBrokenBuild_some).world.disk.files info.path).map (pid, ·)
  | [] => none

/-- Only preparations in the directory begin; everything may fail or die. -/
def Preparations (directory : Path) : PoolLabel Request Choice → Prop
  | .start _ request => ∃ rootfsDir safeImageId imageRef,
      request = .prepareImage rootfsDir directory safeImageId imageRef
  | _ => True

theorem partial_image_served : ∃ pool : Pool Op Answer World,
    (calls (NoImages imagesDir)).Reachable (fun _ label => Preparations imagesDir label) pool ∧
      ∃ pid info, (pid, info) ∈ servedImages pool.world.history ∧ ¬ Served imagesDir pool.world pid info := by
  refine ⟨afterBrokenBuild.get afterBrokenBuild_some, ?_, ?_⟩
  · refine System.reachable_of_exec started_begins ?_ (Option.some_get afterBrokenBuild_some).symm
    intro label member _
    simp only [workingSteps, List.mem_cons, List.mem_append, List.mem_replicate] at member
    rcases member with rfl | ⟨_, rfl⟩ | rfl | ⟨_, rfl⟩ | rfl | ⟨_, rfl⟩
    · exact ⟨_, _, _, rfl⟩
    · trivial
    · trivial
    · trivial
    · exact ⟨_, _, _, rfl⟩
    · trivial
  · have left : brokenReply = some (1, ⟨.image (.growing 0), 3, 0⟩) := by decide +kernel
    unfold brokenReply at left
    split at left
    · rename_i pid info replies same
      refine ⟨pid, info, same ▸ List.mem_cons_self, ?_⟩
      rintro ⟨_, _, _, _, source, _, _, _, ⟨file, found, data⟩, _⟩
      rw [found] at left
      cases left
      cases data
    · cases left

end Examples

end GuestComponents.SharedRootfs.CompleteImages
