import GuestComponents.SharedRootfs.Healing
import GuestComponents.SharedRootfs.History

/-! Every entry that calls of the library and the server write names a file of the
images directory, whatever fails, whoever dies and however the calls interleave.
So `Placed` holds of every store that earlier requests, crashes, removals and
damage can leave (`Left`), and what one undisturbed request makes of such a store
is the question `left_store_heals_iff` answers. -/
namespace GuestComponents.SharedRootfs
open Lib Program

def PlacedEntry (entry : CacheEntry) : Prop := ∃ name, entry.rootfsImagePath = .shared .images [name]

/-- Entries name files of the images directory, in whatever file they stand. -/
def AllPlaced (disk : Disk) : Prop :=
  ∀ path file entry, disk.files path = some file → file.data = .cacheEntry entry → PlacedEntry entry

theorem AllPlaced.placed {disk : Disk} (placed : AllPlaced disk) : Placed disk :=
  fun _ file entry found data => placed _ file entry found data

theorem AllPlaced.read {disk : Disk} (placed : AllPlaced disk) {key : Text} {entry : CacheEntry}
    (read : disk.readCacheEntry key = .ok (some entry)) : PlacedEntry entry := by
  obtain ⟨file, found, data, _⟩ := (disk.hits_iff).mp read
  exact placed _ file entry found data

/-- Operations that write no misplaced entry. -/
def WritesPlaced (op : Op) : Prop := ∀ path entry, op = .writeFile path (.cacheEntry entry) → PlacedEntry entry

theorem WritesPlaced.act {op : Op} (writes : WritesPlaced op) {disk : Disk} (placed : AllPlaced disk)
    (pid : Nat) (choice : Choice) : AllPlaced (act pid disk op choice).2 := by
  intro path file entry found data
  rcases act_entry found (by rw [data]; exact .cacheEntry entry) with old | ⟨source, _, moved⟩ | written
  · exact placed path file entry old data
  · exact placed source file entry moved data
  · rw [data] at written
    exact writes path entry written

/-- All interleavings, deaths and failures of calls that bring no misplaced entry. -/
def placement : Contract host where
  inv world := AllPlaced world.disk
  permits _ _ _ _ := True
  mayStart _ _ request := ∀ entry, request = .writeCache entry → PlacedEntry entry
  mayDie _ _ := True
  guarantee _ _ _ := True
  rely _ _ _ := True
  rely_refl _ _ := trivial
  rely_trans _ _ _ _ _ _ := trivial
  compatible _ _ _ _ := trivial
  starts kept _ := ⟨kept, fun _ _ => trivial⟩
  dies kept _ := ⟨kept, fun _ _ => trivial⟩

/-- Under the contract the program runs to its end, with results of this kind. -/
def Brings {α : Type} (program : Prog α) (result : α → Prop) : Prop :=
  ∀ pid, placement.Triple pid (fun _ => True) program fun value _ => result value

namespace Brings

variable {α β : Type} {result : α → Prop} {result' : β → Prop}

theorem pure {value : α} (given : result value) : Brings (Pure.pure value) result :=
  fun _ => Contract.Triple.pure (fun _ _ _ holds => holds) fun _ _ _ => given

theorem bind {program : Prog α} {rest : α → Prog β} (one : Brings program result)
    (two : ∀ value, result value → Brings (rest value) result') : Brings (program >>= rest) result' := by
  intro pid
  refine Contract.Triple.bind (one pid) fun value world kept given => ?_
  exact two value given pid world kept trivial

theorem bind_fallible {program : Fail α} {rest : α → Fail β} (result : α → Prop)
    (one : Brings program.run fun outcome => ∀ value, outcome = .ok value → result value)
    (two : ∀ value, result value → Brings (rest value).run fun _ => True) :
    Brings (program >>= rest).run fun _ => True := by
  refine bind one ?_
  rintro (error | value) given
  · exact pure trivial
  · exact two value (given value rfl)

theorem weaken {program : Prog α} {other : α → Prop} (brings : Brings program result)
    (implies : ∀ value, result value → other value) : Brings program other :=
  fun pid => (brings pid).consequence (fun _ _ holds => holds) fun value _ _ given => implies value given

theorem lift {program : Prog α} (brings : Brings program result) :
    Brings (ExceptT.lift program : Fail α).run fun outcome => ∀ value, outcome = .ok value → result value := by
  refine bind brings fun value given => pure ?_
  intro other same
  cases same
  exact given

/-- One part after another, where only the end matters. -/
theorem andThen {program : Fail α} {rest : α → Fail β} (one : Brings program.run fun _ => True)
    (two : ∀ value, Brings (rest value).run fun _ => True) :
    Brings (program >>= rest).run fun _ => True :=
  bind_fallible (fun _ => True) (one.weaken fun _ _ _ _ => trivial) fun value _ => two value

theorem ask {program : Prog α} (brings : Brings program fun _ => True) :
    Brings (SharedRootfs.ask program).run fun _ => True :=
  brings.lift.weaken fun _ _ => trivial

theorem withContext {program : Fail α} (message : String) (path : Path)
    (brings : Brings program.run fun _ => True) :
    Brings (SharedRootfs.withContext message path program).run fun _ => True := by
  refine bind brings ?_
  rintro (cause | value) _ <;> exact pure trivial

/-- Programs of operations that write no entry. -/
theorem only {program : Prog α} (only : Only WritesPlaced program) : Brings program fun _ => True :=
  fun pid => Contract.Triple.only only (fun _ _ _ holds => holds)
    fun _ _ choice writes placed _ _ => ⟨writes.act placed pid choice, trivial, trivial⟩

theorem returns {program : Prog α} (only : Only WritesPlaced program) (returns : program.Returns result) :
    Brings program result :=
  fun pid => ((Brings.only only pid).returns returns).consequence (fun _ _ holds => holds)
    fun _ _ _ holds => holds.1

theorem read (site : Site) (key : Text) : Brings (readSharedRootfsCacheEntry site key).run
    fun outcome => ∀ found, outcome = .ok found → ∀ entry, found = some entry → PlacedEntry entry := by
  intro pid
  refine Contract.Triple.perform (fun _ _ _ holds => holds) (fun _ => fun _ _ _ holds => holds) ?_
  intro world choice placed _ _
  refine ⟨placed, trivial, ?_⟩
  intro found outcome entry same
  subst same
  simp only [host, SharedRootfs.act] at outcome
  split at outcome
  · cases outcome
  · exact placed.read outcome

end Brings

theorem writesPlaced_of_not_write {op : Op} (other : ∀ path data, op ≠ .writeFile path data) :
    WritesPlaced op := fun path _ same => absurd same (other path _)

theorem Quiet.writesPlaced {op : Op} (quiet : Quiet op) : WritesPlaced op := by
  cases quiet <;> exact writesPlaced_of_not_write fun _ _ => by simp

theorem ImageOp.writesPlaced {files : Path → Prop} {op : Op} (image : ImageOp files op) :
    WritesPlaced op := by
  cases image with
  | quiet quiet => exact quiet.writesPlaced
  | writeFile own => intro path entry same; cases same
  | _ => exact writesPlaced_of_not_write fun _ _ => by simp

theorem BundleOp.writesPlaced {op : Op} (bundle : BundleOp op) : WritesPlaced op := by
  cases bundle with
  | quiet quiet => exact quiet.writesPlaced
  | writeFile => intro path entry same; cases same
  | _ => exact writesPlaced_of_not_write fun _ _ => by simp

theorem MarkerOp.writesPlaced {imageRef : Text} {op : Op} (marker : MarkerOp imageRef op) : WritesPlaced op := by
  cases marker with
  | mark => intro path entry same; cases same
  | _ => exact writesPlaced_of_not_write fun _ _ => by simp

theorem EntryOp.writesPlaced {entry : CacheEntry} {op : Op} (placed : PlacedEntry entry)
    (writes : EntryOp entry op) : WritesPlaced op := by
  cases writes with
  | writeFile names => intro path other same; cases same; exact placed
  | _ => exact writesPlaced_of_not_write fun _ _ => by simp

theorem only_mark_placed (imageRef : Text) : Only WritesPlaced (markSharedRootfsCachePending imageRef).run :=
  (only_markSharedRootfsCachePending imageRef).weaken fun _ marker => marker.writesPlaced

theorem only_clear_placed (imageRef : Text) : Only WritesPlaced (clearSharedRootfsCachePending imageRef) :=
  (only_clearSharedRootfsCachePending imageRef).weaken fun _ marker => marker.writesPlaced

theorem only_writeCache_placed {entry : CacheEntry} (placed : PlacedEntry entry) :
    Only WritesPlaced (writeSharedRootfsCacheEntry entry).run :=
  (only_writeSharedRootfsCacheEntry entry).weaken fun _ writes => writes.writesPlaced placed

theorem LookOp.writesPlaced {imageRef : Text} {op : Op} (look : LookOp imageRef op) : WritesPlaced op := by
  cases look <;> exact writesPlaced_of_not_write fun _ _ => by simp

/-- The entry made of a built image is placed like the image. -/
theorem brings_inner (reference id : Text) (bundleDir : Path) :
    Brings (prepareFromBundleInner reference id bundleDir).run fun _ => True := by
  have quiet : ∀ {op : Op}, Quiet op → Only WritesPlaced (call op) := fun quiet => only_perform quiet.writesPlaced
  refine Brings.andThen (Brings.only (quiet (.isDir _))).ask fun present => ?_
  split
  · refine Brings.andThen (Brings.only (quiet (.createDirAll .images))) fun _ => ?_
    refine Brings.bind_fallible (fun info : RootfsImageInfo => ∃ name, info.path = .shared .images [name])
      ?_ fun info placed => ?_
    · have image := (only_prepareSharedRootfsImage (Disk.bundleRootfs bundleDir) imagesDir
        (sanitizePathComponent id)).weaken fun _ image => image.writesPlaced
      refine (Brings.returns image gives_prepareSharedRootfsImage).weaken fun outcome given info same => ?_
      obtain ⟨format, path⟩ := given info same
      exact ⟨_, path⟩
    · refine Brings.andThen (Brings.only (only_perform (writesPlaced_of_not_write fun _ _ => by simp)))
        fun share => ?_
      refine Brings.andThen (Brings.only (quiet (.readConfig _))).ask fun read => ?_
      exact Brings.only (Only.bind_fallible (only_writeCache_placed placed) fun _ => trivial)
  · exact Brings.pure trivial

/-- An entry written under another reference names the same image file. -/
theorem brings_prepare (reference id : Text) (bundleDir : Path) :
    Brings (prepareSharedRootfsCacheFromBundle reference id bundleDir).run fun _ => True := by
  refine Brings.andThen ((Brings.read _ _).weaken fun _ _ => trivial) fun known => ?_
  split
  · exact Brings.pure trivial
  · refine Brings.bind_fallible _ (Brings.read .byImageId id) fun known placed => ?_
    split
    · rename_i entry
      refine Brings.andThen (Brings.only (only_writeCache_placed ?_)) fun _ => Brings.pure trivial
      exact placed entry rfl
    · refine Brings.andThen (Brings.only (only_mark_placed _)) fun _ => ?_
      refine Brings.andThen (brings_inner _ _ _).ask fun result => ?_
      exact Brings.andThen (Brings.only (only_clear_placed _)).ask fun _ => Brings.pure trivial

theorem brings_pullAndPrepare (reference : Text) :
    Brings (pullAndPrepare reference).run fun _ => True := by
  refine Brings.andThen (Brings.only (only_perform Quiet.nowMillis.writesPlaced)).ask fun requestId => ?_
  refine Brings.andThen (Brings.only (only_perform ?_)) fun _ => ?_
  · exact writesPlaced_of_not_write fun _ _ => by simp
  refine Brings.andThen (Brings.only (only_perform (Quiet.createDirAll _).writesPlaced)) fun _ => ?_
  refine Brings.andThen (Brings.only (only_mark_placed reference)).ask fun marked => ?_
  have clear : Only WritesPlaced (clearMarked reference marked) :=
    clearMarked_cases (only_clear_placed _) trivial marked
  refine Brings.andThen (Brings.only (only_perform ?_)).ask fun pulled => ?_
  · exact writesPlaced_of_not_write fun _ _ => by simp
  split
  · exact Brings.andThen (Brings.only clear).ask fun _ => Brings.pure trivial
  · refine Brings.andThen (Brings.only ?_).ask fun _ => ?_
    · exact (only_writeSharedRootfsBundleEntry _).weaken fun _ bundle => bundle.writesPlaced
    · refine Brings.andThen ((brings_prepare _ _ _).withContext _ _).ask fun entry => ?_
      exact Brings.andThen (Brings.only clear).ask fun _ => Brings.pure trivial

theorem brings_prepareRootfsResponse (reference : Text) (polls : Nat) :
    Brings (prepareRootfsResponse reference polls).run fun _ => True := by
  have look := (only_lookupCachedSharedRootfs reference polls).weaken fun _ look => look.writesPlaced
  refine Brings.andThen ?_ fun entry => Brings.pure trivial
  refine Brings.andThen (Brings.only look) fun found => ?_
  split
  · exact Brings.pure trivial
  · refine Brings.andThen (Brings.only ?_).ask fun bundle => ?_
    · exact (only_lookupPulledBundle _).weaken fun _ bundle => bundle.writesPlaced
    · split
      · exact (brings_prepare _ _ _).withContext _ _
      · exact brings_pullAndPrepare _

theorem brings_request {request : Request} (mayStart : ∀ entry, request = .writeCache entry → PlacedEntry entry) :
    Brings request.program fun _ => True := by
  have reply : ∀ reply, Brings (call (.reply reply)) fun _ => True := fun _ =>
    Brings.only (only_perform (writesPlaced_of_not_write fun _ _ => by simp))
  cases request with
  | writeCache entry =>
    exact Brings.bind (Brings.only (only_writeCache_placed (mayStart entry rfl))) fun _ _ => reply _
  | writeBundle entry =>
    have bundle := (only_writeSharedRootfsBundleEntry entry).weaken fun _ bundle => bundle.writesPlaced
    exact Brings.bind (Brings.only bundle) fun _ _ => reply _
  | prepare reference id bundleDir => exact Brings.bind (brings_prepare _ _ _) fun _ _ => reply _
  | prepareImage rootfsDir imagesDir safeImageId reference =>
    have image := (only_prepareSharedRootfsImage rootfsDir imagesDir safeImageId).weaken
      fun _ image => image.writesPlaced
    exact Brings.bind (Brings.only image) fun _ _ => reply _
  | wait reference polls =>
    have look := (only_waitForSharedRootfsCacheEntry reference polls).weaken fun _ look => look.writesPlaced
    exact Brings.bind (Brings.only look) fun _ _ => reply _
  | prepareRootfs reference polls =>
    exact Brings.bind (brings_prepareRootfsResponse _ _) fun _ _ => reply _

/-- The stores that a history of requests, failures, deaths, removals and damage
can leave. -/
inductive Left : Disk → Prop where
  | empty : Left .empty
  | ran {disk : Disk} {pool : Pool Op Answer World} : Left disk →
      (calls fun start => start = disk).Reachable (fun _ label => ∀ pid entry,
        label = .start pid (.writeCache entry) → PlacedEntry entry) pool → Left pool.world.disk
  | removed {disk : Disk} (path : Path) : Left disk → Left (disk.drop path)
  | removedDir {disk : Disk} (path : Path) : Left disk →
      Left { disk with dirs := Function.update disk.dirs path false }
  | corrupted {disk : Disk} (path : Path) (data : List UInt8) (size modified : Nat) : Left disk →
      Left (disk.put path ⟨.bytes data, size, modified⟩)
  | truncated {disk : Disk} (path : Path) (size modified : Nat) : Left disk →
      Left (disk.put path ⟨.image .damaged, size, modified⟩)

private theorem put_placed {disk : Disk} {path : Path} {file : File} (placed : AllPlaced disk)
    (other : ∀ entry, file.data ≠ .cacheEntry entry) : AllPlaced (disk.put path file) := by
  intro target stored entry found data
  by_cases same : target = path
  · subst same
    rw [put_files_self] at found
    cases found
    exact absurd data (other entry)
  · rw [put_files_ne same] at found
    exact placed target stored entry found data

private theorem PoolSafe.allPlaced {pool : Pool Op Answer World} (safe : placement.PoolSafe pool) :
    AllPlaced pool.world.disk := safe.inv

theorem Left.placed {disk : Disk} (left : Left disk) : AllPlaced disk := by
  induction left with
  | empty =>
    intro path file entry found _
    cases found
  | ran _ reached placed =>
    refine PoolSafe.allPlaced (Contract.pool_safe ?_ ?_ (reached.weaken ?_))
    · rintro world ⟨same, _⟩
      subst same
      exact placed
    · rintro pid request world kept ⟨before, mayStart, _⟩
      exact brings_request mayStart pid world kept trivial
    · rintro state (⟨pid, request⟩ | ⟨pid, choice⟩ | ⟨pid⟩) allowed
      · rintro entry rfl
        exact allowed pid entry rfl
      · exact fun _ _ _ => trivial
      · trivial
  | removed path _ placed =>
    intro target file entry found data
    by_cases same : target = path
    · subst same
      rw [drop_files_self] at found
      cases found
    · rw [drop_files_ne same] at found
      exact placed target file entry found data
  | removedDir path _ placed => exact placed
  | corrupted path bytes size modified _ placed => exact put_placed placed fun _ => by simp
  | truncated path size modified _ placed => exact put_placed placed fun _ => by simp

/-- Over every store that may be left, a request with everything on its side
succeeds and leaves a valid entry exactly when the store is healable. -/
theorem left_store_heals_iff {pid : Nat} {env : World → Op → Choice} {imageRef imageId : Text}
    {available : String → Bool} (succeeds : Succeeds env imageRef imageId available) {world : World}
    (left : Left world.disk) (polls : Nat) :
    ((∃ response, (host.alone pid env (prepareRootfsResponse imageRef polls).run world).1 = .ok response) ∧
      ∃ entry, (host.alone pid env (prepareRootfsResponse imageRef polls).run world).2.disk.Hits
        imageRef entry) ↔
    Healable world.disk imageRef imageId (firstFormat available) :=
  request_heals_iff succeeds world left.placed.placed polls

section Examples

/-- A host on which everything succeeds, and whose registry serves one image. -/
def obligingChoice : Choice := { imageId := "i".toList }

theorem obliging_succeeds :
    Succeeds (fun _ _ => obligingChoice) "x".toList "i".toList fun _ => true where
  works _ _ := rfl
  pulls _ _ := rfl
  named := by decide
  shares _ _ _ _ := by decide
  builds _ _ := by decide
  tools _ _ := rfl

theorem empty_store_heals :
    (∃ response, (host.alone 0 (fun _ _ => obligingChoice)
      (prepareRootfsResponse "x".toList 0).run ⟨.empty, []⟩).1 = .ok response) ∧
    ∃ entry, (host.alone 0 (fun _ _ => obligingChoice)
      (prepareRootfsResponse "x".toList 0).run ⟨.empty, []⟩).2.disk.Hits "x".toList entry :=
  (@left_store_heals_iff 0 _ _ _ _ obliging_succeeds ⟨.empty, []⟩ .empty 0).mpr (by decide)

/-- The first request for an image, from an empty store to its end. -/
def firstRequest : List (PoolLabel Request Choice) :=
  .start 0 (.prepareRootfs "x".toList 0) :: List.replicate 50 (.step 0 obligingChoice)

def afterFirstRequest : Option (Pool Op Answer World) :=
  (calls fun disk => disk = .empty).exec ⟨⟨.empty, []⟩, fun _ => none⟩ firstRequest

theorem firstRequest_ends : afterFirstRequest.isSome = true := by decide +kernel

/-- What is left when the image file of the served reference is removed. -/
def withoutImage : Disk :=
  (afterFirstRequest.get firstRequest_ends).world.disk.drop (imagePath imagesDir "i".toList .erofs)

theorem withoutImage_left : Left withoutImage := by
  refine .removed _ (.ran .empty ?_)
  refine System.reachable_of_exec ⟨⟨rfl, rfl⟩, rfl⟩ ?_ (Option.some_get firstRequest_ends).symm
  intro label begun state pid entry same
  subst same
  simp [firstRequest] at begun

/-- The entry is a miss to the lookup and an error to the library, and requests
for the reference fail for good. -/
theorem removed_image_not_healed : Left withoutImage ∧
    Succeeds (fun _ _ => obligingChoice) "x".toList "i".toList (fun _ => true) ∧
    ∃ error, (host.alone 0 (fun _ _ => obligingChoice)
      (prepareRootfsResponse "x".toList 0).run ⟨withoutImage, []⟩).1 = .error error := by
  refine ⟨withoutImage_left, obliging_succeeds, ?_⟩
  have failed : (host.alone 0 (fun _ _ => obligingChoice) (prepareRootfsResponse "x".toList 0).run
      ⟨withoutImage, []⟩).1.toOption = none := by decide +kernel
  revert failed
  cases (host.alone 0 (fun _ _ => obligingChoice) (prepareRootfsResponse "x".toList 0).run
    ⟨withoutImage, []⟩).1 with
  | error error => exact fun _ => ⟨error, rfl⟩
  | ok response => intro impossible; cases impossible

end Examples

end GuestComponents.SharedRootfs
