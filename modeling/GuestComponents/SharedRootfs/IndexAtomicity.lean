import GuestComponents.SharedRootfs.IndexFiles

/-! The files of an index are atomic as long as no process opens a temporary file
that another one has opened and not renamed yet. Under that condition a file
with a lasting name is settled: it holds a whole entry and is never written
again, so a reader that has it open reads that entry whatever the others do. Two
writers of one key share their temporary file, and without the condition a
reader can meet a truncated one, and the second rename finds no file. -/
namespace GuestComponents.SharedRootfs.IndexFiles
open Lib

variable {Entry : Type}

section Statements

variable (index : Index Entry) (entries : Nat → Entry)

/-- The temporary file of some key. -/
def Temporary (path : Path) : Prop := ∃ key, path = index.tmpPath key

/-- A process that was to write this entry, a valid one, wrote it and renamed it
to this path. -/
def Published (world : World Entry) (path : Path) (entry : Entry) : Prop :=
  index.validate entry = .ok () ∧ ∃ pid writer, entries writer = entry ∧
    (pid, .write writer) ∈ world.requests ∧ (pid, path) ∈ world.renamed

/-- A write ends as the check of its entry does; a read gives nothing, or an entry
that one writer wrote. -/
def Good (world : World Entry) : Reply Entry → Prop
  | .wrote entry result => result = index.validate entry
  | .read key result => result = .ok none ∨
      ∃ entry, result = .ok (some entry) ∧ Published index entries world (index.path key) entry

/-- Every call that has ended ended well. -/
def Atomic (world : World Entry) : Prop := ∀ reply ∈ world.replies, Good index entries world reply

/-- No process opens a temporary file between another one's open and rename of it. -/
def Exclusive (pool : Pool (Op Entry) Answer (World Entry)) : PoolLabel Request Unit → Prop
  | .step pid _ => ∀ path next, pool.procs pid = some (.call (.create path) next) →
      ∀ other, other ≠ pid → ∀ inode, pool.world.holds other ≠ some (path, inode)
  | _ => True

/-- What holds of the files while temporary files are not shared. -/
structure Inv (world : World Entry) : Prop where
  bound : ∀ pid path inode, world.holds pid = some (path, inode) →
    Temporary index path ∧ world.files.inodeOf path = some inode
  alone : ∀ pid other path inode inode', world.holds pid = some (path, inode) →
    world.holds other = some (path, inode') → pid = other
  published : ∀ key inode, world.files.inodeOf (index.path key) = some inode → ∃ entry,
    Published index entries world (index.path key) entry ∧
      world.files.content inode = index.toVec entry
  atomic : Atomic index entries world

/-- What a process may count on while the others act. -/
structure Rely (pid : Nat) (world after : World Entry) : Prop where
  settled : world.files.Keeps (Temporary index) after.files
  held : ∀ path inode, world.holds pid = some (path, inode) →
    after.holds pid = some (path, inode) ∧ after.files.content inode = world.files.content inode
  dirs : ∀ path, world.dirs path = true → after.dirs path = true
  requests : world.requests ⊆ after.requests
  renamed : world.renamed ⊆ after.renamed

end Statements

variable {index : Index Entry} {entries : Nat → Entry} {world after : World Entry} {pid : Nat}

theorem lasting (key : Text) : ¬ Temporary index (index.path key) := by
  rintro ⟨other, same⟩
  exact index.apart key other same

theorem Rely.refl : Rely index pid world world :=
  ⟨.refl, fun _ _ held => ⟨held, rfl⟩, fun _ made => made, List.Subset.refl _, List.Subset.refl _⟩

theorem Rely.trans {last : World Entry} (first : Rely index pid world after)
    (second : Rely index pid after last) : Rely index pid world last where
  settled := first.settled.trans second.settled
  held path inode held := by
    obtain ⟨held', same⟩ := first.held path inode held
    obtain ⟨held'', same'⟩ := second.held path inode held'
    exact ⟨held'', same'.trans same⟩
  dirs path made := second.dirs path (first.dirs path made)
  requests := List.Subset.trans first.requests second.requests
  renamed := List.Subset.trans first.renamed second.renamed

theorem Published.later {path : Path} {entry : Entry} (done : Published index entries world path entry)
    (requests : world.requests ⊆ after.requests) (renamed : world.renamed ⊆ after.renamed) :
    Published index entries after path entry := by
  obtain ⟨valid, pid, writer, same, asked, moved⟩ := done
  exact ⟨valid, pid, writer, same, requests asked, renamed moved⟩

theorem Good.later {reply : Reply Entry} (good : Good index entries world reply)
    (requests : world.requests ⊆ after.requests) (renamed : world.renamed ⊆ after.renamed) :
    Good index entries after reply := by
  cases reply with
  | wrote entry result => exact good
  | read key result =>
    rcases good with nothing | ⟨entry, given, done⟩
    · exact .inl nothing
    · exact .inr ⟨entry, given, done.later requests renamed⟩

/-- A step that changes neither the files nor who holds one. -/
theorem Inv.later (inv : Inv index entries world) (files : after.files = world.files)
    (holds : after.holds = world.holds) (requests : world.requests ⊆ after.requests)
    (renamed : world.renamed ⊆ after.renamed)
    (atomic : Atomic index entries after) : Inv index entries after where
  bound := by
    rw [files, holds]
    exact inv.bound
  alone := by
    rw [holds]
    exact inv.alone
  published key inode found := by
    rw [files] at found ⊢
    obtain ⟨entry, done, whole⟩ := inv.published key inode found
    exact ⟨entry, done.later requests renamed, whole⟩
  atomic := atomic

theorem Atomic.later (atomic : Atomic index entries world)
    (requests : world.requests ⊆ after.requests) (renamed : world.renamed ⊆ after.renamed)
    (replies : after.replies = world.replies) : Atomic index entries after := by
  intro reply member
  rw [replies] at member
  exact (atomic reply member).later requests renamed

/-- What the processes hold after one of them has let go of its file. -/
private theorem still_held {holds : Nat → Option (Path × Nat)} {other : Nat} {file : Path × Nat}
    (found : Function.update holds pid none other = some file) :
    other ≠ pid ∧ holds other = some file := by
  by_cases same : other = pid
  · rw [same, Function.update_self] at found
    cases found
  · rw [Function.update_of_ne same] at found
    exact ⟨same, found⟩

/-- What the processes hold after one of them has opened a file. -/
private theorem opened_holds {path : Path} {other : Nat} {file : Path × Nat}
    (found : (world.opened pid path).holds other = some file) :
    (other = pid ∧ file = (path, (world.files.create path).1)) ∨
      (other ≠ pid ∧ world.holds other = some file) := by
  change Function.update world.holds pid _ other = some file at found
  by_cases same : other = pid
  · rw [same, Function.update_self] at found
    cases found
    exact .inl ⟨same, rfl⟩
  · rw [Function.update_of_ne same] at found
    exact .inr ⟨same, found⟩

variable (index entries) in
/-- The steps that are considered, and what they keep. -/
def exclusive : Contract (@kernel Entry) where
  inv := Inv index entries
  permits pid world op _ := ∀ path, op = .create path →
    ∀ other, other ≠ pid → ∀ inode, world.holds other ≠ some (path, inode)
  mayStart _ _ _ := True
  mayDie _ _ := True
  guarantee pid world after := ∀ other, other ≠ pid → Rely index other world after
  rely := Rely index
  rely_refl _ _ := .refl
  rely_trans _ _ _ _ := .trans
  compatible differs _ _ guaranteed := guaranteed _ (Ne.symm differs)
  starts {pid world request} inv _ := by
    have requests := List.subset_cons_self (pid, request) world.requests
    constructor
    · exact inv.later rfl rfl requests (List.Subset.refl _)
        (inv.atomic.later requests (List.Subset.refl _) rfl)
    · exact fun _ _ => ⟨.refl, fun _ _ held => ⟨held, rfl⟩, fun _ made => made, requests,
        List.Subset.refl _⟩
  dies {pid world} inv _ := by
    constructor
    · constructor
      · exact fun other path inode held => inv.bound other path inode (still_held held).2
      · exact fun one other path inode inode' held held' =>
          inv.alone one other path inode inode' (still_held held).2 (still_held held').2
      · exact inv.published
      · exact inv.atomic.later (List.Subset.refl _) (List.Subset.refl _) rfl
    · intro other differs
      refine ⟨.refl, fun path inode held => ⟨?_, rfl⟩, fun _ made => made, List.Subset.refl _,
        List.Subset.refl _⟩
      exact (Function.update_of_ne differs ..).trans held

section Steps

variable {key : Text} {inode : Nat} {byte : UInt8}

/-- Opening a temporary file that no other process holds. -/
theorem create_step (inv : Inv index entries world)
    (free : ∀ other, other ≠ pid → ∀ inode, world.holds other ≠ some (index.tmpPath key, inode))
    (made : world.dirs (index.tmpPath key).parent = true) :
    ∃ after inode, perform pid world (.create (index.tmpPath key)) = (some inode, after) ∧
      Inv index entries after ∧ (∀ other, other ≠ pid → Rely index other world after) ∧
      after.requests = world.requests ∧ after.holds pid = some (index.tmpPath key, inode) ∧
      after.files.content inode = [] := by
  have temp : Temporary index (index.tmpPath key) := ⟨key, rfl⟩
  have kept : world.files.Keeps (Temporary index) (world.files.create (index.tmpPath key)).2 :=
    Inodes.create_keeps temp
  refine ⟨world.opened pid (index.tmpPath key), _, by rw [perform, if_pos made], ⟨?_, ?_, ?_, ?_⟩, ?_,
    rfl, Function.update_self .., Inodes.create_content_self⟩
  · intro other path inode held
    rcases opened_holds held with ⟨_, mine⟩ | ⟨differs, before⟩
    · cases mine
      exact ⟨temp, Inodes.create_inodeOf_self⟩
    · obtain ⟨temp', found⟩ := inv.bound other path inode before
      have apart : path ≠ index.tmpPath key := by
        rintro rfl
        exact free other differs inode before
      exact ⟨temp', (Inodes.create_inodeOf_ne apart).trans found⟩
  · intro one other path inode inode' held held'
    rcases opened_holds held with ⟨rfl, mine⟩ | ⟨differs, before⟩ <;>
      rcases opened_holds held' with ⟨rfl, yours⟩ | ⟨differs', before'⟩
    · rfl
    · cases mine
      exact absurd before' (free other differs' inode')
    · cases yours
      exact absurd before (free one differs inode)
    · exact inv.alone one other path inode inode' before before'
  · intro name inode found
    rw [World.opened, Inodes.create_inodeOf_ne (index.apart name key)] at found
    obtain ⟨entry, done, whole⟩ := inv.published name inode found
    exact ⟨entry, done, (kept inode (Inodes.settled_of_name found (lasting name))).2.trans whole⟩
  · exact inv.atomic.later (List.Subset.refl _) (List.Subset.refl _) rfl
  · intro other differs
    refine ⟨kept, fun path inode held => ⟨?_, ?_⟩, fun _ made => made, List.Subset.refl _,
      List.Subset.refl _⟩
    · exact (Function.update_of_ne differs ..).trans held
    · apply Inodes.create_content_ne
      obtain ⟨_, found⟩ := inv.bound other path inode held
      rcases @Inodes.create_fst _ _ world.files (index.tmpPath key) with known | fresh
      · rintro rfl
        have same := world.files.single _ _ _ found known
        subst same
        exact free other differs _ held
      · rw [fresh]
        exact Nat.ne_of_lt (world.files.used _ _ found)

/-- Writing to the temporary file that the process holds. -/
theorem write_step (inv : Inv index entries world) {path : Path} {offset : Nat}
    (held : world.holds pid = some (path, inode)) :
    Inv index entries (perform pid world (.write inode offset byte)).2 ∧
      ∀ other, other ≠ pid → Rely index other world (perform pid world (.write inode offset byte)).2 := by
  obtain ⟨temp, found⟩ := inv.bound pid path inode held
  have kept : world.files.Keeps (Temporary index) (world.files.write inode offset byte) :=
    Inodes.write_keeps found temp
  refine ⟨⟨inv.bound, inv.alone, ?_, ?_⟩, ?_⟩
  · intro name other known
    obtain ⟨entry, done, whole⟩ := inv.published name other known
    exact ⟨entry, done, (kept other (Inodes.settled_of_name known (lasting name))).2.trans whole⟩
  · exact inv.atomic.later (List.Subset.refl _) (List.Subset.refl _) rfl
  · intro other differs
    refine ⟨kept, fun path' inode' held' => ⟨held', ?_⟩, fun _ made => made, List.Subset.refl _,
      List.Subset.refl _⟩
    apply Inodes.write_content_ne
    rintro rfl
    obtain ⟨_, found'⟩ := inv.bound other path' inode' held'
    have same := world.files.single _ _ _ found' found
    subst same
    exact differs (inv.alone _ _ _ _ _ held' held)

/-- Renaming the temporary file that the process holds, once it has a whole entry. -/
theorem rename_step (inv : Inv index entries world) {writer : Nat}
    (asked : (pid, .write writer) ∈ world.requests)
    (valid : index.validate (entries writer) = .ok ())
    (held : world.holds pid = some (index.tmpPath key, inode))
    (whole : world.files.content inode = index.toVec (entries writer)) :
    ∃ after, perform pid world (.rename (index.tmpPath key) (index.path key)) = (true, after) ∧
      Inv index entries after ∧ (∀ other, other ≠ pid → Rely index other world after) ∧
      after.requests = world.requests := by
  obtain ⟨temp, found⟩ := inv.bound pid _ inode held
  obtain ⟨files, renamed, content, unused, names⟩ :=
    @Inodes.rename_some _ _ _ _ (index.path key) _ found
  have grown := List.subset_cons_self (pid, index.path key) world.renamed
  refine ⟨world.moved pid (index.path key) files, by rw [perform, renamed], ⟨?_, ?_, ?_, ?_⟩, ?_, rfl⟩
  · intro other path inode' held'
    obtain ⟨differs, before⟩ := still_held held'
    obtain ⟨temp', found'⟩ := inv.bound other path inode' before
    refine ⟨temp', ?_⟩
    rw [World.moved, names, Function.update_of_ne, Function.update_of_ne]
    · exact found'
    · rintro rfl
      exact differs (inv.alone _ _ _ _ _ before held)
    · rintro rfl
      exact lasting key temp'
  · exact fun one other path inode inode' held held' =>
      inv.alone one other path inode inode' (still_held held).2 (still_held held').2
  · intro name inode' known
    rw [World.moved, names] at known
    rw [World.moved, content]
    by_cases here : index.path name = index.path key
    · rw [here, Function.update_self] at known
      cases known
      refine ⟨entries writer, ⟨valid, pid, writer, rfl, asked, ?_⟩, whole⟩
      rw [here]
      exact List.mem_cons_self
    · rw [Function.update_of_ne here, Function.update_of_ne (index.apart name key)] at known
      obtain ⟨entry, done, complete⟩ := inv.published name inode' known
      exact ⟨entry, done.later (List.Subset.refl _) grown, complete⟩
  · exact inv.atomic.later (List.Subset.refl _) grown rfl
  · intro other differs
    refine ⟨Inodes.rename_keeps (lasting key) renamed, fun path inode' held' => ⟨?_, ?_⟩,
      fun _ made => made, List.Subset.refl _, grown⟩
    · exact (Function.update_of_ne differs ..).trans held'
    · rw [World.moved, content]

end Steps

/-! ## The programs -/

section Programs

variable {key : Text} {writer inode : Nat} {entry : Entry} {data : List UInt8}

/-- The process was to write this entry. -/
def Asked (pid writer : Nat) (world : World Entry) : Prop := (pid, .write writer) ∈ world.requests

/-- The process holds the temporary file of the key, with these bytes in it. -/
def Writing (index : Index Entry) (key : Text) (pid writer inode : Nat) (data : List UInt8)
    (world : World Entry) : Prop :=
  Asked pid writer world ∧ world.holds pid = some (index.tmpPath key, inode) ∧
    world.files.content inode = data

/-- The process has a settled file open that holds a published entry of the key. -/
def Reading (index : Index Entry) (entries : Nat → Entry) (key : Text) (inode : Nat) (entry : Entry)
    (world : World Entry) : Prop :=
  world.files.Settled (Temporary index) inode ∧ world.files.content inode = index.toVec entry ∧
    Published index entries world (index.path key) entry

theorem asked_stable : (exclusive index entries).Stable pid (Asked pid writer) :=
  fun _ _ moved asked => moved.requests asked

theorem writing_stable :
    (exclusive index entries).Stable pid (Writing index key pid writer inode data) := by
  rintro world after _ _ moved ⟨asked, held, same⟩
  obtain ⟨held', same'⟩ := moved.held _ _ held
  exact ⟨moved.requests asked, held', same'.trans same⟩

theorem reading_stable :
    (exclusive index entries).Stable pid (Reading index entries key inode entry) := by
  rintro world after _ _ moved ⟨settled, whole, done⟩
  obtain ⟨settled', same⟩ := moved.settled inode settled
  exact ⟨settled', same.trans whole, done.later moved.requests moved.renamed⟩

theorem triple_createDirAll {path : Path} :
    (exclusive index entries).Triple pid (Asked pid writer) (call (.createDirAll path))
      fun _ world => Asked pid writer world ∧ world.dirs path = true := by
  apply Contract.Triple.perform asked_stable
  · rintro _ world after _ _ moved ⟨asked, made⟩
    exact ⟨moved.requests asked, moved.dirs path made⟩
  · intro world _ inv asked _
    have kept : ∀ other, world.dirs other = true →
        Function.update world.dirs path true other = true := by
      intro other made
      by_cases same : other = path
      · rw [same, Function.update_self]
      · rw [Function.update_of_ne same]
        exact made
    refine ⟨inv.later rfl rfl (List.Subset.refl _) (List.Subset.refl _) inv.atomic, ?_,
      asked, Function.update_self ..⟩
    exact fun _ _ => ⟨.refl, fun _ _ held => ⟨held, rfl⟩, kept, List.Subset.refl _, List.Subset.refl _⟩

theorem triple_create :
    (exclusive index entries).Triple pid
      (fun world => Asked pid writer world ∧ world.dirs (index.tmpPath key).parent = true)
      (call (.create (index.tmpPath key)))
      fun answer world => ∃ inode, answer = some inode ∧ Writing index key pid writer inode [] world := by
  apply Contract.Triple.perform
  · rintro world after _ _ moved ⟨asked, made⟩
    exact ⟨moved.requests asked, moved.dirs _ made⟩
  · rintro answer world after inv inv' moved ⟨inode, given, writing⟩
    exact ⟨inode, given, writing_stable inv inv' moved writing⟩
  · rintro world choice inv ⟨asked, made⟩ allowed
    obtain ⟨after, inode, ran, inv', others, requests, held, blank⟩ :=
      create_step inv (allowed _ rfl) made
    have ran' : kernel.perform pid world (.create (index.tmpPath key)) choice = (some inode, after) := ran
    rw [ran']
    refine ⟨inv', others, inode, rfl, ?_, held, blank⟩
    rw [Asked, requests]
    exact asked

theorem triple_write {byte : UInt8} :
    (exclusive index entries).Triple pid (Writing index key pid writer inode data)
      (call (.write inode data.length byte))
      fun _ => Writing index key pid writer inode (data ++ [byte]) := by
  apply Contract.Triple.perform writing_stable
  · exact fun _ => writing_stable
  · rintro world choice inv ⟨asked, held, rfl⟩ _
    obtain ⟨inv', others⟩ :=
      @write_step _ _ _ _ _ _ byte inv _ (world.files.content inode).length held
    refine ⟨inv', others, asked, held, ?_⟩
    exact Inodes.write_content_self.trans (Inodes.putByte_end _)

/-- What is written goes behind what is there. -/
theorem triple_writeAll (rest : List UInt8) :
    (exclusive index entries).Triple pid (Writing index key pid writer inode data)
      (writeAll inode data.length rest)
      fun _ => Writing index key pid writer inode (data ++ rest) := by
  induction rest generalizing data with
  | nil =>
    rw [List.append_nil]
    exact Contract.Triple.pure writing_stable fun _ _ writing => writing
  | cons byte rest ih =>
    apply Contract.Triple.bind triple_write
    intro _
    have next := @ih (data ++ [byte])
    rw [List.length_append, List.append_assoc] at next
    exact next

theorem triple_rename (valid : index.validate (entries writer) = .ok ()) :
    (exclusive index entries).Triple pid
      (Writing index key pid writer inode (index.toVec (entries writer)))
      (call (.rename (index.tmpPath key) (index.path key)))
      fun answer world => answer = true ∧ Asked pid writer world := by
  apply Contract.Triple.perform writing_stable
  · rintro answer world after _ _ moved ⟨given, asked⟩
    exact ⟨given, moved.requests asked⟩
  · rintro world choice inv ⟨asked, held, whole⟩ _
    obtain ⟨after, ran, inv', others, requests⟩ := @rename_step _ _ _ _ _ key _ inv _ asked valid held whole
    have ran' : kernel.perform pid world (.rename (index.tmpPath key) (index.path key)) choice =
        (true, after) := ran
    rw [ran']
    refine ⟨inv', others, rfl, ?_⟩
    rw [Asked, requests]
    exact asked

theorem never_stable : (exclusive index entries).Stable pid fun _ => False :=
  fun _ _ _ impossible => impossible

theorem attempt_writeAll : (exclusive index entries).Attempt pid
    (Writing index key pid writer inode []) (ask (writeAll inode 0 data))
    (fun _ => Writing index key pid writer inode data) fun _ => False :=
  Contract.Attempt.lift (triple_writeAll data) fun _ => writing_stable

/-- A file is written in full, by a process that meets no other one in it. -/
theorem attempt_fsWrite : (exclusive index entries).Attempt pid
    (fun world => Asked pid writer world ∧ world.dirs (index.tmpPath key).parent = true)
    (fsWrite (index.tmpPath key) data)
    (fun _ world => ∃ inode, Writing index key pid writer inode data world) fun _ => False := by
  apply Contract.Attempt.bind _ (Contract.Attempt.lift triple_create ?_) never_stable
  · intro answer
    rintro world kept ⟨inode, rfl, writing⟩
    have done : (exclusive index entries).Attempt pid (Writing index key pid writer inode [])
        (ask (writeAll inode 0 data)) (fun _ world => ∃ inode,
          Writing index key pid writer inode data world) fun _ => False :=
      attempt_writeAll.consequence (fun _ _ now => now) fun _ _ _ now => ⟨inode, now⟩
    exact done world kept writing
  · rintro answer world after inv inv' moved ⟨inode, given, writing⟩
    exact ⟨inode, given, writing_stable inv inv' moved writing⟩

theorem attempt_rename (valid : index.validate (entries writer) = .ok ()) :
    (exclusive index entries).Attempt pid
      (fun world => ∃ inode, Writing index key pid writer inode (index.toVec (entries writer)) world)
      (ask (call (.rename (index.tmpPath key) (index.path key))))
      (fun answer world => answer = true ∧ Asked pid writer world) fun _ => False := by
  rintro world kept ⟨inode, writing⟩
  have lifted : (exclusive index entries).Attempt pid
      (Writing index key pid writer inode (index.toVec (entries writer)))
      (ask (call (.rename (index.tmpPath key) (index.path key))))
      (fun answer world => answer = true ∧ Asked pid writer world) fun _ => False :=
    Contract.Attempt.lift (triple_rename valid) fun _ _ _ _ _ moved now =>
      ⟨now.1, moved.requests now.2⟩
  exact lifted world kept writing

/-- `write_cache_entry_for_key` and `write_bundle_entry_for_key` do not fail. -/
theorem attempt_writeEntryForKey (valid : index.validate (entries writer) = .ok ()) (key : Text) :
    (exclusive index entries).Attempt pid (Asked pid writer)
      (writeEntryForKey index key (entries writer)) (fun _ => Asked pid writer) fun _ => False := by
  apply Contract.Attempt.bind _ (Contract.Attempt.lift triple_createDirAll ?_) never_stable
  · intro _
    rw [← index.beside key]
    apply Contract.Attempt.bind _ attempt_fsWrite never_stable
    intro _
    apply Contract.Attempt.bind _ (attempt_rename valid) never_stable
    rintro answer world kept ⟨rfl, asked⟩
    exact Contract.Triple.pure asked_stable (fun _ _ now => now) world kept asked
  · rintro _ world after _ _ moved ⟨asked, made⟩
    exact ⟨moved.requests asked, moved.dirs _ made⟩

/-- `write_shared_rootfs_cache_entry` and `write_shared_rootfs_bundle_entry` end as
the check of the entry does. -/
theorem triple_writeEntry : (exclusive index entries).Triple pid (Asked pid writer)
    (writeEntry index (entries writer)).run
    fun result _ => result = index.validate (entries writer) := by
  cases valid : index.validate (entries writer) with
  | error cause =>
    have stops : (writeEntry index (entries writer)).run = pure (.error cause) := by
      rw [writeEntry, valid]
      rfl
    rw [stops]
    exact Contract.Triple.pure asked_stable fun _ _ _ => rfl
  | ok checked =>
    cases checked
    have goes : writeEntry index (entries writer) = (do
        writeEntryForKey index (index.imageRef (entries writer)) (entries writer)
        if index.imageId (entries writer) ≠ index.imageRef (entries writer) then
          writeEntryForKey index (index.imageId (entries writer)) (entries writer)
        else pure ()) := by
      rw [writeEntry, valid]
      rfl
    have works : (exclusive index entries).Attempt pid (Asked pid writer)
        (writeEntry index (entries writer)) (fun _ => Asked pid writer) fun _ => False := by
      rw [goes]
      apply Contract.Attempt.bind _ (attempt_writeEntryForKey valid _) never_stable
      intro _
      split
      · exact attempt_writeEntryForKey valid _
      · exact Contract.Attempt.pure asked_stable fun _ _ asked => asked
    apply Contract.Triple.consequence works (fun _ _ asked => asked)
    rintro (cause | ⟨⟩) _ _ ended
    · exact ended.elim
    · rfl

theorem anything_stable : (exclusive index entries).Stable pid fun _ => True :=
  fun _ _ _ _ => trivial

/-- A reader that opens the file of a key has a published entry in front of it. -/
theorem triple_openFile : (exclusive index entries).Triple pid (fun _ => True)
    (call (.openFile (index.path key)))
    fun answer world => ∀ inode, answer = some inode →
      ∃ entry, Reading index entries key inode entry world := by
  apply Contract.Triple.perform anything_stable
  · intro answer world after inv inv' moved opened inode given
    obtain ⟨entry, reading⟩ := opened inode given
    exact ⟨entry, reading_stable inv inv' moved reading⟩
  · intro world _ inv _ _
    refine ⟨inv, fun _ _ => .refl, ?_⟩
    intro inode found
    obtain ⟨entry, done, whole⟩ := inv.published key inode found
    exact ⟨entry, Inodes.settled_of_name found (lasting key), whole, done⟩

theorem triple_read (offset : Nat) : (exclusive index entries).Triple pid
    (Reading index entries key inode entry) (call (.read inode offset))
    fun answer world => answer = (index.toVec entry)[offset]? ∧
      Reading index entries key inode entry world := by
  apply Contract.Triple.perform reading_stable
  · rintro answer world after inv inv' moved ⟨given, reading⟩
    exact ⟨given, reading_stable inv inv' moved reading⟩
  · intro world _ inv reading _
    refine ⟨inv, fun _ _ => .refl, ?_, reading⟩
    rw [← reading.2.1]
    rfl

/-- What a reader has read so far is the beginning of the entry, and at the end the
whole of it. -/
theorem triple_readToEnd (reads : Nat) {rest : List UInt8} (begun : index.toVec entry = data ++ rest) :
    (exclusive index entries).Triple pid (Reading index entries key inode entry)
      (readToEnd inode reads data)
      fun result world => (∀ bytes, result = some bytes → bytes = index.toVec entry) ∧
        Reading index entries key inode entry world := by
  have stable : ∀ result : Option (List UInt8), (exclusive index entries).Stable pid fun world =>
      (∀ bytes, result = some bytes → bytes = index.toVec entry) ∧
        Reading index entries key inode entry world :=
    fun _ _ _ inv inv' moved now => ⟨now.1, reading_stable inv inv' moved now.2⟩
  induction reads generalizing data rest with
  | zero =>
    intro world kept reading
    refine Contract.Safe.pure (stable _) kept ?_
    refine ⟨?_, reading⟩
    intro bytes impossible
    cases impossible
  | succ reads ih =>
    apply Contract.Triple.bind (triple_read data.length)
    rintro answer world kept ⟨given, reading⟩
    rw [begun, List.getElem?_append_right (Nat.le_refl _), Nat.sub_self] at given
    cases rest with
    | nil =>
      subst given
      refine Contract.Safe.pure (stable _) kept ?_
      refine ⟨?_, reading⟩
      rintro bytes ⟨rfl⟩
      rw [begun, List.append_nil]
    | cons byte rest =>
      subst given
      have further : index.toVec entry = (data ++ [byte]) ++ rest := by
        rw [begun, List.append_assoc]
        rfl
      exact ih further world kept reading

/-- A published entry that survives its serialisation is what its bytes are read as. -/
theorem parse_published (parses : ∀ writer, index.fromSlice (index.toVec (entries writer)) =
      some (entries writer)) {path : Path} (done : Published index entries world path entry) :
    parse index key (index.toVec entry) = .ok (some entry) := by
  obtain ⟨valid, _, writer, rfl, _⟩ := done
  rw [parse, parses writer]
  simp only [valid]

/-- `read_shared_rootfs_cache_entry` and `read_shared_rootfs_bundle_entry` give nothing
or a published entry. -/
theorem triple_readEntry (parses : ∀ writer, index.fromSlice (index.toVec (entries writer)) =
      some (entries writer)) (reads : Nat) :
    (exclusive index entries).Triple pid (fun _ => True) (readEntry index key reads)
      fun result world => ∀ outcome, result = some outcome →
        Good index entries world (.read key outcome) := by
  have stable : ∀ result : Option (Except Error (Option Entry)),
      (exclusive index entries).Stable pid fun world => ∀ outcome, result = some outcome →
        Good index entries world (.read key outcome) := by
    intro result world after _ _ moved good outcome given
    exact (good outcome given).later moved.requests moved.renamed
  apply Contract.Triple.bind triple_openFile
  rintro (_ | inode) world kept opened
  · refine Contract.Safe.pure (stable _) kept ?_
    rintro outcome ⟨rfl⟩
    exact .inl rfl
  · obtain ⟨entry, reading⟩ := opened inode rfl
    have whole := @triple_readToEnd _ _ _ pid _ _ _ _ reads _ (List.nil_append _).symm world kept reading
    apply whole.bind kept
    rintro (_ | data) world kept ⟨given, _, _, done⟩
    · refine Contract.Safe.pure (stable _) kept ?_
      intro outcome impossible
      cases impossible
    · refine Contract.Safe.pure (stable _) kept ?_
      rintro outcome ⟨rfl⟩
      rw [given data rfl, parse_published parses done]
      exact .inr ⟨entry, rfl, done⟩

theorem triple_reply {reply : Reply Entry} : (exclusive index entries).Triple pid
    (fun world => Good index entries world reply) (call (.reply reply)) fun _ _ => True := by
  apply Contract.Triple.perform
  · exact fun _ _ moved good => good.later moved.requests moved.renamed
  · exact fun _ => anything_stable
  · intro world _ inv good _
    have atomic : Atomic index entries { world with replies := reply :: world.replies } := by
      intro other member
      rcases List.mem_cons.mp member with rfl | earlier
      · exact good.later (List.Subset.refl _) (List.Subset.refl _)
      · exact (inv.atomic other earlier).later (List.Subset.refl _) (List.Subset.refl _)
    exact ⟨inv.later rfl rfl (List.Subset.refl _) (List.Subset.refl _) atomic,
      fun _ _ => ⟨.refl, fun _ _ held => ⟨held, rfl⟩, fun _ made => made, List.Subset.refl _,
        List.Subset.refl _⟩, trivial⟩

/-- Every call is safe from its start to its reply. -/
theorem triple_program (parses : ∀ writer, index.fromSlice (index.toVec (entries writer)) =
      some (entries writer)) (request : Request) :
    (exclusive index entries).Triple pid (fun world => (pid, request) ∈ world.requests)
      (request.program index entries) fun _ _ => True := by
  cases request with
  | write writer =>
    apply Contract.Triple.bind triple_writeEntry
    rintro result world kept ended
    exact triple_reply world kept ended
  | read key reads =>
    intro world kept _
    apply (triple_readEntry parses reads world kept trivial).bind kept
    rintro (_ | outcome) world kept good
    · exact Contract.Safe.pure anything_stable kept trivial
    · exact triple_reply world kept (good outcome rfl)

end Programs

theorem blank_inv : Inv index entries (.blank : World Entry) where
  bound _ _ _ impossible := by cases impossible
  alone _ _ _ _ _ impossible := by cases impossible
  published _ _ impossible := by cases impossible
  atomic _ impossible := by cases impossible

/-- Runs in which temporary files are not shared keep the invariant. -/
theorem exclusive_inv (parses : ∀ writer, index.fromSlice (index.toVec (entries writer)) =
      some (entries writer)) {pool : Pool (Op Entry) Answer (World Entry)}
    (reached : (accesses index entries).Reachable Exclusive pool) : Inv index entries pool.world := by
  have guarded : (accesses index entries).Reachable (exclusive index entries).Guard pool := by
    apply reached.weaken
    rintro pool (_ | ⟨pid, choice⟩ | _) allowed
    · trivial
    · rintro op next found path rfl
      exact allowed path next found
    · trivial
  apply (Contract.pool_safe _ _ guarded).inv
  · rintro world rfl
    exact blank_inv
  · rintro pid request world kept ⟨before, _, rfl⟩
    exact triple_program parses request _ kept List.mem_cons_self

/-- Whatever serialisation gives back the entries that are written, the files of the
cache and of the bundle index are atomic in every run in which no process opens a
temporary file between another one's open and rename of it. -/
theorem index_files_atomic {disk : Disk} {cacheToVec : CacheEntry → List UInt8}
    {cacheFromSlice : List UInt8 → Option CacheEntry} {cacheEntries : Nat → CacheEntry}
    {bundleToVec : BundleEntry → List UInt8} {bundleFromSlice : List UInt8 → Option BundleEntry}
    {bundleEntries : Nat → BundleEntry}
    (cacheParses : ∀ writer, cacheFromSlice (cacheToVec (cacheEntries writer)) =
      some (cacheEntries writer))
    (bundleParses : ∀ writer, bundleFromSlice (bundleToVec (bundleEntries writer)) =
      some (bundleEntries writer)) :
    (∀ pool, (accesses (cacheIndex disk cacheToVec cacheFromSlice) cacheEntries).Reachable
        Exclusive pool →
      Atomic (cacheIndex disk cacheToVec cacheFromSlice) cacheEntries pool.world) ∧
    (∀ pool, (accesses (bundleIndex disk bundleToVec bundleFromSlice) bundleEntries).Reachable
        Exclusive pool →
      Atomic (bundleIndex disk bundleToVec bundleFromSlice) bundleEntries pool.world) := by
  constructor
  · intro pool reached
    exact (exclusive_inv cacheParses reached).atomic
  · intro pool reached
    exact (exclusive_inv bundleParses reached).atomic

section Examples

/-- A process that runs, or holds a file, was started. -/
def Started (pool : Pool (Op Entry) Answer (World Entry)) : Prop :=
  ∀ pid, pool.procs pid ≠ none ∨ pool.world.holds pid ≠ none →
    ∃ request, (pid, request) ∈ pool.world.requests

theorem perform_holds {op : Op Entry} {other : Nat} (differs : other ≠ pid) :
    (perform pid world op).2.holds other = world.holds other := by
  cases op with
  | create path =>
    rw [perform]
    split
    · exact Function.update_of_ne differs ..
    · rfl
  | rename source target =>
    rw [perform]
    split
    · rfl
    · exact Function.update_of_ne differs ..
  | _ => rfl

theorem perform_requests {op : Op Entry} : (perform pid world op).2.requests = world.requests := by
  cases op with
  | create path =>
    rw [perform]
    split <;> rfl
  | rename source target =>
    rw [perform]
    split <;> rfl
  | _ => rfl

theorem started {guard : Pool (Op Entry) Answer (World Entry) → PoolLabel Request Unit → Prop}
    {pool : Pool (Op Entry) Answer (World Entry)}
    (reached : (accesses index entries).Reachable guard pool) : Started pool := by
  apply reached.invariant
  · rintro ⟨_, _⟩ ⟨rfl, rfl⟩ pid begun
    exact absurd begun (by simp [World.blank])
  · intro pool label next before _ ran other begun
    cases label with
    | start pid request =>
      simp only [accesses, Service.pool, Service.poolStep] at ran
      split at ran
      · cases ran
        by_cases same : other = pid
        · exact ⟨request, by simp [kernel, same]⟩
        · simp only [Function.update_of_ne same] at begun
          obtain ⟨old, member⟩ := before other begun
          exact ⟨old, List.mem_cons_of_mem _ member⟩
      · cases ran
    | step pid choice =>
      simp only [accesses, Service.pool, Service.poolStep] at ran
      split at ran
      · rename_i op rest found
        cases ran
        have known : pool.procs other ≠ none ∨ pool.world.holds other ≠ none := by
          by_cases same : other = pid
          · rw [same, found]
            exact .inl (Option.some_ne_none _)
          · simp only [Function.update_of_ne same] at begun
            exact begun.imp id fun held => by rwa [← @perform_holds _ pool.world pid op other same]
        obtain ⟨old, member⟩ := before other known
        exact ⟨old, perform_requests.symm ▸ member⟩
      · cases ran
    | die pid =>
      simp only [accesses, Service.pool, Service.poolStep] at ran
      split at ran
      · rename_i op rest found
        cases ran
        apply before other
        by_cases same : other = pid
        · rw [same, found]
          exact .inl (Option.some_ne_none _)
        · simp only [Function.update_of_ne same] at begun
          exact begun.imp id fun held => by simpa [kernel, Function.update_of_ne same] using held
      · cases ran

/-- A disk with the image file that the entry is about. -/
def imageDisk : Disk := Disk.empty.put (.outside "/x.erofs".toList) ⟨.image (.complete (.outside "/b".toList)), 1, 0⟩

def sampleEntry : CacheEntry where
  imageRef := "x".toList
  imageId := "x".toList
  fsType := "erofs".toList
  imageSize := 1
  blockSize := 512
  rootfsDigest := []
  ociConfigJson := []
  sourceRdAddr := 1
  shareId := 1
  pageCount := 1
  rootfsImagePath := .outside "/x.erofs".toList

/-- The entry as `serde_json` writes it. -/
def sampleJson : List UInt8 :=
  ["\x7b\"image_ref\":\"x\"", ",\"image_id\":\"x\"", ",\"fs_type\":\"erofs\"",
    ",\"image_size\":1", ",\"block_size\":512", ",\"rootfs_digest\":\"\"",
    ",\"oci_config_json\":[]", ",\"source_rd_addr\":1", ",\"share_id\":1", ",\"page_count\":1",
    ",\"rootfs_image_path\":\"/x.erofs\"\x7d"].flatMap
      fun field => field.toList.map fun c => c.toNat.toUInt8

def sampleIndex : Index CacheEntry :=
  cacheIndex imageDisk (fun _ => sampleJson) fun data => if data = sampleJson then some sampleEntry else none

def stepsOf (pid count : Nat) : List (PoolLabel Request Unit) := List.replicate count (.step pid ())

def idle : Pool (Op Entry) Answer (World Entry) := ⟨.blank, fun _ => none⟩

/-- The first writer has written its file, the second one truncates it, and the first
one renames it: a reader finds an empty document, and the second writer no file. -/
def sharedTemporary : List (PoolLabel Request Unit) :=
  .start 0 (.write 0) :: .start 1 (.write 0) :: .start 2 (.read "x".toList 1) ::
    (stepsOf 0 (2 + sampleJson.length) ++ (stepsOf 1 2 ++ (stepsOf 0 2 ++ (stepsOf 2 3 ++
      stepsOf 1 (sampleJson.length + 2)))))

def afterShared : Option (Pool (Op CacheEntry) Answer (World CacheEntry)) :=
  (accesses sampleIndex fun _ => sampleEntry).exec idle sharedTemporary

theorem shared_replies : afterShared.map (fun pool => pool.world.replies) = some [
    .wrote sampleEntry (.error (.here "failed to rename" (cacheTmpPath "x".toList))),
    .read "x".toList (.error (.here "failed to parse" (cachePath "x".toList cacheFileSuffix))),
    .wrote sampleEntry (.ok ())] := by decide +kernel

theorem shared_temporary_tears : ∃ pool,
    (accesses sampleIndex fun _ => sampleEntry).Reachable System.Free pool ∧
      pool.world.replies = [
        .wrote sampleEntry (.error (.here "failed to rename" (cacheTmpPath "x".toList))),
        .read "x".toList (.error (.here "failed to parse" (cachePath "x".toList cacheFileSuffix))),
        .wrote sampleEntry (.ok ())] ∧
      ¬ Atomic sampleIndex (fun _ => sampleEntry) pool.world := by
  obtain ⟨pool, ran, replies⟩ := Option.map_eq_some_iff.mp shared_replies
  refine ⟨pool, System.reachable_of_exec ⟨rfl, rfl⟩ (fun _ _ _ => trivial) ran, replies, ?_⟩
  intro atomic
  rw [Atomic, replies] at atomic
  have torn := atomic _ (List.mem_cons_of_mem _ List.mem_cons_self)
  rcases torn with nothing | ⟨_, found, _⟩
  · cases nothing
  · cases found

/-- A disk with the bundle that the entry is about. -/
def bundleDisk : Disk :=
  (Disk.empty.addDir (.outside "/b".toList)).addDir (.outside "/b/rootfs".toList)

def sampleBundle : BundleEntry := ⟨"x".toList, "x".toList, .outside "/b".toList⟩

def bundleJson : List UInt8 :=
  ["\x7b\"image_ref\":\"x\"", ",\"image_id\":\"x\"", ",\"bundle_path\":\"/b\"\x7d"].flatMap
    fun field => field.toList.map fun c => c.toNat.toUInt8

def parseBundle (data : List UInt8) : Option BundleEntry :=
  if data = bundleJson then some sampleBundle else none

/-- No process that was started holds a file that is about to be opened. -/
def opensAlone (pool : Pool (Op Entry) Answer (World Entry)) : PoolLabel Request Unit → Bool
  | .step pid _ =>
    match pool.procs pid with
    | some (.call (.create _) _) =>
      pool.world.requests.all fun started => started.1 = pid || (pool.world.holds started.1).isNone
    | _ => true
  | _ => true

theorem exclusive_of_opensAlone {pool : Pool (Op Entry) Answer (World Entry)}
    {label : PoolLabel Request Unit} (started : Started pool) (alone : opensAlone pool label = true) :
    Exclusive pool label := by
  cases label with
  | step pid choice =>
    intro path next found other differs inode held
    obtain ⟨request, member⟩ := started other (.inr (by rw [held]; exact nofun))
    simp only [opensAlone, found, List.all_eq_true] at alone
    have free := alone _ member
    simp [differs, held] at free
  | _ => trivial

/-- One writer after the other, and a reader that opened the first one's file. -/
def takingTurns : List (PoolLabel Request Unit) :=
  .start 0 (.write 0) :: (stepsOf 0 (bundleJson.length + 4) ++
    .start 1 (.read "x".toList (bundleJson.length + 1)) :: (stepsOf 1 1 ++
      .start 2 (.write 0) :: (stepsOf 2 (bundleJson.length + 4) ++ stepsOf 1 (bundleJson.length + 2))))

def afterTurns : Option (Pool (Op BundleEntry) Answer (World BundleEntry)) :=
  (accesses (bundleIndex bundleDisk (fun _ => bundleJson) parseBundle) fun _ => sampleBundle).execIf
    opensAlone idle takingTurns

theorem turns_replies : afterTurns.map (fun pool => pool.world.replies) = some [
    .read "x".toList (.ok (some sampleBundle)),
    .wrote sampleBundle (.ok ()), .wrote sampleBundle (.ok ())] := by decide +kernel

theorem index_files_atomic_in_turns : ∃ pool, afterTurns = some pool ∧
    pool.world.replies = [.read "x".toList (.ok (some sampleBundle)),
      .wrote sampleBundle (.ok ()), .wrote sampleBundle (.ok ())] ∧
    Atomic (bundleIndex bundleDisk (fun _ => bundleJson) parseBundle) (fun _ => sampleBundle)
      pool.world := by
  obtain ⟨pool, ran, replies⟩ := Option.map_eq_some_iff.mp turns_replies
  refine ⟨pool, ran, replies, ?_⟩
  have parses : ∀ writer : Nat, parseBundle bundleJson = some ((fun _ => sampleBundle) writer) :=
    fun _ => if_pos rfl
  have cacheParses : ∀ writer : Nat, (if sampleJson = sampleJson then some sampleEntry else none) =
      some ((fun _ => sampleEntry) writer) := fun _ => if_pos rfl
  apply (@index_files_atomic bundleDisk (fun _ => sampleJson)
    (fun data => if data = sampleJson then some sampleEntry else none) _ _ _ _ cacheParses parses).2
  have begun : (accesses (bundleIndex bundleDisk (fun _ => bundleJson) parseBundle)
      fun _ => sampleBundle).Reachable (fun pool label => opensAlone pool label = true) idle :=
    .start ⟨rfl, rfl⟩
  have free := begun.execIf (fun _ _ _ alone => alone) ran
  exact free.strengthen fun _ _ _ before alone _ => exclusive_of_opensAlone (started before) alone

end Examples

end GuestComponents.SharedRootfs.IndexFiles
