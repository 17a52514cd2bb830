import GuestComponents.SharedRootfs.History

/-! Concurrent requests for one image reference. The library reads the entry once
more before it prepares one; between that read and the write of the entry
nothing keeps a second request out. Where no request's second read finds the
entry missing while another request is preparing, one share is created at most
and all replies come from one entry (`single_share`). -/
namespace GuestComponents.SharedRootfs.SingleShare
open Lib Program

/-- The share an event created for the reference. -/
def createdShare (imageRef : Text) : Event → Option SharedImage
  | .did _ (.createShare imageRef' _ _) (.ok share) => if imageRef' = imageRef then some share else none
  | _ => none

def createdShares (imageRef : Text) (history : List Event) : List SharedImage :=
  history.filterMap (createdShare imageRef)

/-- The successful reply of an event. -/
def servedReply : Event → Option PrepareRootfsResponse
  | .did _ (.reply (.rootfs (.ok response))) _ => some response
  | _ => none

def servedReplies (history : List Event) : List PrepareRootfsResponse :=
  history.filterMap servedReply

variable (imageRef : Text)

abbrev entryPath : Path := cachePath imageRef cacheFileSuffix

/-- The process's second read found no entry. -/
def Missed (pid : Nat) (history : List Event) : Prop :=
  .did pid (.readCache .recheck imageRef) (.ok none) ∈ history

/-- The process created a share for the reference. -/
def Shared (pid : Nat) (history : List Event) : Prop :=
  ∃ imageId path share, .did pid (.createShare imageRef imageId path) (.ok share) ∈ history

/-- The process wrote the reference's entry. -/
def Stored (pid : Nat) (history : List Event) : Prop :=
  .did pid (.rename (cacheTmpPath imageRef) (entryPath imageRef)) (.ok ()) ∈ history

/-- The process has found no entry and has not written one, and it may still go
on or has created a share. -/
def Preparing (pid : Nat) (history : List Event) : Prop :=
  Missed imageRef pid history ∧ ¬ Stored imageRef pid history ∧
    (Shared imageRef pid history ∨ ¬ Ended pid history)

/-- The considered steps: requests for the one reference begin, and no second
read finds the entry missing while another process is preparing it. -/
def Excludes (pool : Pool Op Answer World) : PoolLabel Request Choice → Prop
  | .start _ request => ∃ polls, request = .prepareRootfs imageRef polls
  | .step pid choice => ∀ next, pool.procs pid = some (.call (.readCache .recheck imageRef) next) →
      choice.fails = false → pool.world.disk.files (entryPath imageRef) = none →
      ∀ other, other ≠ pid → ¬ Preparing imageRef other pool.world.history
  | .die _ => True

/-- The entry stands under the reference. -/
def Holds (disk : Disk) (entry : CacheEntry) : Prop :=
  ∃ file, disk.files (entryPath imageRef) = some file ∧ file.data = .cacheEntry entry

/-- The process missed, and ended without a share and without an entry. -/
def Spent (pid : Nat) (history : List Event) : Prop :=
  Ended pid history ∧ ¬ Shared imageRef pid history ∧ ¬ Stored imageRef pid history

/-- What all considered runs keep. -/
structure Kept (world : World) : Prop where
  sharers : ∀ pid, Shared imageRef pid world.history → Missed imageRef pid world.history
  storers : ∀ pid, Stored imageRef pid world.history →
    Missed imageRef pid world.history ∧ ∃ entry, Holds imageRef world.disk entry
  exclusive : ∀ one other, one ≠ other → Missed imageRef one world.history →
    Missed imageRef other world.history →
    Spent imageRef one world.history ∨ Spent imageRef other world.history
  created : (createdShares imageRef world.history).length ≤ 1
  creator : createdShares imageRef world.history ≠ [] → ∃ pid, Shared imageRef pid world.history
  served : ∀ response ∈ servedReplies world.history,
    ∃ entry, Holds imageRef world.disk entry ∧ response = replyFromCacheEntry entry

/-- The files that hold or will hold the reference's entry. -/
def EntryFile (path : Path) : Prop := path = entryPath imageRef ∨ path = cacheTmpPath imageRef

/-- A step: by a process that has not ended, on the entry's files only if it
missed, and never replacing an entry by another. -/
structure Steps (pid : Nat) (world after : World) : Prop where
  records : ∃ event, event.pid = pid ∧ after.history = event :: world.history
  alive : ¬ Ended pid world.history
  owns : Missed imageRef pid world.history ∨
    ∀ path, EntryFile imageRef path → after.disk.files path = world.disk.files path
  holds : ∀ entry, Holds imageRef world.disk entry → Holds imageRef after.disk entry

/-- What a process may rely on between its own steps. -/
structure Meanwhile (pid : Nat) (world after : World) : Prop where
  others : Others pid world.history after.history
  owns : Missed imageRef pid world.history → ¬ Ended pid world.history →
    ∀ path, EntryFile imageRef path → after.disk.files path = world.disk.files path
  holds : ∀ entry, Holds imageRef world.disk entry → Holds imageRef after.disk entry

variable {imageRef} {pid other : Nat} {world after last : World} {event : Event}
  {before history : List Event}

theorem Meanwhile.missed (others : Others pid before history) :
    Missed imageRef pid history ↔ Missed imageRef pid before := others.own rfl

theorem Meanwhile.trans (first : Meanwhile imageRef pid world after)
    (second : Meanwhile imageRef pid after last) : Meanwhile imageRef pid world last where
  others := first.others.trans second.others
  owns missed alive path file := by
    rw [second.owns ((Meanwhile.missed first.others).mpr missed)
      (fun ended => alive (first.others.ended.mp ended)) path file, first.owns missed alive path file]
  holds entry holds := second.holds entry (first.holds entry holds)

/-- Between the steps of one process the others leave its files alone. -/
theorem Steps.meanwhile (differs : pid ≠ other) (kept : Kept imageRef world)
    (steps : Steps imageRef pid world after) : Meanwhile imageRef other world after where
  others := by
    obtain ⟨event, own, recorded⟩ := steps.records
    rw [recorded]
    exact .one (own ▸ differs)
  owns missed alive := by
    rcases steps.owns with owner | untouched
    · rcases kept.exclusive pid other differs owner missed with spent | spent
      · exact absurd spent.1 steps.alive
      · exact absurd spent.1 alive
    · exact untouched
  holds := steps.holds

variable (imageRef) in
/-- Events that none of the kept facts is about. -/
structure Silent (event : Event) : Prop where
  missed : ∀ pid, event ≠ .did pid (.readCache .recheck imageRef) (.ok none)
  shared : ∀ pid imageId path share, event ≠ .did pid (.createShare imageRef imageId path) (.ok share)
  stored : ∀ pid, event ≠ .did pid (.rename (cacheTmpPath imageRef) (entryPath imageRef)) (.ok ())
  served : ∀ pid response, event ≠ .did pid (.reply (.rootfs (.ok response))) ()

section Events

theorem missed_cons (quiet : event ≠ .did pid (.readCache .recheck imageRef) (.ok none)) :
    Missed imageRef pid (event :: history) ↔ Missed imageRef pid history := by
  rw [Missed, List.mem_cons, or_iff_right (Ne.symm quiet)]
  rfl

theorem stored_cons
    (quiet : event ≠ .did pid (.rename (cacheTmpPath imageRef) (entryPath imageRef)) (.ok ())) :
    Stored imageRef pid (event :: history) ↔ Stored imageRef pid history := by
  rw [Stored, List.mem_cons, or_iff_right (Ne.symm quiet)]
  rfl

theorem shared_cons (quiet : ∀ imageId path share,
    event ≠ .did pid (.createShare imageRef imageId path) (.ok share)) :
    Shared imageRef pid (event :: history) ↔ Shared imageRef pid history := by
  constructor
  · rintro ⟨imageId, path, share, member⟩
    rcases List.mem_cons.mp member with new | old
    · exact absurd new.symm (quiet imageId path share)
    · exact ⟨imageId, path, share, old⟩
  · rintro ⟨imageId, path, share, member⟩
    exact ⟨imageId, path, share, List.mem_cons_of_mem _ member⟩

theorem ended_cons (ended : Ended pid history) : Ended pid (event :: history) := by
  rcases ended with died | ⟨reply, replied⟩
  · exact .inl (List.mem_cons_of_mem _ died)
  · exact .inr ⟨reply, List.mem_cons_of_mem _ replied⟩

theorem createdShares_cons (quiet : ∀ pid imageId path share,
    event ≠ .did pid (.createShare imageRef imageId path) (.ok share)) :
    createdShares imageRef (event :: history) = createdShares imageRef history := by
  refine List.filterMap_cons_none ?_
  unfold createdShare
  split
  · rename_i pid imageRef' imageId path share
    refine if_neg ?_
    rintro rfl
    exact quiet pid imageId path share rfl
  · rfl

theorem servedReplies_cons (quiet : ∀ pid response,
    event ≠ .did pid (.reply (.rootfs (.ok response))) ()) :
    servedReplies (event :: history) = servedReplies history := by
  refine List.filterMap_cons_none ?_
  unfold servedReply
  split
  · exact absurd rfl (quiet _ _)
  · rfl

theorem Spent.of_others (others : Others pid before history) (spent : Spent imageRef pid before) :
    Spent imageRef pid history := by
  refine ⟨others.ended.mpr spent.1, ?_, fun stored => spent.2.2 ((others.own rfl).mp stored)⟩
  rintro ⟨imageId, path, share, member⟩
  exact spent.2.1 ⟨imageId, path, share, (others.own rfl).mp member⟩

/-- Whoever else missed before a process that has not ended is spent. -/
theorem Kept.other_spent (kept : Kept imageRef world) (missed : Missed imageRef pid world.history)
    (alive : ¬ Ended pid world.history) (differs : other ≠ pid)
    (missed' : Missed imageRef other world.history) : Spent imageRef other world.history := by
  rcases kept.exclusive other pid differs missed' missed with spent | spent
  · exact spent
  · exact absurd spent.1 alive

/-- A step of a process that has not ended leaves spent processes spent. -/
theorem Kept.exclusive_cons (kept : Kept imageRef world) (alive : ¬ Ended event.pid world.history)
    (quiet : ∀ pid, event ≠ .did pid (.readCache .recheck imageRef) (.ok none)) :
    ∀ one other, one ≠ other → Missed imageRef one (event :: world.history) →
      Missed imageRef other (event :: world.history) →
      Spent imageRef one (event :: world.history) ∨ Spent imageRef other (event :: world.history) := by
  intro one other differs missed missed'
  rw [missed_cons (quiet one)] at missed
  rw [missed_cons (quiet other)] at missed'
  have later : ∀ {pid}, Spent imageRef pid world.history → Spent imageRef pid (event :: world.history) := by
    intro pid spent
    refine spent.of_others (.one ?_)
    rintro rfl
    exact alive spent.1
  exact (kept.exclusive one other differs missed missed').imp later later

/-- An event that creates no share adds no process that shares. -/
theorem Kept.sharers_cons (kept : Kept imageRef world)
    (quiet : ∀ pid imageId path share, event ≠ .did pid (.createShare imageRef imageId path) (.ok share)) :
    ∀ pid, Shared imageRef pid (event :: world.history) → Missed imageRef pid (event :: world.history) := by
  intro pid shared
  rw [shared_cons (quiet pid)] at shared
  exact List.mem_cons_of_mem _ (kept.sharers pid shared)

/-- The shares that were created still have their creator. -/
theorem Kept.creator_cons (kept : Kept imageRef world)
    (quiet : ∀ pid imageId path share, event ≠ .did pid (.createShare imageRef imageId path) (.ok share))
    (some : createdShares imageRef (event :: world.history) ≠ []) : ∃ pid,
      Shared imageRef pid (event :: world.history) := by
  rw [createdShares_cons quiet] at some
  obtain ⟨pid, shared⟩ := kept.creator some
  exact ⟨pid, (shared_cons (quiet pid)).mpr shared⟩

/-- An event that stores no entry adds no process that stores. -/
theorem Kept.storers_cons (kept : Kept imageRef world)
    (quiet : ∀ pid, event ≠ .did pid (.rename (cacheTmpPath imageRef) (entryPath imageRef)) (.ok ())) {disk : Disk}
    (holds : ∀ entry, Holds imageRef world.disk entry → Holds imageRef disk entry) :
    ∀ pid, Stored imageRef pid (event :: world.history) →
      Missed imageRef pid (event :: world.history) ∧ ∃ entry, Holds imageRef disk entry := by
  intro pid stored
  rw [stored_cons (quiet pid)] at stored
  obtain ⟨missed, entry, held⟩ := kept.storers pid stored
  exact ⟨List.mem_cons_of_mem _ missed, entry, holds entry held⟩

/-- A silent event keeps everything, whoever records it. -/
theorem Kept.silent (kept : Kept imageRef world) (silent : Silent imageRef event) {disk : Disk}
    (holds : ∀ entry, Holds imageRef world.disk entry → Holds imageRef disk entry) :
    Kept imageRef ⟨disk, event :: world.history⟩ where
  sharers := kept.sharers_cons silent.shared
  storers := kept.storers_cons silent.stored holds
  exclusive one other differs missed missed' := by
    rw [missed_cons (silent.missed one)] at missed
    rw [missed_cons (silent.missed other)] at missed'
    have later : ∀ {pid}, Spent imageRef pid world.history →
        Spent imageRef pid (event :: world.history) := by
      intro pid spent
      refine ⟨ended_cons spent.1, ?_, ?_⟩
      · rw [shared_cons (silent.shared pid)]
        exact spent.2.1
      · rw [stored_cons (silent.stored pid)]
        exact spent.2.2
    exact (kept.exclusive one other differs missed missed').imp later later
  created := by
    rw [createdShares_cons silent.shared]
    exact kept.created
  creator := kept.creator_cons silent.shared
  served response member := by
    rw [servedReplies_cons silent.served] at member
    obtain ⟨entry, held, same⟩ := kept.served response member
    exact ⟨entry, holds entry held, same⟩

/-- A second read that misses, with nobody preparing. -/
theorem Kept.miss (kept : Kept imageRef world)
    (vacant : world.disk.files (entryPath imageRef) = none)
    (excludes : ∀ other, other ≠ pid → ¬ Preparing imageRef other world.history) :
    Kept imageRef ⟨world.disk, .did pid (.readCache .recheck imageRef) (.ok none) :: world.history⟩ := by
  have unstored : ∀ other, ¬ Stored imageRef other world.history := by
    intro other stored
    obtain ⟨_, entry, file, found, _⟩ := kept.storers other stored
    rw [vacant] at found
    cases found
  have spent : ∀ {other}, other ≠ pid → Missed imageRef other
      (.did pid (.readCache .recheck imageRef) (.ok none) :: world.history) →
      Spent imageRef other (.did pid (.readCache .recheck imageRef) (.ok none) :: world.history) := by
    intro other differs missed
    have others : Others other world.history
        (.did pid (.readCache .recheck imageRef) (.ok none) :: world.history) := .one (Ne.symm differs)
    refine Spent.of_others others ?_
    rw [Meanwhile.missed others] at missed
    have idle := excludes other differs
    simp only [Preparing, missed, unstored, not_false_eq_true, true_and, not_or, not_not] at idle
    exact ⟨idle.2, idle.1, unstored other⟩
  refine ⟨?_, ?_, ?_, ?_, ?_, ?_⟩
  · exact kept.sharers_cons fun _ _ _ _ => by simp
  · intro other stored
    rw [stored_cons (by simp)] at stored
    exact absurd stored (unstored other)
  · intro one other differs missed missed'
    by_cases own : one = pid
    · subst own
      exact .inr (spent (Ne.symm differs) missed')
    · exact .inl (spent own missed)
  · exact kept.created
  · exact kept.creator_cons fun _ _ _ _ => by simp
  · exact kept.served

/-- The one process that missed and has not ended creates the one share. -/
theorem Kept.share (kept : Kept imageRef world) (missed : Missed imageRef pid world.history)
    (alive : ¬ Ended pid world.history) (unshared : ¬ Shared imageRef pid world.history)
    (imageId : Text) (path : Path) (share : SharedImage) :
    Kept imageRef ⟨world.disk,
      .did pid (.createShare imageRef imageId path) (.ok share) :: world.history⟩ := by
  have none_created : createdShares imageRef world.history = [] := by
    by_contra some
    obtain ⟨other, shared⟩ := kept.creator some
    by_cases own : other = pid
    · subst own
      exact unshared shared
    · exact (kept.other_spent missed alive own (kept.sharers other shared)).2.1 shared
  have others : ∀ {other}, other ≠ pid → Others other world.history
      (.did pid (.createShare imageRef imageId path) (.ok share) :: world.history) :=
    fun differs => .one (Ne.symm differs)
  refine ⟨?_, ?_, ?_, ?_, ?_, ?_⟩
  · rintro other ⟨imageId', path', share', member⟩
    rcases List.mem_cons.mp member with new | old
    · cases new
      exact List.mem_cons_of_mem _ missed
    · exact List.mem_cons_of_mem _ (kept.sharers other ⟨_, _, _, old⟩)
  · exact kept.storers_cons (fun _ => by simp) fun _ held => held
  · exact kept.exclusive_cons alive fun _ => by simp
  · have one : createdShares imageRef (.did pid (.createShare imageRef imageId path) (.ok share) ::
        world.history) = share :: createdShares imageRef world.history :=
      List.filterMap_cons_some (by simp [createdShare])
    rw [one, none_created]
    exact Nat.le_refl 1
  · intro _
    exact ⟨pid, imageId, path, share, List.mem_cons_self⟩
  · exact kept.served

/-- The entry is written by a process that missed and has not ended. -/
theorem Kept.store (kept : Kept imageRef world) (missed : Missed imageRef pid world.history)
    (alive : ¬ Ended pid world.history) {disk : Disk} {entry : CacheEntry}
    (held : Holds imageRef disk entry)
    (holds : ∀ entry, Holds imageRef world.disk entry → Holds imageRef disk entry) :
    Kept imageRef ⟨disk, .did pid (.rename (cacheTmpPath imageRef) (entryPath imageRef)) (.ok ()) ::
      world.history⟩ := by
  refine ⟨?_, ?_, ?_, ?_, ?_, ?_⟩
  · exact kept.sharers_cons fun _ _ _ _ => by simp
  · intro other stored
    refine ⟨?_, entry, held⟩
    rcases List.mem_cons.mp stored with new | old
    · cases new
      exact List.mem_cons_of_mem _ missed
    · exact List.mem_cons_of_mem _ (kept.storers other old).1
  · exact kept.exclusive_cons alive fun _ => by simp
  · exact kept.created
  · exact kept.creator_cons fun _ _ _ _ => by simp
  · intro response member
    obtain ⟨entry, held, same⟩ := kept.served response member
    exact ⟨entry, holds entry held, same⟩

/-- A reply from the entry that stands under the reference. -/
theorem Kept.serve (kept : Kept imageRef world) (alive : ¬ Ended pid world.history)
    {entry : CacheEntry} (held : Holds imageRef world.disk entry) :
    Kept imageRef ⟨world.disk, .did pid (.reply (.rootfs (.ok (replyFromCacheEntry entry)))) () ::
      world.history⟩ := by
  refine ⟨?_, ?_, ?_, ?_, ?_, ?_⟩
  · exact kept.sharers_cons fun _ _ _ _ => by simp
  · exact kept.storers_cons (fun _ => by simp) fun _ held => held
  · exact kept.exclusive_cons alive fun _ => by simp
  · exact kept.created
  · exact kept.creator_cons fun _ _ _ _ => by simp
  · intro response member
    rcases List.mem_cons.mp member with rfl | old
    · exact ⟨entry, held, rfl⟩
    · exact kept.served response old

end Events

/-- Nobody interferes with the entry's files while a process prepares them. -/
def contract (imageRef : Text) : Contract host where
  inv := Kept imageRef
  permits pid world op choice := op = .readCache .recheck imageRef → choice.fails = false →
    world.disk.files (entryPath imageRef) = none →
    ∀ other, other ≠ pid → ¬ Preparing imageRef other world.history
  mayStart pid world request := (∃ polls, request = .prepareRootfs imageRef polls) ∧ Fresh pid world.history
  mayDie _ _ := True
  guarantee := Steps imageRef
  rely := Meanwhile imageRef
  rely_refl pid world := ⟨.refl pid _, fun _ _ _ _ => rfl, fun _ held => held⟩
  rely_trans _ _ _ _ first second := first.trans second
  compatible differs kept _ steps := steps.meanwhile differs kept
  starts kept _ := ⟨kept.silent ⟨fun _ => by simp, fun _ _ _ _ => by simp, fun _ => by simp,
    fun _ _ => by simp⟩ fun _ held => held,
    fun _ differs => ⟨.one (Ne.symm differs), fun _ _ _ _ => rfl, fun _ held => held⟩⟩
  dies kept _ := ⟨kept.silent ⟨fun _ => by simp, fun _ _ _ _ => by simp, fun _ => by simp,
    fun _ _ => by simp⟩ fun _ held => held,
    fun _ differs => ⟨.one (Ne.symm differs), fun _ _ _ _ => rfl, fun _ held => held⟩⟩

variable (imageRef) in
/-- Operations away from the entry's files that none of the kept facts is about. -/
structure Plain (op : Op) : Prop where
  files : ∀ path, EntryFile imageRef path → ¬ op.touches path
  read : op ≠ .readCache .recheck imageRef
  share : ∀ imageId path, op ≠ .createShare imageRef imageId path
  reply : ∀ reply, op ≠ .reply reply

theorem Plain.silent {op : Op} {answer : Answer op} (plain : Plain imageRef op) :
    Silent imageRef (.did pid op answer) where
  missed _ same := by
    cases same
    exact plain.read rfl
  shared _ imageId path _ same := by
    cases same
    exact plain.share imageId path rfl
  stored _ same := by
    cases same
    exact plain.files _ (.inl rfl) (.inr rfl)
  served _ _ same := by
    cases same
    exact plain.reply _ rfl

theorem holds_same {disk after : Disk} {entry : CacheEntry} (held : Holds imageRef disk entry)
    (same : after.files (entryPath imageRef) = disk.files (entryPath imageRef)) :
    Holds imageRef after entry := by
  obtain ⟨file, found, data⟩ := held
  exact ⟨file, same.trans found, data⟩

section Assertions

variable {op : Op} {choice : Choice} {assertion : World → Prop}

/-- The world after an operation of a process. -/
abbrev done (pid : Nat) (world : World) (op : Op) (choice : Choice) : World :=
  (host.perform pid world op choice).2

theorem Plain.kept (plain : Plain imageRef op) (kept : Kept imageRef world) :
    Kept imageRef (done pid world op choice) :=
  kept.silent plain.silent fun _ held => holds_same held (act_files (plain.files _ (.inl rfl)))

theorem Plain.steps (plain : Plain imageRef op) (alive : ¬ Ended pid world.history) :
    Steps imageRef pid world (done pid world op choice) where
  records := ⟨_, rfl, rfl⟩
  alive := alive
  owns := .inr fun path file => act_files (plain.files path file)
  holds _ held := holds_same held (act_files (plain.files _ (.inl rfl)))

theorem not_ended_cons {answer : Answer op} (alive : ¬ Ended pid history)
    (reply : ∀ reply, op ≠ .reply reply) : ¬ Ended pid (.did pid op answer :: history) := by
  rintro (died | ⟨other, replied⟩)
  · rcases List.mem_cons.mp died with new | old
    · cases new
    · exact alive (.inl old)
  · rcases List.mem_cons.mp replied with new | old
    · cases new
      exact reply _ rfl
    · exact alive (.inr ⟨other, old⟩)

variable (imageRef pid) in
/-- An assertion of a process that has not ended, which the others and the
process's own plain operations keep. -/
structure Own (assertion : World → Prop) : Prop where
  alive : ∀ {world}, assertion world → ¬ Ended pid world.history
  stable : (contract imageRef).Stable pid assertion
  plain : ∀ {world op choice}, Plain imageRef op → assertion world → assertion (done pid world op choice)

theorem Own.only {α : Type} {program : Prog α} (own : Own imageRef pid assertion)
    (only : Only (Plain imageRef) program) :
    (contract imageRef).Triple pid assertion program fun _ => assertion :=
  Contract.Triple.only only own.stable fun _ _ _ plain kept holds _ =>
    ⟨plain.kept kept, plain.steps (own.alive holds), own.plain plain holds⟩

def Alive (pid : Nat) (world : World) : Prop := ¬ Ended pid world.history

theorem Own.attempt {α : Type} {program : Fail α} (own : Own imageRef pid assertion)
    (only : Only (Plain imageRef) program.run) :
    (contract imageRef).Attempt pid assertion program (fun _ => assertion) (Alive pid) :=
  (own.only only).consequence (fun _ _ holds => holds) fun _ _ _ holds =>
    Contract.Either.intro (fun _ _ => holds) fun _ _ => own.alive holds

theorem Own.ask {α : Type} {program : Prog α} (own : Own imageRef pid assertion)
    (only : Only (Plain imageRef) program) :
    (contract imageRef).Attempt pid assertion (ask program) (fun _ => assertion) (Alive pid) :=
  Contract.Attempt.lift (own.only only) fun _ => own.stable

variable (imageRef) in
/-- Before the second read. -/
def Idle (pid : Nat) (world : World) : Prop := Alive pid world ∧ ¬ Missed imageRef pid world.history

variable (imageRef) in
/-- The entry that the process will reply from stands under the reference. -/
def Knows (pid : Nat) (entry : CacheEntry) (world : World) : Prop :=
  Alive pid world ∧ Holds imageRef world.disk entry

variable (imageRef) in
/-- After a second read that missed: `sharing` says whether a share may exist,
`slot` how the entry's files stand. -/
def Preparer (pid : Nat) (sharing : Prop) (slot : Disk → Prop) (world : World) : Prop :=
  Alive pid world ∧ Missed imageRef pid world.history ∧
    (Shared imageRef pid world.history → sharing) ∧ slot world.disk

variable (imageRef) in
/-- A fact about the entry's files only. -/
def Local (slot : Disk → Prop) : Prop := ∀ {disk after : Disk}, slot disk →
  (∀ path, EntryFile imageRef path → after.files path = disk.files path) → slot after

theorem own_alive : Own imageRef pid (Alive pid) where
  alive alive := alive
  stable _ _ meanwhile alive ended := alive (meanwhile.others.ended.mp ended)
  plain plain alive := not_ended_cons alive plain.reply

theorem own_idle : Own imageRef pid (Idle imageRef pid) where
  alive idle := idle.1
  stable kept kept' meanwhile idle := ⟨own_alive.stable kept kept' meanwhile idle.1,
    fun missed => idle.2 ((Meanwhile.missed meanwhile.others).mp missed)⟩
  plain plain idle := ⟨own_alive.plain plain idle.1,
    fun missed => idle.2 ((missed_cons (plain.silent.missed pid)).mp missed)⟩

theorem own_knows {entry : CacheEntry} : Own imageRef pid (Knows imageRef pid entry) where
  alive knows := knows.1
  stable kept kept' meanwhile knows :=
    ⟨own_alive.stable kept kept' meanwhile knows.1, meanwhile.holds entry knows.2⟩
  plain plain knows :=
    ⟨own_alive.plain plain knows.1, holds_same knows.2 (act_files (plain.files _ (.inl rfl)))⟩

theorem own_preparer {sharing : Prop} {slot : Disk → Prop} (isLocal : Local imageRef slot) :
    Own imageRef pid (Preparer imageRef pid sharing slot) where
  alive preparer := preparer.1
  stable := by
    rintro world after kept kept' meanwhile ⟨alive, missed, shares, stands⟩
    refine ⟨own_alive.stable kept kept' meanwhile alive, (Meanwhile.missed meanwhile.others).mpr missed,
      ?_, isLocal stands (meanwhile.owns missed alive)⟩
    rintro ⟨imageId, path, share, member⟩
    exact shares ⟨imageId, path, share, (meanwhile.others.own rfl).mp member⟩
  plain := by
    rintro world op choice plain ⟨alive, missed, shares, stands⟩
    refine ⟨own_alive.plain plain alive, List.mem_cons_of_mem _ missed, ?_,
      isLocal stands fun path file => act_files (plain.files path file)⟩
    intro shared
    exact shares ((shared_cons (plain.silent.shared pid)).mp shared)

end Assertions

section Plain

variable {op : Op}

theorem plain_of_untouched (files : ∀ path, ¬ op.touches path) (read : op ≠ .readCache .recheck imageRef)
    (share : ∀ imageId path, op ≠ .createShare imageRef imageId path)
    (reply : ∀ reply, op ≠ .reply reply) : Plain imageRef op :=
  ⟨fun path _ => files path, read, share, reply⟩

theorem plain_of_area {area : Area} (other : area ≠ .cache)
    (files : ∀ path, op.touches path → ∃ names, path = .shared area names)
    (read : op ≠ .readCache .recheck imageRef)
    (share : ∀ imageId path, op ≠ .createShare imageRef imageId path)
    (reply : ∀ reply, op ≠ .reply reply) : Plain imageRef op := by
  refine ⟨fun path file touched => ?_, read, share, reply⟩
  obtain ⟨names, rfl⟩ := files path touched
  rcases file with same | same
  · cases same
    exact other rfl
  · rw [cacheTmpPath_eq] at same
    cases same
    exact other rfl

theorem Quiet.plain (quiet : Quiet op) : Plain imageRef op := by
  cases quiet <;> exact plain_of_untouched (fun _ => id) (by simp) (by simp) (by simp)

theorem ImageOp.plain {safeImageId : Text} (image : ImageOp (ImageFile imagesDir safeImageId) op) :
    Plain imageRef op := by
  refine plain_of_area (show Area.images ≠ .cache by decide)
    (fun path touched => imageFile_area (image.touches touched)) ?_ ?_ ?_
  all_goals cases image with
    | quiet quiet => cases quiet <;> simp
    | _ => simp

theorem BundleOp.plain (bundle : BundleOp op) : Plain imageRef op := by
  refine plain_of_area (show Area.bundleIndex ≠ .cache by decide) (fun path touched => ?_) ?_ ?_ ?_
  · obtain ⟨name, same⟩ := bundle.touches touched
    exact ⟨[name], same⟩
  all_goals cases bundle with
    | quiet quiet => cases quiet <;> simp
    | _ => simp

theorem LookOp.plain (look : LookOp imageRef op) : Plain imageRef op := by
  cases look <;> exact plain_of_untouched (fun _ => id) (by simp) (by simp) (by simp)

theorem plain_createDirAll (path : Path) : Plain imageRef (.createDirAll path) :=
  plain_of_untouched (fun _ => id) (by simp) (by simp) (by simp)

theorem pending_not_entryFile (key : Text) : ¬ EntryFile imageRef (pendingPath key) := by
  rintro (same | same)
  · exact pending_ne_entry key imageRef same
  · exact pending_ne_tmp key imageRef same

theorem only_mark (key : Text) : Only (Plain imageRef) (markSharedRootfsCachePending key).run := by
  refine Only.bind_fallible (only_perform (plain_createDirAll _)) fun _ => only_perform ?_
  refine ⟨fun path file touched => ?_, by simp, by simp, by simp⟩
  cases touched
  exact pending_not_entryFile key file

theorem only_clear (key : Text) : Only (Plain imageRef) (clearSharedRootfsCachePending key) := by
  refine Only.bind (only_perform ?_) fun _ => trivial
  refine ⟨fun path file touched => ?_, by simp, by simp, by simp⟩
  cases touched
  exact pending_not_entryFile key file

end Plain

section Programs

variable {entry : CacheEntry}

/-- No entry stands under the reference. -/
def Vacant (imageRef : Text) (disk : Disk) : Prop := disk.files (entryPath imageRef) = none

/-- The entry stands under the reference, or nothing does while it has not been
settled. -/
def Slot (imageRef : Text) (entry : CacheEntry) (settled : Prop) (disk : Disk) : Prop :=
  Holds imageRef disk entry ∨ ¬ settled ∧ Vacant imageRef disk

/-- The temporary file holds the entry. -/
def Ready (imageRef : Text) (entry : CacheEntry) (disk : Disk) : Prop :=
  ∃ file, disk.files (cacheTmpPath imageRef) = some file ∧ file.data = .cacheEntry entry

theorem local_vacant : Local imageRef (Vacant imageRef) :=
  fun vacant same => (same _ (.inl rfl)).trans vacant

theorem local_slot {settled : Prop} : Local imageRef (Slot imageRef entry settled) := by
  rintro disk after (held | ⟨unsettled, vacant⟩) same
  · exact .inl (holds_same held (same _ (.inl rfl)))
  · exact .inr ⟨unsettled, local_vacant vacant same⟩

theorem local_ready (settled needed : Prop) :
    Local imageRef fun disk => Slot imageRef entry settled disk ∧ (needed → Ready imageRef entry disk) := by
  rintro disk after ⟨slot, ready⟩ same
  refine ⟨local_slot slot same, fun need => ?_⟩
  obtain ⟨file, found, data⟩ := ready need
  exact ⟨file, (same _ (.inr rfl)).trans found, data⟩

theorem Slot.keeps {settled : Prop} {disk after : Disk} (slot : Slot imageRef entry settled disk)
    (held : Holds imageRef after entry) :
    ∀ other, Holds imageRef disk other → Holds imageRef after other := by
  rintro other ⟨file, found, data⟩
  rcases slot with ⟨file', found', data'⟩ | ⟨_, vacant⟩
  · rw [found] at found'
    cases found'
    rw [data] at data'
    cases data'
    exact held
  · rw [Vacant, found] at vacant
    cases vacant

/-- An owner's operation on the entry's files that none of the kept facts is about. -/
theorem preparer_step (op : Op) (choice : Choice) {sharing : Prop} {slot : Disk → Prop}
    (slot' : Disk → Prop) (kept : Kept imageRef world) (preparer : Preparer imageRef pid sharing slot world)
    (silent : Silent imageRef (.did pid op (act pid world.disk op choice).1))
    (reply : ∀ reply, op ≠ .reply reply)
    (holds : ∀ entry, Holds imageRef world.disk entry → Holds imageRef (act pid world.disk op choice).2 entry)
    (after : slot' (act pid world.disk op choice).2) :
    Kept imageRef (done pid world op choice) ∧ Steps imageRef pid world (done pid world op choice) ∧
      Preparer imageRef pid sharing slot' (done pid world op choice) := by
  obtain ⟨alive, missed, shares, _⟩ := preparer
  refine ⟨kept.silent silent holds, ⟨⟨_, rfl, rfl⟩, alive, .inl missed, holds⟩, ?_⟩
  refine ⟨not_ended_cons alive reply, List.mem_cons_of_mem _ missed, ?_, after⟩
  intro shared
  exact shares ((shared_cons (silent.shared pid)).mp shared)

/-- The write of the temporary file of any key. -/
theorem attempt_writeTmp (key : Text) {settled : Prop} : (contract imageRef).Attempt pid
    (Preparer imageRef pid True (Slot imageRef entry settled))
    (attempt (call (.writeFile (cacheTmpPath key) (.cacheEntry entry))))
    (fun _ => Preparer imageRef pid True fun disk => Slot imageRef entry settled disk ∧
      (cachePath key cacheFileSuffix = entryPath imageRef → Ready imageRef entry disk))
    (Alive pid) := by
  refine Contract.Triple.perform (own_preparer local_slot).stable
    (Contract.Either.stable (fun _ => (own_preparer (local_ready _ _)).stable) own_alive.stable) ?_
  intro world choice kept preparer _
  have apart : ¬ (Op.writeFile (cacheTmpPath key) (.cacheEntry entry)).touches (entryPath imageRef) :=
    tmp_ne_entry key imageRef
  obtain ⟨kept', steps, preparer'⟩ := preparer_step (.writeFile (cacheTmpPath key) (.cacheEntry entry)) choice
    (Slot imageRef entry settled) kept preparer
    ⟨by simp, by simp, by simp, by simp⟩ (by simp) (fun _ held => holds_same held (act_files apart))
    (preparer.2.2.2.imp (fun held => holds_same held (act_files apart))
      fun unsettled => ⟨unsettled.1, (act_files apart).trans unsettled.2⟩)
  refine ⟨kept', steps, Contract.Either.intro (fun _ wrote => ?_) fun _ _ => preparer'.1⟩
  refine ⟨preparer'.1, preparer'.2.1, preparer'.2.2.1, preparer'.2.2.2, fun same => ?_⟩
  simp only [host, act_wrote wrote, Ready, cacheTmpPath_eq_iff.mpr same]
  exact ⟨_, put_files_self, rfl⟩

/-- The rename of the temporary file to the reference's entry. -/
theorem attempt_rename (entry : CacheEntry) (settled : Prop) : (contract imageRef).Attempt pid
    (Preparer imageRef pid True fun disk => Slot imageRef entry settled disk ∧ Ready imageRef entry disk)
    (attempt (call (.rename (cacheTmpPath imageRef) (entryPath imageRef))))
    (fun _ => Preparer imageRef pid True fun disk => Holds imageRef disk entry) (Alive pid) := by
  have isLocal : Local imageRef fun disk => Slot imageRef entry settled disk ∧ Ready imageRef entry disk := by
    intro disk after stands same
    exact (local_ready settled True ⟨stands.1, fun _ => stands.2⟩ same).imp id fun ready => ready trivial
  have isLocal' : Local imageRef fun disk => Holds imageRef disk entry :=
    fun held same => holds_same held (same _ (.inl rfl))
  refine Contract.Triple.perform (own_preparer isLocal).stable
    (Contract.Either.stable (fun _ => (own_preparer isLocal').stable) own_alive.stable) ?_
  rintro world choice kept ⟨alive, missed, shares, slot, ready, found, data⟩ _
  cases renamed : (act pid world.disk (.rename (cacheTmpPath imageRef) (entryPath imageRef)) choice).1 with
  | error error =>
    have same := act_not_renamed renamed
    obtain ⟨kept', steps, preparer'⟩ := preparer_step (.rename (cacheTmpPath imageRef) (entryPath imageRef))
      choice (fun _ => True) kept ⟨alive, missed, shares, slot⟩
      ⟨by simp, by simp, by simp [renamed], by simp⟩ (by simp) (fun _ held => by rw [same]; exact held) trivial
    refine ⟨kept', steps, Contract.Either.intro (fun _ succeeded => ?_) fun _ _ => preparer'.1⟩
    cases renamed.symm.trans succeeded
  | ok _ =>
    obtain ⟨moved, source, after⟩ := act_renamed renamed
    rw [found] at source
    cases source
    have held : Holds imageRef (act pid world.disk
        (.rename (cacheTmpPath imageRef) (entryPath imageRef)) choice).2 entry := by
      rw [after]
      exact ⟨ready, put_files_self, data⟩
    have stored := kept.store missed alive held (slot.keeps held)
    have alive' : ¬ Ended pid (.did pid (.rename (cacheTmpPath imageRef) (entryPath imageRef)) (.ok ()) ::
        world.history) := not_ended_cons alive (by simp)
    simp only [host, renamed]
    refine ⟨stored, ⟨⟨_, rfl, rfl⟩, alive, .inl missed, slot.keeps held⟩, alive',
      List.mem_cons_of_mem _ missed, fun _ => trivial, held⟩

/-- `write_cache_entry_for_key` by a preparer, under this or another key. -/
theorem attempt_writeKey (key : Text) {settled : Prop} : (contract imageRef).Attempt pid
    (Preparer imageRef pid True (Slot imageRef entry settled)) (writeCacheEntryForKey key entry)
    (fun _ => Preparer imageRef pid True
      (Slot imageRef entry (settled ∨ cachePath key cacheFileSuffix = entryPath imageRef)))
    (Alive pid) := by
  refine Contract.Attempt.bind (fun _ => Preparer imageRef pid True (Slot imageRef entry settled)) ?_
    own_alive.stable fun _ => ?_
  · exact (own_preparer local_slot).attempt (only_perform (plain_createDirAll _))
  refine Contract.Attempt.bind _ (attempt_writeTmp key) own_alive.stable fun _ => ?_
  by_cases own : cachePath key cacheFileSuffix = entryPath imageRef
  · rw [cacheTmpPath_eq_iff.mpr own, own]
    refine (attempt_rename entry settled).consequence (fun world _ preparer => ?_) fun _ world _ preparer => ?_
    · obtain ⟨alive, missed, shares, slot, ready⟩ := preparer
      exact ⟨alive, missed, shares, slot, ready rfl⟩
    · obtain ⟨alive, missed, shares, held⟩ := preparer
      exact ⟨alive, missed, shares, .inl held⟩
  · have plain : Plain imageRef (.rename (cacheTmpPath key) (cachePath key cacheFileSuffix)) := by
      refine ⟨?_, by simp, by simp, by simp⟩
      rintro path (rfl | rfl) (same | same)
      · exact tmp_ne_entry key imageRef same
      · exact own same.symm
      · exact own (cacheTmpPath_eq_iff.mp same.symm)
      · exact tmp_ne_entry imageRef key same.symm
    refine ((own_preparer (local_ready _ _)).attempt (only_perform plain)).consequence
      (fun _ _ holds => holds) fun _ world _ preparer => ?_
    obtain ⟨alive, missed, shares, slot, _⟩ := preparer
    refine ⟨alive, missed, shares, ?_⟩
    exact slot.imp id fun unsettled => ⟨fun settled => settled.elim unsettled.1 own, unsettled.2⟩

/-- `write_shared_rootfs_cache_entry` by a preparer. -/
theorem attempt_writeEntry (entry : CacheEntry) (named : entry.imageRef = imageRef) : (contract imageRef).Attempt pid
    (Preparer imageRef pid True (Vacant imageRef)) (writeSharedRootfsCacheEntry entry)
    (fun _ => Knows imageRef pid entry) (Alive pid) := by
  refine Contract.Attempt.bind (fun _ => Preparer imageRef pid True (Slot imageRef entry False)) ?_
    own_alive.stable fun _ => ?_
  · have plain : Plain imageRef (.validateCache entry) :=
      plain_of_untouched (fun _ => id) (by simp) (by simp) (by simp)
    refine ((own_preparer local_vacant).attempt (only_perform plain)).consequence
      (fun _ _ holds => holds) fun _ _ _ preparer => ?_
    obtain ⟨alive, missed, shares, vacant⟩ := preparer
    exact ⟨alive, missed, shares, .inr ⟨id, vacant⟩⟩
  have settle : ∀ settled world, settled → Preparer imageRef pid True (Slot imageRef entry settled) world →
      Knows imageRef pid entry world := by
    rintro settled world sure ⟨alive, _, _, held | ⟨unsettled, _⟩⟩
    · exact ⟨alive, held⟩
    · exact absurd sure unsettled
  refine Contract.Attempt.bind _ (attempt_writeKey entry.imageRef) own_alive.stable fun _ => ?_
  split
  · refine (attempt_writeKey entry.imageId).consequence (fun _ _ holds => holds) fun _ world _ preparer => ?_
    exact settle _ world (.inl (.inr (by rw [named]))) preparer
  · refine Contract.Attempt.pure (own_preparer local_slot).stable fun world _ preparer => ?_
    exact settle _ world (.inr (by rw [named])) preparer

/-- The second read of `prepare_shared_rootfs_cache_from_bundle`. -/
theorem attempt_recheck : (contract imageRef).Attempt pid (Idle imageRef pid)
    (readSharedRootfsCacheEntry .recheck imageRef)
    (fun found => match found with
      | some entry => Knows imageRef pid entry
      | none => Preparer imageRef pid False (Vacant imageRef))
    (Alive pid) := by
  have stable : ∀ found : Option CacheEntry, (contract imageRef).Stable pid (match found with
      | some entry => Knows imageRef pid entry
      | none => Preparer imageRef pid False (Vacant imageRef)) := by
    rintro (_ | entry)
    · exact (own_preparer local_vacant).stable
    · exact own_knows.stable
  refine Contract.Triple.perform own_idle.stable (Contract.Either.stable stable own_alive.stable) ?_
  rintro world choice kept ⟨alive, unmissed⟩ permitted
  have steps : Steps imageRef pid world (done pid world (.readCache .recheck imageRef) choice) :=
    ⟨⟨_, rfl, rfl⟩, alive, .inr fun _ _ => rfl, fun _ held => held⟩
  have alive' : Alive pid (done pid world (.readCache .recheck imageRef) choice) :=
    not_ended_cons alive (by simp)
  cases answer : (act pid world.disk (.readCache .recheck imageRef) choice).1 with
  | error error =>
    refine ⟨kept.silent ⟨by simp [answer], by simp, by simp, by simp⟩ fun _ held => held, steps,
      Contract.Either.intro (fun found same => ?_) fun _ _ => alive'⟩
    cases answer.symm.trans same
  | ok found =>
    cases found with
    | some entry =>
      refine ⟨kept.silent ⟨by simp [answer], by simp, by simp, by simp⟩ fun _ held => held, steps,
        Contract.Either.intro (fun found same => ?_) fun _ _ => alive'⟩
      cases answer.symm.trans same
      obtain ⟨file, stored, data, _⟩ := world.disk.hits_iff.mp (act_found answer)
      exact ⟨alive', file, stored, data⟩
    | none =>
      obtain ⟨works, vacant⟩ := act_missed answer
      have miss := kept.miss vacant (permitted rfl works vacant)
      simp only [host, answer]
      refine ⟨miss, ⟨⟨_, rfl, rfl⟩, alive, .inr fun _ _ => rfl, fun _ held => held⟩,
        not_ended_cons alive (by simp), List.mem_cons_self, ?_, vacant⟩
      rintro ⟨imageId, path, share, member⟩
      rcases List.mem_cons.mp member with new | old
      · cases new
      · exact unmissed (kept.sharers pid ⟨imageId, path, share, old⟩)

/-- The creation of the share, between a second read that missed and the write. -/
theorem attempt_createShare (imageId : Text) (path : Path) : (contract imageRef).Attempt pid
    (Preparer imageRef pid False (Vacant imageRef)) (attempt (call (.createShare imageRef imageId path)))
    (fun _ => Preparer imageRef pid True (Vacant imageRef)) (Alive pid) := by
  refine Contract.Triple.perform (own_preparer local_vacant).stable
    (Contract.Either.stable (fun _ => (own_preparer local_vacant).stable) own_alive.stable) ?_
  rintro world choice kept ⟨alive, missed, unshared, vacant⟩ _
  have alive' : Alive pid (done pid world (.createShare imageRef imageId path) choice) :=
    not_ended_cons alive (by simp)
  have steps : Steps imageRef pid world (done pid world (.createShare imageRef imageId path) choice) :=
    ⟨⟨_, rfl, rfl⟩, alive, .inl missed, fun _ held => held⟩
  refine ⟨?_, steps, Contract.Either.intro (fun _ _ => ?_) fun _ _ => alive'⟩
  · cases answer : (act pid world.disk (.createShare imageRef imageId path) choice).1 with
    | error error => exact kept.silent ⟨by simp, by simp [answer], by simp, by simp⟩ fun _ held => held
    | ok share =>
      have shared := kept.share missed alive unshared imageId path share
      simp only [host, contract, answer]
      exact shared
  · exact ⟨alive', List.mem_cons_of_mem _ missed, fun _ => trivial, vacant⟩

/-- `prepare_shared_rootfs_cache_from_bundle_inner` after a second read that missed. -/
theorem attempt_inner (imageId : Text) (bundleDir : Path) : (contract imageRef).Attempt pid
    (Preparer imageRef pid False (Vacant imageRef)) (prepareFromBundleInner imageRef imageId bundleDir)
    (fun entry => Knows imageRef pid entry) (Alive pid) := by
  have vacant : Own imageRef pid (Preparer imageRef pid False (Vacant imageRef)) := own_preparer local_vacant
  have shared : Own imageRef pid (Preparer imageRef pid True (Vacant imageRef)) := own_preparer local_vacant
  have quiet : ∀ {op : Op}, Quiet op → Only (Plain imageRef) (call op) := fun quiet =>
    only_perform (Quiet.plain quiet)
  refine Contract.Attempt.bind _ (vacant.ask (quiet (.isDir _))) own_alive.stable fun present => ?_
  split
  · refine Contract.Attempt.bind _ (vacant.attempt (quiet (.createDirAll .images))) own_alive.stable fun _ => ?_
    refine Contract.Attempt.bind _ (vacant.attempt ?_) own_alive.stable fun info => ?_
    · exact (only_prepareSharedRootfsImage _ _ _).weaken fun _ image => ImageOp.plain image
    refine Contract.Attempt.bind _ (attempt_createShare imageId info.path) own_alive.stable fun share => ?_
    refine Contract.Attempt.bind _ (shared.ask (quiet (.readConfig _))) own_alive.stable fun read => ?_
    refine Contract.Attempt.bind _ (attempt_writeEntry _ rfl) own_alive.stable fun _ => ?_
    exact Contract.Attempt.pure own_knows.stable fun _ _ knows => knows
  · exact Contract.Attempt.throw vacant.stable fun _ _ preparer => preparer.1

/-- The result of a preparation, once the marker is cleared. -/
theorem own_either (result : Except Error CacheEntry) :
    Own imageRef pid (Contract.Either (fun entry => Knows imageRef pid entry) (Alive pid) result) := by
  cases result with
  | ok entry => exact own_knows
  | error cause => exact own_alive

theorem attempt_prepare (imageId : Text) (bundleDir : Path) : (contract imageRef).Attempt pid
    (Idle imageRef pid) (prepareSharedRootfsCacheFromBundle imageRef imageId bundleDir)
    (fun entry => Knows imageRef pid entry) (Alive pid) := by
  refine Contract.Attempt.bind _ attempt_recheck own_alive.stable fun found => ?_
  split
  · exact Contract.Attempt.pure own_knows.stable fun _ _ knows => knows
  · have vacant : Own imageRef pid (Preparer imageRef pid False (Vacant imageRef)) := own_preparer local_vacant
    refine Contract.Attempt.bind _ (vacant.attempt (only_perform ?_)) own_alive.stable fun other => ?_
    · exact plain_of_untouched (fun _ => id) (by simp) (by simp) (by simp)
    split
    · rename_i known
      refine Contract.Attempt.bind
        (fun _ => Knows imageRef pid { known with imageRef := imageRef, imageId := imageId }) ?_
        own_alive.stable fun _ => Contract.Attempt.pure own_knows.stable fun _ _ knows => knows
      refine (attempt_writeEntry { known with imageRef := imageRef, imageId := imageId } rfl).consequence
        (fun world _ preparer => ?_) fun _ _ _ knows => knows
      obtain ⟨alive, missed, _, free⟩ := preparer
      exact ⟨alive, missed, fun _ => trivial, free⟩
    · refine Contract.Attempt.bind _ (vacant.attempt (only_mark imageRef)) own_alive.stable fun _ => ?_
      refine Contract.Attempt.bind _ (Contract.Attempt.lift (attempt_inner imageId bundleDir)
        fun result => (own_either result).stable) own_alive.stable fun result => ?_
      refine Contract.Attempt.bind _ ((own_either result).ask (only_clear imageRef)) own_alive.stable fun _ => ?_
      exact Contract.Triple.pure (own_either result).stable fun _ _ holds => holds

/-- What a lookup or a wait has found. -/
def Found (imageRef : Text) (pid : Nat) : Option CacheEntry → World → Prop
  | some entry => Knows imageRef pid entry
  | none => Idle imageRef pid

theorem own_found (found : Option CacheEntry) : Own imageRef pid (Found imageRef pid found) := by
  cases found with
  | some entry => exact own_knows
  | none => exact own_idle

/-- A read of a lookup or of a wait; an error is a miss to the lookup. -/
theorem triple_look {site : Site} (site_other : site ≠ .recheck) : (contract imageRef).Triple pid
    (Idle imageRef pid) (readSharedRootfsCacheEntry site imageRef).run
    (Contract.Either (Found imageRef pid) (Idle imageRef pid)) := by
  refine Contract.Triple.perform own_idle.stable
    (Contract.Either.stable (fun found => (own_found found).stable) own_idle.stable) ?_
  intro world choice kept idle _
  have plain : Plain imageRef (.readCache site imageRef) :=
    plain_of_untouched (fun _ => id) (by simpa using site_other) (by simp) (by simp)
  have idle' : Idle imageRef pid (done pid world (.readCache site imageRef) choice) := own_idle.plain plain idle
  refine ⟨plain.kept kept, plain.steps idle.1, Contract.Either.intro (fun found answer => ?_) fun _ _ => idle'⟩
  cases found with
  | some entry =>
    have hits : world.disk.Hits imageRef entry := @act_found _ pid choice site _ _ answer
    obtain ⟨file, stored, data, _⟩ := world.disk.hits_iff.mp hits
    exact ⟨idle'.1, file, stored, data⟩
  | none => exact idle'

theorem attempt_waitCached (polls : Nat) : (contract imageRef).Attempt pid (Idle imageRef pid)
    (waitForCachedSharedRootfs imageRef polls) (Found imageRef pid) (Alive pid) := by
  have read : (contract imageRef).Attempt pid (Idle imageRef pid)
      (withContext "failed waiting for shared rootfs cache" (cachePath imageRef cacheFileSuffix)
        (readSharedRootfsCacheEntry .wait imageRef)) (Found imageRef pid) (Alive pid) := by
    refine attempt_withContext _ _ ?_ (fun found => (own_found found).stable) own_alive.stable
    refine (triple_look (by simp)).consequence (fun _ _ idle => idle) fun result _ _ holds => ?_
    cases result with
    | ok found => exact holds
    | error cause => exact holds.1
  have pending : Only (Plain imageRef) (sharedRootfsCachePending imageRef) :=
    only_perform (LookOp.plain .isFile)
  induction polls with
  | zero =>
    unfold waitForCachedSharedRootfs
    refine Contract.Attempt.bind _ read own_alive.stable fun found => ?_
    split
    · exact Contract.Attempt.pure own_knows.stable fun _ _ knows => knows
    · refine Contract.Attempt.bind _ (own_idle.ask pending) own_alive.stable fun marked => ?_
      split <;> exact Contract.Attempt.pure own_idle.stable fun _ _ idle => idle
  | succ left ih =>
    unfold waitForCachedSharedRootfs
    refine Contract.Attempt.bind _ read own_alive.stable fun found => ?_
    split
    · exact Contract.Attempt.pure own_knows.stable fun _ _ knows => knows
    · refine Contract.Attempt.bind _ (own_idle.ask pending) own_alive.stable fun marked => ?_
      split
      · exact ih
      · exact Contract.Attempt.pure own_idle.stable fun _ _ idle => idle

theorem attempt_lookup (polls : Nat) : (contract imageRef).Attempt pid (Idle imageRef pid)
    (lookupCachedSharedRootfs imageRef polls) (Found imageRef pid) (Alive pid) := by
  have read : ∀ result : Except Error (Option CacheEntry),
      Own imageRef pid (Contract.Either (Found imageRef pid) (Idle imageRef pid) result) := by
    rintro (cause | found)
    · exact own_idle
    · exact own_found found
  refine Contract.Attempt.bind _ (Contract.Attempt.lift (triple_look (by simp))
    fun result => (read result).stable) own_alive.stable fun result => ?_
  split
  · exact Contract.Attempt.pure own_knows.stable fun _ _ knows => knows
  · rename_i other
    have idle : ∀ world, (contract imageRef).inv world →
        Contract.Either (Found imageRef pid) (Idle imageRef pid) result world → Idle imageRef pid world := by
      rcases result with cause | (_ | entry)
      · exact fun _ _ idle => idle
      · exact fun _ _ idle => idle
      · exact absurd rfl (other entry)
    refine Contract.Attempt.bind (fun _ => Idle imageRef pid)
      ((own_idle.ask (only_perform (LookOp.plain .isFile))).consequence idle fun _ _ _ idle => idle)
      own_alive.stable fun marked => ?_
    split
    · exact attempt_waitCached polls
    · exact Contract.Attempt.pure own_idle.stable fun _ _ idle => idle

theorem attempt_prepareEntry (imageId : Text) (bundlePath : Path) : (contract imageRef).Attempt pid
    (Idle imageRef pid) (prepareEntryFromBundle imageRef imageId bundlePath)
    (fun entry => Knows imageRef pid entry) (Alive pid) :=
  attempt_withContext _ _ (attempt_prepare imageId bundlePath) (fun _ => own_knows.stable) own_alive.stable

theorem attempt_pullAndPrepare : (contract imageRef).Attempt pid (Idle imageRef pid)
    (pullAndPrepare imageRef) (fun entry => Knows imageRef pid entry) (Alive pid) := by
  have idle : Own imageRef pid (Idle imageRef pid) := own_idle
  refine Contract.Attempt.bind _ (idle.ask (only_perform (Quiet.plain .nowMillis))) own_alive.stable
    fun requestId => ?_
  refine Contract.Attempt.bind _ (idle.attempt (only_perform (plain_createDirAll _))) own_alive.stable
    fun _ => ?_
  refine Contract.Attempt.bind _ (idle.attempt (only_perform (plain_createDirAll _))) own_alive.stable
    fun _ => ?_
  refine Contract.Attempt.bind _ (idle.ask (only_mark imageRef)) own_alive.stable fun marked => ?_
  have clear : Only (Plain imageRef) (clearMarked imageRef marked) :=
    clearMarked_cases (only_clear imageRef) trivial marked
  refine Contract.Attempt.bind _ (idle.ask (only_perform ?_)) own_alive.stable fun pulled => ?_
  · refine plain_of_area (show Area.bundles ≠ .cache by decide) (fun path touched => ?_)
      (by simp) (by simp) (by simp)
    cases touched
    exact ⟨_, rfl⟩
  split
  · refine Contract.Attempt.bind _ (idle.ask clear) own_alive.stable fun _ => ?_
    exact Contract.Attempt.throw idle.stable fun _ _ idle => idle.1
  · rename_i imageId
    refine Contract.Attempt.bind _ (idle.ask ?_) own_alive.stable fun _ => ?_
    · exact (only_writeSharedRootfsBundleEntry _).weaken fun _ bundle => BundleOp.plain bundle
    refine Contract.Attempt.bind _ (Contract.Attempt.lift (attempt_prepareEntry imageId _)
      fun result => (own_either result).stable) own_alive.stable fun result => ?_
    refine Contract.Attempt.bind _ ((own_either result).ask clear) own_alive.stable fun _ => ?_
    exact Contract.Triple.pure (own_either result).stable fun _ _ holds => holds

theorem attempt_prepareRootfsEntry (polls : Nat) : (contract imageRef).Attempt pid (Idle imageRef pid)
    (prepareRootfsEntry imageRef polls) (fun entry => Knows imageRef pid entry) (Alive pid) := by
  refine Contract.Attempt.bind _ (attempt_lookup polls) own_alive.stable fun found => ?_
  split
  · exact Contract.Attempt.pure own_knows.stable fun _ _ knows => knows
  · refine Contract.Attempt.bind _ (own_idle.ask ?_) own_alive.stable fun bundle => ?_
    · exact (only_lookupPulledBundle imageRef).weaken fun _ bundle => BundleOp.plain bundle
    split
    · exact attempt_prepareEntry _ _
    · exact attempt_pullAndPrepare

/-- A request for the reference, from its start to its reply. -/
theorem triple_request (polls : Nat) : (contract imageRef).Triple pid (Idle imageRef pid)
    (Request.prepareRootfs imageRef polls).program fun _ _ => True := by
  have response : (contract imageRef).Attempt pid (Idle imageRef pid) (prepareRootfsResponse imageRef polls)
      (fun response world => ∃ entry, response = replyFromCacheEntry entry ∧ Knows imageRef pid entry world)
      (Alive pid) := by
    refine Contract.Attempt.bind _ (attempt_prepareRootfsEntry polls) own_alive.stable fun entry => ?_
    exact Contract.Attempt.pure own_knows.stable fun _ _ knows => ⟨entry, rfl, knows⟩
  refine Contract.Triple.bind response fun result => ?_
  cases result with
  | error cause =>
    refine Contract.Triple.perform own_alive.stable (fun _ _ _ _ _ _ _ => trivial) ?_
    intro world choice kept alive _
    refine ⟨kept.silent ⟨by simp, by simp, by simp, by simp⟩ fun _ held => held, ?_, trivial⟩
    exact ⟨⟨_, rfl, rfl⟩, alive, .inr fun _ _ => rfl, fun _ held => held⟩
  | ok response =>
    refine Contract.Triple.perform ?_ (fun _ _ _ _ _ _ _ => trivial) ?_
    · rintro world after kept kept' meanwhile ⟨entry, same, knows⟩
      exact ⟨entry, same, own_knows.stable kept kept' meanwhile knows⟩
    · rintro world choice kept ⟨entry, rfl, alive, held⟩ _
      refine ⟨kept.serve alive held, ?_, trivial⟩
      exact ⟨⟨_, rfl, rfl⟩, alive, .inr fun _ _ => rfl, fun _ held => held⟩

end Programs

/-- From any store, while no second read misses beside a preparing process, one
share is created at most, and all replies are made of the entry that stands
under the reference. -/
theorem single_share {pool : Pool Op Answer World}
    (reached : (calls fun _ => True).Reachable (Excludes imageRef) pool) :
    (createdShares imageRef pool.world.history).length ≤ 1 ∧
      (∀ response ∈ servedReplies pool.world.history, ∃ entry,
        Holds imageRef pool.world.disk entry ∧ response = replyFromCacheEntry entry) ∧
      ∀ one ∈ servedReplies pool.world.history, ∀ other ∈ servedReplies pool.world.history, one = other := by
  have kept : Kept imageRef pool.world := by
    refine (calls_safe (contract imageRef) ?_ ?_ ?_ reached).inv
    · intro disk _
      exact ⟨by simp [Shared], by simp [Stored], by simp [Missed], Nat.zero_le 1, by simp [createdShares],
        by simp [servedReplies]⟩
    · rintro pid request world kept ⟨before, ⟨⟨polls, rfl⟩, fresh⟩, rfl⟩
      refine triple_request polls _ kept ⟨?_, ?_⟩
      · exact fresh.not_ended
      · intro missed
        cases fresh.only_began rfl missed
    · rintro pool (⟨pid, request⟩ | ⟨pid, choice⟩ | ⟨pid⟩) allowed fresh
      · exact ⟨allowed, fresh pid request rfl⟩
      · rintro op next found rfl
        exact allowed next found
      · trivial
  refine ⟨kept.created, kept.served, fun one first other second => ?_⟩
  obtain ⟨entry, ⟨file, found, data⟩, rfl⟩ := kept.served one first
  obtain ⟨entry', ⟨file', found', data'⟩, rfl⟩ := kept.served other second
  rw [found] at found'
  cases found'
  rw [data] at data'
  cases data'
  rfl

section Examples

/-- Each process gets shares with an id of its own. -/
def sharesOwn (pid : Nat) : Choice := { imageId := "i".toList, share := ⟨pid + 1, 1, 1, 1⟩ }

def blank : Pool Op Answer World := ⟨⟨.empty, []⟩, fun _ => none⟩

def stepsOf (pid count : Nat) : List (PoolLabel Request Choice) :=
  List.replicate count (.step pid (sharesOwn pid))

/-- One request from its start to its reply. -/
def oneRequest : Option (Pool Op Answer World) :=
  (calls fun _ => True).exec blank (.start 0 (.prepareRootfs "x".toList 0) :: stepsOf 0 50)

theorem oneRequest_ends : oneRequest.isSome = true := by decide +kernel

/-- A process on its own is never beside a preparing one. -/
theorem one_excludes (one : Nat) {pool : Pool Op Answer World} (reached : (calls fun _ => True).Reachable
    (fun _ label => stepPid label = one ∧ ∀ pid request, label = .start pid request →
      ∃ polls, request = .prepareRootfs imageRef polls) pool) :
    (calls fun _ => True).Reachable (Excludes imageRef) pool := by
  refine reached.strengthen fun state label after before allowed _ => ?_
  have own := records_of_one (before.weaken fun _ _ allowed => allowed.1)
  cases label with
  | start pid request => exact allowed.2 pid request rfl
  | step pid choice =>
    intro next _ _ _ other differs preparing
    have same : other = one := own _ preparing.1
    exact differs (same.trans allowed.1.symm)
  | die pid => trivial

theorem one_request_single_share :
    (createdShares "x".toList (oneRequest.get oneRequest_ends).world.history).length ≤ 1 ∧
      (∀ response ∈ servedReplies (oneRequest.get oneRequest_ends).world.history, ∃ entry,
        Holds "x".toList (oneRequest.get oneRequest_ends).world.disk entry ∧
          response = replyFromCacheEntry entry) ∧
      ∀ one ∈ servedReplies (oneRequest.get oneRequest_ends).world.history,
        ∀ other ∈ servedReplies (oneRequest.get oneRequest_ends).world.history, one = other := by
  refine single_share (one_excludes 0 ?_)
  refine System.reachable_of_exec ⟨⟨trivial, rfl⟩, rfl⟩ ?_ (Option.some_get oneRequest_ends).symm
  intro label member _
  rcases List.mem_cons.mp member with rfl | step
  · refine ⟨rfl, fun pid request same => ?_⟩
    cases same
    exact ⟨0, rfl⟩
  · rw [stepsOf, List.mem_replicate] at step
    obtain ⟨_, rfl⟩ := step
    exact ⟨rfl, fun _ _ same => by cases same⟩

/-- Requests for one reference, none of whose operations fails. -/
def Smooth (imageRef : Text) : PoolLabel Request Choice → Prop
  | .start _ request => ∃ polls, request = .prepareRootfs imageRef polls
  | .step _ choice => choice.fails = false
  | .die _ => False

/-- Both requests look up the entry before either sets the marker, and the second
one reads it again before the first has written it. -/
def twoRequests : List (PoolLabel Request Choice) :=
  .start 0 (.prepareRootfs "x".toList 0) :: .start 1 (.prepareRootfs "x".toList 0) ::
    (stepsOf 0 2 ++ (stepsOf 1 2 ++ (stepsOf 0 17 ++ (stepsOf 1 3 ++ (stepsOf 0 31 ++ stepsOf 1 24)))))

def afterTwoRequests : Option (Pool Op Answer World) := (calls fun _ => True).exec blank twoRequests

theorem twoRequests_end : afterTwoRequests.isSome = true := by decide +kernel

theorem two_requests_two_shares : ∃ pool : Pool Op Answer World,
    (calls fun _ => True).Reachable (fun _ label => Smooth "x".toList label) pool ∧
      (createdShares "x".toList pool.world.history).length = 2 ∧
      ∃ one ∈ servedReplies pool.world.history, ∃ other ∈ servedReplies pool.world.history,
        one.shareId ≠ other.shareId := by
  refine ⟨afterTwoRequests.get twoRequests_end, ?_, ?_⟩
  · refine System.reachable_of_exec ⟨⟨trivial, rfl⟩, rfl⟩ ?_ (Option.some_get twoRequests_end).symm
    intro label member _
    simp only [twoRequests, stepsOf, List.mem_cons, List.mem_append, List.mem_replicate] at member
    rcases member with rfl | rfl | member
    · exact ⟨0, rfl⟩
    · exact ⟨0, rfl⟩
    · rcases member with ⟨_, rfl⟩ | ⟨_, rfl⟩ | ⟨_, rfl⟩ | ⟨_, rfl⟩ | ⟨_, rfl⟩ | ⟨_, rfl⟩ <;> rfl
  · decide +kernel

end Examples

end GuestComponents.SharedRootfs.SingleShare
