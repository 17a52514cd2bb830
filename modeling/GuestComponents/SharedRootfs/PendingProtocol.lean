import GuestComponents.SharedRootfs.History

/-! The pending marker of a key. A preparer sets it, writes the entry and clears
it; a lookup or a wait reads the entry, and where it finds none it tests the
marker and gives up when there is none. A test that finds no marker is thus the
last operation of a lookup or wait that returns nothing before its timeout.
`none_is_final` says when such a return is right. -/
namespace GuestComponents.SharedRootfs.PendingProtocol
open Lib Program

variable (key : Text)

/-- The two keys have the same files. -/
abbrev SameFile (key other : Text) : Prop := cachePath other cacheFileSuffix = cachePath key cacheFileSuffix

/-- A process sets the key's marker. -/
def marks (pid : Nat) : Event → Bool
  | .did other (.writeFile path .pending) (.ok ()) => decide (other = pid ∧ path = pendingPath key)
  | _ => false

/-- A process clears the key's marker. -/
def clears (pid : Nat) : Event → Bool
  | .did other (.removeFile path) _ => decide (other = pid ∧ path = pendingPath key)
  | _ => false

/-- How many of its markings a process has not cleared. -/
def depth (pid : Nat) : List Event → Nat
  | [] => 0
  | event :: history =>
    if marks key pid event then depth pid history + 1
    else if clears key pid event then depth pid history - 1
    else depth pid history

/-- The process is alive, between a marking and its clearing. -/
def Between (pid : Nat) (history : List Event) : Prop := 0 < depth key pid history ∧ .died pid ∉ history

/-- A read after which a lookup or a wait tests the marker. -/
def misses : Event → Bool
  | .did _ (.readCache .lookup _) (.ok (some _)) => false
  | .did _ (.readCache .lookup other) _ => decide (SameFile key other)
  | .did _ (.readCache .wait other) (.ok none) => decide (SameFile key other)
  | _ => false

/-- The latest event of a process. -/
def lastOf (pid : Nat) (history : List Event) : Option Event := history.find? fun event => event.pid = pid

/-- The process has read no entry and is about to test the marker. -/
def Awaits (pid : Nat) (history : List Event) : Prop :=
  ∃ event, lastOf pid history = some event ∧ misses key event = true

/-- The key has an entry and no marker. -/
def Complete (disk : Disk) : Prop := disk.hasEntry key = true ∧ disk.isFile (pendingPath key) = false

/-- A test of the marker found none: its process returns nothing. -/
def ReturnsNone (history : List Event) : Prop :=
  ∃ pid earlier, history = .did pid (.isFile (pendingPath key)) false :: earlier

/-- The latest event is such a test. -/
def endsInTest : List Event → Bool
  | .did _ (.isFile path) false :: _ => decide (path = pendingPath key)
  | _ => false

/-- What a step has to respect for the protocol to work. The marker is removed
only when no other process is between, and by a process that has set it twice
only over an entry. No step completes the entry while another process is about
to test the marker, nor loses an entry without marker while a process is
between. A lookup's read does not fail on an entry. -/
structure Careful (pid : Nat) (world : World) (op : Op) (choice : Choice) : Prop where
  clears : op = .removeFile (pendingPath key) → choice.fails = false →
    world.disk.isFile (pendingPath key) = true →
    (∀ other, other ≠ pid → ¬ Between key other world.history) ∧
      (1 < depth key pid world.history → (world.disk.drop (pendingPath key)).hasEntry key = true)
  completes : (∃ other, other ≠ pid ∧ Awaits key other world.history) →
    Complete key (act pid world.disk op choice).2 → Complete key world.disk
  loses : (∃ other, Between key other world.history) → world.disk.isFile (pendingPath key) = false →
    world.disk.hasEntry key = true → (act pid world.disk op choice).2.hasEntry key = true
  reads : ∀ other, op = .readCache .lookup other → SameFile key other → choice.fails = true →
    world.disk.hasEntry key = false

/-- The considered steps of all calls. -/
def Orderly (pool : Pool Op Answer World) : PoolLabel Request Choice → Prop
  | .step pid choice => ∀ op next, pool.procs pid = some (.call op next) → Careful key pid pool.world op choice
  | _ => True

/-- What all considered runs keep. -/
structure Kept (world : World) : Prop where
  guarded : ∀ pid, Between key pid world.history →
    world.disk.isFile (pendingPath key) = true ∨ world.disk.hasEntry key = true
  awaited : ∀ pid, Awaits key pid world.history → ¬ Complete key world.disk
  returned : ReturnsNone key world.history →
    world.disk.hasEntry key = false ∧ ∀ pid, ¬ Between key pid world.history

variable {key} {pid other : Nat} {world after : World} {event : Event} {before history : List Event}
  {op : Op} {choice : Choice}

section Events

theorem returnsNone_of_endsInTest (ends : endsInTest key history = true) : ReturnsNone key history := by
  unfold endsInTest at ends
  split at ends
  · rename_i pid path earlier
    exact ⟨pid, earlier, by rw [of_decide_eq_true ends]⟩
  · cases ends

theorem lastOf_own (own : event.pid = pid) : lastOf pid (event :: history) = some event :=
  List.find?_cons_of_pos (by simpa using own)

theorem lastOf_others (others : Others pid before history) : lastOf pid history = lastOf pid before := by
  obtain ⟨events, rfl, foreign⟩ := others
  rw [lastOf, List.find?_append, List.find?_eq_none.mpr fun event member => by simpa using foreign event member]
  rfl

theorem Awaits.of_others (others : Others pid before history) (awaits : Awaits key pid before) :
    Awaits key pid history := by
  obtain ⟨event, last, missed⟩ := awaits
  exact ⟨event, (lastOf_others others).trans last, missed⟩

theorem Between.earlier (unmarked : marks key pid event = false) (between : Between key pid (event :: history)) :
    Between key pid history := by
  obtain ⟨deep, alive⟩ := between
  refine ⟨?_, fun died => alive (List.mem_cons_of_mem _ died)⟩
  simp only [depth, unmarked, Bool.false_eq_true, if_false] at deep
  split at deep <;> omega

end Events

variable (key) in
/-- Operations that touch the marker only to set or clear it, and do not test it. -/
structure Ordinary (op : Op) : Prop where
  files : op.touches (pendingPath key) →
    op = .writeFile (pendingPath key) .pending ∨ op = .removeFile (pendingPath key)
  test : op ≠ .isFile (pendingPath key)

/-- The world after an operation of a process. -/
abbrev done (pid : Nat) (world : World) (op : Op) (choice : Choice) : World :=
  (host.perform pid world op choice).2

section Steps

theorem unmarked_of_untouched {answer : Answer op} (untouched : ¬ op.touches (pendingPath key)) :
    marks key other (.did pid op answer) = false := by
  unfold marks
  split
  · rename_i path same
    cases same
    refine decide_eq_false fun own => untouched ?_
    exact own.2.symm
  · rfl

theorem isFile_same {disk after : Disk} {path : Path} (same : after.files path = disk.files path) :
    after.isFile path = disk.isFile path := by
  simp only [Disk.isFile, same]

/-- An operation away from the marker keeps open brackets guarded. -/
theorem guarded_untouched (kept : Kept key world) (careful : Careful key pid world op choice)
    (untouched : ¬ op.touches (pendingPath key)) :
    ∀ other, Between key other (done pid world op choice).history →
      (done pid world op choice).disk.isFile (pendingPath key) = true ∨
        (done pid world op choice).disk.hasEntry key = true := by
  intro other between
  have earlier : Between key other world.history := between.earlier (unmarked_of_untouched untouched)
  have same : (done pid world op choice).disk.isFile (pendingPath key) =
      world.disk.isFile (pendingPath key) := isFile_same (act_files untouched)
  cases marker : world.disk.isFile (pendingPath key) with
  | true => exact .inl (same.trans marker)
  | false =>
    rcases kept.guarded other earlier with marked | entry
    · rw [marker] at marked
      cases marked
    · exact .inr (careful.loses ⟨other, earlier⟩ marker entry)

/-- Setting the marker guards every bracket, the one it opens included. -/
theorem guarded_mark (kept : Kept key world) :
    ∀ other, Between key other (done pid world (.writeFile (pendingPath key) .pending) choice).history →
      (done pid world (.writeFile (pendingPath key) .pending) choice).disk.isFile (pendingPath key) = true ∨
        (done pid world (.writeFile (pendingPath key) .pending) choice).disk.hasEntry key = true := by
  intro other between
  have present : ∀ file : File, (world.disk.put (pendingPath key) file).isFile (pendingPath key) = true := by
    intro file
    simp [Disk.isFile]
  cases fails : choice.fails with
  | false =>
    refine .inl ?_
    simp only [done, host, act, fails, Bool.false_eq_true, if_false]
    exact present _
  | true =>
    cases left : choice.leaves with
    | some size =>
      refine .inl ?_
      simp only [done, host, act, fails, if_true, left]
      exact present _
    | none =>
      have unchanged : (done pid world (.writeFile (pendingPath key) .pending) choice).disk = world.disk := by
        simp only [done, host, act, fails, if_true, left]
      rw [unchanged]
      refine kept.guarded other (between.earlier ?_)
      simp only [act, outcome, fails, if_true]
      rfl

/-- Clearing the marker leaves only brackets over an entry. -/
theorem guarded_clear (kept : Kept key world)
    (careful : Careful key pid world (.removeFile (pendingPath key)) choice) :
    ∀ other, Between key other (done pid world (.removeFile (pendingPath key)) choice).history →
      (done pid world (.removeFile (pendingPath key)) choice).disk.isFile (pendingPath key) = true ∨
        (done pid world (.removeFile (pendingPath key)) choice).disk.hasEntry key = true := by
  intro other between
  have earlier : Between key other world.history := between.earlier rfl
  have after : (done pid world (.removeFile (pendingPath key)) choice).disk = _ := act_removeFile
  rw [after]
  split
  · rename_i cleared
    obtain ⟨nobody, nested⟩ := careful.clears rfl cleared.2 cleared.1
    by_cases own : other = pid
    · subst own
      refine .inr (nested ?_)
      have deep := between.1
      simp only [done, host, depth, marks, clears, and_self, decide_true, Bool.false_eq_true, if_false,
        if_true] at deep
      omega
    · exact absurd earlier (nobody other own)
  · exact kept.guarded other earlier

/-- A read that does not fail reads the key's file, under either name. -/
theorem read_sameFile {site : Site} {reference : Text} {disk : Disk} (same : SameFile key reference)
    (works : choice.fails = false) :
    (act pid disk (.readCache site reference) choice).1 = disk.readCacheEntry key := by
  simp only [act, works, Bool.false_eq_true, if_false, Disk.readCacheEntry, same]

/-- A read after which its process tests the marker finds no entry. -/
theorem no_entry_of_misses (careful : Careful key pid world op choice)
    (missed : misses key (.did pid op (act pid world.disk op choice).1) = true) :
    world.disk.hasEntry key = false ∧ (act pid world.disk op choice).2 = world.disk := by
  have without : ∀ (site : Site) (reference : Text), SameFile key reference → choice.fails = false →
      (∀ entry, (act pid world.disk (.readCache site reference) choice).1 ≠ .ok (some entry)) →
      world.disk.hasEntry key = false := by
    intro site reference same works none
    rw [read_sameFile same works] at none
    unfold Disk.hasEntry
    split
    · rename_i entry found
      exact absurd found (none entry)
    · rfl
  cases op with
  | readCache site reference =>
    refine ⟨?_, rfl⟩
    cases answer : (act pid world.disk (.readCache site reference) choice).1 with
    | ok found =>
      rw [answer] at missed
      cases found with
      | some entry => cases site <;> cases missed
      | none =>
        have same : SameFile key reference := by
          cases site with
          | lookup => exact of_decide_eq_true missed
          | wait => exact of_decide_eq_true missed
          | recheck => cases missed
          | byImageId => cases missed
        refine without site reference same (act_missed answer).1 fun entry found => ?_
        cases answer.symm.trans found
    | error cause =>
      rw [answer] at missed
      cases site with
      | lookup =>
        have same : SameFile key reference := of_decide_eq_true missed
        by_cases works : choice.fails = true
        · exact careful.reads reference rfl same works
        · refine without .lookup reference same (eq_false_of_ne_true works) fun entry found => ?_
          cases answer.symm.trans found
      | wait => cases missed
      | recheck => cases missed
      | byImageId => cases missed
  | _ => cases missed

/-- After a step nobody awaits over an entry without marker. -/
theorem awaited_step (kept : Kept key world) (careful : Careful key pid world op choice) :
    ∀ other, Awaits key other (done pid world op choice).history →
      ¬ Complete key (done pid world op choice).disk := by
  intro other awaits complete
  by_cases own : other = pid
  · subst own
    obtain ⟨event, last, missed⟩ := awaits
    have own : lastOf other (done other world op choice).history = _ := lastOf_own rfl
    rw [own] at last
    cases last
    obtain ⟨none, unchanged⟩ := no_entry_of_misses careful missed
    have some : (act other world.disk op choice).2.hasEntry key = true := complete.1
    rw [unchanged, none] at some
    cases some
  · have others : Others other world.history (done pid world op choice).history := .one (Ne.symm own)
    have earlier : Awaits key other world.history := by
      obtain ⟨event, last, missed⟩ := awaits
      exact ⟨event, (lastOf_others others).symm.trans last, missed⟩
    exact kept.awaited other earlier (careful.completes ⟨other, own, earlier⟩ complete)

/-- An ordinary operation keeps what all considered runs keep. -/
theorem Kept.ordinary (kept : Kept key world) (ordinary : Ordinary key op)
    (careful : Careful key pid world op choice) : Kept key (done pid world op choice) where
  guarded := by
    by_cases touched : op.touches (pendingPath key)
    · rcases ordinary.files touched with rfl | rfl
      · exact guarded_mark kept
      · exact guarded_clear kept careful
    · exact guarded_untouched kept careful touched
  awaited := awaited_step kept careful
  returned := by
    rintro ⟨other, earlier, same⟩
    simp only [done, host, List.cons.injEq, Event.did.injEq] at same
    exact absurd same.1.2.1 ordinary.test

/-- A test of the marker by a process that has read no entry. -/
theorem Kept.test (kept : Kept key world) (awaits : Awaits key pid world.history)
    (careful : Careful key pid world (.isFile (pendingPath key)) choice) :
    Kept key (done pid world (.isFile (pendingPath key)) choice) where
  guarded := guarded_untouched kept careful id
  awaited := awaited_step kept careful
  returned := by
    rintro ⟨other, earlier, same⟩
    have absent : world.disk.isFile (pendingPath key) = false := by
      simp only [done, host, act, List.cons.injEq, Event.did.injEq] at same
      exact eq_of_heq same.1.2.2
    have none : world.disk.hasEntry key = false :=
      eq_false_of_ne_true fun some => kept.awaited pid awaits ⟨some, absent⟩
    refine ⟨none, fun process between => ?_⟩
    rcases kept.guarded process (between.earlier rfl) with marked | some
    · rw [absent] at marked
      cases marked
    · rw [none] at some
      cases some

end Steps

/-- A process that begins or dies leaves what is kept. -/
theorem Kept.noted (kept : Kept key world) (unmarked : ∀ pid, marks key pid event = false)
    (own : ∀ pid, lastOf pid [event] = some event → misses key event = false)
    (other : ∀ pid earlier, event :: world.history ≠ .did pid (.isFile (pendingPath key)) false :: earlier) :
    Kept key ⟨world.disk, event :: world.history⟩ where
  guarded pid between := kept.guarded pid (between.earlier (unmarked pid))
  awaited pid awaits := by
    obtain ⟨found, last, missed⟩ := awaits
    by_cases foreign : event.pid = pid
    · rw [lastOf_own foreign] at last
      cases last
      rw [own pid (lastOf_own foreign)] at missed
      cases missed
    · have others : Others pid world.history (event :: world.history) := .one foreign
      exact kept.awaited pid ⟨found, (lastOf_others others).symm.trans last, missed⟩
  returned := by
    rintro ⟨pid, earlier, same⟩
    exact absurd same (other pid earlier)

/-- Whatever the others do, a process's latest event stays its latest. -/
def contract (key : Text) : Contract host where
  inv := Kept key
  permits := Careful key
  mayStart _ _ _ := True
  mayDie _ _ := True
  guarantee pid world after := ∃ event : Event, event.pid = pid ∧ after.history = event :: world.history
  rely pid world after := Others pid world.history after.history
  rely_refl pid _ := .refl pid _
  rely_trans _ _ _ _ first second := first.trans second
  compatible := by
    rintro pid other world after differs _ _ ⟨event, own, recorded⟩
    rw [recorded]
    exact .one (own ▸ differs)
  starts kept _ := ⟨kept.noted (fun _ => rfl) (fun _ _ => rfl) (fun _ _ same => by cases same),
    fun _ differs => .one (Ne.symm differs)⟩
  dies kept _ := ⟨kept.noted (fun _ => rfl) (fun _ _ => rfl) (fun _ _ same => by cases same),
    fun _ differs => .one (Ne.symm differs)⟩

section Programs

variable {α β : Type}

/-- The program keeps the protocol. -/
def Follows (key : Text) (program : Prog α) : Prop :=
  ∀ pid, (contract key).Triple pid (fun _ => True) program fun _ _ => True

theorem Follows.bind {program : Prog α} {rest : α → Prog β} (one : Follows key program)
    (two : ∀ value, Follows key (rest value)) : Follows key (program >>= rest) :=
  fun pid => Contract.Triple.bind (one pid) fun value => two value pid

theorem Follows.pure {value : α} : Follows key (pure value : Prog α) :=
  fun _ => Contract.Triple.pure (fun _ _ _ holds => holds) fun _ _ _ => trivial

theorem Follows.andThen {program : Fail α} {rest : α → Fail β} (one : Follows key program.run)
    (two : ∀ value, Follows key (rest value).run) : Follows key (program >>= rest).run := by
  refine one.bind ?_
  rintro (cause | value)
  · exact .pure
  · exact two value

theorem Follows.ask {program : Prog α} (one : Follows key program) : Follows key (ask program).run :=
  one.bind fun _ => .pure

theorem Follows.withContext {program : Fail α} (message : String) (path : Path)
    (one : Follows key program.run) : Follows key (withContext message path program).run := by
  refine one.bind ?_
  rintro (cause | value) <;> exact .pure

theorem Follows.only {program : Prog α} (only : Only (Ordinary key) program) : Follows key program := by
  intro pid
  refine Contract.Triple.only only (fun _ _ _ holds => holds) fun op world choice ordinary kept _ careful => ?_
  exact ⟨kept.ordinary ordinary careful, ⟨_, rfl, rfl⟩, trivial⟩

theorem ordinary_of_untouched {op : Op} (untouched : ¬ op.touches (pendingPath key))
    (test : ∀ path, op ≠ .isFile path) : Ordinary key op :=
  ⟨fun touched => absurd touched untouched, test _⟩

theorem Quiet.ordinary {op : Op} (quiet : Quiet op) : Ordinary key op :=
  ordinary_of_untouched (quiet.touches _) fun path => by cases quiet <;> simp

theorem ImageOp.ordinary {directory : Path} {safeImageId : Text} {op : Op}
    (image : ImageOp (ImageFile directory safeImageId) op) : Ordinary key op := by
  refine ordinary_of_untouched (fun touched => pending_not_image (image.touches touched)) fun path => ?_
  cases image with
  | quiet quiet => cases quiet <;> simp
  | _ => simp

theorem BundleOp.ordinary {op : Op} (bundle : BundleOp op) : Ordinary key op := by
  refine ordinary_of_untouched (fun touched => ?_) fun path => ?_
  · obtain ⟨name, same⟩ := bundle.touches touched
    cases same
  · cases bundle with
    | quiet quiet => cases quiet <;> simp
    | _ => simp

theorem EntryOp.ordinary {entry : CacheEntry} {op : Op} (writes : EntryOp entry op) : Ordinary key op := by
  refine ordinary_of_untouched ?_ fun path => by cases writes <;> simp
  cases writes with
  | createDirAll path => exact id
  | validateCache => exact id
  | @writeFile other names => exact pending_ne_tmp key other
  | rename other =>
    rintro (same | same)
    · exact pending_ne_tmp key other same
    · exact pending_ne_entry key other same

theorem MarkerOp.ordinary {imageRef : Text} {op : Op} (marker : MarkerOp imageRef op) : Ordinary key op := by
  refine ⟨fun touched => ?_, by cases marker <;> simp⟩
  cases marker with
  | createDirAll path => cases touched
  | mark =>
    have same : pendingPath key = pendingPath imageRef := touched
    exact .inl (by rw [same])
  | clear =>
    have same : pendingPath key = pendingPath imageRef := touched
    exact .inr (by rw [same])

theorem pendingPath_eq_iff {reference : Text} :
    pendingPath reference = pendingPath key ↔ SameFile key reference := by
  rw [pendingPath, pendingPath, cachePath_eq_iff, SameFile, cachePath_eq_iff]

/-- If the reference has the key's files, the process is about to test the marker. -/
def Poised (key : Text) (pid : Nat) (reference : Text) (world : World) : Prop :=
  SameFile key reference → Awaits key pid world.history

theorem poised_stable (reference : Text) : (contract key).Stable pid (Poised key pid reference) :=
  fun _ _ others poised same => (poised same).of_others others

theorem triple_test (reference : Text) : (contract key).Triple pid (Poised key pid reference)
    (sharedRootfsCachePending reference) fun _ _ => True := by
  refine Contract.Triple.perform (poised_stable reference) (fun _ _ _ _ _ _ _ => trivial) ?_
  intro world choice kept poised careful
  refine ⟨?_, ⟨_, rfl, rfl⟩, trivial⟩
  by_cases own : pendingPath reference = pendingPath key
  · have awaits := poised (pendingPath_eq_iff.mp own)
    rw [own] at careful ⊢
    exact kept.test awaits careful
  · refine kept.ordinary ⟨fun touched => touched.elim, ?_⟩ careful
    intro same
    injection same with same
    exact own same

/-- A read, of any site, leaves what its answer says as the latest event. -/
theorem triple_read (site : Site) (reference : Text) : (contract key).Triple pid (fun _ => True)
    (readSharedRootfsCacheEntry site reference).run fun result world =>
      misses key (.did pid (.readCache site reference) result) = true → Awaits key pid world.history := by
  refine Contract.Triple.perform (fun _ _ _ holds => holds)
    (fun _ => fun _ _ others awaits missed => (awaits missed).of_others others) ?_
  intro world choice kept _ careful
  refine ⟨kept.ordinary ?_ careful, ⟨_, rfl, rfl⟩, fun missed => ⟨_, lastOf_own rfl, missed⟩⟩
  exact ordinary_of_untouched id fun _ => by simp

theorem attempt_waitRead (reference : Text) : (contract key).Attempt pid (fun _ => True)
    (readSharedRootfsCacheEntry .wait reference) (fun found world => found = none → Poised key pid reference world)
    fun _ => True := by
  refine (triple_read .wait reference).consequence (fun _ _ holds => holds) fun result world _ awaits => ?_
  refine Contract.Either.intro ?_ fun _ _ => trivial
  rintro found rfl rfl same
  exact awaits (decide_eq_true same)

/-- After a read that gave no entry, a test of the marker and what follows it. -/
theorem triple_afterMiss {rest : Bool → Fail α} (reference : Text)
    (follows : ∀ marked, Follows key (rest marked).run) : (contract key).Triple pid (Poised key pid reference)
    (ask (sharedRootfsCachePending reference) >>= rest).run fun _ _ => True := by
  have tested : (contract key).Triple pid (Poised key pid reference)
      (ask (sharedRootfsCachePending reference)).run fun _ _ => True :=
    Contract.Triple.bind (triple_test reference) fun _ => Follows.pure pid
  refine Contract.Triple.bind tested ?_
  rintro (cause | marked)
  · exact Follows.pure pid
  · exact follows marked pid

/-- One look of a wait: it ends with an entry, or tests the marker. -/
theorem follows_poll {reads : Fail (Option CacheEntry)} {next : Option CacheEntry → Fail α} (reference : Text)
    (read : ∀ pid, (contract key).Attempt pid (fun _ => True) reads
      (fun found world => found = none → Poised key pid reference world) fun _ => True)
    (some : ∀ entry, Follows key (next (some entry)).run)
    (none : ∀ pid, (contract key).Triple pid (Poised key pid reference) (next none).run fun _ _ => True) :
    Follows key (reads >>= next).run := by
  intro pid
  refine Contract.Triple.bind (read pid) ?_
  rintro (cause | (_ | entry))
  · exact Follows.pure pid
  · exact (none pid).consequence (fun _ _ poised => poised rfl) fun _ _ _ holds => holds
  · exact (some entry pid).consequence (fun _ _ _ => trivial) fun _ _ _ holds => holds

theorem follows_wait (reference : Text) (polls : Nat) :
    Follows key (waitForSharedRootfsCacheEntry reference polls).run := by
  induction polls with
  | zero =>
    unfold waitForSharedRootfsCacheEntry
    refine follows_poll reference (fun _ => attempt_waitRead reference) (fun _ => .pure) fun pid => ?_
    refine triple_afterMiss reference fun marked => ?_
    cases marked <;> exact .pure
  | succ left ih =>
    unfold waitForSharedRootfsCacheEntry
    refine follows_poll reference (fun _ => attempt_waitRead reference) (fun _ => .pure) fun pid => ?_
    refine triple_afterMiss reference fun marked => ?_
    cases marked with
    | false => exact .pure
    | true => exact ih

theorem follows_waitCached (reference : Text) (polls : Nat) :
    Follows key (waitForCachedSharedRootfs reference polls).run := by
  have read : ∀ pid, (contract key).Attempt pid (fun _ => True)
      (withContext "failed waiting for shared rootfs cache" (cachePath reference cacheFileSuffix)
        (readSharedRootfsCacheEntry .wait reference))
      (fun found world => found = none → Poised key pid reference world) fun _ => True := by
    intro pid
    refine attempt_withContext _ _ (attempt_waitRead reference) (fun found => ?_) fun _ _ _ holds => holds
    exact fun kept kept' others poised none => poised_stable reference kept kept' others (poised none)
  induction polls with
  | zero =>
    unfold waitForCachedSharedRootfs
    refine follows_poll reference read (fun _ => .pure) fun pid => ?_
    refine triple_afterMiss reference fun marked => ?_
    cases marked <;> exact .pure
  | succ left ih =>
    unfold waitForCachedSharedRootfs
    refine follows_poll reference read (fun _ => .pure) fun pid => ?_
    refine triple_afterMiss reference fun marked => ?_
    cases marked with
    | false => exact .pure
    | true => exact ih

theorem follows_lookup (reference : Text) (polls : Nat) :
    Follows key (lookupCachedSharedRootfs reference polls).run := by
  intro pid
  have missed : ∀ result : Except Error (Option CacheEntry), (∀ entry, result ≠ .ok (some entry)) →
      SameFile key reference → misses key (.did pid (.readCache .lookup reference) result) = true := by
    rintro (cause | (_ | entry)) none same
    · exact decide_eq_true same
    · exact decide_eq_true same
    · exact absurd rfl (none entry)
  have stable : ∀ result : Except Error (Option CacheEntry), (contract key).Stable pid fun world =>
      (∀ entry, result ≠ .ok (some entry)) → Poised key pid reference world := fun _ =>
    fun kept kept' others poised none => poised_stable reference kept kept' others (poised none)
  have read : (contract key).Attempt pid (fun _ => True) (ask (readSharedRootfsCacheEntry .lookup reference).run)
      (fun result world => (∀ entry, result ≠ .ok (some entry)) → Poised key pid reference world)
      fun _ => True := by
    refine Contract.Attempt.lift ?_ stable
    refine (triple_read .lookup reference).consequence (fun _ _ holds => holds) ?_
    exact fun result world _ awaits none same => awaits (missed result none same)
  have misses : ∀ result : Except Error (Option CacheEntry), (∀ entry, result ≠ .ok (some entry)) →
      (contract key).Triple pid
        (fun world => (∀ entry, result ≠ .ok (some entry)) → Poised key pid reference world)
        (ask (sharedRootfsCachePending reference) >>= fun marked =>
          if marked then waitForCachedSharedRootfs reference polls else pure none : Fail (Option CacheEntry)).run
        fun _ _ => True := by
    intro result other
    refine (triple_afterMiss reference fun marked => ?_).consequence
      (fun _ _ poised => poised other) fun _ _ _ holds => holds
    cases marked with
    | false => exact .pure
    | true => exact follows_waitCached reference polls
  refine Contract.Triple.bind read ?_
  rintro (cause | (cause | (_ | entry)))
  · exact Follows.pure pid
  · exact misses (.error cause) fun _ same => by cases same
  · exact misses (.ok none) fun _ same => by cases same
  · exact (Follows.pure pid).consequence (fun _ _ _ => trivial) fun _ _ _ holds => holds

theorem follows_inner (reference imageId : Text) (bundleDir : Path) :
    Follows key (prepareFromBundleInner reference imageId bundleDir).run := by
  have quiet : ∀ {op : Op}, Quiet op → Follows key (call op) := fun quiet =>
    Follows.only (only_perform (Quiet.ordinary quiet))
  refine Follows.andThen (quiet (.isDir _)).ask fun present => ?_
  split
  · refine Follows.andThen (quiet (.createDirAll .images)) fun _ => ?_
    refine Follows.andThen (.only ?_) fun info => ?_
    · exact (only_prepareSharedRootfsImage _ _ _).weaken fun _ image => ImageOp.ordinary image
    refine Follows.andThen (.only (only_perform (ordinary_of_untouched id fun _ => by simp))) fun share => ?_
    refine Follows.andThen (quiet (.readConfig _)).ask fun read => ?_
    refine Follows.andThen (.only ?_) fun _ => .pure
    exact (only_writeSharedRootfsCacheEntry _).weaken fun _ writes => EntryOp.ordinary writes
  · exact .pure

theorem follows_read (site : Site) (reference : Text) :
    Follows key (readSharedRootfsCacheEntry site reference).run :=
  .only (only_perform (ordinary_of_untouched id fun _ => by simp))

theorem follows_mark (reference : Text) : Follows key (markSharedRootfsCachePending reference).run :=
  .only ((only_markSharedRootfsCachePending reference).weaken fun _ marker => MarkerOp.ordinary marker)

theorem follows_clear (reference : Text) : Follows key (clearSharedRootfsCachePending reference) :=
  .only ((only_clearSharedRootfsCachePending reference).weaken fun _ marker => MarkerOp.ordinary marker)

theorem follows_writeEntry (entry : CacheEntry) : Follows key (writeSharedRootfsCacheEntry entry).run :=
  .only ((only_writeSharedRootfsCacheEntry entry).weaken fun _ writes => EntryOp.ordinary writes)

theorem follows_prepare (reference imageId : Text) (bundleDir : Path) :
    Follows key (prepareSharedRootfsCacheFromBundle reference imageId bundleDir).run := by
  refine Follows.andThen (follows_read _ _) fun found => ?_
  split
  · exact .pure
  · refine Follows.andThen (follows_read _ _) fun known => ?_
    split
    · exact Follows.andThen (follows_writeEntry _) fun _ => .pure
    · refine Follows.andThen (follows_mark _) fun _ => ?_
      refine Follows.andThen (follows_inner _ _ _).ask fun result => ?_
      exact Follows.andThen (follows_clear _).ask fun _ => .pure

theorem follows_pullAndPrepare (reference : Text) : Follows key (pullAndPrepare reference).run := by
  have plain : ∀ {op : Op}, ¬ op.touches (pendingPath key) → (∀ path, op ≠ .isFile path) →
      Follows key (call op) := fun untouched test => .only (only_perform (ordinary_of_untouched untouched test))
  refine Follows.andThen (plain id fun _ => by simp).ask fun requestId => ?_
  refine Follows.andThen (plain id fun _ => by simp) fun _ => ?_
  refine Follows.andThen (plain id fun _ => by simp) fun _ => ?_
  refine Follows.andThen (follows_mark _).ask fun marked => ?_
  have clear : Follows key (clearMarked reference marked) := clearMarked_cases (follows_clear _) .pure marked
  refine Follows.andThen (plain (fun touched => ?_) fun _ => by simp).ask fun pulled => ?_
  · cases touched
  split
  · exact Follows.andThen clear.ask fun _ => .pure
  · refine Follows.andThen (Follows.only ?_).ask fun _ => ?_
    · exact (only_writeSharedRootfsBundleEntry _).weaken fun _ bundle => BundleOp.ordinary bundle
    refine Follows.andThen ((follows_prepare _ _ _).withContext _ _).ask fun entry => ?_
    exact Follows.andThen clear.ask fun _ => .pure

theorem follows_prepareRootfsResponse (reference : Text) (polls : Nat) :
    Follows key (prepareRootfsResponse reference polls).run := by
  refine Follows.andThen ?_ fun entry => .pure
  refine Follows.andThen (follows_lookup _ _) fun found => ?_
  split
  · exact .pure
  · refine Follows.andThen (Follows.only ?_).ask fun bundle => ?_
    · exact (only_lookupPulledBundle _).weaken fun _ bundle => BundleOp.ordinary bundle
    split
    · exact (follows_prepare _ _ _).withContext _ _
    · exact follows_pullAndPrepare _

/-- Every call keeps the protocol. -/
theorem follows_request (request : Request) : Follows key request.program := by
  have reply : ∀ reply, Follows key (call (.reply reply)) := fun _ =>
    .only (only_perform (ordinary_of_untouched id fun _ => by simp))
  cases request with
  | writeCache entry => exact (follows_writeEntry entry).bind fun _ => reply _
  | writeBundle entry =>
    refine (Follows.only ?_).bind fun _ => reply _
    exact (only_writeSharedRootfsBundleEntry entry).weaken fun _ bundle => BundleOp.ordinary bundle
  | prepare reference imageId bundleDir => exact (follows_prepare _ _ _).bind fun _ => reply _
  | prepareImage rootfsDir directory safeImageId reference =>
    refine (Follows.only ?_).bind fun _ => reply _
    exact (only_prepareSharedRootfsImage _ _ _).weaken fun _ image => ImageOp.ordinary image
  | wait reference polls => exact (follows_wait reference polls).bind fun _ => reply _
  | prepareRootfs reference polls => exact (follows_prepareRootfsResponse _ _).bind fun _ => reply _

end Programs

/-- From any store and in every interleaving of careful steps of all calls, when a
lookup or a wait returns nothing because it found no marker, the key has no entry
and no process is between a marking and its clearing. -/
theorem none_is_final {pool : Pool Op Answer World}
    (reached : (calls fun _ => True).Reachable (Orderly key) pool)
    (returns : ReturnsNone key pool.world.history) :
    pool.world.disk.hasEntry key = false ∧ ∀ pid, ¬ Between key pid pool.world.history := by
  have kept : Kept key pool.world := by
    refine (calls_safe (contract key) ?_ ?_ ?_ reached).inv
    · intro disk _
      refine ⟨?_, ?_, ?_⟩
      · rintro pid ⟨deep, _⟩
        exact absurd deep (Nat.lt_irrefl 0)
      · rintro pid ⟨event, last, _⟩
        cases last
      · rintro ⟨pid, earlier, same⟩
        cases same
    · rintro pid request world kept _
      exact follows_request request pid world kept trivial
    · rintro pool (⟨pid, request⟩ | ⟨pid, choice⟩ | ⟨pid⟩) allowed _
      · trivial
      · exact allowed
      · trivial
  exact kept.returned returns

section Examples

def smooth : Choice := { imageId := "i".toList }

def blank : Pool Op Answer World := ⟨⟨.empty, []⟩, fun _ => none⟩

/-- An operation that changes nothing respects the protocol. -/
theorem orderly_of_still {pool : Pool Op Answer World} {pid : Nat} {op : Op} {choice : Choice}
    (performs : nextOp pool pid = some op) (still : (act pid pool.world.disk op choice).2 = pool.world.disk)
    (works : choice.fails = false) (other : ∀ path, op ≠ .removeFile path) :
    Orderly key pool (.step pid choice) := by
  intro op' next found
  cases performs.symm.trans (nextOp_call found)
  refine ⟨fun same => absurd same (other _), fun _ complete => ?_, fun _ _ entry => ?_, fun _ _ _ fails => ?_⟩
  · rwa [still] at complete
  · rwa [still]
  · rw [works] at fails
    cases fails

/-- A wait on its own: it begins, reads no entry and tests the marker. -/
def waitBegun : Option (Pool Op Answer World) :=
  (calls fun _ => True).step blank (.start 0 (.wait "x".toList 0))

theorem waitBegun_some : waitBegun.isSome = true := by decide +kernel

def waitRead : Option (Pool Op Answer World) :=
  (calls fun _ => True).step (waitBegun.get waitBegun_some) (.step 0 smooth)

theorem waitRead_some : waitRead.isSome = true := by decide +kernel

def waitTested : Option (Pool Op Answer World) :=
  (calls fun _ => True).step (waitRead.get waitRead_some) (.step 0 smooth)

theorem waitTested_some : waitTested.isSome = true := by decide +kernel

theorem lone_wait_is_final :
    ReturnsNone "x".toList (waitTested.get waitTested_some).world.history ∧
      (waitTested.get waitTested_some).world.disk.hasEntry "x".toList = false ∧
      ∀ pid, ¬ Between "x".toList pid (waitTested.get waitTested_some).world.history := by
  have begun : (calls fun _ => True).Reachable (Orderly "x".toList) (waitBegun.get waitBegun_some) :=
    .step (.start ⟨⟨trivial, rfl⟩, rfl⟩)
      (show Orderly "x".toList blank (.start 0 (.wait "x".toList 0)) from trivial)
      (Option.some_get waitBegun_some).symm
  have performs : nextOp (waitBegun.get waitBegun_some) 0 = some (.readCache .wait "x".toList) := by
    decide +kernel
  have read : (calls fun _ => True).Reachable (Orderly "x".toList) (waitRead.get waitRead_some) :=
    .step begun (orderly_of_still performs rfl rfl fun _ => by simp) (Option.some_get waitRead_some).symm
  have tests : nextOp (waitRead.get waitRead_some) 0 = some (.isFile (pendingPath "x".toList)) := by
    decide +kernel
  have tested : (calls fun _ => True).Reachable (Orderly "x".toList) (waitTested.get waitTested_some) :=
    .step read (orderly_of_still tests rfl rfl fun _ => by simp) (Option.some_get waitTested_some).symm
  have returns : ReturnsNone "x".toList (waitTested.get waitTested_some).world.history :=
    returnsNone_of_endsInTest (by decide +kernel)
  exact ⟨returns, none_is_final tested returns⟩

/-- A wait reads no entry, a request prepares one from its start to its reply, and
then the wait tests the marker. -/
def lateTest : List (PoolLabel Request Choice) :=
  .start 0 (.wait "x".toList 0) :: .step 0 smooth :: .start 1 (.prepareRootfs "x".toList 0) ::
    (List.replicate 50 (.step 1 smooth) ++ [.step 0 smooth])

def afterLateTest : Option (Pool Op Answer World) := (calls fun _ => True).exec blank lateTest

theorem afterLateTest_some : afterLateTest.isSome = true := by decide +kernel

/-- The wait returns nothing although the entry is there and valid. -/
theorem entry_missed : ∃ pool : Pool Op Answer World, (calls fun _ => True).Reachable System.Free pool ∧
    ReturnsNone "x".toList pool.world.history ∧ pool.world.disk.hasEntry "x".toList = true := by
  refine ⟨afterLateTest.get afterLateTest_some, ?_, returnsNone_of_endsInTest ?_, ?_⟩
  · exact System.reachable_of_exec ⟨⟨trivial, rfl⟩, rfl⟩ (fun _ _ _ => trivial)
      (Option.some_get afterLateTest_some).symm
  · decide +kernel
  · decide +kernel

end Examples

end GuestComponents.SharedRootfs.PendingProtocol
