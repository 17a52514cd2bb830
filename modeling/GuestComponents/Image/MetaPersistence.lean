import GuestComponents.Image.Client

/-! What the meta store remembers. A call records its image in memory first and then writes
the whole store over the old file. The file is empty in between, so a death there, or an
error of either step, loses what earlier calls had committed or leaves the image of a call
that failed in memory. -/
namespace GuestComponents.Image
open Lib Lib.Text

abbrev ImageDb := AList fun _ : Text => ImageMeta

section History

/-- What has happened to the databases in a run: the store of the first client, the stores
that calls have committed, the database when the current call began, for each call that has
returned the database then and when it returned, and for each start of a client the store
it loaded, with the stores that had been committed. -/
structure MetaHistory where
  first : MetaStore
  committed : List MetaStore
  before : ImageDb
  returned : List (Reply × ImageDb × ImageDb)
  loaded : List (MetaStore × List MetaStore)

/-- The store that a start-up loads. -/
def State.loads (state : State) : MetaStore := state.metaFile.getD .empty

def MetaHistory.initial (state : State) : MetaHistory :=
  ⟨state.loads, [], state.metaStore.imageDb, [], []⟩

/-- The call that a step begins. -/
def MetaHistory.call (history : MetaHistory) (state : State) : Label → MetaHistory
  | .call _ _ => { history with before := state.metaStore.imageDb }
  | _ => history

/-- The store that a step commits: the write of a call that then succeeds. -/
def MetaHistory.commit (history : MetaHistory) (state : State) (label : Label) : MetaHistory :=
  match label, state.phase with
  | .writeFile (.ok ()), .writing _ _ =>
    { history with committed := state.metaStore :: history.committed }
  | _, _ => history

/-- The start of a client that a step is. -/
def MetaHistory.load (history : MetaHistory) (next : State) : Label → MetaHistory
  | .restart => { history with loaded := (next.metaStore, history.committed) :: history.loaded }
  | _ => history

/-- The call that returns in a step. -/
def MetaHistory.reply (history : MetaHistory) (state next : State) : MetaHistory :=
  match next.replies with
  | [] => history
  | reply :: _ =>
    if state.replies.length < next.replies.length then
      { history with returned := (reply, history.before, next.metaStore.imageDb) :: history.returned }
    else history

def MetaHistory.record (history : MetaHistory) (state : State) (label : Label) (next : State) : MetaHistory :=
  (((history.call state label).commit state label).load next label).reply state next

end History

section Specification

variable (client : ImageClient)

/-- The store is the last one committed, or before there is one the first client's. -/
def MetaHistory.Last (history : MetaHistory) (store : MetaStore) : Prop :=
  store = history.committed.headD history.first

/-- A call that has failed has left the image database as it was. -/
def FailuresUndone (history : MetaHistory) : Prop :=
  ∀ entry ∈ history.returned, ∀ error, entry.1.result = .error error → entry.2.2 = entry.2.1

/-- Every client that was started has loaded a store that a call had committed, or the
first client's where none had. -/
def LoadsCommitted (history : MetaHistory) : Prop :=
  ∀ entry ∈ history.loaded, entry.1 ∈ entry.2 ∨ entry.2 = [] ∧ entry.1 = history.first

/-- The condition on each step: the file of the meta store can be created and written, and
the process does not die in between. -/
def FileSettles (state : State) (label : Label) : Prop :=
  (∀ pull imageId error, state.phase = .saving pull imageId → label ≠ .createFile (.error error)) ∧
  ∀ pull imageId, state.phase = .writing pull imageId → label = .writeFile (.ok ()) ∨ ∃ path, label = .runOn path

/-- Clients that have just been made, and the history of their runs. -/
def historySystem : System (State × MetaHistory) Label :=
  (pullSystem client fun state => state.phase = .idle).withHistory MetaHistory.initial MetaHistory.record

end Specification

variable {client : ImageClient} {state next : State} {history : MetaHistory} {label : Label}

/-- What holds between the client and the history of its run. -/
structure Settled (state : State) (history : MetaHistory) : Prop where
  file : (∀ pull imageId, state.phase ≠ .writing pull imageId) → history.Last state.loads
  pulling : ∀ pull tasks, state.phase = .pulling pull tasks → state.metaStore.imageDb = history.before
  bundling : ∀ pull, state.phase = .bundling pull → state.metaStore.imageDb = history.before
  failures : FailuresUndone history
  loads : LoadsCommitted history

section Recording

/-- Steps that begin no call, write no file and start no client. -/
def Label.isPlain : Label → Bool
  | .call _ _ => false
  | .writeFile _ => false
  | .restart => false
  | _ => true

theorem record_plain (plain : label.isPlain = true) :
    history.record state label next = history.reply state next := by
  cases label <;> first | rfl | cases plain

theorem record_call (request : PullRequest) (answer : CallAnswer) :
    history.record state (.call request answer) next =
      MetaHistory.reply { history with before := state.metaStore.imageDb } state next :=
  rfl

theorem record_restart :
    history.record state .restart next =
      MetaHistory.reply { history with loaded := (next.metaStore, history.committed) :: history.loaded }
        state next :=
  rfl

theorem record_write {pull : Pull} {imageId : Text} (phase : state.phase = .writing pull imageId) :
    history.record state (.writeFile (.ok ())) next =
      MetaHistory.reply { history with committed := state.metaStore :: history.committed } state next := by
  simp [MetaHistory.record, MetaHistory.call, MetaHistory.commit, MetaHistory.load, phase]

theorem reply_none (same : next.replies = state.replies) : history.reply state next = history := by
  unfold MetaHistory.reply
  split
  · rfl
  · simp [same]

theorem reply_answer {before : State} {reply : Reply} (same : before.replies = state.replies) :
    history.reply state (before.answer reply) =
      { history with returned := (reply, history.before, before.metaStore.imageDb) :: history.returned } := by
  simp [MetaHistory.reply, State.answer, same]

/-- A call that fails has changed nothing, so far. -/
theorem FailuresUndone.cons (undone : FailuresUndone history) {reply : Reply} {db : ImageDb}
    (unchanged : ∀ error, reply.result = .error error → db = history.before) :
    FailuresUndone { history with returned := (reply, history.before, db) :: history.returned } := by
  intro entry listed error failed
  rcases List.mem_cons.mp listed with rfl | earlier
  · exact unchanged error failed
  · exact undone entry earlier error failed

theorem MetaHistory.Last.committed {store : MetaStore} (last : history.Last store) :
    store ∈ history.committed ∨ history.committed = [] ∧ store = history.first := by
  unfold MetaHistory.Last at last
  cases stores : history.committed with
  | nil =>
    rw [stores] at last
    exact .inr ⟨rfl, last⟩
  | cons store stores' =>
    rw [stores] at last
    rw [last]
    exact .inl List.mem_cons_self

end Recording

namespace Settled

/-- A step of a call that has not returned, and writes nothing. -/
theorem quiet (settled : Settled state history) (plain : label.isPlain = true)
    (still : ∀ pull imageId, state.phase ≠ .writing pull imageId)
    (same : next.replies = state.replies) (file : next.metaFile = state.metaFile)
    (pulling : ∀ pull tasks, next.phase = .pulling pull tasks → next.metaStore.imageDb = history.before)
    (bundling : ∀ pull, next.phase = .bundling pull → next.metaStore.imageDb = history.before) :
    Settled next (history.record state label next) := by
  rw [record_plain plain, reply_none same]
  constructor
  · intro _
    unfold State.loads
    rw [file]
    exact settled.file still
  · exact pulling
  · exact bundling
  · exact settled.failures
  · exact settled.loads

/-- A call returns, and has changed nothing if it failed. -/
theorem answer (settled : Settled state history) (plain : label.isPlain = true) {before : State}
    (same : before.replies = state.replies) (file : before.metaFile = state.metaFile)
    (still : ∀ pull imageId, state.phase ≠ .writing pull imageId) {reply : Reply}
    (unchanged : ∀ error, reply.result = .error error → before.metaStore.imageDb = history.before) :
    Settled (before.answer reply) (history.record state label (before.answer reply)) := by
  rw [record_plain plain, reply_answer same]
  constructor
  · intro _
    have last := settled.file still
    unfold State.loads at last
    rw [← file] at last
    exact last
  · intro pull tasks phase
    cases phase
  · intro pull phase
    cases phase
  · exact settled.failures.cons unchanged
  · exact settled.loads

/-- A step that only touches files. -/
theorem steady (settled : Settled state history) (plain : label.isPlain = true) (phase : next.phase = state.phase)
    (store : next.metaStore = state.metaStore) (same : next.replies = state.replies)
    (file : next.metaFile = state.metaFile) : Settled next (history.record state label next) := by
  rw [record_plain plain, reply_none same]
  constructor
  · intro still
    rw [phase] at still
    unfold State.loads
    rw [file]
    exact settled.file still
  · intro pull tasks pulling
    rw [store]
    exact settled.pulling pull tasks (phase.symm.trans pulling)
  · intro pull bundling
    rw [store]
    exact settled.bundling pull (phase.symm.trans bundling)
  · exact settled.failures
  · exact settled.loads

/-- A layer of a call goes on, or the call fails for it. -/
theorem attemptFailed (settled : Settled state history) (plain : label.isPlain = true) {pull : Pull}
    {tasks : List Task} (phase : state.phase = .pulling pull tasks) {before : State}
    (store : before.metaStore = state.metaStore) (same : before.replies = state.replies)
    (file : before.metaFile = state.metaFile) (i attempt : Nat) (error : String) :
    Settled (before.attemptFailed pull tasks i attempt error)
      (history.record state label (before.attemptFailed pull tasks i attempt error)) := by
  have still : ∀ pull imageId, state.phase ≠ .writing pull imageId := by
    simp [phase]
  have unchanged : before.metaStore.imageDb = history.before := by
    rw [store]
    exact settled.pulling pull tasks phase
  unfold State.attemptFailed
  split
  · apply settled.quiet plain still
    · exact same
    · exact file
    · exact fun _ _ _ => unchanged
    · exact fun _ _ => unchanged
  · apply settled.answer plain
    · exact same
    · exact file
    · exact still
    · exact fun _ _ => unchanged

end Settled

theorem step_bundling {pull : Pull} (phase : state.phase = .bundling pull)
    (stepped : step client state label = some next) :
    label = .restart ∨ (∃ path, label = .runOn path) ∨ ∃ answer, label = .bundle answer := by
  cases label <;> simp [step, phase] at stepped ⊢

/-- Another step in the pulling of layers. -/
theorem Settled.task (settled : Settled state history) (plain : label.isPlain = true) {pull : Pull}
    {tasks tasks' : List Task} (phase : state.phase = .pulling pull tasks) {index : Nat} {disk : Disk} :
    let next := { state with layersIndex := index, disk := disk, phase := .pulling pull tasks' }
    Settled next (history.record state label next) := by
  have unchanged := settled.pulling pull tasks phase
  apply settled.quiet plain
  · simp [phase]
  · rfl
  · rfl
  · exact fun _ _ _ => unchanged
  · exact fun _ _ => unchanged

theorem step_saving {pull : Pull} {imageId : Text} (phase : state.phase = .saving pull imageId)
    (stepped : step client state label = some next) :
    label = .restart ∨ (∃ path, label = .runOn path) ∨ ∃ outcome, label = .createFile outcome := by
  cases label <;> simp [step, phase] at stepped ⊢

/-- While a call makes its bundle or writes its file, a step that fails it is the making of
the bundle, if the file can be created and written. -/
theorem failed_bundling {pull : Pull} {error : String} (allowed : FileSettles state label)
    (phases : state.phase = .bundling pull ∨ (∃ imageId, state.phase = .saving pull imageId) ∨
      ∃ imageId, state.phase = .writing pull imageId)
    (stepped : step client state label = some (state.fail pull error)) :
    state.phase = .bundling pull ∧ label.isPlain = true := by
  have notRestart : label ≠ .restart := by
    rintro rfl
    have replies := congrArg (Option.map State.replies) stepped
    simp [step, State.fail, State.answer] at replies
  have notRunOn (path : Text) : label ≠ .runOn path := by
    rintro rfl
    have replies := congrArg (Option.map State.replies) stepped
    simp only [step] at replies
    split at replies <;> simp [State.fail, State.answer] at replies
  rcases phases with phase | ⟨imageId, phase⟩ | ⟨imageId, phase⟩
  · rcases step_bundling phase stepped with restart | ⟨path, runs⟩ | ⟨answer, rfl⟩
    · exact absurd restart notRestart
    · exact absurd runs (notRunOn path)
    · exact ⟨phase, rfl⟩
  · rcases step_saving phase stepped with restart | ⟨path, runs⟩ | ⟨outcome, rfl⟩
    · exact absurd restart notRestart
    · exact absurd runs (notRunOn path)
    · cases outcome with
      | error error => exact absurd rfl (allowed.1 pull imageId error phase)
      | ok _ =>
        have ends := congrArg (Option.map State.phase) stepped
        simp [step, phase, State.fail, State.answer] at ends
  · obtain rfl := (allowed.2 pull imageId phase).resolve_right fun ⟨path, runs⟩ => notRunOn path runs
    have failed := congrArg (Option.map fun last => last.replies.map fun reply => reply.result.toOption) stepped
    simp [step, phase, State.fail, State.answer, Except.toOption] at failed

/-- One step, whatever it is. -/
theorem Settled.step (settled : Settled state history) (allowed : FileSettles state label)
    (stepped : Image.step client state label = some next) :
    Settled next (history.record state label next) := by
  cases step_moves stepped with
  | @answered request answer reply idle _ =>
    rw [record_call, reply_answer (by rfl)]
    constructor
    · intro _
      exact settled.file (by simp [idle])
    · intro pull tasks phase
      cases phase
    · intro pull phase
      cases phase
    · apply FailuresUndone.cons
      · exact settled.failures
      · exact fun _ _ => rfl
    · exact settled.loads
  | began idle _ =>
    rw [record_call, reply_none (by rfl)]
    constructor
    · intro _
      exact settled.file (by simp [idle])
    · exact fun _ _ _ => rfl
    · exact fun _ _ => rfl
    · exact settled.failures
    · exact settled.loads
  | started phase => exact settled.task rfl phase
  | @found i label pull tasks layer diffId layerMeta phase looks _ _ =>
    have plain : label.isPlain = true := by
      cases label <;> first | rfl | cases looks
    exact settled.task plain phase
  | opened phase => exact settled.task rfl phase
  | allocated phase => exact settled.task rfl phase
  | created _ _ => exact settled.steady rfl rfl rfl rfl rfl
  | altered _ _ _ => exact settled.steady rfl rfl rfl rfl rfl
  | finished phase _ _ _ => exact settled.task rfl phase
  | unopened phase =>
    apply settled.attemptFailed rfl phase
    · rfl
    · rfl
    · rfl
  | unfinished phase _ =>
    apply settled.attemptFailed rfl phase
    · rfl
    · rfl
    · rfl
  | @collected pull tasks layerMetas phase _ =>
    have unchanged := settled.pulling pull tasks phase
    have still : ∀ pull imageId, state.phase ≠ .writing pull imageId := by
      simp [phase]
    unfold State.collected
    dsimp only
    split
    · apply settled.answer rfl
      · rfl
      · rfl
      · exact still
      · exact fun _ _ => unchanged
    · apply settled.quiet rfl still
      · rfl
      · rfl
      · exact fun _ _ _ => unchanged
      · exact fun _ _ => unchanged
  | bundled phase _ _ =>
    apply settled.quiet rfl
    · simp [phase]
    · rfl
    · rfl
    · intro pull tasks ends
      cases ends
    · intro pull ends
      cases ends
  | nydusBundled phase _ _ =>
    apply settled.answer rfl
    · rfl
    · rfl
    · simp [phase]
    · intro error failed
      cases failed
  | failed phases =>
    obtain ⟨phase, plain⟩ := failed_bundling allowed phases stepped
    have unchanged := settled.bundling _ phase
    apply settled.answer plain
    · rfl
    · rfl
    · simp [phase]
    · exact fun _ _ => unchanged
  | @truncated pull imageId phase =>
    rw [record_plain rfl, reply_none (by rfl)]
    constructor
    · intro still
      exact absurd rfl (still pull imageId)
    · intro pull tasks ends
      cases ends
    · intro pull ends
      cases ends
    · exact settled.failures
    · exact settled.loads
  | @written pull imageId phase =>
    rw [record_write phase, reply_answer (by rfl)]
    constructor
    · intro _
      rfl
    · intro pull tasks ends
      cases ends
    · intro pull ends
      cases ends
    · apply FailuresUndone.cons
      · exact settled.failures
      · intro error failed
        cases failed
    · exact settled.loads
  | ranOn _ => exact settled.steady rfl rfl rfl rfl rfl
  | restarted =>
    rw [record_restart, reply_none (by rfl)]
    have last : history.Last state.loads := by
      apply settled.file
      intro pull imageId phase
      rcases allowed.2 pull imageId phase with impossible | ⟨path, impossible⟩
      · cases impossible
      · cases impossible
    constructor
    · intro _
      exact last
    · intro pull tasks ends
      cases ends
    · intro pull ends
      cases ends
    · exact settled.failures
    · intro entry listed
      rcases List.mem_cons.mp listed with rfl | earlier
      · exact last.committed
      · exact settled.loads entry earlier

/-- In every run in which the file of the meta store can be created and written and the
process does not die in between, a call that fails leaves the image database as it was,
every client that is started loads a store that a call has committed, and so would one that
is started now, unless the file is being written. -/
theorem meta_store_persists {both : State × MetaHistory}
    (reached : (historySystem client).Reachable (fun both label => FileSettles both.1 label) both) :
    FailuresUndone both.2 ∧ LoadsCommitted both.2 ∧
      ((∀ pull imageId, both.1.phase ≠ .writing pull imageId) →
        both.1.loads ∈ both.2.committed ∨ both.2.committed = [] ∧ both.1.loads = both.2.first) := by
  have settled : Settled both.1 both.2 := by
    apply @System.Reachable.invariant _ _ (historySystem client) _ both fun both => Settled both.1 both.2
    · rintro ⟨state, history⟩ ⟨idle, begins⟩
      dsimp only at begins
      subst begins
      constructor
      · exact fun _ => rfl
      · intro pull tasks phase
        cases idle.symm.trans phase
      · intro pull phase
        cases idle.symm.trans phase
      · intro entry listed
        cases listed
      · intro entry listed
        cases listed
    · rintro first label last settled allowed stepped
      obtain ⟨ran, recorded⟩ := System.withHistory_step stepped
      rw [recorded]
      exact settled.step allowed ran
    · exact reached
  constructor
  · exact settled.failures
  · constructor
    · exact settled.loads
    · exact fun still => (settled.file still).committed

section Examples

/-- The condition on a step, as a test. -/
def fileSettles (both : State × MetaHistory) (label : Label) : Bool :=
  match both.1.phase, label with
  | .saving _ _, .createFile (.error _) => false
  | .writing _ _, .writeFile (.ok ()) => true
  | .writing _ _, _ => false
  | _, _ => true

theorem fileSettles_sound {both : State × MetaHistory} (passed : fileSettles both label = true) :
    FileSettles both.1 label := by
  constructor
  · rintro pull imageId error phase rfl
    simp [fileSettles, phase] at passed
  · intro pull imageId phase
    unfold fileSettles at passed
    rw [phase] at passed
    split at passed <;> simp_all

/-- A call for another image that has the layer of the example's first. -/
def secondPull : List Label :=
  [.call (exampleRequest (tagged "quay.io" "evilple/x" "1"))
      (exampleAnswer (exampleManifest emptyDigest zeroDigest)),
    .startLayer 0, .openLayer 0 (.ok ()), .collect, .bundle orderlyBundle]

def exampleStart : State × MetaHistory := (freshState, MetaHistory.initial freshState)

theorem exampleStart_starts (client : ImageClient) : (historySystem client).start exampleStart :=
  ⟨rfl, rfl⟩

/-- `meta_store_persists` for a call that succeeds and a client that is started after it. -/
theorem first_pull_persists :
    let client := exampleImageClient none
    ∃ both, (historySystem client).Reachable (fun both label => FileSettles both.1 label) both ∧
      both.2.loaded.length = 1 ∧ LoadsCommitted both.2 := by
  intro client
  have done : ((historySystem client).execIf fileSettles exampleStart
      (examplePull (tagged "docker.io" "example/x" "1") (exampleManifest zeroDigest emptyDigest) ++
        [.restart])).map (fun both => both.2.loaded.length) = some 1 := by
    decide +kernel
  obtain ⟨both, ran, loaded⟩ := Option.map_eq_some_iff.mp done
  have reached : (historySystem client).Reachable (fun both label => FileSettles both.1 label) both :=
    (System.Reachable.start (exampleStart_starts client)).execIf (fun _ _ _ passed => fileSettles_sound passed) ran
  exact ⟨both, reached, loaded, (meta_store_persists reached).2.1⟩

/-- A call whose file cannot be created fails and leaves its image in memory; and a client
that is started where a second call has truncated the file has forgotten the first one's
image. -/
theorem committed_image_forgotten :
    let client := exampleImageClient none
    (∃ both, (historySystem client).Reachable System.Free both ∧ ¬ FailuresUndone both.2) ∧
      ∃ both, (historySystem client).Reachable System.Free both ∧ ¬ LoadsCommitted both.2 := by
  intro client
  constructor
  · have done : ((historySystem client).exec exampleStart
        ((examplePull (tagged "docker.io" "example/x" "1") (exampleManifest zeroDigest emptyDigest)).take 8 ++
          [.createFile (.error "No space left on device")])).map (fun both =>
            both.2.returned.map fun entry =>
              (entry.1.result.toOption.isSome, entry.2.1.entries.length, entry.2.2.entries.length)) =
        some [(false, 0, 1)] := by
      decide +kernel
    obtain ⟨both, ran, results⟩ := Option.map_eq_some_iff.mp done
    refine ⟨both, System.reachable_of_exec (exampleStart_starts client) (fun _ _ _ => trivial) ran, ?_⟩
    intro undone
    obtain ⟨entry, listed, same⟩ : ∃ entry ∈ both.2.returned,
        (entry.1.result.toOption.isSome, entry.2.1.entries.length, entry.2.2.entries.length) = (false, 0, 1) :=
      List.mem_map.mp (by simp [results])
    simp only [Prod.mk.injEq] at same
    obtain ⟨failed, before, after⟩ := same
    cases result : entry.1.result with
    | ok _ => simp [result, Except.toOption] at failed
    | error error =>
      have unchanged := congrArg (fun db => db.entries.length) (undone entry listed error result)
      simp only [before, after] at unchanged
      cases unchanged
  · have done : ((historySystem client).exec exampleStart
        (examplePull (tagged "docker.io" "example/x" "1") (exampleManifest zeroDigest emptyDigest) ++
          secondPull ++ [.createFile (.ok ()), .restart])).map (fun both =>
            both.2.loaded.map fun entry =>
              (entry.1.imageDb.entries.length, entry.2.map fun store => store.imageDb.entries.length)) =
        some [(0, [1])] := by
      decide +kernel
    obtain ⟨both, ran, results⟩ := Option.map_eq_some_iff.mp done
    refine ⟨both, System.reachable_of_exec (exampleStart_starts client) (fun _ _ _ => trivial) ran, ?_⟩
    intro committed
    obtain ⟨entry, listed, same⟩ : ∃ entry ∈ both.2.loaded,
        (entry.1.imageDb.entries.length, entry.2.map fun store => store.imageDb.entries.length) = (0, [1]) :=
      List.mem_map.mp (by simp [results])
    simp only [Prod.mk.injEq] at same
    obtain ⟨empty, stores⟩ := same
    rcases committed entry listed with among | ⟨none_, _⟩
    · have length := List.mem_map_of_mem (f := fun store => store.imageDb.entries.length) among
      rw [stores, List.mem_singleton, empty] at length
      cases length
    · simp [none_] at stores

end Examples

end GuestComponents.Image
