import GuestComponents.Image.LayerIntegrity

/-! Whether a layer gets a directory of its own. The counter is found from the names in
the data directory when a client is made; from then on it only goes up, past the layers
that are being unpacked, those that were given up and those that are kept. It fails where
it comes to its end, which one directory with the greatest number makes it do at once, and
where something that is no directory has its number for a name. -/
namespace GuestComponents.Image
open Lib Lib.Text

variable {client : ImageClient} {state next : State} {label : Label} {disk : Disk} {path : Text}

section Specification

/-- The step gives a layer this path: `new_layer_store_path` in `async_handle_layer`. -/
inductive Allocates (client : ImageClient) (state : State) : Label → Text → Prop where
  | mk {i attempt : Nat} {pull : Pull} {tasks : List Task} {layer : OciDescriptor} {diffId : Text}
      (phase : state.phase = .pulling pull tasks) (listed : pull.layers[i]? = some (layer, diffId))
      (opened : tasks[i]? = some (.opened attempt))
      (unknown : state.metaStore.layerDb.lookup layer.digest = none) :
      Allocates client state (.handleLayer i)
        (LayerStore.mk client.dataDir state.layersIndex).newLayerStorePath.1

/-- The layer at this place in the call is being unpacked at the path. -/
def Phase.UnpacksAt : Phase → Nat → Text → Prop
  | .pulling _ tasks, i, path => ∃ attempt, tasks[i]? = some (.unpacking attempt path)
  | _, _, _ => False

/-- The call has a layer at the path. -/
def Phase.Holds : Phase → Text → Prop
  | .idle, _ => False
  | .pulling _ tasks, path =>
    ∃ (i : Nat) (layerMeta : LayerMeta), tasks[i]? = some (.done layerMeta) ∧ layerMeta.storePath = path
  | .bundling pull, path => ∃ layerMeta ∈ pull.image.layerMetas, layerMeta.storePath = path
  | .saving pull _, path => ∃ layerMeta ∈ pull.image.layerMetas, layerMeta.storePath = path
  | .writing pull _, path => ∃ layerMeta ∈ pull.image.layerMetas, layerMeta.storePath = path

/-- The store has a layer at the path, for itself or in an image. -/
def MetaStore.Holds (store : MetaStore) (path : Text) : Prop :=
  (∃ digest layerMeta, store.layerDb.lookup digest = some layerMeta ∧ layerMeta.storePath = path) ∨
  ∃ id image, store.imageDb.lookup id = some image ∧
    ∃ layerMeta ∈ image.layerMetas, layerMeta.storePath = path

/-- A layer at this path has been pulled: in this call, or for the database in memory or
in the file. -/
def Kept (state : State) (path : Text) : Prop :=
  state.phase.Holds path ∨ state.metaStore.Holds path ∨
    ∃ store, state.metaFile = some store ∧ store.Holds path

/-- The path belongs to a layer. -/
def Live (state : State) (path : Text) : Prop := (∃ i, state.phase.UnpacksAt i path) ∨ Kept state path

/-- The condition on each step: where a directory is given out, no file has its name and
its number is not the last one, and a new client finds no directory with the last number. -/
def NumbersLeft (client : ImageClient) (state : State) (label : Label) : Prop :=
  (∀ path, Allocates client state label path →
    state.disk.lookup path ≠ some .file ∧ state.layersIndex + 1 < usizeBound) ∧
  (label = .restart → IndexLeft state.disk client.dataDir)

def DirectoryAt (disk : Disk) (path : Text) : Prop :=
  ∃ content, disk.lookup path = some content ∧ content.isDir = true

/-- A client that has just been made, over any contents of the data directory, with a meta
store whose layers are there. -/
structure StartsOver (client : ImageClient) (state : State) : Prop where
  idle : state.phase = .idle
  index : state.layersIndex = getLayerIndex state.disk client.dataDir
  stands : ∀ path, Kept state path → DirectoryAt state.disk path
  still : state.running = []

end Specification

/-- Every layer of the client has a directory of its own, below the counter. -/
structure Housed (client : ImageClient) (state : State) : Prop where
  bounded : state.layersIndex < usizeBound
  below : ∀ n < usizeBound, DirectoryAt state.disk (layerPath client.dataDir n) → n < state.layersIndex
  allocated : ∀ i path, state.phase.UnpacksAt i path →
    ∃ n < state.layersIndex, path = layerPath client.dataDir n
  apart : ∀ i j path, state.phase.UnpacksAt i path → state.phase.UnpacksAt j path → i = j
  stands : ∀ path, Kept state path → DirectoryAt state.disk path ∧ ∀ i, ¬ state.phase.UnpacksAt i path

/-- What runs on makes directories below the counter only. -/
def Trailing (client : ImageClient) (state : State) : Prop :=
  ∀ path ∈ state.running, ∃ n < state.layersIndex, path = layerPath client.dataDir n

section Directories

theorem directoryAt_insert {destination : Text} {content : Content} (directory : content.isDir = true) :
    DirectoryAt (disk.insert destination content) path ↔ path = destination ∨ DirectoryAt disk path := by
  unfold DirectoryAt
  by_cases same : path = destination
  · subst same
    simp [AList.lookup_insert, directory]
  · simp [AList.lookup_insert_ne same, same]

theorem directoryAt_erase {destination : Text} :
    DirectoryAt (disk.erase destination) path ↔ path ≠ destination ∧ DirectoryAt disk path := by
  unfold DirectoryAt
  by_cases same : path = destination
  · subst same
    simp
  · simp [AList.lookup_erase_ne same, same]

/-- The loop over the names stays within the numbers there are. -/
theorem getLayerIndex_lt (disk : Disk) (dataDir : Text) : getLayerIndex disk dataDir < usizeBound := by
  have kept : ∀ (entries : List (Text × Content)) (start : Nat), start < usizeBound →
      entries.foldl nextIndex start < usizeBound := by
    intro entries
    induction entries with
    | nil => exact fun start below => below
    | cons entry rest ih =>
      intro start below
      apply ih
      unfold nextIndex
      split
      · split
        · split
          · exact Nat.mod_lt _ (by decide)
          · exact below
        · exact below
      · exact below
  exact kept _ 0 (by decide)

theorem below_getLayerIndex (left : IndexLeft disk client.dataDir) :
    ∀ n < usizeBound, DirectoryAt disk (layerPath client.dataDir n) → n < getLayerIndex disk client.dataDir := by
  rintro n fits ⟨content, stands, directory⟩
  exact getLayerIndex_fresh left fits directory stands

end Directories

section Stores

theorem MetaStore.holds_empty : ¬ MetaStore.empty.Holds path := by
  rintro (⟨digest, layerMeta, found, _⟩ | ⟨id, image, found, _⟩)
  · cases found
  · cases found

theorem MetaStore.holds_extendLayers {store : MetaStore} {layerMetas : List LayerMeta}
    (held : (store.extendLayers layerMetas).Holds path) :
    store.Holds path ∨ ∃ layerMeta ∈ layerMetas, layerMeta.storePath = path := by
  rcases held with ⟨digest, layerMeta, found, same⟩ | images
  · rcases lookup_extendLayers found with ⟨member, _⟩ | earlier
    · exact .inr ⟨layerMeta, member, same⟩
    · exact .inl (.inl ⟨digest, layerMeta, earlier, same⟩)
  · exact .inl (.inr images)

theorem MetaStore.holds_insertImage {store : MetaStore} {image : ImageMeta}
    (held : (store.insertImage image).Holds path) :
    store.Holds path ∨ ∃ layerMeta ∈ image.layerMetas, layerMeta.storePath = path := by
  rcases held with layers | ⟨id, other, found, member⟩
  · exact .inl (.inl layers)
  · by_cases same : id = image.id
    · subst same
      rw [MetaStore.insertImage, AList.lookup_insert] at found
      cases found
      exact .inr member
    · rw [MetaStore.insertImage, AList.lookup_insert_ne same] at found
      exact .inl (.inr ⟨id, other, found, member⟩)

end Stores

namespace Housed

/-- Nothing is unpacked that was not, and nothing is kept that was not. -/
theorem weaken (housed : Housed client state) (index : next.layersIndex = state.layersIndex)
    (disk : next.disk = state.disk) (unpacks : ∀ i path, next.phase.UnpacksAt i path → state.phase.UnpacksAt i path)
    (kept : ∀ path, Kept next path → Kept state path) : Housed client next := by
  constructor
  · rw [index]
    exact housed.bounded
  · rw [index, disk]
    exact housed.below
  · intro i path unpacking
    rw [index]
    exact housed.allocated i path (unpacks i path unpacking)
  · intro i j path one other
    exact housed.apart i j path (unpacks i path one) (unpacks j path other)
  · intro path held
    obtain ⟨stands, free⟩ := housed.stands path (kept path held)
    rw [disk]
    exact ⟨stands, fun i unpacking => free i (unpacks i path unpacking)⟩

/-- The next phase unpacks nothing, and what it and the stores keep was kept. -/
theorem quiet (housed : Housed client state) (index : next.layersIndex = state.layersIndex)
    (disk : next.disk = state.disk) (still : ∀ i path, ¬ next.phase.UnpacksAt i path)
    (kept : ∀ path, Kept next path → Kept state path) : Housed client next :=
  housed.weaken index disk (fun i path unpacking => absurd unpacking (still i path)) kept

/-- What runs on and what was changed elsewhere says nothing of the directories. -/
theorem aside (housed : Housed client state) (running : List Text) (altered : List (Text × Unpack.FileOp)) :
    Housed client { state with running, altered } :=
  ⟨housed.bounded, housed.below, housed.allocated, housed.apart, housed.stands⟩

/-- A call returns. -/
theorem answer (housed : Housed client state) (reply : Reply) : Housed client (state.answer reply) := by
  apply housed.quiet
  · rfl
  · rfl
  · intro i path unpacking
    cases unpacking
  · rintro path (inCall | stored)
    · cases inCall
    · exact .inr stored

/-- A layer goes on without a new directory, or ends with one that is kept. -/
theorem setTask (housed : Housed client state) {pull : Pull} {tasks : List Task}
    (phase : state.phase = .pulling pull tasks) {i : Nat} {task : Task}
    (still : ∀ attempt path, task ≠ .unpacking attempt path)
    (kept : ∀ layerMeta, task = .done layerMeta → Kept state layerMeta.storePath) :
    Housed client (state.setTask pull tasks i task) := by
  apply housed.weaken
  · rfl
  · rfl
  · rintro j path ⟨attempt, there⟩
    rw [phase]
    rcases getElem?_set_some there with ⟨_, same⟩ | ⟨_, there⟩
    · exact absurd same.symm (still attempt path)
    · exact ⟨attempt, there⟩
  · rintro path (⟨j, layerMeta, there, rfl⟩ | stored)
    · rcases getElem?_set_some there with ⟨_, same⟩ | ⟨_, there⟩
      · exact kept layerMeta same.symm
      · left
        rw [phase]
        exact ⟨j, layerMeta, there, rfl⟩
    · exact .inr stored

theorem attemptFailed (housed : Housed client state) {pull : Pull} {tasks : List Task}
    (phase : state.phase = .pulling pull tasks) (i attempt : Nat) (error : String) :
    Housed client (state.attemptFailed pull tasks i attempt error) := by
  unfold State.attemptFailed
  split
  · apply housed.setTask phase
    · intro attempt path same
      cases same
    · intro layerMeta same
      cases same
  · exact (housed.aside _ state.altered).answer _

/-- No directory has the number that is next. -/
theorem vacant (housed : Housed client state) :
    ¬ DirectoryAt state.disk (layerPath client.dataDir state.layersIndex) := by
  intro stands
  have below := housed.below _ housed.bounded stands
  omega

/-- No layer is being unpacked in the directory that is next. -/
theorem unused (housed : Housed client state) (i : Nat) :
    ¬ state.phase.UnpacksAt i (layerPath client.dataDir state.layersIndex) := by
  intro unpacking
  obtain ⟨n, below, same⟩ := housed.allocated i _ unpacking
  have same := layerPath_injective same
  omega

/-- A layer gets the next directory. -/
theorem allocate (housed : Housed client state) {pull : Pull} {tasks : List Task}
    (phase : state.phase = .pulling pull tasks) {i attempt : Nat} (left : state.layersIndex + 1 < usizeBound) :
    Housed client
      { state with layersIndex := (state.layersIndex + 1) % usizeBound
                   phase := .pulling pull
                     (tasks.set i (.unpacking attempt (layerPath client.dataDir state.layersIndex))) } := by
  rw [Nat.mod_eq_of_lt left]
  have unpacks : ∀ (j : Nat) (path : Text),
      Phase.UnpacksAt (.pulling pull
        (tasks.set i (.unpacking attempt (layerPath client.dataDir state.layersIndex)))) j path →
      j = i ∧ path = layerPath client.dataDir state.layersIndex ∨ state.phase.UnpacksAt j path := by
    rintro j path ⟨attempt, there⟩
    rcases getElem?_set_some there with ⟨here, same⟩ | ⟨_, there⟩
    · cases same
      exact .inl ⟨here, rfl⟩
    · right
      rw [phase]
      exact ⟨attempt, there⟩
  constructor
  · exact left
  · intro n fits stands
    have below := housed.below n fits stands
    show n < state.layersIndex + 1
    omega
  · intro j path unpacking
    rcases unpacks j path unpacking with ⟨_, rfl⟩ | unpacking
    · exact ⟨state.layersIndex, Nat.lt_succ_self _, rfl⟩
    · obtain ⟨n, below, same⟩ := housed.allocated j path unpacking
      exact ⟨n, Nat.lt_succ_of_lt below, same⟩
  · intro j k path one other
    rcases unpacks j path one with ⟨rfl, rfl⟩ | one
    · rcases unpacks k _ other with ⟨rfl, _⟩ | other
      · rfl
      · exact absurd other (housed.unused k)
    · rcases unpacks k path other with ⟨_, rfl⟩ | other
      · exact absurd one (housed.unused j)
      · exact housed.apart j k path one other
  · intro path kept
    have before : Kept state path := by
      rcases kept with ⟨j, layerMeta, there, rfl⟩ | stored
      · rcases getElem?_set_some there with ⟨_, same⟩ | ⟨_, there⟩
        · cases same
        · left
          rw [phase]
          exact ⟨j, layerMeta, there, rfl⟩
      · exact .inr stored
    obtain ⟨stands, free⟩ := housed.stands path before
    constructor
    · exact stands
    · intro j unpacking
      rcases unpacks j path unpacking with ⟨_, rfl⟩ | unpacking
      · exact housed.vacant stands
      · exact free j unpacking

/-- Something is written in, or taken from, a directory where a layer is being unpacked. -/
theorem changed (housed : Housed client state) {i : Nat} {destination : Text} {disk' : Disk}
    (unpacking : state.phase.UnpacksAt i destination)
    (others : ∀ path, path ≠ destination → (DirectoryAt disk' path ↔ DirectoryAt state.disk path)) :
    Housed client { state with disk := disk' } := by
  constructor
  · exact housed.bounded
  · intro n fits stands
    by_cases same : layerPath client.dataDir n = destination
    · obtain ⟨m, below, named⟩ := housed.allocated i destination unpacking
      have equal := layerPath_injective (same.trans named)
      subst equal
      exact below
    · exact housed.below n fits ((others _ same).mp stands)
  · exact housed.allocated
  · exact housed.apart
  · intro path kept
    obtain ⟨stands, free⟩ := housed.stands path kept
    have apart : path ≠ destination := by
      rintro rfl
      exact free i unpacking
    exact ⟨(others path apart).mpr stands, free⟩

/-- What is left of a failed attempt may be removed. -/
theorem unfinished (housed : Housed client state) {i : Nat} {destination : Text}
    (unpacking : state.phase.UnpacksAt i destination) (cleaned : Bool) (error : String) :
    Housed client (state.unfinished destination cleaned error) := by
  have ended : Housed client
      { state with disk := if cleaned then state.disk.erase destination else state.disk } := by
    apply housed.changed unpacking
    intro path apart
    split
    · rw [directoryAt_erase]
      simp [apart]
    · rfl
  exact ended.aside _ state.altered

/-- A file operation that runs on makes its directory. -/
theorem runOn (housed : Housed client state) (trails : Trailing client state) (listed : path ∈ state.running) :
    Housed client
      { state with
        disk := if (state.disk.lookup path).isSome then state.disk else state.disk.insert path .partially } := by
  split
  · exact housed
  · constructor
    · exact housed.bounded
    · intro n fits stands
      rcases (directoryAt_insert rfl).mp stands with same | before
      · obtain ⟨m, below, named⟩ := trails path listed
        have equal := layerPath_injective (same.trans named)
        subst equal
        exact below
      · exact housed.below n fits before
    · exact housed.allocated
    · exact housed.apart
    · intro other kept
      obtain ⟨stands, free⟩ := housed.stands other kept
      exact ⟨(directoryAt_insert rfl).mpr (.inr stands), free⟩

/-- A layer is unpacked, and kept where it is. -/
theorem finish (housed : Housed client state) {pull : Pull} {tasks : List Task}
    (phase : state.phase = .pulling pull tasks) {i attempt : Nat} {destination : Text}
    (unpacking : tasks[i]? = some (.unpacking attempt destination)) {layerMeta : LayerMeta}
    (named : layerMeta.storePath = destination) (stream : List UInt8) :
    Housed client
      { state with disk := state.disk.insert destination (.unpacked stream)
                   phase := .pulling pull (tasks.set i (.done layerMeta)) } := by
  have here : state.phase.UnpacksAt i destination := by
    rw [phase]
    exact ⟨attempt, unpacking⟩
  have written : Housed client { state with disk := state.disk.insert destination (.unpacked stream) } := by
    apply housed.changed here
    intro path apart
    rw [directoryAt_insert rfl]
    simp [apart]
  have unpacks : ∀ (j : Nat) (path : Text),
      Phase.UnpacksAt (.pulling pull (tasks.set i (.done layerMeta))) j path →
      j ≠ i ∧ state.phase.UnpacksAt j path := by
    rintro j path ⟨attempt, there⟩
    rcases getElem?_set_some there with ⟨_, same⟩ | ⟨apart, there⟩
    · cases same
    · rw [phase]
      exact ⟨apart, attempt, there⟩
  constructor
  · exact written.bounded
  · exact written.below
  · intro j path there
    exact written.allocated j path (unpacks j path there).2
  · intro j k path one other
    exact written.apart j k path (unpacks j path one).2 (unpacks k path other).2
  · intro path kept
    have before : path = destination ∨ Kept state path := by
      rcases kept with ⟨j, other, there, rfl⟩ | stored
      · rcases getElem?_set_some there with ⟨_, same⟩ | ⟨_, there⟩
        · cases same
          exact .inl named
        · right
          left
          rw [phase]
          exact ⟨j, other, there, rfl⟩
      · exact .inr (.inr stored)
    rcases before with rfl | before
    · constructor
      · exact (directoryAt_insert rfl).mpr (.inl rfl)
      · intro j there
        obtain ⟨apart, there⟩ := unpacks j path there
        exact apart (housed.apart j i path there here)
    · obtain ⟨stands, free⟩ := written.stands path before
      exact ⟨stands, fun j there => free j (unpacks j path there).2⟩

/-- What is collected from the tasks was done. -/
theorem holds_results {tasks : List Task} {layerMetas : List LayerMeta} {pull : Pull}
    (collected : tasks.mapM Task.result? = some layerMetas) {layerMeta : LayerMeta}
    (listed : layerMeta ∈ layerMetas) : Phase.Holds (.pulling pull tasks) layerMeta.storePath := by
  have results := mapM_some collected
  obtain ⟨i, there⟩ := List.mem_iff_getElem?.mp listed
  have same := congrArg (·[i]?) results
  simp only [List.getElem?_map, there, Option.map_some] at same
  obtain ⟨task, standing, result⟩ := Option.map_eq_some_iff.mp same
  cases task with
  | done _ =>
    cases result
    exact ⟨i, layerMeta, standing, rfl⟩
  | _ => cases result

theorem collect (housed : Housed client state) {pull : Pull} {tasks : List Task}
    (phase : state.phase = .pulling pull tasks) {layerMetas : List LayerMeta}
    (collected : tasks.mapM Task.result? = some layerMetas) :
    Housed client (state.collected pull layerMetas) := by
  have inCall : ∀ layerMeta ∈ layerMetas, state.phase.Holds layerMeta.storePath := by
    intro layerMeta listed
    rw [phase]
    exact holds_results collected listed
  have extended : Housed client { state with metaStore := state.metaStore.extendLayers layerMetas } := by
    apply housed.weaken
    · rfl
    · rfl
    · exact fun i path unpacking => unpacking
    · rintro path (held | stored | saved)
      · exact .inl held
      · rcases MetaStore.holds_extendLayers stored with stored | ⟨layerMeta, listed, rfl⟩
        · exact .inr (.inl stored)
        · exact .inl (inCall layerMeta listed)
      · exact .inr (.inr saved)
  unfold State.collected
  dsimp only
  split
  · exact extended.answer _
  · apply extended.quiet
    · rfl
    · rfl
    · intro i path unpacking
      cases unpacking
    · rintro path (⟨layerMeta, listed, rfl⟩ | stored)
      · exact .inl (inCall layerMeta listed)
      · exact .inr stored

/-- The image of a call is recorded. -/
theorem insertImage (housed : Housed client state) {pull : Pull}
    (holds : ∀ layerMeta ∈ pull.image.layerMetas, state.phase.Holds layerMeta.storePath) :
    Housed client { state with metaStore := state.metaStore.insertImage pull.image } := by
  apply housed.weaken
  · rfl
  · rfl
  · exact fun i path unpacking => unpacking
  · rintro path (held | stored | saved)
    · exact .inl held
    · rcases MetaStore.holds_insertImage stored with stored | ⟨layerMeta, listed, rfl⟩
      · exact .inr (.inl stored)
      · exact .inl (holds layerMeta listed)
    · exact .inr (.inr saved)

/-- The file of the meta store is written. -/
theorem save (housed : Housed client state) :
    Housed client { state with metaFile := some state.metaStore } := by
  apply housed.weaken
  · rfl
  · rfl
  · exact fun i path unpacking => unpacking
  · rintro path (held | stored | ⟨store, same, stored⟩)
    · exact .inl held
    · exact .inr (.inl stored)
    · cases same
      exact .inr (.inl stored)

/-- A new client starts over the directories that are there. -/
theorem restart (housed : Housed client state) (left : IndexLeft state.disk client.dataDir) :
    Housed client
      { state with metaStore := state.metaFile.getD .empty
                   layersIndex := getLayerIndex state.disk client.dataDir
                   phase := .idle
                   running := [] } := by
  have kept : ∀ path, Kept { state with metaStore := state.metaFile.getD .empty
                                        layersIndex := getLayerIndex state.disk client.dataDir
                                        phase := .idle
                                        running := [] } path → Kept state path := by
    rintro path (held | stored | saved)
    · cases held
    · right
      right
      cases file : state.metaFile with
      | none =>
        rw [file] at stored
        exact absurd stored MetaStore.holds_empty
      | some store =>
        rw [file] at stored
        exact ⟨store, rfl, stored⟩
    · exact .inr (.inr saved)
  constructor
  · exact getLayerIndex_lt _ _
  · exact below_getLayerIndex left
  · intro i path unpacking
    cases unpacking
  · intro i j path unpacking
    cases unpacking
  · intro path held
    constructor
    · exact (housed.stands path (kept path held)).1
    · intro i unpacking
      cases unpacking

theorem start (starts : StartsOver client state) (left : IndexLeft state.disk client.dataDir) :
    Housed client state := by
  have still : ∀ i path, ¬ state.phase.UnpacksAt i path := by
    intro i path unpacking
    rw [starts.idle] at unpacking
    cases unpacking
  constructor
  · rw [starts.index]
    exact getLayerIndex_lt _ _
  · rw [starts.index]
    exact below_getLayerIndex left
  · intro i path unpacking
    exact absurd unpacking (still i path)
  · intro i j path unpacking
    exact absurd unpacking (still i path)
  · intro path held
    exact ⟨starts.stands path held, fun i => still i path⟩

end Housed

/-- A layer that is handled is found in the database, or it gets a directory. -/
theorem step_allocates {i : Nat} (stepped : step client state (.handleLayer i) = some next) :
    (∃ path, Allocates client state (.handleLayer i) path) ∨ next.layersIndex = state.layersIndex := by
  unfold step at stepped
  split at stepped <;> try cases ‹Label.handleLayer i = _›
  · rename_i pull tasks phase
    split at stepped
    · rename_i layer diffId attempt listed opened
      split at stepped
      · cases stepped
        exact .inr rfl
      · rename_i unknown
        exact .inl ⟨_, .mk phase listed opened unknown⟩
    · cases stepped
  · cases stepped

/-- Where the counter goes up there is a number left. -/
theorem Housed.counts (housed : Housed client state) {i : Nat} (allowed : NumbersLeft client state (.handleLayer i))
    (stepped : step client state (.handleLayer i) = some next)
    (counted : next.layersIndex = (state.layersIndex + 1) % usizeBound) : state.layersIndex + 1 < usizeBound := by
  rcases step_allocates stepped with ⟨path, allocates⟩ | same
  · exact (allowed.1 path allocates).2
  · have bounded := housed.bounded
    rw [same] at counted
    simp only [usizeBound] at counted bounded ⊢
    omega

/-- One step, whatever it is. -/
theorem Housed.step (housed : Housed client state) (trails : Trailing client state)
    (allowed : NumbersLeft client state label) (stepped : Image.step client state label = some next) :
      Housed client next := by
  cases step_moves stepped with
  | answered _ _ => exact housed.answer _
  | @began request answer pull idle _ =>
    apply housed.quiet
    · rfl
    · rfl
    · rintro i path ⟨attempt, there⟩
      cases eq_queued there
    · rintro path (⟨i, layerMeta, there, _⟩ | stored)
      · cases eq_queued there
      · exact .inr stored
  | started phase =>
    apply housed.setTask phase
    · intro attempt path same
      cases same
    · intro layerMeta same
      cases same
  | found phase _ _ found =>
    apply housed.setTask phase
    · intro attempt path same
      cases same
    · intro layerMeta same
      cases same
      exact .inr (.inl (.inl ⟨_, _, found, rfl⟩))
  | opened phase =>
    apply housed.setTask phase
    · intro attempt path same
      cases same
    · intro layerMeta same
      cases same
  | @allocated i attempt pull tasks phase =>
    exact housed.allocate phase (housed.counts allowed stepped rfl)
  | @created i attempt pull tasks destination phase unpacking =>
    have here : state.phase.UnpacksAt i destination := by
      rw [phase]
      exact ⟨attempt, unpacking⟩
    have made : Housed client { state with disk := state.disk.insert destination .partially } := by
      apply housed.changed here
      intro path apart
      rw [directoryAt_insert rfl]
      simp [apart]
    exact made.aside state.running _
  | altered _ _ _ => exact housed.aside state.running _
  | finished phase _ unpacking accepted =>
    exact housed.finish phase unpacking (asyncHandleLayer_ok accepted).2.2.2 _
  | unopened phase => exact housed.attemptFailed phase _ _ _
  | @unfinished i attempt pull tasks destination delivery cleaned error phase unpacking =>
    have here : state.phase.UnpacksAt i destination := by
      rw [phase]
      exact ⟨attempt, unpacking⟩
    exact (housed.unfinished here cleaned error).attemptFailed phase _ _ _
  | collected phase collected => exact housed.collect phase collected
  | @bundled answer pull imageId phase _ _ =>
    have holds : ∀ layerMeta ∈ pull.image.layerMetas, state.phase.Holds layerMeta.storePath := by
      intro layerMeta listed
      rw [phase]
      exact ⟨layerMeta, listed, rfl⟩
    apply (housed.insertImage holds).quiet
    · rfl
    · rfl
    · intro i path unpacking
      cases unpacking
    · rintro path (⟨layerMeta, listed, rfl⟩ | stored)
      · exact .inl (holds layerMeta listed)
      · exact .inr stored
  | @nydusBundled answer pull imageId phase _ _ =>
    have holds : ∀ layerMeta ∈ pull.image.layerMetas, state.phase.Holds layerMeta.storePath := by
      intro layerMeta listed
      rw [phase]
      exact ⟨layerMeta, listed, rfl⟩
    exact (housed.insertImage holds).answer _
  | failed _ => exact housed.answer _
  | @truncated pull imageId phase =>
    apply housed.quiet
    · rfl
    · rfl
    · intro i path unpacking
      cases unpacking
    · rintro path (held | stored | ⟨store, saved, _⟩)
      · left
        rw [phase]
        exact held
      · exact .inr (.inl stored)
      · cases saved
  | written phase => exact housed.save.answer _
  | ranOn listed => exact (housed.runOn trails listed).aside _ state.altered
  | restarted => exact housed.restart (allowed.2 rfl)

namespace Trailing

theorem attemptFailed (trails : Trailing client state) (housed : Housed client state) {pull : Pull} {tasks : List Task}
    (phase : state.phase = .pulling pull tasks) (i attempt : Nat) (error : String) :
    Trailing client (state.attemptFailed pull tasks i attempt error) := by
  unfold State.attemptFailed
  split
  · exact trails
  · intro path listed
    rcases List.mem_append.mp listed with dropped | before
    · obtain ⟨task, among, unpacks⟩ := List.mem_filterMap.mp dropped
      obtain ⟨j, there⟩ := List.getElem?_of_mem (List.mem_of_mem_eraseIdx among)
      cases task with
      | unpacking attempt destination =>
        cases unpacks
        refine housed.allocated j path ?_
        rw [phase]
        exact ⟨attempt, there⟩
      | _ => cases unpacks
    · exact trails path before

/-- What runs on after a step began in a directory that was given out. -/
theorem step (trails : Trailing client state) (housed : Housed client state)
    (allowed : NumbersLeft client state label) (stepped : Image.step client state label = some next) :
    Trailing client next := by
  have onward {n : Nat} (path : Text) (listed : path ∈ state.running) (left : state.layersIndex ≤ n) :
      ∃ m < n, path = layerPath client.dataDir m := by
    obtain ⟨m, below, named⟩ := trails path listed
    exact ⟨m, Nat.lt_of_lt_of_le below left, named⟩
  cases step_moves stepped with
  | @allocated i attempt pull tasks phase =>
    intro path listed
    refine onward path listed ?_
    rw [Nat.mod_eq_of_lt (housed.counts allowed stepped rfl)]
    exact Nat.le_succ _
  | unopened phase => exact trails.attemptFailed housed phase _ _ _
  | @unfinished i attempt pull tasks destination delivery cleaned error phase unpacking =>
    have here : state.phase.UnpacksAt i destination := by
      rw [phase]
      exact ⟨attempt, unpacking⟩
    have ended : Trailing client (state.unfinished destination cleaned error) := by
      intro path listed
      unfold State.unfinished at listed
      dsimp only at listed
      split at listed
      · rcases List.mem_cons.mp listed with rfl | before
        · exact housed.allocated i path here
        · exact trails path before
      · exact trails path listed
    exact ended.attemptFailed (housed.unfinished here cleaned error) phase _ _ _
  | ranOn _ => exact fun path listed => trails path (List.mem_of_mem_erase listed)
  | restarted =>
    intro path listed
    cases listed
  | collected =>
    unfold State.collected
    dsimp only
    split <;> exact trails
  | _ => exact trails

end Trailing

/-- In every run in which numbers are left for the layers, a layer is given a path where
nothing stands and which is no other layer's, and the layers that are being unpacked or
have been are each in a directory of its own. -/
theorem layers_have_own_directories
    (reached : (pullSystem client fun first =>
      StartsOver client first ∧ IndexLeft first.disk client.dataDir).Reachable (NumbersLeft client) state) :
    (∀ i j path, state.phase.UnpacksAt i path → state.phase.UnpacksAt j path → i = j) ∧
    (∀ path, Kept state path → DirectoryAt state.disk path ∧ ∀ i, ¬ state.phase.UnpacksAt i path) ∧
    ∀ label path, NumbersLeft client state label → Allocates client state label path →
      state.disk.lookup path = none ∧ ¬ Live state path := by
  have ⟨housed, _⟩ : Housed client state ∧ Trailing client state := by
    apply @System.Reachable.invariant _ _ _ _ _ (fun state => Housed client state ∧ Trailing client state) _ _ reached
    · rintro first ⟨starts, left⟩
      refine ⟨Housed.start starts left, ?_⟩
      rw [Trailing, starts.still]
      intro path listed
      cases listed
    · rintro first label last ⟨housed, trails⟩ allowed stepped
      exact ⟨housed.step trails allowed stepped, trails.step housed allowed stepped⟩
  constructor
  · exact housed.apart
  · constructor
    · exact housed.stands
    · rintro label _ allowed ⟨phase, listed, opened, unknown⟩
      have noFile := (allowed.1 _ (.mk phase listed opened unknown)).1
      have noDirectory := housed.vacant
      constructor
      · cases there : state.disk.lookup (layerPath client.dataDir state.layersIndex) with
        | none => exact there
        | some content =>
          cases content with
          | file => exact absurd there noFile
          | _ => exact absurd ⟨_, there, rfl⟩ noDirectory
      · rintro (⟨i, unpacking⟩ | kept)
        · exact housed.unused i unpacking
        · exact noDirectory (housed.stands _ kept).1

section Examples

/-- The layers directory of the example's client. -/
def layersDir : Text := "/run/image-rs/layers".toList

/-- A pull of the example's image up to where its layer gets a directory. -/
def pullToHandle : List Label :=
  [.call (exampleRequest (tagged "docker.io" "example/x" "1"))
      (exampleAnswer (exampleManifest zeroDigest emptyDigest)),
    .startLayer 0, .openLayer 0 (.ok ())]

theorem fresh_startsOver (client : ImageClient) : StartsOver client freshState := by
  constructor
  · rfl
  · rfl
  · rintro path (held | stored | ⟨store, saved, _⟩)
    · cases held
    · exact absurd stored MetaStore.holds_empty
    · cases saved
  · rfl

/-- A meta store with one layer, in the first directory. -/
def oneLayerStore : MetaStore :=
  { MetaStore.empty with
    layerDb := (∅ : AList fun _ : Text => LayerMeta).insert zeroDigest
      ⟨.gzip, false, zeroDigest, zeroDigest, layerPath layersDir 0⟩ }

/-- A new client over that layer and a directory with the greatest number for a name. -/
def lastNumberTaken : State :=
  let disk : Disk := ((∅ : Disk).insert (layerPath layersDir (usizeBound - 1)) .partially).insert
    (layerPath layersDir 0) (.unpacked [0])
  ⟨oneLayerStore, getLayerIndex disk layersDir, disk, some oneLayerStore, .idle, [], [], []⟩

/-- The layer at this place would get a directory now. -/
def givesDirectory (state : State) (i : Nat) : Bool :=
  match state.phase with
  | .pulling pull tasks =>
    match pull.layers[i]?, tasks[i]? with
    | some (layer, _), some (.opened _) => (state.metaStore.layerDb.lookup layer.digest).isNone
    | _, _ => false
  | _ => false

theorem allocates_of_givesDirectory {i : Nat} (gives : givesDirectory state i = true) :
    Allocates client state (.handleLayer i) (layerPath client.dataDir state.layersIndex) := by
  unfold givesDirectory at gives
  split at gives
  · rename_i pull tasks phase
    split at gives
    · rename_i layer diffId attempt listed opened
      exact .mk phase listed opened (Option.isNone_iff_eq_none.mp gives)
    · cases gives
  · cases gives

theorem lastNumberTaken_startsOver : StartsOver (exampleImageClient none) lastNumberTaken := by
  have layer : ∀ path, oneLayerStore.Holds path → path = layerPath layersDir 0 := by
    rintro path (⟨digest, layerMeta, found, rfl⟩ | ⟨id, image, found, _⟩)
    · by_cases same : digest = zeroDigest
      · subst same
        simp only [oneLayerStore, AList.lookup_insert, Option.some.injEq] at found
        subst found
        rfl
      · unfold oneLayerStore at found
        rw [AList.lookup_insert_ne same] at found
        cases found
    · cases found
  have stands : DirectoryAt lastNumberTaken.disk (layerPath layersDir 0) :=
    ⟨.unpacked [0], AList.lookup_insert _, rfl⟩
  constructor
  · rfl
  · rfl
  · rintro path (held | stored | ⟨store, saved, stored⟩)
    · cases held
    · cases layer path stored
      exact stands
    · cases saved
      cases layer path stored
      exact stands
  · rfl

/-- After a directory with the greatest number the counter starts from nothing, and a new
layer is given the directory of one that the database has. -/
theorem first_directory_again :
    let client := exampleImageClient none
    ∃ state path, (pullSystem client (StartsOver client)).Reachable System.Free state ∧
      Allocates client state (.handleLayer 0) path ∧ state.disk.lookup path = some (.unpacked [0]) ∧
      Live state path := by
  intro client
  have done : ((pullSystem client (StartsOver client)).exec lastNumberTaken pullToHandle).map (fun final =>
      givesDirectory final 0 && decide (final.layersIndex = 0) &&
        decide (final.disk.lookup (layerPath layersDir 0) = some (.unpacked [0])) &&
        decide ((final.metaStore.layerDb.lookup zeroDigest).map LayerMeta.storePath =
          some (layerPath layersDir 0))) = some true := by
    decide +kernel
  obtain ⟨final, ran, results⟩ := Option.map_eq_some_iff.mp done
  simp only [Bool.and_eq_true, decide_eq_true_eq] at results
  obtain ⟨⟨⟨gives, index⟩, stands⟩, recorded⟩ := results
  have reached : (pullSystem client (StartsOver client)).Reachable System.Free final :=
    System.reachable_of_exec lastNumberTaken_startsOver (fun _ _ _ => trivial) ran
  have allocates := @allocates_of_givesDirectory client final 0 gives
  rw [index] at allocates
  obtain ⟨layerMeta, found, named⟩ := Option.map_eq_some_iff.mp recorded
  exact ⟨final, _, reached, allocates, stands, .inr (.inr (.inl (.inl ⟨zeroDigest, layerMeta, found, named⟩)))⟩

/-- `layers_have_own_directories` for the first layer there is. -/
theorem first_layer_own_directory :
    let client := exampleImageClient none
    ∃ state path, Allocates client state (.handleLayer 0) path ∧ state.disk.lookup path = none ∧
      ¬ Live state path := by
  intro client
  have done : ((pullSystem client fun first =>
      StartsOver client first ∧ IndexLeft first.disk client.dataDir).exec freshState pullToHandle).map
        (fun final => givesDirectory final 0 && decide (final.layersIndex = 0) &&
          decide (final.disk.lookup (layerPath layersDir 0) = none)) = some true := by
    decide +kernel
  obtain ⟨final, ran, results⟩ := Option.map_eq_some_iff.mp done
  simp only [Bool.and_eq_true, decide_eq_true_eq] at results
  obtain ⟨⟨gives, index⟩, absent⟩ := results
  have begins : StartsOver client freshState ∧ IndexLeft freshState.disk client.dataDir := by
    constructor
    · exact fresh_startsOver client
    · intro entry listed
      cases listed
  have quiet : ∀ label ∈ pullToHandle, ∀ state, NumbersLeft client state label := by
    intro label listed state
    constructor
    · rintro path ⟨⟩
      simp [pullToHandle] at listed
    · rintro rfl
      simp [pullToHandle] at listed
  have reached : (pullSystem client fun first =>
      StartsOver client first ∧ IndexLeft first.disk client.dataDir).Reachable (NumbersLeft client) final :=
    System.reachable_of_exec begins quiet ran
  have allocates := @allocates_of_givesDirectory client final 0 gives
  have allowed : NumbersLeft client final (.handleLayer 0) := by
    constructor
    · rintro _ ⟨_, _, _, _⟩
      constructor
      · show final.disk.lookup (layerPath client.dataDir final.layersIndex) ≠ some .file
        rw [index]
        intro there
        cases absent.symm.trans there
      · simp [index, usizeBound]
    · nofun
  obtain ⟨_, _, fresh⟩ := layers_have_own_directories reached
  exact ⟨final, _, allocates, fresh _ _ allowed allocates⟩

end Examples

end GuestComponents.Image
