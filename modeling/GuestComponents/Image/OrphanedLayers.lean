import GuestComponents.Image.LayerPaths
import GuestComponents.Image.LayerIntegrity

/-! The directories that a call leaves. The layers of a call are recorded when all of them
are there, and a layer that fails for the last time ends the call with whatever directories
the others have, or are about to make. In every run of one client in which no call ends so, and
in which what is left of a failed attempt is removed, every directory belongs to the layer
database whenever a call has returned. -/
namespace GuestComponents.Image
open Lib Lib.Text

section Specification

/-- The layer database has a layer at the path. -/
def MetaStore.Stores (store : MetaStore) (path : Text) : Prop :=
  ∃ digest layerMeta, store.layerDb.lookup digest = some layerMeta ∧ layerMeta.storePath = path

/-- Every directory in the data directory is that of a layer in the database. -/
def NoOrphans (client : ImageClient) (state : State) : Prop :=
  ∀ name content, (name, content) ∈ readDir state.disk client.dataDir → content.isDir = true →
    state.metaStore.Stores (client.dataDir ++ '/' :: name)

/-- The attempt for the layer at this place fails: its stream cannot be opened, or the layer
is not accepted. -/
inductive FailsAttempt (state : State) : Label → Nat → Nat → Prop where
  | unopened {i attempt : Nat} {error : String} {pull : Pull} {tasks : List Task} {layer : OciDescriptor}
      {diffId : Text} (phase : state.phase = .pulling pull tasks) (listed : pull.layers[i]? = some (layer, diffId))
      (waits : tasks[i]? = some (.waiting attempt)) (unknown : state.metaStore.layerDb.lookup layer.digest = none) :
      FailsAttempt state (.openLayer i (.error error)) i attempt
  | refused {i attempt : Nat} {error : String} {pull : Pull} {tasks : List Task} {layer : OciDescriptor}
      {diffId destination : Text} {delivery : Delivery} {cleaned : Bool} (phase : state.phase = .pulling pull tasks)
      (listed : pull.layers[i]? = some (layer, diffId))
      (unpacks : tasks[i]? = some (.unpacking attempt destination))
      (handled : asyncHandleLayer layer diffId destination delivery = .error error) :
      FailsAttempt state (.finishLayer i delivery cleaned) i attempt

/-- The task has no directory of its own: none at all, or one of the layer database. -/
def Task.Bare (store : MetaStore) (disk : Disk) : Task → Prop
  | .unpacking _ destination => ¬ DirectoryAt disk destination
  | .done layerMeta => store.Stores layerMeta.storePath
  | _ => True

/-- The condition on each step of one client: when the last attempt for a layer fails, no
other layer of the call has a directory of its own, what a failed attempt has made of its
directory is removed, and no file operation makes a directory when its task is gone. -/
def LeavesNothing (state : State) (label : Label) : Prop :=
  label ≠ .restart ∧
    (∀ i attempt, FailsAttempt state label i attempt → layerPullAttempts ≤ attempt →
      ∀ pull tasks, state.phase = .pulling pull tasks →
        ∀ j task, j ≠ i → tasks[j]? = some task → task.Bare state.metaStore state.disk) ∧
    (∀ i attempt delivery cleaned destination, label = .finishLayer i delivery cleaned →
      FailsAttempt state label i attempt → state.phase.UnpacksAt i destination →
        DirectoryAt state.disk destination → cleaned = true) ∧
    ∀ path, label = .runOn path → (state.disk.lookup path).isSome = true

/-- A client that has just been made, over a data directory whose directories are those of
the layers in its meta store. -/
structure StartsTidy (client : ImageClient) (state : State) : Prop where
  idle : state.phase = .idle
  tidy : NoOrphans client state
  named : ∀ digest layerMeta, state.metaStore.layerDb.lookup digest = some layerMeta →
    layerMeta.compressedDigest = digest

end Specification

/-- The directory that a task has, or is about to have. -/
def Task.path? : Task → Option Text
  | .unpacking _ destination => some destination
  | .done layerMeta => some layerMeta.storePath
  | _ => none

/-- A directory of the data directory. -/
def Beneath (client : ImageClient) (path : Text) : Prop :=
  ∃ name, '/' ∉ name ∧ path = client.dataDir ++ '/' :: name

/-- Every directory belongs to the database or to one of the tasks. -/
def Owned (client : ImageClient) (store : MetaStore) (disk : Disk) (tasks : List Task) : Prop :=
  ∀ path, Beneath client path → DirectoryAt disk path →
    store.Stores path ∨ ∃ (i : Nat) (task : Task), tasks[i]? = some task ∧ task.path? = some path

/-- A task that is done has the layer of its place, which the database has or does not know. -/
structure Tasked (store : MetaStore) (pull : Pull) (tasks : List Task) : Prop where
  counted : tasks.length = pull.layers.length
  distinct : (pull.layers.map fun pair => pair.1.digest).Nodup
  done : ∀ (i : Nat) (layer : OciDescriptor) (diffId : Text) (layerMeta : LayerMeta),
    pull.layers[i]? = some (layer, diffId) → tasks[i]? = some (.done layerMeta) →
    layerMeta.compressedDigest = layer.digest ∧
      ∀ other, store.layerDb.lookup layer.digest = some other → other = layerMeta
  unknown : ∀ (i attempt : Nat) (layer : OciDescriptor) (diffId destination : Text),
    pull.layers[i]? = some (layer, diffId) → tasks[i]? = some (.unpacking attempt destination) →
    store.layerDb.lookup layer.digest = none

/-- What holds of one client between its steps. -/
structure Swept (client : ImageClient) (state : State) : Prop where
  named : ∀ digest layerMeta, state.metaStore.layerDb.lookup digest = some layerMeta →
    layerMeta.compressedDigest = digest
  tasked : ∀ pull tasks, state.phase = .pulling pull tasks → Tasked state.metaStore pull tasks
  owned : ∀ pull tasks, state.phase = .pulling pull tasks → Owned client state.metaStore state.disk tasks
  settled : (∀ pull tasks, state.phase ≠ .pulling pull tasks) → Owned client state.metaStore state.disk []

section Facts

variable {client : ImageClient} {state next : State} {store : MetaStore} {disk : Disk} {tasks : List Task}
  {pull : Pull} {path : Text}

theorem uniqueLayers_distinct (digests : List Text) (pairs : List (OciDescriptor × Text)) :
    ((uniqueLayers digests pairs).map fun pair => pair.1.digest).Nodup ∧
      ∀ pair ∈ uniqueLayers digests pairs, pair.1.digest ∉ digests := by
  induction pairs generalizing digests with
  | nil => simp [uniqueLayers]
  | cons first rest ih =>
    rw [uniqueLayers]
    split
    · exact ih digests
    · rename_i new
      obtain ⟨distinct, others⟩ := ih (first.1.digest :: digests)
      constructor
      · rw [List.map_cons, List.nodup_cons]
        refine ⟨?_, distinct⟩
        intro again
        obtain ⟨pair, listed, same⟩ := List.mem_map.mp again
        exact others pair listed (by rw [same]; exact List.mem_cons_self)
      · intro pair listed
        rcases List.mem_cons.mp listed with rfl | later
        · exact new
        · exact fun before => others pair later (List.mem_cons_of_mem _ before)

theorem mem_readDir_iff {dataDir name : Text} {content : Content} :
    (name, content) ∈ readDir disk dataDir ↔
      '/' ∉ name ∧ disk.lookup (dataDir ++ '/' :: name) = some content := by
  have dropped : ∀ path rest : Text, path.dropPrefix? (dataDir ++ ['/']) = some rest ↔
      path = dataDir ++ '/' :: rest := by
    intro path rest
    rw [List.dropPrefix?_eq_some_iff]
    constructor
    · rintro ⟨front, rfl, same⟩
      rw [eq_of_beq same, List.append_assoc]
      rfl
    · rintro rfl
      exact ⟨dataDir ++ ['/'], by simp, by simp⟩
  rw [readDir, List.mem_filterMap]
  constructor
  · rintro ⟨entry, listed, kept⟩
    split at kept
    · rename_i rest found
      split at kept
      · cases kept
      · rename_i plain
        cases kept
        rw [← (dropped _ _).mp found]
        exact ⟨plain, AList.mem_lookup_iff.mpr listed⟩
    · cases kept
  · rintro ⟨plain, stands⟩
    refine ⟨⟨dataDir ++ '/' :: name, content⟩, AList.mem_lookup_iff.mp stands, ?_⟩
    rw [(dropped _ _).mpr rfl]
    exact if_neg plain

theorem noOrphans_iff : NoOrphans client state ↔ Owned client state.metaStore state.disk [] := by
  constructor
  · rintro tidy _ ⟨name, plain, rfl⟩ ⟨content, stands, directory⟩
    exact .inl (tidy name content (mem_readDir_iff.mpr ⟨plain, stands⟩) directory)
  · intro owned name content listed directory
    obtain ⟨plain, stands⟩ := mem_readDir_iff.mp listed
    rcases owned _ ⟨name, plain, rfl⟩ ⟨content, stands, directory⟩ with stored | ⟨_, _, impossible, _⟩
    · exact stored
    · cases impossible

theorem lookup_extendLayers_other {layerMetas : List LayerMeta} {digest : Text}
    (other : digest ∉ layerMetas.map LayerMeta.compressedDigest) :
    (store.extendLayers layerMetas).layerDb.lookup digest = store.layerDb.lookup digest := by
  induction layerMetas generalizing store with
  | nil => rfl
  | cons first rest ih =>
    rw [List.map_cons, List.mem_cons, not_or] at other
    have shape : store.extendLayers (first :: rest) =
        MetaStore.extendLayers { store with layerDb := store.layerDb.insert first.compressedDigest first } rest := rfl
    rw [shape, ih other.2]
    exact AList.lookup_insert_ne other.1

/-- Of the layers that are recorded together each is found, if no two have one digest. -/
theorem lookup_extendLayers_mem {layerMetas : List LayerMeta} {layerMeta : LayerMeta} (listed : layerMeta ∈ layerMetas)
    (distinct : (layerMetas.map LayerMeta.compressedDigest).Nodup) :
    (store.extendLayers layerMetas).layerDb.lookup layerMeta.compressedDigest = some layerMeta := by
  induction layerMetas generalizing store with
  | nil => cases listed
  | cons first rest ih =>
    rw [List.map_cons, List.nodup_cons] at distinct
    have shape : store.extendLayers (first :: rest) =
        MetaStore.extendLayers { store with layerDb := store.layerDb.insert first.compressedDigest first } rest := rfl
    rw [shape]
    rcases List.mem_cons.mp listed with rfl | later
    · rw [lookup_extendLayers_other distinct.1]
      exact AList.lookup_insert _
    · exact ih later distinct.2

end Facts

section Steps

variable {client : ImageClient} {state next : State} {store : MetaStore} {disk disk' : Disk} {tasks : List Task}
  {pull : Pull} {i : Nat} {old new : Task}

namespace Owned

/-- A task may change as long as it keeps the directory it has. -/
theorem keep (owned : Owned client store disk tasks) (there : tasks[i]? = some old)
    (same : ∀ path, old.path? = some path → new.path? = some path) : Owned client store disk (tasks.set i new) := by
  intro path beneath directory
  rcases owned path beneath directory with stored | ⟨j, task, listed, has⟩
  · exact .inl stored
  · right
    by_cases here : j = i
    · subst here
      rw [there] at listed
      cases listed
      exact ⟨j, new, by simp [List.getElem?_set_self (List.getElem?_eq_some_iff.mp there).1], same path has⟩
    · exact ⟨j, task, by rw [List.getElem?_set_ne (Ne.symm here), listed], has⟩

/-- A task whose directory is gone may change to any other. -/
theorem vacate (owned : Owned client store disk tasks) (there : tasks[i]? = some old)
    (fewer : ∀ path, DirectoryAt disk' path → DirectoryAt disk path)
    (gone : ∀ path, old.path? = some path → ¬ DirectoryAt disk' path) (new : Task) :
    Owned client store disk' (tasks.set i new) := by
  intro path beneath directory
  rcases owned path beneath (fewer path directory) with stored | ⟨j, task, listed, has⟩
  · exact .inl stored
  · right
    by_cases here : j = i
    · subst here
      rw [there] at listed
      cases listed
      exact absurd directory (gone path has)
    · exact ⟨j, task, by rw [List.getElem?_set_ne (Ne.symm here), listed], has⟩

/-- If the other tasks have no directories of their own, all of them may be dropped. -/
theorem dropAll (owned : Owned client store disk tasks) (there : tasks[i]? = some old)
    (fewer : ∀ path, DirectoryAt disk' path → DirectoryAt disk path)
    (gone : ∀ path, old.path? = some path → ¬ DirectoryAt disk' path)
    (bare : ∀ j task, j ≠ i → tasks[j]? = some task → task.Bare store disk) : Owned client store disk' [] := by
  intro path beneath directory
  rcases owned path beneath (fewer path directory) with stored | ⟨j, task, listed, has⟩
  · exact .inl stored
  · left
    by_cases here : j = i
    · subst here
      rw [there] at listed
      cases listed
      exact absurd directory (gone path has)
    · have own := bare j task here listed
      cases task with
      | unpacking attempt destination =>
        cases has
        exact absurd (fewer path directory) own
      | done layerMeta =>
        cases has
        exact own
      | _ => cases has

/-- The directory of a task may be made. -/
theorem make (owned : Owned client store disk tasks) {task : Task} {destination : Text} {content : Content}
    (there : tasks[i]? = some task) (has : task.path? = some destination) (directory : content.isDir = true) :
    Owned client store (disk.insert destination content) tasks := by
  intro path beneath stands
  rcases (directoryAt_insert directory).mp stands with rfl | before
  · exact .inr ⟨i, task, there, has⟩
  · exact owned path beneath before

end Owned

namespace Tasked

theorem set (tasked : Tasked store pull tasks)
    (done : ∀ layer diffId layerMeta, pull.layers[i]? = some (layer, diffId) → new = .done layerMeta →
      layerMeta.compressedDigest = layer.digest ∧
        ∀ other, store.layerDb.lookup layer.digest = some other → other = layerMeta)
    (unknown : ∀ attempt layer diffId destination, pull.layers[i]? = some (layer, diffId) →
      new = .unpacking attempt destination → store.layerDb.lookup layer.digest = none) :
    Tasked store pull (tasks.set i new) where
  counted := by rw [List.length_set, tasked.counted]
  distinct := tasked.distinct
  done j layer diffId layerMeta listed there := by
    rcases getElem?_set_some there with ⟨rfl, same⟩ | ⟨_, before⟩
    · exact done layer diffId layerMeta listed same.symm
    · exact tasked.done j layer diffId layerMeta listed before
  unknown j attempt layer diffId destination listed there := by
    rcases getElem?_set_some there with ⟨rfl, same⟩ | ⟨_, before⟩
    · exact unknown attempt layer diffId destination listed same.symm
    · exact tasked.unknown j attempt layer diffId destination listed before

/-- A task that is neither done nor unpacking. -/
theorem set_plain (tasked : Tasked store pull tasks) (plain : new.path? = none) :
    Tasked store pull (tasks.set i new) := by
  apply tasked.set
  · rintro _ _ _ _ rfl
    cases plain
  · rintro _ _ _ _ _ rfl
    cases plain

/-- A layer that the database has. -/
theorem set_found (tasked : Tasked store pull tasks) {layer : OciDescriptor} {diffId : Text} {layerMeta : LayerMeta}
    (named : layerMeta.compressedDigest = layer.digest) (listed : pull.layers[i]? = some (layer, diffId))
    (found : store.layerDb.lookup layer.digest = some layerMeta) :
    Tasked store pull (tasks.set i (.done layerMeta)) := by
  apply tasked.set
  · intro layer' diffId' layerMeta' listed' same
    rw [listed] at listed'
    cases listed'
    cases same
    refine ⟨named, fun other again => ?_⟩
    rw [found] at again
    exact (Option.some_inj.mp again).symm
  · intro _ _ _ _ _ impossible
    cases impossible

end Tasked

namespace Swept

theorem pulling (named : ∀ digest layerMeta, state.metaStore.layerDb.lookup digest = some layerMeta →
      layerMeta.compressedDigest = digest) (phase : state.phase = .pulling pull tasks)
    (tasked : Tasked state.metaStore pull tasks) (owned : Owned client state.metaStore state.disk tasks) :
    Swept client state where
  named := named
  tasked pull' tasks' phase' := by
    rw [phase] at phase'
    cases phase'
    exact tasked
  owned pull' tasks' phase' := by
    rw [phase] at phase'
    cases phase'
    exact owned
  settled other := absurd phase (other pull tasks)

theorem atRest (named : ∀ digest layerMeta, state.metaStore.layerDb.lookup digest = some layerMeta →
      layerMeta.compressedDigest = digest) (phase : ∀ pull tasks, state.phase ≠ .pulling pull tasks)
    (owned : Owned client state.metaStore state.disk []) : Swept client state where
  named := named
  tasked pull tasks here := absurd here (phase pull tasks)
  owned pull tasks here := absurd here (phase pull tasks)
  settled _ := owned

/-- A failed attempt is followed by another one, or it ends the call. -/
theorem attemptFailed (swept : Swept client state) {attempt : Nat} {error : String} {running : List Text}
    (phase : state.phase = .pulling pull tasks) (there : tasks[i]? = some old)
    (fewer : ∀ path, DirectoryAt disk' path → DirectoryAt state.disk path)
    (gone : ∀ path, old.path? = some path → ¬ DirectoryAt disk' path)
    (bare : ¬ attempt < layerPullAttempts → ∀ j task, j ≠ i → tasks[j]? = some task →
      task.Bare state.metaStore state.disk) :
    Swept client (State.attemptFailed { state with disk := disk', running } pull tasks i attempt error) := by
  have owned := swept.owned pull tasks phase
  rw [State.attemptFailed]
  split
  · exact pulling swept.named rfl ((swept.tasked pull tasks phase).set_plain rfl) (owned.vacate there fewer gone _)
  · rename_i last
    exact atRest swept.named (fun _ _ impossible => Phase.noConfusion impossible)
      (owned.dropAll there fewer gone (bare last))

/-- The layers of the call are recorded, and each is found under its digest. -/
theorem collected (swept : Swept client state) {layerMetas : List LayerMeta} (phase : state.phase = .pulling pull tasks)
    (complete : tasks.mapM Task.result? = some layerMetas) : Swept client (state.collected pull layerMetas) := by
  have tasked := swept.tasked pull tasks phase
  have owned := swept.owned pull tasks phase
  have results := mapM_some complete
  have counted : layerMetas.length = pull.layers.length := by
    rw [← tasked.counted]
    simpa using (congrArg List.length results).symm
  have recorded : ∀ (j : Nat) (layerMeta : LayerMeta), layerMetas[j]? = some layerMeta ↔
      tasks[j]? = some (.done layerMeta) := by
    intro j layerMeta
    have same := congrArg (·[j]?) results
    simp only [List.getElem?_map] at same
    constructor
    · intro there
      rw [there] at same
      obtain ⟨task, standing, result⟩ := Option.map_eq_some_iff.mp same
      cases task with
      | done _ =>
        cases result
        exact standing
      | _ => cases result
    · intro standing
      rw [standing] at same
      obtain ⟨found, there, result⟩ := Option.map_eq_some_iff.mp same.symm
      cases result
      exact there
  have digests : layerMetas.map LayerMeta.compressedDigest = pull.layers.map fun pair => pair.1.digest := by
    apply List.ext_getElem
    · rw [List.length_map, List.length_map, counted]
    · intro j inside inside'
      rw [List.getElem_map, List.getElem_map]
      rw [List.length_map] at inside inside'
      have done := (recorded j _).mp (List.getElem?_eq_getElem inside)
      exact (tasked.done j _ _ _ (List.getElem?_eq_getElem inside') done).1
  have stores : ∀ path, state.metaStore.Stores path → (state.metaStore.extendLayers layerMetas).Stores path := by
    rintro path ⟨digest, layerMeta, found, stored⟩
    by_cases again : digest ∈ layerMetas.map LayerMeta.compressedDigest
    · -- The layer was found in the database, and is recorded once more.
      obtain ⟨other, listed, rfl⟩ := List.mem_map.mp again
      obtain ⟨j, there⟩ := List.mem_iff_getElem?.mp listed
      have inside : j < pull.layers.length := by
        rw [← counted]
        exact (List.getElem?_eq_some_iff.mp there).1
      obtain ⟨own, only⟩ := tasked.done j _ _ other (List.getElem?_eq_getElem inside) ((recorded j other).mp there)
      rw [own] at found
      obtain rfl := only layerMeta found
      exact ⟨_, layerMeta, lookup_extendLayers_mem listed (by rw [digests]; exact tasked.distinct), stored⟩
    · exact ⟨digest, layerMeta, (lookup_extendLayers_other again).trans found, stored⟩
  have adds : ∀ layerMeta ∈ layerMetas, (state.metaStore.extendLayers layerMetas).Stores layerMeta.storePath := by
    intro layerMeta listed
    exact ⟨_, layerMeta, lookup_extendLayers_mem listed (by rw [digests]; exact tasked.distinct), rfl⟩
  have named : ∀ digest layerMeta, (state.metaStore.extendLayers layerMetas).layerDb.lookup digest = some layerMeta →
      layerMeta.compressedDigest = digest := by
    intro digest layerMeta found
    rcases lookup_extendLayers found with ⟨_, same⟩ | before
    · exact same
    · exact swept.named digest layerMeta before
  have settled : Owned client (state.metaStore.extendLayers layerMetas) state.disk [] := by
    intro path beneath directory
    rcases owned path beneath directory with stored | ⟨j, task, listed, has⟩
    · exact .inl (stores path stored)
    · left
      have inside : j < layerMetas.length := by
        rw [counted, ← tasked.counted]
        exact (List.getElem?_eq_some_iff.mp listed).1
      have done := (recorded j _).mp (List.getElem?_eq_getElem inside)
      rw [listed] at done
      cases done
      cases has
      exact adds _ (List.getElem_mem inside)
  rw [State.collected]
  dsimp only
  split
  · exact atRest named (fun _ _ impossible => Phase.noConfusion impossible) settled
  · exact atRest named (fun _ _ impossible => Phase.noConfusion impossible) settled

end Swept

/-- What one step keeps. -/
theorem step_swept {label : Label} (swept : Swept client state) (allowed : LeavesNothing state label)
    (stepped : step client state label = some next) : Swept client next := by
  obtain ⟨going, bare, cleaned, idles⟩ := allowed
  unfold step at stepped
  split at stepped
  case h_1 request answer idle =>
    have owned : Owned client state.metaStore state.disk [] := swept.settled fun _ _ phase => by
      rw [idle] at phase
      cases phase
    split at stepped
    · cases stepped
      exact Swept.atRest swept.named (fun _ _ impossible => Phase.noConfusion impossible) owned
    · rename_i pull began
      cases stepped
      obtain ⟨auth, _, _, _, _, accepted, _⟩ := pullImage_inr began
      obtain ⟨_, _, layers⟩ := acceptImage_ok accepted
      refine Swept.pulling swept.named rfl ⟨by simp, ?_, ?_, ?_⟩ ?_
      · rw [layers]
        exact (uniqueLayers_distinct _ _).1
      · intro i layer diffId layerMeta _ there
        cases eq_queued there
      · intro i attempt layer diffId destination _ there
        cases eq_queued there
      · intro path beneath directory
        rcases owned path beneath directory with stored | ⟨_, _, impossible, _⟩
        · exact .inl stored
        · cases impossible
  case h_2 i pull tasks pulling =>
    split at stepped
    · rename_i first
      cases stepped
      obtain ⟨inside, queued, _⟩ := List.findIdx?_eq_some_iff_getElem.mp first.1
      have there : tasks[i]? = some .queued := by
        rw [List.getElem?_eq_getElem inside]
        cases task : tasks[i] <;> simp_all
      exact Swept.pulling swept.named rfl ((swept.tasked pull tasks pulling).set_plain rfl)
        ((swept.owned pull tasks pulling).keep there nofun)
    · cases stepped
  case h_3 i stream pull tasks pulling =>
    split at stepped
    · rename_i layer diffId attempt listed waits
      split at stepped
      · rename_i layerMeta found
        cases stepped
        exact Swept.pulling swept.named rfl
          ((swept.tasked pull tasks pulling).set_found (swept.named _ _ found) listed found)
          ((swept.owned pull tasks pulling).keep waits nofun)
      · rename_i unknown
        cases stream with
        | error error =>
          cases stepped
          apply swept.attemptFailed pulling waits (fun _ directory => directory) nofun
          intro last
          exact bare i attempt (.unopened pulling listed waits unknown) (by omega) pull tasks pulling
        | ok _ =>
          cases stepped
          exact Swept.pulling swept.named rfl ((swept.tasked pull tasks pulling).set_plain rfl)
            ((swept.owned pull tasks pulling).keep waits nofun)
    · cases stepped
  case h_4 i pull tasks pulling =>
    split at stepped
    · rename_i layer diffId attempt listed opened
      split at stepped
      · rename_i layerMeta found
        cases stepped
        exact Swept.pulling swept.named rfl
          ((swept.tasked pull tasks pulling).set_found (swept.named _ _ found) listed found)
          ((swept.owned pull tasks pulling).keep opened nofun)
      · rename_i unknown
        cases stepped
        refine Swept.pulling swept.named rfl ((swept.tasked pull tasks pulling).set ?_ ?_)
          ((swept.owned pull tasks pulling).keep opened nofun)
        · intro _ _ _ _ impossible
          cases impossible
        · intro attempt' layer' diffId' destination listed' _
          rw [listed] at listed'
          cases listed'
          exact unknown
    · cases stepped
  case h_5 i pull tasks pulling =>
    split at stepped
    · rename_i attempt destination unpacks
      cases stepped
      exact Swept.pulling swept.named pulling (swept.tasked pull tasks pulling)
        ((swept.owned pull tasks pulling).make unpacks rfl rfl)
    · cases stepped
  case h_6 i path op pull tasks pulling =>
    split at stepped
    · split at stepped
      · cases stepped
      · cases stepped
        exact Swept.pulling swept.named pulling (swept.tasked pull tasks pulling) (swept.owned pull tasks pulling)
    · cases stepped
  case h_7 i delivery cleaned' pull tasks pulling =>
    split at stepped
    · rename_i layer diffId attempt destination listed unpacks
      split at stepped
      · rename_i layerMeta handled
        cases stepped
        obtain ⟨_, named, _, stored⟩ := asyncHandleLayer_ok handled
        have directory : (Content.unpacked delivery.stream).isDir = true := rfl
        have made := (swept.owned pull tasks pulling).make unpacks rfl directory
        refine Swept.pulling swept.named rfl ((swept.tasked pull tasks pulling).set ?_ ?_) (made.keep unpacks ?_)
        · intro layer' diffId' layerMeta' listed' same
          rw [listed] at listed'
          cases listed'
          cases same
          refine ⟨named, fun other found => ?_⟩
          rw [(swept.tasked pull tasks pulling).unknown i attempt layer diffId destination listed unpacks] at found
          cases found
        · intro _ _ _ _ _ impossible
          cases impossible
        · rintro _ ⟨⟩
          rw [Task.path?, stored]
      · rename_i error refused
        cases stepped
        have fails : FailsAttempt state (.finishLayer i delivery cleaned') i attempt :=
          .refused pulling listed unpacks refused
        refine swept.attemptFailed pulling unpacks ?_ ?_ fun last =>
          bare i attempt fails (by omega) pull tasks pulling
        · intro path directory
          split at directory
          · exact (directoryAt_erase.mp directory).2
          · exact directory
        · rintro _ ⟨⟩ directory
          have unpacksAt : state.phase.UnpacksAt i destination := by
            rw [pulling]
            exact ⟨attempt, unpacks⟩
          split at directory
          · exact (directoryAt_erase.mp directory).1 rfl
          · rename_i stays
            exact stays (cleaned i attempt delivery cleaned' destination rfl fails unpacksAt directory)
    · cases stepped
  case h_8 pull tasks pulling =>
    split at stepped
    · rename_i layerMetas complete
      cases stepped
      exact swept.collected pulling complete
    · cases stepped
  case h_9 answer pull bundling =>
    have owned := swept.settled fun _ _ phase => by
      rw [bundling] at phase
      cases phase
    split at stepped
    · cases stepped
      exact Swept.atRest swept.named (fun _ _ impossible => Phase.noConfusion impossible) owned
    · dsimp only at stepped
      split at stepped
      · cases stepped
        exact Swept.atRest swept.named (fun _ _ impossible => Phase.noConfusion impossible) owned
      · cases stepped
        exact Swept.atRest swept.named (fun _ _ impossible => Phase.noConfusion impossible) owned
  case h_10 outcome pull imageId saving =>
    have owned := swept.settled fun _ _ phase => by
      rw [saving] at phase
      cases phase
    split at stepped
    · cases stepped
      exact Swept.atRest swept.named (fun _ _ impossible => Phase.noConfusion impossible) owned
    · cases stepped
      exact Swept.atRest swept.named (fun _ _ impossible => Phase.noConfusion impossible) owned
  case h_11 outcome pull imageId writing =>
    have owned := swept.settled fun _ _ phase => by
      rw [writing] at phase
      cases phase
    split at stepped
    · cases stepped
      exact Swept.atRest swept.named (fun _ _ impossible => Phase.noConfusion impossible) owned
    · cases stepped
      exact Swept.atRest swept.named (fun _ _ impossible => Phase.noConfusion impossible) owned
  case h_12 path =>
    split at stepped
    · cases stepped
      rw [if_pos (idles path rfl)]
      exact ⟨swept.named, swept.tasked, swept.owned, swept.settled⟩
    · cases stepped
  case h_13 => exact absurd rfl going
  case h_14 => cases stepped

/-- In every run of one client in which a layer fails for good only while no other layer has a
directory of its own, in which failed attempts are cleaned up, and in which no file operation
makes a directory when its task is gone, no directory is orphaned whenever a call has returned. -/
theorem no_orphaned_layers
    (reached : (pullSystem client (StartsTidy client)).Reachable LeavesNothing state)
    (returned : state.phase = .idle) : NoOrphans client state := by
  have swept : Swept client state := by
    apply reached.invariant
    · intro first starts
      apply Swept.atRest starts.named
      · intro _ _ phase
        rw [starts.idle] at phase
        cases phase
      · exact noOrphans_iff.mp starts.tidy
    · intro first label last swept allowed stepped
      exact step_swept swept allowed stepped
  apply noOrphans_iff.mpr
  apply swept.settled
  intro _ _ phase
  rw [returned] at phase
  cases phase

end Steps

section Examples

variable {state : State} {label : Label}

/-- The pull of a single layer leaves nothing, if what it does not finish is removed. -/
theorem leavesNothing_single (going : label ≠ .restart) (ends : ∀ path, label ≠ .runOn path)
    (single : ∀ pull tasks, state.phase = .pulling pull tasks → tasks.length ≤ 1)
    (removes : ∀ i delivery cleaned, label = .finishLayer i delivery cleaned → cleaned = true) :
    LeavesNothing state label := by
  refine ⟨going, ?_, fun i _ delivery cleaned _ same _ _ _ => removes i delivery cleaned same,
    fun path same => absurd same (ends path)⟩
  intro i attempt fails _ pull tasks phase j task other there
  have few := single pull tasks phase
  have mine : i < tasks.length := by
    cases fails with
    | unopened phase' _ waits =>
      rw [phase] at phase'
      cases phase'
      exact (List.getElem?_eq_some_iff.mp waits).1
    | refused phase' _ unpacks =>
      rw [phase] at phase'
      cases phase'
      exact (List.getElem?_eq_some_iff.mp unpacks).1
  have its := (List.getElem?_eq_some_iff.mp there).1
  omega

theorem idle_of_isNone {phase : Phase} (none : phase.pull?.isNone) : phase = .idle := by
  cases phase with
  | idle => rfl
  | _ => cases none

/-- At most one layer is pulled. -/
def fewTasks : Phase → Bool
  | .pulling _ tasks => decide (tasks.length ≤ 1)
  | _ => true

theorem fresh_tidy (client : ImageClient) : StartsTidy client freshState where
  idle := rfl
  tidy _ _ listed := nomatch listed
  named _ _ found := nomatch found

/-- `no_orphaned_layers` for the pull of an image with one layer. -/
theorem one_layer_not_orphaned :
    let client := exampleImageClient none
    ∃ state, (pullSystem client (StartsTidy client)).Reachable LeavesNothing state ∧
      state.disk.keys = ["/run/image-rs/layers/0".toList] ∧ NoOrphans client state := by
  intro client
  have done : (((pullSystem client (StartsTidy client)).execIf (fun state _ => fewTasks state.phase) freshState
      (examplePull (tagged "docker.io" "example/x" "1") (exampleManifest zeroDigest emptyDigest))).map
        fun final => (final.disk.keys, final.phase.pull?.isNone)) =
      some (["/run/image-rs/layers/0".toList], true) := by
    decide +kernel
  obtain ⟨final, ran, results⟩ := Option.map_eq_some_iff.mp done
  rw [Prod.mk.injEq] at results
  have begins : (pullSystem client (StartsTidy client)).start freshState := fresh_tidy client
  have reached : (pullSystem client (StartsTidy client)).Reachable LeavesNothing final := by
    apply (System.Reachable.start begins).execIf _ ran
    intro label listed state passed
    have each : ∀ label ∈ examplePull (tagged "docker.io" "example/x" "1") (exampleManifest zeroDigest emptyDigest),
        label ≠ .restart ∧ (∀ path, label ≠ .runOn path) ∧
          ∀ i delivery cleaned, label = .finishLayer i delivery cleaned → cleaned = true := by
      simp [examplePull]
    obtain ⟨going, ends, removes⟩ := each label listed
    refine leavesNothing_single going ends ?_ removes
    intro pull tasks phase
    rw [phase] at passed
    exact of_decide_eq_true passed
  exact ⟨final, reached, results.1, no_orphaned_layers reached (idle_of_isNone results.2)⟩

/-- The example's client, over configurations with two layers. -/
def twoLayerClient : ImageClient :=
  { exampleImageClient none with fromReader := fun _ => .ok (linuxConfig [emptyDigest, zeroDigest]) }

def twoLayerManifest : PulledManifest where
  imageManifest :=
    { config := ⟨"application/vnd.oci.image.config.v1+json".toList, zeroDigest, 0, []⟩
      layers := [⟨imageLayerMediaType, emptyDigest, 0, []⟩, ⟨imageLayerMediaType, zeroDigest, 1, []⟩] }
  imageDigest := zeroDigest
  imageConfig := []

/-- The first layer is unpacked; the second one cannot be opened. -/
def secondLayerFails : List Label :=
  [.call (exampleRequest (tagged "docker.io" "example/x" "1")) (exampleAnswer twoLayerManifest), .startLayer 0,
    .openLayer 0 (.ok ()), .handleLayer 0, .createLayer 0, .finishLayer 0 emptyDelivery true, .startLayer 1,
    .openLayer 1 (.error "timed out"), .openLayer 1 (.error "timed out"), .openLayer 1 (.error "timed out")]

/-- The layer that was unpacked stays where another one fails, and the database does not have it. -/
theorem finished_layer_orphaned :
    ∃ state, (pullSystem twoLayerClient (StartsTidy twoLayerClient)).Reachable System.Free state ∧
      state.phase = .idle ∧ ¬ NoOrphans twoLayerClient state := by
  have done : (((pullSystem twoLayerClient (StartsTidy twoLayerClient)).exec freshState secondLayerFails).map
      fun final => (final.disk.lookup (layerPath twoLayerClient.dataDir 0), final.metaStore.layerDb.keys,
        final.phase.pull?.isNone)) = some (some (.unpacked []), [], true) := by
    decide +kernel
  obtain ⟨final, ran, results⟩ := Option.map_eq_some_iff.mp done
  rw [Prod.mk.injEq, Prod.mk.injEq] at results
  obtain ⟨stands, empty, idle⟩ := results
  have begins : (pullSystem twoLayerClient (StartsTidy twoLayerClient)).start freshState := fresh_tidy twoLayerClient
  refine ⟨final, System.reachable_of_exec begins (fun _ _ _ => trivial) ran, idle_of_isNone idle, ?_⟩
  intro tidy
  obtain ⟨digest, layerMeta, found, _⟩ := tidy _ _ (mem_readDir stands) rfl
  have listed := AList.lookup_isSome.mp (Option.isSome_of_eq_some found)
  rw [AList.mem_keys, empty] at listed
  cases listed

end Examples

end GuestComponents.Image
