import GuestComponents.Image.LayerIntegrity

/-! A call that the image database answers, against a full pull of the same manifest. The mount of a
nydus image lies over a file system that the nydus service puts into the bundle, and only a full
pull starts the service: a cached one finds it if it was started last for the same image and the
same bundle directory, and the process has gone on since (`cached_pull_as_full`). What is mounted
is compared with what the unpacking of other layers has changed in it. -/
namespace GuestComponents.Image
open Lib Lib.Text

variable {client : ImageClient} {state next : State} {label : Label} {disk disk' : Disk}

/-- What the running nydus service serves: an image under a bundle directory. -/
abbrev Serving := Option (Text × ImageMeta)

/-- The service is started with the bundle of a nydus image, and ends with the process. -/
def served (serving : Serving) (state : State) (label : Label) (_ : State) : Serving :=
  match label, state.phase with
  | .restart, _ => none
  | .bundle answer, .bundling pull =>
    if pull.nydus ∧ answer.service = .ok () then some (pull.request.bundleDir, pull.image) else serving
  | _, _ => serving

/-- The layers of an image hold what they are recorded with. -/
def Filled (disk : Disk) (image : ImageMeta) : Prop :=
  ∀ layerMeta ∈ image.layerMetas, UnpackedFrom disk layerMeta.storePath layerMeta.uncompressedDigest

/-- Every image of the store is there under its id, with its layers. -/
def Stocked (disk : Disk) (store : MetaStore) : Prop :=
  ∀ id image, store.imageDb.lookup id = some image → image.id = id ∧ Filled disk image

/-- A client that has just been made, over a meta store that knows what its directories hold. -/
structure StartsStocked (client : ImageClient) (state : State) : Prop where
  genuine : StartsGenuine client state
  memory : Stocked state.disk state.metaStore
  file : ∀ store, state.metaFile = some store → Stocked state.disk store
  unaltered : state.altered = []

/-- The condition on each step: records and repetitions agree with their diff ids, and the
unpacking of a layer changes nothing elsewhere. -/
structure KeepsLayers (client : ImageClient) (state : State) (label : Label) : Prop where
  digests : DigestsAgree client state label
  inside : ∀ i path op, label ≠ .alterLayer i path op

/-- The runs of the clients, with the nydus service. -/
def servingSystem (client : ImageClient) : System (State × Serving) Label :=
  (pullSystem client (StartsStocked client)).withHistory (fun _ => none) served

/-- The state without an image: what a full pull of it starts from. -/
def State.forget (state : State) (id : Text) : State :=
  { state with metaStore := { state.metaStore with imageDb := state.metaStore.imageDb.erase id } }

/-- A run from there to the end of a successful call that pulls the layers of this manifest for this bundle. -/
structure FullPull (client : ImageClient) (guard : State → Label → Prop) (state : State) (pulled : PulledManifest)
    (bundleDir : Text) (final : State) (full : Reply) : Prop where
  reached : (pullSystem client (· = state.forget pulled.imageManifest.config.digest)).Reachable guard final
  replied : full ∈ final.replies
  bundleDir : full.request.bundleDir = bundleDir
  manifest : full.manifest = some pulled
  uncached : full.cached = false
  succeeded : ∃ imageId, full.result = .ok imageId

/-- What is in the layers of an image: what was unpacked, and what was changed in it since. -/
def layerContents (state : State) (image : ImageMeta) : List (Option Content × List (Text × Unpack.FileOp)) :=
  image.layerMetas.map fun layerMeta =>
    (state.disk.lookup layerMeta.storePath, state.altered.filter fun change => change.1 = layerMeta.storePath)

/-- The rootfs of a cached call: the layers of the image, or what the nydus service has in the bundle. -/
def cachedRootfs (client : ImageClient) (state : State) (serving : Serving) (manifest : OciImageManifest)
    (bundleDir : Text) (image : ImageMeta) : Option (List (Option Content × List (Text × Unpack.FileOp))) :=
  if client.isNydusImage manifest then
    serving.bind fun (dir, servedImage) => if dir = bundleDir then some (layerContents state servedImage) else none
  else some (layerContents state image)

/-- The host mounts what is there, and writes the runtime configuration, as in a full pull that succeeds. -/
structure HostAnswers (client : ImageClient) (serving : Serving) (manifest : OciImageManifest) (bundleDir : Text)
    (answer : BundleAnswer) : Prop where
  mount : (client.isNydusImage manifest = true → ∃ image, serving = some (bundleDir, image)) →
  answer.mount = .ok ()
  runtimeConfig : answer.runtimeConfig = .ok ()

/-- The cached call gives what the full pull gives: the id, the rootfs and the runtime configuration,
whatever the defaults of the crate are. -/
structure AsFull (client : ImageClient) (state : State) (serving : Serving) (request : PullRequest) (answer : CallAnswer)
    (pulled : PulledManifest) (image : ImageMeta) (final : State) (full : Reply) : Prop where
  result : client.pullImage state.metaStore request answer =
    .inl ⟨request, some pulled, none, true, some image, full.result⟩
  bundle : ∃ fullImage, full.image = some fullImage ∧
    cachedRootfs client state serving pulled.imageManifest request.bundleDir image =
      some (layerContents final fullImage) ∧
    ∀ oci, RuntimeConfig.runtimeSpec oci image.imageConfig.runtime =
      RuntimeConfig.runtimeSpec oci fullImage.imageConfig.runtime

/-- No two streams with one digest are on the disk. -/
def Distinct (disk : Disk) : Prop :=
  ∀ path path' stream stream' diffId, disk.lookup path = some (.unpacked stream) →
    disk.lookup path' = some (.unpacked stream') → HasDiffId diffId stream → HasDiffId diffId stream' →
    stream = stream'

/-- The image that the database has is what the manifest describes, and of a nydus image the service serves it in
the bundle. -/
structure Repeatable (client : ImageClient) (serving : Serving) (bundleDir : Text) (pulled : PulledManifest)
    (image : ImageMeta) : Prop where
  config : client.fromReader pulled.imageConfig = .ok image.imageConfig
  layers : (uniqueLayers [] (pulledLayers client pulled.imageManifest image.imageConfig)).map Prod.snd =
    image.layerMetas.map LayerMeta.uncompressedDigest
  serving : client.isNydusImage pulled.imageManifest = true → serving = some (bundleDir, image)

section Kept

/-- An image made from a manifest. -/
structure MadeFrom (client : ImageClient) (pulled : PulledManifest) (image : ImageMeta) : Prop where
  config : client.fromReader pulled.imageConfig = .ok image.imageConfig
  id : image.id = pulled.imageManifest.config.digest

/-- What is known of the image of the call that runs. -/
def OwnImage (client : ImageClient) (disk : Disk) : Phase → Prop
  | .idle => True
  | .pulling pull _ => MadeFrom client pull.manifest pull.image
  | .bundling pull => MadeFrom client pull.manifest pull.image ∧ Filled disk pull.image
  | .saving pull imageId => MadeFrom client pull.manifest pull.image ∧ Filled disk pull.image ∧
      pull.image.imageConfig.os = .linux ∧ imageId = pull.image.id
  | .writing pull imageId => MadeFrom client pull.manifest pull.image ∧ Filled disk pull.image ∧
      pull.image.imageConfig.os = .linux ∧ imageId = pull.image.id

/-- What a call that pulled its image has returned. -/
def PulledReply (client : ImageClient) (reply : Reply) : Prop :=
  reply.cached = false → ∀ imageId, reply.result = .ok imageId → ∃ pulled image, reply.manifest = some pulled ∧
    reply.image = some image ∧ MadeFrom client pulled image ∧ image.imageConfig.os = .linux ∧ imageId = image.id

structure Filed (client : ImageClient) (state : State) : Prop where
  memory : Stocked state.disk state.metaStore
  file : ∀ store, state.metaFile = some store → Stocked state.disk store
  call : OwnImage client state.disk state.phase
  replies : ∀ reply ∈ state.replies, PulledReply client reply

theorem Filled.lasts {image : ImageMeta} (filled : Filled disk image) (keeps : Keeps disk disk') : Filled disk' image :=
  fun layerMeta listed => (filled layerMeta listed).lasts keeps

theorem Stocked.lasts {store : MetaStore} (stocked : Stocked disk store) (keeps : Keeps disk disk') :
    Stocked disk' store :=
  fun id image found => ⟨(stocked id image found).1, (stocked id image found).2.lasts keeps⟩

theorem OwnImage.lasts {phase : Phase} (own : OwnImage client disk phase) (keeps : Keeps disk disk') :
    OwnImage client disk' phase := by
  cases phase with
  | idle => trivial
  | pulling => exact own
  | bundling => exact ⟨own.1, own.2.lasts keeps⟩
  | saving => exact ⟨own.1, own.2.1.lasts keeps, own.2.2⟩
  | writing => exact ⟨own.1, own.2.1.lasts keeps, own.2.2⟩

theorem Stocked.insertImage {store : MetaStore} (stocked : Stocked disk store) {image : ImageMeta}
    (filled : Filled disk image) : Stocked disk (store.insertImage image) := by
  intro id other found
  by_cases same : id = image.id
  · subst same
    rw [MetaStore.insertImage, AList.lookup_insert] at found
    cases found
    exact ⟨rfl, filled⟩
  · rw [MetaStore.insertImage, AList.lookup_insert_ne same] at found
    exact stocked id other found

theorem Stocked.empty (disk : Disk) : Stocked disk .empty := by
  intro id image found
  cases found

theorem disk_unfinished (destination : Text) (cleaned : Bool) (error : String) :
    (state.unfinished destination cleaned error).disk =
      if cleaned then state.disk.erase destination else state.disk := rfl

theorem disk_attemptFailed (pull : Pull) (tasks : List Task) (i attempt : Nat) (error : String) :
    (state.attemptFailed pull tasks i attempt error).disk = state.disk := by
  unfold State.attemptFailed
  split <;> rfl

/-- No step takes an unpacked layer away. -/
theorem Moves.keeps (sound : Sound client state) (moves : Moves client state label next) :
    Keeps state.disk next.disk := by
  cases moves with
  | @created i attempt pull tasks destination phase unpacks =>
    exact keeps_insert ((sound.inPull phase).2.vacant i attempt destination unpacks)
  | @finished i attempt pull tasks destination delivery cleaned layer diffId layerMeta phase listed unpacks handled =>
    exact keeps_insert ((sound.inPull phase).2.vacant i attempt destination unpacks)
  | @unfinished i attempt pull tasks destination delivery cleaned error phase unpacks =>
    have vacant := (sound.inPull phase).2.vacant i attempt destination unpacks
    rw [disk_attemptFailed, disk_unfinished]
    cases cleaned with
    | false => exact keeps_refl
    | true =>
      intro path stream stands
      have apart : path ≠ destination := by
        rintro rfl
        exact vacant stream stands
      exact (AList.lookup_erase_ne apart).trans stands
  | @unopened i attempt pull tasks error phase =>
    rw [disk_attemptFailed]
    exact keeps_refl
  | @collected pull tasks layerMetas phase all =>
    unfold State.collected
    dsimp only
    split <;> exact keeps_refl
  | answered => exact keeps_refl
  | began => exact keeps_refl
  | started => exact keeps_refl
  | found => exact keeps_refl
  | opened => exact keeps_refl
  | allocated => exact keeps_refl
  | altered => exact keeps_refl
  | @ranOn path _ => exact (keeps_runOn state.disk path).1
  | bundled => exact keeps_refl
  | nydusBundled => exact keeps_refl
  | failed => exact keeps_refl
  | truncated => exact keeps_refl
  | written => exact keeps_refl
  | restarted => exact keeps_refl

theorem acceptImage_made {request : PullRequest} {pulled : PulledManifest} {check : Option SignatureCheck}
    {image : ImageMeta} {layers : List (OciDescriptor × Text)}
    (accepted : client.acceptImage request pulled check = .ok (image, layers)) : MadeFrom client pulled image := by
  refine ⟨(acceptImage_ok accepted).1, ?_⟩
  unfold ImageClient.acceptImage at accepted
  obtain ⟨_, _, accepted⟩ := bind_ok.mp accepted
  obtain ⟨⟨made, unique⟩, created, accepted⟩ := bind_ok.mp accepted
  have id : made.id = pulled.imageManifest.config.digest := by
    unfold ImageClient.createImageMeta at created
    obtain ⟨_, _, created⟩ := bind_ok.mp created
    split at created
    · cases created
    · cases created
      rfl
  split at accepted
  · split at accepted
    · cases accepted
      exact id
    · cases accepted
    · cases accepted
  · cases accepted
    exact id

theorem bundleOf_linux {pull : Pull} {answer : BundleAnswer} {imageId : Text}
    (made : bundleOf pull answer = .ok imageId) :
    pull.image.imageConfig.os = .linux ∧ imageId = pull.image.id := by
  unfold bundleOf at made
  split at made
  · obtain ⟨_, _, made⟩ := bind_ok.mp made
    unfold createNydusBundle at made
    split at made
    · cases made
    · rename_i linux
      obtain ⟨_, _, made⟩ := bind_ok.mp made
      obtain ⟨_, _, made⟩ := bind_ok.mp made
      cases made
      exact ⟨not_not.mp linux, rfl⟩
  · unfold createBundle at made
    obtain ⟨_, _, made⟩ := bind_ok.mp made
    split at made
    · cases made
    · rename_i linux
      obtain ⟨_, _, made⟩ := bind_ok.mp made
      cases made
      exact ⟨not_not.mp linux, rfl⟩

namespace Filed

theorem changed (filed : Filed client state) (keeps : Keeps state.disk disk') :
    Filed client { state with disk := disk' } :=
  ⟨filed.memory.lasts keeps, fun store saved => (filed.file store saved).lasts keeps, filed.call.lasts keeps,
    filed.replies⟩

theorem aside (filed : Filed client state) (running : List Text) (altered : List (Text × Unpack.FileOp)) :
    Filed client { state with running, altered } :=
  ⟨filed.memory, filed.file, filed.call, filed.replies⟩

theorem reply (filed : Filed client state) {reply : Reply} (own : PulledReply client reply) :
    Filed client (state.answer reply) := by
  refine ⟨filed.memory, filed.file, trivial, fun other listed => ?_⟩
  rcases List.mem_cons.mp listed with rfl | earlier
  · exact own
  · exact filed.replies other earlier

theorem fail (filed : Filed client state) (pull : Pull) (error : String) : Filed client (state.fail pull error) :=
  filed.reply fun _ _ succeeded => by cases succeeded

theorem inPull (filed : Filed client state) {pull : Pull} {tasks : List Task}
    (phase : state.phase = .pulling pull tasks) :
    MadeFrom client pull.manifest pull.image := by
  have call := filed.call
  rw [phase] at call
  exact call

/-- The layers of the call go on. -/
theorem goOn (filed : Filed client state) {pull : Pull} (made : MadeFrom client pull.manifest pull.image)
    (tasks : List Task) : Filed client { state with phase := .pulling pull tasks } :=
  ⟨filed.memory, filed.file, made, filed.replies⟩

theorem attemptFailed (filed : Filed client state) {pull : Pull} (made : MadeFrom client pull.manifest pull.image)
    (tasks : List Task) (i attempt : Nat) (error : String) :
    Filed client (state.attemptFailed pull tasks i attempt error) := by
  unfold State.attemptFailed
  split
  · exact filed.goOn made _
  · exact (filed.aside _ state.altered).fail pull error

theorem collected (filed : Filed client state) (sound : Sound client state) {pull : Pull} {tasks : List Task}
    {layerMetas : List LayerMeta} (phase : state.phase = .pulling pull tasks)
    (all : tasks.mapM Task.result? = some layerMetas) : Filed client (state.collected pull layerMetas) := by
  obtain ⟨lengths, ended⟩ := (sound.inPull phase).2.recorded all
  have made := filed.inPull phase
  unfold State.collected
  dsimp only
  rw [if_neg (not_not.mpr lengths.symm)]
  refine ⟨filed.memory, filed.file, ⟨⟨made.config, made.id⟩, fun layerMeta member => ?_⟩, filed.replies⟩
  obtain ⟨j, there⟩ := List.getElem?_of_mem member
  have below : j < pull.layers.length := by
    rw [← lengths]
    exact (List.getElem?_eq_some_iff.mp there).1
  obtain ⟨_, digest, unpacked⟩ := ended j _ _ layerMeta (List.getElem?_eq_getElem below) there
  rw [digest]
  exact unpacked

theorem step (filed : Filed client state) (sound : Sound client state) (moves : Moves client state label next) :
    Filed client next := by
  have keeps := moves.keeps sound
  cases moves with
  | @answered request answer reply idle answered =>
    refine filed.reply fun uncached imageId succeeded => ?_
    rcases pullImage_inl answered with ⟨error, failed⟩ | ⟨auth, pulled, image, _, _, rfl⟩
    · rw [failed] at succeeded
      cases succeeded
    · cases uncached
  | @began request answer pull idle began =>
    obtain ⟨auth, _, _, _, _, accepted, _⟩ := pullImage_inr began
    exact filed.goOn (acceptImage_made accepted) _
  | started phase => exact filed.goOn (filed.inPull phase) _
  | found phase => exact filed.goOn (filed.inPull phase) _
  | opened phase => exact filed.goOn (filed.inPull phase) _
  | allocated phase => exact ⟨filed.memory, filed.file, filed.inPull phase, filed.replies⟩
  | created phase unpacks => exact (filed.changed keeps).aside state.running _
  | altered _ _ _ => exact filed.aside state.running _
  | ranOn _ => exact (filed.changed keeps).aside _ state.altered
  | @finished i attempt pull tasks destination delivery cleaned layer diffId layerMeta phase listed unpacks handled =>
    have changed := filed.changed keeps
    exact ⟨changed.memory, changed.file, filed.inPull phase, changed.replies⟩
  | unopened phase => exact filed.attemptFailed (filed.inPull phase) _ _ _ _
  | @unfinished i attempt pull tasks destination delivery cleaned error phase unpacks =>
    rw [disk_attemptFailed] at keeps
    have ended : Filed client (state.unfinished destination cleaned error) :=
      (filed.changed keeps).aside _ state.altered
    exact ended.attemptFailed (filed.inPull phase) _ _ _ _
  | collected phase all => exact filed.collected sound phase all
  | @bundled answer pull imageId phase made plain =>
    have call := filed.call
    rw [phase] at call
    obtain ⟨linux, id⟩ := bundleOf_linux made
    exact ⟨filed.memory.insertImage call.2, filed.file, ⟨call.1, call.2, linux, id⟩, filed.replies⟩
  | @nydusBundled answer pull imageId phase made nydus =>
    have call := filed.call
    rw [phase] at call
    obtain ⟨linux, id⟩ := bundleOf_linux made
    have stored : Filed client { state with metaStore := state.metaStore.insertImage pull.image } :=
      ⟨filed.memory.insertImage call.2, filed.file, filed.call, filed.replies⟩
    refine stored.reply fun _ other succeeded => ?_
    cases succeeded
    exact ⟨pull.manifest, pull.image, rfl, rfl, call.1, linux, id⟩
  | failed _ => exact filed.fail _ _
  | truncated phase =>
    have call := filed.call
    rw [phase] at call
    refine ⟨filed.memory, ?_, call, filed.replies⟩
    intro store saved
    cases saved
  | @written pull imageId phase =>
    have call := filed.call
    rw [phase] at call
    have saved : Filed client { state with metaFile := some state.metaStore } := by
      refine ⟨filed.memory, ?_, filed.call, filed.replies⟩
      intro store saved
      cases saved
      exact filed.memory
    refine saved.reply fun _ other succeeded => ?_
    cases succeeded
    exact ⟨pull.manifest, pull.image, rfl, rfl, call.1, call.2.2.1, call.2.2.2⟩
  | restarted =>
    refine ⟨?_, filed.file, trivial, filed.replies⟩
    show Stocked state.disk (state.metaFile.getD .empty)
    cases saved : state.metaFile with
    | none => exact Stocked.empty state.disk
    | some store => exact filed.file store saved

end Filed

end Kept

section Runs

variable {serving : Serving} {guard : State → Label → Prop}

theorem lookup_forget {id other : Text} {image : ImageMeta}
    (found : (state.forget id).metaStore.imageDb.lookup other = some image) :
    state.metaStore.imageDb.lookup other = some image := by
  by_cases same : other = id
  · subst same
    exact absurd found (by simp [State.forget])
  · rwa [State.forget, AList.lookup_erase_ne same] at found

theorem Sound.forget (sound : Sound client state) (id : Text) : Sound client (state.forget id) :=
  ⟨⟨sound.memory.layers, fun other image found => sound.memory.images other image (lookup_forget found)⟩,
    sound.file, sound.fresh, sound.call, sound.replies⟩

theorem Filed.forget (filed : Filed client state) (id : Text) : Filed client (state.forget id) :=
  ⟨fun other image found => filed.memory other image (lookup_forget found), filed.file, filed.call, filed.replies⟩

theorem altered_attemptFailed (pull : Pull) (tasks : List Task) (i attempt : Nat) (error : String) :
    (state.attemptFailed pull tasks i attempt error).altered = state.altered := by
  unfold State.attemptFailed
  split <;> rfl

/-- As long as the unpacking stays in its directories, no layer is changed by another one. -/
theorem Moves.unaltered (moves : Moves client state label next) (inside : ∀ i path op, label ≠ .alterLayer i path op)
    (unaltered : state.altered = []) : next.altered = [] := by
  cases moves with
  | created _ _ =>
    dsimp only
    rw [unaltered, List.filter_nil]
  | altered _ _ _ => exact absurd rfl (inside _ _ _)
  | unopened _ => rw [altered_attemptFailed, unaltered]
  | unfinished _ _ => rw [altered_attemptFailed, State.unfinished, unaltered]
  | collected _ _ =>
    unfold State.collected
    dsimp only
    split <;> exact unaltered
  | _ => exact unaltered

/-- What holds in every run whose digests agree. -/
structure Unspoilt (client : ImageClient) (state : State) : Prop where
  sound : Sound client state
  filed : Filed client state
  unaltered : state.altered = []

theorem Unspoilt.step (unspoilt : Unspoilt client state) (allowed : KeepsLayers client state label)
    (moves : Moves client state label next) : Unspoilt client next :=
  ⟨unspoilt.sound.step allowed.digests moves, unspoilt.filed.step unspoilt.sound moves,
    moves.unaltered allowed.inside unspoilt.unaltered⟩

theorem reached_unspoilt
    (reached : (servingSystem client).Reachable (fun both label => KeepsLayers client both.1 label) (state, serving)) :
    Unspoilt client state := by
  refine @System.Reachable.invariant _ _ _ _ _ (fun both => Unspoilt client both.1) ?_ ?_ reached
  · rintro ⟨first, serving⟩ ⟨starts, _⟩
    refine ⟨starts.genuine.sound, ⟨starts.memory, starts.file, ?_, ?_⟩, starts.unaltered⟩
    · rw [starts.genuine.idle]
      trivial
    · rw [starts.genuine.unused]
      intro reply listed
      cases listed
  · intro both label after unspoilt allowed stepped
    have ran : step client both.1 label = some after.1 := (System.withHistory_step stepped).1
    exact unspoilt.step allowed (step_moves ran)

/-- A full pull keeps what is on the disk. -/
theorem FullPull.unspoilt {pulled : PulledManifest} {bundleDir : Text} {final : State} {full : Reply}
    (run : FullPull client (KeepsLayers client) state pulled bundleDir final full) (unspoilt : Unspoilt client state) :
    Unspoilt client final ∧ Keeps state.disk final.disk := by
  refine @System.Reachable.invariant _ _ _ _ _
    (fun now => Unspoilt client now ∧ Keeps state.disk now.disk) ?_ ?_ run.reached
  · rintro first rfl
    exact ⟨⟨unspoilt.sound.forget _, unspoilt.filed.forget _, unspoilt.unaltered⟩, keeps_refl⟩
  · rintro now label after ⟨unspoilt, keeps⟩ allowed stepped
    have moves := step_moves stepped
    exact ⟨unspoilt.step allowed moves,
      fun path stream stands => moves.keeps unspoilt.sound path stream (keeps path stream stands)⟩

/-- The layer at a place of an image that matches its manifest holds the layer at that place of the manifest. -/
theorem LayersMatch.at {manifest : OciImageManifest} {image : ImageMeta}
    (matched : LayersMatch client disk manifest image)
    {j : Nat} {layerMeta : LayerMeta} {pair : OciDescriptor × Text} (there : image.layerMetas[j]? = some layerMeta)
    (listed : (uniqueLayers [] (pulledLayers client manifest image.imageConfig))[j]? = some pair) :
    UnpackedFrom disk layerMeta.storePath pair.2 := by
  have same : layerMeta.compressedDigest = pair.1.digest := by
    have stacked := congrArg (·[j]?) matched.stacked
    simp only [List.getElem?_map, there, listed, Option.map_some, Option.some.injEq] at stacked
    exact stacked
  have whole := pulledLayers_subset (uniqueLayers_subset (List.mem_of_getElem? listed))
  obtain ⟨i, place⟩ := List.getElem?_of_mem whole
  obtain ⟨layer, diffId⟩ := List.getElem?_zip_eq_some.mp place
  exact matched.unpacked i pair.1 pair.2 layer diffId layerMeta (List.mem_of_getElem? there) same

/-- Images with the same diff ids in the same order hold the same layers. -/
theorem layerContents_eq {manifest : OciImageManifest} {image fullImage : ImageMeta} (unaltered : state.altered = [])
    (unaltered' : next.altered = []) (filled : Filled state.disk image) (keeps : Keeps state.disk next.disk)
    (distinct : Distinct next.disk) (matched : LayersMatch client next.disk manifest fullImage)
    (layers : (uniqueLayers [] (pulledLayers client manifest fullImage.imageConfig)).map Prod.snd =
      image.layerMetas.map LayerMeta.uncompressedDigest) : layerContents state image = layerContents next fullImage := by
  have stacked := congrArg List.length matched.stacked
  have counted := congrArg List.length layers
  simp only [List.length_map] at stacked counted
  apply List.ext_getElem?
  intro j
  rw [layerContents, layerContents, List.getElem?_map, List.getElem?_map]
  cases there : image.layerMetas[j]? with
  | none =>
    have beyond := List.getElem?_eq_none_iff.mp there
    rw [List.getElem?_eq_none_iff.mpr (by omega)]
    rfl
  | some layerMeta =>
    have below := (List.getElem?_eq_some_iff.mp there).1
    obtain ⟨pair, listed⟩ : ∃ pair,
      (uniqueLayers [] (pulledLayers client manifest fullImage.imageConfig))[j]? = some pair :=
      ⟨_, List.getElem?_eq_getElem (by omega)⟩
    obtain ⟨fullMeta, fullThere⟩ : ∃ fullMeta, fullImage.layerMetas[j]? = some fullMeta :=
      ⟨_, List.getElem?_eq_getElem (by omega)⟩
    have digest := congrArg (·[j]?) layers
    simp only [List.getElem?_map, there, listed, Option.map_some, Option.some.injEq] at digest
    obtain ⟨stream, stands, hasDigest⟩ := filled layerMeta (List.mem_of_getElem? there)
    obtain ⟨fullStream, fullStands, fullDigest⟩ := matched.at fullThere listed
    rw [digest] at fullDigest
    have same := distinct _ _ _ _ _ (keeps _ _ stands) fullStands hasDigest fullDigest
    rw [fullThere, Option.map_some, Option.map_some, stands, fullStands, same, unaltered, unaltered']
    rfl

/-- What the database answers. -/
theorem pullImage_hit {store : MetaStore} {request : PullRequest} {answer : CallAnswer} {auth : RegistryAuth}
    {pulled : PulledManifest} {image : ImageMeta} (got : client.pullManifest request answer = .ok (auth, pulled))
    (hit : store.imageDb.lookup pulled.imageManifest.config.digest = some image) :
    client.pullImage store request answer = .inl ⟨request, some pulled, none, true, some image,
      client.cachedBundle pulled.imageManifest image answer.bundle⟩ := by
  unfold ImageClient.pullImage
  rw [got]
  dsimp only
  rw [hit]

/-- The bundle of an image of Linux is made if the host lets it. -/
theorem cachedBundle_ok {manifest : OciImageManifest} {image : ImageMeta} {answer : BundleAnswer}
    (linux : image.imageConfig.os = .linux) (mounts : answer.mount = .ok ()) (writes : answer.runtimeConfig = .ok ()) :
    client.cachedBundle manifest image answer = .ok image.id := by
  have plain : ¬ image.imageConfig.os ≠ .linux := not_not.mpr linux
  unfold ImageClient.cachedBundle
  split
  · rw [createNydusBundle, if_neg plain, mounts, writes]
    rfl
  · rw [createBundle, mounts, if_neg plain, writes]
    rfl

/-- In every run, over calls, restarts and every order of the layers of a call, in which records and repetitions
agree with their diff ids and the unpacking of a layer changes no other one: a call that the image database answers
gives what a full pull would give, if the image is what the manifest describes and, where it is a nydus image, served
in the bundle. -/
theorem cached_pull_as_full
    (reached : (servingSystem client).Reachable (fun both label => KeepsLayers client both.1 label) (state, serving))
    {request : PullRequest} {answer : CallAnswer} {auth : RegistryAuth} {pulled : PulledManifest} {image : ImageMeta}
    (got : client.pullManifest request answer = .ok (auth, pulled))
    (hit : state.metaStore.imageDb.lookup pulled.imageManifest.config.digest = some image)
    (repeatable : Repeatable client serving request.bundleDir pulled image)
    {final : State} {full : Reply}
    (run : FullPull client (KeepsLayers client) state pulled request.bundleDir final full)
    (distinct : Distinct final.disk)
    (host : HostAnswers client serving pulled.imageManifest request.bundleDir answer.bundle) :
    AsFull client state serving request answer pulled image final full := by
  have unspoilt := reached_unspoilt reached
  obtain ⟨⟨fullSound, fullFiled, fullUnaltered⟩, keeps⟩ := run.unspoilt unspoilt
  obtain ⟨imageId, succeeded⟩ := run.succeeded
  obtain ⟨other, fullImage, manifest, made, own, linux, rfl⟩ :=
    fullFiled.replies full run.replied run.uncached imageId succeeded
  obtain rfl : other = pulled := Option.some.inj (manifest.symm.trans run.manifest)
  obtain ⟨found, described, foundImage, matched, ofManifest⟩ := fullSound.replies full run.replied _ succeeded
  obtain rfl : found = fullImage := Option.some.inj (foundImage.symm.trans made)
  obtain ⟨same, sameManifest, rfl⟩ := ofManifest run.uncached
  obtain rfl : same = other := Option.some.inj (sameManifest.symm.trans run.manifest)
  have config : image.imageConfig = found.imageConfig := Except.ok.inj (repeatable.config.symm.trans own.config)
  obtain ⟨named, filled⟩ := unspoilt.filed.memory _ image hit
  have layers := repeatable.layers
  rw [config] at layers
  have contents := layerContents_eq unspoilt.unaltered fullUnaltered filled keeps distinct matched layers
  constructor
  · have mounts := host.mount fun nydus => ⟨image, repeatable.serving nydus⟩
    have answered : client.cachedBundle same.imageManifest image answer.bundle = full.result := by
      rw [succeeded, own.id, ← named]
      exact cachedBundle_ok (config ▸ linux) mounts host.runtimeConfig
    rw [pullImage_hit got hit, answered]
  · refine ⟨found, made, ?_, fun oci => by rw [config]⟩
    rw [cachedRootfs]
    split
    · rename_i nydus
      rw [repeatable.serving nydus, Option.bind_some]
      show (if request.bundleDir = request.bundleDir then some (layerContents state image) else none) = _
      rw [if_pos rfl, contents]
    · rw [contents]

end Runs

section Examples

/-- The test of a step that is no restart: the record that it finds has the diff id of its layer. -/
def recordsAgree (state : State) (label : Label) : Bool :=
  (match label.looks, state.phase with
    | some i, .pulling pull _ => pull.layers[i]?.all fun pair =>
      (state.metaStore.layerDb.lookup pair.1.digest).all fun layerMeta => layerMeta.uncompressedDigest == pair.2
    | _, _ => true) && decide (state.layersIndex + 1 < usizeBound) && !(label matches .restart)

theorem pullManifest_ok {request : PullRequest} {answer : CallAnswer} {auth : RegistryAuth} {pulled : PulledManifest}
    (got : client.pullManifest request answer = .ok (auth, pulled)) : answer.manifest = .ok pulled := by
  unfold ImageClient.pullManifest at got
  obtain ⟨_, _, got⟩ := bind_ok.mp got
  obtain ⟨_, _, got⟩ := bind_ok.mp got
  obtain ⟨_, _, got⟩ := bind_ok.mp got
  obtain ⟨found, given, got⟩ := bind_ok.mp got
  split at got
  · cases got
  · cases got
    exact given

/-- With one layer there is nothing to repeat. -/
theorem repeatsAgree_single {manifest : OciImageManifest} {config : ImageConfiguration} {layer : OciDescriptor}
    (single : manifest.layers = [layer]) : RepeatsAgree client manifest config := by
  intro one pulled other listed _
  have whole := pulledLayers_subset pulled
  rw [single] at whole listed
  cases shape : config.diffIds with
  | nil =>
    rw [shape] at whole
    cases whole
  | cons diffId rest =>
    rw [shape, List.zip_cons_cons, List.zip_nil_left, List.mem_singleton] at whole listed
    rw [whole, listed]

theorem keepsLayers_of_recordsAgree (inside : ∀ i path op, label ≠ .alterLayer i path op)
    (single : ∀ request answer pulled, label = .call request answer → answer.manifest = .ok pulled →
      ∃ layer, pulled.imageManifest.layers = [layer])
    (passed : recordsAgree state label = true) : KeepsLayers client state label := by
  simp only [recordsAgree, Bool.and_eq_true, decide_eq_true_eq, Bool.not_eq_true'] at passed
  obtain ⟨⟨agree, left⟩, going⟩ := passed
  refine ⟨⟨?_, ?_, fun _ _ => left, ?_⟩, inside⟩
  · rintro request answer auth pulled config rfl got _ _
    obtain ⟨layer, one⟩ := single request answer pulled rfl (pullManifest_ok got)
    exact repeatsAgree_single one
  · intro i pull tasks layer diffId layerMeta looks phase listed found
    rw [looks, phase] at agree
    simpa [listed, found] using agree
  · rintro rfl
    cases going

/-- All that is on the disk is one stream. -/
theorem distinct_of_single {stream : List UInt8}
    (single : disk.entries.all fun entry => entry.2 == .unpacked stream) : Distinct disk := by
  have only {path : Text} {other : List UInt8} (stands : disk.lookup path = some (.unpacked other)) :
      other = stream := by
    have listed := AList.mem_lookup_iff.mp (Option.mem_def.mpr stands)
    have same := List.all_eq_true.mp single _ listed
    simpa using same
  intro path path' one other diffId stands stands' _ _
  rw [only stands, only stands']

theorem fresh_stocked (client : ImageClient) : StartsStocked client freshState := by
  refine ⟨fresh_genuine client, Stocked.empty _, ?_, rfl⟩
  intro store saved
  cases saved

/-- A full pull whose one layer the database has. -/
def pullAgain (request : PullRequest) (pulled : PulledManifest) : List Label :=
  [.call request (exampleAnswer pulled), .startLayer 0, .openLayer 0 (.ok ()), .collect, .bundle orderlyBundle,
    .createFile (.ok ()), .writeFile (.ok ())]

/-- What is looked at of a run, and of a full pull behind it. -/
structure Seen where
  image : Option ImageMeta
  servedIn : Option Text
  single : Bool
  bundleDir : Option Text
  manifest : Option PulledManifest
  uncached : Option Bool
  result : Option Text
deriving DecidableEq

def seen (id : Text) (both : State × Serving) (final : State) : Seen where
  image := both.1.metaStore.imageDb.lookup id
  servedIn := both.2.map Prod.fst
  single := final.disk.entries.all fun entry => entry.2 == .unpacked []
  bundleDir := final.replies.head?.map fun reply => reply.request.bundleDir
  manifest := final.replies.head?.bind Reply.manifest
  uncached := final.replies.head?.map fun reply => !reply.cached
  result := final.replies.head?.bind fun reply => reply.result.toOption

/-- What is seen of a full pull that succeeds. -/
theorem fullPull_of_seen {guard : State → Label → Prop} {both : State × Serving} {pulled : PulledManifest}
    {bundleDir : Text} {image : Option ImageMeta} {servedIn : Option Text} {final : State}
    (reached : (pullSystem client (· = both.1.forget pulled.imageManifest.config.digest)).Reachable guard final)
    (came : seen pulled.imageManifest.config.digest both final =
      ⟨image, servedIn, true, some bundleDir, some pulled, some true, some pulled.imageManifest.config.digest⟩) :
    both.1.metaStore.imageDb.lookup pulled.imageManifest.config.digest = image ∧ both.2.map Prod.fst = servedIn ∧
      Distinct final.disk ∧ ∃ full, FullPull client guard both.1 pulled bundleDir final full := by
  simp only [seen, Seen.mk.injEq] at came
  obtain ⟨looked, served_, single, dir, manifest, uncached, result⟩ := came
  cases first : final.replies.head? with
  | none =>
    rw [first] at dir
    cases dir
  | some full =>
    rw [first] at dir manifest uncached result
    have succeeded := eq_ok_of_toOption result
    exact ⟨looked, served_, distinct_of_single single, full, reached, List.mem_of_head? first, Option.some.inj dir,
      manifest, by simpa using uncached, _, succeeded⟩

/-- `cached_pull_as_full` for an image of one layer that is pulled twice. -/
theorem one_layer_again :
    let client := exampleImageClient none
    let request := exampleRequest (tagged "docker.io" "example/x" "1")
    let pulled := exampleManifest zeroDigest emptyDigest
    ∃ state serving final full,
      (servingSystem client).Reachable (fun both label => KeepsLayers client both.1 label) (state, serving) ∧
      AsFull client state serving request (exampleAnswer pulled) pulled pulledImage final full := by
  intro client request pulled
  have done : (((servingSystem client).execIf (fun both label => recordsAgree both.1 label) (freshState, none)
      (examplePull (tagged "docker.io" "example/x" "1") pulled)).bind fun both =>
        ((pullSystem client (· = both.1.forget zeroDigest)).execIf recordsAgree (both.1.forget zeroDigest)
          (pullAgain request pulled)).map (seen zeroDigest both)) =
      some ⟨some pulledImage, none, true, some "/run/bundle".toList, some pulled, some true, some zeroDigest⟩ := by
    decide +kernel
  obtain ⟨⟨state, serving⟩, ran, again⟩ := Option.bind_eq_some_iff.mp done
  obtain ⟨final, ranAgain, came⟩ := Option.map_eq_some_iff.mp again
  have single : ∀ label ∈ examplePull (tagged "docker.io" "example/x" "1") pulled ++ pullAgain request pulled,
      ∀ request answer pulled, label = .call request answer → answer.manifest = .ok pulled →
        ∃ layer, pulled.imageManifest.layers = [layer] := by
    rintro label listed other answer manifest rfl given
    have either : (other = exampleRequest (tagged "docker.io" "example/x" "1") ∧ answer = exampleAnswer pulled) ∨
        other = request ∧ answer = exampleAnswer pulled := by
      simpa [examplePull, pullAgain] using listed
    obtain rfl : answer = exampleAnswer pulled := either.elim And.right And.right
    cases given
    exact ⟨_, rfl⟩
  have inside : ∀ label ∈ examplePull (tagged "docker.io" "example/x" "1") pulled ++ pullAgain request pulled,
      ∀ i path op, label ≠ .alterLayer i path op := by
    simp [examplePull, pullAgain]
  have begins : (servingSystem client).start (freshState, none) := ⟨fresh_stocked client, rfl⟩
  have reached : (servingSystem client).Reachable (fun both label => KeepsLayers client both.1 label) (state, serving) :=
    (System.Reachable.start begins).execIf
      (fun label listed both passed => keepsLayers_of_recordsAgree (inside label (List.mem_append_left _ listed))
        (single label (List.mem_append_left _ listed)) passed) ran
  have reachedAgain : (pullSystem client (· = state.forget zeroDigest)).Reachable (KeepsLayers client) final :=
    (System.Reachable.start rfl).execIf
      (fun label listed both passed => keepsLayers_of_recordsAgree (inside label (List.mem_append_right _ listed))
        (single label (List.mem_append_right _ listed)) passed) ranAgain
  obtain ⟨hit, _, distinct, full, run⟩ :=
    @fullPull_of_seen client (KeepsLayers client) (state, serving) pulled _ _ _ final reachedAgain came
  have plain : client.isNydusImage pulled.imageManifest = false := rfl
  refine ⟨state, serving, final, full, reached,
    cached_pull_as_full reached rfl hit ⟨rfl, by decide, ?_⟩ run distinct
    ⟨fun _ => rfl, rfl⟩⟩
  rw [plain]
  exact fun impossible => by cases impossible

/-- The client with nydus images. -/
def nydusClient : ImageClient := { exampleImageClient none with nydus := true }

/-- A nydus image whose bootstrap is empty. -/
def nydusManifest : PulledManifest where
  imageManifest :=
    { config := ⟨"application/vnd.oci.image.config.v1+json".toList, zeroDigest, 0, []⟩
      layers := [⟨imageLayerMediaType, emptyDigest, 0, [(nydusMetaLayer, "true".toList)]⟩] }
  imageDigest := zeroDigest
  imageConfig := exampleConfig emptyDigest

def otherBundle : PullRequest := ⟨(tagged "docker.io" "example/x" "1").text, "/run/other".toList, none, none⟩

/-- In a bundle where no service was started, the lower directory of the mount is not there. -/
def unserved : CallAnswer :=
  { exampleAnswer nydusManifest with bundle := ⟨.ok (), .error "ENOENT: No such file or directory", .ok ()⟩ }

/-- A nydus image is pulled into one bundle. The database then answers for another bundle, without the service, and
the mount fails, where a full pull succeeds. -/
theorem nydus_bundle_unserved :
    ∃ state serving final full,
      (servingSystem nydusClient).Reachable System.Free (state, serving) ∧
      FullPull nydusClient System.Free state nydusManifest otherBundle.bundleDir final full ∧ Distinct final.disk ∧
      ∃ auth image, nydusClient.pullManifest otherBundle unserved = .ok (auth, nydusManifest) ∧
        state.metaStore.imageDb.lookup zeroDigest = some image ∧
        HostAnswers nydusClient serving nydusManifest.imageManifest otherBundle.bundleDir unserved.bundle ∧
        ¬ AsFull nydusClient state serving otherBundle unserved nydusManifest image final full := by
  have done : (((servingSystem nydusClient).exec (freshState, none)
      [.call (exampleRequest (tagged "docker.io" "example/x" "1")) (exampleAnswer nydusManifest), .startLayer 0,
        .openLayer 0 (.ok ()), .handleLayer 0, .createLayer 0, .finishLayer 0 emptyDelivery true, .collect,
        .bundle orderlyBundle]).bind fun both =>
        ((pullSystem nydusClient (· = both.1.forget zeroDigest)).exec (both.1.forget zeroDigest)
          [.call otherBundle (exampleAnswer nydusManifest), .startLayer 0, .openLayer 0 (.ok ()), .collect,
            .bundle orderlyBundle]).map (seen zeroDigest both)) =
      some ⟨some pulledImage, some "/run/bundle".toList, true, some "/run/other".toList, some nydusManifest, some true,
        some zeroDigest⟩ := by
    decide +kernel
  obtain ⟨⟨state, serving⟩, ran, again⟩ := Option.bind_eq_some_iff.mp done
  obtain ⟨final, ranAgain, came⟩ := Option.map_eq_some_iff.mp again
  have begins : (servingSystem nydusClient).start (freshState, none) := ⟨fresh_stocked nydusClient, rfl⟩
  have reached := System.reachable_of_exec begins (fun _ _ _ => trivial) ran
  have reachedAgain := @System.reachable_of_exec _ _ (pullSystem nydusClient (· = state.forget zeroDigest))
    System.Free _ _ _ rfl (fun _ _ _ => trivial) ranAgain
  obtain ⟨hit, servedIn, distinct, full, run⟩ :=
    @fullPull_of_seen nydusClient System.Free (state, serving) nydusManifest _ _ _ final reachedAgain came
  refine ⟨state, serving, final, full, reached, run, distinct, .anonymous, pulledImage, rfl, hit, ⟨?_, rfl⟩, ?_⟩
  · intro served_
    obtain ⟨image, same⟩ := served_ rfl
    rw [same] at servedIn
    have apart : otherBundle.bundleDir ≠ "/run/bundle".toList := by decide
    exact absurd (Option.some.inj servedIn) apart
  · intro same
    obtain ⟨imageId, succeeded⟩ := run.succeeded
    have answered := same.result
    rw [pullImage_hit rfl hit, succeeded] at answered
    cases congrArg Reply.result (Sum.inl.inj answered)

end Examples

end GuestComponents.Image
