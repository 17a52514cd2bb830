import GuestComponents.Image.Client

/-! Whether the layers that a successful call mounts are those of the image's
configuration. A layer that is pulled is checked against its diff id; a layer that the
layer database has, and one that repeats an earlier layer's digest, is taken by its
compressed digest alone (`mounted_layers_match`, `layer_of_another_image`). -/
namespace GuestComponents.Image
open Lib Lib.Text

variable {client : ImageClient} {state next : State} {label : Label} {disk disk' : Disk}

/-- The directory was unpacked from a stream with this uncompressed digest. -/
def UnpackedFrom (disk : Disk) (storePath diffId : Text) : Prop :=
  ∃ stream, disk.lookup storePath = some (.unpacked stream) ∧ HasDiffId diffId stream

/-- The layers of an image that are pulled, with their diff ids: of a nydus image only the
bootstrap, which is the last. -/
def pulledLayers (client : ImageClient) (manifest : OciImageManifest) (config : ImageConfiguration) :
    List (OciDescriptor × Text) :=
  let layers := manifest.layers.zip config.diffIds
  if client.isNydusImage manifest then layers.getLast?.toList else layers

/-- Layers with one compressed digest have one diff id, as far as they are pulled. -/
def RepeatsAgree (client : ImageClient) (manifest : OciImageManifest) (config : ImageConfiguration) : Prop :=
  ∀ one ∈ pulledLayers client manifest config, ∀ other ∈ manifest.layers.zip config.diffIds,
    one.1.digest = other.1.digest → one.2 = other.2

/-- What is mounted of an image is the image that its configuration describes: a directory
for each digest of the pulled layers, in their order, and unpacked for every layer of the
manifest with that digest from a stream with that layer's diff id. -/
structure LayersMatch (client : ImageClient) (disk : Disk) (manifest : OciImageManifest)
    (image : ImageMeta) : Prop where
  counted : manifest.layers.length = image.imageConfig.diffIds.length
  stacked : image.layerMetas.map LayerMeta.compressedDigest =
    (uniqueLayers [] (pulledLayers client manifest image.imageConfig)).map fun pair => pair.1.digest
  unpacked : ∀ (i : Nat) (layer : OciDescriptor) (diffId : Text), manifest.layers[i]? = some layer →
    image.imageConfig.diffIds[i]? = some diffId → ∀ layerMeta ∈ image.layerMetas,
      layerMeta.compressedDigest = layer.digest →
      UnpackedFrom disk layerMeta.storePath diffId

/-- A meta store that says of its directories what they were unpacked from. -/
structure Genuine (client : ImageClient) (disk : Disk) (store : MetaStore) : Prop where
  layers : ∀ digest layerMeta, store.layerDb.lookup digest = some layerMeta →
    layerMeta.compressedDigest = digest ∧ UnpackedFrom disk layerMeta.storePath layerMeta.uncompressedDigest
  images : ∀ id image, store.imageDb.lookup id = some image →
    ∃ manifest, LayersMatch client disk manifest image

/-- The condition on each step: repeated digests of a manifest that is about to be pulled
agree, a record that is found in the layer database has the diff id of the layer it is
found for, and the counter of layer directories does not come to its end. -/
def DigestsAgree (client : ImageClient) (state : State) (label : Label) : Prop :=
  (∀ request answer auth pulled config, label = .call request answer →
    client.pullManifest request answer = .ok (auth, pulled) →
    state.metaStore.imageDb.lookup pulled.imageManifest.config.digest = none →
    client.fromReader pulled.imageConfig = .ok config → RepeatsAgree client pulled.imageManifest config) ∧
  (∀ i pull tasks layer diffId layerMeta, label.looks = some i → state.phase = .pulling pull tasks →
    pull.layers[i]? = some (layer, diffId) → state.metaStore.layerDb.lookup layer.digest = some layerMeta →
    layerMeta.uncompressedDigest = diffId) ∧
  (∀ i, label = .handleLayer i → state.layersIndex + 1 < usizeBound) ∧
  (label = .restart → IndexLeft state.disk client.dataDir)

/-- A client that has just been made over a genuine meta store. -/
structure StartsGenuine (client : ImageClient) (state : State) : Prop where
  idle : state.phase = .idle
  unused : state.replies = []
  memory : Genuine client state.disk state.metaStore
  file : ∀ store, state.metaFile = some store → Genuine client state.disk store
  index : state.layersIndex = getLayerIndex state.disk client.dataDir
  left : IndexLeft state.disk client.dataDir

section Lasting

/-- Unpacked directories stay as they are. -/
def Keeps (disk disk' : Disk) : Prop :=
  ∀ path stream, disk.lookup path = some (.unpacked stream) → disk'.lookup path = some (.unpacked stream)

/-- A path with no unpacked layer may be written. -/
theorem keeps_insert {destination : Text} {content : Content}
    (vacant : ∀ stream, disk.lookup destination ≠ some (.unpacked stream)) :
    Keeps disk (disk.insert destination content) := by
  intro path stream stands
  have apart : path ≠ destination := by
    rintro rfl
    exact vacant stream stands
  rw [AList.lookup_insert_ne apart]
  exact stands

theorem keeps_refl : Keeps disk disk := fun _ _ stands => stands

/-- A directory that is made where nothing stands changes no unpacked layer. -/
theorem keeps_runOn (disk : Disk) (path : Text) :
    let made := if (disk.lookup path).isSome then disk else disk.insert path .partially
    Keeps disk made ∧ Keeps made disk := by
  intro made
  unfold made
  split
  · exact ⟨keeps_refl, keeps_refl⟩
  · rename_i vacant
    rw [Option.not_isSome_iff_eq_none] at vacant
    refine ⟨keeps_insert fun stream => by simp [vacant], ?_⟩
    intro other stream stands
    by_cases same : other = path
    · subst same
      rw [AList.lookup_insert] at stands
      cases stands
    · rwa [AList.lookup_insert_ne same] at stands

theorem UnpackedFrom.lasts {storePath diffId : Text} (unpacked : UnpackedFrom disk storePath diffId)
    (keeps : Keeps disk disk') : UnpackedFrom disk' storePath diffId := by
  obtain ⟨stream, stands, digest⟩ := unpacked
  exact ⟨stream, keeps _ _ stands, digest⟩

theorem LayersMatch.lasts {manifest : OciImageManifest} {image : ImageMeta}
    (matched : LayersMatch client disk manifest image) (keeps : Keeps disk disk') :
    LayersMatch client disk' manifest image :=
  ⟨matched.counted, matched.stacked, fun i layer diffId there id layerMeta listed same =>
    (matched.unpacked i layer diffId there id layerMeta listed same).lasts keeps⟩

theorem Genuine.lasts {store : MetaStore} (genuine : Genuine client disk store) (keeps : Keeps disk disk') :
    Genuine client disk' store := by
  constructor
  · intro digest layerMeta found
    obtain ⟨named, unpacked⟩ := genuine.layers digest layerMeta found
    exact ⟨named, unpacked.lasts keeps⟩
  · intro id image found
    obtain ⟨manifest, matched⟩ := genuine.images id image found
    exact ⟨manifest, matched.lasts keeps⟩

theorem Genuine.empty (client : ImageClient) (disk : Disk) : Genuine client disk .empty := by
  constructor
  · intro digest layerMeta found
    cases found
  · intro id image found
    cases found

end Lasting

section Layers

/-- The layer that is kept for a digest is one of the layers. -/
theorem uniqueLayers_subset {digests : List Text} {pairs : List (OciDescriptor × Text)}
    {pair : OciDescriptor × Text} (kept : pair ∈ uniqueLayers digests pairs) : pair ∈ pairs := by
  induction pairs generalizing digests with
  | nil => cases kept
  | cons first rest ih =>
    unfold uniqueLayers at kept
    split at kept
    · exact List.mem_cons_of_mem _ (ih kept)
    · rcases List.mem_cons.mp kept with rfl | later
      · exact List.mem_cons_self
      · exact List.mem_cons_of_mem _ (ih later)

theorem pulledLayers_subset {manifest : OciImageManifest} {config : ImageConfiguration}
    {pair : OciDescriptor × Text} (pulled : pair ∈ pulledLayers client manifest config) :
    pair ∈ manifest.layers.zip config.diffIds := by
  unfold pulledLayers at pulled
  dsimp only at pulled
  split at pulled
  · exact List.mem_of_getLast? (Option.mem_toList.mp pulled)
  · exact pulled

theorem createImageMeta_ok {id imageUrl : Text} {pulled : PulledManifest} {image : ImageMeta}
    {layers : List (OciDescriptor × Text)}
    (made : client.createImageMeta id imageUrl pulled = .ok (image, layers)) :
    client.fromReader pulled.imageConfig = .ok image.imageConfig ∧
      pulled.imageManifest.layers.length = image.imageConfig.diffIds.length ∧
      layers = uniqueLayers [] (pulled.imageManifest.layers.zip image.imageConfig.diffIds) := by
  unfold ImageClient.createImageMeta at made
  obtain ⟨config, read, made⟩ := bind_ok.mp made
  split at made
  · cases made
  · rename_i counted
    cases made
    exact ⟨read, (not_not.mp counted).symm, rfl⟩

theorem zip_getLast? {α β : Type} {list : List α} {list' : List β} {last : α} {last' : β}
    (same : list.length = list'.length) (ends : list.getLast? = some last) (ends' : list'.getLast? = some last') :
    (list.zip list').getLast? = some (last, last') := by
  rw [List.getLast?_eq_getElem?] at *
  rw [List.getElem?_zip_eq_some, List.length_zip, ← same, Nat.min_self]
  exact ⟨ends, by rw [same]; exact ends'⟩

/-- The layers that a call goes on to pull are those of the manifest, less repetitions. -/
theorem acceptImage_ok {request : PullRequest} {pulled : PulledManifest} {check : Option SignatureCheck}
    {image : ImageMeta} {layers : List (OciDescriptor × Text)}
    (accepted : client.acceptImage request pulled check = .ok (image, layers)) :
    client.fromReader pulled.imageConfig = .ok image.imageConfig ∧
      pulled.imageManifest.layers.length = image.imageConfig.diffIds.length ∧
      layers = uniqueLayers [] (pulledLayers client pulled.imageManifest image.imageConfig) := by
  unfold ImageClient.acceptImage at accepted
  obtain ⟨_, _, accepted⟩ := bind_ok.mp accepted
  obtain ⟨⟨made, unique⟩, created, accepted⟩ := bind_ok.mp accepted
  obtain ⟨read, counted, kept⟩ := createImageMeta_ok created
  split at accepted
  · rename_i nydus
    split at accepted
    · rename_i bootstrapId bootstrap lastId found
      cases accepted
      have last := (Option.filter_eq_some_iff.mp found).1
      have pulledLast :
          pulledLayers client pulled.imageManifest made.imageConfig = [(bootstrap, bootstrapId)] := by
        simp [pulledLayers, nydus, zip_getLast? counted last lastId]
      exact ⟨read, counted, by simp [pulledLast, uniqueLayers]⟩
    · cases accepted
    · cases accepted
  · rename_i plain
    cases accepted
    exact ⟨read, counted, by simpa [pulledLayers, plain] using kept⟩
end Layers

section Tasks

/-- The record of a layer that was pulled or found for this descriptor and diff id. -/
structure Recorded (disk : Disk) (layer : OciDescriptor) (diffId : Text) (layerMeta : LayerMeta) : Prop where
  named : layerMeta.compressedDigest = layer.digest
  digest : layerMeta.uncompressedDigest = diffId
  unpacked : UnpackedFrom disk layerMeta.storePath diffId

/-- The layers of a call, while they are pulled: those that are done are recorded, and
those that are being unpacked have directories of their own, which hold no layer yet. -/
structure Pulling (client : ImageClient) (disk : Disk) (index : Nat) (pull : Pull) (tasks : List Task) :
    Prop where
  counted : tasks.length = pull.layers.length
  done : ∀ (i : Nat) (layer : OciDescriptor) (diffId : Text) (layerMeta : LayerMeta),
    pull.layers[i]? = some (layer, diffId) → tasks[i]? = some (.done layerMeta) →
    Recorded disk layer diffId layerMeta
  allocated : ∀ (i attempt : Nat) (destination : Text), tasks[i]? = some (.unpacking attempt destination) →
    ∃ n < index, destination = layerPath client.dataDir n
  vacant : ∀ (i attempt : Nat) (destination : Text), tasks[i]? = some (.unpacking attempt destination) →
    ∀ stream, disk.lookup destination ≠ some (.unpacked stream)
  apart : ∀ (i j attempt attempt' : Nat) (destination : Text),
    tasks[i]? = some (.unpacking attempt destination) →
    tasks[j]? = some (.unpacking attempt' destination) → i = j

/-- What the layers of a call have to do with its manifest. -/
structure Accepted (client : ImageClient) (pull : Pull) : Prop where
  counted : pull.manifest.imageManifest.layers.length = pull.image.imageConfig.diffIds.length
  layers : pull.layers =
    uniqueLayers [] (pulledLayers client pull.manifest.imageManifest pull.image.imageConfig)
  repeats : RepeatsAgree client pull.manifest.imageManifest pull.image.imageConfig

theorem Accepted.subset {pull : Pull} (accepted : Accepted client pull) :
    ∀ pair ∈ pull.layers, pair ∈ pulledLayers client pull.manifest.imageManifest pull.image.imageConfig := by
  intro pair member
  rw [accepted.layers] at member
  exact uniqueLayers_subset member

variable {index i attempt : Nat} {pull : Pull} {tasks : List Task} {task : Task} {destination : Text}

theorem getElem?_set_some {j : Nat} {other : Task} (there : (tasks.set i task)[j]? = some other) :
    j = i ∧ other = task ∨ j ≠ i ∧ tasks[j]? = some other := by
  rw [List.getElem?_set] at there
  by_cases same : i = j
  · rw [if_pos same] at there
    split at there
    · cases there
      exact .inl ⟨same.symm, rfl⟩
    · cases there
  · rw [if_neg same] at there
    exact .inr ⟨Ne.symm same, there⟩

/-- A call's layers are all to be started. -/
theorem eq_queued {layers : List (OciDescriptor × Text)}
    (there : (layers.map fun _ => Task.queued)[i]? = some task) : task = .queued := by
  rw [List.getElem?_map] at there
  obtain ⟨_, _, same⟩ := Option.map_eq_some_iff.mp there
  exact same.symm

namespace Pulling

theorem queued (client : ImageClient) (disk : Disk) (index : Nat) (pull : Pull) :
    Pulling client disk index pull (pull.layers.map fun _ => .queued) := by
  constructor
  · simp
  · intro i layer diffId layerMeta _ there
    cases eq_queued there
  · intro i attempt destination there
    cases eq_queued there
  · intro i attempt destination there
    cases eq_queued there
  · intro i j attempt attempt' destination there
    cases eq_queued there

/-- A layer goes on, or ends with a record, without a new directory. -/
theorem set_still (pulling : Pulling client disk index pull tasks)
    (still : ∀ attempt destination, task ≠ .unpacking attempt destination)
    (recorded : ∀ layer diffId layerMeta, pull.layers[i]? = some (layer, diffId) → task = .done layerMeta →
      Recorded disk layer diffId layerMeta) :
    Pulling client disk index pull (tasks.set i task) := by
  constructor
  · simpa using pulling.counted
  · intro j layer diffId layerMeta listed there
    rcases getElem?_set_some there with ⟨rfl, same⟩ | ⟨_, there⟩
    · exact recorded layer diffId layerMeta listed same.symm
    · exact pulling.done j layer diffId layerMeta listed there
  · intro j attempt destination there
    rcases getElem?_set_some there with ⟨_, same⟩ | ⟨_, there⟩
    · exact absurd same.symm (still attempt destination)
    · exact pulling.allocated j attempt destination there
  · intro j attempt destination there
    rcases getElem?_set_some there with ⟨_, same⟩ | ⟨_, there⟩
    · exact absurd same.symm (still attempt destination)
    · exact pulling.vacant j attempt destination there
  · intro j k attempt attempt' destination there there'
    rcases getElem?_set_some there with ⟨_, same⟩ | ⟨_, there⟩
    · exact absurd same.symm (still attempt destination)
    · rcases getElem?_set_some there' with ⟨_, same⟩ | ⟨_, there'⟩
      · exact absurd same.symm (still attempt' destination)
      · exact pulling.apart j k attempt attempt' destination there there'

theorem set_done (pulling : Pulling client disk index pull tasks) {layer : OciDescriptor} {diffId : Text}
    {layerMeta : LayerMeta} (listed : pull.layers[i]? = some (layer, diffId))
    (recorded : Recorded disk layer diffId layerMeta) :
    Pulling client disk index pull (tasks.set i (.done layerMeta)) := by
  apply pulling.set_still
  · intro attempt destination same
    cases same
  · intro layer' diffId' layerMeta' listed' same
    rw [listed] at listed'
    cases listed'
    cases same
    exact recorded

/-- A layer gets the next directory. -/
theorem set_unpacking (pulling : Pulling client disk index pull tasks)
    (fresh : ∀ stream, disk.lookup (layerPath client.dataDir index) ≠ some (.unpacked stream)) :
    Pulling client disk (index + 1) pull
      (tasks.set i (.unpacking attempt (layerPath client.dataDir index))) := by
  have unused : ∀ (j attempt' : Nat),
      tasks[j]? ≠ some (.unpacking attempt' (layerPath client.dataDir index)) := by
    intro j attempt' there
    obtain ⟨n, below, same⟩ := pulling.allocated j attempt' _ there
    have same := layerPath_injective same
    omega
  constructor
  · simpa using pulling.counted
  · intro j layer diffId layerMeta listed there
    rcases getElem?_set_some there with ⟨_, same⟩ | ⟨_, there⟩
    · cases same
    · exact pulling.done j layer diffId layerMeta listed there
  · intro j attempt' destination there
    rcases getElem?_set_some there with ⟨_, same⟩ | ⟨_, there⟩
    · cases same
      exact ⟨index, Nat.lt_succ_self index, rfl⟩
    · obtain ⟨n, below, same⟩ := pulling.allocated j attempt' destination there
      exact ⟨n, Nat.lt_succ_of_lt below, same⟩
  · intro j attempt' destination there
    rcases getElem?_set_some there with ⟨_, same⟩ | ⟨_, there⟩
    · cases same
      exact fresh
    · exact pulling.vacant j attempt' destination there
  · intro j k attempt' attempt'' destination there there'
    rcases getElem?_set_some there with ⟨atJ, same⟩ | ⟨_, there⟩ <;>
      rcases getElem?_set_some there' with ⟨atK, same'⟩ | ⟨_, there'⟩
    · rw [atJ, atK]
    · cases same
      exact absurd there' (unused k attempt'')
    · cases same'
      exact absurd there (unused j attempt')
    · exact pulling.apart j k attempt' attempt'' destination there there'

/-- The file system changes, but no directory of this call comes to hold a layer. -/
theorem changed (pulling : Pulling client disk index pull tasks) (keeps : Keeps disk disk')
    (vacant : ∀ (i attempt : Nat) (destination : Text), tasks[i]? = some (.unpacking attempt destination) →
      ∀ stream, disk'.lookup destination ≠ some (.unpacked stream)) :
    Pulling client disk' index pull tasks := by
  constructor
  · exact pulling.counted
  · intro j layer diffId layerMeta listed there
    obtain ⟨named, digest, unpacked⟩ := pulling.done j layer diffId layerMeta listed there
    exact ⟨named, digest, unpacked.lasts keeps⟩
  · exact pulling.allocated
  · exact vacant
  · exact pulling.apart

/-- When all layers are done there is a record for each of them, in their order. -/
theorem recorded (pulling : Pulling client disk index pull tasks) {layerMetas : List LayerMeta}
    (collected : tasks.mapM Task.result? = some layerMetas) :
    layerMetas.length = pull.layers.length ∧
      ∀ (j : Nat) (layer : OciDescriptor) (diffId : Text) (layerMeta : LayerMeta),
        pull.layers[j]? = some (layer, diffId) → layerMetas[j]? = some layerMeta →
        Recorded disk layer diffId layerMeta := by
  have results := mapM_some collected
  constructor
  · have same := congrArg List.length results
    simp only [List.length_map] at same
    rw [← same, pulling.counted]
  · intro j layer diffId layerMeta listed there
    have same := congrArg (·[j]?) results
    simp only [List.getElem?_map, there, Option.map_some] at same
    obtain ⟨task, standing, result⟩ := Option.map_eq_some_iff.mp same
    cases task with
    | done _ =>
      cases result
      exact pulling.done j layer diffId layerMeta listed standing
    | _ => cases result

/-- All layers are there: what is recorded is the image. -/
theorem complete (pulling : Pulling client disk index pull tasks) (accepted : Accepted client pull)
    {layerMetas : List LayerMeta} (collected : tasks.mapM Task.result? = some layerMetas) :
    LayersMatch client disk pull.manifest.imageManifest { pull.image with layerMetas } := by
  obtain ⟨lengths, ended⟩ := pulling.recorded collected
  constructor
  · exact accepted.counted
  · rw [← accepted.layers]
    apply List.ext_getElem?
    intro j
    simp only [List.getElem?_map]
    cases listed : pull.layers[j]? with
    | none =>
      have beyond := List.getElem?_eq_none_iff.mp listed
      rw [← lengths] at beyond
      rw [List.getElem?_eq_none_iff.mpr beyond]
      rfl
    | some pair =>
      have below := (List.getElem?_eq_some_iff.mp listed).1
      rw [← lengths] at below
      have there := List.getElem?_eq_getElem below
      rw [there]
      exact congrArg some (ended j pair.1 pair.2 _ listed there).named
  · intro i layer diffId atI idAtI layerMeta member same
    obtain ⟨j, there⟩ := List.getElem?_of_mem member
    have below : j < pull.layers.length := by
      rw [← lengths]
      exact (List.getElem?_eq_some_iff.mp there).1
    have listed := List.getElem?_eq_getElem below
    obtain ⟨named, _, unpacked⟩ := ended j _ _ layerMeta listed there
    have kept := accepted.subset _ (List.getElem_mem below)
    have whole : (layer, diffId) ∈ pull.manifest.imageManifest.layers.zip pull.image.imageConfig.diffIds :=
      List.mem_of_getElem? (List.getElem?_zip_eq_some.mpr ⟨atI, idAtI⟩)
    have agree : _ = diffId := accepted.repeats _ kept _ whole (named.symm.trans same)
    rw [← agree]
    exact unpacked

/-- An unpacked layer arrives in its directory. -/
theorem set_finished (pulling : Pulling client disk index pull tasks) {layer : OciDescriptor}
    {diffId : Text} {layerMeta : LayerMeta} {stream : List UInt8}
    (unpacks : tasks[i]? = some (.unpacking attempt destination))
    (listed : pull.layers[i]? = some (layer, diffId))
    (recorded : Recorded (disk.insert destination (.unpacked stream)) layer diffId layerMeta) :
    Pulling client (disk.insert destination (.unpacked stream)) index pull
      (tasks.set i (.done layerMeta)) := by
  -- The directory is given up first, so that no other one of the call is the one written.
  have without : Pulling client disk index pull (tasks.set i .queued) := by
    apply pulling.set_still
    · intro attempt destination same
      cases same
    · intro layer diffId layerMeta _ same
      cases same
  have changed : Pulling client (disk.insert destination (.unpacked stream)) index pull (tasks.set i .queued) := by
    apply without.changed (keeps_insert (pulling.vacant i attempt destination unpacks))
    intro j attempt' destination' there
    have apart : destination' ≠ destination := by
      rintro rfl
      rcases getElem?_set_some there with ⟨_, same⟩ | ⟨other, standing⟩
      · cases same
      · exact other (pulling.apart j i attempt' attempt destination' standing unpacks)
    rw [AList.lookup_insert_ne apart]
    exact without.vacant j attempt' destination' there
  have ended := changed.set_done listed recorded
  rw [List.set_set] at ended
  exact ended

end Pulling

end Tasks

section Runs

/-- The image that a reply has made a bundle of is mounted as its configuration says, for
the manifest it was pulled with: that of this call, unless the database had the image. -/
def MountsMatch (client : ImageClient) (disk : Disk) (reply : Reply) : Prop :=
  ∃ image manifest, reply.image = some image ∧ LayersMatch client disk manifest image ∧
    (reply.cached = false → ∃ pulled, reply.manifest = some pulled ∧ pulled.imageManifest = manifest)

/-- What holds of the call that runs. -/
def InCall (client : ImageClient) (disk : Disk) (index : Nat) : Phase → Prop
  | .idle => True
  | .pulling pull tasks => Accepted client pull ∧ Pulling client disk index pull tasks
  | .bundling pull => LayersMatch client disk pull.manifest.imageManifest pull.image
  | .saving pull _ => LayersMatch client disk pull.manifest.imageManifest pull.image
  | .writing pull _ => LayersMatch client disk pull.manifest.imageManifest pull.image

structure Sound (client : ImageClient) (state : State) : Prop where
  memory : Genuine client state.disk state.metaStore
  file : ∀ store, state.metaFile = some store → Genuine client state.disk store
  /-- The directories that are still to be given out hold no layers. -/
  fresh : ∀ n < usizeBound, state.layersIndex ≤ n →
    ∀ stream, state.disk.lookup (layerPath client.dataDir n) ≠ some (.unpacked stream)
  call : InCall client state.disk state.layersIndex state.phase
  replies : ∀ reply ∈ state.replies, ∀ imageId, reply.result = .ok imageId →
    MountsMatch client state.disk reply

theorem MountsMatch.lasts {reply : Reply} (matched : MountsMatch client disk reply) (keeps : Keeps disk disk') :
    MountsMatch client disk' reply := by
  obtain ⟨image, manifest, made, layers, own⟩ := matched
  exact ⟨image, manifest, made, layers.lasts keeps, own⟩

theorem lookup_extendLayers {store : MetaStore} {layerMetas : List LayerMeta} {digest : Text}
    {layerMeta : LayerMeta} (found : (store.extendLayers layerMetas).layerDb.lookup digest = some layerMeta) :
    (layerMeta ∈ layerMetas ∧ layerMeta.compressedDigest = digest) ∨
      store.layerDb.lookup digest = some layerMeta := by
  unfold MetaStore.extendLayers at found
  dsimp only at found
  induction layerMetas generalizing store with
  | nil => exact .inr found
  | cons first rest ih =>
    rw [List.foldl_cons] at found
    have later := @ih { store with layerDb := store.layerDb.insert first.compressedDigest first } found
    rcases later with ⟨member, named⟩ | earlier
    · exact .inl ⟨List.mem_cons_of_mem _ member, named⟩
    · by_cases same : digest = first.compressedDigest
      · subst same
        rw [AList.lookup_insert] at earlier
        cases earlier
        exact .inl ⟨List.mem_cons_self, rfl⟩
      · rw [AList.lookup_insert_ne same] at earlier
        exact .inr earlier

theorem Genuine.extendLayers {store : MetaStore} (genuine : Genuine client disk store)
    {layerMetas : List LayerMeta}
    (unpacked : ∀ layerMeta ∈ layerMetas, UnpackedFrom disk layerMeta.storePath layerMeta.uncompressedDigest) :
    Genuine client disk (store.extendLayers layerMetas) := by
  constructor
  · intro digest layerMeta found
    rcases lookup_extendLayers found with ⟨member, named⟩ | earlier
    · exact ⟨named, unpacked layerMeta member⟩
    · exact genuine.layers digest layerMeta earlier
  · exact genuine.images

theorem Genuine.insertImage {store : MetaStore} (genuine : Genuine client disk store) {image : ImageMeta}
    {manifest : OciImageManifest} (matched : LayersMatch client disk manifest image) :
    Genuine client disk (store.insertImage image) := by
  constructor
  · exact genuine.layers
  · intro id other found
    by_cases same : id = image.id
    · subst same
      rw [MetaStore.insertImage, AList.lookup_insert] at found
      cases found
      exact ⟨manifest, matched⟩
    · rw [MetaStore.insertImage, AList.lookup_insert_ne same] at found
      exact genuine.images id other found

namespace Sound

/-- The file system changes, but no directory comes to hold a layer or loses one. -/
theorem changed (sound : Sound client state) (keeps : Keeps state.disk disk')
    (adds : Keeps disk' state.disk) : Sound client { state with disk := disk' } := by
  constructor
  · exact sound.memory.lasts keeps
  · exact fun store saved => (sound.file store saved).lasts keeps
  · exact fun n fits above stream stands => sound.fresh n fits above stream (adds _ _ stands)
  · have call := sound.call
    show InCall client disk' state.layersIndex state.phase
    cases phase : state.phase with
    | idle => trivial
    | pulling pull tasks =>
      rw [phase] at call
      obtain ⟨accepted, pulling⟩ := call
      exact ⟨accepted, pulling.changed keeps fun i attempt destination there stream stands =>
        pulling.vacant i attempt destination there stream (adds _ _ stands)⟩
    | bundling pull =>
      rw [phase] at call
      exact LayersMatch.lasts call keeps
    | saving pull imageId =>
      rw [phase] at call
      exact LayersMatch.lasts call keeps
    | writing pull imageId =>
      rw [phase] at call
      exact LayersMatch.lasts call keeps
  · exact fun reply listed imageId succeeded => (sound.replies reply listed imageId succeeded).lasts keeps

/-- What runs on and what was changed elsewhere says nothing of the layers. -/
theorem aside (sound : Sound client state) (running : List Text) (altered : List (Text × Unpack.FileOp)) :
    Sound client { state with running, altered } :=
  ⟨sound.memory, sound.file, sound.fresh, sound.call, sound.replies⟩

theorem reply (sound : Sound client state) {reply : Reply}
    (matched : ∀ imageId, reply.result = .ok imageId → MountsMatch client state.disk reply) :
    Sound client (state.answer reply) := by
  constructor
  · exact sound.memory
  · exact sound.file
  · exact sound.fresh
  · trivial
  · intro other listed
    rcases List.mem_cons.mp listed with rfl | earlier
    · exact matched
    · exact sound.replies other earlier

theorem fail (sound : Sound client state) (pull : Pull) (error : String) :
    Sound client (state.fail pull error) := by
  apply sound.reply
  intro imageId succeeded
  cases succeeded

/-- The layers of the call go on. -/
theorem goOn (sound : Sound client state) {pull : Pull} {tasks : List Task} (accepted : Accepted client pull)
    (pulling : Pulling client state.disk state.layersIndex pull tasks) :
    Sound client { state with phase := .pulling pull tasks } :=
  ⟨sound.memory, sound.file, sound.fresh, ⟨accepted, pulling⟩, sound.replies⟩

theorem inPull (sound : Sound client state) {pull : Pull} {tasks : List Task}
    (phase : state.phase = .pulling pull tasks) :
    Accepted client pull ∧ Pulling client state.disk state.layersIndex pull tasks := by
  have call := sound.call
  rw [phase] at call
  exact call

/-- A layer goes on without a new directory or a record. -/
theorem set_plain (sound : Sound client state) {pull : Pull} {tasks : List Task} {task : Task}
    (phase : state.phase = .pulling pull tasks) (i : Nat)
    (still : ∀ attempt destination, task ≠ .unpacking attempt destination)
    (undone : ∀ layerMeta, task ≠ .done layerMeta) : Sound client (state.setTask pull tasks i task) := by
  obtain ⟨accepted, pulling⟩ := sound.inPull phase
  apply sound.goOn accepted
  apply pulling.set_still still
  intro layer diffId layerMeta _ same
  exact absurd same (undone layerMeta)

theorem attemptFailed (sound : Sound client state) {pull : Pull} {tasks : List Task}
    (phase : state.phase = .pulling pull tasks) (i attempt : Nat) (error : String) :
    Sound client (state.attemptFailed pull tasks i attempt error) := by
  unfold State.attemptFailed
  split
  · apply sound.set_plain phase
    · intro attempt destination same
      cases same
    · intro layerMeta same
      cases same
  · exact (sound.aside _ state.altered).fail pull error

/-- The directory of a layer that is not unpacked yet is written or goes. -/
theorem vacated (sound : Sound client state) {pull : Pull} {tasks : List Task} {i attempt : Nat}
    {destination : Text} (phase : state.phase = .pulling pull tasks)
    (unpacks : tasks[i]? = some (.unpacking attempt destination))
    (elsewhere : ∀ path, path ≠ destination → disk'.lookup path = state.disk.lookup path)
    (empty : ∀ stream, disk'.lookup destination ≠ some (.unpacked stream)) :
    Sound client { state with disk := disk' } := by
  have vacant := (sound.inPull phase).2.vacant i attempt destination unpacks
  apply sound.changed
  · intro path stream stands
    by_cases same : path = destination
    · subst same
      exact absurd stands (vacant stream)
    · rw [elsewhere path same]
      exact stands
  · intro path stream stands
    by_cases same : path = destination
    · subst same
      exact absurd stands (empty stream)
    · rw [← elsewhere path same]
      exact stands

/-- An attempt ends, with its directory or without. -/
theorem unfinished (sound : Sound client state) {pull : Pull} {tasks : List Task} {i attempt : Nat}
    {destination : Text} (phase : state.phase = .pulling pull tasks)
    (unpacks : tasks[i]? = some (.unpacking attempt destination)) (cleaned : Bool) (error : String) :
    Sound client (state.unfinished destination cleaned error) := by
  have vacant := (sound.inPull phase).2.vacant i attempt destination unpacks
  have ended : Sound client { state with disk := if cleaned then state.disk.erase destination else state.disk } := by
    cases cleaned with
    | false => exact sound
    | true =>
      apply sound.vacated phase unpacks
      · intro path apart
        exact AList.lookup_erase_ne apart
      · intro stream stands
        rw [if_pos rfl, AList.lookup_erase] at stands
        cases stands
  exact ended.aside _ state.altered

theorem collected (sound : Sound client state) {pull : Pull} {tasks : List Task} {layerMetas : List LayerMeta}
    (phase : state.phase = .pulling pull tasks) (all : tasks.mapM Task.result? = some layerMetas) :
    Sound client (state.collected pull layerMetas) := by
  obtain ⟨accepted, pulling⟩ := sound.inPull phase
  obtain ⟨lengths, ended⟩ := pulling.recorded all
  have unpacked : ∀ layerMeta ∈ layerMetas,
      UnpackedFrom state.disk layerMeta.storePath layerMeta.uncompressedDigest := by
    intro layerMeta member
    obtain ⟨j, there⟩ := List.getElem?_of_mem member
    have below : j < pull.layers.length := by
      rw [← lengths]
      exact (List.getElem?_eq_some_iff.mp there).1
    obtain ⟨_, digest, unpacked⟩ := ended j _ _ layerMeta (List.getElem?_eq_getElem below) there
    rw [digest]
    exact unpacked
  have memory := sound.memory.extendLayers unpacked
  unfold State.collected
  dsimp only
  rw [if_neg (not_not.mpr lengths.symm)]
  exact ⟨memory, sound.file, sound.fresh, pulling.complete accepted all, sound.replies⟩

theorem step (sound : Sound client state) (allowed : DigestsAgree client state label)
    (moves : Moves client state label next) : Sound client next := by
  obtain ⟨repeats, hits, counts, restarts⟩ := allowed
  cases moves with
  | @answered request answer reply idle answered =>
    apply sound.reply
    intro imageId succeeded
    rcases pullImage_inl answered with ⟨error, failed⟩ | ⟨auth, pulled, image, _, hit, rfl⟩
    · rw [failed] at succeeded
      cases succeeded
    · obtain ⟨manifest, matched⟩ := sound.memory.images _ image hit
      refine ⟨image, manifest, rfl, matched, ?_⟩
      intro uncached
      cases uncached
  | @began request answer pull idle began =>
    obtain ⟨auth, got, missed, _, _, accepted, _⟩ := pullImage_inr began
    obtain ⟨read, counted, layers⟩ := acceptImage_ok accepted
    have agree := repeats request answer auth pull.manifest pull.image.imageConfig rfl got missed read
    exact sound.goOn ⟨counted, layers, agree⟩ (Pulling.queued client state.disk state.layersIndex pull)
  | started phase =>
    apply sound.set_plain phase
    · intro attempt destination same
      cases same
    · intro layerMeta same
      cases same
  | @found i label pull tasks layer diffId layerMeta phase looks listed hit =>
    obtain ⟨accepted, pulling⟩ := sound.inPull phase
    obtain ⟨named, unpacked⟩ := sound.memory.layers layer.digest layerMeta hit
    have digest := hits i pull tasks layer diffId layerMeta looks phase listed hit
    rw [digest] at unpacked
    exact sound.goOn accepted (pulling.set_done listed ⟨named, digest, unpacked⟩)
  | opened phase =>
    apply sound.set_plain phase
    · intro attempt destination same
      cases same
    · intro layerMeta same
      cases same
  | @allocated i attempt pull tasks phase =>
    obtain ⟨accepted, pulling⟩ := sound.inPull phase
    have below := counts i rfl
    rw [Nat.mod_eq_of_lt below]
    have vacant := sound.fresh state.layersIndex (by omega) (Nat.le_refl _)
    have call : Pulling client state.disk (state.layersIndex + 1) pull
        (tasks.set i (.unpacking attempt (layerPath client.dataDir state.layersIndex))) :=
      pulling.set_unpacking vacant
    refine ⟨sound.memory, sound.file, ?_, ⟨accepted, call⟩, sound.replies⟩
    intro n fits above
    exact sound.fresh n fits (Nat.le_of_succ_le above)
  | @created i attempt pull tasks destination phase unpacks =>
    have made : Sound client { state with disk := state.disk.insert destination .partially } := by
      apply sound.vacated phase unpacks
      · intro path apart
        exact AList.lookup_insert_ne apart
      · intro stream stands
        rw [AList.lookup_insert] at stands
        cases stands
    exact made.aside state.running _
  | altered _ _ _ => exact sound.aside state.running _
  | @finished i attempt pull tasks destination delivery cleaned layer diffId layerMeta phase listed unpacks
      handled =>
    obtain ⟨accepted, pulling⟩ := sound.inPull phase
    obtain ⟨digest, named, hashed, stored⟩ := asyncHandleLayer_ok handled
    obtain ⟨m, below, place⟩ := pulling.allocated i attempt destination unpacks
    have vacant := pulling.vacant i attempt destination unpacks
    have keeps : Keeps state.disk (state.disk.insert destination (.unpacked delivery.stream)) := keeps_insert vacant
    have unpacked : UnpackedFrom (state.disk.insert destination (.unpacked delivery.stream))
        layerMeta.storePath diffId := by
      rw [stored]
      exact ⟨delivery.stream, AList.lookup_insert _, digest⟩
    have call := pulling.set_finished unpacks listed ⟨named, hashed, unpacked⟩
    refine ⟨sound.memory.lasts keeps, fun store saved => (sound.file store saved).lasts keeps, ?_,
      ⟨accepted, call⟩, fun reply listed imageId succeeded =>
        (sound.replies reply listed imageId succeeded).lasts keeps⟩
    intro n fits above
    have apart : layerPath client.dataDir n ≠ destination := by
      intro same
      have same := layerPath_injective (same.trans place)
      dsimp only at above
      omega
    rw [AList.lookup_insert_ne apart]
    exact sound.fresh n fits above
  | unopened phase => exact sound.attemptFailed phase _ _ _
  | @unfinished i attempt pull tasks destination delivery cleaned error phase unpacks =>
    exact (sound.unfinished phase unpacks cleaned error).attemptFailed phase i attempt error
  | collected phase all => exact sound.collected phase all
  | bundled phase made plain =>
    have matched := sound.call
    rw [phase] at matched
    exact ⟨sound.memory.insertImage matched, sound.file, sound.fresh, matched, sound.replies⟩
  | @nydusBundled answer pull imageId phase made nydus =>
    have matched := sound.call
    rw [phase] at matched
    have stored : Sound client { state with metaStore := state.metaStore.insertImage pull.image } :=
      ⟨sound.memory.insertImage matched, sound.file, sound.fresh, sound.call, sound.replies⟩
    apply stored.reply
    intro _ _
    exact ⟨pull.image, _, rfl, matched, fun _ => ⟨pull.manifest, rfl, rfl⟩⟩
  | failed _ => exact sound.fail _ _
  | truncated phase =>
    have matched := sound.call
    rw [phase] at matched
    refine ⟨sound.memory, ?_, sound.fresh, matched, sound.replies⟩
    intro store saved
    cases saved
  | @written pull imageId phase =>
    have matched := sound.call
    rw [phase] at matched
    have saved : Sound client { state with metaFile := some state.metaStore } := by
      refine ⟨sound.memory, ?_, sound.fresh, sound.call, sound.replies⟩
      intro store saved
      cases saved
      exact sound.memory
    apply saved.reply
    intro _ _
    exact ⟨pull.image, _, rfl, matched, fun _ => ⟨pull.manifest, rfl, rfl⟩⟩
  | @ranOn path _ =>
    obtain ⟨keeps, adds⟩ := keeps_runOn state.disk path
    exact (sound.changed keeps adds).aside _ state.altered
  | restarted =>
    refine ⟨?_, sound.file, ?_, trivial, sound.replies⟩
    · show Genuine client state.disk (state.metaFile.getD .empty)
      cases saved : state.metaFile with
      | none => exact Genuine.empty client state.disk
      | some store => exact sound.file store saved
    · intro n fits above stream stands
      have below := getLayerIndex_fresh (restarts rfl) fits rfl stands
      dsimp only at above
      omega

end Sound

theorem StartsGenuine.sound (starts : StartsGenuine client state) : Sound client state := by
  refine ⟨starts.memory, starts.file, ?_, ?_, ?_⟩
  · intro n fits above stream stands
    have below := getLayerIndex_fresh starts.left fits rfl stands
    rw [starts.index] at above
    omega
  · rw [starts.idle]
    trivial
  · rw [starts.unused]
    intro reply listed
    cases listed

/-- In every run, over calls, restarts and every order of the layers of a call, in which
records and repetitions agree with the diff ids they stand for, the bundle of a call that
succeeds has the layers of the image's configuration, at once and ever after. -/
theorem mounted_layers_match
    (reached : (pullSystem client (StartsGenuine client)).Reachable (DigestsAgree client) state) :
    ∀ reply ∈ state.replies, ∀ imageId, reply.result = .ok imageId →
      MountsMatch client state.disk reply := by
  have sound : Sound client state := by
    apply reached.invariant
    · exact fun first starts => starts.sound
    · intro first label last sound allowed stepped
      exact sound.step allowed (step_moves stepped)
  exact sound.replies

end Runs

section Examples

/-- A step that looks nothing up in a database with layers, and is neither a call nor a
restart. -/
theorem digestsAgree_of_quiet (quiet : (label matches .call .. | .restart) = false)
    (unknown : label.looks = none ∨ state.metaStore.layerDb.entries.isEmpty = true)
    (left : state.layersIndex + 1 < usizeBound) : DigestsAgree client state label := by
  refine ⟨?_, ?_, fun _ _ => left, ?_⟩
  · rintro request answer auth pulled config rfl
    cases quiet
  · intro i pull tasks layer diffId layerMeta looks _ _ found
    rcases unknown with none_ | empty
    · rw [none_] at looks
      cases looks
    · rw [lookup_of_isEmpty empty] at found
      cases found
  · rintro rfl
    cases quiet

theorem fresh_genuine (client : ImageClient) : StartsGenuine client freshState := by
  refine ⟨rfl, rfl, Genuine.empty client _, ?_, rfl, ?_⟩
  · intro store saved
    cases saved
  · intro entry listed
    cases listed

/-- `mounted_layers_match` for the pull of an image with one layer. -/
theorem one_layer_matches :
    let client := exampleImageClient none
    ∃ state reply, (pullSystem client (StartsGenuine client)).Reachable (DigestsAgree client) state ∧
      reply ∈ state.replies ∧ reply.result = .ok zeroDigest ∧ MountsMatch client state.disk reply := by
  intro client
  let test (state : State) (label : Label) : Bool :=
    (label.looks.isNone || state.metaStore.layerDb.entries.isEmpty) && decide (state.layersIndex + 1 < usizeBound)
  have done : (((pullSystem client (StartsGenuine client)).execIf test freshState
      (examplePull (tagged "docker.io" "example/x" "1") (exampleManifest zeroDigest emptyDigest))).map
        fun final => final.replies.map fun reply => reply.result.toOption) = some [some zeroDigest] := by
    decide +kernel
  obtain ⟨final, ran, results⟩ := Option.map_eq_some_iff.mp done
  have begins : (pullSystem client (StartsGenuine client)).start freshState := fresh_genuine client
  have reached : (pullSystem client (StartsGenuine client)).Reachable (DigestsAgree client) final := by
    apply (System.Reachable.start begins).execIf _ ran
    intro label listed state passed
    have unknown : (label.looks = none ∨ state.metaStore.layerDb.entries.isEmpty = true) ∧
        state.layersIndex + 1 < usizeBound := by
      simpa [test] using passed
    rcases List.mem_cons.mp listed with rfl | later
    · refine ⟨?_, ?_, fun _ _ => unknown.2, ?_⟩
      · intro request answer auth pulled config same got _ read
        cases same
        cases got
        cases read
        intro one kept other listed _
        have single : ∀ pair ∈ [((⟨imageLayerMediaType, emptyDigest, 0, []⟩ : OciDescriptor), emptyDigest)],
            pair.2 = emptyDigest := by simp
        rw [single one (pulledLayers_subset kept), single other listed]
      · intro i pull tasks layer diffId layerMeta looks
        cases looks
      · intro same
        cases same
    · have quiet : ∀ label ∈ (examplePull (tagged "docker.io" "example/x" "1")
          (exampleManifest zeroDigest emptyDigest)).tail, (label matches .call .. | .restart) = false := by
        simp [examplePull]
      exact digestsAgree_of_quiet (quiet label later) unknown.1 unknown.2
  obtain ⟨reply, listed, result⟩ : ∃ reply ∈ final.replies, reply.result.toOption = some zeroDigest :=
    List.mem_map.mp (by simp [results])
  have succeeded := eq_ok_of_toOption result
  exact ⟨final, reply, reached, listed, succeeded, mounted_layers_match reached reply listed zeroDigest succeeded⟩

/-- A call for an image whose one layer the database has. -/
def exampleReuse (reference : Reference) (pulled : PulledManifest) : List Label :=
  [.call (exampleRequest reference) (exampleAnswer pulled), .startLayer 0, .openLayer 0 (.ok ()), .collect,
    .bundle orderlyBundle, .createFile (.ok ()), .writeFile (.ok ())]

/-- The image that the second of the example's calls gives. -/
def reusedImage : ImageMeta where
  id := emptyDigest
  digest := zeroDigest
  reference := (tagged "quay.io" "evilple/x" "1").text
  imageConfig := linuxConfig [zeroDigest]
  signed := false
  layerMetas := [⟨.gzip, false, emptyDigest, emptyDigest, "/run/image-rs/layers/0".toList⟩]

/-- After one image has been pulled, another one whose configuration has another diff id for
the same compressed digest is mounted with the first one's layer. -/
theorem layer_of_another_image :
    let client := exampleImageClient none
    ∃ state reply, (pullSystem client (StartsGenuine client)).Reachable System.Free state ∧
      reply ∈ state.replies ∧ reply.result = .ok emptyDigest ∧ ¬ MountsMatch client state.disk reply := by
  intro client
  have done : (((pullSystem client (StartsGenuine client)).exec freshState
      (examplePull (tagged "docker.io" "example/x" "1") (exampleManifest zeroDigest emptyDigest) ++
        exampleReuse (tagged "quay.io" "evilple/x" "1") (exampleManifest emptyDigest zeroDigest))).map
        fun final => decide (final.disk.lookup "/run/image-rs/layers/0".toList = some (.unpacked [])) &&
          decide (final.replies.map (fun reply =>
            (reply.result.toOption, reply.cached, reply.manifest, reply.image)) =
              [(some emptyDigest, false, some (exampleManifest emptyDigest zeroDigest), some reusedImage),
                (some zeroDigest, false, some (exampleManifest zeroDigest emptyDigest), some pulledImage)])) =
      some true := by
    decide +kernel
  obtain ⟨final, ran, results⟩ := Option.map_eq_some_iff.mp done
  have begins : (pullSystem client (StartsGenuine client)).start freshState := fresh_genuine client
  have reached : (pullSystem client (StartsGenuine client)).Reachable System.Free final :=
    System.reachable_of_exec begins (fun _ _ _ => trivial) ran
  simp only [Bool.and_eq_true, decide_eq_true_eq] at results
  obtain ⟨disk, replies⟩ := results
  obtain ⟨reply, listed, answered⟩ : ∃ reply ∈ final.replies,
      (reply.result.toOption, reply.cached, reply.manifest, reply.image) =
        (some emptyDigest, false, some (exampleManifest emptyDigest zeroDigest), some reusedImage) :=
    List.mem_map.mp (by simp [replies])
  simp only [Prod.mk.injEq] at answered
  obtain ⟨result, fresh, pulled, made⟩ := answered
  refine ⟨final, reply, reached, listed, eq_ok_of_toOption result, ?_⟩
  rintro ⟨image, manifest, bundled, matched, own⟩
  obtain ⟨pulled', same, rfl⟩ := own fresh
  rw [made] at bundled
  rw [pulled] at same
  cases bundled
  cases same
  obtain ⟨stream, stands, digest⟩ := matched.unpacked 0 _ _ rfl rfl _ List.mem_cons_self rfl
  rw [disk] at stands
  cases stands
  have other : streamDigest zeroDigest [] ≠ .ok zeroDigest := by decide +kernel
  exact other digest

end Examples

end GuestComponents.Image
