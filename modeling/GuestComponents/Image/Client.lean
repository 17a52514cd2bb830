import GuestComponents.Image.LayerPull
import GuestComponents.Image.Policy
import GuestComponents.Image.RuntimeConfig
import GuestComponents.Image.Unpack

/-! `image.rs`: the image client. A call runs from its reference to its manifest, its
place in the image database and its signature check in one go, since nothing else holds
the client; the layers are then pulled side by side, each in its own steps. The unpacking of
a layer may change files of others, and a file operation goes on when its layer's task is
dropped. The process may die between any two steps, and a new client starts from the meta
store's file. -/
namespace GuestComponents.Image
open Lib Lib.Text

/-- `Os` of an image configuration. -/
inductive Os where
  | linux
  | other (name : Text)
  deriving DecidableEq

def Os.text : Os → Text
  | linux => "linux".toList
  | other name => name

/-- `ImageConfiguration`, with the text of its architecture. -/
structure ImageConfiguration where
  created : Option Text
  author : Option Text
  architecture : Text
  os : Os
  osVersion : Option Text
  osFeatures : Option (List Text)
  variant : Option Text
  config : Option RuntimeConfig.Config
  diffIds : List Text
  deriving DecidableEq

/-- What the runtime configuration of the image is made from. -/
def ImageConfiguration.runtime (image : ImageConfiguration) : RuntimeConfig.ImageConfiguration where
  created := image.created
  author := image.author
  architecture := image.architecture
  os := image.os.text
  osVersion := image.osVersion
  osFeatures := image.osFeatures
  variant := image.variant
  config := image.config

structure OciImageManifest where
  config : OciDescriptor
  layers : List OciDescriptor
  deriving DecidableEq

structure ImageMeta where
  id : Text
  digest : Text
  reference : Text
  imageConfig : ImageConfiguration
  signed : Bool
  layerMetas : List LayerMeta
  deriving DecidableEq

structure MetaStore where
  imageDb : AList fun _ : Text => ImageMeta
  layerDb : AList fun _ : Text => LayerMeta

def MetaStore.empty : MetaStore := ⟨∅, ∅⟩

/-- `layer_db.extend`, with the layers collected by their compressed digests. -/
def MetaStore.extendLayers (store : MetaStore) (layerMetas : List LayerMeta) : MetaStore :=
  { store with
    layerDb := layerMetas.foldl (fun db layer => db.insert layer.compressedDigest layer) store.layerDb }

def MetaStore.insertImage (store : MetaStore) (image : ImageMeta) : MetaStore :=
  { store with imageDb := store.imageDb.insert image.id image }

/-- The loop of `create_image_meta` over layers and diff ids: of the layers with one
digest only the first is kept. -/
def uniqueLayers (digests : List Text) : List (OciDescriptor × Text) → List (OciDescriptor × Text)
  | [] => []
  | (layer, diffId) :: rest =>
    if layer.digest ∈ digests then uniqueLayers digests rest
    else (layer, diffId) :: uniqueLayers (layer.digest :: digests) rest

/-- `nydus::NYDUS_META_LAYER`. -/
def nydusMetaLayer : Text := "containerd.io/snapshot/nydus-bootstrap".toList

/-- `utils::get_nydus_bootstrap_desc`. -/
def getNydusBootstrapDesc (manifest : OciImageManifest) : Option OciDescriptor :=
  manifest.layers.getLast?.filter fun desc => (desc.annotations.lookup nydusMetaLayer).isSome

/-- What a client is made with and never changes. The registry's credentials, the parsers
of references and configurations and the policy stand for the crates they come from. -/
structure ImageClient where
  oci : OciClient
  fromReader : Text → Except String ImageConfiguration
  registryAuth : Option (Reference → Except String RegistryAuth)
  signatureValidator : Option SignatureValidator
  snapshots : List Text
  defaultSnapshot : Text
  /-- The client is built with the nydus feature. -/
  nydus : Bool
  maxConcurrentDownload : Nat
  dataDir : Text

structure PullRequest where
  imageUrl : Text
  bundleDir : Text
  authInfo : Option Text
  decryptConfig : Option Text

/-- What `pull_manifest` gives: the manifest, its digest and the text of the configuration. -/
structure PulledManifest where
  imageManifest : OciImageManifest
  imageDigest : Text
  imageConfig : Text
  deriving DecidableEq

/-- What making a bundle meets: the mount, the writing of the runtime configuration, and
for nydus images the start of the service before them. -/
structure BundleAnswer where
  service : Except String Unit
  mount : Except String Unit
  runtimeConfig : Except String Unit

/-- What a call meets before its layers. -/
structure CallAnswer where
  pullClient : Except String Unit
  manifest : Except String PulledManifest
  verifier : Verifier
  bundle : BundleAnswer

/-- A signature check that a call has made. -/
structure SignatureCheck where
  imageUrl : Text
  imageDigest : Text
  auth : RegistryAuth
  verifier : Verifier

/-- A call that has come to its layers. -/
structure Pull where
  request : PullRequest
  manifest : PulledManifest
  check : Option SignatureCheck
  image : ImageMeta
  layers : List (OciDescriptor × Text)
  nydus : Bool

/-- A call that has returned: what it was about, the check it made, whether the database
had the image, the image it made a bundle of, and its result. -/
structure Reply where
  request : PullRequest
  manifest : Option PulledManifest
  check : Option SignatureCheck
  cached : Bool
  image : Option ImageMeta
  result : Except String Text

/-- `create_bundle`. -/
def createBundle (image : ImageMeta) (answer : BundleAnswer) : Except String Text := do
  answer.mount
  if image.imageConfig.os ≠ .linux then throw "unsupport OS image"
  else
    answer.runtimeConfig
    pure image.id

/-- `create_nydus_bundle`. -/
def createNydusBundle (image : ImageMeta) (answer : BundleAnswer) : Except String Text :=
  if image.imageConfig.os ≠ .linux then throw "unsupport OS image"
  else do
    answer.mount
    answer.runtimeConfig
    pure image.id

namespace ImageClient

variable (client : ImageClient)

/-- `create_image_meta`, with the unique layers and their diff ids in pairs. -/
def createImageMeta (id imageUrl : Text) (pulled : PulledManifest) :
    Except String (ImageMeta × List (OciDescriptor × Text)) := do
  let imageConfig ← client.fromReader pulled.imageConfig
  if imageConfig.diffIds.length ≠ pulled.imageManifest.layers.length then
    throw "Pulled number of layers mismatch with image config diff_ids"
  else
    pure (⟨id, pulled.imageDigest, imageUrl, imageConfig, false, []⟩,
      uniqueLayers [] (pulled.imageManifest.layers.zip imageConfig.diffIds))

/-- The registry auth of a call, in the order the source gives. -/
def auth (request : PullRequest) (reference : Reference) : Except String RegistryAuth :=
  match request.authInfo with
  | some inputAuth =>
    match splitOnce ':' inputAuth with
    | some (username, password) => .ok (.basic username password)
    | none => .error "Invalid authentication info"
  | none =>
    match client.registryAuth with
    | some credentialForReference => credentialForReference reference
    | none => .ok .anonymous

/-- `pull_image` up to the manifest and the snapshot. -/
def pullManifest (request : PullRequest) (answer : CallAnswer) :
    Except String (RegistryAuth × PulledManifest) := do
  let reference ← client.oci.tryFrom request.imageUrl
  let auth ← client.auth request reference
  answer.pullClient
  let pulled ← answer.manifest
  if client.defaultSnapshot ∉ client.snapshots then throw "default snapshot not found"
  else pure (auth, pulled)

/-- Whether this client takes the nydus path. -/
def isNydusImage (manifest : OciImageManifest) : Bool :=
  client.nydus && (getNydusBootstrapDesc manifest).isSome

/-- The check a call makes of an image that is not in the database. -/
def signatureCheck (request : PullRequest) (pulled : PulledManifest) (auth : RegistryAuth)
    (verifier : Verifier) : Option SignatureCheck :=
  client.signatureValidator.map fun _ => ⟨request.imageUrl, pulled.imageDigest, auth, verifier⟩

/-- What `check_image_signature` says to a check. -/
def verdict (validator : SignatureValidator) (check : SignatureCheck) : Except String Unit :=
  validator.checkImageSignature client.oci check.verifier check.imageUrl check.imageDigest check.auth

/-- The signature check of `pull_image`, if there is a validator. -/
def validate (check : Option SignatureCheck) : Except String Unit :=
  match client.signatureValidator, check with
  | some validator, some check => client.verdict validator check
  | _, _ => .ok ()

/-- `pull_image` between the image database and the layers. -/
def acceptImage (request : PullRequest) (pulled : PulledManifest) (check : Option SignatureCheck) :
    Except String (ImageMeta × List (OciDescriptor × Text)) := do
  client.validate check
  let made ← client.createImageMeta pulled.imageManifest.config.digest request.imageUrl pulled
  if client.isNydusImage pulled.imageManifest then
    -- Of a nydus image only the bootstrap is pulled, with the last diff id.
    match made.1.imageConfig.diffIds.getLast?, getNydusBootstrapDesc pulled.imageManifest with
    | some bootstrapId, some bootstrap => pure (made.1, [(bootstrap, bootstrapId)])
    | none, _ => throw "Failed to get bootstrap id, diff_ids is empty"
    | _, none => throw "Faild to get bootstrap oci descriptor"
  else pure made

/-- If image has already been populated, just create the bundle. -/
def cachedBundle (manifest : OciImageManifest) (image : ImageMeta) (answer : BundleAnswer) :
    Except String Text :=
  if client.isNydusImage manifest then createNydusBundle image answer else createBundle image answer

/-- `pull_image` up to its layers: it returns, or it has layers to pull. -/
def pullImage (store : MetaStore) (request : PullRequest) (answer : CallAnswer) : Reply ⊕ Pull :=
  match client.pullManifest request answer with
  | .error error => .inl ⟨request, none, none, false, none, .error error⟩
  | .ok (auth, pulled) =>
    match store.imageDb.lookup pulled.imageManifest.config.digest with
    | some image =>
      .inl ⟨request, some pulled, none, true, some image,
        client.cachedBundle pulled.imageManifest image answer.bundle⟩
    | none =>
      let check := client.signatureCheck request pulled auth answer.verifier
      match client.acceptImage request pulled check with
      | .error error => .inl ⟨request, some pulled, check, false, none, .error error⟩
      | .ok (image, layers) =>
        .inr ⟨request, pulled, check, image, layers, client.isNydusImage pulled.imageManifest⟩

end ImageClient

/-- The pull of one layer: not started, at the look into the database of an attempt, with
an open stream, unpacking, or done. -/
inductive Task where
  | queued
  | waiting (attempt : Nat)
  | opened (attempt : Nat)
  | unpacking (attempt : Nat) (destination : Text)
  | done (layerMeta : LayerMeta)

def Task.inFlight : Task → Bool
  | .queued => false
  | .done _ => false
  | _ => true

def Task.result? : Task → Option LayerMeta
  | .done layerMeta => some layerMeta
  | _ => none

/-- Where the task unpacks its layer. -/
def Task.destination? : Task → Option Text
  | .unpacking _ destination => some destination
  | _ => none

/-- Where the client's current call is. -/
inductive Phase where
  | idle
  | pulling (pull : Pull) (tasks : List Task)
  | bundling (pull : Pull)
  | saving (pull : Pull) (imageId : Text)
  | writing (pull : Pull) (imageId : Text)

/-- The call that has not returned yet. -/
def Phase.pull? : Phase → Option Pull
  | .idle => none
  | .pulling pull _ => some pull
  | .bundling pull => some pull
  | .saving pull _ => some pull
  | .writing pull _ => some pull

structure State where
  metaStore : MetaStore
  layersIndex : Nat
  disk : Disk
  /-- What the meta store's file is read as, if it is there and can be read. -/
  metaFile : Option MetaStore
  phase : Phase
  replies : List Reply
  /-- Directories that file operations may still make whose tasks are gone. -/
  running : List Text
  /-- What was done to files elsewhere while a layer was unpacked, with the layer directory they
  are in, the last first. -/
  altered : List (Text × Unpack.FileOp)

/-- What happens next. -/
inductive Label where
  | call (request : PullRequest) (answer : CallAnswer)
  | startLayer (i : Nat)
  | openLayer (i : Nat) (stream : Except String Unit)
  | handleLayer (i : Nat)
  | createLayer (i : Nat)
  /-- An operation of the unpacking leads into another directory than the layer's own. -/
  | alterLayer (i : Nat) (path : Text) (op : Unpack.FileOp)
  /-- The attempt ends; `cleaned` if the directory is gone after an error. -/
  | finishLayer (i : Nat) (delivery : Delivery) (cleaned : Bool)
  | collect
  | bundle (answer : BundleAnswer)
  | createFile (outcome : Except String Unit)
  | writeFile (outcome : Except String Unit)
  /-- A file operation whose task is gone makes a directory, unless it is there. -/
  | runOn (path : Text)
  | restart

namespace State

variable (state : State)

def answer (reply : Reply) : State := { state with phase := .idle, replies := reply :: state.replies }

def fail (pull : Pull) (error : String) : State :=
  state.answer ⟨pull.request, some pull.manifest, pull.check, false, none, .error error⟩

def setTask (pull : Pull) (tasks : List Task) (i : Nat) (task : Task) : State :=
  { state with phase := .pulling pull (tasks.set i task) }

/-- The end of an attempt that failed: another one, or the call's, which drops the other tasks. -/
def attemptFailed (pull : Pull) (tasks : List Task) (i attempt : Nat) (error : String) : State :=
  if attempt < layerPullAttempts then state.setTask pull tasks i (.waiting (attempt + 1))
  else State.fail { state with running := (tasks.eraseIdx i).filterMap Task.destination? ++ state.running } pull error

/-- The end of an attempt that did not get to the layer: what is there may be removed, and after a
timeout a file operation may still run. -/
def unfinished (destination : Text) (cleaned : Bool) (error : String) : State :=
  { state with
    disk := if cleaned then state.disk.erase destination else state.disk
    running := if error = unpackTimedOut then destination :: state.running else state.running }

/-- The layers are all there: they are recorded and the bundle is next. -/
def collected (pull : Pull) (layerMetas : List LayerMeta) : State :=
  let state := { state with metaStore := state.metaStore.extendLayers layerMetas }
  if pull.layers.length ≠ layerMetas.length then state.fail pull "layers failed to pull"
  else { state with phase := .bundling { pull with image := { pull.image with layerMetas } } }

end State

variable (client : ImageClient)

/-- `start_nydus_service`, and for other images `create_bundle`. -/
def bundleOf (pull : Pull) (answer : BundleAnswer) : Except String Text :=
  if pull.nydus then do
    answer.service
    createNydusBundle pull.image answer
  else createBundle pull.image answer

def step (state : State) (label : Label) : Option State :=
  match label, state.phase with
  | .call request answer, .idle =>
    match client.pullImage state.metaStore request answer with
    | .inl reply => some (state.answer reply)
    | .inr pull => some { state with phase := .pulling pull (pull.layers.map fun _ => .queued) }
  | .startLayer i, .pulling pull tasks =>
    -- `buffer_unordered` takes the layers in order, and only so many at once.
    if tasks.findIdx? (fun task => task matches .queued) = some i ∧
        tasks.countP Task.inFlight < client.maxConcurrentDownload then
      some (state.setTask pull tasks i (.waiting 1))
    else none
  | .openLayer i stream, .pulling pull tasks =>
    match pull.layers[i]?, tasks[i]? with
    | some (layer, _), some (.waiting attempt) =>
      match state.metaStore.layerDb.lookup layer.digest with
      | some layerMeta => some (state.setTask pull tasks i (.done layerMeta))
      | none =>
        match stream with
        | .error error => some (state.attemptFailed pull tasks i attempt error)
        | .ok () => some (state.setTask pull tasks i (.opened attempt))
    | _, _ => none
  | .handleLayer i, .pulling pull tasks =>
    match pull.layers[i]?, tasks[i]? with
    | some (layer, _), some (.opened attempt) =>
      match state.metaStore.layerDb.lookup layer.digest with
      | some layerMeta => some (state.setTask pull tasks i (.done layerMeta))
      | none =>
        let (destination, store) := (LayerStore.mk client.dataDir state.layersIndex).newLayerStorePath
        some { state with layersIndex := store.layersIndex
                          phase := .pulling pull (tasks.set i (.unpacking attempt destination)) }
    | _, _ => none
  | .createLayer i, .pulling _ tasks =>
    match tasks[i]? with
    | some (.unpacking _ destination) =>
      some { state with disk := state.disk.insert destination .partially
                        altered := state.altered.filter fun change => change.1 ≠ destination }
    | _ => none
  | .alterLayer i path op, .pulling _ tasks =>
    match tasks[i]? with
    | some (.unpacking _ destination) =>
      if path = destination then none else some { state with altered := (path, op) :: state.altered }
    | _ => none
  | .finishLayer i delivery cleaned, .pulling pull tasks =>
    match pull.layers[i]?, tasks[i]? with
    | some (layer, diffId), some (.unpacking attempt destination) =>
      match asyncHandleLayer layer diffId destination delivery with
      | .ok layerMeta =>
        some { state with disk := state.disk.insert destination (.unpacked delivery.stream)
                          phase := .pulling pull (tasks.set i (.done layerMeta)) }
      | .error error => some ((state.unfinished destination cleaned error).attemptFailed pull tasks i attempt error)
    | _, _ => none
  | .collect, .pulling pull tasks =>
    match tasks.mapM Task.result? with
    | some layerMetas => some (state.collected pull layerMetas)
    | none => none
  | .bundle answer, .bundling pull =>
    match bundleOf pull answer with
    | .error error => some (state.fail pull error)
    | .ok imageId =>
      let state := { state with metaStore := state.metaStore.insertImage pull.image }
      if pull.nydus then
        some (state.answer ⟨pull.request, some pull.manifest, pull.check, false, some pull.image, .ok imageId⟩)
      else some { state with phase := .saving pull imageId }
  | .createFile outcome, .saving pull imageId =>
    match outcome with
    | .error error => some (state.fail pull error)
    | .ok () => some { state with metaFile := none, phase := .writing pull imageId }
  | .writeFile outcome, .writing pull imageId =>
    match outcome with
    | .error error => some (state.fail pull error)
    | .ok () =>
      let state := { state with metaFile := some state.metaStore }
      some (state.answer ⟨pull.request, some pull.manifest, pull.check, false, some pull.image, .ok imageId⟩)
  | .runOn path, _ =>
    if path ∈ state.running then
      some { state with disk := if (state.disk.lookup path).isSome then state.disk else state.disk.insert path .partially
                        running := state.running.erase path }
    else none
  | .restart, _ =>
    some { state with metaStore := state.metaFile.getD .empty
                      layersIndex := getLayerIndex state.disk client.dataDir
                      phase := .idle
                      running := [] }
  | _, _ => none

/-- The runs of one client, and of the clients that follow it, from the states that
`start` allows. -/
def pullSystem (start : State → Prop) : System State Label := ⟨start, step client⟩

/-- The layer whose digest a step looks up in the layer database. -/
def Label.looks : Label → Option Nat
  | .openLayer i _ => some i
  | .handleLayer i => some i
  | _ => none

/-- All that a step can do. -/
inductive Moves (state : State) : Label → State → Prop where
  | answered {request : PullRequest} {answer : CallAnswer} {reply : Reply} : state.phase = .idle →
      client.pullImage state.metaStore request answer = .inl reply →
      Moves state (.call request answer) (state.answer reply)
  | began {request : PullRequest} {answer : CallAnswer} {pull : Pull} : state.phase = .idle →
      client.pullImage state.metaStore request answer = .inr pull →
      Moves state (.call request answer)
        { state with phase := .pulling pull (pull.layers.map fun _ => .queued) }
  | started {i : Nat} {pull : Pull} {tasks : List Task} : state.phase = .pulling pull tasks →
      Moves state (.startLayer i) (state.setTask pull tasks i (.waiting 1))
  | found {i : Nat} {label : Label} {pull : Pull} {tasks : List Task} {layer : OciDescriptor}
      {diffId : Text} {layerMeta : LayerMeta} : state.phase = .pulling pull tasks →
      label.looks = some i → pull.layers[i]? = some (layer, diffId) →
      state.metaStore.layerDb.lookup layer.digest = some layerMeta →
      Moves state label (state.setTask pull tasks i (.done layerMeta))
  | opened {i attempt : Nat} {pull : Pull} {tasks : List Task} : state.phase = .pulling pull tasks →
      Moves state (.openLayer i (.ok ())) (state.setTask pull tasks i (.opened attempt))
  | allocated {i attempt : Nat} {pull : Pull} {tasks : List Task} : state.phase = .pulling pull tasks →
      Moves state (.handleLayer i)
        { state with layersIndex := (state.layersIndex + 1) % usizeBound
                     phase := .pulling pull
                       (tasks.set i (.unpacking attempt (layerPath client.dataDir state.layersIndex))) }
  | created {i attempt : Nat} {pull : Pull} {tasks : List Task} {destination : Text} :
      state.phase = .pulling pull tasks → tasks[i]? = some (.unpacking attempt destination) →
      Moves state (.createLayer i)
        { state with disk := state.disk.insert destination .partially
                     altered := state.altered.filter fun change => change.1 ≠ destination }
  | altered {i attempt : Nat} {pull : Pull} {tasks : List Task} {destination path : Text} {op : Unpack.FileOp} :
      state.phase = .pulling pull tasks → tasks[i]? = some (.unpacking attempt destination) →
      path ≠ destination →
      Moves state (.alterLayer i path op) { state with altered := (path, op) :: state.altered }
  | finished {i attempt : Nat} {pull : Pull} {tasks : List Task} {destination : Text}
      {delivery : Delivery} {cleaned : Bool} {layer : OciDescriptor} {diffId : Text}
      {layerMeta : LayerMeta} : state.phase = .pulling pull tasks →
      pull.layers[i]? = some (layer, diffId) → tasks[i]? = some (.unpacking attempt destination) →
      asyncHandleLayer layer diffId destination delivery = .ok layerMeta →
      Moves state (.finishLayer i delivery cleaned)
        { state with disk := state.disk.insert destination (.unpacked delivery.stream)
                     phase := .pulling pull (tasks.set i (.done layerMeta)) }
  | unopened {i attempt : Nat} {pull : Pull} {tasks : List Task} {error : String} :
      state.phase = .pulling pull tasks →
      Moves state (.openLayer i (.error error)) (state.attemptFailed pull tasks i attempt error)
  | unfinished {i attempt : Nat} {pull : Pull} {tasks : List Task} {destination : Text}
      {delivery : Delivery} {cleaned : Bool} {error : String} : state.phase = .pulling pull tasks →
      tasks[i]? = some (.unpacking attempt destination) →
      Moves state (.finishLayer i delivery cleaned)
        ((state.unfinished destination cleaned error).attemptFailed pull tasks i attempt error)
  | collected {pull : Pull} {tasks : List Task} {layerMetas : List LayerMeta} :
      state.phase = .pulling pull tasks → tasks.mapM Task.result? = some layerMetas →
      Moves state .collect (state.collected pull layerMetas)
  | bundled {answer : BundleAnswer} {pull : Pull} {imageId : Text} : state.phase = .bundling pull →
      bundleOf pull answer = .ok imageId → pull.nydus = false →
      Moves state (.bundle answer)
        { state with metaStore := state.metaStore.insertImage pull.image, phase := .saving pull imageId }
  | nydusBundled {answer : BundleAnswer} {pull : Pull} {imageId : Text} : state.phase = .bundling pull →
      bundleOf pull answer = .ok imageId → pull.nydus = true →
      Moves state (.bundle answer)
        (State.answer { state with metaStore := state.metaStore.insertImage pull.image }
          ⟨pull.request, some pull.manifest, pull.check, false, some pull.image, .ok imageId⟩)
  | failed {label : Label} {pull : Pull} {error : String} :
      state.phase = .bundling pull ∨ (∃ imageId, state.phase = .saving pull imageId) ∨
        (∃ imageId, state.phase = .writing pull imageId) →
      Moves state label (state.fail pull error)
  | truncated {pull : Pull} {imageId : Text} : state.phase = .saving pull imageId →
      Moves state (.createFile (.ok ())) { state with metaFile := none, phase := .writing pull imageId }
  | written {pull : Pull} {imageId : Text} : state.phase = .writing pull imageId →
      Moves state (.writeFile (.ok ()))
        (State.answer { state with metaFile := some state.metaStore }
          ⟨pull.request, some pull.manifest, pull.check, false, some pull.image, .ok imageId⟩)
  | ranOn {path : Text} : path ∈ state.running →
      Moves state (.runOn path)
        { state with disk := if (state.disk.lookup path).isSome then state.disk else state.disk.insert path .partially
                     running := state.running.erase path }
  | restarted : Moves state .restart
      { state with metaStore := state.metaFile.getD .empty
                   layersIndex := getLayerIndex state.disk client.dataDir
                   phase := .idle
                   running := [] }

variable {client}

/-- A call that returns before it pulls layers has failed, or it had the image. -/
theorem pullImage_inl {store : MetaStore} {request : PullRequest} {answer : CallAnswer} {reply : Reply}
    (answered : client.pullImage store request answer = .inl reply) :
    (∃ error, reply.result = .error error) ∨
      ∃ auth pulled image, client.pullManifest request answer = .ok (auth, pulled) ∧
        store.imageDb.lookup pulled.imageManifest.config.digest = some image ∧
        reply = ⟨request, some pulled, none, true, some image,
          client.cachedBundle pulled.imageManifest image answer.bundle⟩ := by
  unfold ImageClient.pullImage at answered
  split at answered
  · rename_i error failed
    cases answered
    exact .inl ⟨error, rfl⟩
  · rename_i auth pulled got
    split at answered
    · rename_i image hit
      cases answered
      exact .inr ⟨auth, pulled, image, got, hit, rfl⟩
    · dsimp only at answered
      split at answered
      · rename_i error refused
        cases answered
        exact .inl ⟨error, rfl⟩
      · cases answered

/-- A call that pulls layers did not have the image, and has accepted it. -/
theorem pullImage_inr {store : MetaStore} {request : PullRequest} {answer : CallAnswer} {pull : Pull}
    (began : client.pullImage store request answer = .inr pull) :
    ∃ auth, client.pullManifest request answer = .ok (auth, pull.manifest) ∧
      store.imageDb.lookup pull.manifest.imageManifest.config.digest = none ∧ pull.request = request ∧
      pull.check = client.signatureCheck request pull.manifest auth answer.verifier ∧
      client.acceptImage request pull.manifest pull.check = .ok (pull.image, pull.layers) ∧
      pull.nydus = client.isNydusImage pull.manifest.imageManifest := by
  unfold ImageClient.pullImage at began
  split at began
  · cases began
  · rename_i auth pulled got
    split at began
    · cases began
    · rename_i missed
      dsimp only at began
      split at began
      · cases began
      · rename_i image layers accepted
        cases began
        exact ⟨auth, got, missed, rfl, rfl, accepted, rfl⟩

theorem step_moves {state next : State} {label : Label} (stepped : step client state label = some next) :
    Moves client state label next := by
  unfold step at stepped
  split at stepped
  case h_1 request answer idle =>
    split at stepped
    · rename_i reply answered
      cases stepped
      exact .answered idle answered
    · rename_i pull began
      cases stepped
      exact .began idle began
  case h_2 i pull tasks pulling =>
    split at stepped
    · cases stepped
      exact .started pulling
    · cases stepped
  case h_3 i stream pull tasks pulling =>
    split at stepped
    · rename_i layer diffId attempt listed waits
      split at stepped
      · rename_i layerMeta hit
        cases stepped
        exact .found pulling rfl listed hit
      · cases stream with
        | error error =>
          cases stepped
          exact .unopened pulling
        | ok _ =>
          cases stepped
          exact .opened pulling
    · cases stepped
  case h_4 i pull tasks pulling =>
    split at stepped
    · rename_i layer diffId attempt listed opened
      split at stepped
      · rename_i layerMeta hit
        cases stepped
        exact .found pulling rfl listed hit
      · cases stepped
        exact .allocated pulling
    · cases stepped
  case h_5 i pull tasks pulling =>
    split at stepped
    · rename_i attempt destination unpacks
      cases stepped
      exact .created pulling unpacks
    · cases stepped
  case h_6 i path op pull tasks pulling =>
    split at stepped
    · rename_i attempt destination unpacks
      split at stepped
      · cases stepped
      · rename_i other
        cases stepped
        exact .altered pulling unpacks other
    · cases stepped
  case h_7 i delivery cleaned pull tasks pulling =>
    split at stepped
    · rename_i layer diffId attempt destination listed unpacks
      split at stepped
      · rename_i layerMeta handled
        cases stepped
        exact .finished pulling listed unpacks handled
      · rename_i error handled
        cases stepped
        exact .unfinished pulling unpacks
    · cases stepped
  case h_8 pull tasks pulling =>
    split at stepped
    · rename_i layerMetas complete
      cases stepped
      exact .collected pulling complete
    · cases stepped
  case h_9 answer pull bundling =>
    split at stepped
    · rename_i error refused
      cases stepped
      exact .failed (.inl bundling)
    · rename_i imageId made
      cases nydus : pull.nydus with
      | true =>
        simp only [nydus, if_true] at stepped
        cases stepped
        exact .nydusBundled bundling made nydus
      | false =>
        simp only [nydus, Bool.false_eq_true, if_false] at stepped
        cases stepped
        exact .bundled bundling made nydus
  case h_10 outcome pull imageId saving =>
    cases outcome with
    | error error =>
      cases stepped
      exact .failed (.inr (.inl ⟨imageId, saving⟩))
    | ok _ =>
      cases stepped
      exact .truncated saving
  case h_11 outcome pull imageId writing =>
    cases outcome with
    | error error =>
      cases stepped
      exact .failed (.inr (.inr ⟨imageId, writing⟩))
    | ok _ =>
      cases stepped
      exact .written writing
  case h_12 path =>
    split at stepped
    · rename_i listed
      cases stepped
      exact .ranOn listed
    · cases stepped
  case h_13 =>
    cases stepped
    exact .restarted
  case h_14 => cases stepped

section Examples

/-! An image with one empty layer, which is served without compression, so that its
digest is its diff id too. -/

/-- The SHA-256 digest of no bytes. -/
def emptyDigest : Text :=
  "sha256:e3b0c44298fc1c149afbf4c8996fb92427ae41e4649b934ca495991b7852b855".toList

/-- The SHA-256 digest of one zero byte. -/
def zeroDigest : Text :=
  "sha256:6e340b9cffb37a989ca544e6bb780a2c78901d3fb33738768511a30617afa01d".toList

/-- A configuration with these diff ids. -/
def linuxConfig (diffIds : List Text) : ImageConfiguration where
  created := none
  author := none
  architecture := "amd64".toList
  os := .linux
  osVersion := none
  osFeatures := none
  variant := none
  config := none
  diffIds := diffIds

/-- The text of a configuration with one diff id. -/
def exampleConfig (diffId : Text) : Text :=
  "\x7b\"architecture\":\"amd64\",\"os\":\"linux\",".toList ++
    "\"rootfs\":\x7b\"type\":\"layers\",\"diff_ids\":[\"".toList ++ diffId ++ "\"]\x7d\x7d".toList

/-- The reading of such texts, and of no others. -/
def readConfig (text : Text) : Except String ImageConfiguration :=
  match [emptyDigest, zeroDigest].find? (exampleConfig · == text) with
  | some diffId => .ok (linuxConfig [diffId])
  | none => .error "expected value"

/-- A client without credentials. -/
def exampleImageClient (signatureValidator : Option SignatureValidator) : ImageClient where
  oci := exampleClient
  fromReader := readConfig
  registryAuth := none
  signatureValidator := signatureValidator
  snapshots := ["overlay".toList]
  defaultSnapshot := "overlay".toList
  nydus := false
  maxConcurrentDownload := 3
  dataDir := "/run/image-rs/layers".toList

def exampleRequest (reference : Reference) : PullRequest :=
  ⟨reference.text, "/run/bundle".toList, none, none⟩

/-- A manifest with the empty layer and the configuration for a diff id. -/
def exampleManifest (configDigest diffId : Text) : PulledManifest where
  imageManifest :=
    { config := ⟨"application/vnd.oci.image.config.v1+json".toList, configDigest, 0, []⟩
      layers := [⟨imageLayerMediaType, emptyDigest, 0, []⟩] }
  imageDigest := zeroDigest
  imageConfig := exampleConfig diffId

def orderlyBundle : BundleAnswer := ⟨.ok (), .ok (), .ok ()⟩

/-- The registry answers, it has no signatures, and bundles can be made. -/
def exampleAnswer (pulled : PulledManifest) : CallAnswer where
  pullClient := .ok ()
  manifest := .ok pulled
  verifier := ⟨fun _ _ _ => .error "no signature", fun _ _ _ => .error "no signature"⟩
  bundle := orderlyBundle

/-- The empty layer arrives and is unpacked. -/
def emptyDelivery : Delivery := ⟨.error "unencrypted media type", .ok (), [], .ok (), 0⟩

/-- A call for the image, with its one layer unpacked. -/
def examplePull (reference : Reference) (pulled : PulledManifest) : List Label :=
  [.call (exampleRequest reference) (exampleAnswer pulled), .startLayer 0, .openLayer 0 (.ok ()),
    .handleLayer 0, .createLayer 0, .finishLayer 0 emptyDelivery true, .collect, .bundle orderlyBundle,
    .createFile (.ok ()), .writeFile (.ok ())]

/-- What is recorded of the image, with its configuration's digest. -/
def pulledImage : ImageMeta where
  id := zeroDigest
  digest := zeroDigest
  reference := (tagged "docker.io" "example/x" "1").text
  imageConfig := linuxConfig [emptyDigest]
  signed := false
  layerMetas := [⟨.gzip, false, emptyDigest, emptyDigest, "/run/image-rs/layers/0".toList⟩]

/-- A client that has just been made in an empty work directory. -/
def freshState : State := ⟨.empty, 0, ∅, none, .idle, [], [], []⟩

theorem lookup_of_isEmpty {α : Type} {db : AList fun _ : Text => α} (empty : db.entries.isEmpty = true)
    (key : Text) : db.lookup key = none := by
  simp [AList.lookup, List.isEmpty_iff.mp empty]

theorem eq_ok_of_toOption {result : Except String Text} {imageId : Text}
    (given : result.toOption = some imageId) : result = .ok imageId := by
  cases result with
  | error error => cases given
  | ok _ =>
    cases given
    rfl

end Examples

end GuestComponents.Image
