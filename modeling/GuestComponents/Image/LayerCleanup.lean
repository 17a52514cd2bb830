import GuestComponents.Image.LayerPaths
import GuestComponents.Lib.AllOrNothing

/-! `async_handle_layer` over the file system: a layer is unpacked while it is verified, and
what was unpacked is removed when it is refused. The removal may be refused in turn, which is
only logged, and a timeout leaves the file operation that is running to its end. -/
namespace GuestComponents.Image.LayerCleanup
open Lib Lib.Text

/-- How an operation on files ends early. The timeout may find it done or not. -/
inductive Interruption where
  | fails (error : String)
  | timesOut (done : Bool)

/-- The error of an attempt, while the timeout is still told from the others. -/
inductive LayerFailure where
  | failed (error : String)
  | timedOut
  deriving DecidableEq

def LayerFailure.message : LayerFailure → String
  | failed error => error
  | timedOut => unpackTimedOut

/-- What the handling of a layer meets. -/
structure Handling where
  decryptKey : Except String (List UInt8)
  plaintextLayer : Except String Unit
  /-- The bytes that come out of the decompression. -/
  stream : List UInt8
  removeOld : Option Interruption
  createDir : Option Interruption
  /-- What the entries change outside the directory: an entry with `..`, a whiteout in another
  layer, an opaque marker at an absolute path. -/
  escapes : Disk → Disk
  /-- What ends the entries early: the download, the decompression, the archive or an entry. -/
  entries : Option Interruption
  rollBack : Option Interruption
  compressedBytes : Nat
  cleanup : Option String
  /-- An operation that runs on after a timeout makes the directory again. -/
  remade : Bool

structure LayerWorld where
  disk : Disk
  metaStore : MetaStore
  layerStore : LayerStore

abbrev LayerAction := Action LayerWorld LayerFailure

def LayerWorld.put (path : Text) (content : Content) (world : LayerWorld) : LayerWorld :=
  { world with disk := world.disk.insert path content }

def LayerWorld.remove (path : Text) (world : LayerWorld) : LayerWorld :=
  { world with disk := world.disk.erase path }

/-- A change of the disk that leaves the path as it is. -/
def LayerWorld.elsewhere (path : Text) (change : Disk → Disk) (world : LayerWorld) : LayerWorld :=
  match world.disk.lookup path with
  | some content => { world with disk := (change world.disk).insert path content }
  | none => { world with disk := (change world.disk).erase path }

/-- There is a directory at the path. -/
def LayerWorld.isDir (path : Text) (world : LayerWorld) : Bool := (world.disk.lookup path).any Content.isDir

/-- An operation on files within the timeout. -/
def interruptible (interruption : Option Interruption) (effect : LayerWorld → LayerWorld) : LayerAction Unit :=
  fun world =>
    match interruption with
    | none => (.ok (), effect world)
    | some (.fails error) => (.error (.failed error), world)
    | some (.timesOut done) => (.error .timedOut, if done then effect world else world)

/-- `remove_dir_all` within the timeout. -/
def removeDirAll (interruption : Option Interruption) (path : Text) : LayerAction Unit :=
  fun world =>
    if world.isDir path then interruptible interruption (LayerWorld.remove path) world
    else (.error (.failed "no such directory"), world)

/-- `if destination.exists() { remove_dir_all(destination)?; }`. -/
def removeOld (handling : Handling) (destination : Text) : LayerAction Unit :=
  fun world =>
    if (world.disk.lookup destination).isSome then removeDirAll handling.removeOld destination world
    else (.ok (), world)

/-- `unpack`. -/
def unpack (handling : Handling) (destination : Text) : LayerAction Unit := do
  removeOld handling destination
  interruptible handling.createDir (LayerWorld.put destination .partially)
  interruptible none (LayerWorld.elsewhere destination handling.escapes)
  interruptible handling.entries id
  interruptible none (LayerWorld.put destination (.unpacked handling.stream))

/-- The end of `async_processing` when the unpacking has failed. -/
def rollBack (handling : Handling) (destination : Text) (error : String) : LayerAction Unit := do
  removeDirAll handling.rollBack destination
  Action.fail (.failed error)

/-- `async_processing`. -/
def asyncProcessing (handling : Handling) (destination : Text) : LayerAction Unit :=
  fun world =>
    match unpack handling destination world with
    | (.error (.failed error), next) => rollBack handling destination error next
    | (outcome, next) => (outcome, next)

/-- `async_decompress_unpack_layer_with_timeout`. -/
def decompressUnpackLayer (handling : Handling) (diffId mediaType destination : Text) : LayerAction Text := do
  let _ ← Action.ofExcept ((Compression.tryFrom mediaType).mapError .failed)
  let digest ← Action.ofExcept ((streamDigest diffId handling.stream).mapError .failed)
  asyncProcessing handling destination
  pure digest

/-- The layer without encryption, and its size. -/
def unpackPlain (layer : OciDescriptor) (diffId : Text) (handling : Handling) (destination : Text) :
    LayerAction Text := do
  let digest ← decompressUnpackLayer handling diffId layer.mediaType destination
  if 0 < layer.size ∧ (handling.compressedBytes : Int) ≠ layer.size then
    Action.fail (.failed "compressed layer size mismatch")
  else pure digest

def unpackEncrypted (layer : OciDescriptor) (diffId : Text) (handling : Handling) (destination : Text) :
    LayerAction Text := do
  let _ ← Action.ofExcept (handling.decryptKey.mapError .failed)
  Action.ofExcept (handling.plaintextLayer.mapError .failed)
  decompressUnpackLayer handling diffId (Decryptor.fromMediaType layer.mediaType).mediaType destination

/-- The layer by its media type. -/
def unpackLayer (layer : OciDescriptor) (diffId : Text) (handling : Handling) (destination : Text) : LayerAction Text :=
  if (Decryptor.fromMediaType layer.mediaType).encrypted then unpackEncrypted layer diffId handling destination
  else unpackPlain layer diffId handling destination

/-- The inner block of `async_handle_layer`. -/
def unpackVerified (layer : OciDescriptor) (diffId : Text) (handling : Handling) (destination : Text) :
    LayerAction LayerMeta := do
  let digest ← unpackLayer layer diffId handling destination
  if digest ≠ diffId then Action.fail (.failed "unequal uncompressed digest")
  else pure ⟨.gzip, (Decryptor.fromMediaType layer.mediaType).encrypted, layer.digest, digest, destination⟩

/-- `cleanup_partial_layer`: a refusal is only logged. -/
def cleanupPartialLayer (handling : Handling) (destination : Text) (world : LayerWorld) : LayerWorld :=
  if world.isDir destination ∧ handling.cleanup = none then world.remove destination else world

/-- What an operation that was running at the timeout does at last. -/
def runOn (handling : Handling) (failure : LayerFailure) (destination : Text) (world : LayerWorld) : LayerWorld :=
  if failure = .timedOut ∧ handling.remade then world.put destination .partially else world

/-- `async_handle_layer` at a destination. -/
def handleAt (layer : OciDescriptor) (diffId : Text) (handling : Handling) (destination : Text) :
    Action LayerWorld String LayerMeta :=
  fun world =>
    match unpackVerified layer diffId handling destination world with
    | (.ok layerMeta, next) => (.ok layerMeta, next)
    | (.error failure, next) =>
      (.error failure.message, runOn handling failure destination (cleanupPartialLayer handling destination next))

/-- `async_handle_layer`. -/
def handleLayerOnDisk (layer : OciDescriptor) (diffId : Text) (handling : Handling) :
    Action LayerWorld String LayerMeta :=
  fun world =>
    match world.metaStore.layerDb.lookup layer.digest with
    | some layerMeta => (.ok layerMeta, world)
    | none =>
      let (destination, layerStore) := world.layerStore.newLayerStorePath
      handleAt layer diffId handling destination { world with layerStore }

section Facts

variable {handling : Handling} {layer : OciDescriptor} {diffId mediaType destination digest : Text}
  {world after : LayerWorld} {interruption : Option Interruption} {effect : LayerWorld → LayerWorld}

/-- Nothing but the disk has changed. -/
structure Same (before after : LayerWorld) : Prop where
  store : after.metaStore = before.metaStore
  layers : after.layerStore = before.layerStore

theorem Same.refl (world : LayerWorld) : Same world world := ⟨rfl, rfl⟩

theorem Same.trans (one two three : LayerWorld) (first : Same one two) (second : Same two three) :
    Same one three where
  store := second.store.trans first.store
  layers := second.layers.trans first.layers

theorem same_put (content : Content) : Same world (world.put destination content) := ⟨rfl, rfl⟩

theorem same_remove : Same world (world.remove destination) := ⟨rfl, rfl⟩

theorem same_elsewhere (change : Disk → Disk) : Same world (world.elsewhere destination change) := by
  rw [LayerWorld.elsewhere]
  split
  · exact ⟨rfl, rfl⟩
  · exact ⟨rfl, rfl⟩

theorem keeps_interruptible (changes : ∀ world, Same world (effect world)) :
    Action.Keeps Same (interruptible interruption effect) := by
  intro world
  cases interruption with
  | none => exact changes world
  | some interruption =>
    cases interruption with
    | fails error => exact Same.refl world
    | timesOut done =>
      cases done with
      | true => exact changes world
      | false => exact Same.refl world

theorem keeps_removeDirAll : Action.Keeps Same (removeDirAll interruption destination) := by
  intro world
  rw [removeDirAll]
  split
  · exact keeps_interruptible (fun _ => same_remove) world
  · exact Same.refl world

theorem keeps_unpack : Action.Keeps Same (unpack handling destination) := by
  apply Action.Keeps.bind Same.trans
  · intro world
    rw [removeOld]
    split
    · exact keeps_removeDirAll world
    · exact Same.refl world
  · intro _
    apply Action.Keeps.bind Same.trans (keeps_interruptible fun _ => same_put _)
    intro _
    apply Action.Keeps.bind Same.trans (keeps_interruptible fun _ => same_elsewhere _)
    intro _
    apply Action.Keeps.bind Same.trans (keeps_interruptible fun _ => Same.refl _)
    intro _
    exact keeps_interruptible fun _ => same_put _

theorem keeps_asyncProcessing : Action.Keeps Same (asyncProcessing handling destination) := by
  intro world
  have unpacks := @keeps_unpack handling destination world
  rw [asyncProcessing]
  split
  · rename_i error next ran
    rw [ran] at unpacks
    have rolls : Action.Keeps Same (rollBack handling destination error) :=
      Action.Keeps.bind Same.trans keeps_removeDirAll fun _ world => Same.refl world
    exact Same.trans _ _ _ unpacks (rolls next)
  · rename_i outcome next _ ran
    rw [ran] at unpacks
    exact unpacks

theorem keeps_decompress : Action.Keeps Same (decompressUnpackLayer handling diffId mediaType destination) := by
  apply Action.Keeps.bind Same.trans (Action.Keeps.ofExcept Same.refl _)
  intro _
  apply Action.Keeps.bind Same.trans (Action.Keeps.ofExcept Same.refl _)
  intro _
  apply Action.Keeps.bind Same.trans keeps_asyncProcessing
  exact fun _ world => Same.refl world

theorem keeps_unpackLayer : Action.Keeps Same (unpackLayer layer diffId handling destination) := by
  rw [unpackLayer]
  split
  · apply Action.Keeps.bind Same.trans (Action.Keeps.ofExcept Same.refl _)
    intro _
    apply Action.Keeps.bind Same.trans (Action.Keeps.ofExcept Same.refl _)
    exact fun _ => keeps_decompress
  · apply Action.Keeps.bind Same.trans keeps_decompress
    intro digest world
    split
    · exact Same.refl world
    · exact Same.refl world

theorem keeps_unpackVerified : Action.Keeps Same (unpackVerified layer diffId handling destination) := by
  apply Action.Keeps.bind Same.trans keeps_unpackLayer
  intro digest world
  split
  · exact Same.refl world
  · exact Same.refl world

/-- A layer that is unpacked without an error is there in full. -/
theorem asyncProcessing_ok (ran : asyncProcessing handling destination world = (.ok (), after)) :
    after.disk.lookup destination = some (.unpacked handling.stream) := by
  rw [asyncProcessing] at ran
  split at ran
  · rename_i error next failed
    obtain ⟨_, _, _, impossible⟩ := Action.bind_eq_ok.mp ran
    cases impossible
  · rename_i outcome next _ unpacked
    cases ran
    obtain ⟨_, _, _, unpacked⟩ := Action.bind_eq_ok.mp unpacked
    obtain ⟨_, _, _, unpacked⟩ := Action.bind_eq_ok.mp unpacked
    obtain ⟨_, _, _, unpacked⟩ := Action.bind_eq_ok.mp unpacked
    obtain ⟨_, _, _, unpacked⟩ := Action.bind_eq_ok.mp unpacked
    cases unpacked
    exact AList.lookup_insert _

theorem decompress_ok
    (ran : decompressUnpackLayer handling diffId mediaType destination world = (.ok digest, after)) :
    streamDigest diffId handling.stream = .ok digest ∧
      after.disk.lookup destination = some (.unpacked handling.stream) := by
  obtain ⟨_, _, _, ran⟩ := Action.bind_eq_ok.mp ran
  obtain ⟨found, _, hashed, ran⟩ := Action.bind_eq_ok.mp ran
  obtain ⟨_, _, processed, ran⟩ := Action.bind_eq_ok.mp ran
  cases ran
  refine ⟨?_, asyncProcessing_ok processed⟩
  have hashed := (Action.ofExcept_eq_ok.mp hashed).1
  cases digests : streamDigest diffId handling.stream with
  | error error =>
    rw [digests] at hashed
    cases hashed
  | ok found' =>
    rw [digests] at hashed
    cases hashed
    rfl

theorem unpackLayer_ok (ran : unpackLayer layer diffId handling destination world = (.ok digest, after)) :
    streamDigest diffId handling.stream = .ok digest ∧
      after.disk.lookup destination = some (.unpacked handling.stream) := by
  rw [unpackLayer] at ran
  split at ran
  · obtain ⟨_, _, _, ran⟩ := Action.bind_eq_ok.mp ran
    obtain ⟨_, _, _, ran⟩ := Action.bind_eq_ok.mp ran
    exact decompress_ok ran
  · obtain ⟨_, _, unpacked, ran⟩ := Action.bind_eq_ok.mp ran
    split at ran
    · cases ran
    · cases ran
      exact decompress_ok unpacked

/-- A layer that is accepted is there in full and has its diff id. -/
theorem unpackVerified_ok {layerMeta : LayerMeta}
    (ran : unpackVerified layer diffId handling destination world = (.ok layerMeta, after)) :
    layerMeta.storePath = destination ∧ layerMeta.compressedDigest = layer.digest ∧
      layerMeta.uncompressedDigest = diffId ∧ HasDiffId diffId handling.stream ∧
      after.disk.lookup destination = some (.unpacked handling.stream) := by
  obtain ⟨digest, _, unpacked, ran⟩ := Action.bind_eq_ok.mp ran
  split at ran
  · cases ran
  · rename_i same
    cases ran
    obtain ⟨hashed, there⟩ := unpackLayer_ok unpacked
    obtain rfl := not_not.mp same
    exact ⟨rfl, rfl, rfl, hashed, there⟩

/-- A refused layer leaves its directory only where the removal is refused, or where a file
operation makes it again after the timeout. -/
theorem cleaned (failure : LayerFailure) (gone : handling.cleanup = none)
    (ended : ¬ (failure = .timedOut ∧ handling.remade = true)) :
    ¬ DirectoryAt (runOn handling failure destination (cleanupPartialLayer handling destination world)).disk
      destination := by
  rw [runOn, if_neg ended, cleanupPartialLayer]
  split
  · intro directory
    exact (directoryAt_erase.mp directory).1 rfl
  · rename_i stays
    rintro ⟨content, there, directory⟩
    apply stays
    rw [LayerWorld.isDir, there]
    exact ⟨directory, gone⟩

theorem same_cleaned (failure : LayerFailure) :
    Same world (runOn handling failure destination (cleanupPartialLayer handling destination world)) := by
  have removed : Same world (cleanupPartialLayer handling destination world) := by
    rw [cleanupPartialLayer]
    split
    · exact same_remove
    · exact Same.refl world
  rw [runOn]
  split
  · exact removed.trans _ _ _ (same_put _)
  · exact removed

theorem keeps_handleAt : Action.Keeps Same (handleAt layer diffId handling destination) := by
  intro world
  have unpacks := @keeps_unpackVerified handling layer diffId destination world
  rw [handleAt]
  split
  · rename_i layerMeta next ran
    rw [ran] at unpacks
    exact unpacks
  · rename_i failure next ran
    rw [ran] at unpacks
    exact unpacks.trans _ _ _ (same_cleaned failure)

theorem handleAt_error {error : String} (ran : handleAt layer diffId handling destination world = (.error error, after))
    (stays : DirectoryAt after.disk destination) :
    handling.cleanup ≠ none ∨ error = LayerFailure.timedOut.message ∧ handling.remade = true := by
  rw [handleAt] at ran
  split at ran
  · cases ran
  · rename_i failure next _
    cases ran
    by_contra removed
    rw [not_or, not_not] at removed
    refine cleaned failure removed.1 ?_ stays
    rintro ⟨rfl, again⟩
    exact removed.2 ⟨rfl, again⟩

theorem handleAt_ok {layerMeta : LayerMeta}
    (ran : handleAt layer diffId handling destination world = (.ok layerMeta, after)) :
    layerMeta.storePath = destination ∧ layerMeta.compressedDigest = layer.digest ∧
      layerMeta.uncompressedDigest = diffId ∧ HasDiffId diffId handling.stream ∧
      after.disk.lookup destination = some (.unpacked handling.stream) := by
  rw [handleAt] at ran
  split at ran
  · rename_i accepted
    cases ran
    exact unpackVerified_ok accepted
  · cases ran

/-- The handling as the pull sees it: what the unpacking comes to over these files. -/
def Handling.delivery (handling : Handling) (destination : Text) (world : LayerWorld) : Delivery where
  decryptKey := handling.decryptKey
  plaintextLayer := handling.plaintextLayer
  stream := handling.stream
  unpacked := (asyncProcessing handling destination world).1.mapError LayerFailure.message
  compressedBytes := handling.compressedBytes

theorem delivered_digest : asyncDecompressUnpackLayer (handling.delivery destination world) diffId mediaType =
    (decompressUnpackLayer handling diffId mediaType destination world).1.mapError LayerFailure.message := by
  unfold asyncDecompressUnpackLayer decompressUnpackLayer Handling.delivery
  rw [Action.bind_apply]
  cases Compression.tryFrom mediaType with
  | error error => rfl
  | ok compression =>
    change (streamDigest diffId handling.stream >>= fun digest =>
        (asyncProcessing handling destination world).1.mapError LayerFailure.message >>= fun _ => pure digest) =
      ((Action.ofExcept ((streamDigest diffId handling.stream).mapError .failed) >>= fun digest =>
        asyncProcessing handling destination >>= fun _ => pure digest) world).1.mapError LayerFailure.message
    cases streamDigest diffId handling.stream with
    | error error => rfl
    | ok digest =>
      change ((asyncProcessing handling destination world).1.mapError LayerFailure.message >>= fun _ => pure digest) =
        ((asyncProcessing handling destination >>= fun _ => pure digest) world).1.mapError LayerFailure.message
      rw [Action.bind_apply]
      rcases asyncProcessing handling destination world with ⟨failure | done, next⟩
      · rfl
      · rfl

theorem delivered_layer : uncompressedDigest layer diffId (handling.delivery destination world) =
    (unpackLayer layer diffId handling destination world).1.mapError LayerFailure.message := by
  unfold uncompressedDigest unpackLayer
  by_cases encrypted : (Decryptor.fromMediaType layer.mediaType).encrypted = true
  · rw [if_pos encrypted, if_pos encrypted, delivered_digest]
    unfold unpackEncrypted
    rw [Action.bind_apply]
    cases key : handling.decryptKey with
    | error error =>
      rw [show (handling.delivery destination world).decryptKey = .error error from key]
      rfl
    | ok found =>
      rw [show (handling.delivery destination world).decryptKey = .ok found from key]
      change (handling.plaintextLayer >>= fun _ => _) = ((Action.ofExcept (handling.plaintextLayer.mapError .failed) >>=
        fun _ => decompressUnpackLayer handling diffId _ destination) world).1.mapError LayerFailure.message
      cases handling.plaintextLayer with
      | error error => rfl
      | ok plain => rfl
  · rw [if_neg encrypted, if_neg encrypted, delivered_digest]
    unfold unpackPlain
    rw [Action.bind_apply]
    rcases decompressUnpackLayer handling diffId layer.mediaType destination world with ⟨failure | digest, next⟩
    · rfl
    · change (if 0 < layer.size ∧ (handling.compressedBytes : Int) ≠ layer.size then _ else _) = _
      dsimp only
      split
      · rfl
      · rfl

/-- Over the files, the layer is handled as the pull handles it. -/
theorem handleAt_result : (handleAt layer diffId handling destination world).1 =
    asyncHandleLayer layer diffId destination (handling.delivery destination world) := by
  unfold handleAt asyncHandleLayer unpackVerified
  rw [delivered_layer, Action.bind_apply]
  rcases unpackLayer layer diffId handling destination world with ⟨failure | digest, next⟩
  · rfl
  · change _ = if digest ≠ diffId then _ else _
    dsimp only
    split
    · rename_i failed
      split at failed
      · cases failed
      · rename_i same
        rw [if_neg same]
        cases failed
        rfl
    · rename_i failed
      split at failed
      · rename_i other
        rw [if_pos other]
        cases failed
        rfl
      · cases failed

end Facts

section Results

/-- A layer whose entries cannot be read, over a directory that cannot be removed. -/
def stuckHandling : Handling where
  decryptKey := .error "no key"
  plaintextLayer := .error "no cipher"
  stream := []
  removeOld := none
  createDir := none
  escapes := id
  entries := some (.fails "unexpected end of file")
  rollBack := some (.fails "device or resource busy")
  compressedBytes := 0
  cleanup := some "device or resource busy"
  remade := false

def plainLayer : OciDescriptor := ⟨imageLayerMediaType, zeroDigest, 0, []⟩

/-- The layer is in the store, with the diff id it was pulled for. -/
def pulledBefore : LayerWorld where
  disk := AList.insert "/run/image-rs/layers/0".toList (.unpacked []) ∅
  metaStore := MetaStore.empty.extendLayers
    [⟨.gzip, false, zeroDigest, emptyDigest, "/run/image-rs/layers/0".toList⟩]
  layerStore := ⟨"/run/image-rs/layers".toList, 1⟩

/-- A layer that the store does not have. -/
def pulledFirst : LayerWorld := ⟨∅, MetaStore.empty, ⟨"/run/image-rs/layers".toList, 0⟩⟩

end Results

end GuestComponents.Image.LayerCleanup
