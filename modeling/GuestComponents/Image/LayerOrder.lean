import GuestComponents.Image.LayerPull
import GuestComponents.Lib.Buffered
import GuestComponents.Lib.Panic

/-! `pull.rs`: the layers of an image are pulled side by side, each with its own attempts,
and their records are put into the order of the layers at the end. The layer database, the
registry and what an attempt unpacks answer as they like, from attempt to attempt and from
layer to layer. `layers_in_order` says which records come back, and when there is an error
instead, for every order in which the layers come to their ends. -/
namespace GuestComponents.Image
open Lib Lib.Text

/-- What the task of a layer does one after the other. -/
inductive LayerOp where
  /-- `meta_store.read().await.layer_db.get`. -/
  | layerDb (digest : Text)
  /-- `pull_blob_stream`, with its timeout. -/
  | pullBlobStream (layer : OciDescriptor)
  | newLayerStorePath
  /-- The delivery of the stream of a layer, while it is unpacked. -/
  | unpackLayer (layer : OciDescriptor) (diffId destination : Text)
  | cleanupPartialLayer (destination : Text)
  | sleep (seconds : Nat)

@[reducible] def LayerOp.Answer : LayerOp → Type
  | layerDb _ => Option LayerMeta
  | pullBlobStream _ => Except String Unit
  | newLayerStorePath => Text
  | unpackLayer _ _ _ => Delivery
  | cleanupPartialLayer _ => Unit
  | sleep _ => Unit

theorem LayerOp.some_answer (op : LayerOp) : Nonempty op.Answer := by
  cases op with
  | layerDb digest => exact ⟨none⟩
  | pullBlobStream layer => exact ⟨.ok ()⟩
  | newLayerStorePath => exact ⟨[]⟩
  | unpackLayer layer diffId destination => exact ⟨⟨.ok [], .ok (), [], .ok (), 0⟩⟩
  | cleanupPartialLayer destination => exact ⟨()⟩
  | sleep seconds => exact ⟨()⟩

abbrev LayerProgram := Program LayerOp LayerOp.Answer

abbrev LayerEvent := Event LayerOp LayerOp.Answer

namespace LayerProgram

def layerDb (digest : Text) : LayerProgram (Option LayerMeta) := Program.perform (LayerOp.layerDb digest)

def pullBlobStream (layer : OciDescriptor) : LayerProgram (Except String Unit) :=
  Program.perform (LayerOp.pullBlobStream layer)

def newLayerStorePath : LayerProgram Text := Program.perform LayerOp.newLayerStorePath

def unpackLayer (layer : OciDescriptor) (diffId destination : Text) : LayerProgram Delivery :=
  Program.perform (LayerOp.unpackLayer layer diffId destination)

def cleanupPartialLayer (destination : Text) : LayerProgram Unit :=
  Program.perform (LayerOp.cleanupPartialLayer destination)

def sleep (seconds : Nat) : LayerProgram Unit := Program.perform (LayerOp.sleep seconds)

end LayerProgram

open LayerProgram

/-- The end of `async_handle_layer`: a layer that is not accepted is cleaned up. -/
def finishLayer (destination : Text) : Except String LayerMeta → LayerProgram (Except String LayerMeta)
  | .ok layerMeta => pure (.ok layerMeta)
  | .error error => do
    cleanupPartialLayer destination
    pure (.error error)

/-- `async_handle_layer` with its look at the layer database and its cleanup. -/
def handleLayer (layer : OciDescriptor) (diffId : Text) : LayerProgram (Except String LayerMeta) := do
  match ← layerDb layer.digest with
  | some layerMeta => pure (.ok layerMeta)
  | none =>
    let destination ← newLayerStorePath
    let delivery ← unpackLayer layer diffId destination
    finishLayer destination (asyncHandleLayer layer diffId destination delivery)

/-- The context that `pull_layer_once` gives to an error of `async_handle_layer`. -/
def handleContext (index : Nat) (layer : OciDescriptor) (error : String) : String :=
  let digest := String.ofList layer.digest
  let size := layer.size
  let mediaType := String.ofList layer.mediaType
  s!"failed to handle image layer index={index}, digest={digest}, size={size}, media_type={mediaType}: " ++
    error

def pullLayerOnce (index : Nat) (layer : OciDescriptor) (diffId : Text) :
    LayerProgram (Except String LayerMeta) := do
  match ← pullBlobStream layer with
  | .error error => pure (.error error)
  | .ok () =>
    let handled ← handleLayer layer diffId
    pure (handled.mapError (handleContext index layer))

/-- The pause after a failed attempt, if another one follows. -/
def pauseAfter (attempt : Nat) : LayerProgram Unit :=
  if attempt < layerPullAttempts then sleep (attempt * 2) else pure ()

/-- The error of `pull_layer_with_retry` after the last attempt. -/
def attemptsFailed (index : Nat) (layer : OciDescriptor) (lastError : Option String) : String :=
  let digest := String.ofList layer.digest
  let last := lastError.getD "unknown"
  s!"failed to pull image layer after {layerPullAttempts} attempts: index={index}, digest={digest}, last_error={last}"

/-- The loop of `pull_layer_with_retry`, with so many attempts left. -/
def pullLayerAttempts (index : Nat) (layer : OciDescriptor) (diffId : Text) :
    Nat → Option String → LayerProgram (Except String LayerMeta)
  | 0, lastError => pure (.error (attemptsFailed index layer lastError))
  | remaining + 1, _ => do
    match ← layerDb layer.digest with
    | some layerMeta => pure (.ok layerMeta)
    | none =>
      match ← pullLayerOnce index layer diffId with
      | .ok layerMeta => pure (.ok layerMeta)
      | .error error =>
        pauseAfter (layerPullAttempts - remaining)
        pullLayerAttempts index layer diffId remaining (some error)

def pullLayerWithRetry (index : Nat) (layer : OciDescriptor) (diffId : Text) :
    LayerProgram (Except String LayerMeta) :=
  pullLayerAttempts index layer diffId layerPullAttempts none

/-- The task of a layer. It reads its diff id by the number of the layer. -/
def layerTask (diffIds : List Text) (layer : OciDescriptor × Nat) :
    LayerProgram (Except (Fault String) LayerMeta) :=
  match diffIds[layer.2]? with
  | none => pure (.error (.panic "index out of bounds"))
  | some diffId => do
    let pulled ← pullLayerWithRetry layer.2 layer.1 diffId
    pure (pulled.mapError .error)

def layerTasks (layerDescs : List OciDescriptor) (diffIds : List Text) :
    List (LayerProgram (Except (Fault String) LayerMeta)) :=
  layerDescs.zipIdx.map (layerTask diffIds)

/-- `async_pull_layers`: `buffer_unordered`, `try_collect` and the map by the numbers of the layers. -/
def asyncPullLayers (maxConcurrentDownload : Nat) (layerDescs : List OciDescriptor) (diffIds : List Text) :
    System (Collect.State LayerOp LayerOp.Answer (Fault String) LayerMeta)
      (Collect.Label LayerOp LayerOp.Answer) :=
  Collect.system maxConcurrentDownload (layerTasks layerDescs diffIds)

/-- The record is what the layer database has for the layer's digest, or that of a layer
unpacked for this digest and diff id. -/
inductive ObtainedFor (layer : OciDescriptor) (diffId : Text) (events : List LayerEvent) :
    LayerMeta → Prop where
  | cached {layerMeta : LayerMeta} : ⟨.layerDb layer.digest, some layerMeta⟩ ∈ events →
      ObtainedFor layer diffId events layerMeta
  | unpacked {layerMeta : LayerMeta} {destination : Text} {delivery : Delivery} :
      ⟨.unpackLayer layer diffId destination, delivery⟩ ∈ events →
      asyncHandleLayer layer diffId destination delivery = .ok layerMeta →
      ObtainedFor layer diffId events layerMeta

/-- The events of an attempt that fails: the layer is not in the layer database, it is not
pulled, and there may be a pause. -/
def FailedAttempt (index : Nat) (layer : OciDescriptor) (diffId : Text) (events : List LayerEvent) : Prop :=
  ∃ pull pause error, events = ⟨.layerDb layer.digest, none⟩ :: (pull ++ pause) ∧
    (pullLayerOnce index layer diffId).Leaves pull (.done (.error error))

variable {index : Nat} {layer : OciDescriptor} {diffId : Text} {events : List LayerEvent}
  {layerMeta : LayerMeta} {error : String}

theorem leaves_perform {op : LayerOp} {answer : op.Answer}
    (leaves : (Program.perform op).Leaves events (.done answer)) : events = [⟨op, answer⟩] := by
  rcases Program.leaves_call leaves with ⟨_, impossible⟩ | ⟨first, rest, rfl, ended⟩
  · cases impossible
  · obtain ⟨rfl, same⟩ := Program.leaves_done ended
    cases same
    rfl

theorem leaves_pure {α : Type} {value result : α}
    (leaves : (pure value : LayerProgram α).Leaves events (.done result)) : events = [] ∧ result = value := by
  obtain ⟨rfl, same⟩ := Program.leaves_done leaves
  cases same
  exact ⟨rfl, rfl⟩

theorem ObtainedFor.mono {events' : List LayerEvent} (obtained : ObtainedFor layer diffId events layerMeta)
    (sub : events ⊆ events') : ObtainedFor layer diffId events' layerMeta := by
  cases obtained with
  | cached found => exact .cached (sub found)
  | unpacked delivered handled => exact .unpacked (sub delivered) handled

theorem finishLayer_ok {destination : Text} {outcome : Except String LayerMeta}
    (leaves : (finishLayer destination outcome).Leaves events (.done (.ok layerMeta))) :
    outcome = .ok layerMeta := by
  cases outcome with
  | ok value =>
    cases (leaves_pure leaves).2
    rfl
  | error error =>
    obtain ⟨before, after, given, rfl, _, last⟩ := leaves.bind
    cases (leaves_pure last).2

theorem handleLayer_ok (leaves : (handleLayer layer diffId).Leaves events (.done (.ok layerMeta))) :
    ObtainedFor layer diffId events layerMeta := by
  obtain ⟨_, _, record, rfl, look, looked⟩ := leaves.bind
  cases leaves_perform look
  cases record with
  | some record =>
    obtain ⟨rfl, same⟩ := leaves_pure looked
    cases same
    exact .cached (by simp)
  | none =>
    obtain ⟨_, _, destination, rfl, _, placed⟩ := looked.bind
    obtain ⟨_, _, delivery, rfl, unpack, unpacked⟩ := placed.bind
    cases leaves_perform unpack
    exact .unpacked (by simp) (finishLayer_ok unpacked)

theorem pullLayerOnce_ok (leaves : (pullLayerOnce index layer diffId).Leaves events (.done (.ok layerMeta))) :
    ObtainedFor layer diffId events layerMeta := by
  obtain ⟨_, _, stream, rfl, _, opened⟩ := leaves.bind
  cases stream with
  | error error => cases (leaves_pure opened).2
  | ok =>
    obtain ⟨_, _, outcome, rfl, handle, handled⟩ := opened.bind
    obtain ⟨rfl, same⟩ := leaves_pure handled
    cases outcome with
    | error error => cases same
    | ok record =>
      cases same
      exact (handleLayer_ok handle).mono (by simp)

/-- A layer is obtained for its own digest and diff id, by whatever attempt. -/
theorem pullLayerAttempts_ok {remaining : Nat} {lastError : Option String}
    (leaves : (pullLayerAttempts index layer diffId remaining lastError).Leaves events
      (.done (.ok layerMeta))) : ObtainedFor layer diffId events layerMeta := by
  induction remaining generalizing events lastError with
  | zero => cases (leaves_pure leaves).2
  | succ remaining ih =>
    obtain ⟨_, _, record, rfl, look, looked⟩ := leaves.bind
    cases leaves_perform look
    cases record with
    | some record =>
      obtain ⟨rfl, same⟩ := leaves_pure looked
      cases same
      exact .cached (by simp)
    | none =>
      obtain ⟨_, _, outcome, rfl, pull, pulled⟩ := looked.bind
      cases outcome with
      | ok record =>
        obtain ⟨rfl, same⟩ := leaves_pure pulled
        cases same
        exact (pullLayerOnce_ok pull).mono (by simp)
      | error error =>
        obtain ⟨_, _, _, rfl, _, paused⟩ := pulled.bind
        apply (ih paused).mono
        intro event listed
        simp [listed]

/-- The loop fails only after all the attempts that were left have failed. -/
theorem pullLayerAttempts_error {remaining : Nat} {lastError : Option String}
    (leaves : (pullLayerAttempts index layer diffId remaining lastError).Leaves events
      (.done (.error error))) :
    ∃ attempts : List (List LayerEvent), attempts.length = remaining ∧ events = attempts.flatten ∧
      ∀ attempt ∈ attempts, FailedAttempt index layer diffId attempt := by
  induction remaining generalizing events lastError with
  | zero =>
    obtain ⟨rfl, _⟩ := leaves_pure leaves
    exact ⟨[], rfl, rfl, by simp⟩
  | succ remaining ih =>
    obtain ⟨_, _, record, rfl, look, looked⟩ := leaves.bind
    cases leaves_perform look
    cases record with
    | some record => cases (leaves_pure looked).2
    | none =>
      obtain ⟨pull, _, outcome, rfl, failing, pulled⟩ := looked.bind
      cases outcome with
      | ok record => cases (leaves_pure pulled).2
      | error error =>
        obtain ⟨pause, _, _, rfl, _, paused⟩ := pulled.bind
        obtain ⟨attempts, length, rfl, failed⟩ := ih paused
        refine ⟨(⟨.layerDb layer.digest, none⟩ :: (pull ++ pause)) :: attempts, ?_, ?_, ?_⟩
        · rw [List.length_cons, length]
        · simp
        · intro attempt listed
          rcases List.mem_cons.mp listed with rfl | earlier
          · exact ⟨pull, pause, error, rfl, failing⟩
          · exact failed attempt earlier

section Tasks

variable {layerDescs : List OciDescriptor} {diffIds : List Text} {limit : Nat}
  {state : Collect.State LayerOp LayerOp.Answer (Fault String) LayerMeta}

theorem layerTasks_getElem? (listed : layerDescs[index]? = some layer) :
    (layerTasks layerDescs diffIds)[index]? = some (layerTask diffIds (layer, index)) := by
  rw [layerTasks, List.getElem?_map, List.getElem?_zipIdx, listed]
  simp

/-- What the task of a layer returns is what the attempts of that layer return. -/
theorem layerTask_leaves {result : Except (Fault String) LayerMeta} (named : diffIds[index]? = some diffId)
    (leaves : (layerTask diffIds (layer, index)).Leaves events (.done result)) :
    ∃ pulled, (pullLayerWithRetry index layer diffId).Leaves events (.done pulled) ∧
      result = pulled.mapError .error := by
  rw [layerTask, named] at leaves
  obtain ⟨_, _, pulled, rfl, pulling, rest⟩ := leaves.bind
  obtain ⟨rfl, same⟩ := leaves_pure rest
  rw [List.append_nil]
  exact ⟨pulled, pulling, same⟩

/-- Every attempt has at most seven operations. -/
theorem pullLayerAttempts_atMost (remaining : Nat) (lastError : Option String) :
    (pullLayerAttempts index layer diffId remaining lastError).AtMost (fun _ => True) (7 * remaining) := by
  induction remaining generalizing lastError with
  | zero => exact Program.atMost_pure _
  | succ remaining ih =>
    have once : (pullLayerOnce index layer diffId).AtMost (fun _ => True) 5 := by
      apply Program.AtMost.bind (n := 1) (m := 4) (Program.atMost_perform _)
      rintro (error | ⟨⟩)
      · exact Program.atMost_pure _
      · apply Program.AtMost.bind (n := 4) (m := 0) _ fun _ => Program.atMost_pure _
        apply Program.AtMost.bind (n := 1) (m := 3) (Program.atMost_perform _)
        rintro (⟨⟩ | record)
        · apply Program.AtMost.bind (n := 1) (m := 2) (Program.atMost_perform _)
          intro destination
          apply Program.AtMost.bind (n := 1) (m := 1) (Program.atMost_perform _)
          intro delivery
          cases asyncHandleLayer layer diffId destination delivery with
          | ok record => exact Program.atMost_pure _
          | error error =>
            exact Program.AtMost.bind (n := 1) (m := 0) (Program.atMost_perform _)
              fun _ => Program.atMost_pure _
        · exact Program.atMost_pure _
    have pause : ∀ attempt, (pauseAfter attempt).AtMost (fun _ => True) 1 := by
      intro attempt
      rw [pauseAfter]
      split
      · exact Program.atMost_perform _
      · exact Program.atMost_pure _
    have bound : 7 * (remaining + 1) = 1 + (5 + (1 + 7 * remaining)) := by omega
    rw [bound]
    apply Program.AtMost.bind (Program.atMost_perform _)
    rintro (⟨⟩ | record)
    · apply Program.AtMost.bind once
      rintro (error | record)
      · exact Program.AtMost.bind (pause _) fun _ => ih _
      · exact Program.atMost_pure _
    · exact Program.atMost_pure _

theorem layerTasks_atMost : ∀ task ∈ layerTasks layerDescs diffIds, task.AtMost (fun _ => True) 21 := by
  intro task listed
  obtain ⟨⟨layer, index⟩, _, rfl⟩ := List.mem_map.mp listed
  rw [layerTask]
  split
  · exact Program.atMost_pure _
  · exact Program.AtMost.bind (n := 21) (m := 0) (pullLayerAttempts_atMost layerPullAttempts none)
      fun _ => Program.atMost_pure _

/-- This record came back for the layer with this number. -/
def Obtains (layerDescs : List OciDescriptor) (diffIds : List Text)
    (state : Collect.State LayerOp LayerOp.Answer (Fault String) LayerMeta) (index : Nat)
    (layerMeta : LayerMeta) : Prop :=
  ∃ layer diffId, layerDescs[index]? = some layer ∧ diffIds[index]? = some diffId ∧
    (pullLayerWithRetry index layer diffId).Leaves (state.events index) (.done (.ok layerMeta)) ∧
    ObtainedFor layer diffId (state.events index) layerMeta

/-- The layer with this number has failed in all of its attempts, with this error. -/
def FailsAll (layerDescs : List OciDescriptor) (diffIds : List Text)
    (state : Collect.State LayerOp LayerOp.Answer (Fault String) LayerMeta) (index : Nat)
    (message : String) : Prop :=
  ∃ layer diffId, layerDescs[index]? = some layer ∧ diffIds[index]? = some diffId ∧
    (pullLayerWithRetry index layer diffId).Leaves (state.events index) (.done (.error message)) ∧
    ∃ attempts : List (List LayerEvent), attempts.length = layerPullAttempts ∧
      state.events index = attempts.flatten ∧ ∀ attempt ∈ attempts, FailedAttempt index layer diffId attempt

theorem task_named (paired : layerDescs.length = diffIds.length) {index : Nat}
    {task : LayerProgram (Except (Fault String) LayerMeta)}
    (listed : (layerTasks layerDescs diffIds)[index]? = some task) :
    ∃ layer diffId, layerDescs[index]? = some layer ∧ diffIds[index]? = some diffId ∧
      task = layerTask diffIds (layer, index) := by
  have bound : index < layerDescs.length := by
    have below := (List.getElem?_eq_some_iff.mp listed).1
    rwa [layerTasks, List.length_map, List.length_zipIdx] at below
  have layer : layerDescs[index]? = some layerDescs[index] := List.getElem?_eq_getElem bound
  have named : index < diffIds.length := by rwa [← paired]
  have diffId : diffIds[index]? = some diffIds[index] := List.getElem?_eq_getElem named
  refine ⟨_, _, layer, diffId, ?_⟩
  rw [layerTasks_getElem? layer] at listed
  exact (Option.some.inj listed).symm

/-- A task that ends well has obtained its record. -/
theorem task_obtains (paired : layerDescs.length = diffIds.length)
    {task : LayerProgram (Except (Fault String) LayerMeta)}
    (listed : (layerTasks layerDescs diffIds)[index]? = some task)
    (leaves : task.Leaves (state.events index) (.done (.ok layerMeta))) :
    Obtains layerDescs diffIds state index layerMeta := by
  obtain ⟨layer, diffId, described, named, rfl⟩ := task_named paired listed
  obtain ⟨pulled, pulling, same⟩ := layerTask_leaves named leaves
  cases pulled with
  | error error => cases same
  | ok record =>
    cases same
    exact ⟨layer, diffId, described, named, pulling, pullLayerAttempts_ok pulling⟩

/-- A task that ends with an error has failed in all of its attempts. -/
theorem task_fails (paired : layerDescs.length = diffIds.length) {fault : Fault String}
    {task : LayerProgram (Except (Fault String) LayerMeta)}
    (listed : (layerTasks layerDescs diffIds)[index]? = some task)
    (leaves : task.Leaves (state.events index) (.done (.error fault))) :
    ∃ message, fault = .error message ∧ FailsAll layerDescs diffIds state index message := by
  obtain ⟨layer, diffId, described, named, rfl⟩ := task_named paired listed
  obtain ⟨pulled, pulling, same⟩ := layerTask_leaves named leaves
  cases pulled with
  | ok record => cases same
  | error message =>
    cases same
    exact ⟨message, rfl, layer, diffId, described, named, pulling, pullLayerAttempts_error pulling⟩

theorem Obtains.not_failsAll {message : String} (obtains : Obtains layerDescs diffIds state index layerMeta) :
    ¬ FailsAll layerDescs diffIds state index message := by
  rintro ⟨layer', diffId', described', named', failing, _⟩
  obtain ⟨layer, diffId, described, named, pulling, _⟩ := obtains
  rw [described] at described'
  rw [named] at named'
  cases described'
  cases named'
  cases pulling.unique failing

/-- The layers come back in their order, each with a record obtained for its own digest and
diff id, exactly if none of them fails in all of its attempts; and every run comes to that. -/
theorem layers_in_order (positive : 0 < limit) (paired : layerDescs.length = diffIds.length)
    (reached : (asyncPullLayers limit layerDescs diffIds).Reachable System.Free state) :
    (∀ layerMetas, state.result = some (.ok layerMetas) → layerMetas.length = layerDescs.length ∧
      ∀ index layerMeta, layerMetas[index]? = some layerMeta →
        Obtains layerDescs diffIds state index layerMeta) ∧
    (∀ fault, state.result = some (.error fault) → ∃ index message, fault = .error message ∧
      FailsAll layerDescs diffIds state index message) ∧
    (∀ result, state.result = some result →
      (∀ index < layerDescs.length, ∃ layerMeta, Obtains layerDescs diffIds state index layerMeta) →
      ∃ layerMetas, result = .ok layerMetas) ∧
    (∀ result index message, state.result = some result → FailsAll layerDescs diffIds state index message →
      ∃ message', result = .error (.error message')) ∧
    (state.result = none →
      ∃ label next, (asyncPullLayers limit layerDescs diffIds).step state label = some next) ∧
    ∀ labels final, (asyncPullLayers limit layerDescs diffIds).exec
        ⟨(layerTasks layerDescs diffIds).map .queued, [], [], none⟩ labels = some final →
      labels.length ≤ layerDescs.length * 23 + 1 := by
  have sound := Collect.sound_reachable reached
  have length : (layerTasks layerDescs diffIds).length = layerDescs.length := by
    rw [layerTasks, List.length_map, List.length_zipIdx]
  have well : ∀ layerMetas, state.result = some (.ok layerMetas) → layerMetas.length = layerDescs.length ∧
      ∀ index layerMeta, layerMetas[index]? = some layerMeta →
        Obtains layerDescs diffIds state index layerMeta := by
    intro layerMetas ended
    obtain ⟨lengths, records⟩ := sound.ok ended
    rw [length] at lengths
    constructor
    · exact lengths
    · intro index layerMeta found
      have bound : index < (layerTasks layerDescs diffIds).length := by
        rw [length, ← lengths]
        exact (List.getElem?_eq_some_iff.mp found).1
      have listed := List.getElem?_eq_getElem bound
      obtain ⟨record, here, leaves⟩ := records index _ listed
      rw [found] at here
      cases here
      exact task_obtains paired listed leaves
  have badly : ∀ fault, state.result = some (.error fault) → ∃ index message, fault = .error message ∧
      FailsAll layerDescs diffIds state index message := by
    intro fault ended
    obtain ⟨index, task, listed, leaves⟩ := sound.failed fault ended
    obtain ⟨message, rfl, fails⟩ := task_fails paired listed leaves
    exact ⟨index, message, rfl, fails⟩
  refine ⟨well, badly, ?_, ?_, ?_, ?_⟩
  · intro result ended obtained
    cases result with
    | ok layerMetas => exact ⟨layerMetas, rfl⟩
    | error fault =>
      obtain ⟨index, message, rfl, fails⟩ := badly fault ended
      have bound : index < layerDescs.length := by
        obtain ⟨_, _, described, _⟩ := fails
        exact (List.getElem?_eq_some_iff.mp described).1
      obtain ⟨layerMeta, obtains⟩ := obtained index bound
      exact absurd fails obtains.not_failsAll
  · intro result index message ended fails
    cases result with
    | ok layerMetas =>
      obtain ⟨lengths, records⟩ := well layerMetas ended
      have bound : index < layerMetas.length := by
        obtain ⟨_, _, described, _⟩ := fails
        rw [lengths]
        exact (List.getElem?_eq_some_iff.mp described).1
      exact absurd fails (records index _ (List.getElem?_eq_getElem bound)).not_failsAll
    | error fault =>
      obtain ⟨_, message', rfl, _⟩ := badly fault ended
      exact ⟨message', rfl⟩
  · exact Collect.progress positive LayerOp.some_answer
  · intro labels final ran
    have bound := Collect.exec_length layerTasks_atMost ran
    rwa [length] at bound

end Tasks

section Sample

/-- A registry that does not answer, and a layer database with this record. -/
def unreachable (record : Option LayerMeta) : (op : LayerOp) → op.Answer
  | .layerDb _ => record
  | .pullBlobStream _ => .error "failed to async pull blob stream"
  | .newLayerStorePath => []
  | .unpackLayer _ _ _ => ⟨.ok [], .ok (), [], .ok (), 0⟩
  | .cleanupPartialLayer _ => ()
  | .sleep _ => ()

def sampleLayer (name : String) : OciDescriptor := ⟨imageLayerMediaType, name.toList, 0, []⟩

def sampleRecord (name : String) : LayerMeta := ⟨.gzip, false, name.toList, name.toList, name.toList⟩

/-- The second layer is found at once, the first one in its second attempt. -/
def sampleLabels : List (Collect.Label LayerOp LayerOp.Answer) :=
  [.start, .start, .answer 1 (unreachable (some (sampleRecord "upper"))), .collect 1,
    .answer 0 (unreachable none), .answer 0 (unreachable none), .answer 0 (unreachable none),
    .answer 0 (unreachable (some (sampleRecord "lower"))), .collect 0, .finish]

theorem second_layer_first :
    let layers := [sampleLayer "lower", sampleLayer "upper"]
    let diffIds := ["lower".toList, "upper".toList]
    ∃ state, (asyncPullLayers 2 layers diffIds).Reachable System.Free state ∧
      state.result = some (.ok [sampleRecord "lower", sampleRecord "upper"]) ∧
      ∀ index layerMeta, [sampleRecord "lower", sampleRecord "upper"][index]? = some layerMeta →
        Obtains layers diffIds state index layerMeta := by
  intro layers diffIds
  have ran : ∃ state, (asyncPullLayers 2 layers diffIds).exec
      ⟨(layerTasks layers diffIds).map .queued, [], [], none⟩ sampleLabels = some state ∧
      state.result = some (.ok [sampleRecord "lower", sampleRecord "upper"]) := ⟨_, rfl, rfl⟩
  obtain ⟨state, ran, ended⟩ := ran
  have reached : (asyncPullLayers 2 layers diffIds).Reachable System.Free state :=
    System.reachable_of_exec rfl (fun _ _ _ => trivial) ran
  exact ⟨state, reached, ended, ((layers_in_order (by decide) rfl reached).1 _ ended).2⟩

end Sample

end GuestComponents.Image
