import Mathlib.Data.Set.Function
import GuestComponents.Lib.AllOrNothing
import GuestComponents.Lib.Sha2
import GuestComponents.Lib.Text
import GuestComponents.Lib.Transition

/-! `resource/kbs/mod.rs`: a resource of the KBS is kept in a file under the SHA-256 of its URI,
and a file that is there is what later calls return. A file that was cut off while it was written is there
as well (`cut_copy_served`); without one, and where no two URIs have one hash, every resource
that is returned is one that the KBS returned for that URI (`cached_resources_genuine`). -/
namespace GuestComponents.Image.ResourceCache
open Lib Lib.Text

structure SecureChannel where
  storagePath : Text

/-- `get_filepath`. -/
def getFilepath (channel : SecureChannel) (uri : Text) : Text :=
  channel.storagePath ++ '/' :: hexEncode (Sha2.sha256.digest (utf8 uri))

/-- The files, and what the KBS has returned in full so far, with its URI. -/
structure World where
  files : Text → Option (List UInt8)
  released : List (Text × List UInt8)

/-- The world with a file. -/
def World.keep (path : Text) (content : List UInt8) (world : World) : World :=
  { world with files := Function.update world.files path (some content) }

/-- The world after the KBS has returned a resource. -/
def World.release (uri : Text) (resource : List UInt8) (world : World) : World :=
  { world with released := (uri, resource) :: world.released }

/-- `fs::write` creates the file, or empties it, and then writes it. -/
inductive WriteAnswer where
  | refused (error : String)
  | cutOff (written : Nat) (error : String)
  | done

/-- What is answered in one call. -/
structure Answers where
  /-- `Path::exists` is false where `stat` fails. -/
  stat : Bool
  read : Option String
  kbs : Except String (List UInt8)
  write : WriteAnswer

abbrev ChannelAction := Action World String

def write (answer : WriteAnswer) (path : Text) (content : List UInt8) : ChannelAction Unit := fun world =>
  match answer with
  | .refused error => (.error error, world)
  | .cutOff written error => (.error error, world.keep path (content.take written))
  | .done => (.ok (), world.keep path content)

/-- `client.get_resource`, by any of the clients. -/
def clientGetResource (answers : Answers) (uri : Text) : ChannelAction (List UInt8) := fun world =>
  match answers.kbs with
  | .error error => (.error error, world)
  | .ok resource => (.ok resource, world.release uri resource)

def checkLocal (channel : SecureChannel) (answers : Answers) (uri : Text) : ChannelAction (Option (List UInt8)) :=
  fun world =>
    match world.files (getFilepath channel uri) with
    | none => (.ok none, world)
    | some contents =>
      if answers.stat then
        match answers.read with
        | some error => (.error error, world)
        | none => (.ok (some contents), world)
      else (.ok none, world)

/-- A resource that is fetched and kept. -/
def fetch (channel : SecureChannel) (answers : Answers) (uri : Text) : ChannelAction (List UInt8) := do
  let res ← clientGetResource answers uri
  write answers.write (getFilepath channel uri) res
  pure res

def getResource (channel : SecureChannel) (answers : Answers) (uri : Text) : ChannelAction (List UInt8) := do
  match ← checkLocal channel answers uri with
  | some res => pure res
  | none => fetch channel answers uri

section Runs

/-- A call with its answers. -/
structure Call where
  uri : Text
  answers : Answers

/-- The world, and what the calls have returned. -/
structure State where
  world : World
  returned : List (Text × List UInt8)

def State.call (channel : SecureChannel) (call : Call) (state : State) : State :=
  match getResource channel call.answers call.uri state.world with
  | (.ok bytes, world) => ⟨world, (call.uri, bytes) :: state.returned⟩
  | (.error _, world) => ⟨world, state.returned⟩

/-- Every copy is what the KBS returned for the URI. -/
def Genuine (channel : SecureChannel) (uris : Set Text) (world : World) : Prop :=
  ∀ uri ∈ uris, ∀ bytes, world.files (getFilepath channel uri) = some bytes → (uri, bytes) ∈ world.released

/-- Runs of calls for some URIs, from a storage with genuine copies only, such as an empty one. -/
def calls (channel : SecureChannel) (uris : Set Text) : System State Call where
  start state := Genuine channel uris state.world ∧ state.returned = []
  step state call := some (state.call channel call)

/-- A write that fails has not touched the file, or has written all of it. -/
def WriteAnswer.Whole (answer : WriteAnswer) (content : List UInt8) : Prop :=
  match answer with
  | .cutOff written _ => content.length ≤ written
  | _ => True

/-- The call is for one of the URIs, and what it writes is not cut off. -/
def Uncut (uris : Set Text) (_ : State) (call : Call) : Prop :=
  call.uri ∈ uris ∧ ∀ content, call.answers.kbs = .ok content → call.answers.write.Whole content

variable {channel : SecureChannel} {uris : Set Text} {call : Call} {state : State} {world world' : World}

@[simp] theorem World.keep_files (path other : Text) (content : List UInt8) :
    (world.keep path content).files other = if other = path then some content else world.files other := by
  by_cases same : other = path
  · rw [if_pos same, same]
    exact Function.update_self _ _ _
  · rw [if_neg same]
    exact Function.update_of_ne same _ _

/-- A write that is whole changes nothing or writes everything. -/
theorem write_whole {answer : WriteAnswer} {path : Text} {content : List UInt8} (whole : answer.Whole content) :
    (write answer path content world).2 = world ∨
      (write answer path content world).2 = world.keep path content := by
  cases answer with
  | refused error => exact .inl rfl
  | cutOff written error =>
    right
    rw [write, List.take_of_length_le whole]
  | done => exact .inr rfl

theorem write_released (answer : WriteAnswer) (path : Text) (content : List UInt8) :
    (write answer path content world).2.released = world.released := by
  cases answer <;> rfl

/-- What a call does: it returns the copy, or fails before anything is written, or fetches the
resource and writes it. -/
theorem getResource_cases (channel : SecureChannel) (answers : Answers) (uri : Text) (world : World) :
    (∃ contents, world.files (getFilepath channel uri) = some contents ∧
      getResource channel answers uri world = (.ok contents, world)) ∨
    (∃ error, getResource channel answers uri world = (.error error, world)) ∨
    ∃ resource, answers.kbs = .ok resource ∧
      getResource channel answers uri world =
        (write answers.write (getFilepath channel uri) resource >>= fun _ => pure resource)
          (world.release uri resource) := by
  have fetched : (∃ error, fetch channel answers uri world = (.error error, world)) ∨
      ∃ resource, answers.kbs = .ok resource ∧ fetch channel answers uri world =
        (write answers.write (getFilepath channel uri) resource >>= fun _ => pure resource)
          (world.release uri resource) := by
    cases transport : answers.kbs with
    | error error =>
      have failed : clientGetResource answers uri world = (.error error, world) := by rw [clientGetResource, transport]
      exact .inl ⟨error, Action.bind_error failed⟩
    | ok resource =>
      have ran : clientGetResource answers uri world = (.ok resource, world.release uri resource) := by
        rw [clientGetResource, transport]
      exact .inr ⟨resource, rfl, Action.bind_ok ran⟩
  have missing : checkLocal channel answers uri world = (.ok none, world) →
      getResource channel answers uri world = fetch channel answers uri world := fun ran => Action.bind_ok ran
  cases local_ : world.files (getFilepath channel uri) with
  | none => exact .inr (missing (by rw [checkLocal, local_]) ▸ fetched)
  | some contents =>
    cases found : answers.stat with
    | false => exact .inr (missing (by simp [checkLocal, local_, found]) ▸ fetched)
    | true =>
      cases refused : answers.read with
      | some error =>
        have failed : checkLocal channel answers uri world = (.error error, world) := by
          simp [checkLocal, local_, found, refused]
        exact .inr (.inl ⟨error, Action.bind_error failed⟩)
      | none =>
        have ran : checkLocal channel answers uri world = (.ok (some contents), world) := by
          simp [checkLocal, local_, found, refused]
        exact .inl ⟨contents, rfl, Action.bind_ok ran⟩

/-- Writing the resource of a URI keeps the copies genuine, where no other URI has its hash. -/
theorem Genuine.write (distinct : Set.InjOn (getFilepath channel) uris) (genuine : Genuine channel uris world)
    {uri : Text} (listed : uri ∈ uris) {resource : List UInt8} {answer : WriteAnswer} (whole : answer.Whole resource) :
    Genuine channel uris
      (ResourceCache.write answer (getFilepath channel uri) resource (world.release uri resource)).2 := by
  have kept : Genuine channel uris (world.release uri resource) := fun other among bytes copied =>
    List.mem_cons_of_mem _ (genuine other among bytes copied)
  rcases write_whole whole with same | written
  · rw [same]
    exact kept
  · rw [written]
    intro other among bytes copied
    by_cases same : getFilepath channel other = getFilepath channel uri
    · rw [World.keep_files, if_pos same] at copied
      cases copied
      rw [distinct among listed same]
      exact List.mem_cons_self
    · rw [World.keep_files, if_neg same] at copied
      exact kept other among bytes copied

/-- What was returned was released for the URI. -/
def Returned (state : State) : Prop := ∀ one ∈ state.returned, one ∈ state.world.released

theorem call_genuine (distinct : Set.InjOn (getFilepath channel) uris) (genuine : Genuine channel uris state.world)
    (returned : Returned state) (uncut : Uncut uris state call) :
    Genuine channel uris (state.call channel call).world ∧ Returned (state.call channel call) := by
  obtain ⟨listed, whole⟩ := uncut
  rw [State.call]
  rcases getResource_cases channel call.answers call.uri state.world with
    ⟨contents, copied, ran⟩ | ⟨error, ran⟩ | ⟨resource, transport, ran⟩
  · rw [ran]
    refine ⟨genuine, fun one among => ?_⟩
    rcases List.mem_cons.mp among with rfl | earlier
    · exact genuine _ listed _ copied
    · exact returned one earlier
  · rw [ran]
    exact ⟨genuine, returned⟩
  · have kept := genuine.write distinct listed (whole resource transport)
    have released := @write_released (state.world.release call.uri resource) call.answers.write
      (getFilepath channel call.uri) resource
    rcases written : write call.answers.write (getFilepath channel call.uri) resource
      (state.world.release call.uri resource)
      with ⟨result, after⟩
    rw [written] at kept released
    have released : after.released = (call.uri, resource) :: state.world.released := released
    cases result with
    | ok done =>
      rw [ran, Action.bind_ok written, Action.pure_eq]
      refine ⟨kept, fun one among => ?_⟩
      change one ∈ after.released
      rw [released]
      rcases List.mem_cons.mp among with rfl | earlier
      · exact List.mem_cons_self
      · exact List.mem_cons_of_mem _ (returned one earlier)
    | error error =>
      rw [ran, Action.bind_error written]
      refine ⟨kept, fun one among => ?_⟩
      change one ∈ after.released
      rw [released]
      exact List.mem_cons_of_mem _ (returned one among)

/-- In every run of calls for URIs of different hashes, in which no write is cut off, what the calls
return is what the KBS returned in full for the URI, and so is every copy. -/
theorem cached_resources_genuine (distinct : Set.InjOn (fun uri => Sha2.sha256.digest (utf8 uri)) uris)
    (reached : (calls channel uris).Reachable (Uncut uris) state) :
    (∀ uri bytes, (uri, bytes) ∈ state.returned → (uri, bytes) ∈ state.world.released) ∧
      Genuine channel uris state.world ∧ Set.InjOn (getFilepath channel) uris := by
  have apart : Set.InjOn (getFilepath channel) uris := by
    intro uri listed other among same
    have encoded : hexEncode (Sha2.sha256.digest (utf8 uri)) = hexEncode (Sha2.sha256.digest (utf8 other)) :=
      (List.cons.inj (List.append_cancel_left same)).2
    have hashes := congrArg hexDecode encoded
    rw [hexDecode_hexEncode, hexDecode_hexEncode] at hashes
    exact distinct listed among (Option.some.inj hashes)
  have invariant :=
    @System.Reachable.invariant _ _ _ _ _ (fun state => Genuine channel uris state.world ∧ Returned state)
    (by
      rintro state ⟨genuine, fresh⟩
      refine ⟨genuine, fun one among => ?_⟩
      rw [fresh] at among
      exact absurd among List.not_mem_nil)
    (by
      rintro state call next ⟨genuine, returned⟩ uncut ran
      cases ran
      exact call_genuine apart genuine returned uncut)
    reached
  exact ⟨fun uri bytes among => invariant.2 _ among, invariant.1, apart⟩

/-- A copy that was cut off is served by the next call that finds it. -/
theorem cut_copy_served {uri : Text} {answers later : Answers} {resource : List UInt8} {written : Nat} {error : String}
    (missing : world.files (getFilepath channel uri) = none) (transport : answers.kbs = .ok resource)
    (cut : answers.write = .cutOff written error) (found : later.stat = true) (readable : later.read = none) :
    (getResource channel later uri (getResource channel answers uri world).2).1 = .ok (resource.take written) := by
  have first : getResource channel answers uri world =
      (.error error, (world.release uri resource).keep (getFilepath channel uri) (resource.take written)) := by
    have unfound : checkLocal channel answers uri world = (.ok none, world) := by rw [checkLocal, missing]
    have fetched : clientGetResource answers uri world = (.ok resource, world.release uri resource) := by
      rw [clientGetResource, transport]
    have failed : write answers.write (getFilepath channel uri) resource (world.release uri resource) =
        (.error error, (world.release uri resource).keep (getFilepath channel uri) (resource.take written)) := by
      rw [cut, write]
    exact (Action.bind_ok unfound).trans ((Action.bind_ok fetched).trans (Action.bind_error failed))
  have second : checkLocal channel later uri
    ((world.release uri resource).keep (getFilepath channel uri) (resource.take written)) =
      (.ok (some (resource.take written)),
        (world.release uri resource).keep (getFilepath channel uri) (resource.take written)) := by
    simp [checkLocal, found, readable]
  rw [first]
  exact congrArg Prod.fst (Action.bind_ok second)

def sampleChannel : SecureChannel := ⟨"/run/image-rs/secure_channel".toList⟩

def sampleUri : Text := "kbs:///default/policy/1".toList

/-- A full disk after one byte. -/
def cutCall : Call := ⟨sampleUri, ⟨true, none, .ok [7, 8, 9], .cutOff 1 "No space left on device"⟩⟩

/-- An answer the KBS is not asked for, since there is a copy. -/
def laterCall : Call := ⟨sampleUri, ⟨true, none, .error "connection refused", .done⟩⟩

def emptyStorage : State := ⟨⟨fun _ => none, []⟩, []⟩

theorem emptyStorage_start : (calls sampleChannel uris).start emptyStorage :=
  ⟨fun _ _ _ copied => absurd copied nofun, rfl⟩

/-- After a write that was cut off, a call returns what the KBS never returned. -/
theorem cut_copy_returned : ∃ state, (calls sampleChannel Set.univ).Reachable System.Free state ∧
    (sampleUri, [7]) ∈ state.returned ∧ (sampleUri, [7]) ∉ state.world.released := by
  have cut : (calls sampleChannel Set.univ).step emptyStorage cutCall =
      some (emptyStorage.call sampleChannel cutCall) := rfl
  have later : (calls sampleChannel Set.univ).step (emptyStorage.call sampleChannel cutCall) laterCall =
      some ((emptyStorage.call sampleChannel cutCall).call sampleChannel laterCall) := rfl
  refine ⟨_, .step (.step (.start emptyStorage_start) trivial cut) trivial later, ?_, ?_⟩
  · decide +kernel
  · decide +kernel

def wholeCall : Call := ⟨sampleUri, ⟨true, none, .ok [7, 8, 9], .done⟩⟩

def otherUri : Text := "kbs:///default/policy/2".toList

def sampleUris : Set Text := {sampleUri, otherUri}

theorem sample_hashes_distinct : Set.InjOn (fun uri => Sha2.sha256.digest (utf8 uri)) sampleUris := by
  have differ : Sha2.sha256.digest (utf8 sampleUri) ≠ Sha2.sha256.digest (utf8 otherUri) := by decide +kernel
  rw [sampleUris, Set.injOn_pair]
  exact fun same => absurd same differ

/-- A copy that was written whole is served, where another URI would have a copy of its own. -/
theorem whole_copy_genuine : ∃ state, (calls sampleChannel sampleUris).Reachable (Uncut sampleUris) state ∧
    state.returned = [(sampleUri, [7, 8, 9]), (sampleUri, [7, 8, 9])] ∧
    (∀ uri bytes, (uri, bytes) ∈ state.returned → (uri, bytes) ∈ state.world.released) ∧
      Genuine sampleChannel sampleUris state.world ∧ Set.InjOn (getFilepath sampleChannel) sampleUris := by
  have ours : sampleUri ∈ sampleUris := Set.mem_insert _ _
  have first : (calls sampleChannel sampleUris).step emptyStorage wholeCall =
      some (emptyStorage.call sampleChannel wholeCall) := rfl
  have later : (calls sampleChannel sampleUris).step (emptyStorage.call sampleChannel wholeCall) laterCall =
      some ((emptyStorage.call sampleChannel wholeCall).call sampleChannel laterCall) := rfl
  have uncut : Uncut sampleUris emptyStorage wholeCall := ⟨ours, fun _ _ => trivial⟩
  have uncut' : Uncut sampleUris (emptyStorage.call sampleChannel wholeCall) laterCall := ⟨ours, fun _ _ => trivial⟩
  have reached : (calls sampleChannel sampleUris).Reachable (Uncut sampleUris)
      ((emptyStorage.call sampleChannel wholeCall).call sampleChannel laterCall) :=
    .step (.step (.start emptyStorage_start) uncut first) uncut' later
  exact ⟨_, reached, by decide +kernel, cached_resources_genuine sample_hashes_distinct reached⟩

end Runs

end GuestComponents.Image.ResourceCache
