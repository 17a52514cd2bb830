import GuestComponents.Crypto.Backends
import GuestComponents.Lib.Custody
import GuestComponents.Lib.Transition
import GuestComponents.SharedRootfs.Host

/-! The fast path of the shared-rootfs client. A prefetch runs in the background and leaves its
response in the one slot of the process; a call takes the response out of it when it is for the
same image, and makes an exchange of its own otherwise. Whatever the order of their steps, a
response comes from an exchange for the image that was asked for and is given to one call, and
a call fails only through its own exchange. -/
namespace GuestComponents.Image.VsockClient
open Lib Lib.Text SharedRootfs

/-- The errors of an exchange, with what they are made from. -/
inductive FastError where
  | connect (error : String)
  | payloadTooLarge (length : Nat)
  | writeRequest (error : String)
  | readStatus (error : String)
  | responseTooLarge (length : Nat)
  | readResponse (error : String)
  /-- `fast prepare_rootfs failed`, with the message of the server. -/
  | refused (message : List UInt8)
  | decode (error : String)
  deriving DecidableEq

abbrev Outcome := Except FastError PrepareRootfsResponse

/-- `FAST_MAX_MESSAGE_SIZE`. -/
def fastMaxMessageSize : Nat := 1024 * 1024

/-- The seven-bit groups of a number, the least one first, in `fuel` bytes at most. -/
def encodeVarint : Nat → Nat → List UInt8
  | 0, _ => []
  | fuel + 1, n => if n < 128 then [UInt8.ofNat n] else UInt8.ofNat (n % 128 + 128) :: encodeVarint fuel (n / 128)

/-- `PrepareRootfsRequest::encode`: one string with the tag 1, left out when it is empty. -/
def encodeRequest (imageRef : Text) : List UInt8 :=
  if imageRef = [] then [] else 10 :: encodeVarint 10 (utf8 imageRef).length ++ utf8 imageRef

/-- `u32::from_be_bytes`. -/
def fromBeBytes (bytes : List UInt8) : Nat := bytes.foldl (fun n byte => n * 256 + byte.toNat) 0

/-- The bytes that `write_frame` sends for a request. -/
def requestFrame (imageRef : Text) : Except FastError (List UInt8) :=
  let payload := encodeRequest imageRef
  if fastMaxMessageSize < payload.length then .error (.payloadTooLarge payload.length)
  else .ok (Crypto.toBeBytes payload.length ++ payload)

/-- A connection, as the server sees it. -/
structure Stream where
  sent : List UInt8
  read : List UInt8

/-- What comes of an operation on a connection. A request may be sent in part. -/
inductive Answer where
  | done (bytes : List UInt8)
  | failed (error : String) (moved : Nat)

/-- The operation an exchange is at. -/
inductive Stage where
  | request
  | status
  | header (code : UInt8)
  | body (code : UInt8) (size : Nat)

inductive Progress where
  | next (stage : Stage)
  | ended (outcome : Outcome)

inductive Kind where
  | foreground
  | prefetch

/-- Where a call stands. Up to `exchanging` it holds the lock from `checking` on. -/
inductive Phase where
  | looking
  | waiting
  | checking
  | preparing
  | dialing
  | exchanging (stage : Stage) (stream : Nat)
  | storing (response : PrepareRootfsResponse) (stream : Nat)
  /-- `stream` is where the response comes from. -/
  | returned (outcome : Outcome) (stream : Option Nat)
  | finished

/-- A call of `prepare_rootfs_fast` or of `prefetch_prepare_rootfs_fast`. `heard` are the answers
to its own operations; no step reads them. -/
structure Task where
  kind : Kind
  imageRef : Text
  phase : Phase
  heard : List Answer

/-- The entry of the slot, with the exchange it comes from, which no step reads. -/
structure PrefetchedRootfs where
  imageRef : Text
  response : PrepareRootfsResponse
  stream : Nat

/-- The process: its three statics, and every connection and call it has made. -/
structure State where
  preconnected : Option Nat
  prepared : Option PrefetchedRootfs
  lock : Option Nat
  streams : List Stream
  tasks : Nat → Option Task

inductive Label where
  | preconnect (connected : Bool)
  | call (id : Nat) (imageRef : Text)
  | prefetch (id : Nat) (imageRef : Text)
  | look (id : Nat)
  | lock (id : Nat)
  | check (id : Nat)
  | takeStream (id : Nat)
  | dial (id : Nat) (answer : Answer)
  | answer (id : Nat) (answer : Answer)
  | store (id : Nat)
  /-- The timeout of a prefetch. -/
  | elapse (id : Nat)
  /-- The future of a call is dropped. -/
  | drop (id : Nat)

section Steps

variable (decode : List UInt8 → Except String PrepareRootfsResponse)

/-- The end of `prepare_rootfs_fast_uncached`. -/
def respond (code : UInt8) (body : List UInt8) : Outcome :=
  if code ≠ 0 then .error (.refused body) else (decode body).mapError .decode

/-- How an exchange goes on. A read gives as many bytes as it asks for. -/
def Stage.advance (imageRef : Text) : Stage → Answer → Option Progress
  | .request, answer =>
    match requestFrame imageRef, answer with
    | .error error, _ => some (.ended (.error error))
    | .ok _, .done _ => some (.next .status)
    | .ok _, .failed error _ => some (.ended (.error (.writeRequest error)))
  | .status, .done [code] => some (.next (.header code))
  | .status, .done _ => none
  | .status, .failed error _ => some (.ended (.error (.readStatus error)))
  | .header code, .done bytes =>
    if bytes.length ≠ 4 then none
    else if fastMaxMessageSize < fromBeBytes bytes then some (.ended (.error (.responseTooLarge (fromBeBytes bytes))))
    else some (.next (.body code (fromBeBytes bytes)))
  | .body code size, .done bytes => if bytes.length ≠ size then none else some (.ended (respond decode code bytes))
  | .header _, .failed error _ | .body _ _, .failed error _ => some (.ended (.error (.readResponse error)))

def Stream.reads (stream : Stream) : Answer → Stream
  | .done bytes => { stream with read := stream.read ++ bytes }
  | .failed _ _ => stream

/-- What an operation does to the connection. -/
def Stage.traffic (imageRef : Text) : Stage → Answer → Stream → Stream
  | .request, answer, stream =>
    match requestFrame imageRef, answer with
    | .error _, _ => stream
    | .ok frame, .done _ => { stream with sent := stream.sent ++ frame }
    | .ok frame, .failed _ moved => { stream with sent := stream.sent ++ frame.take moved }
  | .status, answer, stream | .header _, answer, stream | .body _ _, answer, stream => stream.reads answer

/-- An exchange by itself, from its first operation on the connection. -/
def Stage.run (imageRef : Text) : Stage → List Answer → Option Progress
  | stage, [] => some (.next stage)
  | stage, answer :: answers =>
    match stage.advance decode imageRef answer with
    | some (.next stage) => stage.run imageRef answers
    | some (.ended outcome) => if answers = [] then some (.ended outcome) else none
    | none => none

def State.setTask (state : State) (id : Nat) (task : Task) : State :=
  { state with tasks := Function.update state.tasks id (some task) }

/-- A call that holds the lock ends, and lets go of it. -/
def State.finish (state : State) (id : Nat) (task : Task) : State :=
  { state.setTask id task with lock := none }

/-- `take_prefetched_rootfs`. -/
def State.takePrefetched (state : State) (imageRef : Text) : Option (PrefetchedRootfs × State) :=
  match state.prepared with
  | some entry => if entry.imageRef = imageRef then some (entry, { state with prepared := none }) else none
  | none => none

/-- `cached_prefetched_rootfs_matches`. -/
def State.cachedMatches (state : State) (imageRef : Text) : Bool :=
  state.prepared.any fun entry => entry.imageRef = imageRef

/-- `preconnect_fast_image_share`. -/
def State.preconnect (state : State) : State :=
  { state with streams := state.streams ++ [⟨[], []⟩], preconnected := some state.streams.length }

/-- The first look of a call. -/
def State.look (state : State) (id : Nat) (task : Task) : State :=
  match state.takePrefetched task.imageRef with
  | some (entry, next) => next.setTask id { task with phase := .returned (.ok entry.response) (some entry.stream) }
  | none => state.setTask id { task with phase := .waiting }

/-- The look under the lock. -/
def State.check (state : State) (id : Nat) (task : Task) : State :=
  match task.kind with
  | .foreground =>
    match state.takePrefetched task.imageRef with
    | some (entry, next) => next.finish id { task with phase := .returned (.ok entry.response) (some entry.stream) }
    | none => state.setTask id { task with phase := .preparing }
  | .prefetch =>
    if state.cachedMatches task.imageRef then state.finish id { task with phase := .finished }
    else state.setTask id { task with phase := .preparing }

/-- `take_preconnected_stream`. -/
def State.takeStream (state : State) (id : Nat) (task : Task) : State :=
  match state.preconnected with
  | some stream =>
    let next : State := { state with preconnected := none }
    next.setTask id { task with phase := .exchanging .request stream }
  | none => state.setTask id { task with phase := .dialing }

/-- A call that fails. Of a prefetch it is only logged. -/
def State.fail (state : State) (id : Nat) (task : Task) (error : FastError) (stream : Option Nat) : State :=
  match task.kind with
  | .foreground => state.finish id { task with phase := .returned (.error error) stream }
  | .prefetch => state.finish id { task with phase := .finished }

/-- `VsockStream::connect`. -/
def State.dial (state : State) (id : Nat) (task : Task) (answer : Answer) : State :=
  match answer with
  | .done _ =>
    let next : State := { state with streams := state.streams ++ [⟨[], []⟩] }
    next.setTask id { task with phase := .exchanging .request state.streams.length }
  | .failed error _ => state.fail id { task with heard := [answer] } (.connect error) none

/-- The end of an exchange. -/
def State.ended (state : State) (id : Nat) (task : Task) (stream : Nat) : Outcome → State
  | .error error => state.fail id task error (some stream)
  | .ok response =>
    match task.kind with
    | .foreground => state.finish id { task with phase := .returned (.ok response) (some stream) }
    | .prefetch => state.setTask id { task with phase := .storing response stream }

/-- An operation on the connection, and how the call goes on. -/
def State.answer (state : State) (id : Nat) (task : Task) (stage : Stage) (stream : Nat) (answer : Answer) :
    Option State :=
  let next : State := { state with streams := state.streams.modify stream (stage.traffic task.imageRef answer) }
  let heard : Task := { task with heard := task.heard ++ [answer] }
  match stage.advance decode task.imageRef answer with
  | some (.next later) => some (next.setTask id { heard with phase := .exchanging later stream })
  | some (.ended outcome) => some (next.ended id heard stream outcome)
  | none => none

/-- The future is dropped, and with it its guard and its connection. -/
def State.drop (state : State) (id : Nat) (task : Task) : State :=
  { state.setTask id { task with phase := .finished } with
    lock := if state.lock = some id then none else state.lock }

/-- The call has not ended. -/
def Phase.runs : Phase → Bool
  | .returned _ _ | .finished => false
  | _ => true

/-- The call is in `prepare_rootfs_fast_uncached`. -/
def Phase.uncached : Phase → Bool
  | .preparing | .dialing | .exchanging _ _ => true
  | _ => false

/-- The step of a call that has begun. -/
def State.advance (state : State) (id : Nat) (task : Task) : Label → Option State
  | .look _ => match task.phase with
    | .looking => some (state.look id task)
    | _ => none
  | .lock _ => match task.phase, state.lock with
    | .waiting, none => some { state.setTask id { task with phase := .checking } with lock := some id }
    | _, _ => none
  | .check _ => match task.phase with
    | .checking => some (state.check id task)
    | _ => none
  | .takeStream _ => match task.phase with
    | .preparing => some (state.takeStream id task)
    | _ => none
  | .dial _ answer => match task.phase with
    | .dialing => some (state.dial id task answer)
    | _ => none
  | .answer _ answer => match task.phase with
    | .exchanging stage stream => state.answer decode id task stage stream answer
    | _ => none
  | .store _ => match task.phase with
    | .storing response stream =>
      let next : State := { state with prepared := some ⟨task.imageRef, response, stream⟩ }
      some (next.finish id { task with phase := .finished })
    | _ => none
  | .elapse _ => match task.kind with
    | .prefetch => if task.phase.uncached then some (state.finish id { task with phase := .finished }) else none
    | .foreground => none
  | .drop _ => if task.phase.runs then some (state.drop id task) else none
  | _ => none

/-- The call a label is about. -/
def Label.task : Label → Option Nat
  | .look id | .lock id | .check id | .takeStream id | .dial id _ | .answer id _ | .store id | .elapse id | .drop id =>
    some id
  | .preconnect _ | .call _ _ | .prefetch _ _ => none

/-- A prefetch for no image ends at once. -/
def step (state : State) : Label → Option State
  | .preconnect connected => some (if connected then state.preconnect else state)
  | .call id imageRef =>
    if (state.tasks id).isSome then none else some (state.setTask id ⟨.foreground, imageRef, .looking, []⟩)
  | .prefetch id imageRef =>
    if (state.tasks id).isSome then none
    else if imageRef = [] then some state
    else some (state.setTask id ⟨.prefetch, imageRef, .waiting, []⟩)
  | label =>
    match label.task with
    | none => none
    | some id =>
      match state.tasks id with
      | none => none
      | some task => state.advance decode id task label

/-- The process before it has made a call. -/
def initial : State := ⟨none, none, none, [], fun _ => none⟩

def fastSystem : System State Label where
  start state := state = initial
  step := step decode

end Steps

/-! What holds of the connections and of those who have them. -/
section Invariant

variable (decode : List UInt8 → Except String PrepareRootfsResponse)

/-- Who may have a connection, or the response of an exchange. -/
inductive Holder where
  | connection
  | slot
  | task (id : Nat)
  deriving DecidableEq

def Phase.stream : Phase → Option Nat
  | .exchanging _ stream | .storing _ stream => some stream
  | .returned _ stream => stream
  | _ => none

def State.holds (state : State) : Holder → Option Nat
  | .connection => state.preconnected
  | .slot => state.prepared.map PrefetchedRootfs.stream
  | .task id => (state.tasks id).bind fun task => task.phase.stream

/-- The server has received a request for the image, and nothing else. -/
def Stream.Asks (stream : Stream) (imageRef : Text) : Prop := requestFrame imageRef = .ok stream.sent

/-- The connection is one call for the image, and its answer is the response. -/
def Stream.Gives (stream : Stream) (imageRef : Text) (response : PrepareRootfsResponse) : Prop :=
  stream.Asks imageRef ∧ ∃ header body, stream.read = 0 :: header ++ body ∧ header.length = 4 ∧
    fromBeBytes header = body.length ∧ decode body = .ok response

/-- What has gone over the connection before an operation. -/
def Stage.Sees (imageRef : Text) (stream : Stream) : Stage → Prop
  | .request => stream = ⟨[], []⟩
  | .status => stream.Asks imageRef ∧ stream.read = []
  | .header code => stream.Asks imageRef ∧ stream.read = [code]
  | .body code size => stream.Asks imageRef ∧
      ∃ header, stream.read = code :: header ∧ header.length = 4 ∧ fromBeBytes header = size

/-- A failure by the answers to the call's own operations: it cannot connect, or the exchange
by itself ends so. -/
inductive OwnFailure (imageRef : Text) : List Answer → FastError → Prop where
  | connect (error : String) (moved : Nat) : OwnFailure imageRef [.failed error moved] (.connect error)
  | exchange {heard : List Answer} {error : FastError}
      (ran : Stage.request.run decode imageRef heard = some (.ended (.error error))) : OwnFailure imageRef heard error

/-- What a call says of the connections. -/
def Phase.Sound (imageRef : Text) (heard : List Answer) (streams : List Stream) : Phase → Prop
  | .exchanging stage n => Stage.request.run decode imageRef heard = some (.next stage) ∧
      ∃ stream, streams[n]? = some stream ∧ stage.Sees imageRef stream
  | .storing response n | .returned (.ok response) (some n) =>
    ∃ stream, streams[n]? = some stream ∧ stream.Gives decode imageRef response
  | .returned (.ok _) none => False
  | .returned (.error error) _ => OwnFailure decode imageRef heard error
  | .finished => True
  | _ => heard = []

structure Orderly (state : State) : Prop where
  custody : Custody state.holds
  bounded : ∀ holder n, state.holds holder = some n → n < state.streams.length
  clean : ∀ n, state.preconnected = some n → state.streams[n]? = some ⟨[], []⟩
  slot : ∀ entry, state.prepared = some entry →
    ∃ stream, state.streams[entry.stream]? = some stream ∧ stream.Gives decode entry.imageRef entry.response
  tasks : ∀ id task, state.tasks id = some task → task.phase.Sound decode task.imageRef task.heard state.streams

end Invariant

section Exchanges

variable {decode : List UInt8 → Except String PrepareRootfsResponse} {imageRef : Text} {stage later : Stage}
  {answer : Answer} {heard : List Answer} {stream : Stream} {progress : Progress}

theorem run_append (ran : stage.run decode imageRef heard = some (.next later)) :
    stage.run decode imageRef (heard ++ [answer]) = later.advance decode imageRef answer := by
  induction heard generalizing stage with
  | nil =>
    cases ran
    rw [List.nil_append, Stage.run]
    cases later.advance decode imageRef answer with
    | none => rfl
    | some progress => cases progress <;> rfl
  | cons first rest ih =>
    rw [List.cons_append, Stage.run]
    rw [Stage.run] at ran
    split at ran
    · rename_i next _
      exact ih ran
    · split at ran <;> cases ran
    · cases ran

/-- An operation leaves the connection as the next one expects it. -/
theorem sees_advance (sees : stage.Sees imageRef stream)
    (advanced : stage.advance decode imageRef answer = some (.next later)) :
    later.Sees imageRef (stage.traffic imageRef answer stream) := by
  cases stage with
  | request =>
    obtain rfl : stream = ⟨[], []⟩ := sees
    cases framed : requestFrame imageRef with
    | error error => simp only [Stage.advance, framed, Option.some.injEq, reduceCtorEq] at advanced
    | ok frame =>
      cases answer with
      | failed error moved => simp only [Stage.advance, framed, Option.some.injEq, reduceCtorEq] at advanced
      | done bytes =>
        simp only [Stage.advance, framed, Option.some.injEq, Progress.next.injEq] at advanced
        subst advanced
        simp only [Stage.traffic, framed]
        exact ⟨framed, rfl⟩
  | status =>
    obtain ⟨asks, nothing⟩ := sees
    cases answer with
    | failed error moved => cases advanced
    | done bytes =>
      match bytes, advanced with
      | [code], rfl =>
        refine ⟨asks, ?_⟩
        change stream.read ++ [code] = [code]
        rw [nothing, List.nil_append]
  | header code =>
    obtain ⟨asks, first⟩ := sees
    cases answer with
    | failed error moved => cases advanced
    | done bytes =>
      rw [Stage.advance] at advanced
      split at advanced
      · cases advanced
      · rename_i whole
        split at advanced
        · cases advanced
        · cases advanced
          refine ⟨asks, bytes, ?_, not_not.mp whole, rfl⟩
          change stream.read ++ bytes = code :: bytes
          rw [first, List.singleton_append]
  | body code size =>
    cases answer with
    | failed error moved => cases advanced
    | done bytes =>
      rw [Stage.advance] at advanced
      split at advanced <;> cases advanced

/-- An exchange that ends with a response has been given it by the server. -/
theorem gives_advance {response : PrepareRootfsResponse} (sees : stage.Sees imageRef stream)
    (advanced : stage.advance decode imageRef answer = some (.ended (.ok response))) :
    (stage.traffic imageRef answer stream).Gives decode imageRef response := by
  cases stage with
  | request =>
    cases framed : requestFrame imageRef with
    | error error => simp only [Stage.advance, framed, Option.some.injEq, Progress.ended.injEq, reduceCtorEq] at advanced
    | ok frame => cases answer <;> simp only [Stage.advance, framed, Option.some.injEq, Progress.ended.injEq,
      reduceCtorEq] at advanced
  | status =>
    cases answer with
    | failed error moved => cases advanced
    | done bytes =>
      match bytes, advanced with
      | [code], impossible => cases impossible
  | header code =>
    cases answer with
    | failed error moved => cases advanced
    | done bytes =>
      rw [Stage.advance] at advanced
      split at advanced
      · cases advanced
      · split at advanced <;> cases advanced
  | body code size =>
    obtain ⟨asks, header, read, whole, announced⟩ := sees
    cases answer with
    | failed error moved => cases advanced
    | done bytes =>
      rw [Stage.advance] at advanced
      split at advanced
      · cases advanced
      · rename_i length
        rw [Option.some.injEq, Progress.ended.injEq, respond] at advanced
        split at advanced
        · cases advanced
        · rename_i accepted
          refine ⟨asks, header, bytes, ?_, whole, announced.trans (not_not.mp length).symm, ?_⟩
          · change stream.read ++ bytes = 0 :: header ++ bytes
            rw [read, not_not.mp accepted]
          · cases decoded : decode bytes with
            | error error =>
              rw [decoded] at advanced
              cases advanced
            | ok found =>
              rw [decoded] at advanced
              cases advanced
              rfl

theorem sound_of_same {phase : Phase} {streams streams' : List Stream}
    (sound : phase.Sound decode imageRef heard streams)
    (same : ∀ n, phase.stream = some n → streams'[n]? = streams[n]?) :
      phase.Sound decode imageRef heard streams' := by
  cases phase with
  | exchanging stage n =>
    refine ⟨sound.1, ?_⟩
    rw [same n rfl]
    exact sound.2
  | storing response n =>
    change ∃ stream, streams'[n]? = some stream ∧ _
    rw [same n rfl]
    exact sound
  | returned outcome source =>
    cases outcome with
    | error error => exact sound
    | ok response =>
      cases source with
      | none => exact sound
      | some n =>
        change ∃ stream, streams'[n]? = some stream ∧ _
        rw [same n rfl]
        exact sound
  | looking | waiting | checking | preparing | dialing | finished => exact sound

end Exchanges

namespace Orderly

variable {decode : List UInt8 → Except String PrepareRootfsResponse} {state next : State} {id : Nat} {task old : Task}

/-- A step of one call, by what it does to each holder. -/
theorem change (orderly : Orderly decode state) (task : Task) (custody : Custody next.holds)
    (tasks : next.tasks = Function.update state.tasks id (some task))
    (bounded : ∀ holder n, next.holds holder = some n → n < next.streams.length)
    (streams : ∀ holder n, holder ≠ .task id → state.holds holder = some n →
      next.streams[n]? = state.streams[n]?)
    (clean : ∀ n, next.preconnected = some n → state.preconnected = some n)
    (slot : ∀ entry, next.prepared = some entry → state.prepared = some entry ∨
      ∃ stream, next.streams[entry.stream]? = some stream ∧ stream.Gives decode entry.imageRef entry.response)
    (sound : task.phase.Sound decode task.imageRef task.heard next.streams) : Orderly decode next where
  custody := custody
  bounded := bounded
  clean n found := by
    rw [streams .connection n nofun (clean n found)]
    exact orderly.clean n (clean n found)
  slot entry found := by
    rcases slot entry found with kept | new
    · rw [streams .slot entry.stream nofun (congrArg (Option.map PrefetchedRootfs.stream) kept)]
      exact orderly.slot entry kept
    · exact new
  tasks other found there := by
    rw [tasks] at there
    by_cases same : other = id
    · rw [same, Function.update_self, Option.some.injEq] at there
      rw [← there]
      exact sound
    · rw [Function.update_of_ne same] at there
      apply sound_of_same (orderly.tasks other found there)
      intro n holds
      apply streams (.task other) n
      · intro impossible
        exact same (Holder.task.inj impossible)
      · rw [State.holds, there]
        exact holds

/-- What the holders have after a step of one call. -/
theorem holds_task (tasks : next.tasks = Function.update state.tasks id (some task)) :
    next.holds (.task id) = task.phase.stream ∧
      ∀ other, other ≠ id → next.holds (.task other) = state.holds (.task other) := by
  constructor
  · rw [State.holds, tasks, Function.update_self]
    rfl
  · intro other different
    rw [State.holds, tasks, Function.update_of_ne different]
    rfl

/-- A step that passes nothing on, and leaves the connections alone. -/
theorem quiet (orderly : Orderly decode state) (task : Task)
    (tasks : next.tasks = Function.update state.tasks id (some task))
    (preconnected : next.preconnected = state.preconnected) (prepared : next.prepared = state.prepared)
    (streams : next.streams = state.streams)
    (kept : ∀ n, task.phase.stream = some n → state.holds (.task id) = some n)
    (sound : task.phase.Sound decode task.imageRef task.heard state.streams) : Orderly decode next := by
  obtain ⟨own, others⟩ := holds_task tasks
  have all : ∀ holder n, next.holds holder = some n → state.holds holder = some n := by
    intro holder n held
    cases holder with
    | connection => exact preconnected.symm.trans held
    | slot =>
      rw [State.holds, prepared] at held
      exact held
    | task other =>
      by_cases same : other = id
      · rw [same] at held ⊢
        exact kept n (own.symm.trans held)
      · exact (others other same).symm.trans held
  apply orderly.change task (orderly.custody.release all) tasks
  · intro holder n held
    rw [streams]
    exact orderly.bounded holder n (all holder n held)
  · intro holder n _ _
    rw [streams]
  · intro n found
    exact preconnected.symm.trans found
  · intro entry found
    exact Or.inl (prepared.symm.trans found)
  · rw [streams]
    exact sound

/-- A step that passes on what one holder has, and leaves the connections alone. -/
theorem passed (orderly : Orderly decode state) (giver taker : Holder)
    (tasks : next.tasks = Function.update state.tasks id (some task)) (streams : next.streams = state.streams)
    (given : ∀ n, next.holds taker = some n → state.holds giver = some n)
    (gone : giver ≠ taker → next.holds giver = none)
    (kept : ∀ holder, holder ≠ taker → ∀ n, next.holds holder = some n → state.holds holder = some n)
    (clean : ∀ n, next.preconnected = some n → state.preconnected = some n)
    (slot : ∀ entry, next.prepared = some entry → state.prepared = some entry ∨
      ∃ stream, state.streams[entry.stream]? = some stream ∧ stream.Gives decode entry.imageRef entry.response)
    (sound : task.phase.Sound decode task.imageRef task.heard state.streams) : Orderly decode next := by
  apply orderly.change task (orderly.custody.pass giver taker given gone kept) tasks
  · intro holder n held
    rw [streams]
    by_cases takes : holder = taker
    · rw [takes] at held
      exact orderly.bounded giver n (given n held)
    · exact orderly.bounded holder n (kept holder takes n held)
  · intro holder n _ _
    rw [streams]
  · exact clean
  · rw [streams]
    exact slot
  · rw [streams]
    exact sound

theorem takePrefetched_some {imageRef : Text} {entry : PrefetchedRootfs} {taken : State}
    (took : state.takePrefetched imageRef = some (entry, taken)) :
    state.prepared = some entry ∧ entry.imageRef = imageRef ∧ taken = { state with prepared := none } := by
  rw [State.takePrefetched] at took
  split at took
  · rename_i found there
    split at took
    · rename_i same
      cases took
      exact ⟨there, same, rfl⟩
    · cases took
  · cases took

/-- A call takes the entry for its image out of the slot. -/
theorem taken (orderly : Orderly decode state) (task : Task) {entry : PrefetchedRootfs}
    (there : state.prepared = some entry)
    (phase : task.phase = .returned (.ok entry.response) (some entry.stream)) (same : entry.imageRef = task.imageRef)
    (tasks : next.tasks = Function.update state.tasks id (some task))
    (preconnected : next.preconnected = state.preconnected) (prepared : next.prepared = none)
    (streams : next.streams = state.streams) : Orderly decode next := by
  obtain ⟨own, others⟩ := holds_task tasks
  apply orderly.passed .slot (.task id) tasks streams
  · intro n held
    rw [own, phase] at held
    rw [State.holds, there]
    exact held
  · intro _
    rw [State.holds, prepared]
    rfl
  · intro holder different n held
    cases holder with
    | connection => exact preconnected.symm.trans held
    | slot =>
      rw [State.holds, prepared] at held
      cases held
    | task other => exact (others other fun impossible => different (congrArg Holder.task impossible)).symm.trans held
  · intro n found
    exact preconnected.symm.trans found
  · intro entry found
    rw [prepared] at found
    cases found
  · rw [phase, ← same]
    exact orderly.slot entry there

theorem look (orderly : Orderly decode state) (there : state.tasks id = some task) (phase : task.phase = .looking) :
    Orderly decode (state.look id task) := by
  have silent := orderly.tasks id task there
  rw [phase] at silent
  rw [State.look]
  split
  · rename_i entry remaining took
    obtain ⟨found, same, rfl⟩ := takePrefetched_some took
    exact orderly.taken { task with phase := _ } found rfl same rfl rfl rfl rfl
  · exact orderly.quiet { task with phase := _ } rfl rfl rfl rfl nofun silent

theorem check (orderly : Orderly decode state) (there : state.tasks id = some task) (phase : task.phase = .checking) :
    Orderly decode (state.check id task) := by
  have silent := orderly.tasks id task there
  rw [phase] at silent
  rw [State.check]
  split
  · split
    · rename_i entry remaining took
      obtain ⟨found, same, rfl⟩ := takePrefetched_some took
      exact orderly.taken { task with phase := _ } found rfl same rfl rfl rfl rfl
    · exact orderly.quiet { task with phase := _ } rfl rfl rfl rfl nofun silent
  · split
    · exact orderly.quiet { task with phase := _ } rfl rfl rfl rfl nofun trivial
    · exact orderly.quiet { task with phase := _ } rfl rfl rfl rfl nofun silent

/-- A call takes the connection that stands ready. -/
theorem takeStream (orderly : Orderly decode state) (there : state.tasks id = some task)
    (phase : task.phase = .preparing) : Orderly decode (state.takeStream id task) := by
  have silent := orderly.tasks id task there
  rw [phase] at silent
  change task.heard = [] at silent
  rw [State.takeStream]
  split
  · rename_i n ready
    set begun : Task := { task with phase := .exchanging .request n } with begins
    set next : State := State.setTask { state with preconnected := none } id begun
    have tasks : next.tasks = Function.update state.tasks id (some begun) := rfl
    obtain ⟨own, others⟩ := holds_task tasks
    apply orderly.passed .connection (.task id) tasks rfl
    · intro m held
      rw [own] at held
      exact ready.trans held
    · intro _
      rfl
    · intro holder different m held
      cases holder with
      | connection => cases held
      | slot => exact held
      | task other => exact (others other fun impossible => different (congrArg Holder.task impossible)).symm.trans held
    · exact nofun
    · exact fun entry found => Or.inl found
    · refine ⟨?_, _, orderly.clean n ready, rfl⟩
      rw [begins, silent]
      rfl
  · exact orderly.quiet { task with phase := _ } rfl rfl rfl rfl nofun silent

/-- A call fails by its own answers. -/
theorem fail (orderly : Orderly decode state) (task : Task) {error : FastError} {source : Option Nat}
    (source_held : ∀ n, source = some n → state.holds (.task id) = some n)
    (own : OwnFailure decode task.imageRef task.heard error) : Orderly decode (state.fail id task error source) := by
  rw [State.fail]
  split
  · exact orderly.quiet { task with phase := .returned (.error error) source } rfl rfl rfl rfl source_held own
  · exact orderly.quiet { task with phase := .finished } rfl rfl rfl rfl nofun trivial

/-- A connection that nobody has yet. -/
theorem new_stream (orderly : Orderly decode state) (holder : Holder) :
    state.holds holder ≠ some state.streams.length := by
  intro held
  exact absurd (orderly.bounded holder _ held) (Nat.lt_irrefl _)

theorem old_stream {n : Nat} (orderly : Orderly decode state) {holder : Holder} (held : state.holds holder = some n) :
    (state.streams ++ [⟨[], []⟩])[n]? = state.streams[n]? :=
  List.getElem?_append_left (orderly.bounded holder n held)

theorem lt_append {n : Nat} (lt : n < state.streams.length) :
    n < (state.streams ++ [(⟨[], []⟩ : Stream)]).length := by
  rw [List.length_append]
  exact Nat.lt_add_right 1 lt

theorem dial (orderly : Orderly decode state) (there : state.tasks id = some task) (phase : task.phase = .dialing)
    (answer : Answer) : Orderly decode (state.dial id task answer) := by
  have silent := orderly.tasks id task there
  rw [phase] at silent
  change task.heard = [] at silent
  cases answer with
  | failed error moved =>
    rw [State.dial]
    exact orderly.fail { task with heard := [.failed error moved] } nofun (.connect error moved)
  | done bytes =>
    rw [State.dial]
    set begun : Task := { task with phase := .exchanging .request state.streams.length } with begins
    set opened : State := State.setTask { state with streams := state.streams ++ [⟨[], []⟩] } id begun with opens
    obtain ⟨own, others⟩ := @holds_task state opened id begun rfl
    have kept : ∀ holder, holder ≠ .task id → ∀ n,
        opened.holds holder = some n → state.holds holder = some n := by
      intro holder different n held
      cases holder with
      | connection => exact held
      | slot => exact held
      | task other => exact (others other fun impossible => different (congrArg Holder.task impossible)).symm.trans held
    have mine : ∀ n, opened.holds (.task id) = some n → n = state.streams.length := by
      intro n held
      rw [own] at held
      exact (Option.some.inj held).symm
    have custody : Custody opened.holds := by
      apply orderly.custody.receive (.task id)
      · intro n holder held
        rw [mine n held]
        exact orderly.new_stream holder
      · exact kept
    apply orderly.change begun custody rfl
    · intro holder n held
      by_cases takes : holder = .task id
      · rw [takes] at held
        rw [mine n held, opens]
        simp [State.setTask]
      · exact lt_append (orderly.bounded holder n (kept holder takes n held))
    · intro holder n _ held
      exact orderly.old_stream held
    · exact fun n found => found
    · exact fun entry found => Or.inl found
    · refine ⟨?_, ⟨[], []⟩, List.getElem?_concat_length, rfl⟩
      rw [begins, silent]
      rfl

theorem preconnect (orderly : Orderly decode state) : Orderly decode state.preconnect where
  custody := by
    apply orderly.custody.receive .connection
    · intro n holder held
      obtain rfl : state.streams.length = n := Option.some.inj held
      exact orderly.new_stream holder
    · intro holder different n held
      cases holder with
      | connection => exact (different rfl).elim
      | slot | task other => exact held
  bounded holder n held := by
    cases holder with
    | connection =>
      obtain rfl : state.streams.length = n := Option.some.inj held
      simp [State.preconnect]
    | slot => exact lt_append (orderly.bounded .slot n held)
    | task other => exact lt_append (orderly.bounded (.task other) n held)
  clean n found := by
    obtain rfl : state.streams.length = n := Option.some.inj found
    exact List.getElem?_concat_length
  slot entry found := by
    rw [State.preconnect, @old_stream _ _ _ orderly .slot (congrArg (Option.map PrefetchedRootfs.stream) found)]
    exact orderly.slot entry found
  tasks other found there := by
    apply sound_of_same (orderly.tasks other found there)
    intro n holds
    apply @old_stream _ _ _ orderly (.task other)
    rw [State.holds, show state.tasks other = some found from there]
    exact holds

/-- A prefetch leaves its response in the slot. -/
theorem store (orderly : Orderly decode state) (there : state.tasks id = some task)
    {response : PrepareRootfsResponse} {n : Nat} (phase : task.phase = .storing response n) :
    Orderly decode (State.finish { state with prepared := some ⟨task.imageRef, response, n⟩ } id
      { task with phase := .finished }) := by
  have gives := orderly.tasks id task there
  rw [phase] at gives
  set ended : Task := { task with phase := .finished }
  set next : State := State.finish { state with prepared := some ⟨task.imageRef, response, n⟩ } id ended
  have tasks : next.tasks = Function.update state.tasks id (some ended) := rfl
  obtain ⟨own, others⟩ := holds_task tasks
  apply orderly.passed (.task id) .slot tasks rfl
  · intro m held
    rw [State.holds, there, Option.bind_some, phase]
    exact held
  · exact fun _ => own
  · intro holder different m held
    cases holder with
    | connection => exact held
    | slot => exact (different rfl).elim
    | task other =>
      by_cases same : other = id
      · rw [same, own] at held
        cases held
      · exact (others other same).symm.trans held
  · exact fun m found => found
  · intro entry found
    obtain rfl := Option.some.inj found
    exact Or.inr gives
  · trivial

/-- An operation on the connection of a call leaves every other connection as it is. -/
theorem modify_other (orderly : Orderly decode state) {n m : Nat} {holder : Holder} (effect : Stream → Stream)
    (mine : state.holds (.task id) = some n) (different : holder ≠ .task id) (held : state.holds holder = some m) :
    (state.streams.modify n effect)[m]? = state.streams[m]? := by
  have other : n ≠ m := by
    rintro rfl
    exact different (orderly.custody holder (.task id) n held mine)
  rw [List.getElem?_modify]
  simp [other]

/-- A step in an exchange: the call has its connection still, or has none, and the rest is as it was. -/
theorem exchanged (orderly : Orderly decode state) (task : Task) {n : Nat} {effect : Stream → Stream}
    (mine : state.holds (.task id) = some n) (tasks : next.tasks = Function.update state.tasks id (some task))
    (preconnected : next.preconnected = state.preconnected) (prepared : next.prepared = state.prepared)
    (streams : next.streams = state.streams.modify n effect) (kept : ∀ m, task.phase.stream = some m → m = n)
    (sound : task.phase.Sound decode task.imageRef task.heard next.streams) : Orderly decode next := by
  obtain ⟨own, others⟩ := holds_task tasks
  have all : ∀ holder m, next.holds holder = some m → state.holds holder = some m := by
    intro holder m held
    cases holder with
    | connection => exact preconnected.symm.trans held
    | slot =>
      rw [State.holds, prepared] at held
      exact held
    | task other =>
      by_cases same : other = id
      · rw [same] at held ⊢
        rw [kept m (own.symm.trans held)]
        exact mine
      · exact (others other same).symm.trans held
  apply orderly.change task (orderly.custody.release all) tasks
  · intro holder m held
    rw [streams, List.length_modify]
    exact orderly.bounded holder m (all holder m held)
  · intro holder m different held
    rw [streams]
    exact orderly.modify_other effect mine different held
  · intro m found
    exact preconnected.symm.trans found
  · intro entry found
    exact Or.inl (prepared.symm.trans found)
  · exact sound

theorem answer (orderly : Orderly decode state) (there : state.tasks id = some task) {stage : Stage} {n : Nat}
    (phase : task.phase = .exchanging stage n) {answer : Answer}
    (answered : state.answer decode id task stage n answer = some next) : Orderly decode next := by
  have sound := orderly.tasks id task there
  rw [phase] at sound
  obtain ⟨ran, stream, found, sees⟩ := sound
  have mine : state.holds (.task id) = some n := by
    rw [State.holds, there, Option.bind_some, phase]
    rfl
  have heard := @run_append decode task.imageRef .request stage answer task.heard ran
  have after : (state.streams.modify n (stage.traffic task.imageRef answer))[n]? =
      some (stage.traffic task.imageRef answer stream) := by
    rw [List.getElem?_modify, found]
    simp
  rw [State.answer] at answered
  cases advanced : stage.advance decode task.imageRef answer with
  | none =>
    rw [advanced] at answered
    cases answered
  | some progress =>
    rw [advanced] at answered heard
    cases progress with
    | next later =>
      cases answered
      refine orderly.exchanged { task with phase := .exchanging later n, heard := task.heard ++ [answer] } mine
        rfl rfl rfl rfl ?_ ?_
      · intro m same
        exact (Option.some.inj same).symm
      · exact ⟨heard, _, after, sees_advance sees advanced⟩
    | ended outcome =>
      cases answered
      cases outcome with
      | ok response =>
        have gives := gives_advance sees advanced
        rw [State.ended]
        dsimp only
        split
        · refine orderly.exchanged { task with
            phase := .returned (.ok response) (some n), heard := task.heard ++ [answer] } mine rfl rfl rfl rfl ?_ ?_
          · intro m same
            exact (Option.some.inj same).symm
          · exact ⟨_, after, gives⟩
        · refine orderly.exchanged { task with
            phase := .storing response n, heard := task.heard ++ [answer] } mine rfl rfl rfl rfl ?_ ?_
          · intro m same
            exact (Option.some.inj same).symm
          · exact ⟨_, after, gives⟩
      | error error =>
        rw [State.ended, State.fail]
        dsimp only
        split
        · refine orderly.exchanged { task with
            phase := .returned (.error error) (some n), heard := task.heard ++ [answer] } mine rfl rfl rfl rfl ?_ ?_
          · intro m same
            exact (Option.some.inj same).symm
          · exact .exchange heard
        · exact orderly.exchanged { task with phase := .finished, heard := task.heard ++ [answer] } mine
            rfl rfl rfl rfl nofun trivial

theorem advance (orderly : Orderly decode state) (there : state.tasks id = some task) {label : Label}
    (advanced : state.advance decode id task label = some next) : Orderly decode next := by
  have sound := orderly.tasks id task there
  cases label with
  | preconnect connected | call other imageRef | prefetch other imageRef => cases advanced
  | look other =>
    rw [State.advance] at advanced
    split at advanced
    · rename_i phase
      cases advanced
      exact orderly.look there phase
    · cases advanced
  | lock other =>
    rw [State.advance] at advanced
    split at advanced
    · rename_i phase free
      cases advanced
      rw [phase] at sound
      exact orderly.quiet { task with phase := .checking } rfl rfl rfl rfl nofun sound
    · cases advanced
  | check other =>
    rw [State.advance] at advanced
    split at advanced
    · rename_i phase
      cases advanced
      exact orderly.check there phase
    · cases advanced
  | takeStream other =>
    rw [State.advance] at advanced
    split at advanced
    · rename_i phase
      cases advanced
      exact orderly.takeStream there phase
    · cases advanced
  | dial other answer =>
    rw [State.advance] at advanced
    split at advanced
    · rename_i phase
      cases advanced
      exact orderly.dial there phase answer
    · cases advanced
  | answer other answer =>
    rw [State.advance] at advanced
    split at advanced
    · rename_i stage n phase
      exact orderly.answer there phase advanced
    · cases advanced
  | store other =>
    rw [State.advance] at advanced
    split at advanced
    · rename_i response n phase
      cases advanced
      exact orderly.store there phase
    · cases advanced
  | elapse other =>
    rw [State.advance] at advanced
    split at advanced
    · split at advanced
      · cases advanced
        exact orderly.quiet { task with phase := .finished } rfl rfl rfl rfl nofun trivial
      · cases advanced
    · cases advanced
  | drop other =>
    rw [State.advance] at advanced
    split at advanced
    · cases advanced
      exact orderly.quiet { task with phase := .finished } rfl rfl rfl rfl nofun trivial
    · cases advanced

theorem step (orderly : Orderly decode state) {label : Label} (stepped : step decode state label = some next) :
    Orderly decode next := by
  have later : ∀ id task, state.tasks id = some task → state.advance decode id task label = some next →
      Orderly decode next := fun id task there advanced => orderly.advance there advanced
  cases label with
  | preconnect connected =>
    cases connected with
    | true =>
      cases stepped
      exact orderly.preconnect
    | false =>
      cases stepped
      exact orderly
  | call id imageRef =>
    rw [VsockClient.step] at stepped
    split at stepped
    · cases stepped
    · cases stepped
      exact orderly.quiet ⟨.foreground, imageRef, .looking, []⟩ rfl rfl rfl rfl nofun rfl
  | prefetch id imageRef =>
    rw [VsockClient.step] at stepped
    split at stepped
    · cases stepped
    · split at stepped
      · cases stepped
        exact orderly
      · cases stepped
        exact orderly.quiet ⟨.prefetch, imageRef, .waiting, []⟩ rfl rfl rfl rfl nofun rfl
  | look id | lock id | check id | takeStream id | dial id answer | answer id answer | store id | elapse id | drop id =>
    simp only [VsockClient.step, Label.task] at stepped
    split at stepped
    · cases stepped
    · rename_i task there
      exact later id task there stepped

end Orderly

section Requests

theorem encodeVarint_length_le (fuel : Nat) {n m : Nat} (le : n ≤ m) :
    (encodeVarint fuel n).length ≤ (encodeVarint fuel m).length := by
  induction fuel generalizing n m with
  | zero => exact Nat.le_refl _
  | succ fuel ih =>
    simp only [encodeVarint]
    split
    · split
      · exact Nat.le_refl _
      · exact Nat.succ_le_succ (Nat.zero_le _)
    · rename_i wide
      rw [if_neg (by omega)]
      exact Nat.succ_le_succ (ih (Nat.div_le_div_right le))

/-- A message is of one request only. -/
theorem encodeRequest_injective {imageRef other : Text} (same : encodeRequest imageRef = encodeRequest other) :
    imageRef = other := by
  have decoded : ∀ {one two : Text}, utf8 one = utf8 two → one = two := by
    intro one two bytes
    exact Option.some.inj ((fromUtf8_utf8 one).symm.trans ((congrArg fromUtf8 bytes).trans (fromUtf8_utf8 two)))
  rw [encodeRequest, encodeRequest] at same
  split at same
  · rename_i empty
    split at same
    · rename_i empty'
      rw [empty, empty']
    · cases same
  · split at same
    · cases same
    · rw [List.cons_append, List.cons_append, List.cons.injEq] at same
      have total := congrArg List.length same.2
      rw [List.length_append, List.length_append] at total
      have length : (utf8 imageRef).length = (utf8 other).length := by
        rcases Nat.lt_trichotomy (utf8 imageRef).length (utf8 other).length with less | equal | more
        · have := encodeVarint_length_le 10 (Nat.le_of_lt less)
          omega
        · exact equal
        · have := encodeVarint_length_le 10 (Nat.le_of_lt more)
          omega
      rw [length] at same
      exact decoded (List.append_cancel_left same.2)

/-- What the server receives is a request for one image only. -/
theorem Stream.Asks.unique {stream : Stream} {imageRef other : Text} (asks : stream.Asks imageRef)
    (otherwise : stream.Asks other) : imageRef = other := by
  have framed : ∀ {one : Text}, stream.Asks one →
      stream.sent = Crypto.toBeBytes (encodeRequest one).length ++ encodeRequest one := by
    intro one asked
    unfold Stream.Asks requestFrame at asked
    dsimp only at asked
    split at asked
    · cases asked
    · exact (Except.ok.inj asked).symm
  apply encodeRequest_injective
  have same := (framed asks).symm.trans (framed otherwise)
  exact (List.append_inj same rfl).2

end Requests

section Results

variable {decode : List UInt8 → Except String PrepareRootfsResponse} {state : State}

theorem reached_orderly (reached : (fastSystem decode).Reachable System.Free state) : Orderly decode state := by
  refine reached.invariant ?_ fun state label next orderly _ stepped => orderly.step stepped
  rintro state rfl
  refine ⟨?_, ?_, nofun, nofun, nofun⟩
  · intro one other item first second
    cases one <;> cases first
  · intro holder n held
    cases holder <;> cases held

/-- A call of `prepare_rootfs_fast` has returned. -/
def State.Returned (state : State) (id : Nat) (imageRef : Text) (heard : List Answer) (outcome : Outcome)
    (source : Option Nat) : Prop :=
  state.tasks id = some ⟨.foreground, imageRef, .returned outcome source, heard⟩

/-- In every interleaving of calls, prefetches and their ends: a response comes from a call of the
server for the image that was asked for and for no other, two calls get theirs from different
ones, and a call that fails does so by the answers to its own operations. -/
theorem prefetched_responses_are_own (reached : (fastSystem decode).Reachable System.Free state) :
    (∀ id imageRef heard response source, state.Returned id imageRef heard (.ok response) source →
      ∃ n stream, source = some n ∧ state.streams[n]? = some stream ∧ stream.Gives decode imageRef response ∧
        ∀ other, stream.Asks other → other = imageRef) ∧
      (∀ id other imageRef imageRef' heard heard' response response' n,
        state.Returned id imageRef heard (.ok response) (some n) →
        state.Returned other imageRef' heard' (.ok response') (some n) → id = other) ∧
      ∀ id imageRef heard error source, state.Returned id imageRef heard (.error error) source →
        OwnFailure decode imageRef heard error := by
  have orderly := reached_orderly reached
  refine ⟨?_, ?_, ?_⟩
  · intro id imageRef heard response source returned
    have sound := orderly.tasks id _ returned
    cases source with
    | none => cases sound
    | some n =>
      obtain ⟨stream, found, gives⟩ := sound
      exact ⟨n, stream, rfl, found, gives, fun other asks => asks.unique gives.1⟩
  · intro id other imageRef imageRef' heard heard' response response' n first second
    have held : ∀ {id : Nat} {imageRef : Text} {heard : List Answer} {response : PrepareRootfsResponse},
        state.Returned id imageRef heard (.ok response) (some n) → state.holds (.task id) = some n := by
      intro id imageRef heard response returned
      rw [State.holds, show state.tasks id = _ from returned]
      rfl
    exact Holder.task.inj (orderly.custody _ _ n (held first) (held second))
  · intro id imageRef heard error source returned
    exact orderly.tasks id _ returned

/-- The decoding of a message without fields. -/
def decodeEmpty (body : List UInt8) : Except String PrepareRootfsResponse :=
  if body = [] then .ok ⟨[], [], 0, 0, [], [], 0, 0, 0⟩ else .error "not the empty message"

/-- A prefetch for one image while a call for another waits and then cannot connect; a second call
takes what the prefetch has left. -/
def prefetchAndCalls : List Label :=
  [.prefetch 0 ['a'], .call 1 ['b'], .look 1, .lock 0, .check 0, .takeStream 0, .dial 0 (.done []),
    .answer 0 (.done []), .answer 0 (.done [0]), .answer 0 (.done [0, 0, 0, 0]), .answer 0 (.done []), .store 0,
    .lock 1, .check 1, .takeStream 1, .dial 1 (.failed "refused" 0), .call 2 ['a'], .look 2]

theorem prefetch_used_once :
    ∃ state response, (fastSystem decodeEmpty).Reachable System.Free state ∧
      state.Returned 2 ['a'] [] (.ok response) (some 0) ∧
      state.Returned 1 ['b'] [.failed "refused" 0] (.error (.connect "refused")) none ∧
      (∃ n stream, some 0 = some n ∧ state.streams[n]? = some stream ∧ stream.Gives decodeEmpty ['a'] response ∧
        ∀ other, stream.Asks other → other = ['a']) ∧
      OwnFailure decodeEmpty ['b'] [.failed "refused" 0] (.connect "refused") := by
  have done : ((fastSystem decodeEmpty).exec initial prefetchAndCalls).map
    (fun state => (state.tasks 2, state.tasks 1)) =
      some (some ⟨.foreground, ['a'], .returned (.ok ⟨[], [], 0, 0, [], [], 0, 0, 0⟩) (some 0), []⟩,
        some ⟨.foreground, ['b'], .returned (.error (.connect "refused")) none, [.failed "refused" 0]⟩) := by
    rfl
  obtain ⟨state, ran, results⟩ := Option.map_eq_some_iff.mp done
  rw [Prod.mk.injEq] at results
  have begins : (fastSystem decodeEmpty).start initial := rfl
  have reached := System.reachable_of_exec begins (fun _ _ _ => trivial) ran
  obtain ⟨own, _, failures⟩ := prefetched_responses_are_own reached
  exact ⟨state, _, reached, results.1, results.2, own _ _ _ _ _ results.1, failures _ _ _ _ _ results.2⟩

end Results

end GuestComponents.Image.VsockClient
