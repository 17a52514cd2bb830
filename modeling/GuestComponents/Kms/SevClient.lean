import GuestComponents.Crypto.Backends
import GuestComponents.Hub.KbcParams
import GuestComponents.KbsProtocol.ResourceUri
import GuestComponents.Lib.Base64
import GuestComponents.Lib.Program

/-! The KBC for SEV with an online KBS (`kbs/sev/client.rs`) behind the client that all calls share
(`kbs/mod.rs`). Two globals are filled when they are first used, the shared client under a mutex and
the connection under a lock for readers and writers. The constructor of the KBC fills the
connection where there is one already, so that there never is one
(`Unconnected`), whatever the order of the calls. -/
namespace GuestComponents.Kms.SevClient
open Lib Crypto
open Hub (AaKbcParams)
open KbsProtocol (ResourceUri Url)

/-- `client.rs::RealKbc`. -/
structure RealKbc where
  clientId : Text
  key : List UInt8
  kbsUri : Text

/-- `client.rs::Connection`, the id in its hyphenated form. -/
structure Connection where
  clientId : Text
  key : Text

/-- `mod.rs::RealClient`. -/
inductive RealClient where
  | cc
  | sev
  | offlineFs
deriving DecidableEq

/-- The one secret that is asked for, and where. -/
structure OnlineSecretRequest where
  kbsUri : Text
  clientId : Text
  guid : Text
  format : Text
  secretType : Text
  id : Text

structure OnlineSecretResponse where
  payload : Text
  iv : Text

/-- What a call does to the globals, to the machine and to the KBS. -/
inductive Op where
  | lockClient
  | unlockClient
  | client
  | setClient (client : RealClient)
  | readLock
  | readUnlock
  | writeLock
  | writeUnlock
  | isNone
  | asRef
  | setKbc (kbc : RealKbc)
  | mountSecurityFs
  | loadSecretModule
  | readKeys
  | removeKeys
  | getOnlineSecret (request : OnlineSecretRequest)
  | newGuid
  | newClient (client : RealClient)
  | getResource (client : RealClient) (rid : ResourceUri)
  | created

abbrev Answer : Op → Type
  | .client => Option RealClient
  | .isNone => Bool
  | .asRef => Option RealKbc
  | .mountSecurityFs | .loadSecretModule | .removeKeys | .newClient _ => Except String Unit
  | .readKeys => Except String Text
  | .getOnlineSecret _ => Except String OnlineSecretResponse
  | .newGuid => Text
  | .getResource _ _ => Except String (List UInt8)
  | _ => Unit

/-- What is said about a run: a constructor of the KBC has returned, a call has looked for
the connection and found one or none, the injected file was read or removed. -/
inductive Event where
  | created
  | lookedUp (found : Bool)
  | readKeys
  | removedKeys
deriving DecidableEq

structure World where
  /-- `KBS_CLIENT`, and the task that has locked it. -/
  client : Option RealClient
  clientHolder : Option Nat
  /-- `ONLINE_SEV_KBC`, and the tasks that have locked it. -/
  kbc : Option RealKbc
  readers : List Nat
  writer : Option Nat
  /-- The injected file at `KEYS_PATH`. -/
  keys : Option Text
  history : List Event

/-- What the machine and the KBS answer. -/
structure Choice where
  status : Except String Unit
  guid : Text
  response : Except String OnlineSecretResponse
  resource : Except String (List UInt8)

/-- A task is past a lock only when nobody is in its way. -/
def enabled (world : World) : Op → Bool
  | .lockClient => world.clientHolder.isNone
  | .readLock => world.writer.isNone
  | .writeLock => world.writer.isNone && world.readers.isEmpty
  | _ => true

def World.note (world : World) (event : Event) : World := { world with history := event :: world.history }

def act (pid : Nat) (world : World) : (op : Op) → Choice → Answer op × World
  | .lockClient, _ => ((), { world with clientHolder := some pid })
  | .unlockClient, _ => ((), { world with clientHolder := none })
  | .client, _ => (world.client, world)
  | .setClient client, _ => ((), { world with client := some client })
  | .readLock, _ => ((), { world with readers := pid :: world.readers })
  | .readUnlock, _ => ((), { world with readers := world.readers.erase pid })
  | .writeLock, _ => ((), { world with writer := some pid })
  | .writeUnlock, _ => ((), { world with writer := none })
  | .isNone, _ => (world.kbc.isNone, world)
  | .asRef, _ => (world.kbc, world.note (.lookedUp world.kbc.isSome))
  | .setKbc kbc, _ => ((), { world with kbc := some kbc })
  | .mountSecurityFs, choice => (choice.status, world)
  | .loadSecretModule, choice => (choice.status, world)
  | .readKeys, choice =>
    match choice.status, world.keys with
    | .ok (), some keys => (.ok keys, world.note .readKeys)
    | .ok (), none => (.error "No such file or directory", world)
    | .error error, _ => (.error error, world)
  | .removeKeys, choice =>
    match choice.status with
    | .ok () => (.ok (), { world with keys := none }.note .removedKeys)
    | .error error => (.error error, world)
  | .getOnlineSecret _, choice => (choice.response, world)
  | .newGuid, choice => (choice.guid, world)
  | .newClient _, choice => (choice.status, world)
  | .getResource _ _, choice => (choice.resource, world)
  | .created, _ => ((), world.note .created)

/-- The calls a process gets: the plugin's two functions, and the two of the KBC itself (`get_resource` of one that
was made). -/
inductive Request where
  | clientNew
  | getSecret (name : Text)
  | sevNew (kbsUri : Text)
  | getResource (rid : ResourceUri)

/-- A task that is dropped gives up its locks. -/
def sevHost : Service Op Answer World Choice Request where
  perform := act
  began _ _ world := world
  died pid world :=
    { world with
      clientHolder := world.clientHolder.filter (· ≠ pid)
      readers := world.readers.filter (· ≠ pid)
      writer := world.writer.filter (· ≠ pid) }

abbrev Prog := Fallible Op Answer (Fault String)

def call (op : Op) : Prog (Answer op) := ExceptT.lift (Program.perform op)

def ofOutcome {α : Type} (outcome : Outcome α) : Prog α := ExceptT.mk (pure outcome)

/-- `map_err`. -/
def mapErr {α : Type} (context : String) (result : Except String α) : Prog α :=
  ofOutcome ((Outcome.ofResult result).mapError (context ++ ·))

/-- `expect`. -/
def expect {α : Type} (message : String) : Option α → Prog α
  | some value => pure value
  | none => throw (.panic message)

/-- A guard is released in every case, on the way of a panic too. -/
def guarded {α : Type} (acquire release : Op) (body : Prog α) : Prog α := ExceptT.mk do
  let _ ← Program.perform acquire
  let result ← body.run
  let _ ← Program.perform release
  return result

/-- The process: its environment, and the parsers and the decryption that the code calls. -/
structure Process where
  aaKbcParams : Option Text
  parseUrl : Text → Option Url
  readConnection : Text → Except String Connection
  checkUri : Text → Except String Unit
  readPayload : List UInt8 → Except String (List (Text × List UInt8))
  decrypt : (key iv ciphertext : List UInt8) → WrapType → Outcome (List UInt8)

namespace Process

variable (process : Process)

/-- `RealKbc::new`. -/
def realKbcNew (kbsUri : Text) : Prog RealKbc := do
  mapErr "online-sev-kbc: mount security fs failed: " (← call .mountSecurityFs)
  mapErr "online-sev-kbc: create SecretKernelModule failed: " (← call .loadSecretModule)
  let connectionJson ← mapErr "online-sev-kbc: Read keys failed: " (← call .readKeys)
  expect "Failed to remove secret file" (← call .removeKeys).toOption
  let connection ← mapErr "online-sev-kbc: deserialze keys failed: " (process.readConnection connectionJson)
  let key ← mapErr "online-sev-kbc: base64 decode connection key failed: "
    ((Base64.decode connection.key).elim (.error "Invalid input") .ok)
  let kbsUri := "http://".toList ++ kbsUri
  mapErr "online-sev-kbc: parse kbs uri failed: " (process.checkUri kbsUri)
  return { clientId := connection.clientId, key, kbsUri }

/-- `OnlineSevKbc::new`. -/
def onlineSevKbcNew (kbsUri : Text) : Prog Unit := do
  let uninitialised ← guarded .readLock .readUnlock (call .isNone)
  if !uninitialised then
    guarded .writeLock .writeUnlock do
      let kbc ← process.realKbcNew kbsUri
      call (.setKbc kbc)
  call .created

/-- `get_resource_from_kbs`. -/
def getResourceFromKbs (resourceUri : ResourceUri) (secretType : Text) : Prog (List UInt8) :=
  guarded .readLock .readUnlock do
    let kbc ← expect "Must be initialized" (← call .asRef)
    let guid ← call .newGuid
    let response ← mapErr "online-sev-kbc: sev get online secret failed: " (← call (.getOnlineSecret {
      kbsUri := kbc.kbsUri, clientId := kbc.clientId, guid, format := "binary".toList, secretType,
      id := resourceUri.resourcePath }))
    let payload ← mapErr "online-sev-kbc: base64 decode response.payload failed: "
      ((Base64.decode response.payload).elim (.error "Invalid input") .ok)
    let iv ← mapErr "online-sev-kbc: base64 decode response.iv failed: "
      ((Base64.decode response.iv).elim (.error "Invalid input") .ok)
    let decryptedPayload ← ofOutcome ((process.decrypt kbc.key iv payload .aes256Gcm).mapError
      ("online-sev-kbc: decrypt payload failed: " ++ ·))
    let payloadDict ← mapErr "online-sev-kbc: deserailize payload dictionary failed: "
      (process.readPayload decryptedPayload)
    ofOutcome (Outcome.okOr
      s!"online-sev-kbc: No guid {String.ofList guid} found in the returned payload dictionary."
      (payloadDict.lookup guid))

/-- `OnlineSevKbc::get_resource`. -/
def sevGetResource (rid : ResourceUri) : Prog (List UInt8) :=
  guarded .readLock .readUnlock do
    let kbc ← expect "Must be initialized" (← call .asRef)
    if rid.type = "client-id".toList then return Text.utf8 kbc.clientId
    else process.getResourceFromKbs rid "resource".toList

/-- `RealClient::new`. -/
def realClientNew : Prog RealClient := do
  let params ← expect "must be initialized" process.aaKbcParams
  match AaKbcParams.tryFrom params with
  | .error (.illegalFormat value) =>
    ofOutcome (.bail s!"Failed to parse aa_kbc_params: IllegalFormat({String.ofList value})")
  | .ok params =>
    if params.kbc = "cc_kbc".toList then do
      mapErr "" (← call (.newClient .cc))
      return .cc
    else if params.kbc = "online_sev_kbc".toList then do
      process.onlineSevKbcNew params.uri
      return .sev
    else if params.kbc = "offline_fs_kbc".toList then do
      mapErr "" (← call (.newClient .offlineFs))
      return .offlineFs
    else ofOutcome <| .bail <|
      s!"unknown kbc name {String.ofList params.kbc}, only support `cc_kbc`(feature `kbs`), " ++
        "`online_sev_kbc` (feature `sev`) and `offline_fs_kbc`."

/-- The shared client is made by the first call that needs it. -/
def ensureClient : Prog Unit := do
  if (← call .client).isNone then
    let c ← process.realClientNew
    call (.setClient c)

/-- `KbcClient::new`. -/
def clientNew : Prog Unit := guarded .lockClient .unlockClient process.ensureClient

/-- `KbcClient::get_secret`. -/
def getSecret (name : Text) : Prog (List UInt8) := do
  match ResourceUri.tryFrom process.parseUrl name with
  | .error _ => ofOutcome (.bail s!"illegal kbs resource uri: {String.ofList name}")
  | .ok resourceUri =>
    guarded .lockClient .unlockClient do
      process.ensureClient
      match ← expect "must be initialized" (← call .client) with
      | .cc => mapErr "" (← call (.getResource .cc resourceUri))
      | .sev => process.sevGetResource resourceUri
      | .offlineFs => mapErr "" (← call (.getResource .offlineFs resourceUri))

/-- A call, whose result goes to its caller. -/
def serve : Request → Program Op Answer Unit
  | .clientNew => do
    let _ ← process.clientNew.run
    return ()
  | .getSecret name => do
    let _ ← (process.getSecret name).run
    return ()
  | .sevNew kbsUri => do
    let _ ← (process.onlineSevKbcNew kbsUri).run
    return ()
  | .getResource rid => do
    let _ ← (process.sevGetResource rid).run
    return ()

end Process

/-- At the start of the process both globals are empty. -/
def Fresh (world : World) : Prop :=
  world.client = none ∧ world.clientHolder = none ∧ world.kbc = none ∧ world.readers = [] ∧
  world.writer = none ∧
    world.history = []

/-- A step that can be taken: no lock is in its way, and only a KBC that was made is asked. -/
def ready (pool : Pool Op Answer World) : PoolLabel Request Choice → Bool
  | .start _ (.getResource _) => pool.world.history.contains .created
  | .start _ _ => true
  | .step pid _ =>
    match pool.procs pid with
    | some (.call op _) => enabled pool.world op
    | _ => true
  | .die _ => true

/-- All interleavings of the calls from the start of the process. -/
def sevCalls (process : Process) : System (Pool Op Answer World) (PoolLabel Request Choice) :=
  sevHost.pool process.serve Fresh

def Ready (pool : Pool Op Answer World) (label : PoolLabel Request Choice) : Prop := ready pool label = true

/-- Once a constructor has returned, no call looks for the connection and finds none, which is the panic
`Must be initialized`; and the injected file is read and removed once at most. -/
structure InitialisedOnce (history : List Event) : Prop where
  connected : ∀ later earlier, history = later ++ .lookedUp false :: earlier → .created ∉ earlier
  reads : history.count .readKeys ≤ 1
  removals : history.count .removedKeys ≤ 1

section Kept

/-- Nothing has filled the connection, and what has been noted goes with that. -/
structure Unconnected (world : World) : Prop where
  kbc : world.kbc = none
  client : world.client = some .sev → .created ∈ world.history
  events : ∀ event ∈ world.history, event = .created ∨ event = .lookedUp false
  lookups : ∀ later earlier, world.history = later ++ .lookedUp false :: earlier → .created ∈ earlier

def Created (world : World) : Prop := .created ∈ world.history

/-- What is noted stays. -/
def Grows (world after : World) : Prop := ∀ event ∈ world.history, event ∈ after.history

theorem Grows.refl (world : World) : Grows world world := fun _ => id

/-- An operation that neither fills a global nor notes anything. -/
def Plain : Op → Prop
  | .setClient client => client ≠ .sev
  | .asRef | .setKbc _ | .readKeys | .removeKeys | .created => False
  | _ => True

variable {pid : Nat} {world after : World} {op : Op} {choice : Choice}

/-- The same connection and history, and a client that is there already or is not this one. -/
theorem Unconnected.same (kept : Unconnected world) (kbc : after.kbc = world.kbc)
    (history : after.history = world.history) (client : after.client = some .sev → world.client = some .sev) :
    Unconnected after where
  kbc := kbc.trans kept.kbc
  client same := history ▸ kept.client (client same)
  events := history ▸ kept.events
  lookups := history ▸ kept.lookups

theorem Plain.history (plain : Plain op) : (act pid world op choice).2.history = world.history := by
  cases op <;> first | rfl | exact plain.elim

theorem Plain.kbc (plain : Plain op) : (act pid world op choice).2.kbc = world.kbc := by
  cases op <;> first | rfl | exact plain.elim

theorem Plain.client (plain : Plain op) (sev : (act pid world op choice).2.client = some .sev) :
    world.client = some .sev := by
  cases op with
  | setClient client =>
    cases sev
    exact absurd rfl plain
  | asRef | setKbc | readKeys | removeKeys | created => exact plain.elim
  | _ => exact sev

theorem Unconnected.plain (kept : Unconnected world) (plain : Plain op) :
    Unconnected (act pid world op choice).2 := kept.same plain.kbc plain.history plain.client

theorem grows_plain (plain : Plain op) : Grows world (act pid world op choice).2 := by
  intro event noted
  rwa [plain.history]

/-- What the calls keep, among all steps that can be taken. -/
def contract : Contract sevHost where
  inv := Unconnected
  permits _ _ _ _ := True
  mayStart _ world
    | .getResource _ => Created world
    | _ => True
  mayDie _ _ := True
  guarantee _ := Grows
  rely _ := Grows
  rely_refl _ := .refl
  rely_trans _ _ _ _ first second := fun event noted => second event (first event noted)
  compatible _ _ _ grows := grows
  starts kept _ := ⟨kept, fun _ _ => .refl _⟩
  dies kept _ := ⟨kept.same rfl rfl id, fun _ _ => .refl _⟩

theorem created_stable : contract.Stable pid Created := fun _ _ grows created => grows _ created

theorem fact_stable {fact : Prop} : contract.Stable pid fun _ => fact := fun _ _ _ => id

/-- A fact that comes with a constructor that has returned. -/
theorem when_stable {fact : Prop} : contract.Stable pid fun world => fact → Created world :=
  fun kept kept' grows created holds => created_stable kept kept' grows (created holds)

/-- The rest of a call keeps the globals as they are. -/
def Keeps {α : Type} (pid : Nat) (pre : World → Prop) (program : Prog α) (post : α → World → Prop) : Prop :=
  contract.Attempt pid pre program post fun _ => True

variable {α β : Type} {pre : World → Prop} {post : α → World → Prop}

theorem Keeps.bind {program : Prog α} {rest : α → Prog β} {final : β → World → Prop}
    (middle : α → World → Prop)
    (one : Keeps pid pre program middle) (two : ∀ value, Keeps pid (middle value) (rest value) final) :
    Keeps pid pre (program >>= rest) final :=
  Contract.Attempt.bind middle one fact_stable two

theorem Keeps.pure {value : α} (stable : contract.Stable pid pre) (holds : ∀ world, pre world → post value world) :
    Keeps pid pre (pure value : Prog α) post :=
  Contract.Attempt.pure stable fun world _ => holds world

theorem Keeps.never {program : Prog α} (never : ∀ world, ¬ pre world) : Keeps pid pre program post :=
  fun world _ holds => absurd holds (never world)

theorem Keeps.weaken {pre' : World → Prop} {post' : α → World → Prop} {program : Prog α}
    (keeps : Keeps pid pre program post) (before : ∀ world, pre' world → pre world)
    (after : ∀ value world, post value world → post' value world) : Keeps pid pre' program post' :=
  Contract.Attempt.consequence keeps (fun world _ => before world) fun value world _ => after value world

/-- One operation, by what it does to a world. -/
theorem Keeps.call {post : Answer op → World → Prop} (before : contract.Stable pid pre)
    (after : ∀ answer, contract.Stable pid (post answer))
    (step : ∀ world choice, Unconnected world → pre world → Unconnected (act pid world op choice).2 ∧
      Grows world (act pid world op choice).2 ∧ post (act pid world op choice).1 (act pid world op choice).2) :
    Keeps pid pre (SevClient.call op) post :=
  Contract.Attempt.lift (Contract.Triple.perform before after fun world choice kept holds _ =>
    step world choice kept holds) after

theorem perform_plain {assertion : World → Prop} (plain : Plain op) (stable : contract.Stable pid assertion) :
    contract.Triple pid assertion (Program.perform op) fun _ => assertion :=
  Contract.Triple.perform stable (fun _ => stable) fun _ _ kept holds _ =>
    ⟨kept.plain plain, grows_plain plain, stable kept (kept.plain plain) (grows_plain plain) holds⟩

theorem Keeps.plain (plain : Plain op) (stable : contract.Stable pid pre) :
    Keeps pid pre (SevClient.call op) fun _ => pre :=
  Contract.Attempt.lift (perform_plain plain stable) fun _ => stable

theorem Keeps.ofOutcome {outcome : Outcome α} (stable : contract.Stable pid pre) :
    Keeps pid pre (SevClient.ofOutcome outcome) fun _ => pre := by
  cases outcome with
  | ok value => exact Contract.Triple.pure stable fun _ _ holds => holds
  | error fault => exact Contract.Triple.pure stable fun _ _ _ => trivial

theorem Keeps.expect {message : String} {option : Option α} (stable : contract.Stable pid pre) :
    Keeps pid pre (SevClient.expect message option) fun value world => option = some value ∧ pre world := by
  cases option with
  | none => exact Contract.Attempt.throw stable fun _ _ _ => trivial
  | some value => exact .pure stable fun _ holds => ⟨rfl, holds⟩

/-- A lock around a part of the call changes nothing about what the part keeps. -/
theorem Keeps.guarded {acquire release : Op} {body : Prog α} (acquires : Plain acquire) (releases : Plain release)
    (before : contract.Stable pid pre) (after : ∀ value, contract.Stable pid (post value))
    (keeps : Keeps pid pre body post) : Keeps pid pre (SevClient.guarded acquire release body) post := by
  have ends : ∀ result : Except (Fault String) α,
      contract.Stable pid (Contract.Either post (fun _ => True) result) :=
    Contract.Either.stable after fact_stable
  refine Contract.Triple.bind (perform_plain acquires before) fun _ => ?_
  refine Contract.Triple.bind keeps fun result => ?_
  refine Contract.Triple.bind (perform_plain releases (ends result)) fun _ => ?_
  exact Contract.Triple.pure (ends result) fun _ _ holds => holds

/-- The connection that a call looks for is not there. -/
theorem keeps_asRef : Keeps pid Created (SevClient.call .asRef) fun value _ => value = none := by
  refine .call created_stable (fun _ => fact_stable) fun world choice kept created => ?_
  have found : world.kbc.isSome = false := by rw [kept.kbc]; rfl
  refine ⟨⟨kept.kbc, fun sev => .tail _ (kept.client sev), ?_, ?_⟩, fun _ noted => .tail _ noted, kept.kbc⟩
  · intro event noted
    rcases List.mem_cons.mp noted with rfl | earlier
    · exact .inr (congrArg Event.lookedUp found)
    · exact kept.events event earlier
  · intro later earlier split
    cases later with
    | nil =>
      rw [← (List.cons.inj split).2]
      exact created
    | cons event later =>
      exact kept.lookups later earlier (List.cons.inj split).2

/-- A constructor that returns is noted. -/
theorem keeps_created : Keeps pid (fun _ => True) (SevClient.call .created) fun _ => Created := by
  refine .call fact_stable (fun _ => created_stable) fun world choice kept _ => ?_
  refine ⟨⟨kept.kbc, fun _ => List.mem_cons_self, ?_, ?_⟩, fun _ noted => .tail _ noted, List.mem_cons_self⟩
  · intro event noted
    rcases List.mem_cons.mp noted with rfl | earlier
    · exact .inl rfl
    · exact kept.events event earlier
  · intro later earlier split
    cases later with
    | nil => cases split
    | cons event later => exact kept.lookups later earlier (List.cons.inj split).2

variable {process : Process}

/-- The constructor finds no connection, and so it makes none. -/
theorem keeps_onlineSevKbcNew {kbsUri : Text} :
    Keeps pid (fun _ => True) (process.onlineSevKbcNew kbsUri) fun _ => Created := by
  have none : Keeps pid (fun _ => True) (SevClient.guarded .readLock .readUnlock (SevClient.call .isNone))
      fun uninitialised _ => uninitialised = true := by
    refine .guarded trivial trivial fact_stable (fun _ => fact_stable) ?_
    refine .call fact_stable (fun _ => fact_stable) fun world choice kept _ => ?_
    exact ⟨kept, .refl _, by rw [act, kept.kbc]; rfl⟩
  refine none.bind _ fun uninitialised => ?_
  cases uninitialised with
  | false => exact .never fun _ impossible => by cases impossible
  | true => exact keeps_created.weaken (fun _ _ => trivial) fun _ _ => id

/-- Whoever asks the KBC for a resource ends with the panic. -/
theorem keeps_sevGetResource {rid : ResourceUri} :
    Keeps pid Created (process.sevGetResource rid) fun _ _ => True := by
  refine .guarded trivial trivial created_stable (fun _ => fact_stable) ?_
  refine keeps_asRef.bind _ fun found => ?_
  cases found with
  | none => exact Contract.Attempt.throw fact_stable fun _ _ _ => trivial
  | some kbc => exact .never fun _ impossible => by cases impossible

theorem keeps_bail {message : String} {post : α → World → Prop} :
    Keeps pid pre (SevClient.ofOutcome (.bail message)) post :=
  fun _ _ _ _ _ _ => trivial

theorem keeps_mapErr {context : String} {result : Except String α} (stable : contract.Stable pid pre) :
    Keeps pid pre (mapErr context result) fun _ => pre := .ofOutcome stable

/-- A client of this KBC has called the constructor. -/
theorem keeps_realClientNew : Keeps pid (fun _ => True) process.realClientNew
    fun client world => client = .sev → Created world := by
  have other : ∀ client : RealClient, client ≠ .sev → Keeps pid (fun _ => True)
      (do mapErr "" (← SevClient.call (.newClient client)); return client) fun client world =>
        client = .sev → Created world := by
    intro client apart
    refine (Keeps.plain (show Plain (.newClient client) from trivial) fact_stable).bind _ fun status => ?_
    refine (keeps_mapErr fact_stable).bind _ fun _ => ?_
    exact .pure fact_stable fun _ _ sev => absurd sev apart
  refine (Keeps.expect fact_stable).bind _ fun params => ?_
  refine @Keeps.weaken _ _ (fun _ => True) _ _ _ _ ?_ (fun _ _ => trivial) fun _ _ => id
  cases AaKbcParams.tryFrom params with
  | error error => exact keeps_bail
  | ok params =>
    dsimp only
    split
    · exact other .cc (by decide)
    · split
      · refine keeps_onlineSevKbcNew.bind _ fun _ => ?_
        exact .pure created_stable fun _ created _ => created
      · split
        · exact other .offlineFs (by decide)
        · exact keeps_bail

theorem keeps_ensureClient : Keeps pid (fun _ => True) process.ensureClient fun _ _ => True := by
  refine (Keeps.plain (show Plain .client from trivial) fact_stable).bind _ fun client => ?_
  split
  · refine keeps_realClientNew.bind _ fun client => ?_
    refine .call when_stable (fun _ => fact_stable) fun world choice kept created => ?_
    exact ⟨⟨kept.kbc, fun sev => created (Option.some.inj sev), kept.events, kept.lookups⟩, .refl _, trivial⟩
  · exact .pure fact_stable fun _ _ => trivial

theorem keeps_clientNew : Keeps pid (fun _ => True) process.clientNew fun _ _ => True :=
  .guarded trivial trivial fact_stable (fun _ => fact_stable) keeps_ensureClient

theorem keeps_getSecret {name : Text} : Keeps pid (fun _ => True) (process.getSecret name) fun _ _ => True := by
  unfold Process.getSecret
  split
  · exact keeps_bail
  · refine .guarded trivial trivial fact_stable (fun _ => fact_stable) ?_
    refine keeps_ensureClient.bind _ fun _ => ?_
    have client : Keeps pid (fun _ => True) (SevClient.call .client) fun client world =>
        client = some .sev → Created world :=
      .call fact_stable (fun _ => when_stable) fun world choice kept _ => ⟨kept, .refl _, kept.client⟩
    refine client.bind _ fun found => ?_
    refine (Keeps.expect when_stable).bind _ fun client => ?_
    have other : ∀ client rid, Keeps pid (fun _ => True)
        (do mapErr "" (← SevClient.call (.getResource client rid))) fun (_ : List UInt8) _ => True := fun client rid =>
      (Keeps.plain (show Plain (.getResource client rid) from trivial) fact_stable).bind _ fun _ =>
        keeps_mapErr fact_stable
    cases client with
    | cc => exact (other _ _).weaken (fun _ _ => trivial) fun _ _ => id
    | offlineFs => exact (other _ _).weaken (fun _ _ => trivial) fun _ _ => id
    | sev => exact keeps_sevGetResource.weaken (fun _ holds => holds.2 holds.1) fun _ _ => id

/-- Every call keeps the globals as they are. -/
theorem triple_serve (request : Request) : contract.Triple pid
    (fun world => ∃ before, contract.mayStart pid before request ∧ world = sevHost.began pid request before)
    (process.serve request) fun _ _ => True := by
  have ends : ∀ {α : Type} {pre : World → Prop} {program : Prog α}, Keeps pid pre program (fun _ _ => True) →
      contract.Triple pid pre (program.run >>= fun _ => pure ()) fun _ _ => True := fun keeps =>
    Contract.Triple.bind keeps fun result => Contract.Triple.pure
      (Contract.Either.stable (fun _ => fact_stable) fact_stable result) fun _ _ _ => trivial
  cases request with
  | clientNew => exact (ends keeps_clientNew).consequence (fun _ _ _ => trivial) fun _ _ _ => id
  | getSecret name => exact (ends keeps_getSecret).consequence (fun _ _ _ => trivial) fun _ _ _ => id
  | sevNew kbsUri =>
    refine (ends (keeps_onlineSevKbcNew.weaken (fun _ => id) fun _ _ _ => trivial)).consequence (fun _ _ _ => trivial)
      fun _ _ _ => id
  | getResource rid =>
    refine (ends keeps_sevGetResource).consequence ?_ fun _ _ _ => id
    rintro world _ ⟨before, created, rfl⟩
    exact created

/-- In every interleaving the connection stays empty. -/
theorem unconnected {pool : Pool Op Answer World} (reached : (sevCalls process).Reachable Ready pool) :
    Unconnected pool.world := by
  have guarded : (sevCalls process).Reachable contract.Guard pool := by
    refine reached.weaken ?_
    rintro state (⟨pid, _ | _ | _ | _⟩ | ⟨pid, choice⟩ | ⟨pid⟩) allowed
    · trivial
    · trivial
    · trivial
    · exact List.contains_iff_mem.mp allowed
    · exact fun _ _ _ => trivial
    · trivial
  refine (Contract.pool_safe ?_ (fun pid request => triple_serve request) guarded).inv
  rintro world ⟨client, _, kbc, _, _, history⟩
  refine ⟨kbc, ?_, ?_, ?_⟩
  · rw [client]
    nofun
  · rw [history]
    nofun
  · rw [history]
    intro later earlier split
    cases later <;> cases split

/-- In a state of any interleaving `InitialisedOnce` holds of what has happened exactly as long as no call has
looked for the connection. -/
theorem initialised_once_iff {pool : Pool Op Answer World} (reached : (sevCalls process).Reachable Ready pool) :
    InitialisedOnce pool.world.history ↔ ∀ found, .lookedUp found ∉ pool.world.history := by
  have kept := unconnected reached
  have none : ∀ event, (∀ found, event ≠ .lookedUp found) → event ≠ .created →
      pool.world.history.count event = 0 := by
    intro event lookup created
    refine List.count_eq_zero.mpr fun noted => ?_
    rcases kept.events event noted with rfl | rfl
    · exact created rfl
    · exact lookup _ rfl
  constructor
  · intro once found noted
    have missed : found = false := by
      rcases kept.events _ noted with same | same <;> cases same
      rfl
    subst missed
    obtain ⟨later, earlier, split⟩ := List.append_of_mem noted
    exact once.connected later earlier split (kept.lookups later earlier split)
  · intro unasked
    refine ⟨fun later earlier split => ?_, ?_, ?_⟩
    · refine absurd ?_ (unasked false)
      rw [split]
      exact List.mem_append_right _ List.mem_cons_self
    · rw [none .readKeys nofun nofun]
      exact Nat.zero_le 1
    · rw [none .removedKeys nofun nofun]
      exact Nat.zero_le 1

end Kept

section Examples

/-- A process on an SEV guest with its injected file. -/
def sevGuest : Process where
  aaKbcParams := some "online_sev_kbc::kbs:8080".toList
  parseUrl _ := some ⟨"kbs".toList, none, none, "/a/b/c".toList, none⟩
  readConnection _ := .ok ⟨"id".toList, "AAAA".toList⟩
  checkUri _ := .ok ()
  readPayload _ := .ok []
  decrypt _ _ _ _ := .ok []

def atStart : Pool Op Answer World := ⟨⟨none, none, none, [], none, some "{}".toList, []⟩, fun _ => none⟩

def quiet : Choice := ⟨.ok (), [], .error "unreachable", .error "unreachable"⟩

/-- The shared client is made; and then a secret is asked for. -/
def creation : List (PoolLabel Request Choice) := .start 0 .clientNew :: List.replicate 8 (.step 0 quiet)

def question : List (PoolLabel Request Choice) :=
  .start 1 (.getSecret "kbs:///a/b/c".toList) :: List.replicate 5 (.step 1 quiet)

def created : Option (Pool Op Answer World) := (sevCalls sevGuest).execIf ready atStart creation

theorem created_some : created.isSome = true := rfl

def asked : Option (Pool Op Answer World) := (sevCalls sevGuest).execIf ready atStart (creation ++ question)

theorem asked_some : asked.isSome = true := rfl

theorem atStart_fresh : (sevCalls sevGuest).start atStart := ⟨⟨rfl, rfl, rfl, rfl, rfl, rfl⟩, rfl⟩

theorem reachable_of_ready {labels : List (PoolLabel Request Choice)} {pool : Pool Op Answer World}
    (ran : (sevCalls sevGuest).execIf ready atStart labels = some pool) : (sevCalls sevGuest).Reachable Ready pool :=
  (System.Reachable.start atStart_fresh).execIf (fun _ _ _ allowed => allowed) ran

/-- `initialised_once_iff` where the client was made and nothing was asked for. -/
theorem only_created : InitialisedOnce (created.get created_some).world.history :=
  (initialised_once_iff (reachable_of_ready (Option.some_get created_some).symm)).mpr fun found noted => by
    have history : (created.get created_some).world.history = [.created] := rfl
    rw [history] at noted
    cases List.mem_singleton.mp noted

/-- The first question after that comes to the panic. -/
theorem first_question_panics : ∃ pool : Pool Op Answer World, (sevCalls sevGuest).Reachable Ready pool ∧
    pool.world.history = [.lookedUp false, .created] ∧ ¬ InitialisedOnce pool.world.history := by
  have history : (asked.get asked_some).world.history = [.lookedUp false, .created] := rfl
  refine ⟨asked.get asked_some, reachable_of_ready (Option.some_get asked_some).symm, history, fun once => ?_⟩
  exact once.connected [] [.created] history (List.mem_singleton.mpr rfl)

end Examples

end GuestComponents.Kms.SevClient
