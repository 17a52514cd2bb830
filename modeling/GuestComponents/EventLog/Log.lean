import GuestComponents.Lib.Text
import GuestComponents.Lib.Transition
import Mathlib.Logic.Function.Basic

/-! The attestation agent's event log (AAEL): the entries and their text, the
parser and the replay of a log file, and the calls that append to the file and
extend the measurement register. A call is a list of effects on what survives
the process, so that a crash is a prefix of that list. The digest functions
and the attester's extension are parameters. -/
namespace GuestComponents.EventLog
open Lib Lib.Text

/-- `algorithms.rs::HashAlgorithm`. -/
inductive HashAlgorithm where
  | sha256 | sha384 | sha512
  deriving DecidableEq

namespace HashAlgorithm

/-- The strum serialisation, which `Display` and `as_ref` both give. -/
def asRef : HashAlgorithm → Text
  | sha256 => "sha256".toList
  | sha384 => "sha384".toList
  | sha512 => "sha512".toList

def digestLen : HashAlgorithm → Nat
  | sha256 => 32
  | sha384 => 48
  | sha512 => 64

/-- `HashAlgorithm::from_str`. No character outside ASCII lowercases to one of
the characters compared with. -/
def fromStr (s : Text) : Option HashAlgorithm :=
  let cleaned := (s.filter (· ≠ '-')).map Char.toLower
  if cleaned = "sha256".toList then some sha256
  else if cleaned = "sha384".toList then some sha384
  else if cleaned = "sha512".toList then some sha512
  else none

theorem fromStr_asRef (alg : HashAlgorithm) : fromStr alg.asRef = some alg := by
  cases alg <;> decide

end HashAlgorithm

/-- The digest functions of the `sha2` crate. -/
abbrev Sha := HashAlgorithm → List UInt8 → List UInt8

/-- `mod.rs::Content`: text that `try_from` found no newline in. -/
structure Content where
  text : Text
  noNewline : '\n' ∉ text

def Content.tryFrom (value : Text) : Except String Content :=
  if absent : '\n' ∈ value then .error "content contains newline" else .ok ⟨value, absent⟩

/-- `mod.rs::LogEntry`. -/
inductive LogEntry where
  | event (domain operation : Text) (content : Content)
  | init (hashAlg : HashAlgorithm) (value : Text)

/-- The line of an INIT entry. -/
def initLine (alg : HashAlgorithm) (value : Text) : Text :=
  "INIT".toList ++ ' ' :: (alg.asRef ++ '/' :: value)

namespace LogEntry

/-- `LogEntry::fmt`. -/
def display : LogEntry → Text
  | event domain operation content => domain ++ ' ' :: (operation ++ ' ' :: content.text)
  | init alg value => initLine alg value

def digestWith (sha : Sha) (entry : LogEntry) (alg : HashAlgorithm) : List UInt8 :=
  sha alg (utf8 entry.display)

end LogEntry

/-- `event.rs::AAEventlog`. -/
structure AAEventlog where
  hashAlgorithm : HashAlgorithm
  initState : List UInt8
  events : List Text
  deriving DecidableEq

namespace AAEventlog

/-- `AAEventlog::from_str`. -/
def fromStr (input : Text) : Except String AAEventlog :=
  match lines input with
  | [] => .error "at least one line should be included in AAEL"
  | initline :: eventlines =>
    match words initline with
    | [keyword, content] =>
      if keyword ≠ "INIT".toList then .error "INIT event should start with `INIT` key word"
      else match splitOnce '/' content with
        | none => .error
          "INIT event should have `<sha-algorithm>/<init-PCR-value>` as content after `INIT`"
        | some (algorithm, initState) =>
          match HashAlgorithm.fromStr algorithm with
          | none => .error "parse Hash Algorithm in INIT entry"
          | some hashAlgorithm =>
            match hexDecode initState with
            | none => .error "parse init state in INIT entry"
            | some initState => .ok ⟨hashAlgorithm, initState, eventlines.map trimEnd⟩
    | _ => .error "Illegal INIT event record."

variable (sha : Sha)

/-- One event folded into the replayed register value. -/
def extendWith (alg : HashAlgorithm) (state : List UInt8) (event : Text) : List UInt8 :=
  sha alg (state ++ sha alg (utf8 event))

/-- `AAEventlog::accumulate_hash`: the INIT event is hashed in the form the
parsed state has, then the events in order. -/
def accumulateHash (log : AAEventlog) : List UInt8 :=
  log.events.foldl (extendWith sha log.hashAlgorithm)
    (extendWith sha log.hashAlgorithm log.initState
      (initLine log.hashAlgorithm (hexEncode log.initState)))

/-- `AAEventlog::integrity_check`. -/
def integrityCheck (log : AAEventlog) (rtmr : List UInt8) : Bool :=
  rtmr == log.accumulateHash sha

end AAEventlog

/-- The platform's measurement registers: how one of them takes a digest. -/
structure Attester where
  extend : List UInt8 → List UInt8 → List UInt8

/-- What outlives the agent's process: the file at `EVENTLOG_PATH` and the
measurement registers. -/
structure Machine where
  aael : Option Text
  registers : Nat → List UInt8

/-- One durable action of a call. -/
inductive Effect where
  | create
  | append (line : Text)
  | extend (pcr : Nat) (digest : List UInt8)

def Effect.apply (attester : Attester) (m : Machine) : Effect → Machine
  | create => { m with aael := some [] }
  | append line => { m with aael := m.aael.map (· ++ (line ++ ['\n'])) }
  | extend pcr digest =>
    { m with registers := Function.update m.registers pcr (attester.extend (m.registers pcr) digest) }

def Machine.run (attester : Attester) (m : Machine) (effects : List Effect) : Machine :=
  effects.foldl (Effect.apply attester) m

/-- The configuration the agent starts its event log with. -/
structure Config where
  alg : HashAlgorithm
  pcr : Nat

section Calls

variable (sha : Sha) (config : Config)

/-- `EventLog::extend_entry`: first the log, then the register the caller named. -/
def extendEntry (entry : LogEntry) (pcr : Nat) : List Effect :=
  [.append entry.display, .extend pcr (entry.digestWith sha config.alg)]

/-- `EventLog::extend_init_entry`, from the register's present value. -/
def extendInitEntry (m : Machine) : List Effect :=
  let value := padLeft config.alg.digestLen (hexEncode (m.registers config.pcr))
  let entry := LogEntry.init config.alg value
  [.append entry.display, .extend config.pcr (entry.digestWith sha config.alg)]

/-- The digest `EventLog::new` extends when the register and the log disagree. -/
def recoveryDigest (log : AAEventlog) : List UInt8 :=
  match log.events with
  | [] => sha config.alg (utf8 (initLine log.hashAlgorithm
      (padLeft log.hashAlgorithm.digestLen (hexEncode log.initState))))
  | first :: _ => sha config.alg (utf8 first)

/-- `EventLog::new`. An empty file is opened for reading only, so that writing
its INIT entry fails. -/
def newEventLog (m : Machine) : Except String (List Effect) :=
  match m.aael with
  | none => .ok (.create :: extendInitEntry sha config m)
  | some [] => .error "extend INIT entry"
  | some content =>
    match AAEventlog.fromStr content with
    | .error _ => .error "Parse AAEL"
    | .ok aael =>
      if aael.integrityCheck sha (m.registers config.pcr) then .ok []
      else .ok [.extend config.pcr (recoveryDigest sha config aael)]

end Calls

/-- The machine, and whether a process on it holds an `EventLog`. -/
structure Agent where
  machine : Machine
  running : Bool

/-- A call, cut off after some of its effects when the process dies there (or,
for `new`, when a read or an extension fails there), or the process going away
between two calls. -/
inductive Label where
  | new (interrupt : Option Nat)
  | extendEntry (entry : LogEntry) (pcr : Nat) (interrupt : Option Nat)
  | stop

section Run

variable (sha : Sha) (attester : Attester) (config : Config)

/-- The agent after a call with these effects. -/
def Agent.after (m : Machine) (effects : List Effect) : Option Nat → Agent
  | none => ⟨m.run attester effects, true⟩
  | some done => ⟨m.run attester (effects.take done), false⟩

def step (agent : Agent) : Label → Option Agent
  | .new interrupt =>
    if agent.running then none
    else match newEventLog sha config agent.machine with
      | .error _ => some agent
      | .ok effects => some (Agent.after attester agent.machine effects interrupt)
  | .extendEntry entry pcr interrupt =>
    if agent.running then
      some (Agent.after attester agent.machine (extendEntry sha config entry pcr) interrupt)
    else none
  | .stop => some { agent with running := false }

/-- Runs of the event log, from a machine on which the agent has never run. -/
def logSystem : System Agent Label where
  start agent := agent.machine.aael = none ∧ agent.running = false ∧
    config.alg.digestLen ≤ 2 * (agent.machine.registers config.pcr).length
  step := step sha attester config

end Run

end GuestComponents.EventLog
