import GuestComponents.EventLog.Recovery

/-! The attestation agent around its event log: `init`, which opens the log of
an earlier process or starts one, and `extend_runtime_measurement`, whose caller
names the register. The attester decides which register a PCR index stands for,
and its extension can fail in any call; what a call wrote before that stays. -/
namespace GuestComponents.EventLog
open Lib Lib.Text

/-- An attester: the register behind each PCR index (`pcr_to_rtmr` for TDX), and
how a register takes a digest. -/
structure Platform where
  register : Nat → Nat
  attester : Attester

namespace Platform

variable (platform : Platform)

/-- The machine as `get_runtime_measurement` shows it, by PCR index. -/
def seen (m : Machine) : Machine :=
  { m with registers := fun pcr => m.registers (platform.register pcr) }

/-- An effect on the register behind its PCR index. -/
def onRegister : Effect → Effect
  | .extend pcr digest => .extend (platform.register pcr) digest
  | .create => .create
  | .append line => .append line

def run (m : Machine) (effects : List Effect) : Machine :=
  m.run platform.attester (effects.map platform.onRegister)

@[simp] theorem run_nil (m : Machine) : platform.run m [] = m := rfl

@[simp] theorem seen_aael (m : Machine) : (platform.seen m).aael = m.aael := rfl

@[simp] theorem seen_registers (m : Machine) (pcr : Nat) :
    (platform.seen m).registers pcr = m.registers (platform.register pcr) := rfl

end Platform

def Effect.isExtension : Effect → Bool
  | .extend _ _ => true
  | _ => false

/-- The effects of a call that happen: all of them, or those before the failing
extension. -/
def performed (extensionFails : Bool) (effects : List Effect) : List Effect :=
  if extensionFails then effects.takeWhile fun effect => !effect.isExtension else effects

/-- The machine, and the algorithm of the `EventLog` that a process on it holds. -/
structure AgentState where
  machine : Machine
  eventlog : Option HashAlgorithm

inductive AgentLabel where
  | init (alg : HashAlgorithm) (extensionFails : Bool)
  | extendRuntimeMeasurement (domain operation content : Text) (registerIndex : Option Nat)
      (extensionFails : Bool)
  | stop

section Agent

variable (sha : Sha) (platform : Platform) (initPcr : Nat)

/-- `AttestationAgent::init` with the event log enabled. -/
def agentInit (m : Machine) (alg : HashAlgorithm) (extensionFails : Bool) : AgentState :=
  match newEventLog sha ⟨alg, initPcr⟩ (platform.seen m) with
  | .error _ => ⟨m, none⟩
  | .ok effects =>
    let happened := performed extensionFails effects
    ⟨platform.run m happened, if happened.length = effects.length then some alg else none⟩

/-- `AttestationAgent::extend_runtime_measurement`: without an event log, or with
a newline in the content, it fails before it does anything. -/
def agentExtend (agent : AgentState) (domain operation content : Text) (registerIndex : Option Nat)
    (extensionFails : Bool) : AgentState :=
  match agent.eventlog with
  | none => agent
  | some alg =>
    let pcr := registerIndex.getD initPcr
    match Content.tryFrom content with
    | .error _ => agent
    | .ok content =>
      let effects := extendEntry sha ⟨alg, initPcr⟩ (.event domain operation content) pcr
      { agent with machine := platform.run agent.machine (performed extensionFails effects) }

def agentStep (agent : AgentState) : AgentLabel → Option AgentState
  | .init alg extensionFails =>
    if agent.eventlog = none then some (agentInit sha platform initPcr agent.machine alg extensionFails)
    else none
  | .extendRuntimeMeasurement domain operation content registerIndex extensionFails =>
    some (agentExtend sha platform initPcr agent domain operation content registerIndex extensionFails)
  | .stop => some { agent with eventlog := none }

/-- Runs of the agent from a machine on which it has never run. -/
def agentSystem : System AgentState AgentLabel where
  start agent := agent.machine.aael = none ∧ agent.eventlog = none
  step := agentStep sha platform initPcr

end Agent

end GuestComponents.EventLog
