import GuestComponents.EventLog.AttestationAgent

/-! Log and register in step. The replay assumes that every line of the log went,
in the log's algorithm, into the register the log is bound to; the call lets its
caller name any register, writes the line before an extension that can fail, and
hashes with the algorithm of the running process. `in_step` says that a run stays
in step as long as no call does one of these, and `step_kept` what one call keeps. -/
namespace GuestComponents.EventLog
open Lib Lib.Text

section Runs

variable (sha : Sha) (platform : Platform) (initPcr : Nat)

/-- The register the log is bound to. -/
def Platform.bound (m : Machine) : List UInt8 := m.registers (platform.register initPcr)

/-- The log replays to its register, and an agent that restarts now, under any
algorithm, extends nothing. -/
structure InStep (m : Machine) : Prop where
  replay : ∃ log, m.parsed = some log ∧ platform.bound initPcr m = log.accumulateHash sha
  restart : ∀ alg, newEventLog sha ⟨alg, initPcr⟩ (platform.seen m) = .ok []

/-- The platform extends by hashing the register and the digest with this
algorithm. -/
def HashesWith (alg : HashAlgorithm) : Prop :=
  ∀ value text, platform.attester.extend value (sha alg (utf8 text)) =
    sha alg (value ++ sha alg (utf8 text))

/-- A log is started in the platform's algorithm on a register at least as wide
as the padding, and an entry is a readable line, hashed with the log's algorithm,
whose extension of the log's register succeeds. -/
def KeepsStep (agent : AgentState) : AgentLabel → Prop
  | .init alg extensionFails => agent.machine.aael = none →
      extensionFails = false ∧ HashesWith sha platform alg ∧
        alg.digestLen ≤ 2 * (platform.bound initPcr agent.machine).length
  | .extendRuntimeMeasurement domain operation content registerIndex extensionFails =>
      ∀ alg, agent.eventlog = some alg → ∀ clean : '\n' ∉ content,
        extensionFails = false ∧
        platform.register (registerIndex.getD initPcr) = platform.register initPcr ∧
        Readable (LogEntry.event domain operation ⟨content, clean⟩).display ∧
        ∀ log, agent.machine.parsed = some log → log.hashAlgorithm = alg
  | .stop => True

/-- A log file whose lines are readable and whose replay is the bound register. -/
structure Kept (m : Machine) (alg : HashAlgorithm) (initState : List UInt8) (events : List Text) :
    Prop where
  file : m.aael = some (render alg initState events)
  readable : ∀ event ∈ events, Readable event
  hashes : HashesWith sha platform alg
  register : platform.bound initPcr m = AAEventlog.accumulateHash sha ⟨alg, initState, events⟩

/-- The states of a guarded run: no log yet, or one that is in step. -/
inductive Stepwise (agent : AgentState) : Prop where
  | fresh (absent : agent.machine.aael = none) (down : agent.eventlog = none)
  | kept (alg : HashAlgorithm) (initState : List UInt8) (events : List Text)
      (kept : Kept sha platform initPcr agent.machine alg initState events)

variable {sha platform initPcr}

theorem Kept.parsed {m : Machine} {alg : HashAlgorithm} {initState : List UInt8}
    {events : List Text} (kept : Kept sha platform initPcr m alg initState events) :
    m.parsed = some ⟨alg, initState, events⟩ := by
  simp [Machine.parsed, kept.file, fromStr_render _ _ kept.readable, Except.toOption]

/-- On a log that is in step a new process, under any algorithm, extends nothing. -/
theorem Kept.new {m : Machine} {alg : HashAlgorithm} {initState : List UInt8}
    {events : List Text} (kept : Kept sha platform initPcr m alg initState events)
    (running : HashAlgorithm) :
    newEventLog sha ⟨running, initPcr⟩ (platform.seen m) = .ok [] := by
  have file : (platform.seen m).aael = some (render alg initState events) := kept.file
  have same : (platform.seen m).registers initPcr =
      AAEventlog.accumulateHash sha ⟨alg, initState, events⟩ := kept.register
  rw [newEventLog_render file kept.readable, if_pos same]

theorem Kept.inStep {m : Machine} {alg : HashAlgorithm} {initState : List UInt8}
    {events : List Text} (kept : Kept sha platform initPcr m alg initState events) :
    InStep sha platform initPcr m where
  replay := ⟨_, kept.parsed, kept.register⟩
  restart := kept.new

/-- The first start writes the INIT line of the register and extends its digest. -/
theorem first_start {m : Machine} {alg : HashAlgorithm} (absent : m.aael = none)
    (wide : alg.digestLen ≤ 2 * (platform.bound initPcr m).length) :
    (agentInit sha platform initPcr m alg false).machine.aael =
        some (render alg (platform.bound initPcr m) []) ∧
      platform.bound initPcr (agentInit sha platform initPcr m alg false).machine =
        platform.attester.extend (platform.bound initPcr m)
          (sha alg (utf8 (initLine alg (hexEncode (platform.bound initPcr m))))) := by
  have unpadded : padLeft alg.digestLen (hexEncode (platform.bound initPcr m)) =
      hexEncode (platform.bound initPcr m) :=
    padLeft_of_long _ _ (by rw [hexEncode_length]; exact wide)
  have effects : newEventLog sha ⟨alg, initPcr⟩ (platform.seen m) =
      .ok [.create, .append (initLine alg (hexEncode (platform.bound initPcr m))),
        .extend initPcr (sha alg (utf8 (initLine alg (hexEncode (platform.bound initPcr m)))))] := by
    rw [← unpadded]
    simp [newEventLog, absent, extendInitEntry, LogEntry.digestWith, LogEntry.display, Platform.bound]
  constructor
  · simp [agentInit, effects, performed, Platform.run, Machine.run, Platform.onRegister,
      Effect.apply, render]
  · simp [agentInit, effects, performed, Platform.run, Machine.run, Platform.onRegister,
      Effect.apply, Platform.bound]

/-- An entry for the bound register extends it by the digest of the line. -/
theorem entry_extends (m : Machine) (alg : HashAlgorithm) (entry : LogEntry) {pcr : Nat}
    (own : platform.register pcr = platform.register initPcr) :
    platform.bound initPcr (platform.run m (extendEntry sha ⟨alg, initPcr⟩ entry pcr)) =
      platform.attester.extend (platform.bound initPcr m) (sha alg (utf8 entry.display)) := by
  simp [extendEntry, Platform.run, Machine.run, Platform.onRegister, Effect.apply, Platform.bound,
    own, LogEntry.digestWith]

/-- The first start in the platform's algorithm leaves a log that is in step. -/
theorem init_starts {m : Machine} {alg : HashAlgorithm} (absent : m.aael = none)
    (hashes : HashesWith sha platform alg)
    (wide : alg.digestLen ≤ 2 * (platform.bound initPcr m).length) :
    Kept sha platform initPcr (agentInit sha platform initPcr m alg false).machine alg
      (platform.bound initPcr m) [] := by
  obtain ⟨file, extended⟩ := first_start absent wide
  rw [hashes] at extended
  exact { file := file, readable := by simp, hashes := hashes, register := extended }

/-- An entry that goes, readable and in the log's algorithm, into the log's
register keeps the log in step. -/
theorem entry_kept {m : Machine} {alg : HashAlgorithm} {initState : List UInt8}
    {events : List Text} (kept : Kept sha platform initPcr m alg initState events)
    (entry : LogEntry) (readable : Readable entry.display) {pcr : Nat}
    (own : platform.register pcr = platform.register initPcr) :
    Kept sha platform initPcr (platform.run m (extendEntry sha ⟨alg, initPcr⟩ entry pcr)) alg
      initState (events ++ [entry.display]) where
  file := by
    simp [extendEntry, Platform.run, Machine.run, Platform.onRegister, Effect.apply, kept.file,
      ← render_append]
  readable := by
    intro event member
    rcases List.mem_append.mp member with before | last
    · exact kept.readable event before
    · rw [List.mem_singleton.mp last]
      exact readable
  hashes := kept.hashes
  register := by
    rw [accumulateHash_append, ← kept.register, entry_extends m alg entry own, kept.hashes]
    rfl

/-- What one call keeps. -/
theorem step_kept {agent next : AgentState} {label : AgentLabel}
    (stepwise : Stepwise sha platform initPcr agent)
    (guarded : KeepsStep sha platform initPcr agent label)
    (ran : agentStep sha platform initPcr agent label = some next) :
    Stepwise sha platform initPcr next := by
  cases label with
  | init alg extensionFails =>
    simp only [agentStep, Option.ite_none_right_eq_some, Option.some.injEq] at ran
    obtain ⟨_, rfl⟩ := ran
    cases stepwise with
    | fresh absent down =>
      obtain ⟨rfl, hashes, wide⟩ := guarded absent
      exact .kept alg _ [] (init_starts absent hashes wide)
    | kept logAlg initState events kept =>
      have quiet : (agentInit sha platform initPcr agent.machine alg extensionFails).machine =
          agent.machine := by
        cases extensionFails <;> simp [agentInit, kept.new, performed]
      exact .kept logAlg initState events (by rw [quiet]; exact kept)
  | extendRuntimeMeasurement domain operation content registerIndex extensionFails =>
    cases ran
    unfold agentExtend
    split
    · exact stepwise
    · rename_i alg running
      by_cases clean : '\n' ∈ content
      · simpa [Content.tryFrom, clean] using stepwise
      · obtain ⟨rfl, own, readable, sameAlg⟩ := guarded alg running clean
        simp only [Content.tryFrom, clean, dite_false, performed, Bool.false_eq_true, if_false]
        cases stepwise with
        | fresh absent down => rw [down] at running; cases running
        | kept logAlg initState events kept =>
          cases sameAlg _ kept.parsed
          exact .kept _ initState _ (entry_kept kept _ readable own)
  | stop =>
    cases ran
    cases stepwise with
    | fresh absent down => exact .fresh absent rfl
    | kept alg initState events kept => exact .kept alg initState events kept

/-- In a run whose calls keep step, log and register are in step after each of
them, from the first start on. -/
theorem in_step (sha : Sha) (platform : Platform) (initPcr : Nat) {agent : AgentState}
    (reached : (agentSystem sha platform initPcr).Reachable (KeepsStep sha platform initPcr) agent) :
    agent.machine.aael = none ∨ InStep sha platform initPcr agent.machine := by
  have initial : ∀ agent, (agentSystem sha platform initPcr).start agent →
      Stepwise sha platform initPcr agent := fun agent begins => .fresh begins.1 begins.2
  have stepwise := reached.invariant initial fun agent label next stepwise guarded ran =>
    step_kept stepwise guarded ran
  cases stepwise with
  | fresh absent down => exact .inl absent
  | kept alg initState events kept => exact .inr kept.inStep

end Runs

section Concrete

/-- SHA-256 registers, one for each index, all zeros. -/
def pcrBank : Platform := ⟨id, bank⟩

def blankState : AgentState := ⟨blankAgent.machine, none⟩

def startedState : AgentState := agentInit sha2 pcrBank 17 blankState.machine .sha256 false

def loggedState : AgentState :=
  agentExtend sha2 pcrBank 17 startedState "one".toList "two".toList "three".toList none false

theorem startedState_kept :
    Kept sha2 pcrBank 17 startedState.machine .sha256 (List.replicate 32 0) [] :=
  init_starts rfl (fun _ _ => rfl) (by decide)

/-- `in_step` after a first start, one event, and a restart under another
algorithm. -/
theorem in_step_logged_once :
    ∃ agent, (agentSystem sha2 pcrBank 17).exec blankState
        [.init .sha256 false,
          .extendRuntimeMeasurement "one".toList "two".toList "three".toList none false,
          .stop, .init .sha512 true] = some agent ∧
      (agent.machine.aael = none ∨ InStep sha2 pcrBank 17 agent.machine) := by
  have started : (agentSystem sha2 pcrBank 17).Reachable (KeepsStep sha2 pcrBank 17) startedState :=
    .step (.start ⟨rfl, rfl⟩)
      (show KeepsStep sha2 pcrBank 17 blankState (.init .sha256 false) from
        fun _ => ⟨rfl, fun _ _ => rfl, by decide⟩) rfl
  have logged : (agentSystem sha2 pcrBank 17).Reachable (KeepsStep sha2 pcrBank 17) loggedState := by
    refine System.Reachable.step started (show KeepsStep sha2 pcrBank 17 startedState (.extendRuntimeMeasurement
      "one".toList "two".toList "three".toList none false) from ?_) rfl
    intro alg running clean
    have readable : Readable "one two three".toList := by decide
    refine ⟨rfl, rfl, readable, fun log parsed => ?_⟩
    cases startedState_kept.parsed.symm.trans parsed
    exact Option.some_inj.mp running
  have stopped : (agentSystem sha2 pcrBank 17).Reachable (KeepsStep sha2 pcrBank 17)
      { loggedState with eventlog := none } :=
    .step logged (show KeepsStep sha2 pcrBank 17 loggedState .stop from trivial) rfl
  have restarted : (agentSystem sha2 pcrBank 17).Reachable (KeepsStep sha2 pcrBank 17)
      (agentInit sha2 pcrBank 17 loggedState.machine .sha512 true) :=
    .step stopped
      (show KeepsStep sha2 pcrBank 17 _ (.init .sha512 true) from fun absent => by cases absent) rfl
  exact ⟨_, rfl, in_step sha2 pcrBank 17 restarted⟩

/-- An agent that starts with an event, for this register and whose extension fails or not. -/
def afterEvent (registerIndex : Option Nat) (failed : Bool) : Option AgentState :=
  (agentSystem sha2 pcrBank 17).exec blankState
    [.init .sha256 false,
      .extendRuntimeMeasurement "one".toList "two".toList "three".toList registerIndex failed]

theorem out_of_step {registerIndex : Option Nat} {failed : Bool}
    (refused : ((afterEvent registerIndex failed).any fun agent => agent.machine.parsed.any fun log =>
      !log.integrityCheck sha2 (pcrBank.bound 17 agent.machine)) = true) :
    ∃ agent, afterEvent registerIndex failed = some agent ∧
      (agentSystem sha2 pcrBank 17).Reachable System.Free agent ∧ agent.machine.aael ≠ none ∧
        ¬ InStep sha2 pcrBank 17 agent.machine := by
  obtain ⟨agent, executed, broken⟩ := (Option.any_eq_true ..).mp refused
  obtain ⟨log, parsed, differs⟩ := (Option.any_eq_true ..).mp broken
  refine ⟨agent, executed, System.reachable_of_exec ⟨rfl, rfl⟩ (fun _ _ _ => trivial) executed, ?_, ?_⟩
  · intro absent
    simp [Machine.parsed, absent] at parsed
  · intro inStep
    obtain ⟨log', parsed', replay⟩ := inStep.replay
    cases parsed.symm.trans parsed'
    simp [AAEventlog.integrityCheck, replay] at differs

/-- An event for register 18, or one whose extension fails, stands in the log and
not in register 17. -/
theorem event_in_another_register :
    (∃ agent, afterEvent (some 18) false = some agent ∧
      (agentSystem sha2 pcrBank 17).Reachable System.Free agent ∧ agent.machine.aael ≠ none ∧
        ¬ InStep sha2 pcrBank 17 agent.machine) ∧
    ∃ agent, afterEvent none true = some agent ∧
      (agentSystem sha2 pcrBank 17).Reachable System.Free agent ∧ agent.machine.aael ≠ none ∧
        ¬ InStep sha2 pcrBank 17 agent.machine := by
  constructor
  · exact out_of_step (by decide +kernel)
  · exact out_of_step (by decide +kernel)

end Concrete

end GuestComponents.EventLog
