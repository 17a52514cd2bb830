import GuestComponents.EventLog.TdxReplay
import GuestComponents.Lib.Base64

/-! Evidence and event log on one TDX attestation agent. `get_evidence` takes the quote and
then reads the log, without the lock under which `extend_entry` writes the log and then
extends the register. In every interleaving of the calls in which no quote is taken between
these two, and no line is written between a quote and the read of the log, the evidence is
consistent with its log. -/
namespace GuestComponents.EventLog
open Lib Lib.Text

/-- What makes the quotes, and how a verifier reads a register in one. The signature of a
quote is its own. -/
structure Quoting where
  quote : List UInt8 → (Nat → List UInt8) → List UInt8 → List UInt8
  rtmr : List UInt8 → Nat → List UInt8
  carries : ∀ reportData registers signature index, reportData.length = 64 →
    (∀ index, (registers index).length = 48) → index < 4 →
      rtmr (quote reportData registers signature) index = registers index

/-- `TdxEvidence`. -/
structure TdxEvidence where
  ccEventlog : Option Text
  quote : Text
  aaEventlog : Option Text

/-- A call of `extend_runtime_measurement` on its way to the register. -/
structure Extension where
  entry : LogEntry
  pcr : Nat
  written : Bool

/-- A call of `get_evidence`, with its report data in full and the quote once it is taken. -/
structure EvidenceCall where
  reportData : List UInt8
  quote : Option Text

/-- The agent with the calls it serves. `lock` is who holds the event log. -/
structure Agency where
  machine : Machine
  eventlog : Option HashAlgorithm
  serving : Bool
  lock : Option Nat
  extensions : Nat → Option Extension
  evidences : Nat → Option EvidenceCall
  returned : List TdxEvidence

inductive AgencyLabel where
  | serve (enabled : Option HashAlgorithm)
  | extend (id : Nat) (domain operation content : Text) (registerIndex : Option Nat)
  | lock (id : Nat)
  | append (id : Nat)
  | extendRegister (id : Nat)
  | getEvidence (id : Nat) (runtimeData : List UInt8)
  | quote (id : Nat) (signature : List UInt8)
  | readLogs (id : Nat) (ccel : Option (List UInt8)) (readable : Bool)

section Steps

variable (quoting : Quoting) (initPcr : Nat)

/-- `AttestationAgent::init`, before any call is served. -/
def serve (agency : Agency) : Option HashAlgorithm → Option Agency
  | none => some { agency with serving := true }
  | some alg =>
    let agent := agentInit sha2 tdx initPcr agency.machine alg false
    if agent.eventlog = none then none
    else some { agency with machine := agent.machine, eventlog := agent.eventlog, serving := true }

/-- `extend_runtime_measurement`, up to the lock. -/
def extendCall (agency : Agency) (id : Nat) (domain operation content : Text) (registerIndex : Option Nat) : Agency :=
  match agency.eventlog, Content.tryFrom content with
  | some _, .ok content =>
    { agency with
      extensions := Function.update agency.extensions id
        (some ⟨.event domain operation content, registerIndex.getD initPcr, false⟩) }
  | _, _ => agency

/-- `TDX_REPORT_DATA_SIZE`. -/
def reportDataSize : Nat := 64

/-- `get_evidence`, up to the quote. -/
def evidenceCall (agency : Agency) (id : Nat) (runtimeData : List UInt8) : Agency :=
  if reportDataSize < runtimeData.length then agency
  else
    { agency with
      evidences := Function.update agency.evidences id
        (some ⟨runtimeData ++ List.replicate (reportDataSize - runtimeData.length) 0, none⟩) }

/-- The first half of `extend_entry`: `writer.append`. -/
def appendLine (agency : Agency) (id : Nat) (call : Extension) : Agency :=
  { agency with
    machine := tdx.run agency.machine [.append call.entry.display]
    extensions := Function.update agency.extensions id (some { call with written := true }) }

/-- The second half of `extend_entry`, and the end of the call. -/
def extendRtmr (agency : Agency) (alg : HashAlgorithm) (id : Nat) (call : Extension) : Agency :=
  { agency with
    machine := tdx.run agency.machine [.extend call.pcr (call.entry.digestWith sha2 alg)]
    lock := none
    extensions := Function.update agency.extensions id none }

/-- The quote of `TdxAttester::get_evidence`. -/
def takeQuote (agency : Agency) (id : Nat) (call : EvidenceCall) (signature : List UInt8) : Agency :=
  { agency with
    evidences := Function.update agency.evidences id
      (some { call with
        quote := some (Base64.encode (quoting.quote call.reportData agency.machine.registers signature)) }) }

/-- The two logs, and the evidence. A log that cannot be read is left out. -/
def returnEvidence (agency : Agency) (id : Nat) (quote : Text) (ccel : Option (List UInt8)) (readable : Bool) : Agency :=
  { agency with
    evidences := Function.update agency.evidences id none
    returned := ⟨ccel.map Base64.encode, quote, if readable then agency.machine.aael else none⟩ :: agency.returned }

def agencyStep (agency : Agency) : AgencyLabel → Option Agency
  | .serve enabled => if agency.serving then none else serve initPcr agency enabled
  | .extend id domain operation content registerIndex =>
    if agency.serving ∧ agency.extensions id = none then
      some (extendCall initPcr agency id domain operation content registerIndex)
    else none
  | .lock id =>
    if agency.lock = none ∧ agency.extensions id ≠ none then some { agency with lock := some id } else none
  | .append id =>
    match agency.extensions id with
    | some call =>
      if agency.lock = some id ∧ call.written = false then some (appendLine agency id call) else none
    | none => none
  | .extendRegister id =>
    match agency.eventlog, agency.extensions id with
    | some alg, some call =>
      if agency.lock = some id ∧ call.written = true then some (extendRtmr agency alg id call) else none
    | _, _ => none
  | .getEvidence id runtimeData =>
    if agency.serving ∧ agency.evidences id = none then some (evidenceCall agency id runtimeData) else none
  | .quote id signature =>
    match agency.evidences id with
    | some call => if call.quote = none then some (takeQuote quoting agency id call signature) else none
    | none => none
  | .readLogs id ccel readable =>
    match (agency.evidences id).bind EvidenceCall.quote with
    | some quote => some (returnEvidence agency id quote ccel readable)
    | none => none

/-- A SHA-384 log that replays to the register it is bound to. -/
def Replays (machine : Machine) : Prop :=
  ∃ initState events, Kept sha2 tdx initPcr machine .sha384 initState events

/-- An agent before it serves, on a TD without a log, or with one that is in step. -/
structure Fresh (agency : Agency) : Prop where
  wide : ∀ index, (agency.machine.registers index).length = 48
  log : agency.machine.aael = none ∨ Replays initPcr agency.machine
  down : agency.serving = false ∧ agency.eventlog = none ∧ agency.lock = none
  idle : (∀ id, agency.extensions id = none) ∧ ∀ id, agency.evidences id = none
  nothing : agency.returned = []

def agencySystem : System Agency AgencyLabel where
  start := Fresh initPcr
  step := agencyStep quoting initPcr

/-- The log is kept in SHA-384, in lines that are read as they were written, for the register
it is bound to. No quote is taken while a line has been written that is not in the register,
and no line is written while a quote has been taken whose evidence has not read the log. -/
def Apart (agency : Agency) : AgencyLabel → Prop
  | .serve enabled => ∀ alg, enabled = some alg → alg = .sha384
  | .extend _ domain operation content registerIndex => ∀ clean : '\n' ∉ content,
      Readable (LogEntry.event domain operation ⟨content, clean⟩).display ∧
        pcrToRtmr (registerIndex.getD initPcr) = pcrToRtmr initPcr
  | .append _ => ∀ id call, agency.evidences id = some call → call.quote = none
  | .quote _ _ => ∀ id call, agency.extensions id = some call → call.written = false
  | _ => True

/-- The log, if there is one, replays to the register in the quote. -/
def Matches (quote : Text) (aael : Option Text) : Prop :=
  ∀ text, aael = some text → ∃ log bytes,
    AAEventlog.fromStr text = .ok log ∧ Base64.decode quote = some bytes ∧
      quoting.rtmr bytes (pcrToRtmr initPcr) = log.accumulateHash sha2

def Consistent (evidence : TdxEvidence) : Prop := Matches quoting initPcr evidence.quote evidence.aaEventlog

/-- The log and its register: there is none, or they are in step, or one line is ahead. -/
inductive LogState (agency : Agency) : Prop where
  | absent (missing : agency.machine.aael = none) (down : agency.eventlog = none)
  | settled (replays : Replays initPcr agency.machine)
      (idle : ∀ id call, agency.extensions id = some call → call.written = false)
  | writing (id : Nat) (call : Extension) (initState : List UInt8) (events : List Text)
      (there : agency.extensions id = some call) (written : call.written = true)
      (file : agency.machine.aael = some (render .sha384 initState (events ++ [call.entry.display])))
      (readable : ∀ event ∈ events, Readable event)
      (register : tdx.bound initPcr agency.machine = AAEventlog.accumulateHash sha2 ⟨.sha384, initState, events⟩)

structure Orderly (agency : Agency) : Prop where
  wide : ∀ index, (agency.machine.registers index).length = 48
  native : ∀ alg, agency.eventlog = some alg → alg = .sha384
  calls : ∀ id call, agency.extensions id = some call → agency.eventlog ≠ none ∧
    Readable call.entry.display ∧ pcrToRtmr call.pcr = pcrToRtmr initPcr
  writer : ∀ id call, agency.extensions id = some call → call.written = true → agency.lock = some id
  down : agency.serving = false → agency.eventlog = none ∧ ∀ id, agency.evidences id = none
  log : LogState initPcr agency
  data : ∀ id call, agency.evidences id = some call → call.reportData.length = 64
  quotes : ∀ id call quote, agency.evidences id = some call → call.quote = some quote →
    Matches quoting initPcr quote agency.machine.aael
  returned : ∀ evidence ∈ agency.returned, Consistent quoting initPcr evidence

end Steps

section Runs

variable {quoting : Quoting} {initPcr : Nat} {agency next : Agency}

theorem pcrToRtmr_lt (pcr : Nat) : pcrToRtmr pcr < 4 := by
  rw [pcrToRtmr]
  split
  · decide
  · split
    · decide
    · split <;> decide

/-- The log and its register are those of the machine and of the extensions. -/
theorem LogState.of_same (log : LogState initPcr agency) (machine : next.machine = agency.machine)
    (eventlog : next.eventlog = agency.eventlog) (extensions : next.extensions = agency.extensions) :
    LogState initPcr next := by
  cases log with
  | absent missing down =>
    rw [← machine] at missing
    rw [← eventlog] at down
    exact .absent missing down
  | settled replays idle =>
    rw [← machine] at replays
    rw [← extensions] at idle
    exact .settled replays idle
  | writing id call initState events there written file readable register =>
    rw [← extensions] at there
    rw [← machine] at file register
    exact .writing id call initState events there written file readable register

theorem fresh_orderly (fresh : Fresh initPcr agency) : Orderly quoting initPcr agency where
  wide := fresh.wide
  native alg running := by
    rw [fresh.down.2.1] at running
    cases running
  calls id call there := by
    rw [fresh.idle.1] at there
    cases there
  writer id call there := by
    rw [fresh.idle.1] at there
    cases there
  down _ := ⟨fresh.down.2.1, fresh.idle.2⟩
  log := by
    rcases fresh.log with missing | replays
    · exact .absent missing fresh.down.2.1
    · apply LogState.settled replays
      intro id call there
      rw [fresh.idle.1] at there
      cases there
  data id call there := by
    rw [fresh.idle.2] at there
    cases there
  quotes id call quote there := by
    rw [fresh.idle.2] at there
    cases there
  returned evidence listed := by
    rw [fresh.nothing] at listed
    cases listed

/-- What is found where one entry has been set: the entry, or what was there. -/
theorem update_some {α : Type} {calls : Nat → Option α} {id other : Nat} {set : Option α} {found : α}
    (there : Function.update calls id set other = some found) :
    (other = id ∧ set = some found) ∨ (other ≠ id ∧ calls other = some found) := by
  by_cases same : other = id
  · left
    rw [same, Function.update_self] at there
    exact ⟨same, there⟩
  · right
    rw [Function.update_of_ne same] at there
    exact ⟨same, there⟩

theorem Replays.matches (replays : Replays initPcr agency.machine)
    (wide : ∀ index, (agency.machine.registers index).length = 48) {reportData signature : List UInt8}
    (whole : reportData.length = 64) :
    Matches quoting initPcr (Base64.encode (quoting.quote reportData agency.machine.registers signature))
      agency.machine.aael := by
  obtain ⟨initState, events, kept⟩ := replays
  intro text file
  rw [kept.file] at file
  cases file
  refine ⟨_, _, fromStr_render .sha384 initState kept.readable, Base64.decode_encode _, ?_⟩
  rw [quoting.carries _ _ _ _ whole wide (pcrToRtmr_lt initPcr)]
  exact kept.register

theorem agentInit_wide {m : Machine} (alg : HashAlgorithm) (wide : ∀ index, (m.registers index).length = 48) :
    (∀ index, ((agentInit sha2 tdx initPcr m alg false).machine.registers index).length = 48) ∧
      ∀ alg', (agentInit sha2 tdx initPcr m alg false).eventlog = some alg' → alg' = alg := by
  rw [agentInit]
  split
  · exact ⟨wide, fun _ running => by cases running⟩
  · constructor
    · exact fun index => tdx_width (wide index) _
    · intro alg' running
      dsimp only at running
      split at running
      · cases running
        rfl
      · cases running

/-- The start of the agent leaves a log that is in step. -/
theorem serve_orderly {enabled : Option HashAlgorithm} (orderly : Orderly quoting initPcr agency)
    (fresh : agency.serving = false) (native : ∀ alg, enabled = some alg → alg = .sha384)
    (served : serve initPcr agency enabled = some next) : Orderly quoting initPcr next := by
  obtain ⟨down, idle⟩ := orderly.down fresh
  cases enabled with
  | none =>
    cases served
    exact { orderly with
      down := nofun
      log := orderly.log.of_same rfl rfl rfl }
  | some alg =>
    obtain rfl := native alg rfl
    simp only [serve, Option.ite_none_left_eq_some, Option.some.injEq] at served
    obtain ⟨_, rfl⟩ := served
    obtain ⟨wide, running⟩ := @agentInit_wide initPcr agency.machine .sha384 orderly.wide
    have unused : ∀ id call, agency.extensions id = some call → False := fun id call there =>
      (orderly.calls id call there).1 down
    refine
      { wide := wide
        native := running
        calls := fun id call there => (unused id call there).elim
        writer := fun id call there => (unused id call there).elim
        down := nofun
        log := .settled ?_ fun id call there => (unused id call there).elim
        data := orderly.data
        quotes := fun id call quote there => ?_
        returned := orderly.returned }
    · cases orderly.log with
      | absent missing down =>
        have padded : HashAlgorithm.sha384.digestLen ≤ 2 * (tdx.bound initPcr agency.machine).length := by
          rw [Platform.bound, orderly.wide]
          decide
        exact ⟨_, _, init_starts missing tdx_hashes padded⟩
      | settled replays idle =>
        obtain ⟨initState, events, kept⟩ := replays
        have quiet : (agentInit sha2 tdx initPcr agency.machine .sha384 false).machine = agency.machine := by
          simp [agentInit, kept.new, performed]
        rw [quiet]
        exact ⟨_, _, kept⟩
      | writing id call initState events there => exact (unused id call there).elim
    · rw [idle] at there
      cases there

theorem extend_orderly {id : Nat} {domain operation content : Text} {registerIndex : Option Nat}
    (orderly : Orderly quoting initPcr agency) (free : agency.extensions id = none)
    (guarded : ∀ clean : '\n' ∉ content, Readable (LogEntry.event domain operation ⟨content, clean⟩).display ∧
      pcrToRtmr (registerIndex.getD initPcr) = pcrToRtmr initPcr) :
    Orderly quoting initPcr (extendCall initPcr agency id domain operation content registerIndex) := by
  rw [extendCall]
  split
  · rename_i alg content' running tried
    have entered : ∃ clean : '\n' ∉ content, content' = ⟨content, clean⟩ := by
      rw [Content.tryFrom] at tried
      split at tried
      · cases tried
      · rename_i clean
        cases tried
        exact ⟨clean, rfl⟩
    obtain ⟨clean, rfl⟩ := entered
    have unwritten : ∀ other call,
      Function.update agency.extensions id (some ⟨.event domain operation ⟨content, clean⟩,
        registerIndex.getD initPcr, false⟩) other = some call → call.written = true →
        other ≠ id ∧ agency.extensions other = some call := by
      intro other call there written
      rcases update_some there with ⟨_, new⟩ | before
      · cases new
        cases written
      · exact before
    exact { orderly with
      calls := fun other call there => by
        rcases update_some there with ⟨_, new⟩ | ⟨_, before⟩
        · cases new
          refine ⟨?_, guarded clean⟩
          rw [running]
          exact Option.some_ne_none alg
        · exact orderly.calls other call before
      writer := fun other call there written =>
        orderly.writer other call (unwritten other call there written).2 written
      log := by
        cases orderly.log with
        | absent missing down =>
          rw [down] at running
          cases running
        | settled replays idle =>
          refine .settled replays fun other call there => ?_
          rcases update_some there with ⟨_, new⟩ | ⟨_, before⟩
          · cases new
            rfl
          · exact idle other call before
        | writing other call initState events there written file readable register =>
          refine .writing other call initState events ?_ written file readable register
          show Function.update _ _ _ _ = _
          rw [Function.update_of_ne _, there]
          rintro rfl
          rw [free] at there
          cases there }
  · exact orderly

/-- A line is written while its caller has the lock, and no quote waits for the log. -/
theorem append_orderly {id : Nat} {call : Extension} (orderly : Orderly quoting initPcr agency)
    (there : agency.extensions id = some call) (unwritten : call.written = false) (holds : agency.lock = some id)
    (apart : ∀ id call, agency.evidences id = some call → call.quote = none) :
    Orderly quoting initPcr (appendLine agency id call) := by
  obtain ⟨running, readable, own⟩ := orderly.calls id call there
  exact
    { wide := orderly.wide
      native := orderly.native
      calls := fun other call' there' => by
        rcases update_some there' with ⟨_, new⟩ | ⟨_, before⟩
        · cases new
          exact ⟨running, readable, own⟩
        · exact orderly.calls other call' before
      writer := fun other call' there' written => by
        rcases update_some there' with ⟨rfl, _⟩ | ⟨_, before⟩
        · exact holds
        · exact orderly.writer other call' before written
      down := orderly.down
      log := by
        cases orderly.log with
        | absent missing down => exact absurd down running
        | settled replays idle =>
          obtain ⟨initState, events, kept⟩ := replays
          refine .writing id { call with written := true } initState events ?_ rfl ?_ kept.readable kept.register
          · exact Function.update_self ..
          · show agency.machine.aael.map _ = _
            rw [kept.file, Option.map_some, render_append]
        | writing other call' initState events there' written =>
          have held := orderly.writer other call' there' written
          rw [holds] at held
          cases held
          rw [there] at there'
          cases there'
          rw [unwritten] at written
          cases written
      data := orderly.data
      quotes := fun other call' quote there' quoted => by
        rw [apart other call' there'] at quoted
        cases quoted
      returned := orderly.returned }

/-- The register takes the line that the log is ahead by. -/
theorem extendRtmr_orderly {id : Nat} {alg : HashAlgorithm} {call : Extension} (orderly : Orderly quoting initPcr agency)
    (running : agency.eventlog = some alg) (there : agency.extensions id = some call)
    (written : call.written = true) : Orderly quoting initPcr (extendRtmr agency alg id call) := by
  obtain ⟨_, readable, own⟩ := orderly.calls id call there
  have holds := orderly.writer id call there written
  have unwritten : ∀ other call', Function.update agency.extensions id none other = some call' →
      call'.written = false := by
    intro other call' there'
    rcases update_some there' with ⟨_, impossible⟩ | ⟨differs, before⟩
    · cases impossible
    · by_contra ahead
      have held := orderly.writer other call' before (by simpa using ahead)
      rw [holds] at held
      cases held
      exact differs rfl
  exact
    { wide := fun index => tdx_width (orderly.wide index) _
      native := orderly.native
      calls := fun other call' there' => by
        rcases update_some there' with ⟨_, impossible⟩ | ⟨_, before⟩
        · cases impossible
        · exact orderly.calls other call' before
      writer := fun other call' there' ahead => by
        rw [unwritten other call' there'] at ahead
        cases ahead
      down := orderly.down
      log := by
        obtain rfl := orderly.native alg running
        cases orderly.log with
        | absent missing down =>
          rw [down] at running
          cases running
        | settled replays idle =>
          rw [idle id call there] at written
          cases written
        | writing other call' initState events there' written' file readable' register =>
          have held := orderly.writer other call' there' written'
          rw [holds] at held
          cases held
          rw [there] at there'
          cases there'
          refine .settled ⟨initState, events ++ [call.entry.display], ?_⟩ unwritten
          refine ⟨file, ?_, tdx_hashes, ?_⟩
          · exact List.forall_mem_append.mpr ⟨readable', by simpa using readable⟩
          · have extended : tdx.bound initPcr (extendRtmr agency .sha384 id call).machine =
                tdx.attester.extend (tdx.bound initPcr agency.machine) (sha2 .sha384 (utf8 call.entry.display)) :=
              entry_extends agency.machine .sha384 call.entry own
            rw [extended, tdx_hashes, accumulateHash_append, register]
            rfl
      data := orderly.data
      quotes := orderly.quotes
      returned := orderly.returned }

/-- A quote that is taken while the log is not ahead matches it. -/
theorem quote_orderly {id : Nat} {call : EvidenceCall} (signature : List UInt8)
    (orderly : Orderly quoting initPcr agency)
    (there : agency.evidences id = some call)
    (apart : ∀ id call, agency.extensions id = some call → call.written = false) :
    Orderly quoting initPcr (takeQuote quoting agency id call signature) := by
  have serving : agency.serving = true := by
    by_contra down
    rw [(orderly.down (by simpa using down)).2] at there
    cases there
  have fits : Matches quoting initPcr (Base64.encode (quoting.quote call.reportData agency.machine.registers signature))
      agency.machine.aael := by
    cases orderly.log with
    | absent missing down =>
      intro text file
      rw [missing] at file
      cases file
    | settled replays idle => exact replays.matches orderly.wide (orderly.data id call there)
    | writing other call' initState events there' written =>
      rw [apart other call' there'] at written
      cases written
  exact
    { orderly with
      down := fun down => by
        have down : agency.serving = false := down
        rw [serving] at down
        cases down
      log := orderly.log.of_same rfl rfl rfl
      data := fun other call' there' => by
        rcases update_some there' with ⟨_, new⟩ | ⟨_, before⟩
        · cases new
          exact orderly.data id call there
        · exact orderly.data other call' before
      quotes := fun other call' quote there' quoted => by
        rcases update_some there' with ⟨_, new⟩ | ⟨_, before⟩
        · cases new
          cases quoted
          exact fits
        · exact orderly.quotes other call' quote before quoted }

/-- The log that is read is the one the quote matches. -/
theorem readLogs_orderly {id : Nat} {call : EvidenceCall} {quote : Text} (ccel : Option (List UInt8)) (readable : Bool)
    (orderly : Orderly quoting initPcr agency) (there : agency.evidences id = some call)
    (quoted : call.quote = some quote) :
    Orderly quoting initPcr (returnEvidence agency id quote ccel readable) where
  wide := orderly.wide
  native := orderly.native
  calls := orderly.calls
  writer := orderly.writer
  down down := by
    have idle := (orderly.down down).2 id
    rw [there] at idle
    cases idle
  log := orderly.log.of_same rfl rfl rfl
  data other call' there' := by
    rcases update_some there' with ⟨_, impossible⟩ | ⟨_, before⟩
    · cases impossible
    · exact orderly.data other call' before
  quotes other call' quote' there' quoted' := by
    rcases update_some there' with ⟨_, impossible⟩ | ⟨_, before⟩
    · cases impossible
    · exact orderly.quotes other call' quote' before quoted'
  returned evidence listed := by
    rcases List.mem_cons.mp listed with rfl | before
    · intro text file
      cases readable with
      | true => exact orderly.quotes id call quote there quoted text file
      | false => cases file
    · exact orderly.returned evidence before

theorem evidenceCall_orderly {id : Nat} (runtimeData : List UInt8) (orderly : Orderly quoting initPcr agency)
    (served : agency.serving = true) : Orderly quoting initPcr (evidenceCall agency id runtimeData) := by
  rw [evidenceCall]
  split
  · exact orderly
  · rename_i fits
    exact { orderly with
      down := fun down => by
        have down : agency.serving = false := down
        rw [served] at down
        cases down
      log := orderly.log.of_same rfl rfl rfl
      data := fun other call there => by
        rcases update_some there with ⟨_, new⟩ | ⟨_, before⟩
        · cases new
          simp only [List.length_append, List.length_replicate, reportDataSize] at fits ⊢
          omega
        · exact orderly.data other call before
      quotes := fun other call quote there quoted => by
        rcases update_some there with ⟨_, new⟩ | ⟨_, before⟩
        · cases new
          cases quoted
        · exact orderly.quotes other call quote before quoted }

theorem lock_orderly {id : Nat} (orderly : Orderly quoting initPcr agency) (free : agency.lock = none) :
    Orderly quoting initPcr { agency with lock := some id } :=
  { orderly with
    writer := fun other call there written => by
      have held := orderly.writer other call there written
      rw [free] at held
      cases held
    log := orderly.log.of_same rfl rfl rfl }

/-- What one step of a run keeps. -/
theorem step_orderly {label : AgencyLabel} (orderly : Orderly quoting initPcr agency)
    (apart : Apart initPcr agency label) (ran : agencyStep quoting initPcr agency label = some next) :
    Orderly quoting initPcr next := by
  cases label with
  | serve enabled =>
    simp only [agencyStep, Option.ite_none_left_eq_some] at ran
    exact serve_orderly orderly (by simpa using ran.1) apart ran.2
  | extend id domain operation content registerIndex =>
    simp only [agencyStep, Option.ite_none_right_eq_some, Option.some.injEq] at ran
    obtain ⟨⟨_, free⟩, rfl⟩ := ran
    exact extend_orderly orderly free apart
  | lock id =>
    simp only [agencyStep, Option.ite_none_right_eq_some, Option.some.injEq] at ran
    obtain ⟨⟨free, _⟩, rfl⟩ := ran
    exact lock_orderly orderly free
  | append id =>
    simp only [agencyStep] at ran
    split at ran
    · rename_i call there
      simp only [Option.ite_none_right_eq_some, Option.some.injEq] at ran
      obtain ⟨⟨holds, unwritten⟩, rfl⟩ := ran
      exact append_orderly orderly there unwritten holds apart
    · cases ran
  | extendRegister id =>
    simp only [agencyStep] at ran
    split at ran
    · rename_i alg call running there
      simp only [Option.ite_none_right_eq_some, Option.some.injEq] at ran
      obtain ⟨⟨_, written⟩, rfl⟩ := ran
      exact extendRtmr_orderly orderly running there written
    · cases ran
  | getEvidence id runtimeData =>
    simp only [agencyStep, Option.ite_none_right_eq_some, Option.some.injEq] at ran
    obtain ⟨⟨served, _⟩, rfl⟩ := ran
    exact evidenceCall_orderly runtimeData orderly served
  | quote id signature =>
    simp only [agencyStep] at ran
    split at ran
    · rename_i call there
      simp only [Option.ite_none_right_eq_some, Option.some.injEq] at ran
      obtain ⟨_, rfl⟩ := ran
      exact quote_orderly signature orderly there apart
    · cases ran
  | readLogs id ccel readable =>
    simp only [agencyStep] at ran
    split at ran
    · rename_i quote found
      cases ran
      obtain ⟨call, there, quoted⟩ := Option.bind_eq_some_iff.mp found
      exact readLogs_orderly ccel readable orderly there quoted
    · cases ran

/-- In a run that keeps quotes and lines apart, every evidence is consistent with its log. -/
theorem evidence_consistent (quoting : Quoting) (initPcr : Nat) {agency : Agency}
    (reached : (agencySystem quoting initPcr).Reachable (Apart initPcr) agency) :
    ∀ evidence ∈ agency.returned, Consistent quoting initPcr evidence := by
  have orderly : Orderly quoting initPcr agency :=
    reached.invariant (fun _ => fresh_orderly) fun _ _ _ orderly apart ran => step_orderly orderly apart ran
  exact orderly.returned

end Runs

section Concrete

/-- A quote with the registers where TDX has them: after the header and the first fields of
the body. -/
def tdQuote : Quoting where
  quote reportData registers signature :=
    List.replicate 376 0 ++ (registers 0 ++ (registers 1 ++ (registers 2 ++ (registers 3 ++ (reportData ++ signature)))))
  rtmr quote index := (quote.drop (376 + 48 * index)).take 48
  carries := by
    intro reportData registers signature index _ wide below
    have header : (List.replicate 376 (0 : UInt8)).length = 376 := List.length_replicate
    generalize List.replicate 376 (0 : UInt8) = front at header
    interval_cases index <;> simp [List.drop_append, List.drop_of_length_le, wide, header]

/-- A TD that has not started its agent yet. -/
def blankAgency : Agency := ⟨blankTd, none, false, none, fun _ => none, fun _ => none, []⟩

theorem blankAgency_fresh : Fresh 17 blankAgency where
  wide _ := List.length_replicate
  log := .inl rfl
  down := ⟨rfl, rfl, rfl⟩
  idle := ⟨fun _ => rfl, fun _ => rfl⟩
  nothing := rfl

def oneEvent : AgencyLabel := .extend 0 "one".toList "two".toList "three".toList none

/-- The evidence of `evidence_consistent` for one event, and the quote and the log after it. -/
theorem evidence_of_one_event :
    ∃ agency evidence, (agencySystem tdQuote 17).exec blankAgency
        [.serve (some .sha384), oneEvent, .lock 0, .append 0, .extendRegister 0, .getEvidence 1 [], .quote 1 [],
          .readLogs 1 none true] = some agency ∧
      agency.returned = [evidence] ∧ evidence.aaEventlog ≠ none ∧ Consistent tdQuote 17 evidence := by
  have readable : Readable "one two three".toList := by decide
  have served := System.Reachable.step (.start blankAgency_fresh)
    (show Apart 17 blankAgency (.serve (some .sha384)) from fun _ same => (Option.some_inj.mp same).symm)
    (show (agencySystem tdQuote 17).step blankAgency (.serve (some .sha384)) = some _ from rfl)
  have called := System.Reachable.step served (show Apart 17 _ oneEvent from fun _ => ⟨readable, rfl⟩)
    (show (agencySystem tdQuote 17).step _ oneEvent = some _ from rfl)
  have locked := System.Reachable.step called (show Apart 17 _ (.lock 0) from trivial)
    (show (agencySystem tdQuote 17).step _ (.lock 0) = some _ from rfl)
  have written := System.Reachable.step locked (show Apart 17 _ (.append 0) from fun _ _ there => nomatch there)
    (show (agencySystem tdQuote 17).step _ (.append 0) = some _ from rfl)
  have extended := System.Reachable.step written (show Apart 17 _ (.extendRegister 0) from trivial)
    (show (agencySystem tdQuote 17).step _ (.extendRegister 0) = some _ from rfl)
  have asked := System.Reachable.step extended (show Apart 17 _ (.getEvidence 1 []) from trivial)
    (show (agencySystem tdQuote 17).step _ (.getEvidence 1 []) = some _ from rfl)
  have quoted := System.Reachable.step asked (show Apart 17 _ (.quote 1 []) from ?_)
    (show (agencySystem tdQuote 17).step _ (.quote 1 []) = some _ from rfl)
  have answered := System.Reachable.step quoted (show Apart 17 _ (.readLogs 1 none true) from trivial)
    (show (agencySystem tdQuote 17).step _ (.readLogs 1 none true) = some _ from rfl)
  · refine ⟨_, _, rfl, rfl, nofun, ?_⟩
    exact evidence_consistent tdQuote 17 answered _ (List.mem_cons_self ..)
  · intro id call there
    rcases update_some there with ⟨_, impossible⟩ | ⟨differs, before⟩
    · cases impossible
    · rcases update_some before with ⟨same, _⟩ | ⟨_, before⟩
      · exact absurd same differs
      · rcases update_some before with ⟨same, _⟩ | ⟨_, before⟩
        · exact absurd same differs
        · cases before

/-- The evidence of a run, if it has one log and that log does not replay to the register in
the quote. -/
def refuses (evidence : TdxEvidence) : Bool :=
  evidence.aaEventlog.any fun text =>
    match AAEventlog.fromStr text, Base64.decode evidence.quote with
    | .ok log, some bytes => tdQuote.rtmr bytes (pcrToRtmr 17) != log.accumulateHash sha2
    | _, _ => false

/-- A line that is written between the quote and the log is in the log of the evidence and not
in the register of its quote. -/
theorem line_after_quote :
    ∃ agency, (agencySystem tdQuote 17).Reachable System.Free agency ∧
      ∃ evidence ∈ agency.returned, ¬ Consistent tdQuote 17 evidence := by
  have refused : (((agencySystem tdQuote 17).exec blankAgency
      [.serve (some .sha384), oneEvent, .getEvidence 1 [], .quote 1 [], .lock 0, .append 0,
        .readLogs 1 none true]).any fun agency => agency.returned.any refuses) = true := by
    decide +kernel
  obtain ⟨agency, executed, broken⟩ := (Option.any_eq_true ..).mp refused
  obtain ⟨evidence, listed, broken⟩ := List.any_eq_true.mp broken
  refine ⟨agency, System.reachable_of_exec blankAgency_fresh (fun _ _ _ => trivial) executed, evidence, listed, ?_⟩
  intro consistent
  obtain ⟨text, there, broken⟩ := (Option.any_eq_true ..).mp broken
  obtain ⟨log, bytes, parsed, decoded, replay⟩ := consistent text there
  simp [parsed, decoded, replay] at broken

end Concrete

end GuestComponents.EventLog
