import GuestComponents.EventLog.Log
import GuestComponents.Lib.Words

/-! The start of the event log over the bytes of its file. `EventLog::new` opens the file in
one of three ways, and a process can die after any byte that it has written. `new_refines`
says that the calls of `Log.lean` are these with whole lines for bytes. In every file that a
crash can leave there is at least the beginning of an INIT record (`host_begun`), and from that
`new_starts_iff` tells which of them a log is started from. -/
namespace GuestComponents.EventLog
open Lib Lib.Text

/-- How a file was opened: `File::open`, `File::create`, or to append. -/
inductive Opened where
  | reading | created | appending

/-- One durable action, where a line is written byte by byte. -/
inductive Act where
  | create
  | write (byte : UInt8)
  | extend (pcr : Nat) (digest : List UInt8)

/-- What outlives the process, with the bytes of the file. -/
structure Disk where
  aael : Option (List UInt8)
  registers : Nat → List UInt8

def Act.apply (attester : Attester) (disk : Disk) : Act → Disk
  | create => { disk with aael := some [] }
  | write byte => { disk with aael := disk.aael.map (· ++ [byte]) }
  | extend pcr digest =>
    { disk with registers := Function.update disk.registers pcr (attester.extend (disk.registers pcr) digest) }

def Disk.run (attester : Attester) (disk : Disk) (acts : List Act) : Disk :=
  acts.foldl (Act.apply attester) disk

/-- A call: what it does, in order, and how it ends. -/
structure Call (α : Type) where
  acts : List Act
  result : Except String α

namespace Call

instance : Monad Call where
  pure value := ⟨[], .ok value⟩
  bind first rest :=
    match first.result with
    | .ok value => ⟨first.acts ++ (rest value).acts, (rest value).result⟩
    | .error error => ⟨first.acts, .error error⟩

def fail {α : Type} (error : String) : Call α := ⟨[], .error error⟩

def act (action : Act) : Call Unit := ⟨[action], .ok ()⟩

end Call

/-- `FileWriter`, by how its file was opened. -/
structure FileWriter where
  file : Opened

/-- The bytes of a line. -/
def lineBytes (entry : LogEntry) : List UInt8 := utf8 (entry.display ++ ['\n'])

/-- `FileWriter::append`: a file that is open for reading takes no bytes. -/
def FileWriter.append (self : FileWriter) (entry : LogEntry) : Call Unit :=
  match self.file with
  | .reading => Call.fail "failed to write log"
  | _ => ⟨(lineBytes entry).map .write, .ok ()⟩

set_option linter.dupNamespace false

/-- `mod.rs::EventLog`. -/
structure EventLog where
  writer : FileWriter
  config : Config

namespace EventLog

variable (sha : Sha) (self : EventLog) (config : Config) (disk : Disk)

/-- `extend_entry`. -/
def extendEntry (logEntry : LogEntry) (pcr : Nat) : Call Unit := do
  let digest := logEntry.digestWith sha self.config.alg
  self.writer.append logEntry
  Call.act (.extend pcr digest)

/-- `extend_init_entry`. -/
def extendInitEntry : Call Unit := do
  let pcr := disk.registers self.config.pcr
  let initValue := padLeft self.config.alg.digestLen (hexEncode pcr)
  let initEntry := LogEntry.init self.config.alg initValue
  let digest := initEntry.digestWith sha self.config.alg
  self.writer.append initEntry
  Call.act (.extend self.config.pcr digest)

/-- `EventLog::new` on a file that is there. -/
def newFrom (content : Text) : Call EventLog :=
  if content = [] then do
    let eventlog := { writer := { file := .reading }, config }
    eventlog.extendInitEntry sha disk
    return eventlog
  else
    match AAEventlog.fromStr content with
    | .error _ => Call.fail "Parse AAEL"
    | .ok aael => do
      if !aael.integrityCheck sha (disk.registers config.pcr) then
        Call.act (.extend config.pcr (recoveryDigest sha config aael))
      return { writer := { file := .appending }, config }

/-- `EventLog::new`. -/
def new : Call EventLog :=
  match disk.aael with
  | some bytes =>
    match fromUtf8 bytes with
    | none => Call.fail "Read AAEL"
    | some content => newFrom sha config disk content
  | none => do
    Call.act .create
    let eventlog := { writer := { file := .created }, config }
    eventlog.extendInitEntry sha disk
    return eventlog

end EventLog

section Refinement

/-- The bytes of a file of text. -/
def Machine.disk (m : Machine) : Disk := ⟨m.aael.map utf8, m.registers⟩

theorem Machine.disk_registers (m : Machine) : m.disk.registers = m.registers := rfl

/-- An effect, byte by byte. -/
def Effect.acts : Effect → List Act
  | create => [.create]
  | append line => (utf8 (line ++ ['\n'])).map .write
  | extend pcr digest => [.extend pcr digest]

theorem run_writes (attester : Attester) (disk : Disk) (bytes : List UInt8) :
    disk.run attester (bytes.map .write) = { disk with aael := disk.aael.map (· ++ bytes) } := by
  induction bytes generalizing disk with
  | nil =>
    obtain ⟨aael, registers⟩ := disk
    cases aael <;> simp [Disk.run]
  | cons byte bytes ih =>
    have first : disk.run attester ((byte :: bytes).map .write) =
        Disk.run attester (Act.apply attester disk (.write byte)) (bytes.map .write) := rfl
    obtain ⟨aael, registers⟩ := disk
    rw [first, ih]
    cases aael <;> simp [Act.apply]

/-- An effect does on the text of the file what its bytes do on the file. -/
theorem effect_acts (attester : Attester) (m : Machine) (effect : Effect) :
    m.disk.run attester effect.acts = (effect.apply attester m).disk := by
  obtain ⟨aael, registers⟩ := m
  cases effect with
  | create => rfl
  | append line =>
    rw [Effect.acts, run_writes]
    cases aael with
    | none => rfl
    | some text =>
      have joined : utf8 (text ++ (line ++ ['\n'])) = utf8 text ++ utf8 (line ++ ['\n']) := List.flatMap_append
      simp [Machine.disk, Effect.apply, joined]
  | extend pcr digest => rfl

/-- The entry that a new log begins with. -/
def initEntry (config : Config) (disk : Disk) : LogEntry :=
  .init config.alg (padLeft config.alg.digestLen (hexEncode (disk.registers config.pcr)))

/-- What appending an entry does, and extending the register by it. -/
def entryActs (sha : Sha) (alg : HashAlgorithm) (entry : LogEntry) (pcr : Nat) : List Act :=
  (lineBytes entry).map .write ++ [.extend pcr (entry.digestWith sha alg)]

namespace EventLog

variable {sha : Sha} {config : Config} {disk : Disk}

/-- A log whose file is open for writing can be appended to. -/
theorem extendEntry_open {self : EventLog} (writable : self.writer.file ≠ .reading) (entry : LogEntry)
    (pcr : Nat) : self.extendEntry sha entry pcr = ⟨entryActs sha self.config.alg entry pcr, .ok ()⟩ := by
  obtain ⟨⟨file⟩, config⟩ := self
  cases file with
  | reading => exact absurd rfl writable
  | created => rfl
  | appending => rfl

theorem new_absent (absent : disk.aael = none) : new sha config disk =
    ⟨.create :: entryActs sha config.alg (initEntry config disk) config.pcr, .ok ⟨⟨.created⟩, config⟩⟩ := by
  rw [new, absent]
  show Call.mk ([Act.create] ++ (((lineBytes (initEntry config disk)).map .write ++ [_]) ++ [])) _ = _
  rw [List.append_nil]
  rfl

/-- An empty file is opened for reading, and takes no INIT entry. -/
theorem newFrom_nil : newFrom sha config disk [] = Call.fail "failed to write log" := rfl

theorem newFrom_parsed {content : Text} (nonempty : content ≠ []) {aael : AAEventlog}
    (parsed : AAEventlog.fromStr content = .ok aael) : newFrom sha config disk content =
      ⟨if aael.integrityCheck sha (disk.registers config.pcr) then []
        else [.extend config.pcr (recoveryDigest sha config aael)], .ok ⟨⟨.appending⟩, config⟩⟩ := by
  rw [newFrom, if_neg nonempty, parsed]
  dsimp only
  cases aael.integrityCheck sha (disk.registers config.pcr) <;> rfl

theorem newFrom_unparsed {content : Text} (nonempty : content ≠ []) {error : String}
    (unparsed : AAEventlog.fromStr content = .error error) :
    newFrom sha config disk content = Call.fail "Parse AAEL" := by
  rw [newFrom, if_neg nonempty, unparsed]

theorem new_text {content : Text} (file : disk.aael = some (utf8 content)) :
    new sha config disk = newFrom sha config disk content := by
  simp only [new, file, fromUtf8_utf8]

end EventLog

/-- `newEventLog` is `EventLog::new` with whole lines for bytes: it fails where that does, and
otherwise has its effects. -/
theorem new_refines (sha : Sha) (config : Config) (m : Machine) :
    match newEventLog sha config m with
    | .error _ => ∃ error, EventLog.new sha config m.disk = Call.fail error
    | .ok effects => ∃ log, EventLog.new sha config m.disk = ⟨effects.flatMap Effect.acts, .ok log⟩ := by
  obtain ⟨aael, registers⟩ := m
  cases aael with
  | none =>
    rw [EventLog.new_absent rfl]
    refine ⟨⟨⟨.created⟩, config⟩, ?_⟩
    simp [extendInitEntry, Effect.acts, entryActs, initEntry, lineBytes, Machine.disk]
  | some content =>
    rw [EventLog.new_text rfl]
    cases content with
    | nil => exact ⟨"failed to write log", EventLog.newFrom_nil⟩
    | cons c rest =>
      have nonempty : c :: rest ≠ [] := List.cons_ne_nil c rest
      simp only [newEventLog]
      cases parsed : AAEventlog.fromStr (c :: rest) with
      | error error => exact ⟨"Parse AAEL", EventLog.newFrom_unparsed nonempty parsed⟩
      | ok aael =>
        rw [EventLog.newFrom_parsed nonempty parsed]
        rw [Machine.disk_registers]
        dsimp only
        by_cases inStep : aael.integrityCheck sha (registers config.pcr) = true
        · rw [if_pos inStep, if_pos inStep]
          exact ⟨⟨⟨.appending⟩, config⟩, rfl⟩
        · rw [if_neg inStep, if_neg inStep]
          exact ⟨⟨⟨.appending⟩, config⟩, rfl⟩

end Refinement

/-- A machine and the log that a process on it holds. -/
structure Host where
  disk : Disk
  log : Option EventLog

/-- A call, whole or cut off by the death of the process after some of what it does, or the
death of the process between two calls. Every start has a configuration of its own. -/
inductive HostLabel where
  | new (config : Config) (cut : Option Nat)
  | extendEntry (entry : LogEntry) (pcr : Nat) (cut : Option Nat)
  | stop

section Runs

variable (sha : Sha) (attester : Attester)

/-- The host after a call. -/
def Host.after {α : Type} (disk : Disk) (call : Call α) (log : Option EventLog) : Option Nat → Host
  | none => ⟨disk.run attester call.acts, log⟩
  | some done => ⟨disk.run attester (call.acts.take done), none⟩

def hostStep (host : Host) : HostLabel → Option Host
  | .new config cut =>
    if host.log.isSome then none
    else
      let call := EventLog.new sha config host.disk
      some (Host.after attester host.disk call call.result.toOption cut)
  | .extendEntry entry pcr cut =>
    host.log.map fun log => Host.after attester host.disk (log.extendEntry sha entry pcr) (some log) cut
  | .stop => some { host with log := none }

/-- Runs from a machine without a log file. -/
def hostSystem : System Host HostLabel where
  start host := host.disk.aael = none ∧ host.log = none
  step := hostStep sha attester

end Runs

/-- The call returns a log, and every entry can be appended to it. -/
def Starts (sha : Sha) (call : Call EventLog) : Prop :=
  ∃ log, call.result = .ok log ∧ ∀ entry pcr, (log.extendEntry sha entry pcr).result = .ok ()

/-- The record of an INIT entry: its value is written in pairs of digits, and only blanks
come after it. -/
def InitRecord (line : Text) : Prop :=
  ∃ alg digits blanks, line = initLine alg digits ++ blanks ∧
    (digits.length % 2 = 0 ∧ ∀ c ∈ digits, (hexValue c).isSome = true) ∧ Blank blanks

/-- The file is absent, or it is a text whose first line is an INIT record. -/
def HasRecord (aael : Option (List UInt8)) : Prop :=
  aael = none ∨ ∃ content, aael = some (utf8 content) ∧ InitRecord (firstLine content)

/-- What is written of a record before its value. -/
def recordStart (alg : HashAlgorithm) : Text := initLine alg []

theorem initLine_start (alg : HashAlgorithm) (value : Text) : initLine alg value = recordStart alg ++ value := by
  simp [recordStart, initLine]

section Parsing

/-- What parsing asks of the first line. -/
theorem fromStr_isOk {content line : Text} {others : List Text} (read : lines content = line :: others) :
    (∃ log, AAEventlog.fromStr content = .ok log) ↔
      ∃ algorithm digits, words line = ["INIT".toList, algorithm ++ '/' :: digits] ∧ '/' ∉ algorithm ∧
        (HashAlgorithm.fromStr algorithm).isSome = true ∧ (hexDecode digits).isSome = true := by
  rw [AAEventlog.fromStr, read]
  dsimp only
  constructor
  · rintro ⟨log, parsed⟩
    split at parsed
    · rename_i keyword value found
      split at parsed
      · cases parsed
      · rename_i init
        split at parsed
        · cases parsed
        · rename_i algorithm digits slash
          split at parsed
          · cases parsed
          · rename_i named
            split at parsed
            · cases parsed
            · rename_i decoded
              obtain ⟨absent, rfl⟩ := splitOnce_some slash
              rw [not_not.mp init] at found
              exact ⟨algorithm, digits, found, absent, by rw [named]; rfl, by rw [decoded]; rfl⟩
    · cases parsed
  · rintro ⟨algorithm, digits, found, absent, named, decoded⟩
    obtain ⟨alg, named⟩ := Option.isSome_iff_exists.mp named
    obtain ⟨bytes, decoded⟩ := Option.isSome_iff_exists.mp decoded
    rw [found]
    simp only [ne_eq, not_true_eq_false, if_false, splitOnce_append absent, named, decoded]
    exact ⟨_, rfl⟩

variable {alg : HashAlgorithm}

theorem recordStart_clean : '\n' ∉ recordStart alg := by
  cases alg <;> decide

theorem firstLine_record (rest : Text) : firstLine (recordStart alg ++ rest) = recordStart alg ++ firstLine rest :=
  firstLine_append recordStart_clean rest

theorem recordStart_length : (recordStart alg).length = 12 := by
  cases alg <;> rfl

/-- Two records whose starts are those of different algorithms differ. -/
theorem recordStart_inj {alg' : HashAlgorithm} {rest rest' : Text}
    (same : recordStart alg ++ rest = recordStart alg' ++ rest') : alg = alg' ∧ rest = rest' := by
  have starts := List.append_inj same (by rw [recordStart_length, recordStart_length])
  refine ⟨?_, starts.2⟩
  have inj := starts.1
  revert inj
  cases alg <;> cases alg' <;> decide

theorem hexDigits_solid {digits : Text} (hex : ∀ c ∈ digits, (hexValue c).isSome = true) : Solid digits := by
  intro c listed
  have digit := hex c listed
  cases blank : isAsciiWhitespace c with
  | false => rfl
  | true =>
    simp only [isAsciiWhitespace, Bool.or_eq_true, beq_iff_eq] at blank
    rcases blank with (((rfl | rfl) | rfl) | rfl) | rfl <;> exact absurd digit (by decide)

/-- After the start of a record, parsing succeeds exactly on the record. -/
theorem fromStr_recordStart (rest : Text) :
    (∃ log, AAEventlog.fromStr (recordStart alg ++ rest) = .ok log) ↔
      InitRecord (firstLine (recordStart alg ++ rest)) := by
  have nonempty : recordStart alg ++ rest ≠ [] := by simp [recordStart, initLine]
  obtain ⟨line, others, read, same⟩ := lines_first nonempty
  have start : recordStart alg = "INIT".toList ++ ' ' :: (alg.asRef ++ ['/']) := rfl
  have begun : Solid (alg.asRef ++ ['/']) := solid_of_all (by cases alg <;> decide)
  have some_ : alg.asRef ++ ['/'] ≠ [] := by simp
  have noSlash : '/' ∉ alg.asRef := by cases alg <;> decide
  have words_ : words line = "INIT".toList :: words ((alg.asRef ++ ['/']) ++ firstLine rest) := by
    rw [same, firstLine_record, start, List.append_assoc, List.cons_append,
      words_cons (solid_of_all (by decide)) (by decide)]
  rw [fromStr_isOk read, firstLine_record, words_]
  constructor
  · rintro ⟨algorithm, digits, found, absent, named, decoded⟩
    have single := (List.cons.inj found).2
    obtain ⟨solid, blanks, shape, solid_, blank, word⟩ := (words_begun begun some_).mp single
    rw [List.append_assoc, List.singleton_append] at word
    obtain ⟨rfl, rfl⟩ := separated_inj absent noSlash word
    exact ⟨alg, digits, blanks, by rw [shape, initLine_start, List.append_assoc], hexDecode_isSome.mp decoded, blank⟩
  · rintro ⟨alg', digits, blanks, shape, digits_, blank⟩
    rw [initLine_start, List.append_assoc] at shape
    obtain ⟨rfl, value⟩ := recordStart_inj shape
    refine ⟨alg.asRef, digits, ?_, noSlash, by rw [HashAlgorithm.fromStr_asRef]; rfl, hexDecode_isSome.mpr digits_⟩
    have single := (@words_begun _ (firstLine rest) _ begun some_).mpr
      ⟨digits, blanks, value, hexDigits_solid digits_.2, blank, rfl⟩
    rw [single, List.append_assoc]
    rfl

/-- A part of the start of a record is none. -/
theorem fromStr_part {n : Nat} (part : n < (recordStart alg).length) :
    ¬ (∃ log, AAEventlog.fromStr ((recordStart alg).take n) = .ok log) ∧
      ¬ InitRecord (firstLine ((recordStart alg).take n)) := by
  constructor
  · rw [recordStart_length] at part
    have all : ∀ n < 12, (AAEventlog.fromStr ((recordStart alg).take n)).toBool = false := by
      cases alg <;> decide
    rintro ⟨log, parsed⟩
    have refused := all n part
    rw [parsed] at refused
    cases refused
  · rintro ⟨alg', digits, blanks, shape, _⟩
    have long := congrArg List.length shape
    rw [initLine_start, List.length_append, List.length_append, recordStart_length] at long
    have short := (List.takeWhile_prefix (fun c => c != '\n') (l := (recordStart alg).take n)).length_le
    rw [← firstLine, List.length_take, recordStart_length] at short
    rw [recordStart_length] at part
    omega

end Parsing

section Reached

variable {sha : Sha} {attester : Attester} {config : Config}

/-- A file, if there is one, holds a beginning of the start of a record, or all of it. -/
def Begun (aael : Option (List UInt8)) : Prop :=
  ∀ bytes, aael = some bytes →
    ∃ alg, bytes <+: utf8 (recordStart alg) ∨ utf8 (recordStart alg) <+: bytes

/-- What a file that is begun, and is a text, consists of. -/
theorem begun_text {content : Text} (begun : Begun (some (utf8 content))) :
    ∃ alg, (∃ rest, content = recordStart alg ++ rest) ∨
      ∃ n, n < (recordStart alg).length ∧ content = (recordStart alg).take n := by
  obtain ⟨alg, part | whole⟩ := begun _ rfl
  · refine ⟨alg, ?_⟩
    have bytes := List.prefix_iff_eq_take.mp part
    have cut : ∀ n, (utf8 (recordStart alg)).take n = utf8 ((recordStart alg).take n) := by
      intro n
      by_cases short : n < 12
      · have all : ∀ n < 12, (utf8 (recordStart alg)).take n = utf8 ((recordStart alg).take n) := by
          cases alg <;> decide
        exact all n short
      · have ascii : (utf8 (recordStart alg)).length = 12 := by cases alg <;> rfl
        rw [List.take_of_length_le (by omega), List.take_of_length_le (by rw [recordStart_length]; omega)]
    rw [cut] at bytes
    have same := utf8_inj bytes
    by_cases short : (utf8 content).length < (recordStart alg).length
    · exact .inr ⟨_, short, same⟩
    · refine .inl ⟨[], ?_⟩
      rw [same, List.take_of_length_le (by omega), List.append_nil]
  · obtain ⟨rest, bytes⟩ := whole
    obtain ⟨after, same, _⟩ := utf8_prefix bytes.symm
    exact ⟨alg, .inl ⟨after, same⟩⟩

theorem parses_iff {content : Text} (begun : Begun (some (utf8 content))) :
    (∃ log, AAEventlog.fromStr content = .ok log) ↔ InitRecord (firstLine content) := by
  obtain ⟨alg, ⟨rest, rfl⟩ | ⟨n, part, rfl⟩⟩ := begun_text begun
  · exact fromStr_recordStart rest
  · obtain ⟨unparsed, none_⟩ := fromStr_part part
    exact iff_of_false unparsed none_

/-- The bytes that actions write. -/
def written (acts : List Act) : List UInt8 :=
  acts.filterMap fun
    | .write byte => some byte
    | _ => none

variable (sha) in
theorem written_entryActs (alg : HashAlgorithm) (entry : LogEntry) (pcr : Nat) :
    written (entryActs sha alg entry pcr) = lineBytes entry := by
  have bytes : ∀ bytes : List UInt8, written (bytes.map .write) = bytes := by
    intro bytes
    simp [written, List.filterMap_map]
  have joined : written (entryActs sha alg entry pcr) = written ((lineBytes entry).map .write) ++ [] :=
    List.filterMap_append
  rw [joined, bytes, List.append_nil]

variable (attester) in
/-- Actions that create no file append what they write. -/
theorem run_written (disk : Disk) {acts : List Act} (kept : Act.create ∉ acts) :
    (disk.run attester acts).aael = disk.aael.map (· ++ written acts) := by
  induction acts generalizing disk with
  | nil => simp [Disk.run, written]
  | cons act acts ih =>
    rw [List.mem_cons, not_or] at kept
    obtain ⟨other, others⟩ := kept
    have first : disk.run attester (act :: acts) = Disk.run attester (act.apply attester disk) acts := rfl
    rw [first, ih _ others]
    obtain ⟨aael, registers⟩ := disk
    cases act with
    | create => exact absurd rfl other
    | write byte => cases aael <;> simp [Act.apply, written]
    | extend pcr digest => cases aael <;> simp [Act.apply, written]

/-- A file that is parsed is not written to, and opened to append. -/
theorem EventLog.new_parsed {disk : Disk} {content : Text} (file : disk.aael = some (utf8 content))
    {aael : AAEventlog} (parsed : AAEventlog.fromStr content = .ok aael) :
    ∃ acts, EventLog.new sha config disk = ⟨acts, .ok ⟨⟨.appending⟩, config⟩⟩ ∧
      Act.create ∉ acts ∧ written acts = [] := by
  have nonempty : content ≠ [] := by
    rintro rfl
    cases parsed
  rw [EventLog.new_text file, EventLog.newFrom_parsed nonempty parsed]
  refine ⟨_, rfl, ?_, ?_⟩
  · split <;> simp
  · split <;> rfl

/-- On any other file, nothing happens. -/
theorem EventLog.new_unparsed {disk : Disk} {bytes : List UInt8} (file : disk.aael = some bytes)
    (unparsed : ∀ content aael, bytes = utf8 content → AAEventlog.fromStr content ≠ .ok aael) :
    ∃ error, EventLog.new sha config disk = Call.fail error := by
  cases decoded : fromUtf8 bytes with
  | none => exact ⟨"Read AAEL", by simp only [EventLog.new, file, decoded]⟩
  | some content =>
    obtain rfl := utf8_of_fromUtf8 decoded
    rw [EventLog.new_text file]
    by_cases empty : content = []
    · rw [empty]
      exact ⟨_, EventLog.newFrom_nil⟩
    · cases parsed : AAEventlog.fromStr content with
      | error error => exact ⟨_, EventLog.newFrom_unparsed empty parsed⟩
      | ok aael => exact absurd parsed (unparsed content aael rfl)

theorem starts_of_open {acts : List Act} {log : EventLog} (writable : log.writer.file ≠ .reading) :
    Starts sha ⟨acts, .ok log⟩ :=
  ⟨log, rfl, fun entry pcr => by rw [EventLog.extendEntry_open writable]⟩

theorem not_starts_fail (error : String) : ¬ Starts sha (Call.fail error) := by
  rintro ⟨log, returned, _⟩
  cases returned

/-- A log is started from a file that is begun exactly if that has a record. -/
theorem starts_iff {disk : Disk} (begun : Begun disk.aael) :
    Starts sha (EventLog.new sha config disk) ↔ HasRecord disk.aael := by
  cases file : disk.aael with
  | none =>
    rw [EventLog.new_absent file]
    exact iff_of_true (starts_of_open Opened.noConfusion) (.inl rfl)
  | some bytes =>
    rw [file] at begun
    constructor
    · intro starts
      apply Classical.byContradiction
      intro none_
      have unparsed : ∀ content aael, bytes = utf8 content → AAEventlog.fromStr content ≠ .ok aael := by
        rintro content aael rfl parsed
        exact none_ (.inr ⟨content, rfl, (parses_iff begun).mp ⟨aael, parsed⟩⟩)
      have nothing : ∃ error, EventLog.new sha config disk = Call.fail error :=
        EventLog.new_unparsed file unparsed
      obtain ⟨error, failed⟩ := nothing
      rw [failed] at starts
      exact not_starts_fail error starts
    · rintro (absent | ⟨content, same, record⟩)
      · cases absent
      · cases same
        obtain ⟨aael, parsed⟩ := (parses_iff begun).mpr record
        obtain ⟨acts, returned, _⟩ := @EventLog.new_parsed sha config disk content file aael parsed
        rw [returned]
        exact starts_of_open Opened.noConfusion

/-- What holds of every host: its file is begun, and one that a log is open on has the start of
a record. -/
structure HostBegun (host : Host) : Prop where
  file : Begun host.disk.aael
  log : ∀ log, host.log = some log → log.writer.file ≠ .reading ∧
    ∃ alg rest, host.disk.aael = some (utf8 (recordStart alg) ++ rest)

theorem begun_of_start {alg : HashAlgorithm} {rest : List UInt8} :
    Begun (some (utf8 (recordStart alg) ++ rest)) := by
  rintro bytes ⟨⟩
  exact ⟨alg, .inr (List.prefix_append _ _)⟩

/-- What is written of a record first is a beginning of it. -/
theorem begun_of_part {alg : HashAlgorithm} {rest bytes : List UInt8}
    (part : bytes <+: utf8 (recordStart alg) ++ rest) : Begun (some bytes) := by
  rintro _ ⟨⟩
  exact ⟨alg, List.prefix_or_prefix_of_prefix part (List.prefix_append _ _)⟩

theorem lineBytes_init (alg : HashAlgorithm) (value : Text) :
    lineBytes (.init alg value) = utf8 (recordStart alg) ++ utf8 (value ++ ['\n']) := by
  rw [lineBytes, LogEntry.display, initLine_start, List.append_assoc]
  exact List.flatMap_append

variable (sha) in
theorem create_notMem_entryActs (alg : HashAlgorithm) (entry : LogEntry) (pcr : Nat) :
    Act.create ∉ entryActs sha alg entry pcr := by
  simp [entryActs]

/-- What is written by the part of a call before it was cut off. -/
theorem written_take (acts : List Act) (done : Nat) : written (acts.take done) <+: written acts :=
  (List.take_prefix done acts).filterMap _

/-- What is there after a new file was made, and some of a call done on it. -/
theorem run_create (disk : Disk) {acts : List Act} (kept : Act.create ∉ acts) :
    (disk.run attester (.create :: acts)).aael = some (written acts) := by
  have made : disk.run attester (.create :: acts) = Disk.run attester (Act.apply attester disk .create) acts := rfl
  rw [made, run_written attester _ kept]
  simp [Act.apply]

theorem run_written_take (disk : Disk) {acts : List Act} (kept : Act.create ∉ acts) (done : Nat) :
    (disk.run attester (acts.take done)).aael = disk.aael.map (· ++ written (acts.take done)) :=
  run_written attester disk fun listed => kept (List.mem_of_mem_take listed)

/-- A start where no file is, as far as it comes. -/
theorem hostBegun_created {disk : Disk} (absent : disk.aael = none) (cut : Option Nat) :
    HostBegun (Host.after attester disk (EventLog.new sha config disk)
      (EventLog.new sha config disk).result.toOption cut) := by
  rw [EventLog.new_absent absent]
  have kept := create_notMem_entryActs sha config.alg (initEntry config disk) config.pcr
  have bytes := (written_entryActs sha config.alg (initEntry config disk) config.pcr).trans
    (lineBytes_init config.alg _)
  cases cut with
  | none =>
    have file : (disk.run attester (.create :: entryActs sha config.alg (initEntry config disk) config.pcr)).aael =
        some (utf8 (recordStart config.alg) ++
          utf8 (padLeft config.alg.digestLen (hexEncode (disk.registers config.pcr)) ++ ['\n'])) := by
      rw [run_create disk kept, bytes]
    constructor
    · rw [Host.after, file]
      exact begun_of_start
    · rintro log ⟨⟩
      exact ⟨Opened.noConfusion, config.alg, _, file⟩
  | some done =>
    refine ⟨?_, nofun⟩
    cases done with
    | zero =>
      rintro bytes there
      rw [show disk.aael = some bytes from there] at absent
      cases absent
    | succ done =>
      have part := written_take (entryActs sha config.alg (initEntry config disk) config.pcr) done
      rw [bytes] at part
      show Begun (disk.run attester (.create :: List.take done _)).aael
      rw [run_create disk fun listed => kept (List.mem_of_mem_take listed)]
      exact begun_of_part part

/-- A start where a file is, which it leaves as it is. -/
theorem hostBegun_present {disk : Disk} {bytes : List UInt8} (file : disk.aael = some bytes)
    (begun : Begun disk.aael) (cut : Option Nat) :
    HostBegun (Host.after attester disk (EventLog.new sha config disk)
      (EventLog.new sha config disk).result.toOption cut) := by
  by_cases parses : ∃ content aael, bytes = utf8 content ∧ AAEventlog.fromStr content = .ok aael
  · obtain ⟨content, aael, rfl, parsed⟩ := parses
    obtain ⟨acts, returned, kept, nothing⟩ := @EventLog.new_parsed sha config disk content file aael parsed
    rw [returned]
    cases cut with
    | none =>
      have same : (disk.run attester acts).aael = disk.aael := by
        rw [run_written attester disk kept, nothing, file]
        simp
      refine ⟨by rw [Host.after, same]; exact begun, ?_⟩
      rintro log ⟨⟩
      refine ⟨Opened.noConfusion, ?_⟩
      rw [Host.after, same]
      rw [file] at begun ⊢
      obtain ⟨alg, ⟨rest, rfl⟩ | ⟨n, part, rfl⟩⟩ := begun_text begun
      · exact ⟨alg, utf8 rest, congrArg some List.flatMap_append⟩
      · exact absurd ⟨aael, parsed⟩ (fromStr_part part).1
    | some done =>
      have none_ : written (acts.take done) = [] :=
        List.prefix_nil.mp (nothing ▸ written_take acts done)
      have same : (disk.run attester (acts.take done)).aael = disk.aael := by
        rw [run_written_take disk kept, none_, file]
        simp
      exact ⟨by rw [Host.after, same]; exact begun, nofun⟩
  · have nothing : ∃ error, EventLog.new sha config disk = Call.fail error :=
      EventLog.new_unparsed file fun content aael same parsed => parses ⟨content, aael, same, parsed⟩
    obtain ⟨error, failed⟩ := nothing
    rw [failed]
    cases cut with
    | none => exact ⟨begun, nofun⟩
    | some done =>
      refine ⟨?_, nofun⟩
      rw [Host.after, Call.fail, List.take_nil]
      exact begun

theorem hostBegun_new {host next : Host} {cut : Option Nat} (begun : HostBegun host)
    (ran : hostStep sha attester host (.new config cut) = some next) : HostBegun next := by
  rw [hostStep] at ran
  split at ran
  · cases ran
  · cases ran
    cases file : host.disk.aael with
    | none => exact hostBegun_created file cut
    | some bytes => exact hostBegun_present file begun.file cut

/-- An entry is appended to a file that has the start of a record. -/
theorem hostBegun_extendEntry {host next : Host} {entry : LogEntry} {pcr : Nat} {cut : Option Nat}
    (begun : HostBegun host)
    (ran : hostStep sha attester host (.extendEntry entry pcr cut) = some next) : HostBegun next := by
  obtain ⟨log, running, rfl⟩ := Option.map_eq_some_iff.mp ran
  obtain ⟨writable, alg, rest, file⟩ := begun.log log running
  have kept := create_notMem_entryActs sha log.config.alg entry pcr
  have longer (more : List UInt8) : host.disk.aael.map (· ++ more) =
      some (utf8 (recordStart alg) ++ (rest ++ more)) := by
    rw [file, Option.map_some, List.append_assoc]
  rw [EventLog.extendEntry_open writable]
  cases cut with
  | none =>
    have after := (run_written attester host.disk kept).trans (longer _)
    constructor
    · rw [Host.after, after]
      exact begun_of_start
    · rintro _ ⟨⟩
      exact ⟨writable, alg, _, after⟩
  | some done =>
    refine ⟨?_, nofun⟩
    rw [Host.after, run_written_take host.disk kept, longer]
    exact begun_of_start

/-- In every run, whatever the crashes, the file is begun. -/
theorem host_begun {host : Host} (reached : (hostSystem sha attester).Reachable System.Free host) :
    HostBegun host := by
  refine reached.invariant ?_ ?_
  · rintro host ⟨absent, down⟩
    constructor
    · rw [absent]
      exact nofun
    · rw [down]
      exact nofun
  · intro host label next begun _ ran
    cases label with
    | new config cut => exact hostBegun_new begun ran
    | extendEntry entry pcr cut => exact hostBegun_extendEntry begun ran
    | stop =>
      cases ran
      exact ⟨begun.file, nofun⟩

end Reached

/-- From what a crash can leave, however many starts and crashes there were, `EventLog::new`
returns a log that can be appended to exactly if there is no file, or the file is a text whose first
line is an INIT record: its value is in pairs of digits, and only blanks come after it. -/
theorem new_starts_iff (sha : Sha) (attester : Attester) (config : Config) (host : Host)
    (reached : (hostSystem sha attester).Reachable System.Free host) :
    Starts sha (EventLog.new sha config host.disk) ↔ HasRecord host.disk.aael :=
  starts_iff (host_begun reached).file

/-- No digest, for a run in which none is looked at. -/
def noDigest : Sha := fun _ _ => []

/-- A machine on which the agent has never run. -/
def unusedHost : Host := ⟨⟨none, fun _ => List.replicate 32 0⟩, none⟩

/-- A log is started on an unused machine. -/
theorem unused_starts :
    Starts noDigest (EventLog.new noDigest ⟨.sha256, 0⟩ unusedHost.disk) :=
  (new_starts_iff noDigest ⟨fun value _ => value⟩ ⟨.sha256, 0⟩ unusedHost (.start ⟨rfl, rfl⟩)).mpr (.inl rfl)

/-- A crash after the file was created leaves an empty one, from which no log is started. -/
theorem empty_file_fails : ¬ ∀ (sha : Sha) (attester : Attester) (config : Config) (host : Host),
    (hostSystem sha attester).Reachable System.Free host →
      Starts sha (EventLog.new sha config host.disk) := by
  intro holds
  have start : (hostSystem noDigest ⟨fun value _ => value⟩).Reachable System.Free unusedHost := .start ⟨rfl, rfl⟩
  have ran : (hostSystem noDigest ⟨fun value _ => value⟩).step unusedHost (.new ⟨.sha256, 0⟩ (some 1)) =
      some ⟨⟨some [], unusedHost.disk.registers⟩, none⟩ := rfl
  have created := System.Reachable.step start trivial ran
  exact not_starts_fail _ (holds noDigest ⟨fun value _ => value⟩ ⟨.sha256, 0⟩ _ created)

end GuestComponents.EventLog
