import GuestComponents.EventLog.Evidence
import GuestComponents.Lib.Trace
import Mathlib.Data.List.DropRight

/-! `tsm_report/mod.rs` and the attesters that quote through it. Whatever is written to a report
directory goes into its next quote and is counted in its generation, and others may write there
too. A report is given only when its directory was written once, by the caller. The directories
behave as the kernel documents its report interface. -/
namespace GuestComponents.Attester
open Lib Lib.Text

/-- `TsmReportProvider`. -/
inductive TsmReportProvider where
  | cca | tdx | sev
  deriving DecidableEq

namespace TsmReportProvider

def debug : TsmReportProvider → String
  | cca => "Cca"
  | tdx => "Tdx"
  | sev => "Sev"

def serialize : TsmReportProvider → Text
  | cca => "arm_cca_guest\n".toList
  | tdx => "tdx_guest\n".toList
  | sev => "sev_guest\n".toList

/-- `from_str`. -/
def fromStr (text : Text) : Option TsmReportProvider :=
  [cca, tdx, sev].find? fun provider => provider.serialize = text

end TsmReportProvider

/-- `TsmReportData`. -/
inductive TsmReportData where
  | cca (inblob : List UInt8)
  | tdx (inblob : List UInt8)
  | sev (privlevel : UInt8) (inblob : List UInt8)

def TsmReportData.inblob : TsmReportData → List UInt8
  | cca inblob | tdx inblob | sev _ inblob => inblob

/-- `TsmReportError`. -/
inductive TsmReportError where
  | noTsmReports
  | openFailed (cause : String)
  | access (file cause : String)
  | parse (cause : String)
  | missingProvider (wanted provider : TsmReportProvider)
  | unknownProvider
  | inblobConflict (generation : Nat)
  | inblobLen

namespace TsmReportError

def display : TsmReportError → String
  | noTsmReports => "Failed to access TSM Report path"
  | openFailed cause => "Failed to create TSM Report path instance: " ++ cause
  | access file cause => "Failed to access TSM Report attribute: " ++ file ++ " (" ++ cause ++ ")"
  | parse cause => "Failed to parse TSM Report attribute 'generation': " ++ cause
  | missingProvider wanted provider => "Failed to open TSM Report path: missing provider " ++
      wanted.debug ++ " (provider=" ++ provider.debug ++ ")"
  | unknownProvider => "Failed to open TSM Report path: unknown provider (Matching variant not found)"
  | inblobConflict generation => "Failed to generate TSM Report: inblob write conflict (generation=" ++
      toString generation ++ ", expected 1)"
  | inblobLen => "Failed to generate TSM Report: missing inblob (len=0)"

def source : TsmReportError → List String
  | openFailed cause | access _ cause | parse cause => [cause]
  | unknownProvider => ["Matching variant not found"]
  | noTsmReports | missingProvider _ _ | inblobConflict _ | inblobLen => []

/-- The error as an `anyhow::Error`, the outermost text first. -/
def chain (error : TsmReportError) : List String := error.display :: error.source

end TsmReportError

/-- A file of a directory that can be written. -/
inductive File where
  | inblob | privlevel

def File.name : File → String
  | inblob => "inblob"
  | privlevel => "privlevel"

/-- What the kernel keeps for a directory. -/
structure Entry where
  inblob : List UInt8
  privlevel : List UInt8
  generation : Nat

def Entry.fresh : Entry := ⟨[], [], 0⟩

def Entry.written (entry : Entry) (data : List UInt8) : File → Entry
  | .inblob => { entry with inblob := data, generation := entry.generation + 1 }
  | .privlevel => { entry with privlevel := data, generation := entry.generation + 1 }

@[simp] theorem Entry.written_generation (entry : Entry) (data : List UInt8) (file : File) :
    (entry.written data file).generation = entry.generation + 1 := by
  cases file <;> rfl

/-- The platform: its provider, and what it reports on a blob at a privilege level. The reports
of one blob differ in their serial. -/
structure Platform where
  provider : Text
  outblob : (serial : Nat) → (inblob privlevel : List UInt8) → Except String (List UInt8)
  auxblob : (serial : Nat) → (inblob privlevel : List UInt8) → Except String (List UInt8)
  ioctl : (serial : Nat) → (reportData : List UInt8) → Except String (List UInt8)

/-- What another process does to the directories. -/
inductive Foreign where
  | create (dir : Nat)
  | write (dir : Nat) (file : File) (data : List UInt8)
  | remove (dir : Nat)

abbrev Entries := Nat → Option Entry

def Entries.write (entries : Entries) (dir : Nat) (file : File) (data : List UInt8) : Entries :=
  Function.update entries dir ((entries dir).map fun entry => entry.written data file)

def Foreign.act (entries : Entries) : Foreign → Entries
  | create dir => if (entries dir).isNone then Function.update entries dir (some .fresh) else entries
  | write dir file data => entries.write dir file data
  | remove dir => Function.update entries dir none

/-- The directories, and those that were made here and not yet removed. -/
structure World where
  entries : Entries
  owned : List Nat

inductive Op where
  | pathExists
  | tempdirIn
  | readProvider (dir : Nat)
  | write (dir : Nat) (file : File) (data : List UInt8)
  | readOutblob (dir : Nat)
  | readAuxblob (dir : Nat)
  | readGeneration (dir : Nat)
  | removeDir (dir : Nat)
  | quoteIoctl (reportData : List UInt8)
  | readCcel
  | readAael

abbrev Answer : Op → Type
  | .pathExists => Bool
  | .tempdirIn => Except String Nat
  | .readProvider _ | .readGeneration _ | .readAael => Except String Text
  | .readOutblob _ | .readAuxblob _ | .quoteIoctl _ | .readCcel => Except String (List UInt8)
  | .write _ _ _ | .removeDir _ => Except String Unit

/-- What others have done before an operation, whether it fails, and what else is found. -/
structure Choice where
  others : List Foreign
  fails : Option String
  present : Bool
  name : Nat
  serial : Nat
  ccel : Except String (List UInt8)
  aael : Except String Text

/-- A result, where the operation does not fail and the directory is there. -/
def onEntry {α : Type} (choice : Choice) (result : Entry → Except String α) : Option Entry → Except String α
  | none => .error (choice.fails.getD "No such file or directory (os error 2)")
  | some entry =>
    match choice.fails with
    | some cause => .error cause
    | none => result entry

/-- There is a report once a blob is written. -/
def reportOn (report : List UInt8 → List UInt8 → Except String (List UInt8)) (entry : Entry) :
    Except String (List UInt8) :=
  if entry.inblob = [] then .error "Invalid argument (os error 22)" else report entry.inblob entry.privlevel

/-- One operation, after what others have done. -/
def act (platform : Platform) (world : World) (op : Op) (choice : Choice) : Answer op × World :=
  let entries := choice.others.foldl Foreign.act world.entries
  match op with
  | .pathExists => (choice.present, { world with entries })
  | .tempdirIn =>
    if choice.fails.isNone ∧ (entries choice.name).isNone then
      (.ok choice.name, ⟨Function.update entries choice.name (some .fresh), choice.name :: world.owned⟩)
    else (.error (choice.fails.getD "File exists (os error 17)"), { world with entries })
  | .readProvider dir => (onEntry choice (fun _ => .ok platform.provider) (entries dir), { world with entries })
  | .write dir file data =>
    if choice.fails.isNone ∧ (entries dir).isSome then
      (.ok (), { world with entries := entries.write dir file data })
    else (.error (choice.fails.getD "No such file or directory (os error 2)"), { world with entries })
  | .readOutblob dir =>
    (onEntry choice (reportOn (platform.outblob choice.serial)) (entries dir), { world with entries })
  | .readAuxblob dir =>
    (onEntry choice (reportOn (platform.auxblob choice.serial)) (entries dir), { world with entries })
  | .readGeneration dir =>
    (onEntry choice (fun entry => .ok (Nat.toDigits 10 entry.generation ++ ['\n'])) (entries dir),
      { world with entries })
  | .removeDir dir =>
    match choice.fails with
    | some cause => (.error cause, { world with entries })
    | none => (.ok (), ⟨Function.update entries dir none, world.owned.erase dir⟩)
  | .quoteIoctl reportData => (platform.ioctl choice.serial reportData, { world with entries })
  | .readCcel => (choice.ccel, { world with entries })
  | .readAael => (choice.aael, { world with entries })

def kernel (platform : Platform) : Service Op Answer World Choice Unit where
  perform _ world op choice := act platform world op choice
  began _ _ world := world
  died _ world := world

abbrev Prog := Fallible Op Answer TsmReportError

abbrev Anyhow := Fallible Op Answer (List String)

section Programs

variable {α : Type}

def perform {ε : Type} (op : Op) : Fallible Op Answer ε (Answer op) := ExceptT.lift (Program.perform op)

def ofExcept {ε : Type} (result : Except ε α) : Fallible Op Answer ε α := ExceptT.mk (pure result)

/-- `map_err`. -/
def mapErr (change : String → TsmReportError) (result : Except String α) : Prog α :=
  ofExcept (result.mapError change)

def digitsError : String := "invalid digit found in string"

/-- The digits of a `u32`, after those of `value`. -/
def parseDigits (value : Nat) : Text → Except String Nat
  | [] => .ok value
  | c :: rest =>
    if c.isDigit = false then .error digitsError
    else if 2 ^ 32 ≤ 10 * value + (c.toNat - '0'.toNat) then .error "number too large to fit in target type"
    else parseDigits (10 * value + (c.toNat - '0'.toNat)) rest

/-- `parse::<u32>`. -/
def parseU32 (text : Text) : Except String Nat :=
  if text = [] then .error "cannot parse integer from empty string"
  else if text = ['+'] then .error digitsError
  else parseDigits 0 (if text.head? = some '+' then text.tail else text)

/-- `trim_matches`. -/
def trimNewlines (text : Text) : Text := (text.dropWhile (· = '\n')).rdropWhile (· = '\n')

/-- `check_inblob_write_race`. -/
def checkInblobWriteRace (reportPath : Nat) : Prog Unit := do
  let g ← mapErr (.access "generation") (← perform (.readGeneration reportPath))
  let generation ← mapErr .parse (parseU32 (trimNewlines g))
  if 1 < generation then throw (.inblobConflict generation) else return ()

/-- `check_tsm_report_provider`. -/
def checkTsmReportProvider (reportPath : Nat) (wanted : TsmReportProvider) : Prog Unit := do
  let reportProvider ← mapErr (.access "provider") (← perform (.readProvider reportPath))
  match TsmReportProvider.fromStr reportProvider with
  | some provider => if provider = wanted then return () else throw (.missingProvider wanted provider)
  | none => throw .unknownProvider

namespace TsmReportPath

/-- The rest of `new`, for a directory that was made. -/
def checked (path : Nat) (wanted : TsmReportProvider) : Prog Nat := do
  match ← ExceptT.lift (checkTsmReportProvider path wanted).run with
  | .ok () => return path
  | .error e => do
    let _ ← perform (.removeDir path)
    throw e

/-- `new`. -/
def new (wanted : TsmReportProvider) : Prog Nat := do
  if !(← perform .pathExists) then throw .noTsmReports
  else do
    let path ← mapErr .openFailed (← perform .tempdirIn)
    checked path wanted

/-- `drop`, after what is done with the path. -/
def drop {ε : Type} (path : Nat) (body : Fallible Op Answer ε α) : Fallible Op Answer ε α := do
  let result ← ExceptT.lift body.run
  let _ ← perform (.removeDir path)
  ofExcept result

def write (path : Nat) (file : File) (data : List UInt8) : Prog Unit := do
  mapErr (.access file.name) (← perform (.write path file data))

/-- The rest of `attestation_report`, with the blob. -/
def report (path : Nat) (reportData : List UInt8) : Prog (List UInt8) := do
  if reportData = [] then throw .inblobLen
  else do
    write path .inblob reportData
    let q ← mapErr (.access "outblob") (← perform (.readOutblob path))
    checkInblobWriteRace path
    return q

/-- `attestation_report`. -/
def attestationReport (path : Nat) : TsmReportData → Prog (List UInt8)
  | .cca inblob | .tdx inblob => report path inblob
  | .sev privlevel inblob => do
    write path .privlevel [privlevel]
    report path inblob

/-- `supplemental_data`. -/
def supplementalData (path : Nat) : Prog (List UInt8) := do
  let aux ← mapErr (.access "auxblob") (← perform (.readAuxblob path))
  checkInblobWriteRace path
  return aux

end TsmReportPath

/-- `resize(size, 0)`, of data that is not longer. -/
def resize (size : Nat) (data : List UInt8) : List UInt8 := data ++ List.replicate (size - data.length) 0

/-- `CcaEvidence`. -/
structure CcaEvidence where
  token : List UInt8

/-- `CcaAttester::get_evidence`. -/
def ccaEvidence (challenge : List UInt8) : Anyhow CcaEvidence := do
  if 64 < challenge.length then throw ["CCA Attester: Challenge size must be 64 bytes or less."]
  else do
    let tsm ← ExceptT.adapt TsmReportError.chain (TsmReportPath.new .cca)
    TsmReportPath.drop tsm do
      let token ← ExceptT.adapt TsmReportError.chain
        (TsmReportPath.attestationReport tsm (.cca (resize 64 challenge)))
      return ⟨token⟩

/-- `get_quote_ioctl`, with its context. -/
def quoteIoctl (reportData : List UInt8) (notsm : TsmReportError) : Anyhow (List UInt8) := do
  ofExcept ((← perform (.quoteIoctl reportData)).mapError fun cause =>
    ["TDX Attester: quote generation using ioctl() fallback failed after a TSM report error (" ++
      notsm.display ++ ")", cause])

def tsmContext (error : TsmReportError) : List String :=
  "TDX Attester: quote generation using TSM reports failed" :: error.chain

/-- The quote of `TdxAttester::get_evidence`. -/
def tdxQuote (reportData : List UInt8) : Anyhow (List UInt8) := do
  match ← ExceptT.lift (TsmReportPath.new .tdx).run with
  | .error notsm => quoteIoctl reportData notsm
  | .ok tsm =>
    TsmReportPath.drop tsm (ExceptT.adapt tsmContext (TsmReportPath.attestationReport tsm (.tdx reportData)))

/-- `TdxAttester::get_evidence`. -/
def tdxEvidence (reportData : List UInt8) : Anyhow EventLog.TdxEvidence := do
  if EventLog.reportDataSize < reportData.length then
    throw ["TDX Attester: Report data must be no more than 64 bytes"]
  else do
    let quote ← tdxQuote (resize EventLog.reportDataSize reportData)
    let ccEventlog ← perform .readCcel
    let aaEventlog ← perform .readAael
    return ⟨ccEventlog.toOption.map Base64.encode, Base64.encode quote, aaEventlog.toOption⟩

end Programs

/-! ## One write -/

/-- The digits that are read have the value that is read. -/
theorem parseDigits_ok {value n : Nat} {digits : Text} (parsed : parseDigits value digits = .ok n) :
    Nat.ofDigitChars 10 digits value = n := by
  induction digits generalizing value with
  | nil =>
    cases parsed
    rfl
  | cons c rest ih =>
    rw [parseDigits] at parsed
    split at parsed
    · cases parsed
    split at parsed
    · cases parsed
    · exact ih parsed

theorem toDigits_ne {n : Nat} {c other : Char} (mem : c ∈ Nat.toDigits 10 n) (is : other.isDigit = false) :
    c ≠ other := by
  rintro rfl
  rw [Nat.isDigit_of_mem_toDigits (by decide) (by decide) mem] at is
  cases is

theorem trimNewlines_digits (n : Nat) : trimNewlines (Nat.toDigits 10 n ++ ['\n']) = Nat.toDigits 10 n := by
  have digit : ∀ c ∈ Nat.toDigits 10 n, ¬ decide (c = '\n') = true := fun c mem =>
    fun same => toDigits_ne mem (by decide) (of_decide_eq_true same)
  obtain ⟨d, more, digits⟩ := List.exists_cons_of_ne_nil (@Nat.toDigits_ne_nil n 10)
  rw [digits] at digit ⊢
  rw [trimNewlines, List.cons_append, @List.dropWhile_cons_of_neg _ (fun c => decide (c = '\n')) _ _
    (digit d List.mem_cons_self), ← List.cons_append,
    List.rdropWhile_concat_pos _ _ _ (by decide), List.rdropWhile_eq_self_iff]
  exact fun nonempty => digit _ (List.getLast_mem nonempty)

/-- The generation that is read from a directory is its generation. -/
theorem parseU32_generation {g n : Nat} (parsed : parseU32 (trimNewlines (Nat.toDigits 10 g ++ ['\n'])) = .ok n) :
    n = g := by
  have unsigned : ∀ c ∈ Nat.toDigits 10 g, c ≠ '+' := fun c mem => toDigits_ne mem (by decide)
  obtain ⟨d, more, digits⟩ := List.exists_cons_of_ne_nil (@Nat.toDigits_ne_nil g 10)
  have first : d ≠ '+' := unsigned d (digits ▸ List.mem_cons_self)
  rw [trimNewlines_digits, digits, parseU32, if_neg (List.cons_ne_nil d more),
    if_neg (fun same => first (List.cons.inj same).1), List.head?_cons,
    if_neg (fun same => first (Option.some.inj same)), ← digits] at parsed
  rw [← parseDigits_ok parsed, Nat.ofDigitChars_ten_toDigits]

section Steps

variable {platform : Platform} {env : World → Op → Choice} {path : Nat} {base : List Nat} {p q : Entry → Prop}

/-- The others remove no directory that was made here. -/
def Undisturbed (env : World → Op → Choice) : Prop :=
  ∀ world op, ∀ dir ∈ world.owned, Foreign.remove dir ∉ (env world op).others

/-- Writes keep the assertion. -/
def Stable (p : Entry → Prop) : Prop := ∀ entry data file, p entry → p (entry.written data file)

/-- The directory was made last, and its entry is so. -/
structure During (path : Nat) (base : List Nat) (p : Entry → Prop) (world : World) : Prop where
  owned : world.owned = path :: base
  entry : ∃ entry, world.entries path = some entry ∧ p entry

theorem During.weaken {world : World} (during : During path base p world) (implies : ∀ entry, p entry → q entry) :
    During path base q world := by
  obtain ⟨owned, entry, found, holds⟩ := during
  exact ⟨owned, entry, found, implies entry holds⟩

theorem foreign_found {foreign : Foreign} {entries : Entries} {entry : Entry} (stable : Stable p)
    (kept : Foreign.remove path ≠ foreign) (found : entries path = some entry) (holds : p entry) :
    ∃ after, foreign.act entries path = some after ∧ p after := by
  cases foreign with
  | create dir =>
    refine ⟨entry, ?_, holds⟩
    rw [Foreign.act]
    split
    · rename_i absent
      rw [Function.update_of_ne, found]
      rintro rfl
      rw [found] at absent
      cases absent
    · exact found
  | write dir file data =>
    by_cases same : path = dir
    · subst same
      refine ⟨entry.written data file, ?_, stable entry data file holds⟩
      rw [Foreign.act, Entries.write, Function.update_self, found]
      rfl
    · exact ⟨entry, by rw [Foreign.act, Entries.write, Function.update_of_ne same, found], holds⟩
  | remove dir =>
    refine ⟨entry, ?_, holds⟩
    rw [Foreign.act, Function.update_of_ne, found]
    rintro rfl
    exact kept rfl

theorem others_found {others : List Foreign} {entries : Entries} {entry : Entry} (stable : Stable p)
    (kept : Foreign.remove path ∉ others) (found : entries path = some entry) (holds : p entry) :
    ∃ after, others.foldl Foreign.act entries path = some after ∧ p after := by
  induction others generalizing entries entry with
  | nil => exact ⟨entry, found, holds⟩
  | cons foreign others ih =>
    obtain ⟨different, rest⟩ := not_or.mp (mt List.mem_cons.mpr kept)
    obtain ⟨after, now, still⟩ := foreign_found stable different found holds
    exact ih rest now still

/-- What the others leave of a directory that was made here. -/
theorem During.others {world : World} (during : During path base p world) (undisturbed : Undisturbed env)
    (stable : Stable p) (op : Op) :
    ∃ entry, (env world op).others.foldl Foreign.act world.entries path = some entry ∧ p entry := by
  obtain ⟨owned, entry, found, holds⟩ := during
  refine others_found stable (undisturbed world op path ?_) found holds
  rw [owned]
  exact List.mem_cons_self

/-- What is read of a directory that was made here, which the read leaves as it is. -/
theorem read_ends {op : Op} (answer : Choice → Option Entry → Answer op)
    (reads : ∀ world choice, act platform world op choice =
      (answer choice (choice.others.foldl Foreign.act world.entries path),
        { world with entries := choice.others.foldl Foreign.act world.entries }))
    (undisturbed : Undisturbed env) (stable : Stable p) :
    (kernel platform).Ends 0 env (During path base p) (Program.perform op) fun given world =>
      ∃ choice entry, given = answer choice (some entry) ∧
        During path base (fun now => now = entry ∧ p now) world := by
  apply Service.Ends.perform
  intro world during
  obtain ⟨entry, found, holds⟩ := during.others undisturbed stable op
  have read : (kernel platform).perform 0 world op (env world op) = _ := reads world (env world op)
  rw [read]
  exact ⟨env world op, entry, by rw [found], during.owned, entry, found, rfl, holds⟩

theorem onEntry_ok {α : Type} {choice : Choice} {result : Entry → Except String α} {entry : Entry} {value : α}
    (read : onEntry choice result (some entry) = .ok value) : result entry = .ok value := by
  rw [onEntry] at read
  split at read
  · cases read
  · exact read

theorem mapErr_settles {α : Type} {pre failed : World → Prop} {ok : α → World → Prop}
    {change : String → TsmReportError} {result : Except String α}
    (holds : ∀ value world, result = .ok value → pre world → ok value world)
    (after_failed : ∀ cause world, result = .error cause → pre world → failed world) :
    (kernel platform).Settles 0 env pre (mapErr change result) ok failed := by
  cases result with
  | ok value => exact Service.Settles.pure fun world now => holds value world rfl now
  | error cause => exact Service.Settles.throw fun world now => after_failed cause world rfl now

/-- The check passes where the directory was written at most once. -/
theorem check_settles (undisturbed : Undisturbed env) (stable : Stable p) :
    (kernel platform).Settles 0 env (During path base p) (checkInblobWriteRace path)
      (fun _ => During path base fun entry => p entry ∧ entry.generation ≤ 1) (During path base p) := by
  apply Service.Settles.bind _ (Service.Settles.lift (read_ends
    (fun choice => onEntry choice fun entry => .ok (Nat.toDigits 10 entry.generation ++ ['\n']))
    (fun _ _ => rfl) undisturbed stable))
  intro given
  apply Service.Settles.bind fun g => During path base fun entry =>
    g = Nat.toDigits 10 entry.generation ++ ['\n'] ∧ p entry
  · refine mapErr_settles (fun g world same holds => ?_) fun _ world _ holds => ?_
    · obtain ⟨choice, entry, rfl, during⟩ := holds
      refine during.weaken ?_
      rintro now ⟨rfl, now_holds⟩
      have read := onEntry_ok same
      exact ⟨(Except.ok.inj read).symm, now_holds⟩
    · obtain ⟨choice, entry, rfl, during⟩ := holds
      exact during.weaken fun _ now => now.2
  intro g
  apply Service.Settles.bind fun n => During path base fun entry => n = entry.generation ∧ p entry
  · refine mapErr_settles (fun n world parsed during => during.weaken ?_) fun _ world _ during =>
      during.weaken fun _ now => now.2
    rintro entry ⟨rfl, holds⟩
    exact ⟨parseU32_generation parsed, holds⟩
  intro n
  split
  · exact Service.Settles.throw fun world during => during.weaken fun _ now => now.2
  · rename_i few
    refine Service.Settles.pure fun world during => during.weaken ?_
    rintro entry ⟨rfl, holds⟩
    exact ⟨holds, Nat.le_of_not_lt few⟩

/-- What is known of an entry once a file of it was written. -/
def Wrote (p : Entry → Prop) (data : List UInt8) (file : File) (entry : Entry) : Prop :=
  p entry ∧ 1 ≤ entry.generation ∧
    (entry.generation = 1 → ∃ before, p before ∧ before.generation = 0 ∧ entry = before.written data file)

theorem wrote_stable (stable : Stable p) (data : List UInt8) (file : File) : Stable (Wrote p data file) := by
  rintro entry other place ⟨holds, positive, _⟩
  refine ⟨stable entry other place holds, ?_, ?_⟩
  · rw [Entry.written_generation]
    omega
  · rw [Entry.written_generation]
    omega

theorem write_settles (undisturbed : Undisturbed env) (stable : Stable p) (file : File) (data : List UInt8) :
    (kernel platform).Settles 0 env (During path base p) (TsmReportPath.write path file data)
      (fun _ => During path base (Wrote p data file)) (During path base p) := by
  apply Service.Settles.bind fun given world =>
    During path base p world ∧ (given = .ok () → During path base (Wrote p data file) world)
  · apply Service.Settles.lift
    apply Service.Ends.perform
    intro world during
    obtain ⟨entry, found, holds⟩ := during.others undisturbed stable (.write path file data)
    have after : Wrote p data file (entry.written data file) := by
      refine ⟨stable entry data file holds, ?_, fun once => ⟨entry, holds, ?_, rfl⟩⟩
      · rw [Entry.written_generation]
        omega
      · rw [Entry.written_generation] at once
        omega
    change (During path base p (act platform world _ _).2) ∧ _
    simp only [kernel, act]
    split
    · have now : During path base (Wrote p data file) ⟨Entries.write
          ((env world (.write path file data)).others.foldl Foreign.act world.entries) path file data, world.owned⟩ :=
        ⟨during.owned, _, by simp only [Entries.write, Function.update_self, found, Option.map_some], after⟩
      exact ⟨now.weaken fun _ wrote => wrote.1, fun _ => now⟩
    · refine ⟨⟨during.owned, entry, found, holds⟩, fun same => ?_⟩
      cases same
  intro given
  exact mapErr_settles (fun _ world same holds => holds.2 same) fun _ world _ holds => holds.1

/-- The report is over the blob alone, on an entry that was not written before. -/
def ReportsOn (platform : Platform) (p : Entry → Prop) (data quote : List UInt8) : Prop :=
  ∃ before serial, p before ∧ before.generation = 0 ∧ platform.outblob serial data before.privlevel = .ok quote

theorem reportOn_ok {report : List UInt8 → List UInt8 → Except String (List UInt8)} {entry : Entry}
    {quote : List UInt8} (reported : reportOn report entry = .ok quote) :
    entry.inblob ≠ [] ∧ report entry.inblob entry.privlevel = .ok quote := by
  rw [reportOn] at reported
  split at reported
  · cases reported
  · exact ⟨‹_›, reported⟩

theorem report_settles (undisturbed : Undisturbed env) (stable : Stable p) (data : List UInt8) :
    (kernel platform).Settles 0 env (During path base p) (TsmReportPath.report path data)
      (fun quote world => During path base (Wrote p data .inblob) world ∧ ReportsOn platform p data quote)
      (During path base p) := by
  rw [TsmReportPath.report]
  split
  · exact Service.Settles.throw fun _ during => during
  have wrote := wrote_stable stable data .inblob
  apply Service.Settles.bind _ (write_settles undisturbed stable .inblob data)
  intro _
  apply Service.Settles.bind _ (Service.Settles.lift (read_ends
    (fun choice => onEntry choice (reportOn (platform.outblob choice.serial))) (fun _ _ => rfl) undisturbed wrote))
  intro given
  -- what the quote is over, should the entry be found written once in the end
  apply Service.Settles.bind fun quote => During path base fun entry =>
    Wrote p data .inblob entry ∧ (entry.generation ≤ 1 → ReportsOn platform p data quote)
  · refine mapErr_settles (fun quote world same holds => ?_) fun _ world _ holds => ?_
    · obtain ⟨choice, entry, rfl, during⟩ := holds
      obtain ⟨_, reported⟩ := reportOn_ok (onEntry_ok same)
      refine during.weaken ?_
      rintro now ⟨rfl, wrote⟩
      refine ⟨wrote, fun few => ?_⟩
      obtain ⟨before, was, unwritten, rfl⟩ := wrote.2.2 (Nat.le_antisymm few wrote.2.1)
      exact ⟨before, choice.serial, was, unwritten, reported⟩
    · obtain ⟨choice, entry, rfl, during⟩ := holds
      exact during.weaken fun _ now => now.2.1
  intro quote
  have kept : Stable fun entry =>
      Wrote p data .inblob entry ∧ (entry.generation ≤ 1 → ReportsOn platform p data quote) := by
    rintro entry other file ⟨now, reports⟩
    refine ⟨wrote entry other file now, fun few => reports ?_⟩
    rw [Entry.written_generation] at few
    omega
  apply Service.Settles.bind fun _ => During path base fun entry =>
    (Wrote p data .inblob entry ∧ (entry.generation ≤ 1 → ReportsOn platform p data quote)) ∧
    entry.generation ≤ 1
  · exact (check_settles undisturbed kept).consequence (fun _ during => during) (fun _ _ holds => holds)
      fun _ during => during.weaken fun _ now => now.1.1
  intro _
  refine Service.Settles.pure fun world during => ⟨during.weaken fun _ now => now.1.1, ?_⟩
  obtain ⟨_, entry, _, ⟨_, reports⟩, few⟩ := during
  exact reports few

/-- Nothing was written, or something else was. -/
def Clean (entry : Entry) : Prop := entry.generation = 0 → entry = .fresh

def Written (entry : Entry) : Prop := 1 ≤ entry.generation

theorem clean_stable : Stable Clean := by
  intro entry data file _ unwritten
  rw [Entry.written_generation] at unwritten
  cases unwritten

/-- The data goes out as a report of its blob, at no privilege level. -/
def Answers (platform : Platform) (data : TsmReportData) (quote : List UInt8) : Prop :=
  (data = .cca data.inblob ∨ data = .tdx data.inblob) ∧
    ∃ serial, platform.outblob serial data.inblob [] = .ok quote

theorem ReportsOn.answers {data quote : List UInt8} (reports : ReportsOn platform Clean data quote) :
    ∃ serial, platform.outblob serial data [] = .ok quote := by
  obtain ⟨before, serial, clean, unwritten, reported⟩ := reports
  rw [clean unwritten] at reported
  exact ⟨serial, reported⟩

/-- A directory that was written gives no report. -/
theorem ReportsOn.unwritten {data quote : List UInt8} (reports : ReportsOn platform p data quote)
    (written : ∀ entry, p entry → Written entry) : False := by
  obtain ⟨before, _, was, unwritten, _⟩ := reports
  have positive : 1 ≤ before.generation := written before was
  omega

/-- The first report of a directory. -/
theorem attestationReport_settles (undisturbed : Undisturbed env) (data : TsmReportData) :
    (kernel platform).Settles 0 env (During path base Clean) (TsmReportPath.attestationReport path data)
      (fun quote world => During path base (Wrote Clean data.inblob .inblob) world ∧ Answers platform data quote)
      (During path base Clean) := by
  cases data with
  | cca inblob =>
    exact (report_settles undisturbed clean_stable inblob).consequence (fun _ during => during)
      (fun _ _ holds => ⟨holds.1, .inl rfl, holds.2.answers⟩) fun _ during => during
  | tdx inblob =>
    exact (report_settles undisturbed clean_stable inblob).consequence (fun _ during => during)
      (fun _ _ holds => ⟨holds.1, .inr rfl, holds.2.answers⟩) fun _ during => during
  | sev privlevel inblob =>
    apply Service.Settles.bind _ (write_settles undisturbed clean_stable .privlevel [privlevel])
    intro _
    -- the privilege level counts as a write, and the blob is the second one
    exact (report_settles undisturbed (wrote_stable clean_stable _ _) inblob).consequence (fun _ during => during)
      (fun _ _ holds => (holds.2.unwritten fun _ wrote => wrote.2.1).elim)
      fun _ during => during.weaken fun _ wrote => wrote.1

/-- A directory that was written reports no more. -/
theorem attestationReport_fails (undisturbed : Undisturbed env) (stable : Stable p)
    (written : ∀ entry, p entry → Written entry) (data : TsmReportData) :
    (kernel platform).Settles 0 env (During path base p) (TsmReportPath.attestationReport path data)
      (fun _ _ => False) (During path base p) := by
  cases data with
  | cca inblob =>
    exact (report_settles undisturbed stable inblob).consequence (fun _ during => during)
      (fun _ _ holds => holds.2.unwritten written) fun _ during => during
  | tdx inblob =>
    exact (report_settles undisturbed stable inblob).consequence (fun _ during => during)
      (fun _ _ holds => holds.2.unwritten written) fun _ during => during
  | sev privlevel inblob =>
    apply Service.Settles.bind _ (write_settles undisturbed stable .privlevel [privlevel])
    intro _
    exact (report_settles undisturbed (wrote_stable stable _ _) inblob).consequence (fun _ during => during)
      (fun _ _ holds => holds.2.unwritten fun _ wrote => wrote.2.1)
      fun _ during => during.weaken fun _ wrote => wrote.1

/-- Supplemental data is over what was written once. -/
theorem supplementalData_settles (undisturbed : Undisturbed env) (stable : Stable p) :
    (kernel platform).Settles 0 env (During path base p) (TsmReportPath.supplementalData path)
      (fun aux world => During path base p world ∧ ∃ entry serial, p entry ∧ entry.generation ≤ 1 ∧
        platform.auxblob serial entry.inblob entry.privlevel = .ok aux)
      (During path base p) := by
  apply Service.Settles.bind _ (Service.Settles.lift (read_ends
    (fun choice => onEntry choice (reportOn (platform.auxblob choice.serial))) (fun _ _ => rfl) undisturbed stable))
  intro given
  apply Service.Settles.bind fun aux => During path base fun now => p now ∧ ∃ entry serial, p entry ∧
    entry.generation ≤ now.generation ∧ platform.auxblob serial entry.inblob entry.privlevel = .ok aux
  · refine mapErr_settles (fun aux world same holds => ?_) fun _ world _ holds => ?_
    · obtain ⟨choice, entry, rfl, during⟩ := holds
      obtain ⟨_, reported⟩ := reportOn_ok (onEntry_ok same)
      refine during.weaken ?_
      rintro now ⟨rfl, holds⟩
      exact ⟨holds, now, choice.serial, holds, le_rfl, reported⟩
    · obtain ⟨choice, entry, rfl, during⟩ := holds
      exact during.weaken fun _ now => now.2
  intro aux
  have kept : Stable fun now => p now ∧ ∃ entry serial, p entry ∧ entry.generation ≤ now.generation ∧
      platform.auxblob serial entry.inblob entry.privlevel = .ok aux := by
    rintro now data file ⟨holds, entry, serial, was, earlier, reported⟩
    refine ⟨stable now data file holds, entry, serial, was, ?_, reported⟩
    rw [Entry.written_generation]
    omega
  apply Service.Settles.bind fun _ => During path base fun now => (p now ∧ ∃ entry serial, p entry ∧
    entry.generation ≤ now.generation ∧ platform.auxblob serial entry.inblob entry.privlevel = .ok aux) ∧
      now.generation ≤ 1
  · exact (check_settles undisturbed kept).consequence (fun _ during => during) (fun _ _ holds => holds)
      fun _ during => during.weaken fun _ now => now.1
  intro _
  refine Service.Settles.pure fun world during => ⟨during.weaken fun _ now => now.1.1, ?_⟩
  obtain ⟨_, now, _, ⟨_, entry, serial, was, earlier, reported⟩, few⟩ := during
  exact ⟨entry, serial, was, earlier.trans few, reported⟩

end Steps

end GuestComponents.Attester
