import GuestComponents.EventLog.Recovery

/-! The text round trip of the event log. `extend_entry` writes one line for an
entry, the reader takes lines apart at newlines and trims them, and nobody
escapes anything. Which entries come back is settled line by line
(`recovered_iff`); which other entries share a file is settled by where the
separators stand (`determined_iff`, `plain_determined`). -/
namespace GuestComponents.EventLog
open Lib Lib.Text

/-- The entries the API accepts: of the three fields only the content is
checked for newlines. -/
structure LoggedEvent where
  domain : Text
  operation : Text
  content : Content

namespace LoggedEvent

def entry (event : LoggedEvent) : LogEntry := .event event.domain event.operation event.content

def line (event : LoggedEvent) : Text := event.entry.display

/-- Neither the domain nor the operation holds a separator of the file. -/
structure Plain (event : LoggedEvent) : Prop where
  domainSpace : ' ' ∉ event.domain
  domainLine : '\n' ∉ event.domain
  operationSpace : ' ' ∉ event.operation
  operationLine : '\n' ∉ event.operation

/-- No field holds a space. -/
structure Spaceless (event : LoggedEvent) : Prop where
  domain : ' ' ∉ event.domain
  operation : ' ' ∉ event.operation
  content : ' ' ∉ event.content.text

theorem ext_fields {event other : LoggedEvent} (domain : event.domain = other.domain)
    (operation : event.operation = other.operation)
    (content : event.content.text = other.content.text) : event = other := by
  obtain ⟨_, _, ⟨_, _⟩⟩ := event
  obtain ⟨_, _, ⟨_, _⟩⟩ := other
  cases domain
  cases operation
  cases content
  rfl

end LoggedEvent

/-- The text that logging these entries adds to the file. -/
def body (entries : List LoggedEvent) : Text := entries.flatMap fun event => event.line ++ ['\n']

theorem body_cons (event : LoggedEvent) (entries : List LoggedEvent) :
    body (event :: entries) = event.line ++ '\n' :: body entries := by
  simp [body]

section Written

variable (sha : Sha) (attester : Attester) (config : Config)

/-- The effects of one `extend_entry` call after another. -/
def extendEntries (pcr : Nat) (entries : List LoggedEvent) : List Effect :=
  entries.flatMap fun event => extendEntry sha config event.entry pcr

/-- A machine whose log holds an INIT line and nothing else. -/
def initialised (registers : Nat → List UInt8) (alg : HashAlgorithm) (initState : List UInt8) : Machine :=
  ⟨some (initLine alg (hexEncode initState) ++ ['\n']), registers⟩

/-- The digests among a list of effects, in order. -/
def extendedDigests (effects : List Effect) : List (List UInt8) :=
  effects.filterMap fun
    | .extend _ digest => some digest
    | _ => none

theorem written_body {m : Machine} {before : Text} (file : m.aael = some before) (pcr : Nat)
    (entries : List LoggedEvent) :
    (m.run attester (extendEntries sha config pcr entries)).aael = some (before ++ body entries) := by
  induction entries generalizing m before with
  | nil => simp [extendEntries, Machine.run, body, file]
  | cons event entries ih =>
    have split : m.run attester (extendEntries sha config pcr (event :: entries)) =
        (m.run attester (extendEntry sha config event.entry pcr)).run attester
          (extendEntries sha config pcr entries) := by
      simp [Machine.run, extendEntries]
    have first : (m.run attester (extendEntry sha config event.entry pcr)).aael =
        some (before ++ (event.line ++ ['\n'])) := by
      simp [Machine.run, extendEntry, Effect.apply, file, LoggedEvent.line]
    rw [split, ih first, body_cons]
    simp

theorem extended_digests (pcr : Nat) (entries : List LoggedEvent) :
    extendedDigests (extendEntries sha config pcr entries) =
      entries.map fun event => sha config.alg (utf8 event.line) := by
  induction entries with
  | nil => rfl
  | cons event entries ih =>
    rw [List.map_cons, ← ih]
    rfl

end Written

/-- The log a machine starts with is an INIT line, whatever its register holds. -/
theorem new_initialises (sha : Sha) (attester : Attester) (config : Config)
    (registers : Nat → List UInt8) :
    ∃ effects initState, newEventLog sha config ⟨none, registers⟩ = .ok effects ∧
      ((Machine.mk none registers).run attester effects).aael =
        (initialised registers config.alg initState).aael := by
  have even : ∃ bytes, config.alg.digestLen = 2 * bytes := by
    cases config.alg
    · exact ⟨16, rfl⟩
    · exact ⟨24, rfl⟩
    · exact ⟨32, rfl⟩
  obtain ⟨width, even⟩ := even
  refine ⟨_, List.replicate (width - (registers config.pcr).length) 0 ++ registers config.pcr, rfl, ?_⟩
  simp [Machine.run, extendInitEntry, Effect.apply, initialised, LogEntry.display, even,
    padLeft_hexEncode]

/-- A line is read for every newline in the entries, and one for each entry. -/
theorem lines_of_body_length (entries : List LoggedEvent) : (lines (body entries)).length =
    (entries.map fun event => event.line.count '\n').sum + entries.length := by
  induction entries with
  | nil => rfl
  | cons first entries ih =>
    rw [body_cons, lines_length, ih, List.map_cons, List.sum_cons, List.length_cons]
    omega

/-- Reading a body back gives its lines exactly where each is readable. -/
theorem lines_of_body_iff (entries : List LoggedEvent) :
    (lines (body entries)).map trimEnd = entries.map LoggedEvent.line ↔
      ∀ event ∈ entries, Readable event.line := by
  constructor
  · intro recovered event member
    constructor
    · have size := congrArg List.length recovered
      rw [List.length_map, List.length_map, lines_of_body_length] at size
      have none : (entries.map fun event => event.line.count '\n').sum = 0 := by omega
      have zero := List.sum_eq_zero_iff_forall_eq_nat.mp none _ (List.mem_map_of_mem member)
      exact List.count_eq_zero.mp zero
    · have among : event.line ∈ (lines (body entries)).map trimEnd := by
        rw [recovered]
        exact List.mem_map_of_mem member
      obtain ⟨line, _, trims⟩ := List.mem_map.mp among
      rw [← trims, trimEnd_idem]
  · intro readable
    have all : ∀ line ∈ entries.map LoggedEvent.line, Readable line := by
      intro line member
      obtain ⟨event, among, rfl⟩ := List.mem_map.mp member
      exact readable event among
    have flat : body entries = (entries.map LoggedEvent.line).flatMap (· ++ ['\n']) := by
      simp [body, List.flatMap_map]
    rw [flat, lines_of_events all]
    exact (List.map_congr_left fun line member => (all line member).2).trans (List.map_id' _)

section Separators

variable {event other : LoggedEvent}

theorem line_eq (event : LoggedEvent) :
    event.line = event.domain ++ ' ' :: (event.operation ++ ' ' :: event.content.text) := rfl

/-- Without spaces before the content, a line says what its fields are. -/
theorem line_inj (domain : ' ' ∉ event.domain) (domain' : ' ' ∉ other.domain)
    (operation : ' ' ∉ event.operation) (operation' : ' ' ∉ other.operation)
    (same : event.line = other.line) : event = other := by
  rw [line_eq, line_eq] at same
  obtain ⟨domains, rest⟩ := separated_inj domain domain' same
  obtain ⟨operations, contents⟩ := separated_inj operation operation' rest
  exact LoggedEvent.ext_fields domains operations contents

theorem line_spaces (event : LoggedEvent) : event.line.count ' ' =
    event.domain.count ' ' + event.operation.count ' ' + event.content.text.count ' ' + 2 := by
  rw [line_eq, List.count_append, List.count_cons_self, List.count_append, List.count_cons_self]
  omega

/-- The two spaces of a line are all it has exactly where no field holds one. -/
theorem spaceless_iff : event.Spaceless ↔ event.line.count ' ' = 2 := by
  rw [line_spaces]
  constructor
  · intro clean
    have domain := List.count_eq_zero.mpr clean.domain
    have operation := List.count_eq_zero.mpr clean.operation
    have content := List.count_eq_zero.mpr clean.content
    omega
  · intro two
    exact { domain := List.count_eq_zero.mp (by omega)
            operation := List.count_eq_zero.mp (by omega)
            content := List.count_eq_zero.mp (by omega) }

theorem body_spaces (entries : List LoggedEvent) : 2 * entries.length ≤ (body entries).count ' ' := by
  induction entries with
  | nil => exact Nat.le_refl 0
  | cons event entries ih =>
    have here := line_spaces event
    have newline : ('\n' : Char) ≠ ' ' := by decide
    rw [body_cons, List.count_append, List.count_cons_of_ne newline, List.length_cons]
    omega

/-- A space in a field can be taken for the separator of two fields. -/
theorem space_moves (spaced : ¬ event.Spaceless) : ∃ other, other.line = event.line ∧ other ≠ event := by
  by_cases domain : ' ' ∈ event.domain
  · obtain ⟨front, back, cut⟩ := List.append_of_mem domain
    refine ⟨⟨front, back ++ ' ' :: event.operation, event.content⟩, by simp [line_eq, cut], fun same => ?_⟩
    have shorter := congrArg (fun e => e.domain.length) same
    simp [cut] at shorter
  by_cases operation : ' ' ∈ event.operation
  · obtain ⟨front, back, cut⟩ := List.append_of_mem operation
    refine ⟨⟨event.domain ++ ' ' :: front, back, event.content⟩, by simp [line_eq, cut], fun same => ?_⟩
    have longer := congrArg (fun e => e.domain.length) same
    simp at longer
  by_cases content : ' ' ∈ event.content.text
  · obtain ⟨front, back, cut⟩ := List.append_of_mem content
    have clean : '\n' ∉ back := fun member => event.content.noNewline (by simp [cut, member])
    refine ⟨⟨event.domain ++ ' ' :: event.operation, front, ⟨back, clean⟩⟩, by simp [line_eq, cut],
      fun same => ?_⟩
    have longer := congrArg (fun e => e.domain.length) same
    simp at longer
  · exact absurd ⟨domain, operation, content⟩ spaced

/-- Two entries can be taken for one whose domain runs over the newline. -/
theorem entries_merge (event next : LoggedEvent) (rest : List LoggedEvent) :
    ∃ merged, body (merged :: rest) = body (event :: next :: rest) :=
  ⟨⟨event.line ++ '\n' :: next.domain, next.operation, next.content⟩, by simp [body_cons, line_eq]⟩

/-- The entries that no other list shares its text with. -/
theorem body_determined_iff (entries : List LoggedEvent) :
    (∀ others, body others = body entries → others = entries) ↔
      entries.length ≤ 1 ∧ ∀ event ∈ entries, event.Spaceless := by
  constructor
  · intro determined
    have short : entries.length ≤ 1 := by
      match entries, determined with
      | [], _ => exact Nat.zero_le 1
      | [_], _ => exact Nat.le_refl 1
      | event :: next :: rest, determined =>
        obtain ⟨merged, same⟩ := entries_merge event next rest
        have sizes := congrArg List.length (determined _ same)
        simp at sizes
    refine ⟨short, fun event member => ?_⟩
    have single := List.length_eq_one_iff.mp (Nat.le_antisymm short (List.length_pos_of_mem member))
    obtain ⟨only, rfl⟩ := single
    cases List.mem_singleton.mp member
    by_contra spaced
    obtain ⟨other, line, different⟩ := space_moves spaced
    have same := determined [other] (by simp [body_cons, line])
    exact different (List.singleton_inj.mp same)
  · rintro ⟨short, spaceless⟩ others same
    match entries, others, short with
    | [], [], _ => rfl
    | [], other :: others, _ => simp [body] at same
    | [event], [], _ => simp [body] at same
    | [event], [other], _ =>
      have lines := List.append_cancel_right (show other.line ++ ['\n'] = event.line ++ ['\n'] by
        simpa [body_cons, body] using same)
      have clean := spaceless event (by simp)
      have clean' : other.Spaceless := spaceless_iff.mpr (by rw [lines]; exact spaceless_iff.mp clean)
      rw [line_inj clean'.domain clean.domain clean'.operation clean.operation lines]
    | [event], first :: second :: others, _ =>
      -- two entries have four spaces, and one without spaces of its own has two
      have many := body_spaces (first :: second :: others)
      have two := spaceless_iff.mp (spaceless event (by simp))
      have newline : ('\n' : Char) ≠ ' ' := by decide
      rw [same, body_cons, List.count_append, List.count_cons_of_ne newline, two] at many
      simp [body] at many

/-- Lists whose domains and operations hold no separator have texts of their own. -/
theorem plain_inj {entries others : List LoggedEvent} (plain : ∀ event ∈ entries, event.Plain)
    (plain' : ∀ event ∈ others, event.Plain) (same : body others = body entries) :
    others = entries := by
  induction entries generalizing others with
  | nil =>
    cases others with
    | nil => rfl
    | cons other others => simp [body] at same
  | cons event entries ih =>
    cases others with
    | nil => simp [body] at same
    | cons other others =>
      have oneLine : ∀ event : LoggedEvent, event.Plain → '\n' ∉ event.line := by
        intro event clean
        simp [line_eq, clean.domainLine, clean.operationLine, event.content.noNewline]
      have clean := plain event (by simp)
      have clean' := plain' other (by simp)
      rw [body_cons, body_cons] at same
      obtain ⟨first, rest⟩ := separated_inj (oneLine other clean') (oneLine event clean) same
      have head := line_inj clean'.domainSpace clean.domainSpace clean'.operationSpace
        clean.operationSpace first
      have tail := ih (fun event member => plain event (by simp [member]))
        (fun event member => plain' event (by simp [member])) rest
      rw [head, tail]

end Separators

section RoundTrip

variable (sha : Sha) (attester : Attester) (config : Config) (registers : Nat → List UInt8)
  (alg : HashAlgorithm) (initState : List UInt8) (pcr : Nat)

/-- The machine after the entries were logged. -/
def logged (entries : List LoggedEvent) : Machine :=
  (initialised registers alg initState).run attester (extendEntries sha config pcr entries)

/-- The file is read back as the lines of the entries, in order, and what was
extended are the digests of the lines read. -/
def Recovered (entries : List LoggedEvent) : Prop :=
  ∃ log, (logged sha attester config registers alg initState pcr entries).parsed = some log ∧
    log.events = entries.map LoggedEvent.line ∧
    log.events.map (fun line => sha config.alg (utf8 line)) =
      extendedDigests (extendEntries sha config pcr entries)

/-- No other list of entries leaves the same file. -/
def Determined (entries : List LoggedEvent) : Prop :=
  ∀ others, (logged sha attester config registers alg initState pcr others).aael =
    (logged sha attester config registers alg initState pcr entries).aael → others = entries

theorem logged_file (entries : List LoggedEvent) :
    (logged sha attester config registers alg initState pcr entries).aael =
      some (initLine alg (hexEncode initState) ++ '\n' :: body entries) := by
  rw [logged, written_body sha attester config rfl]
  simp

theorem logged_file_inj (entries others : List LoggedEvent) :
    (logged sha attester config registers alg initState pcr others).aael =
        (logged sha attester config registers alg initState pcr entries).aael ↔
      body others = body entries := by
  rw [logged_file, logged_file, Option.some_inj, List.append_cancel_left_eq, List.cons_inj_right]

/-- The entries come back exactly where each makes a readable line. They are the
only ones with their file exactly where there is at most one and no field holds
a space; among lists without separators in domain and operation, always. -/
theorem event_log_round_trip (entries : List LoggedEvent) :
    (Recovered sha attester config registers alg initState pcr entries ↔
      ∀ event ∈ entries, Readable event.line) ∧
    (Determined sha attester config registers alg initState pcr entries ↔
      entries.length ≤ 1 ∧ ∀ event ∈ entries, event.Spaceless) ∧
    (∀ others, (∀ event ∈ entries ++ others, event.Plain) →
      (logged sha attester config registers alg initState pcr others).aael =
        (logged sha attester config registers alg initState pcr entries).aael → others = entries) := by
  have parsed : (logged sha attester config registers alg initState pcr entries).parsed =
      some ⟨alg, initState, (lines (body entries)).map trimEnd⟩ := by
    simp [Machine.parsed, logged_file, fromStr_initLine, Except.toOption]
  refine ⟨?_, ?_, ?_⟩
  · rw [← lines_of_body_iff]
    constructor
    · rintro ⟨log, read, events, _⟩
      cases parsed.symm.trans read
      exact events
    · intro recovered
      exact ⟨_, parsed, recovered, by simp [recovered, extended_digests]⟩
  · simp only [Determined, logged_file_inj, body_determined_iff]
  · intro others plain same
    rw [logged_file_inj] at same
    exact plain_inj (fun event member => plain event (by simp [member]))
      (fun event member => plain event (by simp [member])) same

end RoundTrip

/-- One entry with a newline in its domain, and two readings of one line. -/
def brokenDomain : LoggedEvent := ⟨"a\nb".toList, "c".toList, ⟨"d".toList, by decide⟩⟩

def longDomain : LoggedEvent := ⟨"a b".toList, "c".toList, ⟨"d".toList, by decide⟩⟩

def longOperation : LoggedEvent := ⟨"a".toList, "b c".toList, ⟨"d".toList, by decide⟩⟩

/-- A SHA-256 agent with a fresh log, after these entries. -/
def bankLogged (entries : List LoggedEvent) : Machine :=
  logged sha2 bank bankConfig blankAgent.machine.registers .sha256 (List.replicate 32 0) 17 entries

/-- The entry with the newline comes back as two lines, and the other two give
the same file. -/
theorem newline_not_recovered :
    ¬ Recovered sha2 bank bankConfig blankAgent.machine.registers .sha256 (List.replicate 32 0) 17
        [brokenDomain] ∧
      (bankLogged [longDomain]).aael = (bankLogged [longOperation]).aael ∧
      [longDomain] ≠ [longOperation] := by
  refine ⟨?_, by decide +kernel, fun same => ?_⟩
  · rintro ⟨log, read, events, _⟩
    have two : (bankLogged [brokenDomain]).parsed.map (fun log => log.events.length) = some 2 := by
      decide +kernel
    rw [show (bankLogged [brokenDomain]).parsed = some log from read] at two
    simp [events] at two
  · have domains : longDomain.domain ≠ longOperation.domain := by decide
    exact domains (congrArg LoggedEvent.domain (List.singleton_inj.mp same))

end GuestComponents.EventLog
