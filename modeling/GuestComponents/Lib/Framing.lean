import Mathlib.Data.List.Basic
import GuestComponents.Lib.AllOrNothing

/-! Items that are sent one after the other as frames on a stream. A stream arrives in chunks of any
sizes, and `Incoming.readExact_of_le` says what reading so many elements of it does, whatever the chunks
are. A reader that accepts exactly the frames of items (`Reads`) stays aligned on every stream
(`Reads.aligned`), and reads back what a writer of these frames has written (`Reads.carried`), also
where the writer stops in the middle of a frame. -/
namespace GuestComponents.Lib

/-- What is still to come of a stream: the chunks that it arrives in, and the error that ends it, if
it does not just end. -/
structure Incoming (β : Type) where
  chunks : List (List β)
  failure : Option String
  nonempty : ∀ chunk ∈ chunks, chunk ≠ []

namespace Incoming

variable {β : Type} {n : Nat} {chunks : List (List β)} {incoming : Incoming β}

def bytes (incoming : Incoming β) : List β := incoming.chunks.flatten

/-- The loop of `read_exact`: each read takes what a chunk has, up to what is still missing. -/
def take : Nat → List (List β) → Option (List β × List (List β))
  | 0, chunks => some ([], chunks)
  | _ + 1, [] => none
  | n + 1, chunk :: chunks =>
    if n + 1 < chunk.length then some (chunk.take (n + 1), chunk.drop (n + 1) :: chunks)
    else (take (n + 1 - chunk.length) chunks).map fun read => (chunk ++ read.1, read.2)

theorem take_nonempty {read : List β × List (List β)} (nonempty : ∀ chunk ∈ chunks, chunk ≠ [])
    (ran : take n chunks = some read) : ∀ chunk ∈ read.2, chunk ≠ [] := by
  induction chunks generalizing n read with
  | nil =>
    cases n with
    | zero =>
      cases ran
      exact nonempty
    | succ n => cases ran
  | cons chunk chunks ih =>
    obtain ⟨first, later⟩ := List.forall_mem_cons.mp nonempty
    cases n with
    | zero =>
      cases ran
      exact nonempty
    | succ n =>
      rw [take] at ran
      split at ran
      · rename_i longer
        cases ran
        refine List.forall_mem_cons.mpr ⟨?_, later⟩
        intro none
        rw [List.drop_eq_nil_iff] at none
        omega
      · obtain ⟨rest, within, rfl⟩ := Option.map_eq_some_iff.mp ran
        exact fun other listed => ih later within other listed

/-- What is taken are the next bytes, whatever the chunks. -/
theorem take_of_le (enough : n ≤ chunks.flatten.length) :
    ∃ rest, take n chunks = some (chunks.flatten.take n, rest) ∧ rest.flatten = chunks.flatten.drop n := by
  induction chunks generalizing n with
  | nil =>
    obtain rfl := Nat.le_zero.mp enough
    exact ⟨[], rfl, rfl⟩
  | cons chunk chunks ih =>
    cases n with
    | zero => exact ⟨chunk :: chunks, rfl, rfl⟩
    | succ n =>
      rw [List.flatten_cons] at enough ⊢
      rw [take]
      split
      · rename_i longer
        refine ⟨chunk.drop (n + 1) :: chunks, ?_, ?_⟩
        · rw [List.take_append_of_le_length (Nat.le_of_lt longer)]
        · rw [List.flatten_cons, List.drop_append_of_le_length (Nat.le_of_lt longer)]
      · rename_i whole
        rw [List.length_append] at enough
        obtain ⟨rest, ran, remains⟩ := ih (n := n + 1 - chunk.length) (by omega)
        refine ⟨rest, ?_, ?_⟩
        · rw [ran, Option.map_some, List.take_append, List.take_of_length_le (Nat.le_of_not_lt whole)]
        · rw [remains, List.drop_append, List.drop_of_length_le (Nat.le_of_not_lt whole), List.nil_append]

theorem take_of_lt (short : chunks.flatten.length < n) : take n chunks = none := by
  induction chunks generalizing n with
  | nil =>
    cases n with
    | zero => exact absurd short (Nat.not_lt_zero _)
    | succ n => rfl
  | cons chunk chunks ih =>
    cases n with
    | zero => exact absurd short (Nat.not_lt_zero _)
    | succ n =>
      rw [List.flatten_cons, List.length_append] at short
      rw [take, if_neg (by omega), ih (by omega)]
      rfl

/-- `read_exact`. -/
def readExact (n : Nat) (incoming : Incoming β) : Except String (List β) × Incoming β :=
  match ran : take n incoming.chunks with
  | some read => (.ok read.1, ⟨read.2, incoming.failure, take_nonempty incoming.nonempty ran⟩)
  | none => (.error (incoming.failure.getD "early eof"), ⟨[], incoming.failure, nofun⟩)

theorem readExact_of_le (enough : n ≤ incoming.bytes.length) :
    ∃ rest, incoming.readExact n = (.ok (incoming.bytes.take n), rest) ∧ rest.bytes = incoming.bytes.drop n := by
  obtain ⟨rest, ran, remains⟩ := take_of_le enough
  rw [readExact]
  split
  · rename_i read found
    rw [ran] at found
    cases found
    exact ⟨_, rfl, remains⟩
  · rename_i missing
    rw [ran] at missing
    cases missing

theorem readExact_of_lt (short : incoming.bytes.length < n) :
    ∃ error rest, incoming.readExact n = (.error error, rest) := by
  have ran := take_of_lt short
  rw [readExact]
  split
  · rename_i read found
    rw [ran] at found
    cases found
  · exact ⟨_, _, rfl⟩

/-- A stream of these bytes, in one chunk. -/
def ofBytes : List β → Incoming β
  | [] => ⟨[], none, nofun⟩
  | byte :: bytes => ⟨[byte :: bytes], none, by simp⟩

@[simp] theorem bytes_ofBytes (bytes : List β) : (ofBytes bytes).bytes = bytes := by
  cases bytes <;> simp [ofBytes, Incoming.bytes]

end Incoming

section Sessions

variable {World World' ε ε' ι α β : Type}

/-- So many reads of items in a row. An error ends them, as `?` does. -/
def session (read : Action World ε α) : Nat → World → List α × World
  | 0, world => ([], world)
  | n + 1, world =>
    match read world with
    | (.error _, after) => ([], after)
    | (.ok item, after) =>
      let rest := session read n after
      (item :: rest.1, rest.2)

/-- The items that are written one after the other, up to the first error. -/
def writeSession (write : ι → Action World ε Unit) : List ι → World → List ι × World
  | [], world => ([], world)
  | item :: items, world =>
    match write item world with
    | (.error _, after) => ([], after)
    | (.ok (), after) =>
      let rest := writeSession write items after
      (item :: rest.1, rest.2)

/-- The read accepts exactly the frames of valid items, and takes nothing else off the stream. -/
structure Reads (bytes : World → List β) (encode : α → List β) (valid : α → Prop)
    (read : Action World ε α) : Prop where
  accepts : ∀ world item rest, valid item → bytes world = encode item ++ rest →
    ∃ after, read world = (.ok item, after) ∧ bytes after = rest
  sound : ∀ world item after, read world = (.ok item, after) →
    valid item ∧ bytes world = encode item ++ bytes after
  any : ∀ stream : List β, ∃ world, bytes world = stream
  nonempty : ∀ item, encode item ≠ []

/-- The write adds the frame of a valid item, or fails after a part of one. What it is given names
the item, and may say more, such as where the write fails. -/
structure Writes (sent : World → List β) (encode : α → List β) (valid : α → Prop) (item : ι → α)
    (write : ι → Action World ε Unit) : Prop where
  ok : ∀ world given after, write given world = (.ok (), after) →
    valid (item given) ∧ sent after = sent world ++ encode (item given)
  error : ∀ world given error after, write given world = (.error error, after) → ∃ part,
    sent after = sent world ++ part ∧
    (part = [] ∨ valid (item given) ∧ part <+: encode (item given) ∧ part ≠ encode (item given))

variable {bytes : World → List β} {encode : α → List β} {valid : α → Prop} {read : Action World ε α}

/-- No item can be read of this. -/
def Unreadable (bytes : World → List β) (read : Action World ε α) (stream : List β) : Prop :=
  ∀ world item after, bytes world = stream → read world ≠ (.ok item, after)

/-- Part of a frame is not read as another one. -/
theorem Reads.unreadable_of_prefix (reads : Reads bytes encode valid read) {item : α} {part : List β}
    (good : valid item)
    (starts : part <+: encode item) (cut : part ≠ encode item) : Unreadable bytes read part := by
  rintro world other after same ran
  obtain ⟨good', taken⟩ := reads.sound world other after ran
  obtain ⟨missing, whole⟩ := starts
  rw [same] at taken
  -- With what is missing of the frame, the other item is read with too much behind it.
  obtain ⟨world', full⟩ := reads.any (encode item)
  obtain ⟨after', ran', rest⟩ := reads.accepts world' item [] good (by rw [full, List.append_nil])
  have longer : bytes world' = encode other ++ (bytes after ++ missing) := by
    rw [full, ← whole, taken, List.append_assoc]
  obtain ⟨after'', ran'', rest'⟩ := reads.accepts world' other _ good' longer
  rw [ran'] at ran''
  cases ran''
  rw [rest] at rest'
  have none : missing = [] := (List.append_eq_nil_iff.mp rest'.symm).2
  rw [none, List.append_nil] at whole
  exact cut whole

theorem Reads.unreadable_nil (reads : Reads bytes encode valid read) : Unreadable bytes read [] := by
  rintro world item after same ran
  have taken := (reads.sound world item after ran).2
  rw [same] at taken
  exact reads.nonempty item (List.append_eq_nil_iff.mp taken.symm).1

/-- What is accepted of a stream, whatever it is, are the frames that it starts with. -/
theorem Reads.aligned (reads : Reads bytes encode valid read) (n : Nat) (world : World) :
    (∀ item ∈ (session read n world).1, valid item) ∧
      ∃ rest, bytes world = (session read n world).1.flatMap encode ++ rest := by
  induction n generalizing world with
  | zero => exact ⟨fun item listed => absurd listed List.not_mem_nil, bytes world, rfl⟩
  | succ n ih =>
    rw [session]
    rcases ran : read world with ⟨error | item, after⟩
    · exact ⟨fun item listed => absurd listed List.not_mem_nil, bytes world, rfl⟩
    · obtain ⟨good, taken⟩ := reads.sound world item after ran
      obtain ⟨others, rest, remains⟩ := ih after
      refine ⟨List.forall_mem_cons.mpr ⟨good, others⟩, rest, ?_⟩
      rw [taken, remains, List.flatMap_cons, List.append_assoc]

/-- Frames of items, and nothing that can be read behind them. -/
theorem Reads.session_eq (reads : Reads bytes encode valid read) {items : List α} {tail : List β}
    (good : ∀ item ∈ items, valid item) (ends : Unreadable bytes read tail) (n : Nat) (world : World)
    (same : bytes world = items.flatMap encode ++ tail) : (session read n world).1 = items.take n := by
  induction n generalizing items world with
  | zero => rfl
  | succ n ih =>
    rw [session]
    cases items with
    | nil =>
      rcases ran : read world with ⟨error | item, after⟩
      · rfl
      · exact absurd ran (ends world item after same)
    | cons item items =>
      obtain ⟨first, others⟩ := List.forall_mem_cons.mp good
      rw [List.flatMap_cons, List.append_assoc] at same
      obtain ⟨after, ran, rest⟩ := reads.accepts world item _ first same
      rw [ran, List.take_succ_cons]
      exact congrArg (item :: ·) (ih others after rest)

variable {sent : World' → List β} {item : ι → α} {write : ι → Action World' ε' Unit}

/-- What a session of writes leaves on the wire: the frames of what was written, and at most a part of another frame. -/
theorem Writes.session_sent (writes : Writes sent encode valid item write) (given : List ι) (world : World') :
    (∀ one ∈ (writeSession write given world).1.map item, valid one) ∧
      ∃ part, sent (writeSession write given world).2 =
          sent world ++ ((writeSession write given world).1.map item).flatMap encode ++ part ∧
        (part = [] ∨ ∃ one, valid one ∧ part <+: encode one ∧ part ≠ encode one) := by
  induction given generalizing world with
  | nil => exact ⟨fun one listed => absurd listed List.not_mem_nil, [], by simp [writeSession], .inl rfl⟩
  | cons first given ih =>
    rw [writeSession]
    rcases ran : write first world with ⟨error | done, after⟩
    · obtain ⟨part, added, kind⟩ := writes.error world first error after ran
      refine ⟨fun one listed => absurd listed List.not_mem_nil, part, ?_, ?_⟩
      · rw [added, List.map_nil, List.flatMap_nil, List.append_nil]
      · rcases kind with none | cut
        · exact .inl none
        · exact .inr ⟨item first, cut⟩
    · obtain ⟨good, added⟩ := writes.ok world first after ran
      obtain ⟨others, part, sends, kind⟩ := ih after
      refine ⟨?_, part, ?_, kind⟩
      · rw [List.map_cons]
        exact List.forall_mem_cons.mpr ⟨good, others⟩
      · rw [sends, added, List.map_cons, List.flatMap_cons]
        simp only [List.append_assoc]

/-- What one side has written is what the other side reads. -/
theorem Reads.carried (reads : Reads bytes encode valid read) (writes : Writes sent encode valid item write)
    (given : List ι)
    (n : Nat) {writer : World'} {reader : World} (fresh : sent writer = [])
    (arrives : bytes reader = sent (writeSession write given writer).2) :
    (session read n reader).1 = ((writeSession write given writer).1.map item).take n := by
  obtain ⟨good, part, sends, kind⟩ := writes.session_sent given writer
  rw [sends, fresh, List.nil_append] at arrives
  refine reads.session_eq good ?_ n reader arrives
  rcases kind with rfl | ⟨one, valid', starts, cut⟩
  · exact reads.unreadable_nil
  · exact reads.unreadable_of_prefix valid' starts cut

/-- Writes that all succeed. -/
theorem writeSession_ok {given : List ι}
    (succeeds : ∀ one ∈ given, ∀ world, ∃ after, write one world = (.ok (), after))
    (world : World') : (writeSession write given world).1 = given := by
  induction given generalizing world with
  | nil => rfl
  | cons first given ih =>
    obtain ⟨here, later⟩ := List.forall_mem_cons.mp succeeds
    obtain ⟨after, ran⟩ := here world
    rw [writeSession, ran]
    exact congrArg (first :: ·) (ih later after)

end Sessions

end GuestComponents.Lib
