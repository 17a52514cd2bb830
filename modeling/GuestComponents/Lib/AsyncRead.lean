import Mathlib.Data.List.Basic

/-! Reading with polls. A reader is asked with a buffer that may hold something already, and answers
that it is pending, that it failed, or what it put behind that. `ByteStream` is the contract of a reader of
one stream, whatever it answers when. Who reads is a machine that polls until it has a value
(`drive`); what it reads is what it was served, poll by poll (`drive_reads`), and a stream that
served its end has been served whole (`ByteStream.served_whole`). -/
namespace GuestComponents.Lib.Async

/-- A buffer: what is in it, and the room behind that. -/
structure ReadBuf where
  filled : List UInt8
  room : Nat
  deriving DecidableEq

inductive Poll (α : Type) where
  | pending
  | ready (value : α)
  deriving DecidableEq

class AsyncRead (R : Type) (ε : outParam Type) where
  pollRead : R → ReadBuf → Poll (Except ε Unit) × ReadBuf × R

export AsyncRead (pollRead)

/-- One poll, as the one who polls sees it. -/
structure Exchange (ε : Type) where
  before : ReadBuf
  answer : Poll (Except ε Unit)
  after : ReadBuf

namespace Exchange

variable {ε : Type} (exchange : Exchange ε)

/-- What was put behind the content of the buffer. -/
def data : List UInt8 := exchange.after.filled.drop exchange.before.filled.length

/-- Only a reader that is ready puts something into the buffer, and only behind its content. -/
def Lawful : Prop :=
  match exchange.answer with
  | .ready (.ok _) => exchange.data.length ≤ exchange.before.room ∧
      exchange.after = ⟨exchange.before.filled ++ exchange.data, exchange.before.room - exchange.data.length⟩
  | _ => exchange.after = exchange.before

/-- There was room, and nothing came. -/
def AtEnd : Prop := exchange.answer = .ready (.ok ()) ∧ exchange.before.room ≠ 0 ∧ exchange.data = []

end Exchange

section Readers

variable {R ε : Type} [AsyncRead R ε]

/-- The poll of a reader with a buffer. -/
def exchange (reader : R) (buf : ReadBuf) : Exchange ε where
  before := buf
  answer := (pollRead reader buf).1
  after := (pollRead reader buf).2.1

/-- The reader after the poll. -/
def afterPoll (reader : R) (buf : ReadBuf) : R := (pollRead reader buf).2.2

/-- A reader of one byte stream: what it still has to deliver, which comes in order, none of it
lost and none twice, and nothing comes into a buffer with room only at the end. -/
structure ByteStream (R : Type) {ε : Type} [AsyncRead R ε] where
  content : R → List UInt8
  lawful : ∀ (reader : R) (buf : ReadBuf), (exchange reader buf).Lawful
  delivers : ∀ (reader : R) (buf : ReadBuf),
    content reader = (exchange reader buf).data ++ content (afterPoll reader buf)
  ends : ∀ (reader : R) (buf : ReadBuf), (exchange reader buf).AtEnd → content reader = []

/-- The polls that a reader answers, one after the other. -/
inductive Serves : R → List (Exchange ε) → R → Prop where
  | nil (reader : R) : Serves reader [] reader
  | cons {reader final : R} {log : List (Exchange ε)} (buf : ReadBuf) :
      Serves (afterPoll reader buf) log final → Serves reader (exchange reader buf :: log) final

/-- What was served. -/
def delivered (log : List (Exchange ε)) : List UInt8 := (log.map Exchange.data).flatten

variable {reader middle final : R} {log more : List (Exchange ε)}

theorem Serves.append (first : Serves reader log middle) (second : Serves middle more final) :
    Serves reader (log ++ more) final := by
  induction first with
  | nil => exact second
  | cons buf _ ih => exact .cons buf (ih second)

theorem ByteStream.lawful_log (stream : ByteStream R) (serves : Serves reader log final) :
    ∀ exchange ∈ log, exchange.Lawful := by
  induction serves with
  | nil => exact nofun
  | cons buf _ ih => exact List.forall_mem_cons.mpr ⟨stream.lawful _ buf, ih⟩

variable (stream : ByteStream R)

theorem ByteStream.served (serves : Serves reader log final) :
    stream.content reader = delivered log ++ stream.content final := by
  induction serves with
  | nil => rfl
  | cons buf _ ih =>
    rw [stream.delivers _ buf, ih, ← List.append_assoc]
    rfl

/-- Behind its end there is nothing of a stream. -/
theorem ByteStream.served_end (serves : Serves reader log final) {last : Exchange ε} (within : last ∈ log)
    (ended : last.AtEnd) : stream.content final = [] := by
  induction serves with
  | nil => cases within
  | cons buf rest ih =>
    rcases List.mem_cons.mp within with rfl | later
    · have empty := stream.ends _ buf ended
      rw [stream.delivers _ buf, stream.served rest] at empty
      exact (List.append_eq_nil_iff.mp (List.append_eq_nil_iff.mp empty).2).2
    · exact ih later

/-- A stream that served its end has been served whole. -/
theorem ByteStream.served_whole (serves : Serves reader log final) {last : Exchange ε} (within : last ∈ log)
    (ended : last.AtEnd) : delivered log = stream.content reader := by
  rw [stream.served serves, stream.served_end serves within ended, List.append_nil]

end Readers

section Schedules

variable {ε : Type}

/-- What a reader does when it is polled. -/
inductive Turn (ε : Type) where
  | waits
  | fails (error : ε)
  /-- It puts no more bytes than this and one into the buffer. -/
  | puts (more : Nat)

/-- A reader of this text that follows a schedule, and delivers all it can afterwards. -/
structure Scheduled (ε : Type) where
  remaining : List UInt8
  turns : List (Turn ε)

/-- As many bytes as there is room for, up to this number. -/
def Scheduled.put (remaining : List UInt8) (turns : List (Turn ε)) (most : Nat) (buf : ReadBuf) :
    Poll (Except ε Unit) × ReadBuf × Scheduled ε :=
  let data := remaining.take (min most buf.room)
  (.ready (.ok ()), ⟨buf.filled ++ data, buf.room - data.length⟩, ⟨remaining.drop (min most buf.room), turns⟩)

instance : AsyncRead (Scheduled ε) ε where
  pollRead reader buf :=
    match reader.turns with
    | [] => Scheduled.put reader.remaining [] (reader.remaining.length + 1) buf
    | .waits :: turns => (.pending, buf, ⟨reader.remaining, turns⟩)
    | .fails error :: turns => (.ready (.error error), buf, ⟨reader.remaining, turns⟩)
    | .puts more :: turns => Scheduled.put reader.remaining turns (more + 1) buf

/-- A turn leaves the buffer and the text alone, or moves bytes from the text to the buffer. -/
theorem Scheduled.poll_cases (reader : Scheduled ε) (buf : ReadBuf) :
    ((exchange reader buf).answer ≠ .ready (.ok ()) ∧ (exchange reader buf).after = buf ∧
      (afterPoll reader buf).remaining = reader.remaining) ∨
    ∃ turns most, 0 < most ∧ pollRead reader buf = Scheduled.put reader.remaining turns most buf := by
  obtain ⟨remaining, turns⟩ := reader
  cases turns with
  | nil => exact .inr ⟨[], remaining.length + 1, Nat.succ_pos _, rfl⟩
  | cons turn turns =>
    cases turn with
    | waits => exact .inl ⟨nofun, rfl, rfl⟩
    | fails error => exact .inl ⟨nofun, rfl, rfl⟩
    | puts more => exact .inr ⟨turns, more + 1, Nat.succ_pos _, rfl⟩

theorem Exchange.data_unchanged {exchange : Exchange ε} (same : exchange.after = exchange.before) :
    exchange.data = [] := by
  rw [Exchange.data, same]
  exact List.drop_length

theorem Scheduled.data_put {reader : Scheduled ε} {buf : ReadBuf} {turns : List (Turn ε)} {most : Nat}
    (puts : pollRead reader buf = Scheduled.put reader.remaining turns most buf) :
    (exchange reader buf).data = reader.remaining.take (min most buf.room) := by
  rw [Exchange.data, exchange, puts]
  exact List.drop_left

/-- Whatever the schedule, the text is what is read. -/
def Scheduled.stream : ByteStream (Scheduled ε) where
  content := Scheduled.remaining
  lawful reader buf := by
    rcases reader.poll_cases buf with ⟨other, same, _⟩ | ⟨turns, most, _, puts⟩
    · rw [Exchange.Lawful]
      split
      · rename_i answer ready
        exact absurd ready other
      · exact same
    · have data := Scheduled.data_put puts
      have answer : (exchange reader buf).answer = .ready (.ok ()) := by
        rw [exchange, puts]
        rfl
      rw [Exchange.Lawful, answer]
      constructor
      · rw [data, List.length_take]
        exact Nat.le_trans (Nat.min_le_left _ _) (Nat.min_le_right _ _)
      · rw [data, exchange, puts]
        rfl
  delivers reader buf := by
    rcases reader.poll_cases buf with ⟨_, same, stays⟩ | ⟨turns, most, _, puts⟩
    · rw [Exchange.data_unchanged same, stays, List.nil_append]
    · rw [Scheduled.data_put puts, afterPoll, puts]
      exact (List.take_append_drop _ _).symm
  ends reader buf ended := by
    obtain ⟨ready, room, empty⟩ := ended
    rcases reader.poll_cases buf with ⟨other, _, _⟩ | ⟨turns, most, positive, puts⟩
    · exact absurd ready other
    · rw [Scheduled.data_put puts, List.take_eq_nil_iff] at empty
      have some_ : min most buf.room ≠ 0 := by
        have positive' : 0 < buf.room := Nat.pos_of_ne_zero room
        omega
      exact empty.resolve_left some_

end Schedules

section Driving

/-- What a machine that reads does next: it polls with a buffer, or has a value. -/
inductive Stage (σ ε α : Type) where
  | poll (buf : ReadBuf) (resume : Poll (Except ε Unit) → ReadBuf → σ)
  | done (value : α) (next : σ)

variable {σ ε α R : Type}

/-- The polls of a machine, with any answers to them. -/
inductive Reads (stage : σ → Stage σ ε α) : σ → List (Exchange ε) → σ → Prop where
  | nil (state : σ) : Reads stage state [] state
  | cons {state final : σ} {log : List (Exchange ε)} {resume : Poll (Except ε Unit) → ReadBuf → σ}
      (exchange : Exchange ε) : stage state = .poll exchange.before resume →
      Reads stage (resume exchange.answer exchange.after) log final → Reads stage state (exchange :: log) final

/-- The machine is driven, with the reader's answers, until it has a value. There may be more polls than `fuel`
before it has. -/
def drive [AsyncRead R ε] (stage : σ → Stage σ ε α) : Nat → σ → R → Option (α × σ × R)
  | 0, _, _ => none
  | fuel + 1, state, reader =>
    match stage state with
    | .done value next => some (value, next, reader)
    | .poll buf resume =>
      let (answer, buf, reader) := pollRead reader buf
      drive stage fuel (resume answer buf) reader

/-- A machine that is driven to a value has read what the reader served. -/
theorem drive_reads [AsyncRead R ε] {stage : σ → Stage σ ε α} {fuel : Nat} {state next : σ} {reader final : R}
    {value : α} (driven : drive stage fuel state reader = some (value, next, final)) :
    ∃ log last, Reads stage state log last ∧ stage last = .done value next ∧ Serves reader log final := by
  induction fuel generalizing state reader with
  | zero => cases driven
  | succ fuel ih =>
    rw [drive] at driven
    cases shape : stage state with
    | done result after =>
      rw [shape] at driven
      cases driven
      exact ⟨[], state, .nil state, shape, .nil final⟩
    | poll buf resume =>
      rw [shape] at driven
      obtain ⟨log, last, reads, ended, serves⟩ := ih driven
      exact ⟨exchange reader buf :: log, last, .cons (exchange reader buf) shape reads, ended, .cons buf serves⟩

end Driving

end GuestComponents.Lib.Async
