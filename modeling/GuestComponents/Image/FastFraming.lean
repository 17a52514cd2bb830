import GuestComponents.Image.VsockClient
import GuestComponents.Lib.Framing

/-! The frames of the fast vsock protocol, as the client and the server write and read them: four bytes
of length and the payload, and before a reply the byte of its status. Both sides end a connection at
the first error. However the bytes arrive, what one side has written is what the other side reads
(`fast_framing_round_trip`). -/
namespace GuestComponents.Image.FastFraming
open Lib Lib.Text VsockClient

/-- One end of a connection, with the sizes of the buffers that were allocated for it. -/
structure Endpoint where
  incoming : Incoming UInt8
  sent : List UInt8
  allocated : List Nat

abbrev EndpointAction := Action Endpoint String

def readExact (n : Nat) : EndpointAction (List UInt8) :=
  Action.zoom Endpoint.incoming (fun endpoint incoming => { endpoint with incoming := incoming }) (Incoming.readExact n)

/-- `Vec::with_capacity`, or `vec!`. -/
def allocate (size : Nat) : EndpointAction Unit :=
  fun endpoint => (.ok (), { endpoint with allocated := size :: endpoint.allocated })

/-- Where a write fails, and how. -/
abbrev Cut := Option (Nat × String)

/-- `write_all`. -/
def writeAll (cut : Cut) (bytes : List UInt8) : EndpointAction Unit := fun endpoint =>
  match cut with
  | some (moved, error) =>
    if moved < bytes.length then (.error error, { endpoint with sent := endpoint.sent ++ bytes.take moved })
    else (.ok (), { endpoint with sent := endpoint.sent ++ bytes })
  | none => (.ok (), { endpoint with sent := endpoint.sent ++ bytes })

/-- The check of a length, which every reader and writer makes first. -/
def checkLength (what : String) (length : Nat) : EndpointAction Unit :=
  if fastMaxMessageSize < length then
    Action.fail s!"fast image-share {what} too large: {length} > {fastMaxMessageSize}"
  else pure ()

def writeFrame (cut : Cut) (payload : List UInt8) : EndpointAction Unit := do
  checkLength "payload" payload.length
  allocate (4 + payload.length)
  writeAll cut (Crypto.toBeBytes payload.length ++ payload)

def readStatus : EndpointAction UInt8 := do
  let status ← readExact 1
  pure (status.headD 0)

/-- The readers of both sides, which differ in a word of their error. -/
def readLimited (what : String) : EndpointAction (List UInt8) := do
  let lenBuf ← readExact 4
  let len := fromBeBytes lenBuf
  checkLength what len
  allocate len
  readExact len

def readFrame : EndpointAction (List UInt8) := readLimited "response"

def readFastFrame : EndpointAction (List UInt8) := readLimited "request"

def writeFastStatusAndFrame (cut : Cut) (status : UInt8) (payload : List UInt8) : EndpointAction Unit := do
  checkLength "response" payload.length
  allocate (1 + 4 + payload.length)
  writeAll cut (status :: (Crypto.toBeBytes payload.length ++ payload))

/-- A reply, as `prepare_rootfs_fast_exchange` reads it. -/
def readReply : EndpointAction (UInt8 × List UInt8) := do
  let status ← readStatus
  let body ← readFrame
  pure (status, body)

section Bytes

/-- What comes in at an end, and what is a frame of it. -/
def Endpoint.bytes (endpoint : Endpoint) : List UInt8 := endpoint.incoming.bytes

def frame (payload : List UInt8) : List UInt8 := Crypto.toBeBytes payload.length ++ payload

def replyFrame (reply : UInt8 × List UInt8) : List UInt8 := reply.1 :: frame reply.2

def Fits (payload : List UInt8) : Prop := payload.length ≤ fastMaxMessageSize

variable {n : Nat} {endpoint after : Endpoint} {payload header : List UInt8} {what : String} {cut : Cut}

theorem fromBeBytes_toBeBytes (small : n < 2 ^ 32) : fromBeBytes (Crypto.toBeBytes n) = n := by
  simp only [fromBeBytes, Crypto.toBeBytes, List.foldl_cons, List.foldl_nil, UInt8.toNat_ofNat']
  omega

theorem toBeBytes_fromBeBytes (four : header.length = 4) : Crypto.toBeBytes (fromBeBytes header) = header := by
  obtain ⟨a, b, c, d, rfl⟩ := List.length_eq_four.mp four
  have := a.toNat_lt
  have := b.toNat_lt
  have := c.toNat_lt
  have := d.toNat_lt
  simp only [fromBeBytes, Crypto.toBeBytes, List.foldl_cons, List.foldl_nil, List.cons.injEq, and_true,
    ← UInt8.toNat_inj, UInt8.toNat_ofNat']
  refine ⟨?_, ?_, ?_, ?_⟩ <;> omega

theorem readExact_ok (enough : n ≤ endpoint.bytes.length) :
    ∃ incoming, readExact n endpoint = (.ok (endpoint.bytes.take n), { endpoint with incoming := incoming }) ∧
      incoming.bytes = endpoint.bytes.drop n := by
  obtain ⟨incoming, ran, remains⟩ := Incoming.readExact_of_le enough
  exact ⟨incoming, Action.zoom_eq ran, remains⟩

theorem readExact_short (short : endpoint.bytes.length < n) :
    ∃ error incoming, readExact n endpoint = (.error error, { endpoint with incoming := incoming }) := by
  obtain ⟨error, incoming, ran⟩ := Incoming.readExact_of_lt short
  exact ⟨error, incoming, Action.zoom_eq ran⟩

/-- What is read are the next bytes. -/
theorem readExact_eq_ok {bytes : List UInt8} (ran : readExact n endpoint = (.ok bytes, after)) :
    bytes.length = n ∧ endpoint.bytes = bytes ++ after.bytes ∧ after.allocated = endpoint.allocated := by
  by_cases enough : n ≤ endpoint.bytes.length
  · obtain ⟨incoming, read, remains⟩ := readExact_ok enough
    rw [read] at ran
    cases ran
    refine ⟨List.length_take_of_le enough, ?_, rfl⟩
    change endpoint.bytes = _ ++ incoming.bytes
    rw [remains, List.take_append_drop]
  · obtain ⟨error, incoming, read⟩ := readExact_short (Nat.lt_of_not_le enough)
    rw [read] at ran
    cases ran

theorem checkLength_fits (fits : n ≤ fastMaxMessageSize) : checkLength what n = pure () :=
  if_neg (Nat.not_lt_of_le fits)

theorem checkLength_refused (large : fastMaxMessageSize < n) :
    ∃ error, checkLength what n endpoint = (.error error, endpoint) := by
  rw [checkLength, if_pos large]
  exact ⟨_, rfl⟩

theorem checkLength_ok (ran : checkLength what n endpoint = (.ok (), after)) :
    n ≤ fastMaxMessageSize ∧ after = endpoint := by
  by_cases large : fastMaxMessageSize < n
  · obtain ⟨error, refused⟩ := @checkLength_refused n endpoint what large
    rw [refused] at ran
    cases ran
  · have fits := Nat.le_of_not_lt large
    rw [checkLength_fits fits] at ran
    cases ran
    exact ⟨fits, rfl⟩

theorem Fits.small (fits : Fits payload) : payload.length < 2 ^ 32 :=
  Nat.lt_of_le_of_lt fits (by decide)

end Bytes

section Readers

variable {endpoint after : Endpoint} {payload : List UInt8} {what : String}

/-- A frame is read, however it arrives. -/
theorem readLimited_accepts {rest : List UInt8} (fits : Fits payload)
    (arrives : endpoint.bytes = frame payload ++ rest) :
    ∃ after, readLimited what endpoint = (.ok payload, after) ∧ after.bytes = rest := by
  have four : (Crypto.toBeBytes payload.length).length = 4 := rfl
  rw [frame, List.append_assoc] at arrives
  obtain ⟨incoming, header, remains⟩ := @readExact_ok 4 endpoint (by rw [arrives, List.length_append, four]; omega)
  rw [arrives, List.take_left' four] at header
  rw [arrives, List.drop_left' four] at remains
  let allocated : Endpoint := ⟨incoming, endpoint.sent, payload.length :: endpoint.allocated⟩
  have behind : allocated.bytes = payload ++ rest := remains
  obtain ⟨incoming', body, remains'⟩ :=
    @readExact_ok payload.length allocated (by rw [behind, List.length_append]; omega)
  rw [behind, List.take_left' rfl] at body
  rw [behind, List.drop_left' rfl] at remains'
  refine ⟨{ allocated with incoming := incoming' }, ?_, remains'⟩
  refine (Action.bind_ok header).trans ?_
  rw [fromBeBytes_toBeBytes fits.small, checkLength_fits fits]
  exact body

/-- What is read was a frame. -/
theorem readLimited_ok (ran : readLimited what endpoint = (.ok payload, after)) :
    Fits payload ∧ endpoint.bytes = frame payload ++ after.bytes ∧
      after.allocated = payload.length :: endpoint.allocated := by
  obtain ⟨header, one, read, later⟩ := Action.bind_eq_ok.mp ran
  obtain ⟨four, starts, kept⟩ := readExact_eq_ok read
  obtain ⟨_, two, checked, later'⟩ := Action.bind_eq_ok.mp later
  obtain ⟨fits, rfl⟩ := checkLength_ok checked
  obtain ⟨_, three, allocated, last⟩ := Action.bind_eq_ok.mp later'
  cases allocated
  obtain ⟨long, rest, kept'⟩ := readExact_eq_ok last
  have same : Crypto.toBeBytes payload.length = header := by rw [long, toBeBytes_fromBeBytes four]
  refine ⟨?_, ?_, ?_⟩
  · rw [Fits, long]
    exact fits
  · rw [starts, frame, same, List.append_assoc]
    exact congrArg (header ++ ·) rest
  · rw [kept', long]
    change _ :: two.allocated = _
    rw [kept]

/-- A length above the limit is refused before a buffer is allocated for it. -/
theorem readLimited_refuses (header : 4 ≤ endpoint.bytes.length)
    (large : fastMaxMessageSize < fromBeBytes (endpoint.bytes.take 4)) :
    ∃ error after, readLimited what endpoint = (.error error, after) ∧ after.allocated = endpoint.allocated := by
  obtain ⟨incoming, read, _⟩ := readExact_ok header
  obtain ⟨error, refused⟩ := @checkLength_refused _ { endpoint with incoming := incoming } what large
  exact ⟨error, _, (Action.bind_ok read).trans (Action.bind_error refused), rfl⟩

theorem readStatus_ok {status : UInt8} (ran : readStatus endpoint = (.ok status, after)) :
    endpoint.bytes = status :: after.bytes ∧ after.allocated = endpoint.allocated := by
  obtain ⟨bytes, one, read, ran⟩ := Action.bind_eq_ok.mp ran
  obtain ⟨single, starts, kept⟩ := readExact_eq_ok read
  obtain ⟨byte, rfl⟩ := List.length_eq_one_iff.mp single
  cases ran
  exact ⟨starts, kept⟩

theorem readStatus_accepts {status : UInt8} {rest : List UInt8} (arrives : endpoint.bytes = status :: rest) :
    ∃ after, readStatus endpoint = (.ok status, after) ∧ after.bytes = rest ∧
      after.allocated = endpoint.allocated := by
  obtain ⟨incoming, read, remains⟩ := @readExact_ok 1 endpoint (by rw [arrives]; exact Nat.le_add_left 1 _)
  rw [arrives] at read remains
  exact ⟨_, Action.bind_ok read, remains, rfl⟩

end Readers

/-- The server reads the frames of payloads within the limit. -/
theorem readFastFrame_reads : Reads Endpoint.bytes frame Fits readFastFrame where
  accepts _ _ _ fits arrives := readLimited_accepts fits arrives
  sound _ _ _ ran := ⟨(readLimited_ok ran).1, (readLimited_ok ran).2.1⟩
  any stream := ⟨⟨.ofBytes stream, [], []⟩, Incoming.bytes_ofBytes stream⟩
  nonempty _ := by simp [frame, Crypto.toBeBytes]

/-- The client reads replies. -/
theorem readReply_reads : Reads Endpoint.bytes replyFrame (fun reply => Fits reply.2) readReply where
  accepts endpoint reply rest fits arrives := by
    obtain ⟨one, read, remains, _⟩ := readStatus_accepts arrives
    obtain ⟨after, ran, behind⟩ := @readLimited_accepts one reply.2 "response" rest fits remains
    exact ⟨after, (Action.bind_ok read).trans (Action.bind_ok ran), behind⟩
  sound endpoint reply after ran := by
    obtain ⟨status, one, read, ran⟩ := Action.bind_eq_ok.mp ran
    obtain ⟨body, two, read', ran⟩ := Action.bind_eq_ok.mp ran
    cases ran
    obtain ⟨fits, behind, _⟩ := readLimited_ok read'
    refine ⟨fits, ?_⟩
    rw [(readStatus_ok read).1, behind]
    rfl
  any stream := ⟨⟨.ofBytes stream, [], []⟩, Incoming.bytes_ofBytes stream⟩
  nonempty _ := by simp [replyFrame]

section Writers

variable {endpoint after : Endpoint} {payload bytes : List UInt8} {what : String} {size : Nat} {cut : Cut}
    {error : String}

/-- The writers of both sides: a check, a buffer, and all of its bytes. -/
def writeLimited (what : String) (length size : Nat) (cut : Cut) (bytes : List UInt8) : EndpointAction Unit := do
  checkLength what length
  allocate size
  writeAll cut bytes

theorem writeLimited_ok {length : Nat} (ran : writeLimited what length size cut bytes endpoint = (.ok (), after)) :
    length ≤ fastMaxMessageSize ∧ after.sent = endpoint.sent ++ bytes := by
  obtain ⟨_, one, checked, later⟩ := Action.bind_eq_ok.mp ran
  obtain ⟨fits, rfl⟩ := checkLength_ok checked
  obtain ⟨_, two, allocated, last⟩ := Action.bind_eq_ok.mp later
  cases allocated
  refine ⟨fits, ?_⟩
  unfold writeAll at last
  split at last
  · split at last
    · cases last
    · cases last
      rfl
  · cases last
    rfl

theorem writeLimited_error {length : Nat}
    (ran : writeLimited what length size cut bytes endpoint = (.error error, after)) :
    ∃ part, after.sent = endpoint.sent ++ part ∧
      (part = [] ∨ length ≤ fastMaxMessageSize ∧ part <+: bytes ∧ part ≠ bytes) := by
  by_cases large : fastMaxMessageSize < length
  · obtain ⟨message, refused⟩ := @checkLength_refused _ endpoint what large
    have whole := (Action.bind_error refused).symm.trans ran
    cases whole
    exact ⟨[], (List.append_nil _).symm, .inl rfl⟩
  · have fits := Nat.le_of_not_lt large
    rw [writeLimited, checkLength_fits fits] at ran
    change writeAll cut bytes _ = _ at ran
    unfold writeAll at ran
    split at ran
    · rename_i moved message
      split at ran
      · rename_i early
        cases ran
        refine ⟨bytes.take moved, rfl, .inr ⟨fits, List.take_prefix _ _, ?_⟩⟩
        intro whole
        have long := congrArg List.length whole
        rw [List.length_take] at long
        omega
      · cases ran
    · cases ran

theorem writeLimited_refuses {length : Nat} (large : fastMaxMessageSize < length) :
    ∃ error, writeLimited what length size cut bytes endpoint = (.error error, endpoint) := by
  obtain ⟨error, refused⟩ := @checkLength_refused _ endpoint what large
  exact ⟨error, Action.bind_error refused⟩

theorem writeLimited_uncut {length : Nat} (fits : length ≤ fastMaxMessageSize) :
    ∃ after, writeLimited what length size none bytes endpoint = (.ok (), after) := by
  rw [writeLimited, checkLength_fits fits]
  exact ⟨_, rfl⟩

end Writers

/-- The client writes the frames of payloads within the limit. -/
theorem writeFrame_writes :
    Writes Endpoint.sent frame Fits Prod.snd (fun given : Cut × List UInt8 => writeFrame given.1 given.2) where
  ok _ _ _ ran := writeLimited_ok ran
  error _ _ _ _ ran := writeLimited_error ran

/-- The server writes replies. -/
theorem writeReply_writes : Writes Endpoint.sent replyFrame (fun reply => Fits reply.2) Prod.snd
    (fun given : Cut × UInt8 × List UInt8 => writeFastStatusAndFrame given.1 given.2.1 given.2.2) where
  ok _ _ _ ran := writeLimited_ok ran
  error _ _ _ _ ran := writeLimited_error ran

section Allocations

/-- Every buffer that was allocated meanwhile is within the limit. -/
def Frugal (before after : Endpoint) : Prop :=
  ∀ size ∈ after.allocated, size ∈ before.allocated ∨ size ≤ fastMaxMessageSize

theorem Frugal.refl (endpoint : Endpoint) : Frugal endpoint endpoint := fun _ listed => .inl listed

theorem Frugal.trans {one two three : Endpoint} (first : Frugal one two) (second : Frugal two three) :
    Frugal one three := by
  intro size listed
  rcases second size listed with earlier | small
  · exact first size earlier
  · exact .inr small

theorem readExact_frugal (n : Nat) : Action.Keeps Frugal (readExact n) := by
  intro endpoint size listed
  by_cases enough : n ≤ endpoint.bytes.length
  · obtain ⟨incoming, read, _⟩ := readExact_ok enough
    rw [read] at listed
    exact .inl listed
  · obtain ⟨error, incoming, read⟩ := readExact_short (Nat.lt_of_not_le enough)
    rw [read] at listed
    exact .inl listed

theorem readLimited_frugal (what : String) : Action.Keeps Frugal (readLimited what) := by
  refine Action.Keeps.bind (fun _ _ _ => Frugal.trans) (readExact_frugal 4) fun lenBuf endpoint => ?_
  by_cases large : fastMaxMessageSize < fromBeBytes lenBuf
  · obtain ⟨error, refused⟩ := @checkLength_refused _ endpoint what large
    rw [Action.bind_error refused]
    exact Frugal.refl endpoint
  · have fits := Nat.le_of_not_lt large
    rw [checkLength_fits fits]
    refine Frugal.trans ?_ (readExact_frugal _ _)
    intro size listed
    rcases List.mem_cons.mp listed with rfl | earlier
    · exact .inr fits
    · exact .inl earlier

theorem readReply_frugal : Action.Keeps Frugal readReply := by
  refine Action.Keeps.bind (fun _ _ _ => Frugal.trans) ?_ fun status => ?_
  · exact Action.Keeps.bind (fun _ _ _ => Frugal.trans) (readExact_frugal 1) fun _ => Frugal.refl
  · exact Action.Keeps.bind (fun _ _ _ => Frugal.trans) (readLimited_frugal "response") fun _ => Frugal.refl

end Allocations

section RoundTrip

variable {ι α : Type}

/-- What one end has written is what the other end reads, one item after the other, and nothing is
missing where every write succeeds. -/
def Carries (write : ι → EndpointAction Unit) (item : ι → α) (good : ι → Prop) (read : EndpointAction α) :
    Prop :=
  ∀ (given : List ι) (sender receiver : Endpoint), sender.sent = [] →
    receiver.bytes = (writeSession write given sender).2.sent →
      (∀ n, (session read n receiver).1 = ((writeSession write given sender).1.map item).take n) ∧
        ((∀ one ∈ given, good one) → (writeSession write given sender).1 = given)

/-- What a session accepts of any stream is what the stream starts with, and no buffer above the limit is allocated. -/
def Aligned (encode : α → List UInt8) (fits : α → Prop) (read : EndpointAction α) : Prop :=
  ∀ n endpoint, (∀ item ∈ (session read n endpoint).1, fits item) ∧
    (∃ rest, endpoint.bytes = (session read n endpoint).1.flatMap encode ++ rest) ∧
    Frugal endpoint (session read n endpoint).2

theorem session_frugal {read : EndpointAction α} (keeps : Action.Keeps Frugal read) (n : Nat) (endpoint : Endpoint) :
    Frugal endpoint (session read n endpoint).2 := by
  induction n generalizing endpoint with
  | zero => exact Frugal.refl endpoint
  | succ n ih =>
    have one := keeps endpoint
    rw [session]
    rcases ran : read endpoint with ⟨error | item, after⟩
    · rw [ran] at one
      exact one
    · rw [ran] at one
      exact one.trans (ih after)

theorem aligned_of_reads {encode : α → List UInt8} {fits : α → Prop} {read : EndpointAction α}
    (reads : Reads Endpoint.bytes encode fits read) (keeps : Action.Keeps Frugal read) : Aligned encode fits read :=
  fun n endpoint => ⟨(reads.aligned n endpoint).1, (reads.aligned n endpoint).2, session_frugal keeps n endpoint⟩

/-- Frames and replies are read back as they were written, in any chunks; lengths above the limit are refused on
both sides before a buffer is allocated; and what a reader accepts is aligned. -/
theorem fast_framing_round_trip :
    Carries (fun given : Cut × List UInt8 => writeFrame given.1 given.2) Prod.snd
      (fun given => given.1 = none ∧ Fits given.2) readFastFrame ∧
    Carries (fun given : Cut × UInt8 × List UInt8 => writeFastStatusAndFrame given.1 given.2.1 given.2.2) Prod.snd
      (fun given => given.1 = none ∧ Fits given.2.2) readReply ∧
    (∀ cut payload endpoint, fastMaxMessageSize < payload.length →
      (∃ error, writeFrame cut payload endpoint = (.error error, endpoint)) ∧
        ∀ status, ∃ error, writeFastStatusAndFrame cut status payload endpoint = (.error error, endpoint)) ∧
    (∀ endpoint : Endpoint, 4 ≤ endpoint.bytes.length →
      fastMaxMessageSize < fromBeBytes (endpoint.bytes.take 4) →
      (∃ error after, readFastFrame endpoint = (.error error, after) ∧ after.allocated = endpoint.allocated) ∧
        ∃ error after, readFrame endpoint = (.error error, after) ∧ after.allocated = endpoint.allocated) ∧
    Aligned frame Fits readFastFrame ∧ Aligned replyFrame (fun reply => Fits reply.2) readReply := by
  refine ⟨?_, ?_, ?_, ?_, ?_, ?_⟩
  · intro given sender receiver fresh arrives
    refine ⟨fun n => readFastFrame_reads.carried writeFrame_writes given n fresh arrives, fun good => ?_⟩
    refine writeSession_ok (fun one listed world => ?_) sender
    obtain ⟨uncut, fits⟩ := good one listed
    rw [uncut]
    exact writeLimited_uncut fits
  · intro given sender receiver fresh arrives
    refine ⟨fun n => readReply_reads.carried writeReply_writes given n fresh arrives, fun good => ?_⟩
    refine writeSession_ok (fun one listed world => ?_) sender
    obtain ⟨uncut, fits⟩ := good one listed
    rw [uncut]
    exact writeLimited_uncut fits
  · intro cut payload endpoint large
    exact ⟨writeLimited_refuses large, fun status => writeLimited_refuses large⟩
  · intro endpoint header large
    exact ⟨readLimited_refuses header large, readLimited_refuses header large⟩
  · exact aligned_of_reads readFastFrame_reads (readLimited_frugal "request")
  · exact aligned_of_reads readReply_reads readReply_frugal

end RoundTrip

section Connection

/-- `handle_fast_vsock_connection`, up to how a request is answered. -/
def handleFastVsockConnection (answer : List UInt8 → Except String (UInt8 × List UInt8)) (cut : Cut) :
    EndpointAction Unit := do
  let reqBytes ← readFastFrame
  let reply ← Action.ofExcept (answer reqBytes)
  writeFastStatusAndFrame cut reply.1 reply.2

theorem readExact_sent (n : Nat) : Action.Keeps (fun before after => after.sent = before.sent) (readExact n) := by
  intro endpoint
  by_cases enough : n ≤ endpoint.bytes.length
  · obtain ⟨incoming, read, _⟩ := readExact_ok enough
    rw [read]
  · obtain ⟨error, incoming, read⟩ := readExact_short (Nat.lt_of_not_le enough)
    rw [read]

theorem readLimited_sent (what : String) : Action.Keeps (fun before after => after.sent = before.sent)
    (readLimited what) := by
  have trans : ∀ one two three : Endpoint, two.sent = one.sent → three.sent = two.sent → three.sent = one.sent :=
    fun _ _ _ first second => second.trans first
  refine Action.Keeps.bind trans (readExact_sent 4) fun lenBuf endpoint => ?_
  by_cases large : fastMaxMessageSize < fromBeBytes lenBuf
  · obtain ⟨error, refused⟩ := @checkLength_refused _ endpoint what large
    rw [Action.bind_error refused]
  · rw [checkLength_fits (Nat.le_of_not_lt large)]
    exact readExact_sent _ _

/-- A client that has sent its request reads a reply only if the server has answered this request with it. -/
theorem reply_is_answer {answer : List UInt8 → Except String (UInt8 × List UInt8)} {cut cut' : Cut}
    {request : List UInt8}
    {client sending server waiting after : Endpoint} {reply : UInt8 × List UInt8} (fresh : client.sent = [])
    (fresh' : server.sent = []) (asked : writeFrame cut request client = (.ok (), sending))
    (arrives : server.bytes = sending.sent)
    (returns : waiting.bytes = (handleFastVsockConnection answer cut' server).2.sent)
    (read : readReply waiting = (.ok reply, after)) : answer request = .ok reply := by
  obtain ⟨fits, sent⟩ := writeFrame_writes.ok client (cut, request) sending asked
  rw [fresh, List.nil_append] at sent
  rw [sent] at arrives
  obtain ⟨after', taken, _⟩ := readFastFrame_reads.accepts server request [] fits (by rw [arrives, List.append_nil])
  have kept : after'.sent = [] := by
    have same := readLimited_sent "request" server
    rw [← readFastFrame, taken, fresh'] at same
    exact same
  have handled : handleFastVsockConnection answer cut' server =
      (Action.ofExcept (answer request) >>= fun reply => writeFastStatusAndFrame cut' reply.1 reply.2) after' :=
    Action.bind_ok taken
  rw [handled] at returns
  cases answered : answer request with
  | error error =>
    rw [answered] at returns
    change waiting.bytes = after'.sent at returns
    exact absurd read (readReply_reads.unreadable_nil waiting reply after (returns.trans kept))
  | ok own =>
    rw [answered] at returns
    change waiting.bytes = (writeFastStatusAndFrame cut' own.1 own.2 after').2.sent at returns
    rcases wrote : writeFastStatusAndFrame cut' own.1 own.2 after' with ⟨error | done, final⟩
    · obtain ⟨part, added, kind⟩ := writeReply_writes.error after' (cut', own) error final wrote
      rw [wrote, added, kept, List.nil_append] at returns
      rcases kind with rfl | ⟨fits', starts, cutOff⟩
      · exact absurd read (readReply_reads.unreadable_nil waiting reply after returns)
      · exact absurd read (readReply_reads.unreadable_of_prefix fits' starts cutOff waiting reply after returns)
    · obtain ⟨fits', added⟩ := writeReply_writes.ok after' (cut', own) final wrote
      rw [wrote, added, kept, List.nil_append] at returns
      obtain ⟨_, same, _⟩ := readReply_reads.accepts waiting own [] fits' (by rw [returns, List.append_nil])
      rw [same] at read
      cases read
      rfl

end Connection

end GuestComponents.Image.FastFraming
