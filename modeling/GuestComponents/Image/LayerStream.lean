import GuestComponents.Image.LayerPull
import GuestComponents.Lib.AsyncRead
import GuestComponents.Lib.Sha2Stream

/-! `stream.rs`, `digest.rs` and the loop of `unpack.rs`: a layer is hashed by the reader that the
unpacking reads it through. What the hasher is fed are the bytes that are served (`hashReader_serves`), and
an archive that reads to the end of its input has been served all of them (`digest_of_stream`). -/
namespace GuestComponents.Image.LayerStream
open Lib Lib.Text Lib.Async

section Hashing

class DigestHasher (H : Type) where
  digestUpdate : H → List UInt8 → H
  digestFinalize : H → Text

export DigestHasher (digestUpdate digestFinalize)

def digestSha256Prefix : Text := "sha256:".toList

def digestSha512Prefix : Text := "sha512:".toList

inductive LayerDigestHasher where
  | sha256 (hasher : Sha2.Hasher)
  | sha512 (hasher : Sha2.Hasher)

instance : DigestHasher LayerDigestHasher where
  digestUpdate
    | .sha256 hasher, buf => .sha256 (Sha2.sha256.update hasher buf)
    | .sha512 hasher, buf => .sha512 (Sha2.sha512.update hasher buf)
  digestFinalize
    | .sha256 hasher => digestSha256Prefix ++ hexEncode (Sha2.sha256.finalize hasher)
    | .sha512 hasher => digestSha512Prefix ++ hexEncode (Sha2.sha512.finalize hasher)

structure HashReader (R H : Type) where
  reader : R
  hasher : H

/-- A read is hashed behind what the buffer held before. -/
def HashReader.pollRead {R H ε : Type} [AsyncRead R ε] [DigestHasher H] (me : HashReader R H) (buf : ReadBuf) :
    Poll (Except ε Unit) × ReadBuf × HashReader R H :=
  let oldPosition := buf.filled.length
  match AsyncRead.pollRead me.reader buf with
  | (.ready (.ok ()), buf, reader) =>
    (.ready (.ok ()), buf, ⟨reader, digestUpdate me.hasher (buf.filled.drop oldPosition)⟩)
  | (other, buf, reader) => (other, buf, ⟨reader, me.hasher⟩)

instance {R H ε : Type} [AsyncRead R ε] [DigestHasher H] : AsyncRead (HashReader R H) ε where
  pollRead := HashReader.pollRead

end Hashing

section Unpacking

/-- A run: it has not ended yet, or it has with a result. -/
abbrev Run := ExceptT Text Option

def answered {α : Type} (result : Except Text α) : Run α := ExceptT.mk (some result)

def awaited {α : Type} (result : Option α) : Run α := ExceptT.mk (result.map .ok)

/-- anyhow's `context`, as `{:?}` shows it. -/
def context {α : Type} (text : Text) (result : Except Text α) : Except Text α :=
  result.mapError fun error => text ++ "\n\nCaused by:\n    ".toList ++ error

/-- The crate `tokio_tar`, and what is read of its entries. -/
structure Archive (σ Entry ε : Type) where
  /-- `ArchiveBuilder` with `set_ignore_zeros`, `set_unpack_xattrs` and `set_preserve_permissions`. -/
  build : Bool → Bool → Bool → σ
  entries : σ → Except Text σ
  next : σ → Stage σ ε (Option (Except Text Entry))
  unpackIn : Entry → σ → Stage σ ε (Except Text Bool)
  /-- `path`, and its file name. -/
  entryName : Entry → Except Text Text
  /-- `uid` and `gid`, which fit. -/
  owner : Entry → Except Text Unit

/-- What the file system answers. Entries go by their numbers. -/
structure Host where
  destinationExists : Bool
  removeExisting : Except Text Unit
  createDestination : Except Text Unit
  isAttrAvailable : Except Text Bool
  convertWhiteout : Nat → Except Text Unit
  /-- Permissions, owners and times. -/
  restoreMetadata : Nat → Except Text Unit
  utimes : Except Text Unit
  rollBack : Except Text Unit

def whiteoutPrefix : Text := ".wh.".toList

/-- `is_whiteout`. -/
def isWhiteout (name : Text) : Bool := whiteoutPrefix.isPrefixOf name

variable {σ Entry ε R : Type} [AsyncRead R ε] (archive : Archive σ Entry ε) (host : Host) (fuel : Nat)

/-- What `unpack` does with an entry. -/
def unpackEntry (attrAvailable : Bool) (number : Nat) (entry : Entry) (state : σ) (input : R) : Run (σ × R) := do
  let entryName ← answered (archive.entryName entry)
  answered (archive.owner entry)
  if attrAvailable && isWhiteout entryName then
    answered (host.convertWhiteout number)
    pure (state, input)
  else
    let (unpacked, state, input) ← awaited (drive (archive.unpackIn entry) fuel state input)
    let _ ← answered unpacked
    answered (host.restoreMetadata number)
    pure (state, input)

/-- The loop over the entries. -/
def unpackEntries (attrAvailable : Bool) : Nat → Nat → σ → R → Run R
  | 0, _, _, _ => awaited none
  | more + 1, number, state, input => do
    let (file, state, input) ← awaited (drive archive.next fuel state input)
    match file with
    | none => pure input
    | some (.error error) => throw error
    | some (.ok entry) =>
      let (state, input) ← unpackEntry archive host fuel attrAvailable number entry state input
      unpackEntries attrAvailable more (number + 1) state input

/-- What is at the destination already is removed. -/
def Host.clearDestination : Except Text Unit :=
  if host.destinationExists then
    context "Failed to delete existed broken layer when unpacking".toList host.removeExisting
  else .ok ()

/-- `unpack`. -/
def unpack (input : R) : Run R := do
  answered host.clearDestination
  answered host.createDestination
  let attrAvailable ← answered host.isAttrAvailable
  let state ← answered (context "failed to read entries from the tar".toList
    (archive.entries (archive.build true attrAvailable true)))
  let input ← unpackEntries archive host fuel attrAvailable fuel 0 state input
  answered host.utimes
  pure input

def asyncProcessing (layerReader : R) (hasher : LayerDigestHasher) : Run Text := do
  match (unpack archive host fuel (HashReader.mk layerReader hasher)).run with
  | none => awaited none
  | some (.error error) => do
    answered (context "Failed to roll back when unpacking".toList host.rollBack)
    throw error
  | some (.ok hashReader) => pure (digestFinalize hashReader.hasher)

/-- `stream_processing`. `{:?}` of a text is a parameter. -/
def streamProcessing (debug : Text → Text) (layerReader : R) (diffId : Text) : Run Text :=
  let processed (hasher : LayerDigestHasher) : Run Text :=
    ExceptT.mk ((asyncProcessing archive host fuel layerReader hasher).run.map
      (·.mapError ("hasher sha256: ".toList ++ ·)))
  if digestSha256Prefix.isPrefixOf diffId then processed (.sha256 Sha2.sha256.newHasher)
  else if digestSha512Prefix.isPrefixOf diffId then processed (.sha512 Sha2.sha512.newHasher)
  else throw ("unsupported uncompressed digest format: ".toList ++ debug diffId)

end Unpacking

section HashReaderLaws

variable {R H ε : Type} [AsyncRead R ε] [DigestHasher H]

/-- What is fed to a hasher: the bytes of each read that succeeds. -/
def pieces (log : List (Exchange ε)) : List (List UInt8) :=
  log.filterMap fun exchange =>
    match exchange.answer with
    | .ready (.ok _) => some exchange.data
    | _ => none

/-- A poll of the hash reader is one of its reader, which is hashed if it succeeds. -/
theorem hashReader_poll (me : HashReader R H) (buf : ReadBuf) :
    exchange me buf = exchange me.reader buf ∧
      afterPoll me buf = ⟨afterPoll me.reader buf,
        (pieces [exchange me.reader buf]).foldl digestUpdate me.hasher⟩ := by
  have outer : pollRead me buf = HashReader.pollRead me buf := rfl
  rw [HashReader.pollRead] at outer
  rcases inner : pollRead me.reader buf with ⟨answer, after, reader⟩
  rw [inner] at outer
  rcases answer with _ | _ | _ <;> simp [exchange, afterPoll, pieces, inner, outer, Exchange.data]

theorem hashReader_serves {me final : HashReader R H} {log : List (Exchange ε)} (serves : Serves me log final) :
    Serves me.reader log final.reader ∧ final.hasher = (pieces log).foldl digestUpdate me.hasher := by
  induction serves with
  | nil => exact ⟨.nil _, rfl⟩
  | @cons me final log buf _ ih =>
    obtain ⟨same, after⟩ := hashReader_poll me buf
    obtain ⟨served, hashed⟩ := ih
    rw [after] at served hashed
    rw [same]
    refine ⟨.cons buf served, ?_⟩
    have split : pieces (exchange me.reader buf :: log) = pieces [exchange me.reader buf] ++ pieces log :=
      List.filterMap_append (l := [exchange me.reader buf])
    rw [split, List.foldl_append, ← hashed]

/-- A lawful reader puts nothing into the buffer but what is hashed. -/
theorem flatten_pieces {log : List (Exchange ε)} (lawful : ∀ exchange ∈ log, exchange.Lawful) :
    (pieces log).flatten = delivered log := by
  induction log with
  | nil => rfl
  | cons exchange log ih =>
    obtain ⟨here, later⟩ := List.forall_mem_cons.mp lawful
    have split : pieces (exchange :: log) = pieces [exchange] ++ pieces log :=
      List.filterMap_append (l := [exchange])
    have one : (pieces [exchange]).flatten = exchange.data := by
      rw [Exchange.Lawful] at here
      cases shape : exchange.answer with
      | pending =>
        rw [shape] at here
        simp [pieces, shape, Exchange.data_unchanged here]
      | ready result =>
        rw [shape] at here
        cases result with
        | error error => simp [pieces, shape, Exchange.data_unchanged here]
        | ok done => simp [pieces, shape]
    rw [split, List.flatten_append, one, ih later]
    rfl

end HashReaderLaws

section ArchiveLaws

variable {σ Entry ε R : Type} {archive : Archive σ Entry ε} {host : Host} {fuel : Nat}

/-- What an archive may be asked for: the next entry, and to unpack one. -/
inductive Archive.Runs (archive : Archive σ Entry ε) : σ → List (Exchange ε) → σ → Prop where
  | nil (state : σ) : archive.Runs state [] state
  | next {state last after final : σ} {log more : List (Exchange ε)} {file : Option (Except Text Entry)} :
      Reads archive.next state log last → archive.next last = .done file after → archive.Runs after more final →
      archive.Runs state (log ++ more) final
  | unpackIn {state last after final : σ} {log more : List (Exchange ε)} {unpacked : Except Text Bool}
    (entry : Entry) :
      Reads (archive.unpackIn entry) state log last → archive.unpackIn entry last = .done unpacked after →
      archive.Runs after more final → archive.Runs state (log ++ more) final

/-- With `ignore_zeros`, an archive reports no more entries only behind the end of its input, which is
where a read into a buffer with room puts nothing there. -/
def Archive.ReadsToEnd (archive : Archive σ Entry ε) : Prop :=
  ∀ (unpackXattrs preservePermissions : Bool) (begun state last final : σ) (log more : List (Exchange ε)),
    archive.entries (archive.build true unpackXattrs preservePermissions) = .ok begun →
    archive.Runs begun log state → Reads archive.next state more last → archive.next last = .done none final →
    (∀ exchange ∈ log ++ more, exchange.Lawful) → ∃ exchange ∈ log ++ more, exchange.AtEnd

variable [AsyncRead R ε]

theorem run_bind {α β : Type} {first : Run α} {next : α → Run β} {result : β}
    (ran : (first >>= next : Run β) = answered (.ok result)) :
    ∃ value, first = answered (.ok value) ∧ next value = answered (.ok result) := by
  cases first with
  | none => cases ran
  | some outcome =>
    cases outcome with
    | error error => cases ran
    | ok value => exact ⟨value, rfl, ran⟩

theorem awaited_ok {α : Type} {result : Option α} {value : α} (ran : awaited result = answered (.ok value)) :
    result = some value := by
  cases result with
  | none => cases ran
  | some other =>
    cases ran
    rfl

theorem answered_ok {α : Type} {result : Except Text α} {value : α} (ran : answered result = answered (.ok value)) :
    result = .ok value := by
  cases ran
  rfl

/-- An entry is unpacked by the archive, or not at all. -/
theorem unpackEntry_runs {attrAvailable : Bool} {number : Nat} {entry : Entry} {state : σ} {input : R} {after : σ × R}
    (ran : unpackEntry archive host fuel attrAvailable number entry state input = answered (.ok after)) :
    ∃ log, archive.Runs state log after.1 ∧ Serves input log after.2 := by
  rw [unpackEntry] at ran
  obtain ⟨entryName, _, ran⟩ := run_bind ran
  obtain ⟨_, _, ran⟩ := run_bind ran
  split at ran
  · obtain ⟨_, _, ran⟩ := run_bind ran
    cases ran
    exact ⟨[], .nil _, .nil _⟩
  · obtain ⟨⟨unpacked, next, reader⟩, driven, ran⟩ := run_bind ran
    obtain ⟨_, _, ran⟩ := run_bind ran
    obtain ⟨_, _, ran⟩ := run_bind ran
    cases ran
    obtain ⟨log, last, reads, ended, serves⟩ := drive_reads (awaited_ok driven)
    refine ⟨log ++ [], .unpackIn entry reads ended (.nil _), ?_⟩
    rwa [List.append_nil]

theorem Archive.Runs.append {state middle final : σ} {log more : List (Exchange ε)}
    (first : archive.Runs state log middle) (second : archive.Runs middle more final) :
    archive.Runs state (log ++ more) final := by
  induction first with
  | nil => exact second
  | next reads ended _ ih =>
    rw [List.append_assoc]
    exact .next reads ended (ih second)
  | unpackIn entry reads ended _ ih =>
    rw [List.append_assoc]
    exact .unpackIn entry reads ended (ih second)

/-- The loop ends well only where the archive reports no more entries. -/
theorem unpackEntries_runs {attrAvailable : Bool} {more number : Nat} {state : σ} {input final : R}
    (ran : unpackEntries archive host fuel attrAvailable more number state input = answered (.ok final)) :
    ∃ log rest middle last after, archive.Runs state log middle ∧ Reads archive.next middle rest last ∧
      archive.next last = .done none after ∧ Serves input (log ++ rest) final := by
  induction more generalizing number state input with
  | zero => cases awaited_ok ran
  | succ more ih =>
    rw [unpackEntries] at ran
    obtain ⟨⟨file, next, reader⟩, driven, ran⟩ := run_bind ran
    obtain ⟨log, last, reads, ended, serves⟩ := drive_reads (awaited_ok driven)
    dsimp only at ran
    split at ran
    · cases ran
      exact ⟨[], log, state, last, next, .nil _, reads, ended, serves⟩
    · cases ran
    · obtain ⟨⟨between, reader'⟩, unpacked, ran⟩ := run_bind ran
      obtain ⟨entryLog, entryRuns, entryServes⟩ := unpackEntry_runs unpacked
      obtain ⟨log', rest, middle, last', after, runs, reads', ended', serves'⟩ := ih ran
      refine ⟨log ++ (entryLog ++ log'), rest, middle, last', after, ?_, reads', ended', ?_⟩
      · exact .next reads ended (entryRuns.append runs)
      · rw [List.append_assoc, List.append_assoc]
        exact serves.append (entryServes.append serves')

/-- What is unpacked without an error has been read to its end. -/
theorem unpack_serves (toEnd : archive.ReadsToEnd) {input final : R}
    (lawful : ∀ log, Serves input log final → ∀ exchange ∈ log, exchange.Lawful)
    (ran : unpack archive host fuel input = answered (.ok final)) :
    ∃ log, Serves input log final ∧ ∃ exchange ∈ log, exchange.AtEnd := by
  rw [unpack] at ran
  obtain ⟨_, _, ran⟩ := run_bind ran
  obtain ⟨_, _, ran⟩ := run_bind ran
  obtain ⟨attrAvailable, _, ran⟩ := run_bind ran
  obtain ⟨state, begun, ran⟩ := run_bind ran
  obtain ⟨reader, unpacked, ran⟩ := run_bind ran
  obtain ⟨_, _, ran⟩ := run_bind ran
  cases ran
  have started : archive.entries (archive.build true attrAvailable true) = .ok state := by
    have opened := answered_ok begun
    cases result : archive.entries (archive.build true attrAvailable true) with
    | error error =>
      rw [result] at opened
      cases opened
    | ok other =>
      rw [result] at opened
      cases opened
      rfl
  obtain ⟨log, rest, middle, last, after, runs, reads, ended, serves⟩ := unpackEntries_runs unpacked
  exact ⟨log ++ rest, serves, toEnd _ _ _ _ _ _ _ _ started runs reads ended (lawful _ serves)⟩

/-- The hasher is fed what the reader still had to deliver. -/
theorem asyncProcessing_ok (toEnd : archive.ReadsToEnd) (stream : ByteStream R) {layerReader : R}
    {hasher : LayerDigestHasher} {digest : Text}
    (ran : asyncProcessing archive host fuel layerReader hasher = answered (.ok digest)) :
    ∃ bytes : List (List UInt8), bytes.flatten = stream.content layerReader ∧
      digest = digestFinalize (bytes.foldl digestUpdate hasher) := by
  rw [asyncProcessing] at ran
  split at ran
  · cases ran
  · obtain ⟨_, _, ran⟩ := run_bind ran
    cases ran
  · rename_i final unpacked
    cases ran
    have lawful (log : List (Exchange ε)) (serves : Serves (HashReader.mk layerReader hasher) log final) :
        ∀ exchange ∈ log, exchange.Lawful := stream.lawful_log (hashReader_serves serves).1
    obtain ⟨log, serves, last, within, ended⟩ := unpack_serves toEnd lawful unpacked
    obtain ⟨served, hashed⟩ := hashReader_serves serves
    refine ⟨pieces log, ?_, by rw [hashed]⟩
    rw [flatten_pieces (stream.lawful_log served), stream.served_whole served within ended]

theorem digestFinalize_sha256 (bytes : List (List UInt8)) (hasher : Sha2.Hasher) :
    digestFinalize (bytes.foldl digestUpdate (LayerDigestHasher.sha256 hasher)) =
      digestSha256Prefix ++ hexEncode (Sha2.sha256.finalize (bytes.foldl Sha2.sha256.update hasher)) := by
  induction bytes generalizing hasher with
  | nil => rfl
  | cons piece bytes ih => exact ih (Sha2.sha256.update hasher piece)

theorem digestFinalize_sha512 (bytes : List (List UInt8)) (hasher : Sha2.Hasher) :
    digestFinalize (bytes.foldl digestUpdate (LayerDigestHasher.sha512 hasher)) =
      digestSha512Prefix ++ hexEncode (Sha2.sha512.finalize (bytes.foldl Sha2.sha512.update hasher)) := by
  induction bytes generalizing hasher with
  | nil => rfl
  | cons piece bytes ih => exact ih (Sha2.sha512.update hasher piece)

/-- What is returned is the digest of the hasher that was picked, over all there was to read. -/
theorem streamProcessing_ok (toEnd : archive.ReadsToEnd) (stream : ByteStream R) {debug : Text → Text}
    {layerReader : R} {diffId digest : Text}
    (returned : streamProcessing archive host fuel debug layerReader diffId = answered (.ok digest)) :
    if digestSha256Prefix.isPrefixOf diffId then
      digest = digestSha256Prefix ++ hexEncode (Sha2.sha256.digest (stream.content layerReader))
    else digestSha512Prefix.isPrefixOf diffId ∧
      digest = digestSha512Prefix ++ hexEncode (Sha2.sha512.digest (stream.content layerReader)) := by
  have processed {hasher : LayerDigestHasher}
      (ran : ExceptT.mk ((asyncProcessing archive host fuel layerReader hasher).run.map
        (·.mapError ("hasher sha256: ".toList ++ ·))) = answered (.ok digest)) :
      asyncProcessing archive host fuel layerReader hasher = answered (.ok digest) := by
    revert ran
    cases asyncProcessing archive host fuel layerReader hasher with
    | none => exact nofun
    | some outcome =>
      cases outcome with
      | error error => exact nofun
      | ok value =>
        intro ran
        cases ran
        rfl
  rw [streamProcessing] at returned
  split at returned
  · rename_i accepted
    obtain ⟨bytes, whole, same⟩ := asyncProcessing_ok toEnd stream (processed returned)
    rw [if_pos accepted, same, digestFinalize_sha256, Sha2.Params.finalize_foldl, whole]
  · rename_i other
    rw [if_neg other]
    split at returned
    · rename_i accepted
      obtain ⟨bytes, whole, same⟩ := asyncProcessing_ok toEnd stream (processed returned)
      refine ⟨accepted, ?_⟩
      rw [same, digestFinalize_sha512, Sha2.Params.finalize_foldl, whole]
    · cases returned

/-- It is the digest that a layer is checked against where it is pulled. -/
theorem streamProcessing_streamDigest (toEnd : archive.ReadsToEnd) (stream : ByteStream R) {debug : Text → Text}
    {layerReader : R} {diffId digest : Text}
    (returned : streamProcessing archive host fuel debug layerReader diffId = answered (.ok digest)) :
    streamDigest diffId (stream.content layerReader) = .ok digest := by
  have result := streamProcessing_ok toEnd stream returned
  unfold digestSha256Prefix digestSha512Prefix at result
  unfold streamDigest
  split at result
  · rename_i accepted
    rw [if_pos accepted, result]
  · rename_i other
    rw [if_neg other, if_pos result.1, result.2]

/-- The digest of a layer that was unpacked is the hash of its whole stream, behind the prefix of
the diff id. -/
theorem digest_of_stream (toEnd : archive.ReadsToEnd) (stream : ByteStream R) {debug : Text → Text} {layerReader : R}
    {diffId digest : Text}
    (returned : streamProcessing archive host fuel debug layerReader diffId = answered (.ok digest)) :
    (digestSha256Prefix <+: diffId ∧
        digest = digestSha256Prefix ++ hexEncode (Sha2.sha256.digest (stream.content layerReader))) ∨
      (digestSha512Prefix <+: diffId ∧
        digest = digestSha512Prefix ++ hexEncode (Sha2.sha512.digest (stream.content layerReader))) := by
  have result := streamProcessing_ok toEnd stream returned
  split at result
  · rename_i accepted
    exact .inl ⟨List.isPrefixOf_iff_prefix.mp accepted, result⟩
  · exact .inr ⟨List.isPrefixOf_iff_prefix.mp result.1, result.2⟩

end ArchiveLaws

section Samples

/-- An archive that reads blocks of zeros, which stand for no entries. -/
inductive ZeroBlocks where
  | reading (position : Nat)
  | broken
  | finished

/-- A block ends an archive only where it is empty. -/
def ZeroBlocks.resume (position : Nat) (answer : Poll (Except Unit Unit)) (buf : ReadBuf) : ZeroBlocks :=
  match answer with
  | .pending => .reading position
  | .ready (.error _) => .broken
  | .ready (.ok _) =>
    if buf.filled = [] then if position = 0 then .finished else .broken
    else if buf.filled.all (· == 0) then .reading ((position + buf.filled.length) % 512)
    else .broken

def zeroArchive : Archive ZeroBlocks Empty Unit where
  build _ _ _ := .reading 0
  entries := .ok
  next
    | .reading position => .poll ⟨[], 512 - position⟩ (ZeroBlocks.resume position)
    | .broken => .done (some (.error "unexpected EOF during skip".toList)) .broken
    | .finished => .done none .finished
  unpackIn entry := nomatch entry
  entryName entry := nomatch entry
  owner entry := nomatch entry

/-- Where it is finished, its last read was of nothing. -/
theorem zeroArchive_end {state last : ZeroBlocks} {log : List (Exchange Unit)}
    (reads : Reads zeroArchive.next state log last)
    (finished : last = .finished) : state = .finished ∨ ∃ exchange ∈ log, exchange.AtEnd := by
  induction reads with
  | nil => exact .inl finished
  | @cons state final log resume exchange polls _ ih =>
    rcases ih finished with next | ⟨other, within, ended⟩
    · cases state with
      | reading position =>
        obtain ⟨before, answer, after⟩ := exchange
        cases polls
        rcases answer with _ | _ | _
        · cases next
        · cases next
        · rw [ZeroBlocks.resume] at next
          split at next
          · rename_i empty
            split at next
            · rename_i start
              subst start
              exact .inr ⟨_, List.mem_cons_self, rfl, Nat.succ_ne_zero _, empty⟩
            · cases next
          · split at next <;> cases next
      | broken => cases polls
      | finished => exact .inl rfl
    · exact .inr ⟨other, List.mem_cons_of_mem _ within, ended⟩

theorem zeroArchive_done {last after : ZeroBlocks} {file : Option (Except Text Empty)}
    (ended : zeroArchive.next last = .done file after) : last = after := by
  cases last with
  | reading position => cases ended
  | broken =>
    cases ended
    rfl
  | finished =>
    cases ended
    rfl

theorem zeroArchive_runs {state final : ZeroBlocks} {log : List (Exchange Unit)}
    (runs : zeroArchive.Runs state log final)
    (finished : final = .finished) : state = .finished ∨ ∃ exchange ∈ log, exchange.AtEnd := by
  induction runs with
  | nil => exact .inl finished
  | next reads ended _ ih =>
    rcases ih finished with already | ⟨exchange, within, atEnd⟩
    · rcases zeroArchive_end reads ((zeroArchive_done ended).trans already) with before | ⟨exchange, within, atEnd⟩
      · exact .inl before
      · exact .inr ⟨exchange, List.mem_append_left _ within, atEnd⟩
    · exact .inr ⟨exchange, List.mem_append_right _ within, atEnd⟩
  | unpackIn entry => cases entry

theorem zeroArchive_readsToEnd : zeroArchive.ReadsToEnd := by
  intro _ _ begun state last final log more opened runs reads ended _
  have finished : last = .finished := by
    cases last with
    | finished => rfl
    | reading position => cases ended
    | broken => cases ended
  rcases zeroArchive_end reads finished with already | ⟨exchange, within, atEnd⟩
  · rcases zeroArchive_runs runs already with start | ⟨exchange, within, atEnd⟩
    · rw [start] at opened
      cases opened
    · exact ⟨exchange, List.mem_append_left _ within, atEnd⟩
  · exact ⟨exchange, List.mem_append_right _ within, atEnd⟩

def sampleHost : Host where
  destinationExists := false
  removeExisting := .ok ()
  createDestination := .ok ()
  isAttrAvailable := .ok true
  convertWhiteout _ := .ok ()
  restoreMetadata _ := .ok ()
  utimes := .ok ()
  rollBack := .ok ()

/-- Two blocks of zeros, by a reader that waits first and then has three bytes only. -/
def sampleReader : Scheduled Unit := ⟨List.replicate 1024 0, [.waits, .puts 2, .waits]⟩

/-- The run has ended, and not with an error. -/
def ended {α : Type} : Run α → Bool
  | some (.ok _) => true
  | _ => false

theorem ended_iff {α : Type} {run : Run α} : ended run = true ↔ ∃ value, run = answered (.ok value) := by
  constructor
  · intro ok
    match run, ok with
    | some (.ok value), _ => exact ⟨value, rfl⟩
  · rintro ⟨value, rfl⟩
    rfl

theorem digest_of_stream_sample : ∃ digest, streamProcessing zeroArchive sampleHost 9 id sampleReader
      (digestSha512Prefix ++ "00".toList) = answered (.ok digest) ∧
    digest = digestSha512Prefix ++ hexEncode (Sha2.sha512.digest (List.replicate 1024 0)) := by
  have ok : ended
      (streamProcessing zeroArchive sampleHost 9 id sampleReader (digestSha512Prefix ++ "00".toList)) = true := by
    decide +kernel
  obtain ⟨digest, returned⟩ := ended_iff.mp ok
  refine ⟨digest, returned, ?_⟩
  rcases digest_of_stream zeroArchive_readsToEnd Scheduled.stream returned with ⟨other, _⟩ | ⟨_, same⟩
  · exact absurd other (by decide)
  · exact same

end Samples

end GuestComponents.Image.LayerStream
