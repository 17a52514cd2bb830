import GuestComponents.Image.LayerPull
import GuestComponents.Lib.Units

/-! The decoders of layers (`decoder/mod.rs`). A gzip layer may have several members and a zstd
layer several frames; six constructions of decoders read one or the other, and some of them stop
behind the first part. `decodes_all_iff` says for which parts all of them give the same. -/
namespace GuestComponents.Image
open Lib

/-- The constructions of decoders in the crates `flate2`, `zstd` and `async_compression`. -/
inductive Decoder where
  | flate2Gz
  | zstd
  | asyncGzip (multipleMembers : Bool)
  | asyncZstd (multipleMembers : Bool)

/-- Whether a decoder goes on behind the first part. -/
def Decoder.toTheEnd : Decoder → Bool
  | .flate2Gz => false
  | .zstd => true
  | .asyncGzip multipleMembers => multipleMembers
  | .asyncZstd multipleMembers => multipleMembers

/-- The two formats, and what each decoder makes of an input without any part. -/
structure Codecs where
  member : UnitReader UInt8 UInt8
  frame : UnitReader UInt8 UInt8
  empty : Decoder → Except String (List UInt8)

namespace Codecs

variable (codecs : Codecs)

def reader : Decoder → UnitReader UInt8 UInt8
  | .flate2Gz | .asyncGzip _ => codecs.member
  | .zstd | .asyncZstd _ => codecs.frame

/-- What is read from a decoder, to its end. -/
def read (decoder : Decoder) (input : List UInt8) : Except String (List UInt8) :=
  if input.isEmpty then codecs.empty decoder
  else
    let decoded := if decoder.toTheEnd then (codecs.reader decoder).readAll input
      else (codecs.reader decoder).readFirst input
    decoded.elim (.error "corrupt input") .ok

/-- `gzip_decode`. -/
def gzipDecode (input : List UInt8) : Except String (List UInt8) := codecs.read .flate2Gz input

/-- `zstd_decode`. -/
def zstdDecode (input : List UInt8) : Except String (List UInt8) := codecs.read .zstd input

/-- `Compression::async_gzip_decompress`. -/
def asyncGzipDecompress (input : List UInt8) : Except String (List UInt8) := codecs.read (.asyncGzip false) input

/-- `Compression::async_zstd_decompress`. -/
def asyncZstdDecompress (input : List UInt8) : Except String (List UInt8) := codecs.read (.asyncZstd false) input

end Codecs

/-- `Compression::decompress`: what is written to the output. -/
def Compression.decompress (codecs : Codecs) : Compression → List UInt8 → Except String (List UInt8)
  | .gzip, input => codecs.gzipDecode input
  | .zstd, input => codecs.zstdDecode input
  | .uncompressed, _ => .error "uncompressed input data"

/-- `Compression::async_decompress`: what is read from it. -/
def Compression.asyncDecompress (codecs : Codecs) : Compression → List UInt8 → Except String (List UInt8)
  | .gzip, input => codecs.read (.asyncGzip true) input
  | .zstd, input => codecs.read (.asyncZstd false) input
  | .uncompressed, input => .ok input

/-- The decoders that are made for a format. -/
def decoders : Compression → List Decoder
  | .gzip => [.asyncGzip true, .flate2Gz, .asyncGzip false]
  | .zstd => [.asyncZstd false, .zstd]
  | .uncompressed => []

/-- What each function makes of an input in its format. -/
def decoded (codecs : Codecs) : Compression → List UInt8 → List (Except String (List UInt8))
  | .gzip, input => [Compression.gzip.asyncDecompress codecs input, Compression.gzip.decompress codecs input,
      codecs.asyncGzipDecompress input]
  | .zstd, input => [Compression.zstd.asyncDecompress codecs input, Compression.zstd.decompress codecs input,
      codecs.asyncZstdDecompress input]
  | .uncompressed, _ => []

/-- A part of a format, with its payload. -/
def IsPart (codecs : Codecs) : Compression → List UInt8 → List UInt8 → Prop
  | .gzip => codecs.member.IsUnit
  | .zstd => codecs.frame.IsUnit
  | .uncompressed => fun _ _ => False

/-- Every function gives all payloads, and the digest of a layer with a diff id of all payloads is that diff id. -/
structure DecodesAll (codecs : Codecs) (compression : Compression) (parts payloads : List (List UInt8)) : Prop where
  all : ∀ result ∈ decoded codecs compression parts.flatten, result = .ok payloads.flatten
  accepted : ∀ diffId layer (delivery : Delivery) digest, HasDiffId diffId payloads.flatten →
    compression.asyncDecompress codecs parts.flatten = .ok delivery.stream →
    uncompressedDigest layer diffId delivery = .ok digest → digest = diffId

/-- There is nothing behind the first part; and if there is no part at all, the decoders take that for nothing. -/
def FirstIsAll (codecs : Codecs) (compression : Compression) : List (List UInt8) → Prop
  | [] => ∀ decoder ∈ decoders compression, codecs.empty decoder = .ok []
  | _ :: later => later.flatten = []

variable {codecs : Codecs} {compression : Compression} {parts payloads : List (List UInt8)} {decoder : Decoder}
  {input : List UInt8}

theorem decoded_eq (codecs : Codecs) (compression : Compression) (input : List UInt8) :
    ∀ result, result ∈ decoded codecs compression input ↔ ∃ decoder ∈ decoders compression,
      result = codecs.read decoder input := by
  intro result
  cases compression with
  | uncompressed => simp [decoded, decoders]
  | gzip =>
    simp [decoded, decoders, Compression.asyncDecompress, Compression.decompress, Codecs.gzipDecode,
      Codecs.asyncGzipDecompress]
  | zstd =>
    simp [decoded, decoders, Compression.asyncDecompress, Compression.decompress, Codecs.zstdDecode,
      Codecs.asyncZstdDecompress]
    tauto

/-- The parts of a format are units of each of its decoders. -/
theorem IsPart.units (made : decoder ∈ decoders compression)
    (units : List.Forall₂ (IsPart codecs compression) parts payloads) :
    List.Forall₂ (codecs.reader decoder).IsUnit parts payloads := by
  cases compression with
  | uncompressed => cases made
  | gzip =>
    rcases List.mem_cons.mp made with rfl | made
    · exact units
    · rcases List.mem_cons.mp made with rfl | made
      · exact units
      · cases List.mem_singleton.mp made
        exact units
  | zstd =>
    rcases List.mem_cons.mp made with rfl | made
    · exact units
    · cases List.mem_singleton.mp made
      exact units

/-- What a decoder reads of one part and more. -/
theorem read_cons {part payload : List UInt8} (unit : (codecs.reader decoder).IsUnit part payload)
    (units : List.Forall₂ (codecs.reader decoder).IsUnit parts payloads) :
    codecs.read decoder (part :: parts).flatten =
      .ok (if decoder.toTheEnd then (payload :: payloads).flatten else payload) := by
  have some : ((part :: parts).flatten).isEmpty = false := by
    rw [List.isEmpty_eq_false_iff, List.flatten_cons]
    exact List.append_ne_nil_of_left_ne_nil unit.ne_nil _
  unfold Codecs.read
  rw [some]
  cases decoder.toTheEnd with
  | true =>
    show Option.elim ((codecs.reader decoder).readAll _) _ _ = _
    rw [UnitReader.readAll_flatten (.cons unit units)]
    rfl
  | false =>
    show Option.elim ((codecs.reader decoder).readFirst _) _ _ = _
    rw [List.flatten_cons, UnitReader.readFirst_append unit]
    rfl

/-- Some decoder of either format stops behind the first part. -/
theorem stops_early (compressed : compression ≠ .uncompressed) :
    ∃ decoder ∈ decoders compression, decoder.toTheEnd = false := by
  cases compression with
  | uncompressed => exact absurd rfl compressed
  | gzip => exact ⟨.flate2Gz, .tail _ (.head _), rfl⟩
  | zstd => exact ⟨.asyncZstd false, .head _, rfl⟩

/-- All functions give all payloads of a layer, and the layer's digest is the one of all payloads, exactly where
there is nothing behind the first part. -/
theorem decodes_all_iff (compressed : compression ≠ .uncompressed)
    (units : List.Forall₂ (IsPart codecs compression) parts payloads) :
    DecodesAll codecs compression parts payloads ↔ FirstIsAll codecs compression payloads := by
  have accepted : (∀ result ∈ decoded codecs compression parts.flatten, result = .ok payloads.flatten) →
      DecodesAll codecs compression parts payloads := by
    intro all
    refine ⟨all, fun diffId layer delivery digest has streamed handled => ?_⟩
    have first : compression.asyncDecompress codecs parts.flatten ∈ decoded codecs compression parts.flatten := by
      cases compression with
      | uncompressed => exact absurd rfl compressed
      | gzip => exact .head _
      | zstd => exact .head _
    have same : delivery.stream = payloads.flatten := Except.ok.inj (streamed.symm.trans (all _ first))
    rw [← same] at has
    exact Except.ok.inj ((uncompressedDigest_ok handled).symm.trans has)
  have all_iff : (∀ result ∈ decoded codecs compression parts.flatten, result = .ok payloads.flatten) ↔
      ∀ decoder ∈ decoders compression, codecs.read decoder parts.flatten = .ok payloads.flatten := by
    constructor
    · intro all decoder made
      exact all _ ((decoded_eq codecs compression _ _).mpr ⟨decoder, made, rfl⟩)
    · intro all result listed
      obtain ⟨decoder, made, rfl⟩ := (decoded_eq codecs compression _ _).mp listed
      exact all decoder made
  have whole : DecodesAll codecs compression parts payloads ↔
      ∀ decoder ∈ decoders compression, codecs.read decoder parts.flatten = .ok payloads.flatten :=
    ⟨fun decodes => all_iff.mp decodes.all, fun all => accepted (all_iff.mpr all)⟩
  rw [whole]
  cases units with
  | nil => rfl
  | @cons part payload parts payloads unit units =>
    have reads : ∀ decoder ∈ decoders compression, codecs.read decoder (part :: parts).flatten =
        .ok (if decoder.toTheEnd then (payload :: payloads).flatten else payload) := by
      intro decoder made
      obtain ⟨here, later⟩ := List.forall₂_cons.mp (IsPart.units made (.cons unit units))
      exact read_cons here later
    constructor
    · intro all
      obtain ⟨decoder, made, stops⟩ := stops_early compressed
      have same := (reads decoder made).symm.trans (all decoder made)
      rw [stops, List.flatten_cons] at same
      exact List.self_eq_append_right.mp (Except.ok.inj same)
    · intro last decoder made
      rw [reads decoder made, List.flatten_cons, show payloads.flatten = [] from last, List.append_nil, ite_self]

section Examples

/-- Reads a gzip member of one stored block, without extra fields. -/
def storedMember : List UInt8 → Option (List UInt8 × List UInt8)
  | 0x1f :: 0x8b :: 8 :: 0 :: _ :: _ :: _ :: _ :: _ :: _ :: 1 :: low :: high :: _ :: _ :: rest =>
    let length := low.toNat + 256 * high.toNat
    if length + 8 ≤ rest.length then some (rest.take length, rest.drop (length + 8)) else none
  | _ => none

/-- Reads a zstd frame of one raw block, with its size in one byte. -/
def rawFrame : List UInt8 → Option (List UInt8 × List UInt8)
  | 0x28 :: 0xb5 :: 0x2f :: 0xfd :: 0x20 :: size :: _ :: _ :: _ :: rest =>
    if size.toNat ≤ rest.length then some (rest.take size.toNat, rest.drop size.toNat) else none
  | _ => none

def plainCodecs : Codecs where
  member := ⟨storedMember, fun ran => by
    unfold storedMember at ran
    split at ran
    · dsimp only at ran
      split at ran
      · cases ran
        simp only [List.length_drop, List.length_cons]
        omega
      · cases ran
    · cases ran⟩
  frame := ⟨rawFrame, fun ran => by
    unfold rawFrame at ran
    split at ran
    · split at ran
      · cases ran
        simp only [List.length_drop, List.length_cons]
        omega
      · cases ran
    · cases ran⟩
  empty _ := .error "unexpected end of file"

/-- The members of the payloads `a` and `b`. -/
def memberA : List UInt8 :=
  [31, 139, 8, 0, 0, 0, 0, 0, 4, 3, 1, 1, 0, 254, 255, 97, 67, 190, 183, 232, 1, 0, 0, 0]

def memberB : List UInt8 :=
  [31, 139, 8, 0, 0, 0, 0, 0, 4, 3, 1, 1, 0, 254, 255, 98, 249, 239, 190, 113, 1, 0, 0, 0]

theorem memberA_isPart : IsPart plainCodecs .gzip memberA [97] := fun rest => by
  simp [plainCodecs, memberA, storedMember]

/-- `decodes_all_iff` for one member. -/
theorem one_member_decoded : DecodesAll plainCodecs .gzip [memberA] [[97]] :=
  (decodes_all_iff (by decide) (.cons memberA_isPart .nil)).mpr rfl

/-- Of two members the blocking decoder gives the first alone. -/
theorem second_member_lost : Compression.gzip.asyncDecompress plainCodecs [memberA, memberB].flatten = .ok [97, 98] ∧
    Compression.gzip.decompress plainCodecs [memberA, memberB].flatten = .ok [97] ∧
    ¬ DecodesAll plainCodecs .gzip [memberA, memberB] [[97], [98]] := by
  have blocking : Compression.gzip.decompress plainCodecs [memberA, memberB].flatten = .ok [97] := rfl
  refine ⟨rfl, blocking, fun decodes => ?_⟩
  have same := decodes.all _ (.tail _ (.head _))
  rw [blocking] at same
  cases same

end Examples

end GuestComponents.Image
