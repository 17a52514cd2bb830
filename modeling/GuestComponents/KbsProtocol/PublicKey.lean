import GuestComponents.Crypto.Interchange
import GuestComponents.KbsProtocol.UntrustedResponses

/-! The public key that the guest exports, over either back end. Both write a coordinate as 32
bytes; the native one fills up behind the digits of a short one, with the digit `0` of text.
`coordinates_agree_iff` says for which points the two write the same, and the exported key is
the key pair's own. -/
namespace GuestComponents.KbsProtocol
open Lib Crypto

def p256B : Nat := 0x5ac635d8aa3a93e7b3ebbd55769886bc651d06b0cc53b0f63bce3c3e27d2604b

/-- A point of P-256 that is not at infinity. -/
structure P256Point where
  x : Nat
  y : Nat
  xField : x < p256Prime
  yField : y < p256Prime
  onCurve : y ^ 2 % p256Prime = (x ^ 3 + (p256Prime - 3) * x + p256B) % p256Prime

/-- A key pair as each of the back ends holds it: OpenSSL gives the coordinates of its public key
as numbers, the crate as 32 bytes. -/
structure SharedKeyPair (openssl : OpenSsl) (crates : RustCrates) where
  point : P256Point
  native : openssl.PrivateKey
  rust : crates.SecretKey
  affine : openssl.affineCoordinates native = .ok (point.x, point.y)
  encodedX : (crates.x rust).map Vector.toList = some (BigEndian.fixed 32 point.x)
  encodedY : (crates.y rust).map Vector.toList = some (BigEndian.fixed 32 point.y)

/-- The key is that point: each coordinate is the 32 bytes of its number. -/
def TeePubKey.Denotes (point : P256Point) : TeePubKey → Prop
  | .rsa _ _ _ => False
  | .ec crv _ x y => crv = Curve.p256.asRef ∧
      Base64.decodeUrlSafe x = some (BigEndian.fixed 32 point.x) ∧
      Base64.decodeUrlSafe y = some (BigEndian.fixed 32 point.y)

section Resizing

open OpenSsl BigEndian

/-- A digit of text behind a number is not zero. -/
theorem value_padding (n : Nat) : 0 < value (List.replicate (n + 1) (UInt8.ofNat '0'.toNat)) := by
  rw [List.replicate_succ', value_append]
  have digit : value [UInt8.ofNat '0'.toNat] = 48 := by decide
  omega

/-- The native back end's coordinate is the 32 bytes of its number where that needs them all. -/
theorem resize32_eq_fixed_iff {n : Nat} (fits : n < 256 ^ 32) :
    resize32 (bigNumToVec n) = fixed 32 n ↔ 256 ^ 31 ≤ n := by
  have short : (shortest n).length ≤ 32 := shortest_length_le_iff.mpr fits
  have resized : resize32 (bigNumToVec n) =
      shortest n ++ List.replicate (32 - (shortest n).length) (UInt8.ofNat '0'.toNat) := by
    rw [resize32, show bigNumToVec n = shortest n from rfl, List.take_of_length_le short]
  constructor
  · intro same
    by_contra small
    have shorter : (shortest n).length ≤ 31 := shortest_length_le_iff.mpr (not_le.mp small)
    have values := congrArg value same
    obtain ⟨missing, rest⟩ : ∃ missing, 32 - (shortest n).length = missing + 1 :=
      ⟨31 - (shortest n).length, by omega⟩
    rw [resized, rest, value_append, value_shortest, value_fixed, List.length_replicate] at values
    have padded := value_padding missing
    have grown : n ≤ n * 256 ^ (missing + 1) := Nat.le_mul_of_pos_right n (Nat.pow_pos (by norm_num))
    omega
  · intro fills
    have long : ¬ (shortest n).length ≤ 31 := by
      rw [shortest_length_le_iff]
      omega
    have whole : 32 - (shortest n).length = 0 := by omega
    rw [resized, whole, List.replicate_zero, List.append_nil, fixed_eq_shortest fits fills]

end Resizing

section Agreement

variable {openssl : OpenSsl} {crates : RustCrates} (pair : SharedKeyPair openssl crates)

theorem P256Point.fits (point : P256Point) : point.x < 256 ^ 32 ∧ point.y < 256 ^ 32 := by
  have below : p256Prime < 256 ^ 32 := by decide +kernel
  exact ⟨point.xField.trans below, point.yField.trans below⟩

theorem SharedKeyPair.native_x :
    openssl.ecX pair.native = .ok (OpenSsl.resize32 (OpenSsl.bigNumToVec pair.point.x)) := by
  rw [OpenSsl.ecX, pair.affine]
  rfl

theorem SharedKeyPair.native_y :
    openssl.ecY pair.native = .ok (OpenSsl.resize32 (OpenSsl.bigNumToVec pair.point.y)) := by
  rw [OpenSsl.ecY, pair.affine]
  rfl

theorem SharedKeyPair.rust_x : crates.ecX pair.rust = .ok (BigEndian.fixed 32 pair.point.x) := by
  obtain ⟨bytes, encoded, same⟩ := Option.map_eq_some_iff.mp pair.encodedX
  rw [RustCrates.ecX, encoded, ← same]
  rfl

theorem SharedKeyPair.rust_y : crates.ecY pair.rust = .ok (BigEndian.fixed 32 pair.point.y) := by
  obtain ⟨bytes, encoded, same⟩ := Option.map_eq_some_iff.mp pair.encodedY
  rw [RustCrates.ecY, encoded, ← same]
  rfl

/-- What either back end exports of coordinates that it has read. -/
theorem exportPubkey_denotes_iff {backend : Backend} {key : backend.EcKeyPair} {x y : List UInt8} (point : P256Point)
    (hasX : backend.x key = .ok x) (hasY : backend.y key = .ok y) :
    (∃ exported, (⟨.ec key⟩ : TeeKeyPair backend).exportPubkey = .ok exported ∧ exported.Denotes point) ↔
      x = BigEndian.fixed 32 point.x ∧ y = BigEndian.fixed 32 point.y := by
  have exports : (⟨.ec key⟩ : TeeKeyPair backend).exportPubkey = .ok (.ec Curve.p256.asRef
      KeyWrapAlgorithm.ecdhEsA256Kw.asRef (Base64.encodeUrlSafe x) (Base64.encodeUrlSafe y)) := by
    rw [TeeKeyPair.exportPubkey]
    simp only [hasX, hasY]
    rfl
  rw [exports]
  simp only [Except.ok.injEq, exists_eq_left', TeePubKey.Denotes, Base64.decodeUrlSafe_encodeUrlSafe, Option.some_inj,
    true_and]

/-- **The coordinates agree** between the back ends, and the native one exports the key pair's own
point, exactly where neither coordinate begins with a zero byte. A shorter one is filled up with
text on its other end, and is that of another point, or of none. The rust back end always exports
its own point. -/
theorem coordinates_agree_iff :
    ((openssl.ecX pair.native = crates.ecX pair.rust ∧ openssl.ecY pair.native = crates.ecY pair.rust ∧
        ∃ exported, (⟨.ec pair.native⟩ : TeeKeyPair openssl.backend).exportPubkey = .ok exported ∧
          exported.Denotes pair.point) ↔
      256 ^ 31 ≤ pair.point.x ∧ 256 ^ 31 ≤ pair.point.y) ∧
    ∃ exported, (⟨.ec pair.rust⟩ : TeeKeyPair crates.backend).exportPubkey = .ok exported ∧
      exported.Denotes pair.point := by
  obtain ⟨xFits, yFits⟩ := pair.point.fits
  constructor
  · rw [@exportPubkey_denotes_iff openssl.backend _ _ _ pair.point pair.native_x pair.native_y, pair.native_x,
      pair.native_y, pair.rust_x, pair.rust_y, Except.ok.injEq, Except.ok.injEq, ← resize32_eq_fixed_iff xFits,
      ← resize32_eq_fixed_iff yFits]
    tauto
  · exact (@exportPubkey_denotes_iff crates.backend _ _ _ pair.point pair.rust_x pair.rust_y).mpr ⟨rfl, rfl⟩

/-- The point of the private key 43, whose second coordinate has 31 bytes. -/
def shortPoint : P256Point where
  x := 0x986ae2506f1ff104d04230861d8f4b498f4bc4c6d009b30f7544dc129b82d28d
  y := 0x3cccc0a6460e0ae328a4d97d3c7b61d86fc6289c189f2525110c441bb07e97
  xField := by decide +kernel
  yField := by decide +kernel
  onCurve := by decide +kernel

/-- Both back ends on that key pair. -/
def shortPair : SharedKeyPair { generatorOpenSsl with affineCoordinates := fun _ => .ok (shortPoint.x, shortPoint.y) }
    { generatorCrates with
      x := fun _ => some ⟨(BigEndian.fixed 32 shortPoint.x).toArray, BigEndian.fixed_length shortPoint.fits.1⟩
      y := fun _ => some ⟨(BigEndian.fixed 32 shortPoint.y).toArray, BigEndian.fixed_length shortPoint.fits.2⟩ }
        where
  point := shortPoint
  native := ()
  rust := ()
  affine := rfl
  encodedX := rfl
  encodedY := rfl

/-- One key in 128 has such a coordinate. -/
theorem short_coordinate_differs : ¬ ∀ openssl crates, ∀ pair : SharedKeyPair openssl crates,
    openssl.ecX pair.native = crates.ecX pair.rust ∧ openssl.ecY pair.native = crates.ecY pair.rust ∧
      ∃ exported, (⟨.ec pair.native⟩ : TeeKeyPair openssl.backend).exportPubkey = .ok exported ∧
        exported.Denotes pair.point := by
  intro holds
  have same := (holds _ _ shortPair).2.1
  rw [shortPair.native_y, shortPair.rust_y, Except.ok.injEq, resize32_eq_fixed_iff shortPair.point.fits.2] at same
  exact absurd same (by decide +kernel)

end Agreement
end GuestComponents.KbsProtocol
