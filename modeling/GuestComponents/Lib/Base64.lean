import GuestComponents.Lib.Text

/-! Standard base64 with canonical padding. What was encoded is decoded again
(`decode_encode`), and an encoding is text of its alphabet only. -/
namespace GuestComponents.Lib.Base64

def digit (n : Nat) : Char :=
  if n < 26 then Char.ofNat (65 + n)
  else if n < 52 then Char.ofNat (71 + n)
  else if n < 62 then Char.ofNat (n - 4)
  else if n = 62 then '+'
  else '/'

def value (c : Char) : Option Nat :=
  let n := c.toNat
  if 65 ≤ n ∧ n ≤ 90 then some (n - 65)
  else if 97 ≤ n ∧ n ≤ 122 then some (n - 71)
  else if 48 ≤ n ∧ n ≤ 57 then some (n + 4)
  else if c = '+' then some 62
  else if c = '/' then some 63
  else none

def encode : List UInt8 → Text
  | [] => []
  | [a] => [digit (a.toNat / 4), digit (a.toNat % 4 * 16), '=', '=']
  | [a, b] =>
    [digit (a.toNat / 4), digit (a.toNat % 4 * 16 + b.toNat / 16), digit (b.toNat % 16 * 4), '=']
  | a :: b :: c :: rest =>
    digit (a.toNat / 4) :: digit (a.toNat % 4 * 16 + b.toNat / 16) ::
      digit (b.toNat % 16 * 4 + c.toNat / 64) :: digit (c.toNat % 64) :: encode rest

/-- The bytes of a group that is not the last, or not padded. -/
def decodeGroup (w x y z : Char) : Option (List UInt8) := do
  let w ← value w
  let x ← value x
  let y ← value y
  let z ← value z
  some [UInt8.ofNat (w * 4 + x / 16), UInt8.ofNat (x % 16 * 16 + y / 4), UInt8.ofNat (y % 4 * 64 + z)]

/-- The bytes of a last group: the bits that the padding stands for are zero. -/
def decodeLast (w x y z : Char) : Option (List UInt8) :=
  if z ≠ '=' then decodeGroup w x y z
  else if y ≠ '=' then do
    let w ← value w
    let x ← value x
    let y ← value y
    if y % 4 = 0 then some [UInt8.ofNat (w * 4 + x / 16), UInt8.ofNat (x % 16 * 16 + y / 4)] else none
  else do
    let w ← value w
    let x ← value x
    if x % 16 = 0 then some [UInt8.ofNat (w * 4 + x / 16)] else none

def decode : Text → Option (List UInt8)
  | [] => some []
  | [w, x, y, z] => decodeLast w x y z
  | w :: x :: y :: z :: rest => do
    let group ← decodeGroup w x y z
    let bytes ← decode rest
    some (group ++ bytes)
  | _ => none

/-- The standard digit that stands for one of the URL-safe alphabet; a blank, which is no
digit, for a character outside it. -/
def ofUrlSafe (c : Char) : Char :=
  if c = '-' then '+' else if c = '_' then '/'
  else if c = '+' ∨ c = '/' ∨ c = '=' then ' ' else c

def toUrlSafe (c : Char) : Char :=
  if c = '+' then '-' else if c = '/' then '_' else c

/-- `URL_SAFE_NO_PAD.encode`. -/
def encodeUrlSafe (bytes : List UInt8) : Text := ((encode bytes).filter (· ≠ '=')).map toUrlSafe

/-- `URL_SAFE_NO_PAD.decode`. -/
def decodeUrlSafe (text : Text) : Option (List UInt8) :=
  decode (text.map ofUrlSafe ++ List.replicate ((4 - text.length % 4) % 4) '=')

/-- A written digit is read back. -/
theorem value_digit {n : Nat} (small : n < 64) : value (digit n) = some n := by
  interval_cases n <;> decide

theorem digit_ne_pad {n : Nat} (small : n < 64) : digit n ≠ '=' := by
  interval_cases n <;> decide

theorem digit_ne_comma {n : Nat} (small : n < 64) : digit n ≠ ',' := by
  interval_cases n <;> decide

theorem ofNat_of_eq {a : UInt8} {n : Nat} (same : n = a.toNat) : UInt8.ofNat n = a := by
  rw [same, UInt8.ofNat_toNat]

theorem decodeGroup_digits (a b c : UInt8) :
    decodeGroup (digit (a.toNat / 4)) (digit (a.toNat % 4 * 16 + b.toNat / 16))
      (digit (b.toNat % 16 * 4 + c.toNat / 64)) (digit (c.toNat % 64)) = some [a, b, c] := by
  have boundA := a.toNat_lt
  have boundB := b.toNat_lt
  have boundC := c.toNat_lt
  rw [decodeGroup, value_digit (by omega), value_digit (by omega), value_digit (by omega),
    value_digit (by omega)]
  have first : a.toNat / 4 * 4 + (a.toNat % 4 * 16 + b.toNat / 16) / 16 = a.toNat := by omega
  have second : (a.toNat % 4 * 16 + b.toNat / 16) % 16 * 16 +
      (b.toNat % 16 * 4 + c.toNat / 64) / 4 = b.toNat := by omega
  have third : (b.toNat % 16 * 4 + c.toNat / 64) % 4 * 64 + c.toNat % 64 = c.toNat := by omega
  simp only [Option.bind_eq_bind, Option.bind_some, ofNat_of_eq first, ofNat_of_eq second,
    ofNat_of_eq third]

/-- What was encoded is decoded. -/
theorem decode_encode (bytes : List UInt8) : decode (encode bytes) = some bytes := by
  induction bytes using encode.induct with
  | case1 => rfl
  | case2 a =>
    have bound := a.toNat_lt
    have whole : a.toNat / 4 * 4 + a.toNat % 4 * 16 / 16 = a.toNat := by omega
    have zero : a.toNat % 4 * 16 % 16 = 0 := by omega
    simp only [encode, decode, decodeLast, ne_eq, not_true_eq_false, if_false]
    rw [value_digit (by omega), value_digit (by omega)]
    simp only [Option.bind_eq_bind, Option.bind_some, zero, if_true, ofNat_of_eq whole]
  | case3 a b =>
    have boundA := a.toNat_lt
    have boundB := b.toNat_lt
    have first : a.toNat / 4 * 4 + (a.toNat % 4 * 16 + b.toNat / 16) / 16 = a.toNat := by omega
    have second : (a.toNat % 4 * 16 + b.toNat / 16) % 16 * 16 + b.toNat % 16 * 4 / 4 = b.toNat := by
      omega
    have zero : b.toNat % 16 * 4 % 4 = 0 := by omega
    have unpadded : digit (b.toNat % 16 * 4) ≠ '=' := digit_ne_pad (by omega)
    simp only [encode, decode, decodeLast, ne_eq, not_true_eq_false, if_false, unpadded,
      not_false_eq_true, if_true]
    rw [value_digit (by omega), value_digit (by omega), value_digit (by omega)]
    simp only [Option.bind_eq_bind, Option.bind_some, zero, if_true, ofNat_of_eq first,
      ofNat_of_eq second]
  | case4 a b c rest ih =>
    have boundC := c.toNat_lt
    have unpadded : digit (c.toNat % 64) ≠ '=' := digit_ne_pad (by omega)
    rw [encode]
    cases later : encode rest with
    | nil =>
      rw [later] at ih
      cases ih
      rw [decode, decodeLast, if_pos unpadded, decodeGroup_digits]
    | cons first more =>
      rw [later] at ih
      rw [decode, decodeGroup_digits, ih]
      · rfl
      · simp

/-- An encoding is digits, and padding up to a multiple of four. -/
theorem encode_eq_digits (bytes : List UInt8) : ∃ digits : List Nat, (∀ n ∈ digits, n < 64) ∧
    encode bytes = digits.map digit ++ List.replicate ((4 - digits.length % 4) % 4) '=' := by
  induction bytes using encode.induct with
  | case1 => exact ⟨[], List.forall_mem_nil _, rfl⟩
  | case2 a =>
    have bound := a.toNat_lt
    refine ⟨[a.toNat / 4, a.toNat % 4 * 16], ?_, rfl⟩
    simp only [List.forall_mem_cons]
    exact ⟨by omega, by omega, List.forall_mem_nil _⟩
  | case3 a b =>
    have boundA := a.toNat_lt
    have boundB := b.toNat_lt
    refine ⟨[a.toNat / 4, a.toNat % 4 * 16 + b.toNat / 16, b.toNat % 16 * 4], ?_, rfl⟩
    simp only [List.forall_mem_cons]
    exact ⟨by omega, by omega, by omega, List.forall_mem_nil _⟩
  | case4 a b c rest ih =>
    obtain ⟨digits, small, whole⟩ := ih
    have boundA := a.toNat_lt
    have boundB := b.toNat_lt
    have boundC := c.toNat_lt
    refine ⟨a.toNat / 4 :: (a.toNat % 4 * 16 + b.toNat / 16) :: (b.toNat % 16 * 4 + c.toNat / 64) ::
      (c.toNat % 64) :: digits, ?_, ?_⟩
    · simp only [List.forall_mem_cons]
      exact ⟨by omega, by omega, by omega, by omega, small⟩
    · have groups : (digits.length + 1 + 1 + 1 + 1) % 4 = digits.length % 4 := by omega
      rw [encode, whole]
      simp only [List.map_cons, List.length_cons, groups, List.cons_append]

theorem ofUrlSafe_toUrlSafe {n : Nat} (small : n < 64) : ofUrlSafe (toUrlSafe (digit n)) = digit n := by
  interval_cases n <;> decide

/-- What was encoded for a URL is decoded. -/
theorem decodeUrlSafe_encodeUrlSafe (bytes : List UInt8) : decodeUrlSafe (encodeUrlSafe bytes) = some bytes := by
  obtain ⟨digits, small, whole⟩ := encode_eq_digits bytes
  have kept : (encode bytes).filter (· ≠ '=') = digits.map digit := by
    rw [whole, List.filter_append, List.filter_eq_self.mpr, List.filter_eq_nil_iff.mpr, List.append_nil]
    · intro c listed
      simpa using List.eq_of_mem_replicate listed
    · intro c listed
      obtain ⟨n, among, rfl⟩ := List.mem_map.mp listed
      simpa using digit_ne_pad (small n among)
  have back : ((digits.map digit).map toUrlSafe).map ofUrlSafe = digits.map digit := by
    rw [List.map_map, List.map_map]
    exact List.map_congr_left fun n among => ofUrlSafe_toUrlSafe (small n among)
  rw [decodeUrlSafe, encodeUrlSafe, kept, back, List.length_map, List.length_map, ← whole, decode_encode]

theorem toUrlSafe_ne_dot {n : Nat} (small : n < 64) : toUrlSafe (digit n) ≠ '.' := by
  interval_cases n <;> decide

/-- No dot stands in what was encoded for a URL. -/
theorem dot_not_mem_encodeUrlSafe (bytes : List UInt8) : '.' ∉ encodeUrlSafe bytes := by
  intro listed
  obtain ⟨c, kept, same⟩ := List.mem_map.mp listed
  obtain ⟨within, other⟩ := List.mem_filter.mp kept
  obtain ⟨digits, small, whole⟩ := encode_eq_digits bytes
  rw [whole, List.mem_append] at within
  rcases within with digit | pad
  · obtain ⟨n, among, rfl⟩ := List.mem_map.mp digit
    exact toUrlSafe_ne_dot (small n among) same
  · exact of_decide_eq_true other (List.eq_of_mem_replicate pad)

theorem encode_eq_nil {bytes : List UInt8} : encode bytes = [] ↔ bytes = [] := by
  rcases bytes with _ | ⟨a, _ | ⟨b, _ | ⟨c, rest⟩⟩⟩ <;> simp [encode]

/-- No comma stands in an encoding. -/
theorem comma_not_mem_encode (bytes : List UInt8) : ',' ∉ encode bytes := by
  induction bytes using encode.induct with
  | case1 => exact List.not_mem_nil
  | case2 a =>
    have bound := a.toNat_lt
    have first : digit (a.toNat / 4) ≠ ',' := digit_ne_comma (by omega)
    have second : digit (a.toNat % 4 * 16) ≠ ',' := digit_ne_comma (by omega)
    simp [encode, first.symm, second.symm]
  | case3 a b =>
    have boundA := a.toNat_lt
    have boundB := b.toNat_lt
    have first : digit (a.toNat / 4) ≠ ',' := digit_ne_comma (by omega)
    have second : digit (a.toNat % 4 * 16 + b.toNat / 16) ≠ ',' := digit_ne_comma (by omega)
    have third : digit (b.toNat % 16 * 4) ≠ ',' := digit_ne_comma (by omega)
    simp [encode, first.symm, second.symm, third.symm]
  | case4 a b c rest ih =>
    have boundA := a.toNat_lt
    have boundB := b.toNat_lt
    have boundC := c.toNat_lt
    have first : digit (a.toNat / 4) ≠ ',' := digit_ne_comma (by omega)
    have second : digit (a.toNat % 4 * 16 + b.toNat / 16) ≠ ',' := digit_ne_comma (by omega)
    have third : digit (b.toNat % 16 * 4 + c.toNat / 64) ≠ ',' := digit_ne_comma (by omega)
    have fourth : digit (c.toNat % 64) ≠ ',' := digit_ne_comma (by omega)
    simp [encode, first.symm, second.symm, third.symm, fourth.symm, ih]

theorem decodeGroup_length {w x y z : Char} {bytes : List UInt8} (decoded : decodeGroup w x y z = some bytes) :
    bytes.length = 3 := by
  obtain ⟨a, _, decoded⟩ := Option.bind_eq_some_iff.mp decoded
  obtain ⟨b, _, decoded⟩ := Option.bind_eq_some_iff.mp decoded
  obtain ⟨c, _, decoded⟩ := Option.bind_eq_some_iff.mp decoded
  obtain ⟨d, _, decoded⟩ := Option.bind_eq_some_iff.mp decoded
  cases decoded
  rfl

theorem decodeLast_length {w x y z : Char} {bytes : List UInt8} (decoded : decodeLast w x y z = some bytes) :
    bytes.length ≤ 3 := by
  rw [decodeLast] at decoded
  split at decoded
  · exact (decodeGroup_length decoded).le
  · split at decoded
    · obtain ⟨a, _, decoded⟩ := Option.bind_eq_some_iff.mp decoded
      obtain ⟨b, _, decoded⟩ := Option.bind_eq_some_iff.mp decoded
      obtain ⟨c, _, decoded⟩ := Option.bind_eq_some_iff.mp decoded
      obtain ⟨_, ⟨⟩⟩ | ⟨_, ⟨⟩⟩ := ite_eq_iff.mp decoded
      simp
    · obtain ⟨a, _, decoded⟩ := Option.bind_eq_some_iff.mp decoded
      obtain ⟨b, _, decoded⟩ := Option.bind_eq_some_iff.mp decoded
      obtain ⟨_, ⟨⟩⟩ | ⟨_, ⟨⟩⟩ := ite_eq_iff.mp decoded
      simp

/-- Four characters are at most three bytes. -/
theorem decode_length {text : Text} {bytes : List UInt8} (decoded : decode text = some bytes) :
    4 * bytes.length ≤ 3 * text.length := by
  induction text using decode.induct generalizing bytes with
  | case1 =>
    cases decoded
    simp
  | case2 w x y z =>
    have short := decodeLast_length decoded
    simp only [List.length_cons, List.length_nil]
    omega
  | case3 w x y z rest notLast ih =>
    rw [decode] at decoded
    · obtain ⟨group, head, decoded⟩ := Option.bind_eq_some_iff.mp decoded
      obtain ⟨others, tail, decoded⟩ := Option.bind_eq_some_iff.mp decoded
      cases decoded
      have three := decodeGroup_length head
      have shorter := ih tail
      simp only [List.length_append, List.length_cons]
      omega
    · exact notLast
  | case4 text _ _ _ =>
    rw [decode] at decoded
    · cases decoded
    all_goals assumption

end GuestComponents.Lib.Base64
