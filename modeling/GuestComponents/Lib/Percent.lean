import GuestComponents.Lib.Text

/-! Percent-encoding with the sets of the URL standard. A set that leaves the percent sign and
the digits alone (`Leaves`) has none of its characters in an encoded text, and encoding is the
identity on a text without them (`encode_of_clean`). -/
namespace GuestComponents.Lib.Percent
open Lib.Text

/-- The C0 control percent-encode set. -/
def c0Control (c : Char) : Bool := decide (c.toNat ≤ 0x1F) || decide (0x7E < c.toNat)

/-- The query percent-encode set. -/
def querySet (c : Char) : Bool := c0Control c || [' ', '"', '#', '<', '>'].contains c

/-- The path percent-encode set. -/
def pathSet (c : Char) : Bool := querySet c || ['?', '^', '\x60', '\x7b', '\x7d'].contains c

def hexDigitUpper (n : Nat) : Char := if n < 10 then Char.ofNat (48 + n) else Char.ofNat (55 + n)

/-- Percent-encode a byte. -/
def encodeByte (byte : UInt8) : Text :=
  ['%', hexDigitUpper (byte.toNat / 16), hexDigitUpper (byte.toNat % 16)]

/-- UTF-8 percent-encode a code point. -/
def encodeChar (set : Char → Bool) (c : Char) : Text :=
  if set c then (String.utf8EncodeChar c).flatMap encodeByte else [c]

def encode (set : Char → Bool) (text : Text) : Text := text.flatMap (encodeChar set)

/-- The characters that an encoded character is written with. -/
def written : List Char := "%0123456789ABCDEF".toList

/-- A set that none of these is in. -/
def Leaves (set : Char → Bool) : Prop := ∀ c ∈ written, set c = false

theorem clean_of_any {set : Char → Bool} {text : Text} (none_ : text.any set = false) :
    ∀ c ∈ text, set c = false :=
  fun c listed => Bool.eq_false_iff.mpr (List.any_eq_false.mp none_ c listed)

theorem leaves_c0Control : Leaves c0Control := clean_of_any rfl

theorem leaves_querySet : Leaves querySet := clean_of_any rfl

theorem leaves_pathSet : Leaves pathSet := clean_of_any rfl

variable {set : Char → Bool} {text : Text} {c : Char}

theorem hexDigitUpper_written {n : Nat} (digit : n < 16) : hexDigitUpper n ∈ written := by
  have all : ∀ n < 16, hexDigitUpper n ∈ written := by decide
  exact all n digit

theorem encodeByte_written (byte : UInt8) : ∀ c ∈ encodeByte byte, c ∈ written := by
  have below : byte.toNat < 256 := byte.toNat_lt
  have high : hexDigitUpper (byte.toNat / 16) ∈ written := hexDigitUpper_written (by omega)
  have low : hexDigitUpper (byte.toNat % 16) ∈ written := hexDigitUpper_written (by omega)
  have percent : '%' ∈ written := by decide
  intro c listed
  simp only [encodeByte, List.mem_cons, List.not_mem_nil, or_false] at listed
  rcases listed with rfl | rfl | rfl
  · exact percent
  · exact high
  · exact low

/-- A character of an encoded text stood in the text and not in the set, or encodes another. -/
theorem mem_encode (listed : c ∈ encode set text) : (c ∈ text ∧ set c = false) ∨ c ∈ written := by
  obtain ⟨source, member, within⟩ := List.mem_flatMap.mp listed
  rw [encodeChar] at within
  split at within
  · obtain ⟨byte, _, among⟩ := List.mem_flatMap.mp within
    exact .inr (encodeByte_written byte c among)
  · rename_i out
    obtain rfl := List.mem_singleton.mp within
    exact .inl ⟨member, Bool.eq_false_iff.mpr out⟩

theorem encode_clean (leaves : Leaves set) : ∀ c ∈ encode set text, set c = false := by
  intro c listed
  rcases mem_encode listed with ⟨_, out⟩ | among
  · exact out
  · exact leaves c among

/-- A character that is not encoded, and encodes none, is in the encoded text if it is in the text. -/
theorem mem_encode_iff (out : set c = false) (other : c ∉ written) : c ∈ encode set text ↔ c ∈ text := by
  constructor
  · intro listed
    rcases mem_encode listed with ⟨member, _⟩ | among
    · exact member
    · exact absurd among other
  · intro member
    exact List.mem_flatMap.mpr ⟨c, member, by rw [encodeChar, out]; exact List.mem_singleton_self c⟩

theorem notMem_encode (absent : c ∉ text) (other : c ∉ written) : c ∉ encode set text := by
  intro listed
  rcases mem_encode listed with ⟨member, _⟩ | among
  · exact absent member
  · exact other among

theorem count_encode (out : set c = false) (other : c ∉ written) : (encode set text).count c = text.count c := by
  have one (d : Char) : (encodeChar set d).count c = [d].count c := by
    rw [encodeChar]
    split
    · rename_i within
      have apart : c ∉ (String.utf8EncodeChar d).flatMap encodeByte := by
        intro listed
        obtain ⟨byte, _, among⟩ := List.mem_flatMap.mp listed
        exact other (encodeByte_written byte c among)
      have differs : c ∉ [d] := by
        intro same
        obtain rfl := List.mem_singleton.mp same
        exact absurd within (by rw [out]; exact Bool.false_ne_true)
      rw [List.count_eq_zero_of_not_mem apart, List.count_eq_zero_of_not_mem differs]
    · rfl
  induction text with
  | nil => rfl
  | cons d rest ih =>
    rw [encode, List.flatMap_cons, ← encode, List.count_append, one, ih, ← List.count_append, List.singleton_append]

theorem encode_of_clean (clean : ∀ c ∈ text, set c = false) : encode set text = text := by
  induction text with
  | nil => rfl
  | cons c rest ih =>
    obtain ⟨out, others⟩ := List.forall_mem_cons.mp clean
    rw [encode, List.flatMap_cons, ← encode, ih others, encodeChar, out]
    rfl

theorem encode_append (first rest : Text) : encode set (first ++ rest) = encode set first ++ encode set rest :=
  List.flatMap_append

theorem encodeChar_ne_nil : encodeChar set c ≠ [] := by
  rw [encodeChar]
  split
  · unfold String.utf8EncodeChar
    dsimp only
    repeat' split
    all_goals simp [encodeByte]
  · exact List.cons_ne_nil c []

theorem encode_eq_nil_iff : encode set text = [] ↔ text = [] := by
  constructor
  · intro empty
    cases text with
    | nil => rfl
    | cons c rest =>
      rw [encode, List.flatMap_cons, List.append_eq_nil_iff] at empty
      exact absurd empty.1 encodeChar_ne_nil
  · rintro rfl
    rfl

end GuestComponents.Lib.Percent
