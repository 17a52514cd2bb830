import GuestComponents.Lib.Percent

/-! Form encoding: the serializer of bytes, the parser of a query, and the percent-encoding that
leaves only the unreserved characters. Replacing in a text of tokens replaces tokens
(`replace_flatten`), so that the form serializer with its three replacements is that encoding
(`patched_eq_encode`). What was encoded with a set of all that delimits (`Delimits`) is parsed as it
was (`parse_serialize`). -/
namespace GuestComponents.Lib.FormUrlencoded
open Lib.Text Lib.Percent

section Replacing

/-- `str::replace` behind a match, of which `skip` characters are left. -/
def replaceFrom (pattern new : Text) (skip : Nat) : Text → Text
  | [] => []
  | c :: rest =>
    match skip with
    | skip + 1 => replaceFrom pattern new skip rest
    | 0 =>
      if pattern.isPrefixOf (c :: rest) then new ++ replaceFrom pattern new (pattern.length - 1) rest
      else c :: replaceFrom pattern new 0 rest

/-- `str::replace`, of a pattern that is not empty. -/
def replace (pattern new text : Text) : Text := replaceFrom pattern new 0 text

/-- One character, or a marker with as many behind it as its width. -/
def isToken (marker : Char) (width : Nat) : Text → Bool
  | [] => false
  | c :: rest => if c = marker then rest.length == width && !rest.contains marker else rest.isEmpty

variable {pattern new front rest text : Text} {marker c : Char}

theorem replaceFrom_skip : replaceFrom pattern new front.length (front ++ rest) = replace pattern new rest := by
  induction front with
  | nil => rfl
  | cons c front ih =>
    rw [List.length_cons, List.cons_append, replaceFrom]
    exact ih

/-- A match is replaced, and the text goes on behind it. -/
theorem replace_match :
    replace (c :: pattern) new ((c :: pattern) ++ rest) = new ++ replace (c :: pattern) new rest := by
  have matches_ : (c :: pattern).isPrefixOf (c :: (pattern ++ rest)) = true :=
    List.isPrefixOf_iff_prefix.mpr (List.prefix_append (c :: pattern) rest)
  rw [replace, List.cons_append, replaceFrom, if_pos matches_]
  exact congrArg (new ++ ·) replaceFrom_skip

theorem replace_miss (other : ¬ pattern <+: c :: rest) :
    replace pattern new (c :: rest) = c :: replace pattern new rest := by
  rw [replace, replaceFrom, if_neg (mt List.isPrefixOf_iff_prefix.mp other), replace]

/-- No match begins where its first character is not. -/
theorem replace_front (absent : marker ∉ front) :
    replace (marker :: pattern) new (front ++ rest) = front ++ replace (marker :: pattern) new rest := by
  induction front with
  | nil => rfl
  | cons c front ih =>
    rw [List.mem_cons, not_or] at absent
    rw [List.cons_append, replace_miss, ih absent.2, List.cons_append]
    intro matches_
    exact absent.1 (List.cons_prefix_cons.mp matches_).1

theorem replace_char (text : Text) :
    replace [marker] new text = text.flatMap fun c => if c = marker then new else [c] := by
  induction text with
  | nil => rfl
  | cons c rest ih =>
    rw [List.flatMap_cons, ← ih]
    split
    · rename_i here
      subst here
      exact replace_match
    · rename_i other
      exact @replace_front [] new [c] rest marker (by simpa using Ne.symm other)

/-- Tokens are replaced as wholes. -/
theorem replace_flatten {tokens : List Text} (all : ∀ token ∈ tokens, isToken marker pattern.length token = true) :
    replace (marker :: pattern) new tokens.flatten =
      (tokens.map fun token => if token = marker :: pattern then new else token).flatten := by
  induction tokens with
  | nil => rfl
  | cons token tokens ih =>
    obtain ⟨first, others⟩ := List.forall_mem_cons.mp all
    rw [List.flatten_cons, List.map_cons, List.flatten_cons, ← ih others]
    cases token with
    | nil => cases first
    | cons c rest =>
      rw [isToken] at first
      split at first
      · rename_i here
        subst here
        rw [Bool.and_eq_true, beq_iff_eq, Bool.not_eq_true', List.contains_eq_mem, decide_eq_false_iff_not] at first
        split
        · rename_i same
          rw [same]
          exact replace_match
        · rename_i differs
          rw [List.cons_append, replace_miss, replace_front first.2, List.cons_append]
          intro matches_
          have tail := (List.cons_prefix_cons.mp matches_).2
          have same : pattern = rest :=
            (List.prefix_of_prefix_length_le tail (List.prefix_append rest _) (Nat.le_of_eq first.1.symm)).eq_of_length
              first.1.symm
          exact differs (by rw [same])
      · rename_i other
        obtain rfl := List.isEmpty_iff.mp first
        rw [if_neg fun same => other (List.cons.inj same).1]
        exact replace_front (by simpa using Ne.symm other)

end Replacing

section Encoding

/-- The unreserved characters of a URI. -/
def unreserved (c : Char) : Bool := c.isAlphanum || ['-', '.', '_', '~'].contains c

def reservedSet (c : Char) : Bool := !unreserved c

def charOf (byte : UInt8) : Char := Char.ofNat byte.toNat

/-- The bytes that a form keeps. -/
def kept (byte : UInt8) : Bool := (charOf byte).isAlphanum || ['*', '-', '.', '_'].contains (charOf byte)

def serializeByte (byte : UInt8) : Text :=
  if kept byte then [charOf byte]
  else if byte = 0x20 then ['+']
  else encodeByte byte

/-- `form_urlencoded::byte_serialize`. -/
def byteSerialize (bytes : List UInt8) : Text := bytes.flatMap serializeByte

/-- What encodes a byte if only the unreserved characters are kept. -/
def reservedByte (byte : UInt8) : Text := if unreserved (charOf byte) then [charOf byte] else encodeByte byte

/-- A serialized byte after the first two replacements. -/
def halfPatched (byte : UInt8) : Text :=
  ((serializeByte byte).flatMap fun c => if c = '+' then "%20".toList else [c]).flatMap fun c =>
    if c = '*' then "%2A".toList else [c]

theorem forall_byte {p : UInt8 → Prop} (all : ∀ n < 256, p (UInt8.ofNat n)) (byte : UInt8) : p byte := by
  have some_ := all byte.toNat byte.toNat_lt
  rwa [UInt8.ofNat_toNat] at some_

theorem halfPatched_token (byte : UInt8) : isToken '%' 2 (halfPatched byte) = true :=
  forall_byte (p := fun byte => isToken '%' 2 (halfPatched byte) = true) (by decide +kernel) byte

theorem halfPatched_replaced (byte : UInt8) :
    (if halfPatched byte = "%7E".toList then "~".toList else halfPatched byte) = reservedByte byte :=
  forall_byte
    (p := fun byte => (if halfPatched byte = "%7E".toList then "~".toList else halfPatched byte) = reservedByte byte)
    (by decide +kernel) byte

/-- The three replacements leave no byte but as the encoding has it. -/
theorem patched_bytes (bytes : List UInt8) :
    replace "%7E".toList "~".toList
      (replace "*".toList "%2A".toList (replace "+".toList "%20".toList (byteSerialize bytes))) =
      bytes.flatMap reservedByte := by
  have half : replace "*".toList "%2A".toList (replace "+".toList "%20".toList (byteSerialize bytes)) =
      (bytes.map halfPatched).flatten := by
    rw [show "+".toList = ['+'] from rfl, show "*".toList = ['*'] from rfl, replace_char, replace_char, byteSerialize,
      List.flatMap_assoc, List.flatMap_assoc, ← List.flatMap_def]
    refine List.flatMap_congr fun byte _ => ?_
    rw [halfPatched, List.flatMap_assoc]
  have tokens : ∀ token ∈ bytes.map halfPatched, isToken '%' "7E".toList.length token = true := by
    intro token listed
    obtain ⟨byte, _, rfl⟩ := List.mem_map.mp listed
    exact halfPatched_token byte
  rw [half, show "%7E".toList = '%' :: "7E".toList from rfl, replace_flatten tokens, List.map_map, List.flatMap_def]
  exact congrArg List.flatten (List.map_congr_left fun byte _ => halfPatched_replaced byte)

private theorem toNat_ofNat {n : Nat} (small : n < 256) : (UInt8.ofNat n).toNat = n := by
  simp [Nat.mod_eq_of_lt small]

theorem utf8EncodeChar_low {c : Char} (low : c.toNat < 0x80) : String.utf8EncodeChar c = [UInt8.ofNat c.toNat] := by
  unfold String.utf8EncodeChar
  exact if_pos (Nat.le_of_lt_succ low)

theorem utf8EncodeChar_high {c : Char} (high : 0x80 ≤ c.toNat) :
    ∀ byte ∈ String.utf8EncodeChar c, 0x80 ≤ byte.toNat := by
  have upper : c.val.toNat < 0x110000 := by
    have valid : c.val.toNat < 0xD800 ∨ 0xDFFF < c.val.toNat ∧ c.val.toNat < 0x110000 := c.valid
    omega
  have number : c.toNat = c.val.toNat := rfl
  unfold String.utf8EncodeChar
  dsimp only
  rw [number] at high
  generalize c.val.toNat = v at high upper
  intro byte listed
  split at listed
  · omega
  · repeat' split at listed
    all_goals
      simp only [List.mem_cons, List.not_mem_nil, or_false] at listed
      rcases listed with rfl | rfl | rfl | rfl <;> (rw [toNat_ofNat] <;> omega)

theorem charOf_low {c : Char} (low : c.toNat < 0x80) : charOf (UInt8.ofNat c.toNat) = c := by
  rw [charOf, toNat_ofNat (by omega), Char.ofNat_toNat]

/-- A reserved byte stands for itself beyond ASCII. -/
theorem reservedByte_high {byte : UInt8} (high : 0x80 ≤ byte.toNat) : reservedByte byte = encodeByte byte :=
  forall_byte (p := fun byte => 0x80 ≤ byte.toNat → reservedByte byte = encodeByte byte)
    (by decide +kernel) byte high

theorem unreserved_low {c : Char} (among : unreserved c = true) : c.toNat < 0x80 := by
  rw [unreserved, Bool.or_eq_true] at among
  rcases among with letter | mark
  · unfold Char.isAlphanum Char.isAlpha Char.isUpper Char.isLower Char.isDigit at letter
    simp only [Bool.or_eq_true, Bool.and_eq_true, decide_eq_true_eq, ge_iff_le, UInt32.le_iff_toNat_le] at letter
    have number : c.toNat = c.val.toNat := rfl
    have lastUpper : 'Z'.val.toNat = 90 := rfl
    have lastLower : 'z'.val.toNat = 122 := rfl
    have lastDigit : '9'.val.toNat = 57 := rfl
    omega
  · simp only [List.contains_eq_mem, List.mem_cons, List.not_mem_nil, or_false, decide_eq_true_eq] at mark
    rcases mark with rfl | rfl | rfl | rfl <;> decide

theorem reservedByte_char (c : Char) : (String.utf8EncodeChar c).flatMap reservedByte = encodeChar reservedSet c := by
  by_cases low : c.toNat < 0x80
  · rw [encodeChar, utf8EncodeChar_low low, List.flatMap_singleton, List.flatMap_singleton, reservedByte,
      charOf_low low,
      reservedSet]
    cases unreserved c <;> rfl
  · have reserved : reservedSet c = true := by
      rw [reservedSet, Bool.eq_false_iff.mpr fun among => low (unreserved_low among)]
      rfl
    rw [encodeChar, if_pos reserved]
    exact List.flatMap_congr fun byte listed =>
      reservedByte_high (utf8EncodeChar_high (Nat.le_of_not_lt low) byte listed)

/-- The form serializer with its replacements keeps the unreserved characters and encodes the others. -/
theorem patched_eq_encode (text : Text) :
    replace "%7E".toList "~".toList
      (replace "*".toList "%2A".toList (replace "+".toList "%20".toList (byteSerialize (utf8 text)))) =
      encode reservedSet text := by
  rw [patched_bytes, utf8, List.flatMap_assoc, encode]
  exact List.flatMap_congr fun c _ => reservedByte_char c

end Encoding

section Decoding

/-- The byte that two digits stand for. -/
def escaped (high low : UInt8) : Option UInt8 := do
  let high ← hexValue (charOf high)
  let low ← hexValue (charOf low)
  some (UInt8.ofNat (high * 16 + low))

/-- Percent-decode bytes. A percent sign without two digits behind it is one. -/
def percentDecode : List UInt8 → List UInt8
  | first :: high :: low :: rest =>
    match if first = 0x25 then escaped high low else none with
    | some byte => byte :: percentDecode rest
    | none => first :: percentDecode (high :: low :: rest)
  | bytes => bytes

/-- A name or a value of a form. -/
def decode (text : Text) : Text :=
  fromUtf8Lossy (percentDecode (utf8 (text.map fun c => if c = '+' then ' ' else c)))

def parsePair (part : Text) : Text × Text :=
  match splitOnce '=' part with
  | some (name, value) => (decode name, decode value)
  | none => (decode part, [])

/-- The pairs of a query. -/
def parse (query : Text) : List (Text × Text) :=
  ((split '&' query).filter fun part => !part.isEmpty).map parsePair

/-- A set of all the characters that have a meaning in a form. -/
structure Delimits (set : Char → Bool) : Prop where
  percent : set '%' = true
  plus : set '+' = true
  ampersand : set '&' = true
  equals : set '=' = true

theorem delimits_reservedSet : Delimits reservedSet := ⟨rfl, rfl, rfl, rfl⟩

def pairText (set : Char → Bool) (pair : Text × Text) : Text := encode set pair.1 ++ '=' :: encode set pair.2

/-- The pairs as a query. -/
def serialize (set : Char → Bool) (pairs : List (Text × Text)) : Text := ['&'].intercalate (pairs.map (pairText set))

variable {set : Char → Bool} {front rest : List UInt8} {c : Char} {text : Text}

theorem notMem_encode_of_set (within : set c = true) (other : c ∉ written) : c ∉ encode set text := by
  intro listed
  rcases mem_encode listed with ⟨_, out⟩ | among
  · rw [within] at out
    cases out
  · exact other among

theorem percentDecode_cons {byte : UInt8} (other : byte ≠ 0x25) :
    percentDecode (byte :: rest) = byte :: percentDecode rest := by
  cases rest with
  | nil => rfl
  | cons high rest =>
    cases rest with
    | nil => rfl
    | cons low rest => rw [percentDecode, if_neg other]

theorem percentDecode_front (absent : ∀ byte ∈ front, byte ≠ 0x25) :
    percentDecode (front ++ rest) = front ++ percentDecode rest := by
  induction front with
  | nil => rfl
  | cons byte front ih =>
    obtain ⟨first, others⟩ := List.forall_mem_cons.mp absent
    rw [List.cons_append, percentDecode_cons first, ih others, List.cons_append]

theorem utf8_append (first more : Text) : utf8 (first ++ more) = utf8 first ++ utf8 more := List.flatMap_append

/-- An encoded byte is decoded. -/
theorem percentDecode_encodeByte (byte : UInt8) :
    percentDecode (utf8 (encodeByte byte) ++ rest) = byte :: percentDecode rest := by
  have digits : ∃ high low, utf8 (encodeByte byte) = [0x25, high, low] ∧ escaped high low = some byte := by
    refine ⟨UInt8.ofNat (hexDigitUpper (byte.toNat / 16)).toNat,
      UInt8.ofNat (hexDigitUpper (byte.toNat % 16)).toNat, ?_⟩
    exact forall_byte (p := fun byte => utf8 (encodeByte byte) =
        [0x25, UInt8.ofNat (hexDigitUpper (byte.toNat / 16)).toNat,
          UInt8.ofNat (hexDigitUpper (byte.toNat % 16)).toNat] ∧
      escaped (UInt8.ofNat (hexDigitUpper (byte.toNat / 16)).toNat)
        (UInt8.ofNat (hexDigitUpper (byte.toNat % 16)).toNat) =
        some byte) (by decide +kernel) byte
  obtain ⟨high, low, bytes, value⟩ := digits
  rw [bytes, List.cons_append, List.cons_append, List.singleton_append, percentDecode, if_pos rfl, value]

theorem percentDecode_encodeBytes (bytes : List UInt8) :
    percentDecode (utf8 (bytes.flatMap encodeByte) ++ rest) = bytes ++ percentDecode rest := by
  induction bytes with
  | nil => rfl
  | cons byte bytes ih =>
    rw [List.flatMap_cons, utf8_append, List.append_assoc, percentDecode_encodeByte, ih, List.cons_append]

/-- A character that is left as it is has no percent sign in its bytes. -/
theorem no_percent (other : c ≠ '%') : ∀ byte ∈ String.utf8EncodeChar c, byte ≠ 0x25 := by
  intro byte listed percent
  subst percent
  by_cases low : c.toNat < 0x80
  · rw [utf8EncodeChar_low low, List.mem_singleton] at listed
    refine other ?_
    rw [← charOf_low low, ← listed]
    rfl
  · have high : 0x80 ≤ (0x25 : UInt8).toNat := utf8EncodeChar_high (Nat.le_of_not_lt low) _ listed
    exact absurd high (by decide)

theorem percentDecode_encode (percent : set '%' = true) (text : Text) :
    percentDecode (utf8 (encode set text)) = utf8 text := by
  induction text with
  | nil => rfl
  | cons c text ih =>
    have whole : utf8 (c :: text) = String.utf8EncodeChar c ++ utf8 text := List.flatMap_cons
    rw [encode, List.flatMap_cons, ← encode, utf8_append, whole, ← ih, encodeChar]
    split
    · exact percentDecode_encodeBytes _
    · rename_i out
      rw [utf8, List.flatMap_singleton]
      exact percentDecode_front (no_percent (by rintro rfl; exact out percent))

/-- What was encoded is decoded. -/
theorem decode_encode (delimits : Delimits set) (text : Text) : decode (encode set text) = text := by
  have noPlus : '+' ∉ encode set text := notMem_encode_of_set delimits.plus (by decide)
  have same : ((encode set text).map fun c => if c = '+' then ' ' else c) = encode set text := by
    refine (List.map_congr_left fun c listed => ?_).trans (List.map_id _)
    exact if_neg (by rintro rfl; exact noPlus listed)
  rw [decode, same, percentDecode_encode delimits.percent, fromUtf8Lossy_utf8]

theorem parsePair_pairText (delimits : Delimits set) (pair : Text × Text) : parsePair (pairText set pair) = pair := by
  have noEquals : '=' ∉ encode set pair.1 := notMem_encode_of_set delimits.equals (by decide)
  rw [parsePair, pairText, splitOnce_append noEquals]
  exact Prod.ext (decode_encode delimits pair.1) (decode_encode delimits pair.2)

/-- No ampersand is in a pair, which is not empty. -/
theorem pairText_solid (delimits : Delimits set) (pair : Text × Text) :
    '&' ∉ pairText set pair ∧ (pairText set pair).isEmpty = false := by
  have apart {text : Text} : '&' ∉ encode set text := notMem_encode_of_set delimits.ampersand (by decide)
  constructor
  · rw [pairText, List.mem_append, List.mem_cons]
    rintro (name | same | value)
    · exact apart name
    · exact absurd same (by decide)
    · exact apart value
  · rw [pairText, List.isEmpty_eq_false_iff]
    exact List.append_ne_nil_of_right_ne_nil _ (List.cons_ne_nil _ _)

/-- The pairs of a query are those it was made of. -/
theorem parse_serialize (delimits : Delimits set) (pairs : List (Text × Text)) :
    parse (serialize set pairs) = pairs := by
  have solid : ∀ part ∈ pairs.map (pairText set), '&' ∉ part ∧ part.isEmpty = false := by
    intro part listed
    obtain ⟨pair, _, rfl⟩ := List.mem_map.mp listed
    exact pairText_solid delimits pair
  cases pairs with
  | nil => rfl
  | cons pair pairs =>
    rw [parse, serialize, split_intercalate (fun part listed => (solid part listed).1) (List.cons_ne_nil _ _),
      List.filter_eq_self.mpr fun part listed => by rw [(solid part listed).2]; rfl, List.map_map]
    exact (List.map_congr_left fun pair _ => parsePair_pairText delimits pair).trans (List.map_id _)

theorem encode_injective (delimits : Delimits set) : Function.Injective (encode set) :=
  fun one other same => by rw [← decode_encode delimits one, same, decode_encode delimits other]

theorem serialize_injective (delimits : Delimits set) : Function.Injective (serialize set) :=
  fun one other same => by rw [← parse_serialize delimits one, same, parse_serialize delimits other]

/-- What a query is written with. -/
theorem mem_serialize {pairs : List (Text × Text)} (listed : c ∈ serialize set pairs) :
    set c = false ∨ c ∈ written ∨ c = '=' ∨ c = '&' := by
  have coded {text : Text} (within : c ∈ encode set text) : set c = false ∨ c ∈ written ∨
      c = '=' ∨ c = '&' := by
    rcases mem_encode within with ⟨_, out⟩ | among
    · exact .inl out
    · exact .inr (.inl among)
  have ofPair {pair : Text × Text} (within : c ∈ pairText set pair) : set c = false ∨ c ∈ written ∨
      c = '=' ∨ c = '&' := by
    rcases List.mem_append.mp within with name | rest
    · exact coded name
    · rcases List.mem_cons.mp rest with same | value
      · exact .inr (.inr (.inl same))
      · exact coded value
  induction pairs with
  | nil => cases listed
  | cons pair pairs ih =>
    rw [serialize, List.map_cons] at listed
    cases pairs with
    | nil => exact ofPair (by simpa using listed)
    | cons next pairs =>
      rw [List.intercalate_cons_of_ne_nil (by simp), List.append_assoc] at listed
      rcases List.mem_append.mp listed with here | rest
      · exact ofPair here
      · rcases List.mem_append.mp rest with same | later
        · exact .inr (.inr (.inr (List.mem_singleton.mp same)))
        · exact ih later

end Decoding

end GuestComponents.Lib.FormUrlencoded
