import Mathlib.Data.List.Basic
import Mathlib.Data.List.DropRight
import Mathlib.Tactic.IntervalCases

/-! Text as a list of characters, with the standard library's line splitting,
trimming, splitting and padding, and hexadecimal. The lemmas give what each
reader makes of text that was written in the matching form. -/
namespace GuestComponents.Lib

abbrev Text := List Char

namespace Text

/-- The UTF-8 bytes of a text. -/
def utf8 (text : Text) : List UInt8 := text.flatMap String.utf8EncodeChar

/-- `str::from_utf8`. -/
def fromUtf8 (bytes : List UInt8) : Option Text :=
  (ByteArray.mk bytes.toArray).utf8Decode?.map Array.toList

/-- A character of several bytes that has begun: its bits so far, how many bytes are missing, and
the range of the next one. -/
structure Sequence where
  bits : Nat
  missing : Nat
  low : UInt8
  high : UInt8

/-- What the first byte of a character stands for: a character, or the beginning of one, or
nothing. -/
def sequenceFrom (byte : UInt8) : Text × Option Sequence :=
  if byte < 0x80 then ([Char.ofNat byte.toNat], none)
  else if 0xC2 ≤ byte ∧ byte ≤ 0xDF then ([], some ⟨byte.toNat % 32, 1, 0x80, 0xBF⟩)
  else if byte = 0xE0 then ([], some ⟨byte.toNat % 16, 2, 0xA0, 0xBF⟩)
  else if byte = 0xED then ([], some ⟨byte.toNat % 16, 2, 0x80, 0x9F⟩)
  else if 0xE1 ≤ byte ∧ byte ≤ 0xEF then ([], some ⟨byte.toNat % 16, 2, 0x80, 0xBF⟩)
  else if byte = 0xF0 then ([], some ⟨byte.toNat % 8, 3, 0x90, 0xBF⟩)
  else if 0xF1 ≤ byte ∧ byte ≤ 0xF3 then ([], some ⟨byte.toNat % 8, 3, 0x80, 0xBF⟩)
  else if byte = 0xF4 then ([], some ⟨byte.toNat % 8, 3, 0x80, 0x8F⟩)
  else (['\uFFFD'], none)

def lossyFrom : Option Sequence → List UInt8 → Text
  | none, [] => []
  | some _, [] => ['\uFFFD']
  | none, byte :: rest => (sequenceFrom byte).1 ++ lossyFrom (sequenceFrom byte).2 rest
  | some sequence, byte :: rest =>
    if sequence.low ≤ byte ∧ byte ≤ sequence.high then
      let bits := sequence.bits * 64 + byte.toNat % 64
      if sequence.missing = 1 then Char.ofNat bits :: lossyFrom none rest
      else lossyFrom (some ⟨bits, sequence.missing - 1, 0x80, 0xBF⟩) rest
    else '\uFFFD' :: ((sequenceFrom byte).1 ++ lossyFrom (sequenceFrom byte).2 rest)

/-- `String::from_utf8_lossy`: U+FFFD for every beginning of a character that does not go on as
one. -/
def fromUtf8Lossy (bytes : List UInt8) : Text := lossyFrom none bytes

/-- Unicode `White_Space`, as `char::is_whitespace` tests it. -/
def isWhitespace (c : Char) : Bool :=
  let n := c.toNat
  (0x09 ≤ n && n ≤ 0x0D) || n == 0x20 || n == 0x85 || n == 0xA0 || n == 0x1680 ||
    (0x2000 ≤ n && n ≤ 0x200A) || n == 0x2028 || n == 0x2029 || n == 0x202F || n == 0x205F ||
    n == 0x3000

def isAsciiWhitespace (c : Char) : Bool :=
  c == ' ' || c == '\t' || c == '\n' || c == '\x0C' || c == '\r'

/-- `str::trim_end`. -/
def trimEnd (text : Text) : Text := (text.reverse.dropWhile isWhitespace).reverse

/-- One carriage return before a newline belongs to the line ending. -/
def stripCarriageReturn (line : Text) : Text :=
  if line.getLast? = some '\r' then line.dropLast else line

def linesFrom (current : Text) : Text → List Text
  | [] => if current = [] then [] else [current]
  | c :: rest =>
    if c = '\n' then stripCarriageReturn current :: linesFrom [] rest
    else linesFrom (current ++ [c]) rest

/-- `str::lines`: a final newline ends the last line and starts none. -/
def lines (text : Text) : List Text := linesFrom [] text

def wordsFrom (current : Text) : Text → List Text
  | [] => if current = [] then [] else [current]
  | c :: rest =>
    if isAsciiWhitespace c then
      if current = [] then wordsFrom [] rest else current :: wordsFrom [] rest
    else wordsFrom (current ++ [c]) rest

/-- `str::split_ascii_whitespace`. -/
def words (text : Text) : List Text := wordsFrom [] text

/-- `str::split_once` with a character. -/
def splitOnce (separator : Char) : Text → Option (Text × Text)
  | [] => none
  | c :: rest =>
    if c = separator then some ([], rest)
    else (splitOnce separator rest).map fun parts => (c :: parts.1, parts.2)

/-- `str::split` with a character: one part more than there are separators. -/
def split (separator : Char) : Text → List Text
  | [] => [[]]
  | c :: rest =>
    if c = separator then [] :: split separator rest
    else match split separator rest with
      | [] => [[c]]
      | part :: parts => (c :: part) :: parts

/-- `{:0>width$}`: zeros on the left up to `width` characters. -/
def padLeft (width : Nat) (text : Text) : Text :=
  List.replicate (width - text.length) '0' ++ text

def hexDigit (n : Nat) : Char :=
  if n < 10 then Char.ofNat (48 + n) else Char.ofNat (87 + n)

def hexValue (c : Char) : Option Nat :=
  let n := c.toNat
  if 48 ≤ n ∧ n ≤ 57 then some (n - 48)
  else if 97 ≤ n ∧ n ≤ 102 then some (n - 87)
  else if 65 ≤ n ∧ n ≤ 70 then some (n - 55)
  else none

def hexEncode (bytes : List UInt8) : Text :=
  bytes.flatMap fun b => [hexDigit (b.toNat / 16), hexDigit (b.toNat % 16)]

/-- `hex::decode`: pairs of digits of either case, nothing else. -/
def hexDecode : Text → Option (List UInt8)
  | [] => some []
  | [_] => none
  | high :: low :: rest => do
    let h ← hexValue high
    let l ← hexValue low
    let bytes ← hexDecode rest
    some (UInt8.ofNat (h * 16 + l) :: bytes)

variable {text line rest : Text}

private theorem lines_from_line (clean : '\n' ∉ line) (current : Text) :
    linesFrom current (line ++ '\n' :: rest) =
      stripCarriageReturn (current ++ line) :: linesFrom [] rest := by
  induction line generalizing current with
  | nil => simp [linesFrom]
  | cons c line ih =>
    rw [List.mem_cons, not_or] at clean
    rw [List.cons_append, linesFrom, if_neg (Ne.symm clean.1), ih clean.2]
    simp

/-- A written line is read back as one line, less a trailing carriage return. -/
theorem lines_cons (clean : '\n' ∉ line) :
    lines (line ++ '\n' :: rest) = stripCarriageReturn line :: lines rest := by
  simpa [lines] using @lines_from_line line rest clean []

/-- A text that ends in no blank does not end in a carriage return. -/
theorem strip_of_trimmed (trimmed : trimEnd line = line) : stripCarriageReturn line = line := by
  unfold stripCarriageReturn
  split
  · rename_i ends
    obtain ⟨front, rfl⟩ := List.getLast?_eq_some_iff.mp ends
    have blank : isWhitespace '\r' = true := by decide
    have shorter := congrArg List.length trimmed
    simp only [trimEnd, List.reverse_append, List.reverse_cons, List.reverse_nil, List.nil_append,
      List.singleton_append, List.dropWhile_cons, blank, if_true, List.length_reverse,
      List.length_append, List.length_cons, List.length_nil] at shorter
    have bound := (List.dropWhile_sublist (l := front.reverse) isWhitespace).length_le
    rw [List.length_reverse] at bound
    omega
  · rfl

private theorem words_from_word (solid : ∀ c ∈ text, isAsciiWhitespace c = false) (current : Text) :
    wordsFrom current (text ++ ' ' :: rest) =
      if current ++ text = [] then wordsFrom [] rest else (current ++ text) :: wordsFrom [] rest := by
  induction text generalizing current with
  | nil => simp [wordsFrom, isAsciiWhitespace]
  | cons c text ih =>
    have first : isAsciiWhitespace c = false := solid c (by simp)
    rw [List.cons_append, wordsFrom, first]
    simp only [Bool.false_eq_true, if_false]
    rw [ih (fun d member => solid d (by simp [member]))]
    simp

private theorem words_from_last (solid : ∀ c ∈ text, isAsciiWhitespace c = false) (current : Text) :
    wordsFrom current text = if current ++ text = [] then [] else [current ++ text] := by
  induction text generalizing current with
  | nil => simp [wordsFrom]
  | cons c text ih =>
    have first : isAsciiWhitespace c = false := solid c (by simp)
    rw [wordsFrom, first]
    simp only [Bool.false_eq_true, if_false]
    rw [ih (fun d member => solid d (by simp [member]))]
    simp

/-- Text that is checked character by character. -/
theorem solid_of_all {text : Text} (all : (text.all fun c => !isAsciiWhitespace c) = true) :
    ∀ c ∈ text, isAsciiWhitespace c = false := by
  intro c member
  simpa using List.all_eq_true.mp all c member

/-- Two words with a space between them. -/
theorem words_pair {first second : Text} (firstSolid : ∀ c ∈ first, isAsciiWhitespace c = false)
    (secondSolid : ∀ c ∈ second, isAsciiWhitespace c = false) (nonempty : first ≠ [])
    (nonempty' : second ≠ []) : words (first ++ ' ' :: second) = [first, second] := by
  rw [words, words_from_word firstSolid, words_from_last secondSolid]
  simp [nonempty, nonempty']

/-- The first part of a split has no separator in it. -/
theorem splitOnce_append {separator : Char} {first : Text} (absent : separator ∉ first) :
    splitOnce separator (first ++ separator :: rest) = some (first, rest) := by
  induction first with
  | nil => simp [splitOnce]
  | cons c first ih =>
    rw [List.mem_cons, not_or] at absent
    simp [splitOnce, Ne.symm absent.1, ih absent.2]

theorem splitOnce_some {separator : Char} {text : Text} {parts : Text × Text}
    (found : splitOnce separator text = some parts) :
    separator ∉ parts.1 ∧ text = parts.1 ++ separator :: parts.2 := by
  induction text generalizing parts with
  | nil => simp [splitOnce] at found
  | cons c rest ih =>
    unfold splitOnce at found
    split at found
    · rename_i here
      cases found
      simp [here]
    · rename_i other
      obtain ⟨inner, within, rfl⟩ := Option.map_eq_some_iff.mp found
      obtain ⟨absent, whole⟩ := ih within
      constructor
      · simpa using ⟨Ne.symm other, absent⟩
      · simp [← whole]

theorem splitOnce_none {separator : Char} {text : Text} (missing : splitOnce separator text = none) :
    separator ∉ text := by
  intro listed
  obtain ⟨before, after, rfl, absent⟩ := List.eq_append_cons_of_mem listed
  rw [splitOnce_append absent] at missing
  cases missing

/-- Text without separators is one part. -/
theorem split_of_absent {separator : Char} (absent : separator ∉ text) :
    split separator text = [text] := by
  induction text with
  | nil => rfl
  | cons c text ih =>
    rw [List.mem_cons, not_or] at absent
    rw [split, if_neg (Ne.symm absent.1), ih absent.2]

/-- Encoded text is decoded. -/
theorem fromUtf8_utf8 (text : Text) : fromUtf8 (utf8 text) = some text := by
  have encoded : ByteArray.mk (utf8 text).toArray = text.utf8Encode :=
    ByteArray.ext List.data_toByteArray.symm
  rw [fromUtf8, encoded, List.utf8Decode?_utf8Encode]
  rfl

/-- A text that was decoded encodes as the bytes. -/
theorem utf8_of_fromUtf8 {bytes : List UInt8} {text : Text} (decoded : fromUtf8 bytes = some text) :
    utf8 text = bytes := by
  obtain ⟨chars, found, rfl⟩ := Option.map_eq_some_iff.mp decoded
  have valid : (ByteArray.mk bytes.toArray).utf8Decode?.isSome := by rw [found]; rfl
  have same : chars.toList.utf8Encode = ByteArray.mk bytes.toArray := by
    have whole := @ByteArray.utf8Encode_get_utf8Decode? (ByteArray.mk bytes.toArray) valid
    simp only [found, Option.get_some] at whole
    exact whole
  have data := congrArg (fun array => array.data.toList) same
  simp only [List.utf8Encode] at data
  rw [List.data_toByteArray] at data
  exact data

/-- Every character has a byte at least. -/
theorem length_le_utf8 (text : Text) : text.length ≤ (utf8 text).length := by
  induction text with
  | nil => exact Nat.zero_le _
  | cons c rest ih =>
    have some : 0 < (String.utf8EncodeChar c).length := by
      rw [String.length_utf8EncodeChar]
      exact Char.utf8Size_pos c
    show rest.length + 1 ≤ (String.utf8EncodeChar c ++ utf8 rest).length
    rw [List.length_append]
    omega

/-- The text before the first separator determines where the split is. -/
theorem separated_inj {separator : Char} {first first' rest' : Text} (absent : separator ∉ first)
    (absent' : separator ∉ first') (same : first ++ separator :: rest = first' ++ separator :: rest') :
    first = first' ∧ rest = rest' := by
  have splits := congrArg (splitOnce separator) same
  rw [splitOnce_append absent, splitOnce_append absent'] at splits
  simpa using splits

private theorem lines_from_length (line : Text) (current : Text) :
    (linesFrom current (line ++ '\n' :: rest)).length =
      line.count '\n' + 1 + (linesFrom [] rest).length := by
  induction line generalizing current with
  | nil =>
    simp [linesFrom]
    omega
  | cons c line ih =>
    rw [List.cons_append, linesFrom]
    split
    · rename_i newline
      rw [List.length_cons, ih, newline, List.count_cons_self]
      omega
    · rename_i other
      rw [ih, List.count_cons_of_ne other]

/-- A piece of text with a newline after it takes a line for itself and one for
each newline in it. -/
theorem lines_length (line : Text) :
    (lines (line ++ '\n' :: rest)).length = line.count '\n' + 1 + (lines rest).length :=
  lines_from_length line []

theorem trimEnd_idem (text : Text) : trimEnd (trimEnd text) = trimEnd text := by
  rw [trimEnd, trimEnd, List.reverse_reverse, List.dropWhile_idempotent]

theorem padLeft_of_long (width : Nat) (text : Text) (long : width ≤ text.length) : padLeft width text = text := by
  simp [padLeft, Nat.sub_eq_zero_of_le long]

theorem hexEncode_length (bytes : List UInt8) : (hexEncode bytes).length = 2 * bytes.length := by
  induction bytes with
  | nil => rfl
  | cons b bytes ih =>
    simp only [hexEncode, List.flatMap_cons, List.length_append, List.length_cons, List.length_nil] at ih ⊢
    omega

theorem hexEncode_append (bytes more : List UInt8) :
    hexEncode (bytes ++ more) = hexEncode bytes ++ hexEncode more := by
  simp [hexEncode]

theorem hexEncode_zeros (n : Nat) : hexEncode (List.replicate n 0) = List.replicate (2 * n) '0' := by
  induction n with
  | zero => rfl
  | succ n ih =>
    have zero : hexEncode [0] = ['0', '0'] := by decide
    rw [List.replicate_succ, ← List.singleton_append, hexEncode_append, ih, zero, Nat.mul_succ,
      List.replicate_succ, List.replicate_succ]
    rfl

/-- Digits padded with zeros are those of bytes padded with zeros. -/
theorem padLeft_hexEncode (n : Nat) (bytes : List UInt8) :
    padLeft (2 * n) (hexEncode bytes) = hexEncode (List.replicate (n - bytes.length) 0 ++ bytes) := by
  rw [padLeft, hexEncode_length, hexEncode_append, hexEncode_zeros, Nat.mul_sub]

/-- A written digit is read back. -/
theorem hexValue_hexDigit {n : Nat} (digit : n < 16) : hexValue (hexDigit n) = some n := by
  interval_cases n <;> decide

theorem hexDigit_solid {n : Nat} (digit : n < 16) : isAsciiWhitespace (hexDigit n) = false := by
  interval_cases n <;> decide

theorem hexDecode_hexEncode (bytes : List UInt8) : hexDecode (hexEncode bytes) = some bytes := by
  induction bytes with
  | nil => rfl
  | cons b bytes ih =>
    have high : b.toNat / 16 < 16 := by have := b.toNat_lt; omega
    have low : b.toNat % 16 < 16 := Nat.mod_lt _ (by decide)
    have whole : b.toNat / 16 * 16 + b.toNat % 16 = b.toNat := by omega
    have written : hexEncode (b :: bytes) =
        hexDigit (b.toNat / 16) :: hexDigit (b.toNat % 16) :: hexEncode bytes := rfl
    rw [written, hexDecode, hexValue_hexDigit high, hexValue_hexDigit low, ih]
    simp only [Option.bind_eq_bind, Option.bind_some, whole, UInt8.ofNat_toNat]

theorem hexEncode_solid (bytes : List UInt8) : ∀ c ∈ hexEncode bytes, isAsciiWhitespace c = false := by
  intro c member
  obtain ⟨b, _, digits⟩ := List.mem_flatMap.mp member
  have high : b.toNat / 16 < 16 := by have := b.toNat_lt; omega
  have low : b.toNat % 16 < 16 := Nat.mod_lt _ (by decide)
  simp only [List.mem_cons, List.not_mem_nil, or_false] at digits
  rcases digits with rfl | rfl
  · exact hexDigit_solid high
  · exact hexDigit_solid low

theorem split_eq_splitOn (separator : Char) (text : Text) : split separator text = text.splitOn separator := by
  induction text with
  | nil => rfl
  | cons c rest ih =>
    rw [List.splitOn_cons_eq_if_modifyHead, split, ih]
    by_cases here : c = separator
    · rw [if_pos here, if_pos (beq_iff_eq.mpr here)]
    · rw [if_neg here, if_neg (mt beq_iff_eq.mp here)]
      cases parts : rest.splitOn separator with
      | nil => exact absurd parts (List.splitOn_ne_nil separator rest)
      | cons part parts => rfl

/-- The parts make up the text. -/
theorem intercalate_split (separator : Char) (text : Text) :
    List.intercalate [separator] (split separator text) = text := by
  rw [split_eq_splitOn, List.intercalate_splitOn]

theorem split_intercalate {separator : Char} {parts : List Text} (absent : ∀ part ∈ parts, separator ∉ part)
    (some : parts ≠ []) : split separator (List.intercalate [separator] parts) = parts := by
  rw [split_eq_splitOn, List.splitOn_intercalate separator absent some]

theorem absent_of_mem_split {separator : Char} {part : Text} (listed : part ∈ split separator text) :
    separator ∉ part := by
  induction text generalizing part with
  | nil =>
    rw [split, List.mem_singleton] at listed
    rw [listed]
    exact List.not_mem_nil
  | cons c rest ih =>
    rw [split] at listed
    split at listed
    · rcases List.mem_cons.mp listed with rfl | later
      · exact List.not_mem_nil
      · exact ih later
    · rename_i other
      split at listed
      · rw [List.mem_singleton] at listed
        simpa [listed] using Ne.symm other
      · rename_i first parts same
        rw [same] at ih
        rcases List.mem_cons.mp listed with rfl | later
        · simpa [Ne.symm other] using ih List.mem_cons_self
        · exact ih (List.mem_cons_of_mem _ later)

/-- A pattern without the separator is on one side of it. -/
theorem infix_separated {separator : Char} {pattern before after : Text} (absent : separator ∉ pattern) :
    pattern <:+: before ++ separator :: after ↔ pattern <:+: before ∨ pattern <:+: after := by
  constructor
  · rintro ⟨front, back, whole⟩
    rcases List.append_eq_append_iff.mp whole with ⟨rest, rfl, _⟩ | ⟨rest, starts, ends⟩
    · exact .inl ⟨front, rest, rfl⟩
    · cases rest with
      | nil => exact .inl ⟨front, [], by simpa using starts⟩
      | cons c rest =>
        obtain ⟨rfl, rfl⟩ := List.cons.inj ends
        rcases List.append_eq_append_iff.mp starts with ⟨middle, _, within⟩ | ⟨middle, _, within⟩
        · exact absurd (within ▸ List.mem_append_right _ List.mem_cons_self) absent
        · cases middle with
          | nil => exact absurd (within ▸ List.mem_cons_self : separator ∈ [] ++ pattern) absent
          | cons d middle =>
            obtain ⟨_, rfl⟩ := List.cons.inj within
            exact .inr ⟨middle, back, rfl⟩
  · rintro (within | within)
    · exact List.infix_append_of_infix_left within
    · exact List.infix_append_of_infix_right (List.infix_cons within)

/-- A pattern without the separator is in one of the parts. -/
theorem infix_split {separator : Char} {pattern : Text} (absent : separator ∉ pattern) :
    pattern <:+: text ↔ ∃ part ∈ split separator text, pattern <:+: part := by
  have joined : ∀ parts : List Text, parts ≠ [] →
      (pattern <:+: List.intercalate [separator] parts ↔ ∃ part ∈ parts, pattern <:+: part) := by
    intro parts some
    induction parts with
    | nil => exact absurd rfl some
    | cons part parts ih =>
      cases parts with
      | nil => simp
      | cons next parts =>
        have unfolded : List.intercalate [separator] (part :: next :: parts) =
            part ++ separator :: List.intercalate [separator] (next :: parts) := by simp
        rw [unfolded, infix_separated absent, ih (List.cons_ne_nil _ _)]
        constructor
        · rintro (first | ⟨other, listed, within⟩)
          · exact ⟨part, List.mem_cons_self, first⟩
          · exact ⟨other, List.mem_cons_of_mem _ listed, within⟩
        · rintro ⟨other, listed, within⟩
          rcases List.mem_cons.mp listed with rfl | later
          · exact .inl within
          · exact .inr ⟨other, later, within⟩
  have whole := joined (split separator text) (by simp [split_eq_splitOn])
  rwa [intercalate_split] at whole

theorem hexDecode_isSome {text : Text} : (hexDecode text).isSome = true ↔
    text.length % 2 = 0 ∧ ∀ c ∈ text, (hexValue c).isSome = true := by
  induction text using hexDecode.induct with
  | case1 => simp [hexDecode]
  | case2 => simp [hexDecode]
  | case3 high low rest ih =>
    have split_ : (hexDecode (high :: low :: rest)).isSome =
        ((hexValue high).isSome && (hexValue low).isSome && (hexDecode rest).isSome) := by
      rw [hexDecode]
      cases hexValue high <;> cases hexValue low <;> cases hexDecode rest <;> rfl
    rw [split_, Bool.and_eq_true, Bool.and_eq_true, ih, List.forall_mem_cons, List.forall_mem_cons,
      List.length_cons, List.length_cons]
    have even : (rest.length + 1 + 1) % 2 = rest.length % 2 := by omega
    rw [even]
    constructor
    · rintro ⟨⟨first, second⟩, whole, others⟩
      exact ⟨whole, first, second, others⟩
    · rintro ⟨whole, first, second, others⟩
      exact ⟨⟨first, second⟩, whole, others⟩

/-! What was encoded is read without loss. -/

private theorem toNat_ofNat {n : Nat} (small : n < 256) : (UInt8.ofNat n).toNat = n := by
  simp [Nat.mod_eq_of_lt small]

theorem lossyFrom_last {bits n : Nat} {low high : UInt8} {rest : List UInt8} (small : n < 256)
    (fits : low.toNat ≤ n ∧ n ≤ high.toNat) :
    lossyFrom (some ⟨bits, 1, low, high⟩) (UInt8.ofNat n :: rest) =
      Char.ofNat (bits * 64 + n % 64) :: lossyFrom none rest := by
  have inside : low ≤ UInt8.ofNat n ∧ UInt8.ofNat n ≤ high := by
    rwa [UInt8.le_iff_toNat_le, UInt8.le_iff_toNat_le, toNat_ofNat small]
  rw [lossyFrom, if_pos inside, toNat_ofNat small]
  rfl

theorem lossyFrom_more {bits missing n : Nat} {low high : UInt8} {rest : List UInt8} (small : n < 256)
    (fits : low.toNat ≤ n ∧ n ≤ high.toNat) :
    lossyFrom (some ⟨bits, missing + 2, low, high⟩) (UInt8.ofNat n :: rest) =
      lossyFrom (some ⟨bits * 64 + n % 64, missing + 1, 0x80, 0xBF⟩) rest := by
  have inside : low ≤ UInt8.ofNat n ∧ UInt8.ofNat n ≤ high := by
    rwa [UInt8.le_iff_toNat_le, UInt8.le_iff_toNat_le, toNat_ofNat small]
  rw [lossyFrom, if_pos inside, toNat_ofNat small]
  rfl

/-- The first byte of a character, by its number. -/
theorem sequenceFrom_ofNat {n : Nat} (small : n < 256) : sequenceFrom (UInt8.ofNat n) =
    if n < 0x80 then ([Char.ofNat n], none)
    else if 0xC2 ≤ n ∧ n ≤ 0xDF then ([], some ⟨n % 32, 1, 0x80, 0xBF⟩)
    else if n = 0xE0 then ([], some ⟨n % 16, 2, 0xA0, 0xBF⟩)
    else if n = 0xED then ([], some ⟨n % 16, 2, 0x80, 0x9F⟩)
    else if 0xE1 ≤ n ∧ n ≤ 0xEF then ([], some ⟨n % 16, 2, 0x80, 0xBF⟩)
    else if n = 0xF0 then ([], some ⟨n % 8, 3, 0x90, 0xBF⟩)
    else if 0xF1 ≤ n ∧ n ≤ 0xF3 then ([], some ⟨n % 8, 3, 0x80, 0xBF⟩)
    else if n = 0xF4 then ([], some ⟨n % 8, 3, 0x80, 0x8F⟩)
    else (['\uFFFD'], none) := by
  simp only [sequenceFrom, UInt8.lt_iff_toNat_lt, UInt8.le_iff_toNat_le, ← UInt8.toNat_inj, toNat_ofNat small]
  rfl

theorem sequenceFrom_three {n : Nat} (from_ : 0xE0 ≤ n) (upto : n ≤ 0xEF) : ∃ low high,
    sequenceFrom (UInt8.ofNat n) = ([], some ⟨n % 16, 2, low, high⟩) ∧
      (n = 0xE0 → low.toNat = 0xA0) ∧ (n ≠ 0xE0 → low.toNat = 0x80) ∧
      (n = 0xED → high.toNat = 0x9F) ∧ (n ≠ 0xED → high.toNat = 0xBF) := by
  rw [sequenceFrom_ofNat (by omega), if_neg (by omega), if_neg (by omega)]
  split
  · exact ⟨_, _, rfl, by simp, by omega, by omega, by simp⟩
  · split
    · exact ⟨_, _, rfl, by omega, by simp, by simp, by omega⟩
    · rw [if_pos (by omega)]
      exact ⟨_, _, rfl, by omega, by simp, by omega, by simp⟩

theorem sequenceFrom_four {n : Nat} (from_ : 0xF0 ≤ n) (upto : n ≤ 0xF4) : ∃ low high,
    sequenceFrom (UInt8.ofNat n) = ([], some ⟨n % 8, 3, low, high⟩) ∧
      (n = 0xF0 → low.toNat = 0x90) ∧ (n ≠ 0xF0 → low.toNat = 0x80) ∧
      (n = 0xF4 → high.toNat = 0x8F) ∧ (n ≠ 0xF4 → high.toNat = 0xBF) := by
  rw [sequenceFrom_ofNat (by omega), if_neg (by omega), if_neg (by omega), if_neg (by omega), if_neg (by omega),
    if_neg (by omega)]
  split
  · exact ⟨_, _, rfl, by simp, by omega, by omega, by simp⟩
  · split
    · exact ⟨_, _, rfl, by omega, by simp, by omega, by simp⟩
    · rw [if_pos (by omega)]
      exact ⟨_, _, rfl, by omega, by simp, by simp, by omega⟩

/-- What the bytes of one character are read as, whatever follows. -/
theorem lossyFrom_char (c : Char) (rest : List UInt8) :
    lossyFrom none (String.utf8EncodeChar c ++ rest) = c :: lossyFrom none rest := by
  have valid : c.val.toNat < 0xD800 ∨ 0xDFFF < c.val.toNat ∧ c.val.toNat < 0x110000 := c.valid
  have whole : Char.ofNat c.val.toNat = c := Char.ofNat_toNat c
  unfold String.utf8EncodeChar
  dsimp only
  generalize c.val.toNat = v at valid whole
  split
  · rw [List.singleton_append, lossyFrom, sequenceFrom_ofNat (by omega), if_pos (by omega), whole]
    rfl
  · split
    · rw [List.cons_append, List.singleton_append, lossyFrom, sequenceFrom_ofNat (by omega), if_neg (by omega),
        if_pos (by omega), List.nil_append, lossyFrom_last (by omega) (by simp; omega)]
      congr 1
      rw [← whole]
      congr 1
      omega
    · split
      · obtain ⟨low, high, first, low1, low2, high1, high2⟩ :=
          @sequenceFrom_three (v / 4096 % 16 + 0xE0) (by omega) (by omega)
        rw [List.cons_append, List.cons_append, List.singleton_append, lossyFrom, first, List.nil_append,
          lossyFrom_more (by omega) (by omega), lossyFrom_last (by omega) (by simp; omega)]
        congr 1
        rw [← whole]
        congr 1
        omega
      · obtain ⟨low, high, first, low1, low2, high1, high2⟩ :=
          @sequenceFrom_four (v / 262144 % 8 + 0xF0) (by omega) (by omega)
        rw [List.cons_append, List.cons_append, List.cons_append, List.singleton_append, lossyFrom, first,
          List.nil_append,
          lossyFrom_more (by omega) (by omega), lossyFrom_more (by omega) (by simp; omega),
          lossyFrom_last (by omega) (by simp; omega)]
        congr 1
        rw [← whole]
        congr 1
        omega

/-- Encoded text is read as it is. -/
theorem fromUtf8Lossy_utf8 (text : Text) : fromUtf8Lossy (utf8 text) = text := by
  induction text with
  | nil => rfl
  | cons c text ih =>
    rw [utf8, List.flatMap_cons, ← utf8, fromUtf8Lossy, lossyFrom_char, ← fromUtf8Lossy, ih]

end Text

end GuestComponents.Lib
