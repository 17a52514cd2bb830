import Mathlib.Data.List.Infix
import GuestComponents.Image.VerityMount

/-! The options of a verity device: the numbers that `create_verity_device` puts in the table for
options that are valid, and the language of the options in the form with commas. The sum that
rounds the offset up overflows at the last offset there is (`verity_geometry_iff`); the form
with commas lets through more fields, more prefixes and plus signs (`verity_options_denote_iff`). -/
namespace GuestComponents.Image.VerityOption
open Lib Lib.Text Image

section Arithmetic

/-- `+` on `u64`, where overflow is checked. -/
def checkedAdd (a b : UInt64) : Outcome UInt64 :=
  if a.toNat + b.toNat < 2 ^ 64 then .ok (a + b) else .panic "attempt to add with overflow"

/-- `-` on `u64`. -/
def checkedMinus (a b : UInt64) : Outcome UInt64 :=
  if b.toNat ≤ a.toNat then .ok (a - b) else .panic "attempt to subtract with overflow"

/-- `*` on `u64`. -/
def checkedMul (a b : UInt64) : Outcome UInt64 :=
  if a.toNat * b.toNat < 2 ^ 64 then .ok (a * b) else .panic "attempt to multiply with overflow"

/-- `/` on `u64`. -/
def checkedDiv (a b : UInt64) : Outcome UInt64 :=
  if b = 0 then .panic "attempt to divide by zero" else .ok (a / b)

/-- `hash_start_block`, with every operation checked. -/
def hashStartBlock (option : DmVerityOption) : Outcome UInt64 := do
  let sum ← checkedAdd option.offset option.hashsize
  let last ← checkedMinus sum 1
  checkedDiv last option.hashsize

/-- The sectors of the table, with every operation checked. -/
def tableSectors (option : DmVerityOption) : Outcome UInt64 := do
  let bytes ← checkedMul option.blocknum option.blocksize
  checkedDiv bytes 512

end Arithmetic

section Geometry

variable {option : DmVerityOption} {a b : UInt64}

/-- An operation that panics unless its operands allow it. -/
theorem checked_ok {allowed : Prop} [Decidable allowed] {message : String} {given c : UInt64} :
    (if allowed then .ok given else .panic message : Outcome UInt64) = .ok c ↔ allowed ∧ c = given := by
  split
  · rename_i within
    exact ⟨fun same => ⟨within, (Except.ok.inj same).symm⟩, fun ⟨_, same⟩ => congrArg Except.ok same.symm⟩
  · rename_i beyond
    exact iff_of_false (fun panicked => by cases panicked) fun ⟨within, _⟩ => beyond within

theorem checkedAdd_ok {c : UInt64} : checkedAdd a b = .ok c ↔ a.toNat + b.toNat < 2 ^ 64 ∧ c = a + b := checked_ok

theorem checkedMinus_ok {c : UInt64} : checkedMinus a b = .ok c ↔ b.toNat ≤ a.toNat ∧ c = a - b := checked_ok

theorem checkedMul_ok {c : UInt64} : checkedMul a b = .ok c ↔ a.toNat * b.toNat < 2 ^ 64 ∧ c = a * b := checked_ok

theorem checkedDiv_ok {c : UInt64} : checkedDiv a b = .ok c ↔ b ≠ 0 ∧ c = a / b := by
  rw [checkedDiv, ← ite_not]
  exact checked_ok

theorem checkedAdd_of_lt (bounded : a.toNat + b.toNat < 2 ^ 64) : checkedAdd a b = .ok (a + b) := if_pos bounded

theorem checkedMinus_of_le (le : b.toNat ≤ a.toNat) : checkedMinus a b = .ok (a - b) := if_pos le

theorem checkedMul_of_lt (bounded : a.toNat * b.toNat < 2 ^ 64) : checkedMul a b = .ok (a * b) := if_pos bounded

theorem checkedDiv_of_ne (nonzero : b ≠ 0) : checkedDiv a b = .ok (a / b) := if_neg nonzero

theorem isValidBlockSize_iff (size : UInt64) : DmVerityOption.isValidBlockSize size = true ↔
    ∃ order, 9 ≤ order ∧ order < 20 ∧ size.toNat = 2 ^ order := by
  rw [DmVerityOption.isValidBlockSize, List.any_eq_true]
  have shifted : ∀ order, 9 ≤ order → order < 20 → ((1 : UInt64) <<< UInt64.ofNat order).toNat = 2 ^ order := by
    intro order least greatest
    interval_cases order <;> rfl
  constructor
  · rintro ⟨order, listed, same⟩
    rw [List.mem_range'_1] at listed
    refine ⟨order, listed.1, listed.2, ?_⟩
    rw [of_decide_eq_true same, shifted order listed.1 listed.2]
  · rintro ⟨order, least, greatest, same⟩
    refine ⟨order, List.mem_range'_1.mpr ⟨least, greatest⟩, decide_eq_true ?_⟩
    apply UInt64.toNat_inj.mp
    rw [same, shifted order least greatest]

/-- What `validate` says of the numbers. -/
structure ValidNumbers (option : DmVerityOption) : Prop where
  blocks : 0 < option.blocknum.toNat ∧ option.blocknum.toNat < 2 ^ 32
  blocksize : ∃ order, 9 ≤ order ∧ order < 20 ∧ option.blocksize.toNat = 2 ^ order
  hashsize : ∃ order, 9 ≤ order ∧ order < 20 ∧ option.hashsize.toNat = 2 ^ order
  aligned : option.hashsize.toNat ∣ option.offset.toNat
  behind : option.blocknum.toNat * option.blocksize.toNat ≤ option.offset.toNat

theorem blocks_lt (blocks : a.toNat < 2 ^ 32) (size : ∃ order, 9 ≤ order ∧ order < 20 ∧ b.toNat = 2 ^ order) :
    a.toNat * b.toNat < 2 ^ 64 := by
  obtain ⟨order, _, greatest, same⟩ := size
  have small : b.toNat < 2 ^ 20 := by
    rw [same]
    exact Nat.pow_lt_pow_right (by decide) greatest
  calc a.toNat * b.toNat ≤ 2 ^ 32 * 2 ^ 20 := Nat.mul_le_mul (Nat.le_of_lt blocks) (Nat.le_of_lt small)
    _ < 2 ^ 64 := by decide

/-- One check of a sequence. -/
theorem check_ok {refused : Prop} [Decidable refused] {error : String} {rest : Except String Unit} :
    (if refused then .error error else rest) = .ok () ↔ ¬ refused ∧ rest = .ok () := by
  by_cases bad : refused
  · simp [bad]
  · simp [bad]

/-- The checks of two kinds that exclude each other, and of there being one of them. -/
theorem one_kind {first second good good' : Prop} (apart : first → ¬ second) :
    ¬ (first ∧ ¬ good) ∧ ¬ (second ∧ ¬ good') ∧ ¬ (¬ first ∧ ¬ second) ↔
    first ∧ good ∨ second ∧ good' := by
  by_cases isFirst : first
  · have notSecond := apart isFirst
    simp [isFirst, notSecond]
  · by_cases isSecond : second
    · simp [isFirst, isSecond]
    · simp [isFirst, isSecond]

theorem blocks_iff : ¬ (option.blocknum = 0 ∨ UInt64.ofNat (2 ^ 32 - 1) < option.blocknum) ↔
    0 < option.blocknum.toNat ∧ option.blocknum.toNat < 2 ^ 32 := by
  rw [not_or, UInt64.lt_iff_toNat_lt, ← UInt64.toNat_inj]
  have bound : (UInt64.ofNat (2 ^ 32 - 1)).toNat = 2 ^ 32 - 1 := rfl
  have zero : (0 : UInt64).toNat = 0 := rfl
  rw [bound, zero]
  omega

theorem offset_iff (counted : option.blocknum.toNat < 2 ^ 32)
    (sized : ∃ order, 9 ≤ order ∧ order < 20 ∧ option.blocksize.toNat = 2 ^ order) :
    ¬ (option.offset % option.hashsize ≠ 0 ∨ option.offset < option.blocksize * option.blocknum) ↔
      option.hashsize.toNat ∣ option.offset.toNat ∧
        option.blocknum.toNat * option.blocksize.toNat ≤ option.offset.toNat := by
  have whole : (option.blocksize * option.blocknum).toNat = option.blocknum.toNat * option.blocksize.toNat := by
    rw [UInt64.toNat_mul, Nat.mul_comm, Nat.mod_eq_of_lt (blocks_lt counted sized)]
  have zero : (0 : UInt64).toNat = 0 := rfl
  rw [not_or, not_not, UInt64.not_lt, UInt64.le_iff_toNat_le, whole, ← UInt64.toNat_inj, UInt64.toNat_mod, zero,
    Nat.dvd_iff_mod_eq_zero]

/-- `validate` accepts a hash of the length that belongs to its type, and valid numbers. -/
theorem validate_iff : option.validate = .ok () ↔
    ((option.hashtype.map Char.toLower = "sha256".toList ∧ DmVerityOption.isHash option.hash 64 = true ∨
      option.hashtype.map Char.toLower = "sha1".toList ∧ DmVerityOption.isHash option.hash 40 = true) ∧
      ValidNumbers option) := by
  have apart : option.hashtype.map Char.toLower = "sha256".toList →
      ¬ option.hashtype.map Char.toLower = "sha1".toList := by
    intro first second
    exact absurd (first.symm.trans second) (by decide)
  have kinds :=
    @one_kind _ _ (DmVerityOption.isHash option.hash 64 = true) (DmVerityOption.isHash option.hash 40 = true) apart
  simp only [DmVerityOption.validate, check_ok]
  constructor
  · rintro ⟨first, second, third, counted, sized, placed, _⟩
    have counted := blocks_iff.mp counted
    rw [not_or, not_not, not_not, isValidBlockSize_iff, isValidBlockSize_iff] at sized
    have placed := (offset_iff counted.2 sized.1).mp placed
    exact ⟨kinds.mp ⟨first, second, third⟩, counted, sized.1, sized.2, placed.1, placed.2⟩
  · rintro ⟨kind, numbers⟩
    obtain ⟨first, second, third⟩ := kinds.mpr kind
    refine ⟨first, second, third, blocks_iff.mpr numbers.blocks, ?_,
      (offset_iff numbers.blocks.2 numbers.blocksize).mpr ⟨numbers.aligned, numbers.behind⟩, trivial⟩
    rw [not_or, not_not, not_not, isValidBlockSize_iff, isValidBlockSize_iff]
    exact ⟨numbers.blocksize, numbers.hashsize⟩

theorem validNumbers_of_validate (valid : option.validate = .ok ()) : ValidNumbers option := (validate_iff.mp valid).2

theorem pow_pos_of {size : UInt64} (sized : ∃ order, 9 ≤ order ∧ order < 20 ∧ size.toNat = 2 ^ order) :
    0 < size.toNat ∧ 512 ∣ size.toNat := by
  obtain ⟨order, least, _, same⟩ := sized
  rw [same]
  refine ⟨Nat.two_pow_pos order, ?_⟩
  change 2 ^ 9 ∣ 2 ^ order
  exact Nat.pow_dvd_pow 2 least

/-- The table's sectors are those of the data. -/
theorem tableSectors_ok (numbers : ValidNumbers option) :
    ∃ sectors, tableSectors option = .ok sectors ∧
      sectors.toNat * 512 = option.blocknum.toNat * option.blocksize.toNat := by
  have small := blocks_lt numbers.blocks.2 numbers.blocksize
  have nonzero : (512 : UInt64) ≠ 0 := by decide
  refine ⟨option.blocknum * option.blocksize / 512, ?_, ?_⟩
  · rw [tableSectors, checkedMul_of_lt small]
    exact checkedDiv_of_ne nonzero
  · rw [UInt64.toNat_div, UInt64.toNat_mul, Nat.mod_eq_of_lt small]
    exact Nat.div_mul_cancel (Nat.dvd_mul_left_of_dvd (pow_pos_of numbers.blocksize).2 _)

theorem ceil_of_dvd {offset size : Nat} (positive : 0 < size) (aligned : size ∣ offset) :
    (offset + size - 1) / size * size = offset := by
  obtain ⟨count, rfl⟩ := aligned
  have last : size * count + size - 1 = size * count + (size - 1) := by omega
  rw [last, Nat.mul_add_div positive, Nat.div_eq_of_lt (by omega), Nat.add_zero, Nat.mul_comm]

/-- Below the last offset, the block that the hashes start at is the offset's. -/
theorem hashStartBlock_ok (numbers : ValidNumbers option) (room : option.offset.toNat + option.hashsize.toNat < 2 ^ 64) :
    ∃ start, hashStartBlock option = .ok start ∧ start.toNat * option.hashsize.toNat = option.offset.toNat := by
  have positive := (pow_pos_of numbers.hashsize).1
  have sum : (option.offset + option.hashsize).toNat = option.offset.toNat + option.hashsize.toNat := by
    rw [UInt64.toNat_add, Nat.mod_eq_of_lt room]
  have one : (1 : UInt64).toNat ≤ (option.offset + option.hashsize).toNat := by
    rw [sum]
    exact Nat.le_add_left_of_le positive
  have nonzero : option.hashsize ≠ 0 := by
    intro zero
    rw [zero] at positive
    exact Nat.lt_irrefl _ positive
  refine ⟨(option.offset + option.hashsize - 1) / option.hashsize, ?_, ?_⟩
  · rw [hashStartBlock, checkedAdd_of_lt room]
    change (checkedMinus _ 1 >>= fun last => checkedDiv last option.hashsize) = _
    rw [checkedMinus_of_le one]
    exact checkedDiv_of_ne nonzero
  · rw [UInt64.toNat_div, UInt64.toNat_sub_of_le _ _ one, sum]
    exact ceil_of_dvd positive numbers.aligned

/-- Every operation stays within `u64`, and the table describes the options. -/
def ExactGeometry (option : DmVerityOption) : Prop :=
  ∃ start sectors, hashStartBlock option = .ok start ∧ tableSectors option = .ok sectors ∧
    start.toNat * option.hashsize.toNat = option.offset.toNat ∧
    option.blocknum.toNat * option.blocksize.toNat ≤ option.offset.toNat ∧
    sectors.toNat * 512 = option.blocknum.toNat * option.blocksize.toNat

/-- The geometry of valid options is exact but for the last offset that is a multiple of the hash
block size, where the sum overflows. -/
theorem verity_geometry_iff (option : DmVerityOption) (valid : option.validate = .ok ()) :
    ExactGeometry option ↔ option.offset.toNat + option.hashsize.toNat < 2 ^ 64 := by
  have numbers := validNumbers_of_validate valid
  constructor
  · rintro ⟨start, sectors, computed, _⟩
    obtain ⟨sum, added, _⟩ := bind_ok.mp computed
    exact (checkedAdd_ok.mp added).1
  · intro room
    obtain ⟨start, computed, exact_⟩ := hashStartBlock_ok numbers room
    obtain ⟨sectors, counted, whole⟩ := tableSectors_ok numbers
    exact ⟨start, sectors, computed, counted, exact_, numbers.behind, whole⟩

/-- What the checked operations give is what stands in the table. -/
theorem verityTable_checked {start sectors : UInt64} (sourceDevicePath : Text)
    (computed : hashStartBlock option = .ok start) (counted : tableSectors option = .ok sectors) :
    verityTable option sourceDevicePath =
      .ok ⟨0, sectors, "verity".toList, verityParams option sourceDevicePath start⟩ := by
  obtain ⟨sum, added, computed⟩ := bind_ok.mp computed
  obtain ⟨last, less, divided⟩ := bind_ok.mp computed
  obtain ⟨bytes, multiplied, halved⟩ := bind_ok.mp counted
  obtain ⟨_, rfl⟩ := checkedAdd_ok.mp added
  obtain ⟨_, rfl⟩ := checkedMinus_ok.mp less
  obtain ⟨sizes, rfl⟩ := checkedDiv_ok.mp divided
  obtain ⟨_, rfl⟩ := checkedMul_ok.mp multiplied
  obtain ⟨_, rfl⟩ := checkedDiv_ok.mp halved
  rw [verityTable, if_neg sizes]

/-- A release build, where the sum wraps, has the same block there: what wraps is made good by the
subtraction. -/
theorem wrapped_start (valid : option.validate = .ok ()) :
    ((option.offset + option.hashsize - 1) / option.hashsize).toNat * option.hashsize.toNat = option.offset.toNat := by
  have numbers := validNumbers_of_validate valid
  have positive := (pow_pos_of numbers.hashsize).1
  have below := option.offset.toNat_lt
  obtain ⟨order, _, small, power⟩ := numbers.hashsize
  have last : (option.offset + option.hashsize - 1).toNat = option.offset.toNat + option.hashsize.toNat - 1 := by
    obtain ⟨count, multiple⟩ := numbers.aligned
    have top : 2 ^ 64 = option.hashsize.toNat * 2 ^ (64 - order) := by
      rw [power, ← Nat.pow_add]
      congr 1
      omega
    have fits : option.offset.toNat + option.hashsize.toNat ≤ 2 ^ 64 := by
      rw [top, multiple, ← Nat.mul_succ]
      rw [top, multiple] at below
      exact Nat.mul_le_mul_left _ (Nat.lt_of_mul_lt_mul_left below)
    rw [UInt64.toNat_sub, UInt64.toNat_add]
    have one : (1 : UInt64).toNat = 1 := rfl
    rw [one]
    omega
  rw [UInt64.toNat_div, last]
  exact ceil_of_dvd positive numbers.aligned

def lastOffset : DmVerityOption :=
  ⟨"sha256".toList, List.replicate 64 '0', 1, 512, 4096, UInt64.ofNat (2 ^ 64 - 4096)⟩

/-- The last offset is valid, and its sum overflows. -/
theorem last_offset_overflows : lastOffset.validate = .ok () ∧ ¬ ExactGeometry lastOffset := by
  refine ⟨by decide +kernel, ?_⟩
  rintro ⟨start, sectors, computed, _⟩
  have panics : hashStartBlock lastOffset = .panic "attempt to add with overflow" := by rfl
  rw [panics] at computed
  cases computed

def eightBlocks : DmVerityOption := ⟨"sha256".toList, List.replicate 64 '0', 8, 512, 4096, 4096⟩

theorem eight_blocks_exact : eightBlocks.validate = .ok () ∧ ExactGeometry eightBlocks := by
  have valid : eightBlocks.validate = .ok () := by decide +kernel
  exact ⟨valid, (verity_geometry_iff eightBlocks valid).mpr (by decide)⟩

end Geometry

section Grammar

variable {signed : Bool} {text value blocks offset hex : Text} {option : DmVerityOption} {n : UInt64}

def sha256Prefix : Text := "sha256:".toList

/-- A number of the grammar, the decimal digits of a `u64`. Where numbers are signed, the plus sign
that `str::parse` reads may stand before them. -/
def Number (signed : Bool) (text : Text) (n : UInt64) : Prop :=
  ∃ digits, (text = digits ∨ signed = true ∧ text = '+' :: digits) ∧ digits ≠ [] ∧
    digits.all Char.isDigit = true ∧ Nat.ofDigitChars 10 digits 0 = n.toNat

/-- A digest of the grammar. -/
def Digest (text : Text) : Prop := text.length = 64 ∧ ∀ c ∈ text, (hexValue c).isSome = true

/-- The option that a number of blocks, an offset and a digest stand for. -/
structure Fields (signed : Bool) (blocks offset hex : Text) (option : DmVerityOption) : Prop where
  blocknum : Number signed blocks option.blocknum
  offset : Number signed offset option.offset
  digest : Digest hex
  same : option = ⟨"sha256".toList, hex, option.blocknum, 512, 4096, option.offset⟩

/-- Fields with commas between them. -/
def commas (fields : List Text) : Text := List.intercalate [','] fields

/-- What a string denotes: `blocks,offset,sha256:HEX`, or JSON, as it stands or in base64. -/
inductive Denotes (signed : Bool) (serdeJson : Text → Except String Json) : Text → DmVerityOption → Prop
  | tarfs {blocks offset hex : Text} {option : DmVerityOption} (fields : Fields signed blocks offset hex option) :
      Denotes signed serdeJson (commas [blocks, offset, sha256Prefix ++ hex]) option
  | json {value : Text} {option : DmVerityOption} (plain : ¬ sha256Prefix <:+: value)
      (parsed : serdeJson value >>= DmVerityOption.deserialize = .ok option) : Denotes signed serdeJson value option
  | encoded {value : Text} {option : DmVerityOption} (plain : ¬ sha256Prefix <:+: value)
      (decoded : DmVerityOption.fromEncoded serdeJson value = .ok option) : Denotes signed serdeJson value option

/-- Strings of the form with commas beyond the grammar: a field more with the prefix in it and the
digest bare, the prefix again and again, and a sign where numbers have none. -/
inductive Lax (signed : Bool) (blocks offset hex : Text) : Text → Prop
  | extraField {rest : Text} (later : sha256Prefix <:+: rest) : Lax signed blocks offset hex
    (commas [blocks, offset, hex, rest])
  | repeatedPrefix {count : Nat} (again : 2 ≤ count) :
      Lax signed blocks offset hex (commas [blocks, offset, (List.replicate count sha256Prefix).flatten ++ hex])
  | plusSign (unsigned : signed = false) (sign : blocks.head? = some '+' ∨ offset.head? = some '+') :
      Lax signed blocks offset hex (commas [blocks, offset, sha256Prefix ++ hex])

/-- A string beyond the grammar, of fields that are valid. -/
def Slipped (signed : Bool) (value : Text) : Prop :=
  ∃ blocks offset hex option, Fields true blocks offset hex option ∧ option.validate = .ok () ∧
    Lax signed blocks offset hex value

theorem containsStr_iff {pattern text : Text} : containsStr pattern text = true ↔ pattern <:+: text := by
  rw [containsStr, List.any_eq_true]
  constructor
  · rintro ⟨rest, tail, starts⟩
    exact (List.isPrefixOf_iff_prefix.mp starts).isInfix.trans ((List.mem_tails _ _).mp tail).isInfix
  · rintro ⟨front, back, rfl⟩
    refine ⟨pattern ++ back, (List.mem_tails _ _).mpr ⟨front, by simp⟩, ?_⟩
    exact List.isPrefixOf_iff_prefix.mpr (List.prefix_append _ _)

/-- What `str::parse` makes of digits. -/
def readDigits (digits : Text) : Option Nat :=
  if digits ≠ [] ∧ digits.all Char.isDigit ∧ Nat.ofDigitChars 10 digits 0 < usizeBound then
    some (Nat.ofDigitChars 10 digits 0)
  else none

/-- A text without its sign. -/
def signless (text : Text) : Text :=
  match text with
  | '+' :: rest => rest
  | _ => text

theorem parseUsize_signless (text : Text) : parseUsize text = readDigits (signless text) := rfl

theorem signless_of_plain (plain : ∀ rest, text ≠ '+' :: rest) : signless text = text := by
  unfold signless
  split
  · rename_i rest
    exact absurd rfl (plain rest)
  · rfl

theorem readDigits_lt {digits : Text} {m : Nat} (read : readDigits digits = some m) : m < 2 ^ 64 := by
  rw [readDigits] at read
  split at read
  · rename_i fits
    cases read
    exact fits.2.2
  · cases read

theorem readDigits_some {digits : Text} : readDigits digits = some n.toNat ↔
    digits ≠ [] ∧ digits.all Char.isDigit = true ∧ Nat.ofDigitChars 10 digits 0 = n.toNat := by
  rw [readDigits]
  constructor
  · intro read
    split at read
    · rename_i fits
      exact ⟨fits.1, fits.2.1, Option.some.inj read⟩
    · cases read
  · rintro ⟨some, all, valued⟩
    have below : Nat.ofDigitChars 10 digits 0 < usizeBound := by
      rw [valued]
      exact n.toNat_lt
    rw [if_pos ⟨some, all, below⟩, valued]

theorem parseUsize_some : parseUsize text = some n.toNat ↔ Number true text n := by
  rw [parseUsize_signless, readDigits_some]
  by_cases signed : ∃ rest, text = '+' :: rest
  · obtain ⟨rest, rfl⟩ := signed
    refine ⟨fun read => ⟨rest, .inr ⟨rfl, rfl⟩, read⟩, ?_⟩
    rintro ⟨digits, rfl | ⟨_, same⟩, some, all, valued⟩
    · exact absurd (List.all_eq_true.mp all '+' List.mem_cons_self) (by decide)
    · cases same
      exact ⟨some, all, valued⟩
  · have plain : ∀ rest, text ≠ '+' :: rest := fun rest same => signed ⟨rest, same⟩
    rw [signless_of_plain plain]
    refine ⟨fun read => ⟨text, .inl rfl, read⟩, ?_⟩
    rintro ⟨digits, rfl | ⟨_, same⟩, some, all, valued⟩
    · exact ⟨some, all, valued⟩
    · exact absurd same (plain digits)

theorem parseU64_ok : DmVerityOption.parseU64 text = .ok n ↔ Number true text n := by
  rw [← parseUsize_some, DmVerityOption.parseU64]
  cases parsed : parseUsize text with
  | none => simp [Outcome.bail]
  | some m =>
    have same : UInt64.ofNat m = n ↔ m = n.toNat := by
      rw [← UInt64.toNat_inj, UInt64.toNat_ofNat_of_lt' (readDigits_lt parsed)]
    simp [same]

/-- Nothing else is in a number. -/
theorem Number.absent {c : Char} (number : Number signed text n) (other : c ≠ '+') (nondigit : c.isDigit = false) :
    c ∉ text := by
  obtain ⟨digits, spelled, _, all, _⟩ := number
  have absent : c ∉ digits := by
    intro listed
    rw [List.all_eq_true.mp all c listed] at nondigit
    cases nondigit
  rcases spelled with rfl | ⟨_, rfl⟩
  · exact absent
  · rw [List.mem_cons, not_or]
    exact ⟨other, absent⟩

theorem Number.unsigned (number : Number true text n) (plain : text.head? ≠ some '+') : Number signed text n := by
  obtain ⟨digits, rfl | ⟨_, rfl⟩, rest⟩ := number
  · exact ⟨text, .inl rfl, rest⟩
  · exact absurd rfl plain

theorem Number.head (number : Number false text n) : text.head? ≠ some '+' := by
  obtain ⟨digits, rfl | ⟨signed, _⟩, _, all, _⟩ := number
  · intro starts
    exact absurd (List.all_eq_true.mp all '+' (List.mem_of_mem_head? starts)) (by decide)
  · cases signed

theorem hexValue_absent {c : Char} (digest : Digest text) (other : (hexValue c).isSome = false) : c ∉ text := by
  intro listed
  rw [digest.2 c listed] at other
  cases other

theorem isHash_iff : DmVerityOption.isHash text 64 = true ↔ Digest text := by
  have encoded : (∀ c ∈ text, (hexValue c).isSome = true) → (utf8 text).length = text.length := by
    induction text with
    | nil => exact fun _ => rfl
    | cons c rest ih =>
      intro all
      have ascii : c.utf8Size = 1 := by
        have digit := all c List.mem_cons_self
        rw [Char.utf8Size_eq_one_iff]
        rw [UInt32.le_iff_toNat_le]
        unfold hexValue at digit
        change c.toNat ≤ 127
        by_contra large
        simp only [show ¬ (48 ≤ c.toNat ∧ c.toNat ≤ 57) by omega,
          show ¬ (97 ≤ c.toNat ∧ c.toNat ≤ 102) by omega,
          show ¬ (65 ≤ c.toNat ∧ c.toNat ≤ 70) by omega] at digit
        cases digit
      have later := ih fun d listed => all d (List.mem_cons_of_mem _ listed)
      rw [utf8, List.flatMap_cons, List.length_append, String.length_utf8EncodeChar, ascii, List.length_cons]
      rw [utf8] at later
      omega
  rw [DmVerityOption.isHash, decide_eq_true_iff, hexDecode_isSome, Digest]
  constructor
  · rintro ⟨long, _, all⟩
    exact ⟨(encoded all).symm.trans long, all⟩
  · rintro ⟨long, all⟩
    exact ⟨(encoded all).trans long, by rw [long], all⟩

theorem dropPrefix_some {pattern rest : Text} : text.dropPrefix? pattern = some rest ↔ text = pattern ++ rest := by
  simp [List.dropPrefix?_eq_some_iff]

/-- The prefix is taken off as often as it stands there. -/
theorem trimStartMatches_spec {pattern : Text} (some : pattern ≠ []) (fuel : Nat) (text : Text)
    (enough : text.length ≤ fuel) :
    ∃ count, text = (List.replicate count pattern).flatten ++ trimStartMatches pattern fuel text ∧
      ¬ pattern <+: trimStartMatches pattern fuel text := by
  induction fuel generalizing text with
  | zero =>
    rw [List.eq_nil_of_length_eq_zero (Nat.le_zero.mp enough)]
    refine ⟨0, rfl, ?_⟩
    rw [trimStartMatches, List.prefix_nil]
    exact some
  | succ fuel ih =>
    rw [trimStartMatches]
    cases dropped : text.dropPrefix? pattern with
    | none =>
      refine ⟨0, rfl, ?_⟩
      rintro ⟨rest, rfl⟩
      rw [dropPrefix_some.mpr rfl] at dropped
      cases dropped
    | some rest =>
      obtain rfl := dropPrefix_some.mp dropped
      have shorter : rest.length ≤ fuel := by
        rw [List.length_append] at enough
        have := List.length_pos_of_ne_nil some
        omega
      obtain ⟨count, whole, plain⟩ := ih rest shorter
      refine ⟨count + 1, ?_, plain⟩
      rw [List.replicate_succ, List.flatten_cons, List.append_assoc, ← whole]

theorem trimStartMatches_replicate {pattern rest : Text} (plain : ¬ pattern <+: rest) (count fuel : Nat)
    (enough : count ≤ fuel) :
    trimStartMatches pattern fuel ((List.replicate count pattern).flatten ++ rest) = rest := by
  induction count generalizing fuel with
  | zero =>
    cases fuel with
    | zero => rfl
    | succ fuel =>
      rw [trimStartMatches]
      cases dropped : ((List.replicate 0 pattern).flatten ++ rest).dropPrefix? pattern with
      | none => rfl
      | some _ => exact absurd ⟨_, (dropPrefix_some.mp dropped).symm⟩ plain
  | succ count ih =>
    cases fuel with
    | zero => exact absurd enough (Nat.not_succ_le_zero _)
    | succ fuel =>
      rw [trimStartMatches, List.replicate_succ, List.flatten_cons, List.append_assoc, dropPrefix_some.mpr rfl]
      exact ih fuel (Nat.le_of_succ_le_succ enough)

/-- The prefix, so many times over. -/
def prefixes (count : Nat) : Text := (List.replicate count sha256Prefix).flatten

theorem part_ok {parts : List Text} {index : Nat} {part : Text} :
    DmVerityOption.part parts index = .ok part ↔ parts[index]? = some part := by
  rw [DmVerityOption.part]
  cases parts[index]? <;> simp [Outcome.panic]

/-- The hash of the third part, where there are others behind it. -/
def hashOf (third : Text) (others : List Text) : Text :=
  if others = [] then trimStartMatches sha256Prefix third.length third else third

theorem parseTarfsOptions_of_split {third : Text} {others : List Text}
    (fields : split ',' value = blocks :: offset :: third :: others) :
    DmVerityOption.parseTarfsOptions value = .ok option ↔
      Number true blocks option.blocknum ∧ Number true offset option.offset ∧
        option = ⟨"sha256".toList, hashOf third others, option.blocknum, 512, 4096, option.offset⟩ := by
  have three : (blocks :: offset :: third :: others).length = 3 ↔ others = [] := by simp
  have unfolded : DmVerityOption.parseTarfsOptions value =
      (DmVerityOption.parseU64 blocks >>= fun blocknum => DmVerityOption.parseU64 offset >>= fun start =>
        .ok ⟨"sha256".toList, hashOf third others, blocknum, 512, 4096, start⟩) := by
    rw [DmVerityOption.parseTarfsOptions, fields]
    simp only [three]
    rfl
  rw [unfolded, bind_ok]
  constructor
  · rintro ⟨blocknum, counted, read⟩
    obtain ⟨start, placed, same⟩ := bind_ok.mp read
    cases same
    exact ⟨parseU64_ok.mp counted, parseU64_ok.mp placed, rfl⟩
  · rintro ⟨counted, placed, same⟩
    refine ⟨option.blocknum, parseU64_ok.mpr counted, bind_ok.mpr ⟨option.offset, parseU64_ok.mpr placed, ?_⟩⟩
    rw [← same]

theorem not_infix_of_absent {pattern : Text} {c : Char} (listed : c ∈ pattern) (absent : c ∉ text) :
    ¬ pattern <:+: text :=
  fun within => absent (within.subset listed)

theorem Number.not_infix (number : Number signed text n) : ¬ sha256Prefix <:+: text :=
  not_infix_of_absent (c := 's') (by decide) (number.absent (by decide) (by decide))

theorem Digest.not_infix (digest : Digest text) : ¬ sha256Prefix <:+: text :=
  not_infix_of_absent (c := 's') (by decide) (hexValue_absent digest (by decide))

theorem panicFree_parseU64 (text : Text) : PanicFree (DmVerityOption.parseU64 text) := by
  rw [DmVerityOption.parseU64]
  cases parseUsize text with
  | none => exact panicFree_bail _
  | some n => exact panicFree_ok _

/-- With the prefix in one of them, fewer than three parts fail at a number. -/
theorem panicFree_parseTarfsOptions (tarfs : sha256Prefix <:+: value) :
    PanicFree (DmVerityOption.parseTarfsOptions value) := by
  obtain ⟨part, listed, within⟩ := (@infix_split _ ',' _ (by decide)).mp tarfs
  rw [DmVerityOption.parseTarfsOptions]
  cases parts : split ',' value with
  | nil =>
    rw [parts] at listed
    exact absurd listed List.not_mem_nil
  | cons blocks others =>
    rw [panicFree_bind]
    refine ⟨panicFree_parseU64 blocks, fun blocknum counted => ?_⟩
    have number : Number true blocks blocknum := parseU64_ok.mp counted
    rw [parts] at listed
    rcases List.mem_cons.mp listed with rfl | later
    · exact absurd within number.not_infix
    cases others with
    | nil => exact absurd later List.not_mem_nil
    | cons offset others =>
      rw [panicFree_bind]
      refine ⟨panicFree_parseU64 offset, fun start placed => ?_⟩
      have number : Number true offset start := parseU64_ok.mp placed
      rcases List.mem_cons.mp later with rfl | later
      · exact absurd within number.not_infix
      cases others with
      | nil => exact absurd later List.not_mem_nil
      | cons third others => exact panicFree_ok _

theorem prefixes_succ (count : Nat) : prefixes (count + 1) = sha256Prefix ++ prefixes count := by
  rw [prefixes, List.replicate_succ, List.flatten_cons, prefixes]

theorem comma_absent_prefixes (count : Nat) : ',' ∉ prefixes count := by
  intro listed
  obtain ⟨part, among, inside⟩ := List.mem_flatten.mp listed
  rw [List.eq_of_mem_replicate among] at inside
  exact absurd inside (by decide)

theorem comma_absent_hex (digest : Digest hex) : ',' ∉ hex := hexValue_absent digest (by decide)

theorem Number.comma_absent (number : Number signed text n) : ',' ∉ text := number.absent (by decide) (by decide)

/-- The parts of fields, of which the last may have parts of its own. -/
theorem split_commas {first second third rest : Text} (absent : ',' ∉ first) (absent' : ',' ∉ second)
    (absent'' : ',' ∉ third) :
    split ',' (commas [first, second, third, rest]) = first :: second :: third :: split ',' rest := by
  have whole : commas [first, second, third, rest] = commas (first :: second :: third :: split ',' rest) := by
    conv_lhs => rw [← intercalate_split ',' rest]
    cases parts : split ',' rest with
    | nil => simp [split_eq_splitOn] at parts
    | cons part parts => simp [commas]
  rw [whole, commas, split_intercalate _ (List.cons_ne_nil _ _)]
  intro part listed
  simp only [List.mem_cons] at listed
  rcases listed with rfl | rfl | rfl | later
  · exact absent
  · exact absent'
  · exact absent''
  · exact absent_of_mem_split later

theorem split_three {first second third : Text} (absent : ',' ∉ first) (absent' : ',' ∉ second)
    (absent'' : ',' ∉ third) :
    split ',' (commas [first, second, third]) = [first, second, third] := by
  refine split_intercalate ?_ (List.cons_ne_nil _ _)
  intro part listed
  simp only [List.mem_cons, List.not_mem_nil, or_false] at listed
  rcases listed with rfl | rfl | rfl
  · exact absent
  · exact absent'
  · exact absent''

/-- The spellings of three fields that the reader takes. -/
inductive Spelled (blocks offset hex : Text) : Text → Prop
  | prefixed (count : Nat) : Spelled blocks offset hex (commas [blocks, offset, prefixes (count + 1) ++ hex])
  | bare {rest : Text} (later : sha256Prefix <:+: rest) : Spelled blocks offset hex (commas [blocks, offset, hex, rest])

theorem Spelled.tarfs (spelled : Spelled blocks offset hex value) : sha256Prefix <:+: value := by
  cases spelled with
  | prefixed count =>
    have third : sha256Prefix <:+: prefixes (count + 1) ++ hex := by
      rw [prefixes_succ, List.append_assoc]
      exact (List.prefix_append _ _).isInfix
    have whole : commas [blocks, offset, prefixes (count + 1) ++ hex] =
        blocks ++ ',' :: (offset ++ ',' :: (prefixes (count + 1) ++ hex)) := by simp [commas]
    rw [whole]
    exact (infix_separated (by decide)).mpr (.inr ((infix_separated (by decide)).mpr (.inr third)))
  | @bare rest later =>
    have whole : commas [blocks, offset, hex, rest] = blocks ++ ',' :: (offset ++ ',' :: (hex ++ ',' :: rest)) := by
      simp [commas]
    rw [whole]
    exact (infix_separated (by decide)).mpr (.inr ((infix_separated (by decide)).mpr
      (.inr ((infix_separated (by decide)).mpr (.inr later)))))

theorem Spelled.read (spelled : Spelled blocks offset hex value) (fields : Fields true blocks offset hex option) :
    DmVerityOption.parseTarfsOptions value = .ok option := by
  have plain := comma_absent_hex fields.digest
  cases spelled with
  | prefixed count =>
    have parts := split_three fields.blocknum.comma_absent fields.offset.comma_absent
      (List.mem_append.not.mpr (not_or.mpr ⟨comma_absent_prefixes (count + 1), plain⟩))
    refine (parseTarfsOptions_of_split parts).mpr ⟨fields.blocknum, fields.offset, ?_⟩
    have enough : count + 1 ≤ (prefixes (count + 1) ++ hex).length := by
      have long : (prefixes (count + 1)).length = (count + 1) * 7 := by
        rw [prefixes, List.length_flatten, List.map_replicate, List.sum_replicate_nat]
        rfl
      rw [List.length_append, long]
      omega
    have trimmed : hashOf (prefixes (count + 1) ++ hex) [] = hex :=
      (if_pos rfl).trans (trimStartMatches_replicate (fun starts => fields.digest.not_infix starts.isInfix) _ _ enough)
    rw [trimmed]
    exact fields.same
  | @bare rest later =>
    have parts := @split_commas _ _ _ rest fields.blocknum.comma_absent fields.offset.comma_absent plain
    refine (parseTarfsOptions_of_split parts).mpr ⟨fields.blocknum, fields.offset, ?_⟩
    rw [hashOf, if_neg (by simp [split_eq_splitOn])]
    exact fields.same

/-- A digest is what `validate` asks of a SHA-256. -/
theorem digest_of_validate (valid : option.validate = .ok ()) (sha256 : option.hashtype = "sha256".toList) :
    Digest option.hash := by
  rcases (validate_iff.mp valid).1 with ⟨_, hash⟩ | ⟨kind, _⟩
  · exact isHash_iff.mp hash
  · rw [sha256] at kind
    exact absurd kind (by decide)

theorem three_parts (read : DmVerityOption.parseTarfsOptions value = .ok option) :
    ∃ blocks offset third others, split ',' value = blocks :: offset :: third :: others := by
  obtain ⟨blocknum, counted, read⟩ := bind_ok.mp read
  obtain ⟨start, placed, read⟩ := bind_ok.mp read
  obtain ⟨hash, last, _⟩ := bind_ok.mp read
  have long := (List.getElem?_eq_some_iff.mp (part_ok.mp last)).1
  cases parts : split ',' value with
  | nil => simp [parts] at long
  | cons blocks others =>
    cases others with
    | nil => simp [parts] at long
    | cons offset others =>
      cases others with
      | nil => simp [parts] at long
      | cons third others => exact ⟨blocks, offset, third, others, rfl⟩

/-- What is read and valid is spelled in one of these ways. -/
theorem spelled_of_read (tarfs : sha256Prefix <:+: value) (read : DmVerityOption.parseTarfsOptions value = .ok option)
    (valid : option.validate = .ok ()) :
    ∃ blocks offset hex, Fields true blocks offset hex option ∧ Spelled blocks offset hex value := by
  have whole : value = commas (split ',' value) := (intercalate_split ',' value).symm
  obtain ⟨part, listed, within⟩ := (@infix_split _ ',' _ (by decide)).mp tarfs
  obtain ⟨blocks, offset, third, others, parts⟩ : ∃ blocks offset third others,
    split ',' value = blocks :: offset :: third :: others :=
    three_parts read
  obtain ⟨counted, placed, same⟩ := (parseTarfsOptions_of_split parts).mp read
  have hash : option.hash = hashOf third others := by rw [same]
  have digest : Digest (hashOf third others) := hash ▸ digest_of_validate valid (by rw [same])
  have fields : Fields true blocks offset (hashOf third others) option := ⟨counted, placed, digest, same⟩
  refine ⟨blocks, offset, hashOf third others, fields, ?_⟩
  rw [parts] at listed whole
  have later : part ∈ third :: others := by
    rcases List.mem_cons.mp listed with rfl | listed
    · exact absurd within counted.not_infix
    rcases List.mem_cons.mp listed with rfl | listed
    · exact absurd within placed.not_infix
    exact listed
  cases others with
  | nil =>
    obtain rfl := List.mem_singleton.mp later
    obtain ⟨count, taken, _⟩ := @trimStartMatches_spec sha256Prefix (by decide) part.length part (Nat.le_refl _)
    have trimmed : hashOf part [] = trimStartMatches sha256Prefix part.length part := if_pos rfl
    rw [trimmed] at digest ⊢
    cases count with
    | zero =>
      rw [List.replicate_zero, List.flatten_nil, List.nil_append] at taken
      rw [← taken] at digest
      exact absurd within digest.not_infix
    | succ count =>
      rw [whole]
      conv_rhs => rw [taken]
      exact .prefixed count
  | cons next others =>
    have bare : hashOf third (next :: others) = third := if_neg (List.cons_ne_nil _ _)
    rw [bare] at digest ⊢
    have behind : part ∈ next :: others := by
      rcases List.mem_cons.mp later with rfl | later
      · exact absurd within digest.not_infix
      exact later
    have joined : value = commas [blocks, offset, third, commas (next :: others)] := by
      rw [whole]
      simp [commas]
    rw [joined]
    refine .bare ((@infix_split _ ',' _ (by decide)).mpr ⟨part, ?_, within⟩)
    rw [commas, split_intercalate _ (List.cons_ne_nil _ _)]
    · exact behind
    · intro field among
      have own : field ∈ split ',' value := by
        rw [parts]
        exact List.mem_cons_of_mem _ (List.mem_cons_of_mem _ (List.mem_cons_of_mem _ among))
      exact absent_of_mem_split own

theorem panicFree_tryFrom (serdeJson : Text → Except String Json) (value : Text) :
    PanicFree (DmVerityOption.tryFrom serdeJson value) := by
  rw [DmVerityOption.tryFrom, panicFree_bind]
  constructor
  · rw [DmVerityOption.read]
    split
    · rename_i tarfs
      exact panicFree_parseTarfsOptions (containsStr_iff.mp tarfs)
    · split
      · exact panicFree_ok _
      · exact panicFree_ofResult _
  · intro option read
    rw [panicFree_bind]
    exact ⟨panicFree_ofResult _, fun _ _ => panicFree_ok _⟩

theorem tryFrom_ok {serdeJson : Text → Except String Json} : DmVerityOption.tryFrom serdeJson value = .ok option ↔
    DmVerityOption.read serdeJson value = .ok option ∧ option.validate = .ok () := by
  rw [DmVerityOption.tryFrom, bind_ok]
  constructor
  · rintro ⟨found, read, checked⟩
    obtain ⟨_, valid, same⟩ := bind_ok.mp checked
    cases same
    exact ⟨read, ofResult_ok.mp valid⟩
  · rintro ⟨read, valid⟩
    exact ⟨option, read, bind_ok.mpr ⟨(), ofResult_ok.mpr valid, rfl⟩⟩

theorem read_of_tarfs (serdeJson : Text → Except String Json) (tarfs : sha256Prefix <:+: value) :
    DmVerityOption.read serdeJson value = DmVerityOption.parseTarfsOptions value := by
  rw [DmVerityOption.read]
  exact if_pos (containsStr_iff.mpr tarfs)

/-- Without the prefix in it, a string is read as JSON. -/
theorem denotes_of_plain {serdeJson : Text → Except String Json} (plain : ¬ sha256Prefix <:+: value)
    (read : DmVerityOption.read serdeJson value = .ok option) : Denotes signed serdeJson value option := by
  have absent : ¬ containsStr "sha256:".toList value = true := mt containsStr_iff.mp plain
  rw [DmVerityOption.read, if_neg absent] at read
  split at read
  · rename_i parsed
    cases read
    exact .json plain parsed
  · exact .encoded plain (ofResult_ok.mp read)

theorem Lax.spelled (lax : Lax signed blocks offset hex value) : Spelled blocks offset hex value := by
  cases lax with
  | extraField later => exact .bare later
  | @repeatedPrefix count again =>
    obtain ⟨more, rfl⟩ := Nat.exists_eq_add_of_le' again
    exact .prefixed (more + 1)
  | plusSign _ _ =>
    have one : prefixes 1 = sha256Prefix := by simp [prefixes]
    rw [← one]
    exact .prefixed 0

theorem denotes_inv {serdeJson : Text → Except String Json} (tarfs : sha256Prefix <:+: value)
    (denotes : Denotes signed serdeJson value option) :
    ∃ blocks offset hex,
      value = commas [blocks, offset, sha256Prefix ++ hex] ∧ Fields signed blocks offset hex option := by
  cases denotes with
  | tarfs fields => exact ⟨_, _, _, rfl, fields⟩
  | json plain _ => exact absurd tarfs plain
  | encoded plain _ => exact absurd tarfs plain

/-- Beyond the grammar, what is read is not what the string denotes. -/
theorem Lax.not_denotes {serdeJson : Text → Except String Json} (lax : Lax signed blocks offset hex value)
    (fields : Fields true blocks offset hex option) : ¬ Denotes signed serdeJson value option := by
  intro denotes
  obtain ⟨blocks', offset', hex', whole, fields'⟩ := denotes_inv lax.spelled.tarfs denotes
  have plain := comma_absent_hex fields.digest
  have pure' : ',' ∉ sha256Prefix ++ hex' :=
    List.mem_append.not.mpr (not_or.mpr ⟨by decide, comma_absent_hex fields'.digest⟩)
  have parts' := split_three fields'.blocknum.comma_absent fields'.offset.comma_absent pure'
  rw [← whole] at parts'
  cases lax with
  | @extraField rest later =>
    rw [@split_commas _ _ _ rest fields.blocknum.comma_absent fields.offset.comma_absent plain] at parts'
    have none : split ',' rest = [] := (List.cons.inj (List.cons.inj (List.cons.inj parts').2).2).2
    simp [split_eq_splitOn] at none
  | @repeatedPrefix count again =>
    obtain ⟨more, rfl⟩ := Nat.exists_eq_add_of_le' again
    have commaless : ',' ∉ prefixes (more + 2) ++ hex :=
      List.mem_append.not.mpr (not_or.mpr ⟨comma_absent_prefixes (more + 2), plain⟩)
    have parts := split_three fields.blocknum.comma_absent fields.offset.comma_absent commaless
    have third : prefixes (more + 2) ++ hex = sha256Prefix ++ hex' :=
      (List.cons.inj (List.cons.inj (List.cons.inj (parts.symm.trans parts')).2).2).1
    rw [prefixes_succ, prefixes_succ, List.append_assoc, List.append_assoc] at third
    have again' : sha256Prefix ++ (prefixes more ++ hex) = hex' := List.append_cancel_left third
    exact fields'.digest.not_infix (again' ▸ (List.prefix_append _ _).isInfix)
  | plusSign unsigned sign =>
    have commaless : ',' ∉ sha256Prefix ++ hex := List.mem_append.not.mpr (not_or.mpr ⟨by decide, plain⟩)
    have parts := split_three fields.blocknum.comma_absent fields.offset.comma_absent commaless
    obtain ⟨first, others⟩ := List.cons.inj (parts.symm.trans parts')
    rw [unsigned] at fields'
    rcases sign with sign | sign
    · exact fields'.blocknum.head (first ▸ sign)
    · exact fields'.offset.head ((List.cons.inj others).1 ▸ sign)

/-- What is spelled within the grammar denotes what is read. -/
theorem Spelled.denotes {serdeJson : Text → Except String Json} (spelled : Spelled blocks offset hex value)
    (fields : Fields true blocks offset hex option) (strict : ¬ Lax signed blocks offset hex value) :
    Denotes signed serdeJson value option := by
  cases spelled with
  | bare later => exact absurd (.extraField later) strict
  | prefixed count =>
    cases count with
    | succ more => exact absurd (.repeatedPrefix (Nat.le_add_left 2 more)) strict
    | zero =>
      have one : prefixes (0 + 1) = sha256Prefix := by simp [prefixes]
      rw [one] at strict ⊢
      refine .tarfs ?_
      cases signed with
      | true => exact fields
      | false =>
        have unsigned : blocks.head? ≠ some '+' ∧ offset.head? ≠ some '+' := by
          rw [ne_eq, ne_eq, ← not_or]
          exact fun sign => strict (.plusSign rfl sign)
        exact ⟨fields.blocknum.unsigned unsigned.1, fields.offset.unsigned unsigned.2, fields.digest, fields.same⟩

/-- Reading options panics nowhere, and what it accepts denotes the option, but for the strings
beyond the grammar. -/
theorem verity_options_denote_iff (serdeJson : Text → Except String Json) (signed : Bool) (value : Text) :
    PanicFree (DmVerityOption.tryFrom serdeJson value) ∧
      ((∀ option, DmVerityOption.tryFrom serdeJson value = .ok option → Denotes signed serdeJson value option) ↔
        ¬ Slipped signed value) := by
  refine ⟨panicFree_tryFrom serdeJson value, ?_, ?_⟩
  · rintro denotes ⟨blocks, offset, hex, option, fields, valid, lax⟩
    have read := (read_of_tarfs serdeJson lax.spelled.tarfs).trans (lax.spelled.read fields)
    exact lax.not_denotes fields (denotes option (tryFrom_ok.mpr ⟨read, valid⟩))
  · intro strict option accepted
    obtain ⟨read, valid⟩ := tryFrom_ok.mp accepted
    by_cases tarfs : sha256Prefix <:+: value
    · rw [read_of_tarfs serdeJson tarfs] at read
      obtain ⟨blocks, offset, hex, fields, spelled⟩ := spelled_of_read tarfs read valid
      exact spelled.denotes fields fun lax => strict ⟨blocks, offset, hex, option, fields, valid, lax⟩
    · exact denotes_of_plain tarfs read

def extraField : Text := commas ["8".toList, "4096".toList, List.replicate 64 '0', "sha256:".toList]

def repeatedPrefix : Text := commas ["8".toList, "4096".toList, "sha256:sha256:".toList ++ List.replicate 64 '0']

def noJson (_ : Text) : Except String Json := .error "expected value"

/-- A field too many, and a prefix too many, are options. -/
theorem extra_field_accepted :
    (DmVerityOption.tryFrom noJson extraField = .ok eightBlocks ∧
      ∀ signed, ¬ Denotes signed noJson extraField eightBlocks) ∧
    (DmVerityOption.tryFrom noJson repeatedPrefix = .ok eightBlocks ∧
      ∀ signed, ¬ Denotes signed noJson repeatedPrefix eightBlocks) := by
  have digits : ∀ c ∈ List.replicate 64 '0', (hexValue c).isSome = true := by
    intro c listed
    rw [List.eq_of_mem_replicate listed]
    rfl
  have fields : Fields true "8".toList "4096".toList (List.replicate 64 '0') eightBlocks :=
    ⟨⟨_, .inl rfl, by decide, by decide, by decide⟩, ⟨_, .inl rfl, by decide, by decide, by decide⟩,
      ⟨rfl, digits⟩, rfl⟩
  have extra : ∀ signed, Lax signed "8".toList "4096".toList (List.replicate 64 '0') extraField :=
    fun _ => .extraField ⟨[], [], rfl⟩
  have again : ∀ signed, Lax signed "8".toList "4096".toList (List.replicate 64 '0') repeatedPrefix :=
    fun _ => .repeatedPrefix (Nat.le_refl 2)
  exact ⟨⟨by decide +kernel, fun signed => (extra signed).not_denotes fields⟩,
    ⟨by decide +kernel, fun signed => (again signed).not_denotes fields⟩⟩

end Grammar

end GuestComponents.Image.VerityOption
