import GuestComponents.Lib.JsonText

/-! What is written of a JSON value is read as that value (`read_write`), and a value that was
read nests no deeper than the limit (`nesting_of_read`). -/
namespace GuestComponents.Lib.JsonText
open Lib.Text

section StringLaws

variable {text rest : Text} {c : Char} {most : Nat}

theorem readHex_control {n : Nat} (small : n < 0x20) :
    readHex ('0' :: '0' :: hexDigit (n / 16) :: hexDigit (n % 16) :: rest) = some (n, rest) := by
  have high : hexValue (hexDigit (n / 16)) = some (n / 16) := hexValue_hexDigit (by omega)
  have low : hexValue (hexDigit (n % 16)) = some (n % 16) := hexValue_hexDigit (by omega)
  have zero : hexValue '0' = some 0 := by decide
  simp only [readHex, zero, high, low, Option.bind_eq_bind, Option.bind_some]
  congr 2
  omega

theorem readUnicode_control {n : Nat} (small : n < 0x20) :
    readUnicode ('0' :: '0' :: hexDigit (n / 16) :: hexDigit (n % 16) :: rest) = some (Char.ofNat n, rest) := by
  rw [readUnicode, readHex_control small]
  simp only [Option.bind_eq_bind, Option.bind_some]
  rw [if_neg (by omega), if_neg (by omega)]

/-- A character is read as it was written. -/
theorem readChars_escapeChar {after : Text} (more : readChars most rest = some (text, after)) :
    readChars (most + 1) (escapeChar c ++ rest) = some (c :: text, after) := by
  have escaped {e : Char} {tail : Text} (read : readEscape (e :: tail) = some (c, rest)) :
      readChars (most + 1) ('\\' :: e :: tail) = some (c :: text, after) := by
    rw [readChars, if_neg (by decide), if_pos rfl, read]
    simp [more]
  rw [escapeChar]
  split
  · rename_i same
    exact escaped (by rw [same]; rfl)
  · rename_i quote
    split
    · rename_i same
      exact escaped (by rw [same]; rfl)
    · rename_i backslash
      split
      · rename_i same
        exact escaped (by rw [same]; rfl)
      · split
        · rename_i same
          exact escaped (by rw [same]; rfl)
        · split
          · rename_i same
            exact escaped (by rw [same]; rfl)
          · split
            · rename_i same
              exact escaped (by rw [same]; rfl)
            · split
              · rename_i same
                exact escaped (by rw [same]; rfl)
              · split
                · rename_i control
                  refine escaped ?_
                  have whole := @readUnicode_control rest c.toNat control
                  rw [Char.ofNat_toNat] at whole
                  exact whole
                · rename_i visible
                  rw [List.singleton_append, readChars, if_neg quote, if_neg backslash, if_neg visible]
                  simp [more]

theorem readChars_escaped (enough : text.length < most) :
    readChars most (text.flatMap escapeChar ++ '"' :: rest) = some (text, rest) := by
  induction text generalizing most with
  | nil =>
    cases most with
    | zero => cases enough
    | succ most => rfl
  | cons c text ih =>
    cases most with
    | zero => cases enough
    | succ most =>
      rw [List.flatMap_cons, List.append_assoc]
      exact readChars_escapeChar (ih (Nat.lt_of_succ_lt_succ enough))

theorem length_escaped (text : Text) : text.length ≤ (text.flatMap escapeChar).length := by
  have one (c : Char) : 1 ≤ (escapeChar c).length := by
    unfold escapeChar
    repeat' split
    all_goals simp
  induction text with
  | nil => exact Nat.zero_le _
  | cons c text ih =>
    rw [List.flatMap_cons, List.length_append, List.length_cons]
    have first := one c
    omega

/-- A string is read as it was written. -/
theorem readString_escaped : readString (text.flatMap escapeChar ++ '"' :: rest) = some (text, rest) := by
  refine readChars_escaped ?_
  have longer := length_escaped text
  rw [List.length_append, List.length_cons]
  omega

end StringLaws

section NumberLaws

variable {rest : Text}

/-- What is behind a value in a text: its end, a comma or a closing bracket. -/
def Stops (rest : Text) : Prop := ∀ c ∈ rest.head?, c = ',' ∨ c = ']' ∨ c = '}'

def NoDigit (rest : Text) : Prop := ∀ c ∈ rest.head?, c.isDigit = false

theorem Stops.noDigit (stops : Stops rest) : NoDigit rest := by
  intro c first
  rcases stops c first with rfl | rfl | rfl <;> decide

theorem readDigits_append {digits : Text} (valid : Token.Digits digits) (stops : NoDigit rest) :
    readDigits (digits ++ rest) = some (digits, rest) := by
  have taken : (digits ++ rest).takeWhile Char.isDigit = digits := by
    rw [List.takeWhile_append_of_pos valid.2]
    cases rest with
    | nil => rw [List.takeWhile_nil, List.append_nil]
    | cons c rest => rw [List.takeWhile_cons, stops c rfl, if_neg Bool.false_ne_true, List.append_nil]
  have dropped : (digits ++ rest).dropWhile Char.isDigit = rest := by
    rw [List.dropWhile_append_of_pos valid.2]
    cases rest with
    | nil => rfl
    | cons c rest => rw [List.dropWhile_cons, stops c rfl, if_neg Bool.false_ne_true]
  rw [readDigits, taken, dropped]
  exact if_neg valid.1

theorem readWhole_append {digits : Text} (valid : Token.Digits digits)
    (leading : digits.head? = some '0' → digits = ['0']) (stops : NoDigit rest) :
    readWhole (digits ++ rest) = some (digits, rest) := by
  rw [readWhole, readDigits_append valid stops]
  exact if_neg fun both => both.2 (leading both.1)

theorem readFraction_append {fraction : Option Text} (valid : ∀ digits, fraction = some digits → Token.Digits digits)
    (stops : NoDigit rest) (point : ∀ c ∈ rest.head?, c ≠ '.') :
    readFraction (Token.fractionText fraction ++ rest) = some (fraction, rest) := by
  cases fraction with
  | none =>
    cases rest with
    | nil => rfl
    | cons c rest => exact if_neg (point c rfl)
  | some digits =>
    rw [Token.fractionText, List.cons_append, readFraction, if_pos rfl, readDigits_append (valid digits rfl) stops]
    rfl

theorem readExponent_append {exponent : Option (Char × Text × Text)}
    (valid : ∀ letter sign digits, exponent = some (letter, sign, digits) →
      (letter = 'e' ∨ letter = 'E') ∧ (sign = [] ∨ sign = ['+'] ∨ sign = ['-']) ∧ Token.Digits digits)
    (stops : Stops rest) : readExponent (Token.exponentText exponent ++ rest) = some (exponent, rest) := by
  cases exponent with
  | none =>
    cases rest with
    | nil => rfl
    | cons c rest =>
      refine if_neg ?_
      rcases stops c rfl with rfl | rfl | rfl <;> decide
  | some parts =>
    obtain ⟨letter, sign, digits⟩ := parts
    obtain ⟨letter_, sign_, digits_⟩ := valid letter sign digits rfl
    have signed : readSign (sign ++ (digits ++ rest)) = (sign, digits ++ rest) := by
      rcases sign_ with rfl | rfl | rfl
      · cases digits with
        | nil => exact absurd rfl digits_.1
        | cons d digits =>
          refine if_neg ?_
          have digit := digits_.2 d List.mem_cons_self
          rintro (rfl | rfl) <;> exact absurd digit (by decide)
      · rfl
      · rfl
    rw [Token.exponentText, List.cons_append, readExponent, if_pos letter_, List.append_assoc, signed,
      readDigits_append digits_ stops.noDigit]
    rfl

theorem digits_head {digits : Text} (valid : Token.Digits digits) :
    ∃ d more, digits = d :: more ∧ d.isDigit = true := by
  cases digits with
  | nil => exact absurd rfl valid.1
  | cons d more => exact ⟨d, more, rfl, valid.2 d List.mem_cons_self⟩

theorem readMinus_append {minus : Bool} (first : ∀ c ∈ rest.head?, c ≠ '-') :
    readMinus ((if minus then ['-'] else []) ++ rest) = (minus, rest) := by
  cases minus with
  | true => rfl
  | false =>
    cases rest with
    | nil => rfl
    | cons c rest => exact if_neg (first c rfl)

/-- A number is read as it is written. -/
theorem readToken_text {token : Token} (valid : token.Valid) (stops : Stops rest) :
    readToken (token.text ++ rest) = some (token, rest) := by
  have exponentHead : ∀ c ∈ (Token.exponentText token.exponent ++ rest).head?, c.isDigit = false ∧ c ≠ '.' := by
    intro c first
    cases shape : token.exponent with
    | none =>
      rw [shape] at first
      rcases stops c first with rfl | rfl | rfl <;> decide
    | some parts =>
      obtain ⟨letter, sign, digits⟩ := parts
      rw [shape] at first
      cases first
      rcases (valid.exponent _ _ _ shape).1 with rfl | rfl <;> decide
  have fractionHead : NoDigit (Token.fractionText token.fraction ++ (Token.exponentText token.exponent ++ rest)) := by
    intro c first
    cases shape : token.fraction with
    | none =>
      rw [shape] at first
      exact (exponentHead c first).1
    | some digits =>
      rw [shape] at first
      cases first
      rfl
  obtain ⟨d, more, whole, digit⟩ := digits_head valid.whole
  have shape : token.text ++ rest = (if token.minus then ['-'] else []) ++
      (token.whole ++ (Token.fractionText token.fraction ++ (Token.exponentText token.exponent ++ rest))) := by
    simp [Token.text]
  have minus : readMinus (token.text ++ rest) = (token.minus,
      token.whole ++ (Token.fractionText token.fraction ++ (Token.exponentText token.exponent ++ rest))) := by
    rw [shape]
    refine readMinus_append fun c first => ?_
    rw [whole] at first
    cases first
    rintro rfl
    exact absurd digit (by decide)
  rw [readToken, minus]
  simp only [readWhole_append valid.whole valid.leading fractionHead,
    readFraction_append valid.fraction (fun c first => (exponentHead c first).1) fun c first => (exponentHead c first).2,
    readExponent_append valid.exponent stops, Option.bind_eq_bind, Option.bind_some]

end NumberLaws

section IntegerLaws

variable {F : Type} {floats : Floats F}

theorem toDigits_digits (n : Nat) : Token.Digits (Nat.toDigits 10 n) :=
  ⟨Nat.toDigits_ne_nil, fun _ listed => Nat.isDigit_of_mem_toDigits (by decide) (by decide) listed⟩

/-- A number begins with a zero only if it is zero. -/
theorem toDigits_leading (n : Nat) (zero : (Nat.toDigits 10 n).head? = some '0') : Nat.toDigits 10 n = ['0'] := by
  induction n using Nat.strongRecOn with
  | ind n ih =>
    rw [Nat.toDigits_eq_if (by decide)] at zero ⊢
    split
    · rename_i small
      rw [if_pos small] at zero
      rw [Option.some.inj zero]
    · rename_i large
      rw [if_neg large, List.head?_append, List.head?_eq_some_head Nat.toDigits_ne_nil, Option.some_or] at zero
      have front := ih (n / 10) (by omega) (by rw [List.head?_eq_some_head Nat.toDigits_ne_nil]; exact zero)
      have value : n / 10 = 0 := by
        rw [← @Nat.ofDigitChars_ten_toDigits (n / 10), front]
        rfl
      omega

theorem Integer.token_valid (number : Integer) : number.token.Valid where
  whole := toDigits_digits _
  leading := toDigits_leading _
  fraction := nofun
  exponent := nofun

theorem Integer.of_val (number : Integer) : Integer.of number.val = some number := dif_pos number.property

theorem Integer.token_integer (number : Integer) : number.token.integer = some number := by
  have magnitude : Nat.ofDigitChars 10 number.token.whole 0 = number.val.natAbs := Nat.ofDigitChars_ten_toDigits
  have minus : (number.token.minus = true) = (number.val < 0) := decide_eq_true_eq
  have signed : (if number.val < 0 then -(number.val.natAbs : Int) else number.val.natAbs) = number.val := by
    split <;> omega
  have integral : number.token.integral = true ∧ ¬ (number.val < 0 ∧ number.val.natAbs = 0) := ⟨rfl, by omega⟩
  rw [Token.integer]
  simp only [magnitude, minus]
  rw [if_pos integral, signed, number.of_val]

theorem numberOf_token (number : Integer) : numberOf floats number.token = some (.integer number) := by
  rw [numberOf, number.token_integer]

theorem numberOf_float (number : F) :
    numberOf floats (floats.write number) = (floats.read (floats.write number)).map .float := by
  have float : (floats.write number).integer = none := by
    rw [Token.integer, floats.marked number]
    exact if_neg fun both => Bool.false_ne_true both.1
  rw [numberOf, float]

end IntegerLaws

section NestingLaws

variable {F : Type}

mutual
/-- How deep arrays and objects are within one another. -/
def Value.nesting : Value F → Nat
  | .array items => nestingItems items + 1
  | .object fields => nestingFields fields + 1
  | _ => 0
def nestingItems : List (Value F) → Nat
  | [] => 0
  | item :: items => max item.nesting (nestingItems items)
def nestingFields : List (Text × Value F) → Nat
  | [] => 0
  | (_, value) :: fields => max value.nesting (nestingFields fields)
end

mutual
/-- The floating-point numbers in a value. -/
def Value.floats : Value F → List F
  | .float value => [value]
  | .array items => floatsItems items
  | .object fields => floatsFields fields
  | _ => []
def floatsItems : List (Value F) → List F
  | [] => []
  | item :: items => item.floats ++ floatsItems items
def floatsFields : List (Text × Value F) → List F
  | [] => []
  | (_, value) :: fields => value.floats ++ floatsFields fields
end

variable {items : List (Value F)} {fields : List (Text × Value F)} {n : Nat}

theorem nestingItems_le : nestingItems items ≤ n ↔ ∀ item ∈ items, item.nesting ≤ n := by
  induction items with
  | nil => simp [nestingItems]
  | cons item items ih => rw [nestingItems, Nat.max_le, ih, List.forall_mem_cons]

theorem nestingFields_le : nestingFields fields ≤ n ↔ ∀ entry ∈ fields, entry.2.nesting ≤ n := by
  induction fields with
  | nil => simp [nestingFields]
  | cons entry fields ih => rw [nestingFields, Nat.max_le, ih, List.forall_mem_cons]

theorem mem_floatsItems {number : F} : number ∈ floatsItems items ↔ ∃ item ∈ items, number ∈ item.floats := by
  induction items with
  | nil => simp [floatsItems]
  | cons item items ih => simp [floatsItems, ih]

theorem mem_floatsFields {number : F} :
    number ∈ floatsFields fields ↔ ∃ entry ∈ fields, number ∈ entry.2.floats := by
  induction fields with
  | nil => simp [floatsFields]
  | cons entry fields ih => simp [floatsFields, ih]

/-- The floating-point numbers of a value are read as they are written. -/
def Value.Readable (floats : Floats F) (value : Value F) : Prop :=
  ∀ number ∈ value.floats, floats.read (floats.write number) = some number

end NestingLaws

section PartLaws

variable {α β : Type} {part : Text → Option (α × Text)} {close : Char} {text rest : Text} {xs : List α}
    {texts : List Text}

/-- A text that begins with neither a blank nor a closing bracket. -/
def Opens (text : Text) : Prop := ∃ c more, text = c :: more ∧ isBlank c = false ∧ c ≠ ']' ∧ c ≠ '}'

/-- The text is read as this, whatever may be behind a value. -/
def Writes (part : Text → Option (α × Text)) (x : α) (text : Text) : Prop :=
  Opens text ∧ ∀ rest, Stops rest → part (text ++ rest) = some (x, rest)

/-- A closing bracket. -/
def Closes (c : Char) : Prop := c = ']' ∨ c = '}'

theorem skip_cons {c : Char} (visible : isBlank c = false) : skip (c :: rest) = c :: rest := by
  rw [skip, List.dropWhile_cons, visible, if_neg Bool.false_ne_true]

theorem Closes.visible {c : Char} (closes : Closes c) : isBlank c = false := by
  rcases closes with rfl | rfl <;> decide

theorem Closes.stops {c : Char} (closes : Closes c) : Stops (c :: rest) := by
  intro d first
  cases first
  exact .inr closes

theorem stops_comma : Stops (',' :: rest) := by
  intro d first
  cases first
  exact .inl rfl

theorem readParts_intercalate (closes : Closes close) {x : α} {first : Text} (starts : Writes part x first)
    (written : List.Forall₂ (Writes part) xs texts) {most : Nat} (enough : xs.length < most) :
    readParts close part most ([','].intercalate (first :: texts) ++ close :: rest) = some (x :: xs, rest) := by
  induction written generalizing x first most with
  | nil =>
    cases most with
    | zero => cases enough
    | succ most =>
      rw [List.intercalate_singleton, readParts, starts.2 _ closes.stops]
      simp only [Option.bind_eq_bind, Option.bind_some, skip_cons closes.visible]
      exact if_pos trivial
  | @cons next text xs texts next_ _ ih =>
    cases most with
    | zero => cases enough
    | succ most =>
      have shape : [','].intercalate (first :: text :: texts) ++ close :: rest =
          first ++ ',' :: ([','].intercalate (text :: texts) ++ close :: rest) := by simp
      have comma : ',' ≠ close := by rcases closes with rfl | rfl <;> decide
      have visible : isBlank ',' = false := by decide
      rw [shape, readParts, starts.2 _ stops_comma]
      simp only [Option.bind_eq_bind, Option.bind_some, skip_cons visible]
      rw [if_neg comma, if_pos trivial, ih next_ (Nat.lt_of_succ_lt_succ enough)]
      rfl

/-- There are no more parts than characters. -/
theorem length_intercalate (written : List.Forall₂ (Writes part) xs texts) :
    xs.length ≤ ([','].intercalate texts).length := by
  induction written with
  | nil => exact Nat.zero_le _
  | @cons x text xs texts starts _ ih =>
    obtain ⟨c, more, shape, _⟩ := starts.1
    have first : 1 ≤ text.length := by simp [shape]
    cases texts with
    | nil =>
      rw [List.intercalate_nil, List.length_nil] at ih
      rw [List.intercalate_singleton, List.length_cons]
      omega
    | cons next texts =>
      rw [List.intercalate_cons_of_ne_nil (List.cons_ne_nil _ _), List.length_append, List.length_append,
        List.length_cons]
      omega

/-- What is between brackets is read part by part. -/
theorem readBody_intercalate (closes : Closes close) (written : List.Forall₂ (Writes part) xs texts) :
    readBody close part ([','].intercalate texts ++ close :: rest) = some (xs, rest) := by
  have bound := length_intercalate written
  cases written with
  | nil =>
    rw [List.intercalate_nil, List.nil_append, readBody, skip_cons closes.visible]
    exact if_pos rfl
  | @cons x text xs texts starts written =>
    obtain ⟨c, more, shape, visible, square, brace⟩ := starts.1
    have other : c ≠ close := by
      rintro rfl
      rcases closes with rfl | rfl
      · exact square rfl
      · exact brace rfl
    obtain ⟨tail, whole⟩ : ∃ tail, [','].intercalate (text :: texts) ++ close :: rest = c :: tail := by
      cases texts with
      | nil => exact ⟨more ++ close :: rest, by rw [List.intercalate_singleton, shape, List.cons_append]⟩
      | cons next texts => exact ⟨_, by
          rw [List.intercalate_cons_of_ne_nil (List.cons_ne_nil _ _), shape, List.cons_append, List.cons_append,
            List.cons_append]⟩
    rw [readBody, whole, skip_cons visible]
    dsimp only
    rw [if_neg other, ← whole]
    refine readParts_intercalate closes starts written ?_
    rw [List.length_append, List.length_cons]
    rw [List.length_cons] at bound
    omega

end PartLaws

section ValueLaws

variable {F : Type} {floats : Floats F} {depth : Nat} {rest : Text}

theorem writeString_append (text rest : Text) :
    writeString text ++ rest = '"' :: (text.flatMap escapeChar ++ '"' :: rest) := by
  simp [writeString]

/-- A key and its value are read as they are written. -/
theorem writes_field {value : Text → Option (Value F × Text)} {x : Value F} {text : Text}
    (written : Writes value x text)
    (key : Text) : Writes (readField value) (key, x) (writeString key ++ ':' :: text) := by
  constructor
  · exact ⟨'"', _, rfl, by decide, by decide, by decide⟩
  · intro rest stops
    have quote : isBlank '"' = false := by decide
    have colon : isBlank ':' = false := by decide
    rw [List.append_assoc, List.cons_append, writeString_append, readField, skip_cons quote]
    simp only [readString_escaped, Option.bind_eq_bind, Option.bind_some, skip_cons colon, written.2 rest stops, if_true]

theorem writes_items {value : Text → Option (Value F × Text)} {items : List (Value F)}
    (written : ∀ item ∈ items, Writes value item (item.write floats)) :
    List.Forall₂ (Writes value) items (writeItems floats items) := by
  induction items with
  | nil => exact .nil
  | cons item items ih =>
    obtain ⟨first, others⟩ := List.forall_mem_cons.mp written
    exact .cons first (ih others)

theorem writes_fields {value : Text → Option (Value F × Text)} {fields : List (Text × Value F)}
    (written : ∀ entry ∈ fields, Writes value entry.2 (entry.2.write floats)) :
    List.Forall₂ (Writes (readField value)) fields (writeFields floats fields) := by
  induction fields with
  | nil => exact .nil
  | cons entry fields ih =>
    obtain ⟨first, others⟩ := List.forall_mem_cons.mp written
    exact .cons (writes_field first entry.1) (ih others)

/-- A number begins with a digit or a sign. -/
theorem token_opens {token : Token} (valid : token.Valid) :
    ∃ c more, token.text = c :: more ∧ (c.isDigit = true ∨ c = '-') := by
  obtain ⟨d, more, whole, digit⟩ := digits_head valid.whole
  rw [Token.text, whole]
  cases token.minus with
  | true => exact ⟨'-', _, rfl, .inr rfl⟩
  | false => exact ⟨d, _, rfl, .inl digit⟩

/-- No other value begins as a number. -/
theorem number_first {c : Char} (first : c.isDigit = true ∨ c = '-') : isBlank c = false ∧
    c ≠ 'n' ∧ c ≠ 't' ∧ c ≠ 'f' ∧ c ≠ '"' ∧ c ≠ '[' ∧ c ≠ '{' ∧ c ≠ ']' ∧ c ≠ '}' := by
  have all : ∀ n < 128, ((Char.ofNat n).isDigit = true ∨ Char.ofNat n = '-') → isBlank (Char.ofNat n) = false ∧
      Char.ofNat n ≠ 'n' ∧ Char.ofNat n ≠ 't' ∧ Char.ofNat n ≠ 'f' ∧ Char.ofNat n ≠ '"' ∧
      Char.ofNat n ≠ '[' ∧
      Char.ofNat n ≠ '{' ∧ Char.ofNat n ≠ ']' ∧ Char.ofNat n ≠ '}' := by decide
  have small : c.toNat < 128 := by
    rcases first with digit | rfl
    · have range : 48 ≤ c.toNat ∧ c.toNat ≤ 57 := by
        simpa [Char.isDigit, UInt32.le_iff_toNat_le] using digit
      omega
    · decide
  have found := all c.toNat small
  rw [Char.ofNat_toNat] at found
  exact found first

theorem writes_number {token : Token} {value : Value F} (valid : token.Valid)
    (number : numberOf floats token = some value) :
    Writes (readValue floats (depth + 1)) value token.text := by
  obtain ⟨c, more, shape, first⟩ := token_opens valid
  obtain ⟨visible, n, t, f, quote, square, brace, square', brace'⟩ := number_first first
  constructor
  · exact ⟨c, more, shape, visible, square', brace'⟩
  · intro rest stops
    have read : readNumber floats (token.text ++ rest) = some (value, rest) := by
      rw [readNumber, readToken_text valid stops]
      simp only [Option.bind_eq_bind, Option.bind_some, number]
    rw [shape, List.cons_append] at read ⊢
    rw [readValue, skip_cons visible]
    dsimp only
    rw [if_neg n, if_neg t, if_neg f, if_neg quote, if_neg square, if_neg brace, read]

theorem writes_word {c : Char} {word : Text} {value : Value F} (opens : Opens (c :: word))
    (read : ∀ rest, readValue floats (depth + 1) (c :: rest) = readWord word value rest) :
    Writes (readValue floats (depth + 1)) value (c :: word) := by
  refine ⟨opens, fun rest _ => ?_⟩
  rw [List.cons_append, read, readWord, if_pos (List.prefix_append word rest), List.drop_left]

/-- A value with nothing in it is read as it is written. -/
theorem writes_scalar {value : Value F} (scalar : value.nesting = 0) (readable : value.Readable floats) :
    Writes (readValue floats (depth + 1)) value (value.write floats) := by
  cases value with
  | null => exact writes_word ⟨_, _, rfl, by decide⟩ fun rest => rfl
  | bool value =>
    cases value with
    | true => exact writes_word ⟨_, _, rfl, by decide⟩ fun rest => rfl
    | false => exact writes_word ⟨_, _, rfl, by decide⟩ fun rest => rfl
  | integer value => exact writes_number value.token_valid (numberOf_token value)
  | float value =>
    have found : floats.read (floats.write value) = some value := readable value (List.mem_singleton_self value)
    exact writes_number (floats.valid value) (by rw [numberOf_float, found, Option.map_some])
  | string value =>
    refine ⟨⟨_, _, rfl, by decide⟩, fun rest _ => ?_⟩
    have read (text : Text) : readValue floats (depth + 1) ('"' :: text) =
      (readString text).map fun found => (.string found.1, found.2) := rfl
    rw [Value.write, writeString_append, read, readString_escaped, Option.map_some]
  | array items => exact absurd scalar (Nat.succ_ne_zero _)
  | object fields => exact absurd scalar (Nat.succ_ne_zero _)

/-- A value that is not too deep is read as it is written. -/
theorem writes_value {value : Value F} (shallow : value.nesting ≤ depth) (readable : value.Readable floats) :
    Writes (readValue floats (depth + 1)) value (value.write floats) := by
  induction depth generalizing value with
  | zero => exact writes_scalar (Nat.le_zero.mp shallow) readable
  | succ depth ih =>
    cases value with
    | array items =>
      have written :=
        writes_items fun item listed => ih (nestingItems_le.mp (Nat.le_of_succ_le_succ shallow) item listed)
        fun number within => readable number (mem_floatsItems.mpr ⟨item, listed, within⟩)
      refine ⟨⟨_, _, rfl, by decide⟩, fun rest _ => ?_⟩
      have read (text : Text) : readValue floats (depth + 2) ('[' :: text) =
        (readBody ']' (readValue floats (depth + 1)) text).map fun found => (.array found.1, found.2) := rfl
      rw [Value.write, List.cons_append, List.append_assoc, List.singleton_append, read,
        readBody_intercalate (.inl rfl) written, Option.map_some]
    | object fields =>
      have written := writes_fields fun entry listed => ih
        (nestingFields_le.mp (Nat.le_of_succ_le_succ shallow) entry listed)
        fun number within => readable number (mem_floatsFields.mpr ⟨entry, listed, within⟩)
      refine ⟨⟨_, _, rfl, by decide⟩, fun rest _ => ?_⟩
      have read (text : Text) : readValue floats (depth + 2) ('\x7b' :: text) =
        (readBody '\x7d' (readField (readValue floats (depth + 1))) text).map fun found =>
          (.object found.1, found.2) := rfl
      rw [Value.write, List.cons_append, List.append_assoc, List.singleton_append, read,
        readBody_intercalate (.inr rfl) written, Option.map_some]
    | _ => exact writes_scalar rfl readable

/-- What is written is read, up to the limit. -/
theorem read_write {value : Value F} (shallow : value.nesting < depthLimit) (readable : value.Readable floats) :
    read floats (value.write floats) = some value := by
  have found := (writes_value (Nat.le_of_lt_succ shallow) readable).2 [] nofun
  rw [List.append_nil] at found
  rw [read, depthLimit, found]
  simp only [Option.bind_eq_bind, Option.bind_some]
  exact if_pos rfl

end ValueLaws

section DepthLaws

variable {F α : Type} {floats : Floats F} {depth : Nat} {text rest : Text} {part : Text → Option (α × Text)}
    {close : Char}
  {P : α → Prop}

theorem readParts_forall (parts : ∀ text x rest, part text = some (x, rest) → P x) {most : Nat} {xs : List α}
    (read : readParts close part most text = some (xs, rest)) : ∀ x ∈ xs, P x := by
  induction most generalizing text xs with
  | zero => cases read
  | succ most ih =>
    rw [readParts] at read
    obtain ⟨⟨first, left⟩, one, read⟩ := Option.bind_eq_some_iff.mp read
    dsimp only at read
    split at read
    · cases read
    · split at read
      · cases read
        exact List.forall_mem_singleton.mpr (parts _ _ _ one)
      · split at read
        · obtain ⟨⟨others, left⟩, more, read⟩ := Option.bind_eq_some_iff.mp read
          cases read
          exact List.forall_mem_cons.mpr ⟨parts _ _ _ one, ih more⟩
        · cases read

theorem readBody_forall (parts : ∀ text x rest, part text = some (x, rest) → P x) {xs : List α}
    (read : readBody close part text = some (xs, rest)) : ∀ x ∈ xs, P x := by
  rw [readBody] at read
  split at read
  · cases read
  · split at read
    · cases read
      exact nofun
    · exact readParts_forall parts read

theorem readField_value {value : Text → Option (α × Text)} {entry : Text × α}
    (read : readField value text = some (entry, rest)) : ∃ text rest, value text = some (entry.2, rest) := by
  rw [readField] at read
  split at read
  · cases read
  · split at read
    · obtain ⟨⟨key, left⟩, _, read⟩ := Option.bind_eq_some_iff.mp read
      dsimp only at read
      split at read
      · cases read
      · split at read
        · obtain ⟨⟨found, left⟩, parsed, read⟩ := Option.bind_eq_some_iff.mp read
          cases read
          exact ⟨_, _, parsed⟩
        · cases read
    · cases read

theorem readWord_nesting {word : Text} {value value' : Value F} (read : readWord word value text = some (value', rest)) :
    value' = value := by
  rw [readWord] at read
  split at read
  · cases read
    rfl
  · cases read

theorem readNumber_nesting {value : Value F} (read : readNumber floats text = some (value, rest)) :
    value.nesting = 0 := by
  rw [readNumber] at read
  obtain ⟨⟨token, left⟩, _, read⟩ := Option.bind_eq_some_iff.mp read
  obtain ⟨number, found, read⟩ := Option.bind_eq_some_iff.mp read
  cases read
  rw [numberOf] at found
  split at found
  · cases found
    rfl
  · obtain ⟨_, _, rfl⟩ := Option.map_eq_some_iff.mp found
    rfl

/-- A value that was read is no deeper than the depth that was left. -/
theorem readValue_nesting {value : Value F} (read : readValue floats depth text = some (value, rest)) :
    value.nesting < depth := by
  induction depth generalizing text value rest with
  | zero => cases read
  | succ depth ih =>
    rw [readValue] at read
    split at read
    · cases read
    · split at read
      · rw [readWord_nesting read]
        exact Nat.succ_pos _
      · split at read
        · rw [readWord_nesting read]
          exact Nat.succ_pos _
        · split at read
          · rw [readWord_nesting read]
            exact Nat.succ_pos _
          · split at read
            · obtain ⟨_, _, same⟩ := Option.map_eq_some_iff.mp read
              cases same
              exact Nat.succ_pos _
            · split at read
              · split at read
                · cases read
                · rename_i some_
                  obtain ⟨⟨items, left⟩, body, same⟩ := Option.map_eq_some_iff.mp read
                  cases same
                  have within := readBody_forall (fun _ _ _ part => Nat.le_sub_one_of_lt (ih part)) body
                  have bound := nestingItems_le.mpr within
                  rw [Value.nesting]
                  omega
              · split at read
                · split at read
                  · cases read
                  · rename_i some_
                    obtain ⟨⟨fields, left⟩, body, same⟩ := Option.map_eq_some_iff.mp read
                    cases same
                    have within :=
                      readBody_forall (P := fun entry => entry.2.nesting ≤ depth - 1) (fun _ _ _ part => by
                      obtain ⟨_, _, value⟩ := readField_value part
                      exact Nat.le_sub_one_of_lt (ih value)) body
                    have bound := nestingFields_le.mpr within
                    rw [Value.nesting]
                    omega
                · rw [readNumber_nesting read]
                  exact Nat.succ_pos _

/-- Nothing that nests deeper is read. -/
theorem nesting_of_read {value : Value F} (found : read floats text = some value) : value.nesting < depthLimit := by
  rw [read] at found
  obtain ⟨⟨result, left⟩, parsed, found⟩ := Option.bind_eq_some_iff.mp found
  dsimp only at found
  split at found
  · cases found
    exact readValue_nesting parsed
  · cases found

theorem readParts_mono {part' : Text → Option (α × Text)}
    (parts : ∀ text result, part text = some result → part' text = some result) {most : Nat}
    {result : List α × Text}
    (read : readParts close part most text = some result) : readParts close part' most text = some result := by
  induction most generalizing text result with
  | zero => cases read
  | succ most ih =>
    rw [readParts] at read ⊢
    obtain ⟨⟨first, left⟩, one, read⟩ := Option.bind_eq_some_iff.mp read
    rw [parts _ _ one]
    dsimp only [Option.bind_eq_bind, Option.bind_some] at read ⊢
    cases shape : skip left with
    | nil =>
      rw [shape] at read
      cases read
    | cons c after =>
      rw [shape] at read
      dsimp only at read ⊢
      by_cases closes : c = close
      · rwa [if_pos closes] at read ⊢
      · rw [if_neg closes] at read ⊢
        by_cases comma : c = ','
        · rw [if_pos comma] at read ⊢
          obtain ⟨⟨others, left⟩, more, read⟩ := Option.bind_eq_some_iff.mp read
          rw [ih more]
          exact read
        · rw [if_neg comma] at read
          cases read

theorem readBody_mono {part' : Text → Option (α × Text)}
    (parts : ∀ text result, part text = some result → part' text = some result) {result : List α × Text}
    (read : readBody close part text = some result) : readBody close part' text = some result := by
  rw [readBody] at read ⊢
  cases shape : skip text with
  | nil =>
    rw [shape] at read
    cases read
  | cons c after =>
    rw [shape] at read
    dsimp only at read ⊢
    by_cases closes : c = close
    · rwa [if_pos closes] at read ⊢
    · rw [if_neg closes] at read ⊢
      exact readParts_mono parts read

theorem readField_mono {value value' : Text → Option (α × Text)}
    (values : ∀ text result, value text = some result → value' text = some result) {result : (Text × α) × Text}
    (read : readField value text = some result) : readField value' text = some result := by
  rw [readField] at read ⊢
  cases shape : skip text with
  | nil =>
    rw [shape] at read
    cases read
  | cons c after =>
    rw [shape] at read
    dsimp only at read ⊢
    by_cases quote : c = '"'
    · rw [if_pos quote] at read ⊢
      obtain ⟨⟨key, left⟩, string, read⟩ := Option.bind_eq_some_iff.mp read
      rw [string]
      dsimp only [Option.bind_eq_bind, Option.bind_some] at read ⊢
      cases shape : skip left with
      | nil =>
        rw [shape] at read
        cases read
      | cons c after =>
        rw [shape] at read
        dsimp only at read ⊢
        by_cases colon : c = ':'
        · rw [if_pos colon] at read ⊢
          obtain ⟨⟨found, left⟩, parsed, read⟩ := Option.bind_eq_some_iff.mp read
          rw [values _ _ parsed]
          exact read
        · rw [if_neg colon] at read
          cases read
    · rw [if_neg quote] at read
      cases read

/-- More depth changes nothing in what is read. -/
theorem readValue_succ {result : Value F × Text} (read : readValue floats depth text = some result) :
    readValue floats (depth + 1) text = some result := by
  induction depth generalizing text result with
  | zero => cases read
  | succ depth ih =>
    rw [readValue] at read ⊢
    cases shape : skip text with
    | nil =>
      rw [shape] at read
      cases read
    | cons c after =>
      rw [shape] at read
      dsimp only at read ⊢
      by_cases null : c = 'n'
      · rwa [if_pos null] at read ⊢
      by_cases yes : c = 't'
      · rwa [if_neg null, if_pos yes] at read ⊢
      by_cases no : c = 'f'
      · rwa [if_neg null, if_neg yes, if_pos no] at read ⊢
      by_cases quote : c = '"'
      · rwa [if_neg null, if_neg yes, if_neg no, if_pos quote] at read ⊢
      rw [if_neg null, if_neg yes, if_neg no, if_neg quote] at read ⊢
      by_cases square : c = '['
      · rw [if_pos square] at read ⊢
        split at read
        · cases read
        · obtain ⟨result, body, same⟩ := Option.map_eq_some_iff.mp read
          rw [if_neg (Nat.succ_ne_zero depth), readBody_mono (fun _ _ => ih) body, ← same, Option.map_some]
      · rw [if_neg square] at read ⊢
        by_cases brace : c = '\x7b'
        · rw [if_pos brace] at read ⊢
          split at read
          · cases read
          · obtain ⟨result, body, same⟩ := Option.map_eq_some_iff.mp read
            rw [if_neg (Nat.succ_ne_zero depth), readBody_mono (fun _ _ => readField_mono fun _ _ => ih) body,
              ← same, Option.map_some]
        · rwa [if_neg brace] at read ⊢

theorem readValue_mono {result : Value F × Text} (read : readValue floats depth text = some result) (more : Nat) :
    readValue floats (depth + more) text = some result := by
  induction more with
  | zero => exact read
  | succ more ih => exact readValue_succ ih

/-- What is written is read exactly if it is not too deep. -/
theorem read_write_iff {value : Value F} (readable : value.Readable floats) :
    (read floats (value.write floats)).isSome ↔ value.nesting < depthLimit := by
  constructor
  · intro some_
    obtain ⟨other, found⟩ := Option.isSome_iff_exists.mp some_
    have shallow := nesting_of_read found
    rw [read] at found
    obtain ⟨⟨result, left⟩, parsed, found⟩ := Option.bind_eq_some_iff.mp found
    dsimp only at found
    split at found
    · cases found
      have whole :=
        (@writes_value F floats (value.nesting + depthLimit) value (Nat.le_add_right _ _) readable).2 [] nofun
      have more := readValue_mono parsed (value.nesting + 1)
      have depths : value.nesting + depthLimit + 1 = depthLimit + (value.nesting + 1) := by omega
      rw [List.append_nil, depths, more] at whole
      cases whole
      exact shallow
    · cases found
  · intro shallow
    rw [read_write shallow readable]
    rfl

end DepthLaws

end GuestComponents.Lib.JsonText
