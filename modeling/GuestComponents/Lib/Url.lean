import GuestComponents.Lib.Percent

/-! The parser of the URL standard for URLs of one scheme that is not special, and its path
setter for special ones. The states of the standard's machine are functions here, each of the text
that is left to it. The IPv6 parser, followed by the serializer, and the parser for other schemes are
parameters. The segments of a path that was parsed are canonical (`segments_canonical`), and
canonical segments are parsed as themselves. -/
namespace GuestComponents.Lib.Url
open Lib.Text Lib.Percent

/-- A URL record, as its getters show it. -/
structure Record where
  scheme : Text
  host : Option Text
  port : Option Nat
  path : Text
  query : Option Text
deriving DecidableEq

section Cleaning

def c0OrSpace (c : Char) : Bool := decide (c.toNat ≤ 0x20)

def tabOrNewline (c : Char) : Bool := c == '\t' || c == '\n' || c == '\r'

def dropEnd (text : Text) : Text := (text.reverse.dropWhile c0OrSpace).reverse

def withoutNewlines (text : Text) : Text := text.filter fun c => !tabOrNewline c

/-- The input, without what is taken off its ends and out of it. -/
def cleaned (text : Text) : Text := withoutNewlines (dropEnd (text.dropWhile c0OrSpace))

def schemeChar (c : Char) : Bool := c.isAlphanum || c == '+' || c == '-' || c == '.'

/-- The scheme, in small letters, and what is behind its colon. -/
def cutScheme (input : Text) : Option (Text × Text) :=
  match input with
  | [] => none
  | first :: _ =>
    if first.isAlpha then
      match input.dropWhile schemeChar with
      | ':' :: rest => some ((input.takeWhile schemeChar).map Char.toLower, rest)
      | _ => none
    else none

end Cleaning

section Paths

def singleDot (segment : Text) : Bool :=
  segment == ".".toList || segment.map Char.toLower == "%2e".toList

def doubleDot (segment : Text) : Bool :=
  ["..".toList, ".%2e".toList, "%2e.".toList, "%2e%2e".toList].contains (segment.map Char.toLower)

/-- What a segment that another one follows does to the path. -/
def enter (path : List Text) (segment : Text) : List Text :=
  if doubleDot segment then path.dropLast
  else if singleDot segment then path
  else path ++ [segment]

/-- What the last segment does to the path. -/
def enterLast (path : List Text) (segment : Text) : List Text :=
  if doubleDot segment then path.dropLast ++ [[]]
  else if singleDot segment then path ++ [[]]
  else path ++ [segment]

/-- The path state, segment by segment. -/
def resolve (path : List Text) : List Text → List Text
  | [] => path
  | [segment] => enterLast path segment
  | segment :: rest => resolve (enter path segment) rest

/-- The ends of segments: a backslash is one in special URLs. -/
def isSeparator (special : Bool) (c : Char) : Bool := c == '/' || special && c == '\\'

/-- The segments of a path, behind its first slash. -/
def segments (special : Bool) (text : Text) : List Text :=
  resolve [] ((text.splitOnP (isSeparator special)).map (encode pathSet))

/-- The path serializer. -/
def pathText (segments : List Text) : Text := segments.flatMap fun segment => '/' :: segment

/-- The pathname setter of a special URL. -/
def setPath (text : Text) : Text :=
  match withoutNewlines text with
  | '/' :: rest => pathText (segments true rest)
  | '\\' :: rest => pathText (segments true rest)
  | rest => pathText (segments true rest)

end Paths

section Authorities

/-- Parsing an IPv6 address and serializing it. The result is an address in its compressed form. -/
structure Ipv6 where
  normal : Text → Option Text
  normal_idem : ∀ {text address}, normal text = some address → normal address = some address
  normal_digits : ∀ {text address}, normal text = some address →
    ∀ c ∈ address, c = ':' ∨ (hexValue c).isSome = true

/-- The forbidden host code points. -/
def forbiddenHost (c : Char) : Bool :=
  ['\x00', '\t', '\n', '\r', ' ', '#', '/', ':', '<', '>', '?', '@', '[', '\\', ']', '^', '|'].contains c

variable (ipv6 : Ipv6)

/-- The host parser, for a host that is opaque. -/
def parseHost (text : Text) : Option Text :=
  match text with
  | '[' :: rest =>
    if rest.getLast? = some ']' then (ipv6.normal rest.dropLast).map fun address => '[' :: address ++ [']']
    else none
  | _ => if text.any forbiddenHost then none else some (encode c0Control text)

/-- The host state: a colon ends the host outside of brackets. -/
def cutHost (inside : Bool) : Text → Text × Option Text
  | [] => ([], none)
  | c :: rest =>
    if c = ':' ∧ inside = false then ([], some rest)
    else
      let cut := cutHost (if c = '[' then true else if c = ']' then false else inside) rest
      (c :: cut.1, cut.2)

/-- The number that digits stand for. -/
def digitsValue (digits : Text) : Nat := Nat.ofDigitChars 10 digits 0

/-- The port state. -/
def parsePort (text : Text) : Option (Option Nat) :=
  if text = [] then some none
  else if text.all Char.isDigit ∧ digitsValue text < 65536 then some (some (digitsValue text))
  else none

/-- What is behind the credentials. -/
def hostPort (authority : Text) : Text := (authority.splitOn '@').getLastD []

/-- The authority state. -/
def parseAuthority (authority : Text) : Option (Text × Option Nat) :=
  if '@' ∈ authority ∧ hostPort authority = [] then none
  else match cutHost false (hostPort authority) with
    | (host, none) => (parseHost ipv6 host).map (·, none)
    | ([], some _) => none
    | (host, some port) => (parseHost ipv6 host).bind fun host => (parsePort port).map (host, ·)

end Authorities

section Parsing

/-- The path ends at a query or a fragment. -/
def isTail (c : Char) : Bool := c == '?' || c == '#'

/-- The authority ends where the path begins, or at the end of the path. -/
def endsAuthority (c : Char) : Bool := c == '/' || isTail c

/-- The query of what is behind the path. -/
def queryOf : Text → Option Text
  | '?' :: rest => some (encode querySet (rest.takeWhile (· != '#')))
  | _ => none

variable (ipv6 : Ipv6) (scheme : Text)

/-- The path start state of a URL that is not special. -/
def pathOf : Text → Text
  | '/' :: path => pathText (segments false path)
  | _ => []

/-- A URL whose path is a list of segments, or empty. -/
def parsePath (host : Option Text) (port : Option Nat) (text : Text) : Record where
  scheme
  host
  port
  path := pathOf (text.takeWhile fun c => !isTail c)
  query := queryOf (text.dropWhile fun c => !isTail c)

/-- A URL whose path is opaque. -/
def parseOpaque (text : Text) : Record where
  scheme
  host := none
  port := none
  path := encode c0Control (text.takeWhile fun c => !isTail c)
  query := queryOf (text.dropWhile fun c => !isTail c)

/-- What is behind the colon of the scheme. -/
def parseRest (text : Text) : Option Record :=
  match text with
  | '/' :: '/' :: rest =>
    (parseAuthority ipv6 (rest.takeWhile fun c => !endsAuthority c)).map fun (host, port) =>
      parsePath scheme (some host) port (rest.dropWhile fun c => !endsAuthority c)
  | '/' :: _ => some (parsePath scheme none none text)
  | _ => some (parseOpaque scheme text)

/-- The URL parser without a base, for this scheme; URLs of other schemes keep theirs. -/
def parse (others : Text → Text → Option Record) (text : Text) : Option Record :=
  match cutScheme (cleaned text) with
  | none => none
  | some (name, rest) =>
    if name = scheme then parseRest ipv6 scheme rest
    else (others name rest).map fun url => { url with scheme := name }

end Parsing

section PathLaws

variable {path rest : List Text} {special : Bool} {text : Text}

def isDots (segment : Text) : Bool := doubleDot segment || singleDot segment

theorem enter_plain {segment : Text} (plain : isDots segment = false) : enter path segment = path ++ [segment] := by
  obtain ⟨double, single⟩ := Bool.or_eq_false_iff.mp plain
  rw [enter, double, single, if_neg Bool.false_ne_true, if_neg Bool.false_ne_true]

/-- The last segment enters as the others do, and leaves an empty one behind it if it is dots. -/
theorem enterLast_eq (path : List Text) (segment : Text) :
    enterLast path segment = if isDots segment then enter path segment ++ [[]] else enter path segment := by
  rw [enterLast, enter, isDots]
  cases doubleDot segment <;> cases singleDot segment <;> rfl

theorem enterLast_plain {segment : Text} (plain : isDots segment = false) :
    enterLast path segment = path ++ [segment] := by
  rw [enterLast_eq, plain, if_neg Bool.false_ne_true, enter_plain plain]

/-- Segments that are no dots stay where they are. -/
theorem resolve_plain (plain : ∀ segment ∈ rest, isDots segment = false) : resolve path rest = path ++ rest := by
  induction rest generalizing path with
  | nil => rw [resolve, List.append_nil]
  | cons segment rest ih =>
    obtain ⟨first, others⟩ := List.forall_mem_cons.mp plain
    cases rest with
    | nil => rw [resolve, enterLast_plain first]
    | cons next rest =>
      rw [resolve, ih others, enter_plain first, List.append_assoc, List.singleton_append]
      exact List.cons_ne_nil _ _

/-- Segments that are no dots, with others behind them. -/
theorem resolve_front {front : List Text} (plain : ∀ segment ∈ front, isDots segment = false)
    (nonempty : rest ≠ []) :
    resolve path (front ++ rest) = resolve (path ++ front) rest := by
  induction front generalizing path with
  | nil => rw [List.nil_append, List.append_nil]
  | cons segment front ih =>
    obtain ⟨first, others⟩ := List.forall_mem_cons.mp plain
    have more : front ++ rest ≠ [] := by simp [nonempty]
    rw [List.cons_append, resolve]
    · rw [ih others, enter_plain first, List.append_assoc, List.singleton_append]
    · exact more

/-- What a last segment becomes that does not lead back. -/
def lastSegment (segment : Text) : Text := if singleDot segment then [] else segment

theorem enterLast_lastSegment {segment : Text} (stays : doubleDot segment = false) :
    enterLast path segment = path ++ [lastSegment segment] := by
  rw [enterLast, stays, if_neg Bool.false_ne_true, lastSegment]
  split <;> rfl

theorem enterLast_doubleDot {segment : Text} (back : doubleDot segment = true) :
    enterLast path segment = path.dropLast ++ [[]] := by
  rw [enterLast, if_pos back]

theorem mem_enter {next segment : Text} (listed : segment ∈ enter path next) :
    segment ∈ path ∨ segment = next ∧ isDots segment = false := by
  rw [enter] at listed
  split at listed
  · exact .inl ((List.dropLast_sublist path).subset listed)
  · rename_i double
    split at listed
    · exact .inl listed
    · rename_i single
      rcases List.mem_append.mp listed with before | here
      · exact .inl before
      · obtain rfl := List.mem_singleton.mp here
        exact .inr ⟨rfl, by rw [isDots, Bool.eq_false_iff.mpr double, Bool.eq_false_iff.mpr single]; rfl⟩

theorem mem_enterLast {next segment : Text} (listed : segment ∈ enterLast path next) :
    segment ∈ path ∨ segment = [] ∨ segment = next ∧ isDots segment = false := by
  rw [enterLast_eq] at listed
  split at listed
  · rcases List.mem_append.mp listed with entered | empty
    · exact (mem_enter entered).imp_right .inr
    · exact .inr (.inl (List.mem_singleton.mp empty))
  · exact (mem_enter listed).imp_right .inr

/-- What is in a resolved path: a segment of it, or an empty one. -/
theorem mem_resolve {segment : Text} (listed : segment ∈ resolve path rest) :
    segment ∈ path ∨ segment = [] ∨ segment ∈ rest ∧ isDots segment = false := by
  induction rest generalizing path with
  | nil => exact .inl listed
  | cons next rest ih =>
    cases rest with
    | nil =>
      rcases mem_enterLast listed with before | empty | ⟨rfl, plain⟩
      · exact .inl before
      · exact .inr (.inl empty)
      · exact .inr (.inr ⟨List.mem_cons_self, plain⟩)
    | cons other rest =>
      rw [resolve] at listed
      · rcases ih listed with before | empty | ⟨later, plain⟩
        · rcases mem_enter before with earlier | ⟨rfl, plain⟩
          · exact .inl earlier
          · exact .inr (.inr ⟨List.mem_cons_self, plain⟩)
        · exact .inr (.inl empty)
        · exact .inr (.inr ⟨List.mem_cons_of_mem _ later, plain⟩)
      · exact List.cons_ne_nil _ _

theorem resolve_ne_nil (nonempty : rest ≠ []) : resolve path rest ≠ [] := by
  induction rest generalizing path with
  | nil => exact absurd rfl nonempty
  | cons next rest ih =>
    cases rest with
    | nil =>
      rw [resolve, enterLast]
      split
      · simp
      · split <;> simp
    | cons other rest =>
      rw [resolve]
      · exact ih (List.cons_ne_nil _ _)
      · exact List.cons_ne_nil _ _

theorem enter_length_le (segment : Text) : (enter path segment).length ≤ path.length + 1 := by
  rw [enter]
  split
  · simp only [List.length_dropLast]
    omega
  · split
    · omega
    · simp

theorem enterLast_length_le (segment : Text) : (enterLast path segment).length ≤ path.length + 1 := by
  rw [enterLast]
  split
  · simp only [List.length_append, List.length_dropLast, List.length_singleton]
    omega
  · split <;> simp

theorem resolve_length_le : (resolve path rest).length ≤ path.length + rest.length := by
  induction rest generalizing path with
  | nil => exact Nat.le_refl _
  | cons next rest ih =>
    cases rest with
    | nil => exact enterLast_length_le next
    | cons other rest =>
      rw [resolve]
      · have entered := @enter_length_le path next
        have later := @ih (enter path next)
        simp only [List.length_cons] at later ⊢
        omega
      · exact List.cons_ne_nil _ _

theorem enter_dots {segment : Text} (dots : isDots segment = true) : (enter path segment).length ≤ path.length := by
  rw [enter]
  split
  · simp
  · rename_i double
    rw [isDots, Bool.eq_false_iff.mpr double, Bool.false_or] at dots
    rw [if_pos dots]

/-- Three segments stay three if none of them leads back. -/
theorem resolve_three {x y z r t g : Text} : resolve [] [x, y, z] = [r, t, g] ↔
    isDots x = false ∧ isDots y = false ∧ doubleDot z = false ∧ [r, t, g] = [x, y, lastSegment z] := by
  have shorter {path rest : List Text} (few : path.length + rest.length < 3) : resolve path rest ≠ [r, t, g] := by
    intro same
    have bound := @resolve_length_le path rest
    rw [same, List.length_cons, List.length_cons, List.length_singleton] at bound
    omega
  have shape : resolve [] [x, y, z] = resolve (enter (enter [] x) y) [z] := rfl
  cases first : isDots x with
  | true =>
    have entered := @enter_dots [] x first
    have next := @enter_length_le (enter [] x) y
    refine iff_of_false ?_ nofun
    rw [shape]
    exact shorter (by simp only [List.length_nil, List.length_singleton] at *; omega)
  | false =>
    rw [shape, enter_plain first, List.nil_append, and_iff_right rfl]
    cases second : isDots y with
    | true =>
      have next := @enter_dots [x] y second
      refine iff_of_false (shorter ?_) nofun
      simp only [List.length_singleton] at *
      omega
    | false =>
      rw [enter_plain second, List.singleton_append, resolve, and_iff_right rfl]
      cases last : doubleDot z with
      | true =>
        rw [enterLast_doubleDot last]
        exact iff_of_false nofun nofun
      | false =>
        rw [enterLast_lastSegment last, and_iff_right rfl]
        exact eq_comm

theorem pathText_cons (segment : Text) : pathText (segment :: rest) = '/' :: ['/'].intercalate (segment :: rest) := by
  induction rest generalizing segment with
  | nil => simp [pathText]
  | cons next rest ih =>
    rw [pathText, List.flatMap_cons, ← pathText, ih, List.intercalate_cons_of_ne_nil (List.cons_ne_nil _ _)]
    simp

/-- Segments are found again in the text of their path. -/
theorem splitOn_pathText (nonempty : rest ≠ []) (clean : ∀ segment ∈ rest, '/' ∉ segment) :
    ((pathText rest).drop 1).splitOn '/' = rest := by
  cases rest with
  | nil => exact absurd rfl nonempty
  | cons segment rest => rw [pathText_cons, List.drop_one, List.tail_cons, List.splitOn_intercalate _ clean nonempty]

theorem pathText_inj {others : List Text} (nonempty : rest ≠ []) (clean : ∀ segment ∈ rest, '/' ∉ segment)
    (nonempty' : others ≠ []) (clean' : ∀ segment ∈ others, '/' ∉ segment) :
    pathText rest = pathText others ↔ rest = others := by
  constructor
  · intro same
    rw [← splitOn_pathText nonempty clean, same, splitOn_pathText nonempty' clean']
  · rintro rfl
    rfl

end PathLaws

section SegmentLaws

variable {special : Bool} {text : Text}

/-- A segment that stays as it is: what is in no path is encoded, and it is no dots. -/
def CanonicalSegment (segment : Text) : Prop :=
  isDots segment = false ∧ ∀ c ∈ segment, pathSet c = false ∧ c ≠ '/'

theorem canonicalSegment_nil : CanonicalSegment [] := ⟨rfl, nofun⟩

/-- No part of a split text has a character that it was split at. -/
theorem mem_splitOnP {p : Char → Bool} {part : Text} (listed : part ∈ text.splitOnP p) :
    ∀ c ∈ part, p c = false := by
  induction text generalizing part with
  | nil =>
    rw [List.splitOnP_nil, List.mem_singleton] at listed
    simp [listed]
  | cons c rest ih =>
    rw [List.splitOnP_cons_eq_if_modifyHead] at listed
    split at listed
    · rcases List.mem_cons.mp listed with rfl | later
      · simp
      · exact ih later
    · rename_i other
      cases parts : rest.splitOnP p with
      | nil => exact absurd parts (List.splitOnP_ne_nil p rest)
      | cons first others =>
        rw [parts] at ih listed
        rcases List.mem_cons.mp listed with rfl | later
        · exact List.forall_mem_cons.mpr ⟨Bool.eq_false_iff.mpr other, ih List.mem_cons_self⟩
        · exact ih (List.mem_cons_of_mem _ later)

/-- A split text has one part more than slashes. -/
theorem length_splitOn (text : Text) : (text.splitOn '/').length = text.count '/' + 1 := by
  rw [List.splitOn_eq_splitOnP]
  induction text with
  | nil => rfl
  | cons c rest ih =>
    rw [List.splitOnP_cons_eq_if_modifyHead, List.count_cons]
    cases c == '/' with
    | true => simpa using ih
    | false => simpa using ih

theorem separator_false : isSeparator false = (· == '/') := by
  funext c
  rw [isSeparator, Bool.false_and, Bool.or_false]

theorem isSeparator_eq_false {special : Bool} {c : Char} (slash : c ≠ '/') (backslash : c ≠ '\\') :
    isSeparator special c = false := by
  rw [isSeparator, beq_eq_false_iff_ne.mpr slash, beq_eq_false_iff_ne.mpr backslash, Bool.and_false]
  rfl

/-- What a separator is, and is not encoded with. -/
theorem separator_clean {segment : Text} {c : Char} (other : c ∉ written) (separates : isSeparator special c = true)
    (listed : segment ∈ (text.splitOnP (isSeparator special)).map (encode pathSet)) : c ∉ segment := by
  obtain ⟨part, among, rfl⟩ := List.mem_map.mp listed
  refine notMem_encode (fun within => ?_) other
  rw [mem_splitOnP among c within] at separates
  cases separates

theorem slash_separates : isSeparator special '/' = true := by
  cases special <;> rfl

theorem canonicalSegment_encode {segment : Text}
    (listed : segment ∈ (text.splitOnP (isSeparator special)).map (encode pathSet)) (plain : isDots segment = false) :
    CanonicalSegment segment := by
  refine ⟨plain, fun c within => ⟨?_, ?_⟩⟩
  · obtain ⟨part, _, rfl⟩ := List.mem_map.mp listed
    exact encode_clean leaves_pathSet c within
  · rintro rfl
    exact separator_clean (by decide) slash_separates listed within

/-- The segments of a path are canonical. -/
theorem segments_canonical : ∀ segment ∈ segments special text, CanonicalSegment segment := by
  intro segment listed
  rcases mem_resolve listed with none_ | rfl | ⟨among, plain⟩
  · cases none_
  · exact canonicalSegment_nil
  · exact canonicalSegment_encode among plain

theorem segments_ne_nil : segments special text ≠ [] :=
  resolve_ne_nil (by simp)

/-- A path has no more segments than slashes and one. -/
theorem segments_length_le (text : Text) : (segments false text).length ≤ text.count '/' + 1 := by
  have bound := @resolve_length_le [] ((text.splitOnP (isSeparator false)).map (encode pathSet))
  rw [List.length_map, List.length_nil, Nat.zero_add, separator_false,
    ← List.splitOn_eq_splitOnP, length_splitOn] at bound
  rw [segments, separator_false]
  exact bound

/-- Canonical segments are those of their own path. -/
theorem segments_of_canonical {list : List Text} (nonempty : list ≠ [])
    (canonical : ∀ segment ∈ list, CanonicalSegment segment) : segments false (['/'].intercalate list) = list := by
  have parts : (['/'].intercalate list).splitOnP (isSeparator false) = list := by
    rw [separator_false, ← List.splitOn_eq_splitOnP]
    exact List.splitOn_intercalate _
      (fun segment listed within => (canonical segment listed).2 _ within |>.2 rfl) nonempty
  have same : list.map (encode pathSet) = list := by
    rw [List.map_congr_left fun segment listed =>
      encode_of_clean fun c within => ((canonical segment listed).2 c within).1]
    exact List.map_id' list
  rw [segments, parts, same, resolve_plain fun segment listed => (canonical segment listed).1, List.nil_append]

end SegmentLaws

end GuestComponents.Lib.Url
