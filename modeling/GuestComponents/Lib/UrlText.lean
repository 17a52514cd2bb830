import GuestComponents.Lib.Url

/-! The text of a URL and its record. Whatever is parsed, its parts are canonical
(`parseRest_canonical`), as far as its path is no opaque one, and the text of canonical parts is
parsed as them (`parse_recordText`). -/
namespace GuestComponents.Lib.Url
open Lib.Text Lib.Percent

section AuthorityLaws

variable {ipv6 : Ipv6} {text host : Text} {port : Option Nat}

/-- A host as the parser leaves it: an address in brackets, or a text that is neither encoded nor
forbidden. -/
def CanonicalHost (ipv6 : Ipv6) (host : Text) : Prop :=
  (∃ address, host = '[' :: address ++ [']'] ∧ ipv6.normal address = some address) ∨
    ∀ c ∈ host, c0Control c = false ∧ forbiddenHost c = false

theorem parseHost_canonical (parsed : parseHost ipv6 text = some host) : CanonicalHost ipv6 host := by
  unfold parseHost at parsed
  split at parsed
  · split at parsed
    · obtain ⟨address, normal, rfl⟩ := Option.map_eq_some_iff.mp parsed
      exact .inl ⟨address, rfl, ipv6.normal_idem normal⟩
    · cases parsed
  · split at parsed
    · cases parsed
    · rename_i allowed
      cases parsed
      rw [Bool.not_eq_true, List.any_eq_false] at allowed
      refine .inr fun c within => ⟨encode_clean leaves_c0Control c within, ?_⟩
      rcases mem_encode within with ⟨member, _⟩ | among
      · exact Bool.eq_false_iff.mpr (allowed c member)
      · have all : ∀ c ∈ written, forbiddenHost c = false := clean_of_any rfl
        exact all c among

theorem parseHost_of_canonical (canonical : CanonicalHost ipv6 host) : parseHost ipv6 host = some host := by
  rcases canonical with ⟨address, rfl, normal⟩ | clean
  · simp [parseHost, normal]
  · have allowed : host.any forbiddenHost = false := by
      rw [List.any_eq_false]
      intro c within
      rw [(clean c within).2]
      exact Bool.false_ne_true
    rw [parseHost]
    · rw [allowed, if_neg Bool.false_ne_true, encode_of_clean fun c within => (clean c within).1]
    · rintro rest rfl
      exact absurd (clean '[' List.mem_cons_self).2 (by decide)

theorem cutHost_step {inside next : Bool} {c : Char} (goesOn : ¬ (c = ':' ∧ inside = false))
    (becomes : (if c = '[' then true else if c = ']' then false else inside) = next) (rest : Text) :
    cutHost inside (c :: rest) = (c :: (cutHost next rest).1, (cutHost next rest).2) := by
  rw [cutHost, if_neg goesOn, becomes]

/-- Up to the end of a host, brackets are closed. -/
theorem cutHost_canonical (canonical : CanonicalHost ipv6 host) :
    cutHost false host = (host, none) ∧ ∀ after, cutHost false (host ++ ':' :: after) = (host, some after) := by
  have within (list after : Text) (noBracket : ']' ∉ list) :
      cutHost true (list ++ ']' :: after) = (list ++ ']' :: (cutHost false after).1, (cutHost false after).2) := by
    induction list with
    | nil =>
      have closes : (if ']' = '[' then true else if ']' = ']' then false else true) = false := rfl
      rw [List.nil_append, cutHost_step (by decide) closes, List.nil_append]
    | cons c rest ih =>
      rw [List.mem_cons, not_or] at noBracket
      have stays : (if c = '[' then true else if c = ']' then false else true) = true := by
        rw [if_neg (Ne.symm noBracket.1), ite_self]
      rw [List.cons_append, cutHost_step (by simp) stays, ih noBracket.2, List.cons_append]
  have outside (list : Text) (clean : ∀ c ∈ list, forbiddenHost c = false) (after : Text) :
      cutHost false (list ++ after) = (list ++ (cutHost false after).1, (cutHost false after).2) := by
    induction list with
    | nil => rfl
    | cons c rest ih =>
      obtain ⟨first, others⟩ := List.forall_mem_cons.mp clean
      have colon : c ≠ ':' := by
        rintro rfl
        exact absurd first (by decide)
      have bracket : c ≠ '[' := by
        rintro rfl
        exact absurd first (by decide)
      have stays : (if c = '[' then true else if c = ']' then false else false) = false := by
        rw [if_neg bracket, ite_self]
      rw [List.cons_append, cutHost_step (fun both => colon both.1) stays, ih others, List.cons_append]
  rcases canonical with ⟨address, rfl, normal⟩ | clean
  · have noBracket : ']' ∉ address := by
      intro listed
      rcases ipv6.normal_digits normal ']' listed with colon | digit
      · exact absurd colon (by decide)
      · exact absurd digit (by decide)
    have opened (after : Text) : cutHost false ('[' :: address ++ [']'] ++ after) =
        ('[' :: address ++ ']' :: (cutHost false after).1, (cutHost false after).2) := by
      have shape : '[' :: address ++ [']'] ++ after = '[' :: (address ++ ']' :: after) := by simp
      have opens : (if '[' = '[' then true else if '[' = ']' then false else false) = true := rfl
      rw [shape, cutHost_step (by decide) opens, within address after noBracket]
      rfl
    constructor
    · have closed := opened []
      rw [List.append_nil] at closed
      exact closed
    · intro after
      rw [opened]
      simp [cutHost]
  · have allowed : ∀ c ∈ host, forbiddenHost c = false := fun c within => (clean c within).2
    constructor
    · have closed := outside host allowed []
      rw [List.append_nil] at closed
      rw [closed]
      simp [cutHost]
    · intro after
      rw [outside host allowed]
      simp [cutHost]

/-- A number as it is written. -/
def portText (port : Nat) : Text := Nat.toDigits 10 port

theorem portText_digits {port : Nat} : ∀ c ∈ portText port, c.isDigit = true := fun _ listed =>
  Nat.isDigit_of_mem_toDigits (by decide) (by decide) listed

theorem parsePort_portText {number : Nat} (fits : number < 65536) :
    parsePort (portText number) = some (some number) := by
  have nonempty : portText number ≠ [] := Nat.toDigits_ne_nil
  have value : digitsValue (portText number) = number := by simp [digitsValue, portText]
  rw [parsePort, if_neg nonempty, value, if_pos ⟨List.all_eq_true.mpr portText_digits, fits⟩]

theorem parsePort_fits {number : Nat} (parsed : parsePort text = some (some number)) : number < 65536 := by
  rw [parsePort] at parsed
  split at parsed
  · cases parsed
  · split at parsed
    · rename_i fits
      cases parsed
      exact fits.2
    · cases parsed

/-- A host, and a colon and the port behind it. -/
def hostText (host : Text) : Option Nat → Text
  | none => host
  | some number => host ++ ':' :: portText number

/-- An authority as it is parsed: a canonical host, and a port only behind one that is not empty. -/
structure CanonicalAuthority (ipv6 : Ipv6) (host : Text) (port : Option Nat) : Prop where
  canonical : CanonicalHost ipv6 host
  behind : host = [] → port = none
  fits : ∀ number, port = some number → number < 65536

theorem parseHost_nil (parsed : parseHost ipv6 text = some []) : text = [] := by
  unfold parseHost at parsed
  split at parsed
  · split at parsed
    · obtain ⟨address, _, same⟩ := Option.map_eq_some_iff.mp parsed
      cases same
    · cases parsed
  · split at parsed
    · cases parsed
    · exact encode_eq_nil_iff.mp (Option.some.inj parsed)

theorem parseAuthority_canonical (parsed : parseAuthority ipv6 text = some (host, port)) :
    CanonicalAuthority ipv6 host port := by
  rw [parseAuthority] at parsed
  split at parsed
  · cases parsed
  · split at parsed
    · obtain ⟨_, isHost, same⟩ := Option.map_eq_some_iff.mp parsed
      cases same
      exact ⟨parseHost_canonical isHost, fun _ => rfl, nofun⟩
    · cases parsed
    · rename_i raw after nonempty cut
      obtain ⟨_, isHost, parsed⟩ := Option.bind_eq_some_iff.mp parsed
      obtain ⟨_, isPort, same⟩ := Option.map_eq_some_iff.mp parsed
      cases same
      refine ⟨parseHost_canonical isHost, ?_, ?_⟩
      · rintro rfl
        exact absurd (parseHost_nil isHost) nonempty
      · rintro number rfl
        exact parsePort_fits isPort

/-- A character that stands in an authority as it is. -/
def Plain (c : Char) : Prop := c0Control c = false ∧ c ≠ ' ' ∧ endsAuthority c = false ∧ c ≠ '@'

instance (c : Char) : Decidable (Plain c) := inferInstanceAs (Decidable (_ ∧ _))

theorem plain_of_hex {c : Char} (digit : (hexValue c).isSome = true) : Plain c := by
  have all : ∀ n < 103, (hexValue (Char.ofNat n)).isSome = true → Plain (Char.ofNat n) := by decide
  have below : c.toNat < 103 := by
    unfold hexValue at digit
    dsimp only at digit
    split at digit
    · omega
    · split at digit
      · omega
      · split at digit
        · omega
        · cases digit
  rw [← Char.ofNat_toNat c] at digit ⊢
  exact all c.toNat below digit

theorem hexValue_of_digit {c : Char} (digit : c.isDigit = true) : (hexValue c).isSome = true := by
  have range : 48 ≤ c.toNat ∧ c.toNat ≤ 57 := by
    simpa [Char.isDigit, UInt32.le_iff_toNat_le] using digit
  rw [hexValue]
  simp [range]

theorem plain_of_allowed {c : Char} (visible : c0Control c = false) (allowed : forbiddenHost c = false) : Plain c := by
  refine ⟨visible, ?_, ?_, ?_⟩
  · rintro rfl
    exact absurd allowed (by decide)
  · cases ends : endsAuthority c with
    | false => rfl
    | true =>
      simp only [endsAuthority, isTail, Bool.or_eq_true, beq_iff_eq] at ends
      rcases ends with rfl | rfl | rfl <;> exact absurd allowed (by decide)
  · rintro rfl
    exact absurd allowed (by decide)

/-- What stands in a canonical authority: none of these ends or splits it. -/
theorem hostText_clean (authority : CanonicalAuthority ipv6 host port) : ∀ c ∈ hostText host port,
    Plain c := by
  have name : ∀ c ∈ host, Plain c := by
    rcases authority.canonical with ⟨address, rfl, normal⟩ | clean
    · intro c within
      rw [List.cons_append, List.mem_cons, List.mem_append, List.mem_singleton] at within
      rcases within with rfl | among | rfl
      · decide
      · rcases ipv6.normal_digits normal c among with rfl | digit
        · decide
        · exact plain_of_hex digit
      · decide
    · exact fun c within => plain_of_allowed (clean c within).1 (clean c within).2
  cases port with
  | none => exact name
  | some number =>
    intro c within
    rcases List.mem_append.mp within with before | behind
    · exact name c before
    · rcases List.mem_cons.mp behind with rfl | digit
      · decide
      · exact plain_of_hex (hexValue_of_digit (portText_digits c digit))

theorem parseAuthority_hostText (authority : CanonicalAuthority ipv6 host port) :
    parseAuthority ipv6 (hostText host port) = some (host, port) := by
  have whole : hostPort (hostText host port) = hostText host port := by
    have absent : '@' ∉ hostText host port := fun within => (hostText_clean authority _ within).2.2.2 rfl
    rw [hostPort, List.splitOn_eq_singleton absent]
    rfl
  have noCredentials : ¬ ('@' ∈ hostText host port ∧ hostPort (hostText host port) = []) := fun both =>
    (hostText_clean authority _ both.1).2.2.2 rfl
  rw [parseAuthority, if_neg noCredentials, whole]
  cases port with
  | none =>
    rw [hostText, (cutHost_canonical authority.canonical).1]
    show (parseHost ipv6 host).map _ = _
    rw [parseHost_of_canonical authority.canonical]
    rfl
  | some number =>
    rw [hostText, (cutHost_canonical authority.canonical).2]
    cases host with
    | nil => cases authority.behind rfl
    | cons c rest =>
      show (parseHost ipv6 (c :: rest)).bind _ = _
      rw [parseHost_of_canonical authority.canonical, Option.bind_some, parsePort_portText (authority.fits number rfl)]
      rfl

end AuthorityLaws

section CleaningLaws

variable {text front rest : Text}

/-- Characters that are neither taken off the ends of an input nor out of it. -/
def Visible (text : Text) : Prop := ∀ c ∈ text, c0OrSpace c = false

theorem visible_append : Visible (front ++ rest) ↔ Visible front ∧ Visible rest :=
  List.forall_mem_append

theorem visible_cons {c : Char} : Visible (c :: rest) ↔ c0OrSpace c = false ∧ Visible rest :=
  List.forall_mem_cons

theorem tabOrNewline_of_visible {c : Char} (visible : c0OrSpace c = false) : tabOrNewline c = false := by
  cases newline : tabOrNewline c with
  | false => rfl
  | true =>
    simp only [tabOrNewline, Bool.or_eq_true, beq_iff_eq] at newline
    rcases newline with (rfl | rfl) | rfl <;> exact absurd visible (by decide)

theorem c0OrSpace_eq_false {c : Char} (visible : c0Control c = false) (space : c ≠ ' ') : c0OrSpace c = false := by
  rw [c0Control, Bool.or_eq_false_iff, decide_eq_false_iff_not, decide_eq_false_iff_not] at visible
  have other : c.toNat ≠ 32 := fun same => space (Char.toNat_inj.mp same)
  rw [c0OrSpace, decide_eq_false_iff_not]
  omega

theorem withoutNewlines_visible (visible : Visible text) : withoutNewlines text = text :=
  List.filter_eq_self.mpr fun c within => by rw [tabOrNewline_of_visible (visible c within)]; rfl

theorem withoutNewlines_append : withoutNewlines (front ++ rest) = withoutNewlines front ++ withoutNewlines rest :=
  List.filter_append ..

theorem dropEnd_append (visible : Visible front) : dropEnd (front ++ rest) = front ++ dropEnd rest := by
  have stays : front.reverse.dropWhile c0OrSpace = front.reverse := by
    cases shape : front.reverse with
    | nil => rfl
    | cons last others =>
      have within : last ∈ front := List.mem_reverse.mp (shape ▸ List.mem_cons_self)
      rw [List.dropWhile_cons, visible last within, if_neg Bool.false_ne_true]
  rw [dropEnd, dropEnd, List.reverse_append, List.dropWhile_append]
  split
  · rename_i empty
    rw [stays, List.reverse_reverse, List.isEmpty_iff.mp empty, List.reverse_nil, List.append_nil]
  · rw [List.reverse_append, List.reverse_reverse]

theorem cleaned_append (nonempty : front ≠ []) (visible : Visible front) :
    cleaned (front ++ rest) = front ++ withoutNewlines (dropEnd rest) := by
  have stays : (front ++ rest).dropWhile c0OrSpace = front ++ rest := by
    cases front with
    | nil => exact absurd rfl nonempty
    | cons first others =>
      rw [List.cons_append, List.dropWhile_cons, (visible_cons.mp visible).1, if_neg Bool.false_ne_true]
  rw [cleaned, stays, dropEnd_append visible, withoutNewlines_append, withoutNewlines_visible visible]

/-- Nothing is taken off the end in front of a character that is visible. -/
theorem dropEnd_append_cons {c : Char} (visible : c0OrSpace c = false) :
    dropEnd (front ++ c :: rest) = front ++ c :: dropEnd rest := by
  have stops : (rest.reverse ++ c :: front.reverse).dropWhile c0OrSpace =
      rest.reverse.dropWhile c0OrSpace ++ c :: front.reverse := by
    rw [List.dropWhile_append]
    split
    · rename_i empty
      rw [List.isEmpty_iff.mp empty, List.dropWhile_cons, visible]
      rfl
    · rfl
  rw [dropEnd, dropEnd, List.reverse_append, List.reverse_cons, List.append_assoc, List.singleton_append, stops]
  simp

/-- What is taken off the end is blank. -/
theorem dropEnd_blanks (text : Text) :
    ∃ blanks, text = dropEnd text ++ blanks ∧ ∀ c ∈ blanks, c0OrSpace c = true := by
  refine ⟨(text.reverse.takeWhile c0OrSpace).reverse, ?_, fun c within => ?_⟩
  · rw [dropEnd, ← List.reverse_append, List.takeWhile_append_dropWhile, List.reverse_reverse]
  · exact List.all_eq_true.mp List.all_takeWhile c (List.mem_reverse.mp within)

theorem dropEnd_visible (visible : Visible text) : dropEnd text = text := by
  have whole := @dropEnd_append text [] visible
  rw [List.append_nil] at whole
  rw [whole]
  exact List.append_nil text

theorem slash_visible : c0OrSpace '/' = false := rfl

theorem withoutNewlines_cons {c : Char} {rest : Text} (other : tabOrNewline c = false) :
    withoutNewlines (c :: rest) = c :: withoutNewlines rest := by
  rw [withoutNewlines, List.filter_cons_of_pos (by rw [other]; rfl), ← withoutNewlines]

theorem mem_withoutNewlines {c : Char} {text : Text} (other : tabOrNewline c = false) :
    c ∈ withoutNewlines text ↔ c ∈ text := by
  rw [withoutNewlines, List.mem_filter, other]
  exact and_iff_left rfl

theorem mem_of_dropEnd {c : Char} {text : Text} (within : c ∈ dropEnd text) : c ∈ text := by
  obtain ⟨blanks, whole, _⟩ := dropEnd_blanks text
  rw [whole]
  exact List.mem_append_left _ within

theorem tabOrNewline_of_isTail {c : Char} (tail : isTail c = true) : tabOrNewline c = false := by
  simp only [isTail, Bool.or_eq_true, beq_iff_eq] at tail
  rcases tail with rfl | rfl <;> rfl

theorem tails_withoutNewlines {part : Text} :
    (∀ c ∈ withoutNewlines part, isTail c = false) ↔ ∀ c ∈ part, isTail c = false := by
  constructor
  · intro clean c within
    cases tail : isTail c with
    | false => rfl
    | true => exact tail.symm.trans (clean c ((mem_withoutNewlines (tabOrNewline_of_isTail tail)).mpr within))
  · exact fun clean c within => clean c (List.mem_of_mem_filter within)

/-- What ends a path in one part of it ends it there. -/
theorem takeWhile_inside {p : Char → Bool} {front : Text} (stops : ¬ ∀ c ∈ front, p c = true) (rest : Text) :
    (front ++ rest).takeWhile p = front.takeWhile p := by
  rw [List.takeWhile_append, if_neg]
  intro whole
  have same : front.takeWhile p = front := (List.takeWhile_prefix p).eq_of_length whole
  exact stops (List.takeWhile_eq_self_iff.mp same)

/-- What ends the path is encoded, and its code is no dot. -/
theorem singleDot_encodeChar {c : Char} (ends : isTail c = true ∨ c0OrSpace c = true) :
    (encodeChar pathSet c).length = 3 ∧ singleDot (encodeChar pathSet c) = false := by
  rcases ends with tail | blank
  · simp only [isTail, Bool.or_eq_true, beq_iff_eq] at tail
    rcases tail with rfl | rfl <;> decide
  · have all : ∀ n < 33, (encodeChar pathSet (Char.ofNat n)).length = 3 ∧
        singleDot (encodeChar pathSet (Char.ofNat n)) = false := by decide
    rw [← Char.ofNat_toNat c]
    exact all c.toNat (by rw [c0OrSpace, decide_eq_true_eq] at blank; omega)

theorem singleDot_length {segment : Text} (single : singleDot segment = true) : segment.length ≤ 3 := by
  simp only [singleDot, Bool.or_eq_true, beq_iff_eq] at single
  rcases single with rfl | lower
  · decide
  · rw [← List.length_map Char.toLower, lower]
    decide

/-- Nothing stands behind a dot that is one with it. -/
theorem singleDot_append {segment rest : Text} (single : singleDot segment = true)
    (whole : singleDot (segment ++ rest) = true) : rest = [] := by
  have bound := singleDot_length whole
  rw [List.length_append] at bound
  simp only [singleDot, Bool.or_eq_true, beq_iff_eq] at single whole
  rcases single with rfl | lower
  · rcases whole with dot | code
    · exact List.append_right_eq_self.mp dot
    · exact absurd code (by simp)
  · have three : segment.length = 3 := by
      rw [← List.length_map Char.toLower, lower]
      rfl
    exact List.eq_nil_of_length_eq_zero (by omega)

end CleaningLaws

section ParsingLaws

variable {ipv6 : Ipv6} {scheme text rest : Text} {others : Text → Text → Option Record}

/-- A scheme in small letters. -/
structure SchemeName (scheme : Text) : Prop where
  first : (scheme.head?.map Char.isAlpha) = some true
  chars : ∀ c ∈ scheme, schemeChar c = true
  lower : scheme.map Char.toLower = scheme

theorem visible_of_schemeChar {c : Char} (allowed : schemeChar c = true) : c0OrSpace c = false := by
  cases hidden : c0OrSpace c with
  | false => rfl
  | true =>
    have all : ∀ n ≤ 32, schemeChar (Char.ofNat n) = false := by decide
    have out := all c.toNat (of_decide_eq_true hidden)
    rw [Char.ofNat_toNat, allowed] at out
    cases out

theorem SchemeName.visible (name : SchemeName scheme) : Visible scheme := fun c within =>
  visible_of_schemeChar (name.chars c within)

theorem SchemeName.ne_nil (name : SchemeName scheme) : scheme ≠ [] := by
  rintro rfl
  exact absurd name.first (by decide)

theorem cutScheme_append (name : SchemeName scheme) : cutScheme (scheme ++ ':' :: rest) = some (scheme, rest) := by
  have taken : (scheme ++ ':' :: rest).takeWhile schemeChar = scheme := by
    rw [List.takeWhile_append_of_pos name.chars, List.takeWhile_cons]
    exact List.append_nil scheme
  have dropped : (scheme ++ ':' :: rest).dropWhile schemeChar = ':' :: rest := by
    rw [List.dropWhile_append_of_pos name.chars, List.dropWhile_cons]
    rfl
  cases shape : scheme with
  | nil => exact absurd shape name.ne_nil
  | cons first more =>
    have alpha := name.first
    rw [shape] at alpha taken dropped
    have letter : first.isAlpha = true := Option.some.inj alpha
    have lower := name.lower
    rw [shape] at lower
    rw [List.cons_append, cutScheme, if_pos letter, ← List.cons_append, dropped, taken, lower]
    rfl

/-- What is read of a text that begins with the scheme. -/
theorem parse_scheme (name : SchemeName scheme) : parse ipv6 scheme others (scheme ++ ':' :: rest) =
    parseRest ipv6 scheme (withoutNewlines (dropEnd rest)) := by
  have front : cleaned (scheme ++ ':' :: rest) = scheme ++ ':' :: withoutNewlines (dropEnd rest) := by
    have visible : Visible (scheme ++ [':']) := visible_append.mpr ⟨name.visible, clean_of_any rfl⟩
    have split := @cleaned_append (scheme ++ [':']) rest (by simp) visible
    simpa using split
  rw [parse, front, cutScheme_append name]
  exact if_pos rfl

/-- What is read of a text with an authority. -/
theorem parse_slashes (name : SchemeName scheme) : parse ipv6 scheme others (scheme ++ "://".toList ++ rest) =
    parseRest ipv6 scheme ('/' :: '/' :: withoutNewlines (dropEnd rest)) := by
  have shape : scheme ++ "://".toList ++ rest = scheme ++ ':' :: ("//".toList ++ rest) := by simp
  have visible : Visible "//".toList := clean_of_any rfl
  rw [shape, parse_scheme name, dropEnd_append visible, withoutNewlines_append, withoutNewlines_visible visible]
  rfl

theorem takeWhile_stop {p : Char → Bool} {front : Text} (all : ∀ c ∈ front, p c = true)
    (stop : ∀ c, rest.head? = some c → p c = false) :
    (front ++ rest).takeWhile p = front ∧ (front ++ rest).dropWhile p = rest := by
  rw [List.takeWhile_append_of_pos all, List.dropWhile_append_of_pos all]
  cases rest with
  | nil => simp
  | cons c rest =>
    rw [List.takeWhile_cons, List.dropWhile_cons, stop c rfl]
    simp

theorem parseRest_authority {authority : Text} (clean : ∀ c ∈ authority, endsAuthority c = false)
    (ends : ∀ c, rest.head? = some c → endsAuthority c = true) :
    parseRest ipv6 scheme ('/' :: '/' :: (authority ++ rest)) = (parseAuthority ipv6 authority).map fun (host, port) =>
      parsePath scheme (some host) port rest := by
  obtain ⟨taken, dropped⟩ := @takeWhile_stop rest (fun c => !endsAuthority c) authority
    (fun c within => by rw [clean c within]; rfl) (fun c first => by rw [ends c first]; rfl)
  rw [parseRest, taken, dropped]

theorem parseRest_scheme {url : Record} (parsed : parseRest ipv6 scheme text = some url) : url.scheme = scheme := by
  unfold parseRest at parsed
  split at parsed
  · obtain ⟨both, _, rfl⟩ := Option.map_eq_some_iff.mp parsed
    rfl
  · cases parsed
    rfl
  · cases parsed
    rfl

/-- The text of a query. -/
def queryText : Option Text → Text
  | none => []
  | some query => '?' :: query

def CanonicalQuery (query : Option Text) : Prop := ∀ text, query = some text → ∀ c ∈ text, querySet c = false

theorem queryOf_queryText {query : Option Text} (canonical : CanonicalQuery query) :
    queryOf (queryText query) = query := by
  cases query with
  | none => rfl
  | some text =>
    have clean := canonical text rfl
    have whole : text.takeWhile (· != '#') = text := by
      rw [List.takeWhile_eq_self_iff]
      intro c within
      rw [bne_iff_ne]
      rintro rfl
      exact absurd (clean _ within) (by decide)
    rw [queryText, queryOf, whole, encode_of_clean clean]

theorem queryOf_canonical : CanonicalQuery (queryOf text) := by
  intro query read
  unfold queryOf at read
  split at read
  · cases read
    exact encode_clean leaves_querySet
  · cases read

/-- A URL as it is parsed, where its path is not opaque. -/
structure CanonicalRecord (ipv6 : Ipv6) (url : Record) : Prop where
  authority : CanonicalAuthority ipv6 (url.host.getD []) url.port
  path : url.path = [] ∨ ∃ list, list ≠ [] ∧ url.path = pathText list ∧ ∀ segment ∈ list,
    CanonicalSegment segment
  query : CanonicalQuery url.query

theorem parsePath_canonical {host : Option Text} {port : Option Nat}
    (authority : CanonicalAuthority ipv6 (host.getD []) port) : CanonicalRecord ipv6
      (parsePath scheme host port text) := by
  refine ⟨authority, ?_, queryOf_canonical⟩
  rw [parsePath]
  dsimp only
  unfold pathOf
  split
  · exact .inr ⟨_, segments_ne_nil, rfl, segments_canonical⟩
  · exact .inl rfl

theorem canonicalAuthority_none : CanonicalAuthority ipv6 [] none :=
  ⟨.inr nofun, fun _ => rfl, nofun⟩

/-- What begins with a slash behind the scheme has a canonical record. -/
theorem parseRest_canonical {url : Record} (parsed : parseRest ipv6 scheme ('/' :: text) = some url) :
    CanonicalRecord ipv6 url := by
  unfold parseRest at parsed
  split at parsed
  · obtain ⟨both, authority, rfl⟩ := Option.map_eq_some_iff.mp parsed
    exact parsePath_canonical (parseAuthority_canonical authority)
  · cases parsed
    exact parsePath_canonical canonicalAuthority_none
  · rename_i other
    exact absurd rfl (other text)

/-- The text of a record with an authority. -/
def recordText (scheme host : Text) (port : Option Nat) (list : List Text) (query : Option Text) : Text :=
  scheme ++ "://".toList ++ hostText host port ++ pathText list ++ queryText query

theorem hostText_visible {host : Text} {port : Option Nat} (authority : CanonicalAuthority ipv6 host port) :
    Visible (hostText host port) := fun c within =>
  c0OrSpace_eq_false (hostText_clean authority c within).1 (hostText_clean authority c within).2.1

theorem space_of_pathSet {c : Char} (out : pathSet c = false) : c0OrSpace c = false ∧ isTail c = false := by
  constructor
  · refine c0OrSpace_eq_false ?_ ?_
    · rw [pathSet, querySet, Bool.or_eq_false_iff, Bool.or_eq_false_iff] at out
      exact out.1.1
    · rintro rfl
      exact absurd out (by decide)
  · cases tail : isTail c with
    | false => rfl
    | true =>
      simp only [isTail, Bool.or_eq_true, beq_iff_eq] at tail
      rcases tail with rfl | rfl <;> exact absurd out (by decide)

theorem mem_pathText {list : List Text} {c : Char} (listed : c ∈ pathText list) :
    c = '/' ∨ ∃ segment ∈ list, c ∈ segment := by
  obtain ⟨segment, among, within⟩ := List.mem_flatMap.mp listed
  rcases List.mem_cons.mp within with slash | inside
  · exact .inl slash
  · exact .inr ⟨segment, among, inside⟩

theorem pathText_clean {list : List Text} (canonical : ∀ segment ∈ list, CanonicalSegment segment) :
    ∀ c ∈ pathText list, c0OrSpace c = false ∧ isTail c = false := by
  intro c within
  rcases mem_pathText within with rfl | ⟨segment, among, inside⟩
  · decide
  · exact space_of_pathSet ((canonical segment among).2 c inside).1

theorem queryText_visible {query : Option Text} (canonical : CanonicalQuery query) : Visible (queryText query) := by
  cases query with
  | none => exact nofun
  | some text =>
    refine visible_cons.mpr ⟨by decide, fun c within => ?_⟩
    have out := canonical text rfl c within
    refine c0OrSpace_eq_false ?_ ?_
    · rw [querySet, Bool.or_eq_false_iff] at out
      exact out.1
    · rintro rfl
      exact absurd out (by decide)

/-- The text of a path with a query is read as they are. -/
theorem parsePath_text {host : Option Text} {port : Option Nat} {list : List Text} (nonempty : list ≠ [])
    (canonical : ∀ segment ∈ list, CanonicalSegment segment) {query : Option Text} (isQuery : CanonicalQuery query) :
    parsePath scheme host port (pathText list ++ queryText query) = ⟨scheme, host, port, pathText list, query⟩ := by
  have stop : ∀ c, (queryText query).head? = some c → (!isTail c) = false := by
    intro c head
    cases query with
    | none => cases head
    | some text =>
      cases head
      rfl
  obtain ⟨taken, dropped⟩ := @takeWhile_stop (queryText query) (fun c => !isTail c) (pathText list)
    (fun c within => by rw [(pathText_clean canonical c within).2]; rfl) stop
  have path : pathOf (pathText list) = pathText list := by
    obtain ⟨first, more, rfl⟩ := List.exists_cons_of_ne_nil nonempty
    rw [pathText_cons, pathOf, segments_of_canonical nonempty canonical, pathText_cons]
  rw [parsePath, taken, dropped, queryOf_queryText isQuery, path]

/-- The text of a canonical record is parsed back. -/
theorem parse_recordText (name : SchemeName scheme) {host : Text} {port : Option Nat}
    (authority : CanonicalAuthority ipv6 host port) {list : List Text} (nonempty : list ≠ [])
    (canonical : ∀ segment ∈ list, CanonicalSegment segment) {query : Option Text} (isQuery : CanonicalQuery query) :
    parse ipv6 scheme others (recordText scheme host port list query) =
      some ⟨scheme, some host, port, pathText list, query⟩ := by
  have shape : recordText scheme host port list query = scheme ++ ':' ::
      ("//".toList ++ (hostText host port ++ (pathText list ++ queryText query))) := by
    simp [recordText]
  have visible : Visible ("//".toList ++ (hostText host port ++ (pathText list ++ queryText query))) :=
    visible_append.mpr ⟨clean_of_any rfl, visible_append.mpr ⟨hostText_visible authority,
      visible_append.mpr ⟨fun c within => (pathText_clean canonical c within).1, queryText_visible isQuery⟩⟩⟩
  have begins : ∀ c, (pathText list ++ queryText query).head? = some c → endsAuthority c = true := by
    obtain ⟨first, more, rfl⟩ := List.exists_cons_of_ne_nil nonempty
    rintro c ⟨⟩
    rfl
  rw [shape, parse_scheme name, dropEnd_visible visible, withoutNewlines_visible visible]
  show parseRest ipv6 scheme ('/' :: '/' :: (hostText host port ++ (pathText list ++ queryText query))) = _
  rw [parseRest_authority (fun c within => (hostText_clean authority c within).2.2.1) begins,
    parseAuthority_hostText authority]
  exact congrArg some (parsePath_text nonempty canonical isQuery)

end ParsingLaws

end GuestComponents.Lib.Url
