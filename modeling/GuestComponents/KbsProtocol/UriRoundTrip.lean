import GuestComponents.KbsProtocol.ResourceUri
import GuestComponents.Lib.Panic
import GuestComponents.Lib.UrlText

/-! Resource URIs and their texts. `whole_uri` prints the parts as they are, and the parser of URLs
encodes and resolves what it reads, so that a URI comes back exactly if its parts are what that
parser leaves (`tryFrom_wholeUri_iff`); in JSON it comes back where nothing in it is escaped.
`accepted_iff` gives the texts that `try_from` accepts. -/
namespace GuestComponents.KbsProtocol
open Lib Lib.Text Lib.Url
open Lib.Percent (encode c0Control written)

def SCHEME : Text := "kbs".toList

/-- What is read of a URL record. -/
def Url.ofRecord (url : Record) : Url := ⟨url.scheme, url.host, url.port, url.path, url.query⟩

/-- `Url::try_from`, for URLs of the scheme `kbs` by the URL standard. -/
def parseUrl (ipv6 : Ipv6) (others : Text → Text → Option Record) (value : Text) : Option Url :=
  (Lib.Url.parse ipv6 SCHEME others value).map Url.ofRecord

namespace ResourceUri

/-- The address of a KBS: the host and the port of a URL, or the text itself. -/
def kbsAddrOf (parse : Text → Option Url) (kbsUri : Text) : Except String Text :=
  match parse kbsUri with
  | none => .ok kbsUri
  | some url =>
    match url.host, url.port with
    | none, _ => .error s!"Invalid URL: {String.ofList kbsUri}"
    | some kbsHost, some port => .ok (kbsHost ++ ':' :: (toString port).toList)
    | some kbsHost, none => .ok kbsHost

/-- `ResourceUri::new`. -/
def new (parse : Text → Option Url) (kbsUri resourcePath : Text) : Except String ResourceUri :=
  match kbsAddrOf parse kbsUri with
  | .error error => .error error
  | .ok kbsAddr =>
    if ! (['/'].isPrefixOf resourcePath) then
      .error s!"Resource path {String.ofList resourcePath} must start with '/'"
    else match resourcePath.splitOn '/' with
      | [_, repository, type, tag] => .ok { kbsAddr, repository, type, tag, query := none }
      | _ => .error
        s!"Resource path {String.ofList resourcePath} must follow the format '/<repository>/<type>/<tag>'"

/-- `Url::from` a resource URI. -/
def toUrl (parse : Text → Option Url) (val : ResourceUri) : Outcome Url :=
  match parse val.wholeUri with
  | some url => .ok url
  | none => .panic "unexpected parse"

end ResourceUri

section Serde

/-- A character in a JSON string, as serde_json writes it. -/
def escapeChar (c : Char) : Text :=
  if c = '"' then ['\\', '"']
  else if c = '\\' then ['\\', '\\']
  else if c = '\n' then ['\\', 'n']
  else if c = '\r' then ['\\', 'r']
  else if c = '\t' then ['\\', 't']
  else if c = '\x08' then ['\\', 'b']
  else if c = '\x0C' then ['\\', 'f']
  else if c.toNat < 0x20 then ['\\', 'u', '0', '0', hexDigit (c.toNat / 16), hexDigit (c.toNat % 16)]
  else [c]

/-- The JSON of a string. -/
def stringJson (value : Text) : Text := '"' :: value.flatMap escapeChar ++ ['"']

/-- The rest of a JSON string that is read into a `&str`: an escape would have to be copied. -/
def borrowedRest : Text → Option Text
  | [] => none
  | c :: rest =>
    if c = '"' then if rest = [] then some [] else none
    else if c = '\\' ∨ c.toNat < 0x20 then none
    else (borrowedRest rest).map (c :: ·)

/-- A `&str` out of the JSON of a string. -/
def borrowed : Text → Option Text
  | '"' :: rest => borrowedRest rest
  | _ => none

/-- `Serialize`. -/
def ResourceUri.serialize (uri : ResourceUri) : Text := stringJson uri.wholeUri

/-- `Deserialize`. -/
def ResourceUri.deserialize (parse : Text → Option Url) (json : Text) : Except String ResourceUri :=
  match borrowed json with
  | none => .error "invalid type: string, expected a borrowed string"
  | some intermediate => ResourceUri.tryFrom parse intermediate

def Unescaped (value : Text) : Prop := ∀ c ∈ value, c ≠ '"' ∧ c ≠ '\\' ∧ 0x20 ≤ c.toNat

theorem escapeChar_plain {c : Char} (plain : c ≠ '"' ∧ c ≠ '\\' ∧ 0x20 ≤ c.toNat) : escapeChar c = [c] := by
  have control : ∀ d : Char, d.toNat < 0x20 → c ≠ d := by
    rintro d low rfl
    omega
  rw [escapeChar, if_neg plain.1, if_neg plain.2.1, if_neg (control _ (by decide)), if_neg (control _ (by decide)),
    if_neg (control _ (by decide)), if_neg (control _ (by decide)), if_neg (control _ (by decide)), if_neg (by omega)]

theorem escapeChar_escaped {c : Char} (escaped : ¬ (c ≠ '"' ∧ c ≠ '\\' ∧ 0x20 ≤ c.toNat)) :
    ∃ rest, escapeChar c = '\\' :: rest := by
  unfold escapeChar
  repeat' split
  all_goals first
    | exact ⟨_, rfl⟩
    | exact absurd ⟨by assumption, by assumption, by omega⟩ escaped

/-- What is read of the JSON of a string: the string itself, and only if nothing in it is escaped. -/
theorem borrowed_stringJson_iff {value intermediate : Text} :
    borrowed (stringJson value) = some intermediate ↔ intermediate = value ∧ Unescaped value := by
  show borrowedRest (value.flatMap escapeChar ++ ['"']) = some intermediate ↔ _
  induction value generalizing intermediate with
  | nil =>
    rw [List.flatMap_nil, List.nil_append, borrowedRest, if_pos rfl, if_pos rfl, Option.some_inj, eq_comm]
    exact (and_iff_left nofun).symm
  | cons c rest ih =>
    rw [List.flatMap_cons, List.append_assoc, Unescaped, List.forall_mem_cons, ← Unescaped]
    by_cases plain : c ≠ '"' ∧ c ≠ '\\' ∧ 0x20 ≤ c.toNat
    · have stays : ¬ (c = '\\' ∨ c.toNat < 0x20) := by
        rintro (backslash | low)
        · exact plain.2.1 backslash
        · omega
      rw [escapeChar_plain plain, List.singleton_append, borrowedRest, if_neg plain.1, if_neg stays,
        and_iff_right plain, Option.map_eq_some_iff]
      constructor
      · rintro ⟨inner, read, rfl⟩
        obtain ⟨rfl, unescaped⟩ := ih.mp read
        exact ⟨rfl, unescaped⟩
      · rintro ⟨rfl, unescaped⟩
        exact ⟨rest, ih.mpr ⟨rfl, unescaped⟩, rfl⟩
    · obtain ⟨more, escape⟩ := escapeChar_escaped plain
      have refused : borrowedRest ('\\' :: (more ++ (rest.flatMap escapeChar ++ ['"']))) = none := rfl
      rw [escape, List.cons_append, refused]
      exact iff_of_false nofun fun both => plain both.2.1

end Serde

section RoundTrip

variable {ipv6 : Ipv6} {others : Text → Text → Option Record} {uri : ResourceUri} {value : Text}

theorem scheme_name : SchemeName SCHEME := ⟨rfl, List.all_eq_true.mp rfl, rfl⟩

/-- The parts are as the parser of URLs leaves them: a canonical host with a port, segments without
characters that are encoded and other than dots, and an encoded query. -/
structure Canonical (ipv6 : Ipv6) (uri : ResourceUri) : Prop where
  address : ∃ host port, CanonicalAuthority ipv6 host port ∧ uri.kbsAddr = hostText host port
  segments : ∀ segment ∈ [uri.repository, uri.type, uri.tag], CanonicalSegment segment
  query : CanonicalQuery uri.query

/-- The address in a URL. -/
def urlAddr (url : Url) : Text :=
  match url.port with
  | some port =>
    if url.host.getD [] = [] then url.host.getD [] else url.host.getD [] ++ ':' :: (toString port).toList
  | none => url.host.getD []

/-- What `try_from` accepts of URLs, and what it makes of them. -/
theorem tryFromUrl_ok {url : Url} : ResourceUri.tryFromUrl url = .ok uri ↔
    url.scheme = SCHEME ∧ url.path ≠ [] ∧ ∃ repository type tag,
      (url.path.drop 1).splitOn '/' = [repository, type, tag] ∧
        uri = ⟨urlAddr url, repository, type, tag, url.query⟩ := by
  unfold ResourceUri.tryFromUrl
  dsimp only
  constructor
  · intro read
    split at read
    · cases read
    · rename_i scheme
      split at read
      · cases read
      · rename_i nonempty
        split at read
        · rename_i repository type tag parts
          cases read
          exact ⟨not_not.mp scheme, nonempty, repository, type, tag, parts, rfl⟩
        · cases read
  · rintro ⟨scheme, nonempty, repository, type, tag, parts, rfl⟩
    have read : ¬ url.scheme ≠ "kbs".toList := not_not.mpr scheme
    rw [if_neg read, if_neg nonempty, parts]
    rfl

theorem urlAddr_record {url : Record} (authority : CanonicalAuthority ipv6 (url.host.getD []) url.port) :
    urlAddr (Url.ofRecord url) = hostText (url.host.getD []) url.port := by
  obtain ⟨scheme, host, port, path, query⟩ := url
  cases port with
  | none => rfl
  | some number =>
    have nonempty : host.getD [] ≠ [] := fun empty => by cases authority.behind empty
    simp [urlAddr, Url.ofRecord, hostText, portText, nonempty]

/-- What `try_from` makes of a canonical record is canonical. -/
theorem tryFromUrl_canonical {url : Record} (canonical : CanonicalRecord ipv6 url)
    (read : ResourceUri.tryFromUrl (Url.ofRecord url) = .ok uri) : Canonical ipv6 uri := by
  obtain ⟨_, nonempty, repository, type, tag, parts, rfl⟩ := tryFromUrl_ok.mp read
  obtain empty | ⟨list, some_, path, segments⟩ := canonical.path
  · exact absurd empty nonempty
  · have split := splitOn_pathText some_ fun segment listed within => ((segments segment listed).2 _ within).2 rfl
    rw [← path] at split
    obtain rfl := split.symm.trans parts
    exact ⟨⟨_, _, canonical.authority, urlAddr_record canonical.authority⟩, segments, canonical.query⟩

theorem wholeUri_eq {host : Text} {port : Option Nat} (address : uri.kbsAddr = hostText host port) :
    uri.wholeUri = recordText SCHEME host port [uri.repository, uri.type, uri.tag] uri.query := by
  obtain ⟨kbsAddr, repository, type, tag, query⟩ := uri
  dsimp only at address
  rw [address, recordText]
  generalize hostText host port = address
  cases query <;> simp [ResourceUri.wholeUri, ResourceUri.resourcePath, SCHEME, pathText, queryText]

/-- A canonical URI comes back from its text. -/
theorem tryFrom_canonical (canonical : Canonical ipv6 uri) :
    ResourceUri.tryFrom (parseUrl ipv6 others) uri.wholeUri = .ok uri := by
  obtain ⟨host, port, authority, address⟩ := canonical.address
  have nonempty : [uri.repository, uri.type, uri.tag] ≠ [] := List.cons_ne_nil _ _
  have parts := splitOn_pathText nonempty fun segment listed within =>
    ((canonical.segments segment listed).2 _ within).2 rfl
  have some_ : pathText [uri.repository, uri.type, uri.tag] ≠ [] := List.cons_ne_nil _ _
  rw [ResourceUri.tryFrom, parseUrl, wholeUri_eq address,
    parse_recordText scheme_name authority nonempty canonical.segments canonical.query, Option.map_some]
  refine tryFromUrl_ok.mpr ⟨rfl, some_, _, _, _, parts, ?_⟩
  obtain ⟨kbsAddr, repository, type, tag, query⟩ := uri
  rw [urlAddr_record authority]
  dsimp only at address
  rw [address]
  rfl

theorem wholeUri_slashes (uri : ResourceUri) : ∃ rest, uri.wholeUri = SCHEME ++ "://".toList ++ rest := by
  obtain ⟨kbsAddr, repository, type, tag, query⟩ := uri
  cases query <;> exact ⟨_, rfl⟩

/-- A URI comes back from its text exactly if it is canonical. -/
theorem tryFrom_wholeUri_iff :
    ResourceUri.tryFrom (parseUrl ipv6 others) uri.wholeUri = .ok uri ↔ Canonical ipv6 uri := by
  constructor
  · intro read
    rw [ResourceUri.tryFrom] at read
    split at read
    · rename_i url parsed
      obtain ⟨record, isRecord, rfl⟩ := Option.map_eq_some_iff.mp parsed
      obtain ⟨rest, shape⟩ := wholeUri_slashes uri
      rw [shape, parse_slashes scheme_name] at isRecord
      exact tryFromUrl_canonical (parseRest_canonical isRecord) read
    · cases read
  · exact tryFrom_canonical

/-- The URI comes back from its text and from its JSON, and it has a URL. -/
structure RoundTrips (parse : Text → Option Url) (uri : ResourceUri) : Prop where
  text : ResourceUri.tryFrom parse uri.wholeUri = .ok uri
  json : ResourceUri.deserialize parse uri.serialize = .ok uri
  url : PanicFree (uri.toUrl parse)

theorem roundTrips_iff : RoundTrips (parseUrl ipv6 others) uri ↔ Canonical ipv6 uri ∧ Unescaped uri.wholeUri := by
  constructor
  · intro trips
    have canonical := tryFrom_wholeUri_iff.mp trips.text
    refine ⟨canonical, ?_⟩
    have json := trips.json
    rw [ResourceUri.deserialize, ResourceUri.serialize] at json
    cases read : borrowed (stringJson uri.wholeUri) with
    | none =>
      rw [read] at json
      cases json
    | some intermediate => exact (borrowed_stringJson_iff.mp read).2
  · rintro ⟨canonical, unescaped⟩
    have text : ResourceUri.tryFrom (parseUrl ipv6 others) uri.wholeUri = .ok uri := tryFrom_canonical canonical
    refine ⟨text, ?_, ?_⟩
    · rw [ResourceUri.deserialize, ResourceUri.serialize, borrowed_stringJson_iff.mpr ⟨rfl, unescaped⟩]
      exact text
    · cases parsed : parseUrl ipv6 others uri.wholeUri with
      | none =>
        rw [ResourceUri.tryFrom, parsed] at text
        cases text
      | some url =>
        rw [ResourceUri.toUrl, parsed]
        exact panicFree_ok url

end RoundTrip

section Grammar

variable {ipv6 : Ipv6} {others : Text → Text → Option Record} {value text : Text}

/-- The documented form: an address, three segments that are not empty, and perhaps a query. -/
def OfShape (value : Text) : Prop :=
  ∃ (addr repository type tag : Text) (query : Option Text),
    value = SCHEME ++ "://".toList ++ addr ++ pathText [repository, type, tag] ++ queryText query ∧
      (∀ c ∈ addr, endsAuthority c = false ∧ c ≠ '@') ∧
      (∀ segment ∈ [repository, type, tag], segment ≠ [] ∧ ∀ c ∈ segment, c ≠ '/' ∧ isTail c = false) ∧
      '#' ∉ query.getD []

/-- A path up to its end, and what is behind it: nothing, or a query or fragment. -/
structure CutPath (text path tail : Text) : Prop where
  whole : text = path ++ tail
  path : ∀ c ∈ path, isTail c = false
  tail : ∀ c, tail.head? = some c → isTail c = true

/-- The texts behind `kbs:` that are read as three segments. -/
inductive ReadsAsThree (ipv6 : Ipv6) : Text → Prop where
  /-- With an authority that is well formed. -/
  | authority {authority path text tail : Text} : (∀ c ∈ authority, endsAuthority c = false) →
      (parseAuthority ipv6 authority).isSome = true → CutPath text ('/' :: path) tail →
      (segments false path).length = 3 → ReadsAsThree ipv6 ('/' :: '/' :: (authority ++ text))
  /-- Without one, behind a single slash. -/
  | rooted {path text tail : Text} : text.head? ≠ some '/' → CutPath text path tail →
      (segments false path).length = 3 → ReadsAsThree ipv6 ('/' :: text)
  /-- Without a slash, whatever the first character is. -/
  | rootless {first : Char} {path text tail : Text} : first ≠ '/' → CutPath text (first :: path) tail →
      path.count '/' = 2 → ReadsAsThree ipv6 text

/-- The texts that are accepted: what is left of them without outer blanks, tabs and newlines has the scheme in
letters of either case, and is read as three segments. -/
def Accepted (ipv6 : Ipv6) (value : Text) : Prop :=
  ∃ rest, cutScheme (cleaned value) = some (SCHEME, rest) ∧ ReadsAsThree ipv6 rest

theorem cutPath_self (text : Text) :
    CutPath text (text.takeWhile fun c => !isTail c) (text.dropWhile fun c => !isTail c) where
  whole := List.takeWhile_append_dropWhile.symm
  path c within := by
    have all := List.all_takeWhile (l := text) (p := fun c => !isTail c)
    simpa using List.all_eq_true.mp all c within
  tail c first := by
    have stops := List.head?_dropWhile_not (fun c => !isTail c) text
    rw [first] at stops
    simpa using stops

theorem CutPath.cuts {path tail : Text} (cut : CutPath text path tail) :
    (text.takeWhile fun c => !isTail c) = path ∧ (text.dropWhile fun c => !isTail c) = tail := by
  rw [cut.whole]
  exact takeWhile_stop (fun c within => by rw [cut.path c within]; rfl) fun c first => by rw [cut.tail c first]; rfl

/-- The path of a URL has three parts behind its first character. -/
def ThreeParts (path : Text) : Prop := path ≠ [] ∧ ((path.drop 1).splitOn '/').length = 3

theorem tryFromUrl_accepts {url : Url} :
    (∃ uri, ResourceUri.tryFromUrl url = .ok uri) ↔ url.scheme = SCHEME ∧ ThreeParts url.path := by
  constructor
  · rintro ⟨uri, read⟩
    obtain ⟨scheme, nonempty, repository, type, tag, parts, _⟩ := tryFromUrl_ok.mp read
    exact ⟨scheme, nonempty, by rw [parts]; rfl⟩
  · rintro ⟨scheme, nonempty, three⟩
    obtain ⟨repository, type, tag, parts⟩ := List.length_eq_three.mp three
    exact ⟨_, tryFromUrl_ok.mpr ⟨scheme, nonempty, repository, type, tag, parts, rfl⟩⟩

theorem threeParts_pathText {list : List Text} (nonempty : list ≠ []) (clean : ∀ segment ∈ list, '/' ∉ segment) :
    ThreeParts (pathText list) ↔ list.length = 3 := by
  obtain ⟨first, more, rfl⟩ := List.exists_cons_of_ne_nil nonempty
  have some_ : pathText (first :: more) ≠ [] := List.cons_ne_nil _ _
  rw [ThreeParts, splitOn_pathText nonempty clean, and_iff_right some_]

/-- A path of segments, behind a slash. -/
theorem threeParts_parsePath {host : Option Text} {port : Option Nat} :
    ThreeParts (parsePath SCHEME host port text).path ↔
      ∃ path tail, CutPath text ('/' :: path) tail ∧ (segments false path).length = 3 := by
  have three (path : Text) : ThreeParts (pathText (segments false path)) ↔ (segments false path).length = 3 :=
    threeParts_pathText segments_ne_nil fun segment listed within =>
      ((segments_canonical segment listed).2 _ within).2 rfl
  rw [parsePath]
  dsimp only
  constructor
  · intro parts
    have self := cutPath_self text
    unfold pathOf at parts
    split at parts
    · rename_i path same
      rw [same] at self
      exact ⟨path, _, self, (three path).mp parts⟩
    · exact absurd rfl parts.1
  · rintro ⟨path, tail, cut, length⟩
    rw [cut.cuts.1, pathOf]
    exact (three path).mpr length

theorem slash_kept : c0Control '/' = false ∧ '/' ∉ written := by
  decide

/-- An opaque path, whose first character is none of its slashes. -/
theorem threeParts_parseOpaque (rootless : text.head? ≠ some '/') : ThreeParts (parseOpaque SCHEME text).path ↔
    ∃ first path tail, first ≠ '/' ∧ CutPath text (first :: path) tail ∧ path.count '/' = 2 := by
  have three (first : Char) (path : Text) (other : first ≠ '/') :
      ThreeParts (encode c0Control (first :: path)) ↔ path.count '/' = 2 := by
    obtain ⟨next, more, shape⟩ := List.exists_cons_of_ne_nil (@Percent.encodeChar_ne_nil c0Control first)
    have apart : (next :: more).count '/' = 0 := by
      have kept := @Percent.count_encode c0Control [first] '/' slash_kept.1 slash_kept.2
      rw [encode, List.flatMap_singleton, shape] at kept
      rw [kept, List.count_eq_zero_of_not_mem (by simpa using other.symm)]
    have whole : encode c0Control (first :: path) = next :: (more ++ encode c0Control path) := by
      rw [encode, List.flatMap_cons, ← encode, shape, List.cons_append]
    have rest : (more ++ encode c0Control path).count '/' = path.count '/' := by
      rw [List.count_append, Percent.count_encode slash_kept.1 slash_kept.2]
      rw [List.count_cons] at apart
      omega
    rw [whole, ThreeParts, List.drop_one, List.tail_cons, length_splitOn, rest, and_iff_right (List.cons_ne_nil _ _)]
    omega
  rw [parseOpaque]
  dsimp only
  constructor
  · intro parts
    have self := cutPath_self text
    cases taken : text.takeWhile fun c => !isTail c with
    | nil =>
      rw [taken] at parts
      exact absurd rfl parts.1
    | cons first path =>
      rw [taken] at self parts
      have other : first ≠ '/' := by
        rintro rfl
        exact rootless (by rw [self.whole]; rfl)
      exact ⟨first, path, _, other, self, (three first path other).mp parts⟩
  · rintro ⟨first, path, tail, other, cut, count⟩
    rw [cut.cuts.1]
    exact (three first path other).mpr count

/-- What is read as three segments behind the scheme. -/
theorem parseRest_accepts :
    (∃ url, parseRest ipv6 SCHEME text = some url ∧ ThreeParts url.path) ↔ ReadsAsThree ipv6 text := by
  constructor
  · rintro ⟨url, parsed, three⟩
    unfold parseRest at parsed
    split at parsed
    · rename_i rest
      obtain ⟨⟨host, port⟩, wellFormed, rfl⟩ := Option.map_eq_some_iff.mp parsed
      obtain ⟨path, tail, cut, length⟩ := threeParts_parsePath.mp three
      have authority : ∀ c ∈ rest.takeWhile fun c => !endsAuthority c, endsAuthority c = false := by
        intro c within
        have all := List.all_takeWhile (l := rest) (p := fun c => !endsAuthority c)
        simpa using List.all_eq_true.mp all c within
      have reads := ReadsAsThree.authority authority (Option.isSome_iff_exists.mpr ⟨_, wellFormed⟩) cut length
      rw [List.takeWhile_append_dropWhile] at reads
      exact reads
    · rename_i rest single
      cases parsed
      obtain ⟨path, tail, cut, length⟩ := threeParts_parsePath.mp three
      have behind : rest.head? ≠ some '/' := by
        intro slash
        obtain ⟨more, rfl⟩ := List.head?_eq_some_iff.mp slash
        exact single more rfl
      have whole := cut.whole
      rw [List.cons_append, List.cons.injEq, and_iff_right rfl] at whole
      exact .rooted behind ⟨whole, fun c within => cut.path c (List.mem_cons_of_mem _ within), cut.tail⟩ length
    · rename_i rootless
      cases parsed
      have behind : text.head? ≠ some '/' := by
        intro slash
        obtain ⟨more, rfl⟩ := List.head?_eq_some_iff.mp slash
        exact rootless more rfl
      obtain ⟨first, path, tail, other, cut, count⟩ := (threeParts_parseOpaque behind).mp three
      exact .rootless other cut count
  · intro reads
    cases reads with
    | @authority authority path text tail clean wellFormed cut length =>
      obtain ⟨⟨host, port⟩, parsed⟩ := Option.isSome_iff_exists.mp wellFormed
      have begins : ∀ c, text.head? = some c → endsAuthority c = true := by
        rw [cut.whole]
        rintro c ⟨⟩
        rfl
      rw [parseRest_authority clean begins, parsed]
      exact ⟨_, rfl, threeParts_parsePath.mpr ⟨path, tail, cut, length⟩⟩
    | @rooted path text tail behind cut length =>
      have single : parseRest ipv6 SCHEME ('/' :: text) = some (parsePath SCHEME none none ('/' :: text)) := by
        cases text with
        | nil => rfl
        | cons c rest =>
          rw [parseRest]
          rintro more ⟨⟩
          exact behind rfl
      have whole : CutPath ('/' :: text) ('/' :: path) tail :=
        ⟨by rw [cut.whole]; rfl, List.forall_mem_cons.mpr ⟨rfl, cut.path⟩, cut.tail⟩
      exact ⟨_, single, threeParts_parsePath.mpr ⟨path, tail, whole, length⟩⟩
    | @rootless first path text tail other cut count =>
      have behind : text.head? ≠ some '/' := by
        rw [cut.whole]
        rintro ⟨⟩
        exact other rfl
      have opaqueRest : parseRest ipv6 SCHEME text = some (parseOpaque SCHEME text) := by
        rw [parseRest]
        · rintro rest rfl
          exact behind rfl
        · rintro rest rfl
          exact behind rfl
      exact ⟨_, opaqueRest, (threeParts_parseOpaque behind).mpr ⟨first, path, tail, other, cut, count⟩⟩

/-- The texts that `try_from` accepts. -/
theorem accepted_iff : (∃ uri, ResourceUri.tryFrom (parseUrl ipv6 others) value = .ok uri) ↔
    Accepted ipv6 value := by
  have read : (∃ uri, ResourceUri.tryFrom (parseUrl ipv6 others) value = .ok uri) ↔
      ∃ record, Lib.Url.parse ipv6 SCHEME others value = some record ∧ record.scheme = SCHEME ∧
        ThreeParts record.path := by
    rw [ResourceUri.tryFrom, parseUrl]
    cases Lib.Url.parse ipv6 SCHEME others value with
    | none =>
      refine iff_of_false ?_ ?_
      · rintro ⟨_, read⟩
        cases read
      · rintro ⟨_, parsed, _⟩
        cases parsed
    | some record =>
      rw [Option.map_some, tryFromUrl_accepts]
      exact ⟨fun accepts => ⟨record, rfl, accepts⟩, by rintro ⟨_, ⟨⟩, accepts⟩; exact accepts⟩
  rw [read, Accepted, Lib.Url.parse]
  cases cutScheme (cleaned value) with
  | none =>
    refine iff_of_false ?_ ?_
    · rintro ⟨_, parsed, _⟩
      cases parsed
    · rintro ⟨_, cut, _⟩
      cases cut
  | some both =>
    obtain ⟨name, rest⟩ := both
    dsimp only
    by_cases same : name = SCHEME
    · rw [if_pos same]
      obtain rfl := same
      have accepts := @parseRest_accepts ipv6 rest
      constructor
      · rintro ⟨record, parsed, _, three⟩
        exact ⟨rest, rfl, accepts.mp ⟨record, parsed, three⟩⟩
      · rintro ⟨more, ⟨⟩, reads⟩
        obtain ⟨record, parsed, three⟩ := accepts.mpr reads
        exact ⟨record, parsed, parseRest_scheme parsed, three⟩
    · rw [if_neg same]
      refine iff_of_false ?_ ?_
      · rintro ⟨record, parsed, scheme, _⟩
        obtain ⟨url, _, rfl⟩ := Option.map_eq_some_iff.mp parsed
        exact same scheme
      · rintro ⟨other, ⟨⟩, _⟩
        exact same rfl

end Grammar

/-- When a URI comes back from its text and its JSON, and which texts of another form are accepted. -/
theorem resource_uri_iff (ipv6 : Ipv6) (others : Text → Text → Option Record) :
    (∀ uri, RoundTrips (parseUrl ipv6 others) uri ↔ Canonical ipv6 uri ∧ Unescaped uri.wholeUri) ∧
    ∀ value, ((∃ uri, ResourceUri.tryFrom (parseUrl ipv6 others) value = .ok uri) → OfShape value) ↔
      (OfShape value ∨ ¬ Accepted ipv6 value) := by
  refine ⟨fun uri => roundTrips_iff, fun value => ?_⟩
  rw [accepted_iff, imp_iff_not_or, or_comm]

section Failures

def noIpv6 : Ipv6 := ⟨fun _ => none, nofun, nofun⟩

def onlyKbs : Text → Option Url := parseUrl noIpv6 fun _ _ => none

def queryInTag : ResourceUri := ⟨[], ['a'], ['b'], "c?d".toList, none⟩

/-- `new` puts a question mark into a tag, and it comes back as a query; and of a text without slashes behind the
scheme the first character is dropped. -/
theorem uri_does_not_return :
    (ResourceUri.new onlyKbs [] "/a/b/c?d".toList = .ok queryInTag ∧ ¬ RoundTrips onlyKbs queryInTag) ∧
    (∃ uri, ResourceUri.tryFrom onlyKbs "kbs:xa/b/c".toList = .ok uri) ∧ ¬ OfShape "kbs:xa/b/c".toList := by
  refine ⟨⟨rfl, fun trips => ?_⟩, ⟨⟨[], ['a'], ['b'], ['c'], none⟩, rfl⟩, ?_⟩
  · have canonical := (roundTrips_iff.mp trips).1
    have tag : CanonicalSegment "c?d".toList := canonical.segments _ (by decide)
    exact absurd (tag.2 '?' (by decide)).1 (by decide)
  · rintro ⟨addr, repository, type, tag, query, shape, _⟩
    cases shape

end Failures

end GuestComponents.KbsProtocol
