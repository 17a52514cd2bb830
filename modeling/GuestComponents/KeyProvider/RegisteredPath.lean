import GuestComponents.KeyProvider.GuestUnwrapping
import GuestComponents.KbsProtocol.UriRoundTrip

/-! The path under which a key is registered, and the resource that the guest asks for. The key provider
sets the path of an HTTP URL to the text of the key path; the guest parses the key id of the annotation
as a URL of the scheme `kbs`. Both encode and resolve what they read, but only the second ends the
path at a query, and only for the first a backslash ends a segment. `samePath_iff` says when
they meet. -/
namespace GuestComponents.KeyProvider
open Lib Lib.Text Lib.Url KbsProtocol
open Lib.Percent (encode pathSet written)

/-- A KBS at an HTTP URL, whose paths are set by the URL standard. -/
structure HttpKbs extends Kbs where
  path : Url → Text
  path_setPath : ∀ url text, path (setPath url text) = Lib.Url.setPath text

/-- The URL that a key is posted to. -/
def Kbs.registeredUrl (kbs : Kbs) (kbsAddr : kbs.Url) (kid : Text) : kbs.Url :=
  kbs.setPath kbsAddr (KBS_URL_PATH_PREFIX ++ '/' :: stripPrefixOr ['/'] kid)

/-- The key id of an annotation (`encOptsdata_ok`). -/
def annotationKid (kbsAddr kPath : Text) : Text := KBS_RESOURCE_URL_PREFIX ++ kbsAddr ++ '/' :: kPath

/-- The guest reads a resource in the annotation's key id, and the key is registered under its path. -/
def SamePath (kbs : HttpKbs) (addr : kbs.Url) (ipv6 : Ipv6) (others : Text → Text → Option Record)
    (kbsAddr kPath : Text) : Prop :=
  ∃ uri, ResourceUri.tryFrom (parseUrl ipv6 others) (annotationKid kbsAddr kPath) = .ok uri ∧
    kbs.path (kbs.registeredUrl addr kPath) = '/' :: KBS_URL_PATH_PREFIX ++ '/' :: uri.resourcePath

/-- The segment of a URL that a part of a key path becomes. -/
def segmentOf (part : Text) : Text := encode pathSet (withoutNewlines part)

/-- The part of a tag that the guest reads as one. -/
def readTag (tag : Text) : Text := (withoutNewlines (dropEnd tag)).takeWhile fun c => !isTail c

/-- The resource that the guest asks for. -/
def guestSegments (repository type tag : Text) : List Text :=
  [segmentOf repository, segmentOf type, lastSegment (encode pathSet (readTag tag))]

/-- The key ids that the guest reads as a resource. -/
structure Readable (ipv6 : Ipv6) (kbsAddr repository type tag : Text) : Prop where
  ends : ∀ c ∈ kbsAddr, isTail c = false
  authority : (parseAuthority ipv6 (withoutNewlines kbsAddr)).isSome = true
  segments : ∀ part ∈ [repository, type], (∀ c ∈ part, isTail c = false) ∧ isDots (segmentOf part) = false
  tag : doubleDot (encode pathSet (readTag tag)) = false

/-- The key paths that are registered as they are read: they have a repository, no backslash, and at the
end of the tag nothing that the guest leaves out. -/
structure Kept (repository type tag : Text) : Prop where
  nonempty : repository ≠ []
  backslash : ∀ part ∈ [repository, type, tag], '\\' ∉ part
  tail : ∀ c ∈ tag, isTail c = false
  blanks : withoutNewlines (dropEnd tag) = withoutNewlines tag

def PREFIX_SEGMENTS : List Text := ["kbs".toList, "v0".toList, "resource".toList]

/-- What the tag stands behind where the key is registered: an empty repository is stripped. -/
def registeredFront (repository type : Text) : List Text :=
  (if repository = [] then [type] else [repository, type]).map segmentOf

/-- The segments of a tag in an HTTP URL. -/
def tagSegments (tag : Text) : List Text :=
  ((withoutNewlines tag).splitOnP (isSeparator true)).map (encode pathSet)

/-- A backslash behind the end of the path that the guest reads, where dot segments undo what they stand in. -/
structure Undone (repository type tag : Text) : Prop where
  clean : ∀ part ∈ [repository, type, readTag tag], '\\' ∉ part
  backslash : '\\' ∈ tag
  back : resolve (PREFIX_SEGMENTS ++ registeredFront repository type) (tagSegments tag) =
    PREFIX_SEGMENTS ++ guestSegments repository type tag

/-- The key is registered under the path that the guest asks for. -/
def KeepsPath (ipv6 : Ipv6) (kbsAddr kPath : Text) : Prop :=
  ∃ repository type tag, kPath.splitOn '/' = [repository, type, tag] ∧
    Readable ipv6 kbsAddr repository type tag ∧ (Kept repository type tag ∨ Undone repository type tag)

section Parts

theorem count_takeWhile {p : Char → Bool} {text : Text} (noSlash : '/' ∉ text) : (text.takeWhile p).count '/' = 0 :=
  List.count_eq_zero_of_not_mem fun within => noSlash ((List.takeWhile_sublist p).subset within)

/-- Three parts, as they stand in a path. -/
theorem segments_cut {first second third : Text} (noSlash : '/' ∉ first ∧ '/' ∉ second ∧ '/' ∉ third)
    {r t g : Text} :
    segments false ((first ++ '/' :: second ++ '/' :: third).takeWhile fun c => !isTail c) = [r, t, g] ↔
      (∀ part ∈ [first, second], (∀ c ∈ part, isTail c = false) ∧ isDots (encode pathSet part) = false) ∧
        doubleDot (encode pathSet (third.takeWhile fun c => !isTail c)) = false ∧
        [r, t, g] = [encode pathSet first, encode pathSet second,
          lastSegment (encode pathSet (third.takeWhile fun c => !isTail c))] := by
  have few {text : Text} (short : text.count '/' < 2) : segments false text ≠ [r, t, g] := by
    intro same
    have bound := segments_length_le text
    rw [same, List.length_cons, List.length_cons, List.length_singleton] at bound
    omega
  have through {part : Text} (clean : ∀ c ∈ part, isTail c = false) : ∀ c ∈ part, (!isTail c) = true := by
    intro c within
    rw [clean c within]
    rfl
  have inside {part : Text} (ends : ¬ ∀ c ∈ part, isTail c = false) : ¬ ∀ c ∈ part, (!isTail c) = true :=
    fun all => ends fun c within => by simpa using all c within
  rw [List.append_assoc]
  by_cases one : ∀ c ∈ first, isTail c = false
  · rw [List.takeWhile_append_of_pos (through one), List.cons_append, List.takeWhile_cons_of_pos rfl]
    by_cases two : ∀ c ∈ second, isTail c = false
    · have cut : segments false (first ++ '/' :: (second ++ '/' :: third).takeWhile fun c => !isTail c) =
          resolve [] [encode pathSet first, encode pathSet second,
            encode pathSet (third.takeWhile fun c => !isTail c)] := by
        have apart {part : Text} (noSlash : '/' ∉ part) : ∀ c ∈ part, isSeparator false c = false := by
          intro c within
          rw [separator_false, beq_eq_false_iff_ne]
          rintro rfl
          exact noSlash within
        have last : '/' ∉ third.takeWhile fun c => !isTail c := fun within =>
          noSlash.2.2 ((List.takeWhile_sublist _).subset within)
        rw [List.takeWhile_append_of_pos (through two), List.takeWhile_cons_of_pos rfl, segments,
          List.splitOnP_append_cons_of_forall_mem (apart noSlash.1) _ rfl,
          List.splitOnP_append_cons_of_forall_mem (apart noSlash.2.1) _ rfl, List.splitOnP_eq_singleton (apart last)]
        rfl
      rw [cut, resolve_three]
      simp only [List.forall_mem_cons, and_assoc]
      constructor
      · rintro ⟨x, y, z, same⟩
        exact ⟨one, x, two, y, List.forall_mem_nil _, z, same⟩
      · rintro ⟨_, x, _, y, _, z, same⟩
        exact ⟨x, y, z, same⟩
    · refine iff_of_false (few ?_) fun both => two (both.1 second (by simp)).1
      rw [takeWhile_inside (inside two), List.count_append, List.count_cons_self,
        List.count_eq_zero_of_not_mem noSlash.1, count_takeWhile noSlash.2.1]
      omega
  · refine iff_of_false (few ?_) fun both => one (both.1 first (by simp)).1
    rw [takeWhile_inside (inside one), count_takeWhile noSlash.1]
    omega

end Parts

section Guest

variable {ipv6 : Ipv6} {others : Text → Text → Option Record} {kbsAddr repository type tag : Text}

theorem parse_annotationKid : Lib.Url.parse ipv6 SCHEME others
      (annotationKid kbsAddr (repository ++ '/' :: type ++ '/' :: tag)) =
    parseRest ipv6 SCHEME ('/' :: '/' :: (withoutNewlines kbsAddr ++ '/' :: (withoutNewlines repository ++
      '/' :: withoutNewlines type ++ '/' :: withoutNewlines (dropEnd tag)))) := by
  have shape : annotationKid kbsAddr (repository ++ '/' :: type ++ '/' :: tag) =
      SCHEME ++ "://".toList ++ ((kbsAddr ++ '/' :: repository ++ '/' :: type) ++ '/' :: tag) := by
    have same : KBS_RESOURCE_URL_PREFIX = SCHEME ++ "://".toList := rfl
    rw [annotationKid, same]
    simp only [List.append_assoc, List.cons_append]
  rw [shape, parse_slashes scheme_name, dropEnd_append_cons slash_visible]
  simp only [withoutNewlines_append, withoutNewlines_cons (tabOrNewline_of_visible slash_visible), List.append_assoc,
    List.cons_append]

/-- A query or a fragment in the address leaves no path. -/
theorem parseRest_ended {address rest : Text} {record : Record} (noSlash : '/' ∉ address)
    (ended : ¬ ∀ c ∈ address, isTail c = false)
    (parsed : parseRest ipv6 SCHEME ('/' :: '/' :: (address ++ rest)) = some record) : record.path = [] := by
  have cut := cutPath_self address
  generalize (address.takeWhile fun c => !isTail c) = front at cut
  generalize (address.dropWhile fun c => !isTail c) = tail at cut
  have free : ∀ c ∈ front, endsAuthority c = false := by
    intro c within
    have slash : c ≠ '/' := by
      rintro rfl
      exact noSlash (by rw [cut.whole]; exact List.mem_append_left _ within)
    rw [endsAuthority, cut.path c within, beq_eq_false_iff_ne.mpr slash]
    rfl
  cases tail with
  | nil =>
    refine absurd ?_ ended
    rw [cut.whole, List.append_nil]
    exact cut.path
  | cons first more =>
    have isEnd : isTail first = true := cut.tail first rfl
    have begins : ∀ c, (first :: more ++ rest).head? = some c → endsAuthority c = true := by
      rintro c ⟨⟩
      rw [endsAuthority, isEnd, Bool.or_true]
    rw [cut.whole, List.append_assoc, parseRest_authority free begins] at parsed
    obtain ⟨both, _, rfl⟩ := Option.map_eq_some_iff.mp parsed
    show pathOf ((first :: (more ++ rest)).takeWhile fun c => !isTail c) = []
    rw [List.takeWhile_cons_of_neg (by rw [isEnd]; decide)]
    rfl

/-- What `try_from` makes of a URL with this path. -/
theorem tryFromUrl_segments {host : Option Text} {port : Option Nat} {text : Text} {list : List Text} :
    (∃ uri, ResourceUri.tryFromUrl (Url.ofRecord (parsePath SCHEME host port ('/' :: text))) = .ok uri ∧
        [uri.repository, uri.type, uri.tag] = list) ↔
      ∃ r t g, segments false (text.takeWhile fun c => !isTail c) = [r, t, g] ∧ [r, t, g] = list := by
  have path : (Url.ofRecord (parsePath SCHEME host port ('/' :: text))).path =
      pathText (segments false (text.takeWhile fun c => !isTail c)) := rfl
  have parts : ((pathText (segments false (text.takeWhile fun c => !isTail c))).drop 1).splitOn '/' =
      segments false (text.takeWhile fun c => !isTail c) :=
    splitOn_pathText segments_ne_nil fun segment listed within => ((segments_canonical segment listed).2 _ within).2 rfl
  constructor
  · rintro ⟨uri, read, same⟩
    obtain ⟨_, _, r, t, g, split, rfl⟩ := tryFromUrl_ok.mp read
    rw [path, parts] at split
    exact ⟨r, t, g, split, same⟩
  · rintro ⟨r, t, g, split, same⟩
    refine ⟨_, tryFromUrl_ok.mpr ⟨rfl, ?_, r, t, g, ?_, rfl⟩, same⟩
    · rw [path, split]
      exact List.cons_ne_nil _ _
    · rw [path, parts, split]

/-- The resource that the guest reads in a key id of an annotation. -/
theorem annotationKid_read (noSlash : ∀ part ∈ [kbsAddr, repository, type, tag], '/' ∉ part) {list : List Text} :
    (∃ uri, ResourceUri.tryFrom (parseUrl ipv6 others)
      (annotationKid kbsAddr (repository ++ '/' :: type ++ '/' :: tag)) =
        .ok uri ∧ [uri.repository, uri.type, uri.tag] = list) ↔
      Readable ipv6 kbsAddr repository type tag ∧ list = guestSegments repository type tag := by
  have clean {part : Text} (noSlash : '/' ∉ part) : '/' ∉ withoutNewlines part := fun within =>
    noSlash ((mem_withoutNewlines rfl).mp within)
  obtain ⟨addrFree, repositoryFree, typeFree, tagFree⟩ : '/' ∉ kbsAddr ∧ '/' ∉ repository ∧
    '/' ∉ type ∧ '/' ∉ tag := by
    simpa using noSlash
  have free : '/' ∉ withoutNewlines repository ∧ '/' ∉ withoutNewlines type ∧
      '/' ∉ withoutNewlines (dropEnd tag) :=
    ⟨clean repositoryFree, clean typeFree, clean fun within => tagFree (mem_of_dropEnd within)⟩
  rw [ResourceUri.tryFrom, parseUrl, parse_annotationKid]
  by_cases ends : ∀ c ∈ kbsAddr, isTail c = false
  · have within : ∀ c ∈ withoutNewlines kbsAddr, endsAuthority c = false := by
      intro c listed
      have slash : c ≠ '/' := by
        rintro rfl
        exact clean addrFree listed
      rw [endsAuthority, tails_withoutNewlines.mpr ends c listed, beq_eq_false_iff_ne.mpr slash]
      rfl
    rw [parseRest_authority within (by rintro c ⟨⟩; rfl)]
    cases authority : parseAuthority ipv6 (withoutNewlines kbsAddr) with
    | none =>
      refine iff_of_false ?_ fun both => ?_
      · rintro ⟨_, read, _⟩
        cases read
      · have some_ := both.1.authority
        rw [authority] at some_
        cases some_
    | some both =>
      obtain ⟨host, port⟩ := both
      rw [Option.map_some, Option.map_some]
      dsimp only
      rw [tryFromUrl_segments]
      simp only [segments_cut free]
      constructor
      · rintro ⟨r, t, g, ⟨parts, last, same⟩, rfl⟩
        refine ⟨⟨ends, by rw [authority]; rfl, ?_, last⟩, same⟩
        have first := parts _ List.mem_cons_self
        have second := parts _ (List.mem_cons_of_mem _ List.mem_cons_self)
        simp only [List.forall_mem_cons]
        exact ⟨⟨tails_withoutNewlines.mp first.1, first.2⟩, ⟨tails_withoutNewlines.mp second.1, second.2⟩,
          List.forall_mem_nil _⟩
      · rintro ⟨readable, rfl⟩
        refine ⟨_, _, _, ⟨?_, readable.tag, rfl⟩, rfl⟩
        have first := readable.segments repository (by simp)
        have second := readable.segments type (by simp)
        simp only [List.forall_mem_cons]
        exact ⟨⟨tails_withoutNewlines.mpr first.1, first.2⟩, ⟨tails_withoutNewlines.mpr second.1, second.2⟩,
          List.forall_mem_nil _⟩
  · refine iff_of_false ?_ fun both => ends both.1.ends
    rintro ⟨uri, read, _⟩
    split at read
    · rename_i url parsed
      obtain ⟨record, isRecord, rfl⟩ := Option.map_eq_some_iff.mp parsed
      have empty := parseRest_ended (clean addrFree) (fun all => ends (tails_withoutNewlines.mp all)) isRecord
      exact (tryFromUrl_ok.mp read).2.1 empty
    · cases read

end Guest

section Registered

variable {repository type tag : Text}

theorem prefix_plain : ∀ segment ∈ PREFIX_SEGMENTS, isDots segment = false := by
  simp only [PREFIX_SEGMENTS, List.forall_mem_cons]
  exact ⟨rfl, rfl, rfl, nofun⟩

theorem tagSegments_ne_nil (tag : Text) : tagSegments tag ≠ [] := by
  rw [tagSegments, Ne, List.map_eq_nil_iff]
  exact List.splitOnP_ne_nil _ _

/-- The segments of an HTTP path behind the prefix of the KBS. -/
theorem setPath_prefix (text : Text) : Lib.Url.setPath (KBS_URL_PATH_PREFIX ++ '/' :: text) =
    pathText (resolve PREFIX_SEGMENTS (tagSegments text)) := by
  have visible : withoutNewlines KBS_URL_PATH_PREFIX = KBS_URL_PATH_PREFIX := rfl
  have parts : (KBS_URL_PATH_PREFIX ++ '/' :: withoutNewlines text).splitOnP (isSeparator true) =
      PREFIX_SEGMENTS ++ (withoutNewlines text).splitOnP (isSeparator true) := by
    have cut {part rest : Text} (clean : part.any (isSeparator true) = false) :
        (part ++ '/' :: rest).splitOnP (isSeparator true) = part :: rest.splitOnP (isSeparator true) :=
      List.splitOnP_append_cons_of_forall_mem (Percent.clean_of_any clean) _ rfl _
    have shape : KBS_URL_PATH_PREFIX ++ '/' :: withoutNewlines text =
        "kbs".toList ++ '/' :: ("v0".toList ++ '/' :: ("resource".toList ++ '/' :: withoutNewlines text)) := rfl
    rw [shape, cut rfl, cut rfl, cut rfl]
    rfl
  have same : PREFIX_SEGMENTS.map (encode pathSet) = PREFIX_SEGMENTS := rfl
  have whole : Lib.Url.setPath (KBS_URL_PATH_PREFIX ++ '/' :: text) =
      pathText (segments true (KBS_URL_PATH_PREFIX ++ '/' :: withoutNewlines text)) := by
    rw [Lib.Url.setPath, withoutNewlines_append, visible, withoutNewlines_cons rfl]
    rfl
  rw [whole, segments, parts, List.map_append, same, ← tagSegments,
    resolve_front prefix_plain (tagSegments_ne_nil text), List.nil_append]

theorem stripPrefixOr_kPath (noSlash : '/' ∉ repository) :
    stripPrefixOr ['/'] (repository ++ '/' :: type ++ '/' :: tag) =
      if repository = [] then type ++ '/' :: tag else repository ++ '/' :: type ++ '/' :: tag := by
  cases repository with
  | nil => rfl
  | cons c rest =>
    have other : c ≠ '/' := by
      rintro rfl
      exact noSlash List.mem_cons_self
    rw [stripPrefixOr, if_neg, if_neg (List.cons_ne_nil c rest)]
    simp [other.symm]

theorem tagSegments_part {part rest : Text} (slash : '/' ∉ part) (backslash : '\\' ∉ part) :
    tagSegments (part ++ '/' :: rest) = segmentOf part :: tagSegments rest := by
  have clean : ∀ c ∈ withoutNewlines part, isSeparator true c = false := by
    intro c within
    have member : c ∈ part := List.mem_of_mem_filter within
    exact isSeparator_eq_false (fun same => slash (same ▸ member)) fun same => backslash (same ▸ member)
  rw [tagSegments, withoutNewlines_append, withoutNewlines_cons rfl,
    List.splitOnP_append_cons_of_forall_mem clean _ rfl, List.map_cons, ← segmentOf, ← tagSegments]

/-- A tag without separators is one segment. -/
theorem tagSegments_tag (slash : '/' ∉ tag) (backslash : '\\' ∉ tag) : tagSegments tag = [segmentOf tag] := by
  have clean : ∀ c ∈ withoutNewlines tag, isSeparator true c = false := by
    intro c within
    have member : c ∈ tag := List.mem_of_mem_filter within
    exact isSeparator_eq_false (fun same => slash (same ▸ member)) fun same => backslash (same ▸ member)
  rw [tagSegments, List.splitOnP_eq_singleton clean]
  rfl

/-- The repository and the type stand in the registered path as they are. -/
theorem registered_front (slash : ∀ part ∈ [repository, type], '/' ∉ part)
    (backslash : ∀ part ∈ [repository, type], '\\' ∉ part)
    (plain : ∀ part ∈ [repository, type], isDots (segmentOf part) = false) :
    resolve PREFIX_SEGMENTS (tagSegments (stripPrefixOr ['/'] (repository ++ '/' :: type ++ '/' :: tag))) =
      resolve (PREFIX_SEGMENTS ++ registeredFront repository type) (tagSegments tag) := by
  simp only [List.forall_mem_cons] at slash backslash plain
  have front : tagSegments (stripPrefixOr ['/'] (repository ++ '/' :: type ++ '/' :: tag)) =
      registeredFront repository type ++ tagSegments tag := by
    rw [stripPrefixOr_kPath slash.1, registeredFront]
    split
    · rw [tagSegments_part slash.2.1 backslash.2.1]
      rfl
    · rw [List.append_assoc, List.cons_append, tagSegments_part slash.1 backslash.1,
        tagSegments_part slash.2.1 backslash.2.1]
      rfl
  rw [front, resolve_front _ (tagSegments_ne_nil tag)]
  intro segment listed
  rw [registeredFront] at listed
  split at listed
  · simp only [List.map_cons, List.map_nil, List.mem_singleton] at listed
    rw [listed]
    exact plain.2.1
  · simp only [List.map_cons, List.map_nil, List.mem_cons, List.not_mem_nil, or_false] at listed
    rcases listed with rfl | rfl
    · exact plain.1
    · exact plain.2.1

theorem prefix_clean : ∀ segment ∈ PREFIX_SEGMENTS, '/' ∉ segment ∧ '\\' ∉ segment := by
  have all : PREFIX_SEGMENTS.all fun segment => !segment.contains '/' && !segment.contains '\\' := rfl
  intro segment listed
  simpa using List.all_eq_true.mp all segment listed

/-- No separator is left where the key is registered. -/
theorem registered_clean {text segment : Text} (listed : segment ∈ resolve PREFIX_SEGMENTS (tagSegments text)) :
    '/' ∉ segment ∧ '\\' ∉ segment := by
  rcases mem_resolve listed with before | rfl | ⟨among, _⟩
  · exact prefix_clean segment before
  · exact ⟨List.not_mem_nil, List.not_mem_nil⟩
  · exact ⟨separator_clean (by decide) rfl among, separator_clean (by decide) rfl among⟩

/-- No slash is in what the guest asks for. -/
theorem guestSegments_clean (slash : ∀ part ∈ [repository, type, tag], '/' ∉ part) :
    ∀ segment ∈ guestSegments repository type tag, '/' ∉ segment := by
  have other : '/' ∉ written := by decide
  have segment {part : Text} (noSlash : '/' ∉ part) : '/' ∉ segmentOf part :=
    Percent.notMem_encode (fun within => noSlash (List.mem_of_mem_filter within)) other
  have last : '/' ∉ lastSegment (encode pathSet (readTag tag)) := by
    have read : '/' ∉ readTag tag := fun within => slash tag (by simp)
      (mem_of_dropEnd (List.mem_of_mem_filter ((List.takeWhile_sublist _).subset within)))
    rw [lastSegment]
    split
    · exact List.not_mem_nil
    · exact Percent.notMem_encode read other
  simp only [guestSegments, List.forall_mem_cons]
  exact ⟨segment (slash repository (by simp)), segment (slash type (by simp)), last, List.forall_mem_nil _⟩

theorem mem_segmentOf {part : Text} : '\\' ∈ segmentOf part ↔ '\\' ∈ part := by
  rw [segmentOf, Percent.mem_encode_iff rfl (by decide), mem_withoutNewlines rfl]

theorem mem_encode {text : Text} : '\\' ∈ encode pathSet text ↔ '\\' ∈ text :=
  Percent.mem_encode_iff rfl (by decide)

theorem mem_lastSegment {segment : Text} : '\\' ∈ lastSegment segment ↔ '\\' ∈ segment := by
  rw [lastSegment]
  split
  · rename_i single
    refine iff_of_false List.not_mem_nil fun within => ?_
    simp only [singleDot, Bool.or_eq_true, beq_iff_eq] at single
    rcases single with rfl | lower
    · exact absurd within (by decide)
    · have kept : '\\' ∈ segment.map Char.toLower := List.mem_map_of_mem within
      rw [lower] at kept
      exact absurd kept (by decide)
  · exact Iff.rfl

/-- What is left of a tag behind the part that the guest reads: it begins with the end of a path, or
with a blank. -/
theorem readTag_rest (tag : Text) : ∃ rest, withoutNewlines tag = readTag tag ++ rest ∧
    (∀ c, rest.head? = some c → isTail c = true ∨ c0OrSpace c = true) ∧
    (rest = [] ↔ (∀ c ∈ tag, isTail c = false) ∧ withoutNewlines (dropEnd tag) = withoutNewlines tag) := by
  obtain ⟨blanks, whole, blank⟩ := dropEnd_blanks tag
  have cut := cutPath_self (withoutNewlines (dropEnd tag))
  rw [← readTag] at cut
  generalize ((withoutNewlines (dropEnd tag)).dropWhile fun c => !isTail c) = tail at cut
  have front : withoutNewlines tag = withoutNewlines (dropEnd tag) ++ withoutNewlines blanks := by
    rw [← withoutNewlines_append, ← whole]
  refine ⟨tail ++ withoutNewlines blanks, by rw [front, cut.whole, List.append_assoc], fun c first => ?_, ?_⟩
  · cases tail with
    | nil => exact .inr (blank c (List.mem_of_mem_filter (List.mem_of_head? first)))
    | cons d more =>
      obtain rfl : d = c := Option.some.inj first
      exact .inl (cut.tail d rfl)
  · rw [List.append_eq_nil_iff]
    constructor
    · rintro ⟨rfl, none_⟩
      rw [none_, List.append_nil] at front
      refine ⟨?_, front.symm⟩
      rw [← tails_withoutNewlines, front, cut.whole, List.append_nil]
      exact cut.path
    · rintro ⟨clean, same⟩
      rw [same, eq_comm, List.append_right_eq_self] at front
      refine ⟨?_, front⟩
      cases tail with
      | nil => rfl
      | cons d more =>
        have listed : d ∈ withoutNewlines (dropEnd tag) := by
          rw [cut.whole]
          exact List.mem_append_right _ List.mem_cons_self
        have within : d ∈ tag := mem_of_dropEnd (List.mem_of_mem_filter listed)
        exact absurd ((clean d within).symm.trans (cut.tail d rfl)) (by decide)

/-- A last segment is the one that the guest reads if nothing of it is left out. -/
theorem lastSegment_eq_iff : lastSegment (segmentOf tag) = lastSegment (encode pathSet (readTag tag)) ↔
    (∀ c ∈ tag, isTail c = false) ∧ withoutNewlines (dropEnd tag) = withoutNewlines tag := by
  obtain ⟨rest, whole, first, empty⟩ := readTag_rest tag
  rw [← empty, segmentOf, whole, Percent.encode_append]
  constructor
  · intro same
    refine (@Percent.encode_eq_nil_iff pathSet rest).mp ?_
    rw [lastSegment, lastSegment] at same
    split at same
    · rename_i dot
      split at same
      · rename_i single
        exact singleDot_append single dot
      · rw [← same, List.nil_append] at dot
        refine Percent.encode_eq_nil_iff.mpr ?_
        cases rest with
        | nil => rfl
        | cons c more =>
          have code := singleDot_encodeChar (first c rfl)
          have bound := singleDot_length dot
          rw [encode, List.flatMap_cons, List.length_append, code.1] at bound
          have none_ : more.flatMap (Percent.encodeChar pathSet) = [] := List.eq_nil_of_length_eq_zero (by omega)
          rw [encode, List.flatMap_cons, none_, List.append_nil, code.2] at dot
          cases dot
    · split at same
      · exact (List.append_eq_nil_iff.mp same).2
      · exact List.append_right_eq_self.mp same
  · rintro rfl
    have none_ : encode pathSet [] = [] := rfl
    rw [none_, List.append_nil]

/-- The key is registered under the segments that the guest asks for. -/
theorem registered_iff (slash : ∀ part ∈ [repository, type, tag], '/' ∉ part)
    (plain : ∀ part ∈ [repository, type], isDots (segmentOf part) = false)
    (stays : doubleDot (encode pathSet (readTag tag)) = false) :
    resolve PREFIX_SEGMENTS (tagSegments (stripPrefixOr ['/'] (repository ++ '/' :: type ++ '/' :: tag))) =
        PREFIX_SEGMENTS ++ guestSegments repository type tag ↔
      Kept repository type tag ∨ Undone repository type tag := by
  have two : ∀ part ∈ [repository, type], '/' ∉ part :=
    fun part listed => slash part (by simp at listed ⊢; tauto)
  have noSlash : '/' ∉ tag := slash tag (by simp)
  constructor
  · intro same
    have clean : ∀ segment ∈ guestSegments repository type tag, '\\' ∉ segment := fun segment listed =>
      (registered_clean (by rw [same]; exact List.mem_append_right _ listed)).2
    have front : ∀ part ∈ [repository, type], '\\' ∉ part := by
      simp only [guestSegments, List.forall_mem_cons, mem_segmentOf] at clean ⊢
      exact ⟨clean.1, clean.2.1, nofun⟩
    rw [registered_front two front plain] at same
    by_cases backslash : '\\' ∈ tag
    · refine .inr ⟨?_, backslash, same⟩
      simp only [guestSegments, List.forall_mem_cons, mem_segmentOf, mem_lastSegment, mem_encode] at clean ⊢
      exact ⟨clean.1, clean.2.1, clean.2.2.1, nofun⟩
    · rw [tagSegments_tag noSlash backslash, resolve] at same
      have long := congrArg List.length same
      have nonempty : repository ≠ [] := by
        rintro rfl
        have bound := @enterLast_length_le (PREFIX_SEGMENTS ++ registeredFront [] type) (segmentOf tag)
        rw [long] at bound
        have six : ¬ 6 ≤ 4 + 1 := by decide
        exact six bound
      rw [registeredFront, if_neg nonempty] at long
      have forward : doubleDot (segmentOf tag) = false := by
        cases back : doubleDot (segmentOf tag) with
        | false => rfl
        | true =>
          rw [enterLast_doubleDot back] at long
          cases long
      rw [enterLast_lastSegment forward, registeredFront, if_neg nonempty] at same
      have last : lastSegment (segmentOf tag) = lastSegment (encode pathSet (readTag tag)) := by
        simpa [guestSegments] using same
      obtain ⟨tail, blanks⟩ := lastSegment_eq_iff.mp last
      exact .inl ⟨nonempty, by simpa using ⟨front repository (by simp), front type (by simp), backslash⟩,
        tail, blanks⟩
  · rintro (kept | undone)
    · have front : ∀ part ∈ [repository, type], '\\' ∉ part := fun part listed =>
        kept.backslash part (by simp at listed ⊢; tauto)
      rw [registered_front two front plain, tagSegments_tag noSlash (kept.backslash tag (by simp)), resolve]
      have whole : segmentOf tag = encode pathSet (readTag tag) := by
        obtain ⟨rest, whole, _, empty⟩ := readTag_rest tag
        rw [segmentOf, whole, empty.mpr ⟨kept.tail, kept.blanks⟩, List.append_nil]
      rw [← whole] at stays
      rw [enterLast_lastSegment stays, registeredFront, if_neg kept.nonempty,
        lastSegment_eq_iff.mpr ⟨kept.tail, kept.blanks⟩]
      simp [guestSegments]
    · rw [registered_front two (fun part listed => undone.clean part (by simp at listed ⊢; tauto)) plain]
      exact undone.back

end Registered

section KeyIds

variable {kbs : HttpKbs} {addr : kbs.Url} {ipv6 : Ipv6} {others : Text → Text → Option Record}
variable {kid kbsAddr kPath repository type tag : Text}

theorem slashes_cut {first rest : Text} (noSlash : '/' ∉ first) :
    (first ++ '/' :: rest).splitOn '/' = first :: rest.splitOn '/' := by
  have apart : ∀ c ∈ first, (c == '/') = false := by
    intro c within
    rw [beq_eq_false_iff_ne]
    rintro rfl
    exact noSlash within
  rw [List.splitOn_eq_splitOnP, List.splitOnP_append_cons_of_forall_mem apart _ (beq_self_eq_true '/'),
    ← List.splitOn_eq_splitOnP]

theorem slashes_end {last : Text} (noSlash : '/' ∉ last) : last.splitOn '/' = [last] := by
  have apart : ∀ c ∈ last, (c == '/') = false := by
    intro c within
    rw [beq_eq_false_iff_ne]
    rintro rfl
    exact noSlash within
  rw [List.splitOn_eq_splitOnP, List.splitOnP_eq_singleton apart]

/-- The parts of a key id that is accepted. -/
theorem normalizePath_parts (accepted : normalizePath kid = .ok (kbsAddr, kPath)) :
    ∃ repository type tag, kPath = repository ++ '/' :: type ++ '/' :: tag ∧
      ∀ part ∈ [kbsAddr, repository, type, tag], '/' ∉ part := by
  obtain ⟨repository, type, tag, parts, same⟩ := normalizePath_ok.mp accepted
  refine ⟨repository, type, tag, same, fun part listed within => ?_⟩
  rw [← parts, List.splitOn_eq_splitOnP] at listed
  exact absurd (mem_splitOnP listed _ within) (by decide)

/-- A normalised key id is normalised to itself. -/
theorem normalizePath_annotationKid (accepted : normalizePath kid = .ok (kbsAddr, kPath)) :
    normalizePath (annotationKid kbsAddr kPath) = .ok (kbsAddr, kPath) := by
  obtain ⟨repository, type, tag, rfl, noSlash⟩ := normalizePath_parts accepted
  have stripped : stripPrefixOr KBS_RESOURCE_URL_PREFIX
    (annotationKid kbsAddr (repository ++ '/' :: type ++ '/' :: tag)) =
      kbsAddr ++ '/' :: (repository ++ '/' :: (type ++ '/' :: tag)) := by
    rw [stripPrefixOr, if_pos]
    · simp [annotationKid]
    · simp [annotationKid]
  simp only [List.forall_mem_cons] at noSlash
  rw [normalizePath, stripped, slashes_cut noSlash.1, slashes_cut noSlash.2.1, slashes_cut noSlash.2.2.1,
    slashes_end noSlash.2.2.2.1]

theorem samePath_iff (noSlash : ∀ part ∈ [kbsAddr, repository, type, tag], '/' ∉ part) :
    SamePath kbs addr ipv6 others kbsAddr (repository ++ '/' :: type ++ '/' :: tag) ↔
      Readable ipv6 kbsAddr repository type tag ∧ (Kept repository type tag ∨ Undone repository type tag) := by
  have asked (uri : ResourceUri) : '/' :: KBS_URL_PATH_PREFIX ++ '/' :: uri.resourcePath =
      pathText (PREFIX_SEGMENTS ++ [uri.repository, uri.type, uri.tag]) := by
    have resource : '/' :: uri.resourcePath = pathText [uri.repository, uri.type, uri.tag] := by
      simp [pathText, ResourceUri.resourcePath]
    rw [resource, pathText, pathText, List.flatMap_append]
    rfl
  have slash : ∀ part ∈ [repository, type, tag], '/' ∉ part := fun part listed =>
    noSlash part (List.mem_cons_of_mem _ listed)
  have clean : ∀ segment ∈ PREFIX_SEGMENTS ++ guestSegments repository type tag, '/' ∉ segment := by
    intro segment listed
    rcases List.mem_append.mp listed with before | behind
    · exact (prefix_clean segment before).1
    · exact guestSegments_clean slash segment behind
  have registered : kbs.path (kbs.registeredUrl addr (repository ++ '/' :: type ++ '/' :: tag)) =
        pathText (PREFIX_SEGMENTS ++ guestSegments repository type tag) ↔
      resolve PREFIX_SEGMENTS (tagSegments (stripPrefixOr ['/'] (repository ++ '/' :: type ++ '/' :: tag))) =
        PREFIX_SEGMENTS ++ guestSegments repository type tag := by
    rw [Kbs.registeredUrl, kbs.path_setPath, setPath_prefix]
    exact pathText_inj (resolve_ne_nil (tagSegments_ne_nil _)) (fun segment listed => (registered_clean listed).1)
      (List.cons_ne_nil _ _) clean
  have plain (readable : Readable ipv6 kbsAddr repository type tag) :
      ∀ part ∈ [repository, type], isDots (segmentOf part) = false := fun part listed =>
    (readable.segments part listed).2
  constructor
  · rintro ⟨uri, read, path⟩
    obtain ⟨readable, segments⟩ := (annotationKid_read noSlash).mp ⟨uri, read, rfl⟩
    rw [asked, segments] at path
    exact ⟨readable, (registered_iff slash (plain readable) readable.tag).mp (registered.mp path)⟩
  · rintro ⟨readable, kept⟩
    obtain ⟨uri, read, segments⟩ := (annotationKid_read noSlash).mpr ⟨readable, rfl⟩
    refine ⟨uri, read, ?_⟩
    rw [asked, segments]
    exact registered.mpr ((registered_iff slash (plain readable) readable.tag).mpr kept)

/-- The path of a registered key is the one that the guest asks for if it is kept, and normalising a key path
a second time changes nothing. -/
theorem registered_path_iff (kbs : HttpKbs) (addr : kbs.Url) (ipv6 : Ipv6) (others : Text → Text → Option Record)
    {kid kbsAddr kPath : Text} (accepted : normalizePath kid = .ok (kbsAddr, kPath)) :
    (SamePath kbs addr ipv6 others kbsAddr kPath ↔ KeepsPath ipv6 kbsAddr kPath) ∧
      normalizePath (annotationKid kbsAddr kPath) = .ok (kbsAddr, kPath) := by
  refine ⟨?_, normalizePath_annotationKid accepted⟩
  obtain ⟨repository, type, tag, rfl, noSlash⟩ := normalizePath_parts accepted
  have parts : (repository ++ '/' :: type ++ '/' :: tag).splitOn '/' = [repository, type, tag] := by
    simp only [List.forall_mem_cons] at noSlash
    rw [List.append_assoc, List.cons_append, slashes_cut noSlash.2.1, slashes_cut noSlash.2.2.1,
      slashes_end noSlash.2.2.2.1]
  rw [samePath_iff noSlash, KeepsPath]
  constructor
  · exact fun keeps => ⟨repository, type, tag, parts, keeps⟩
  · rintro ⟨r, t, g, same, keeps⟩
    rw [parts] at same
    cases same
    exact keeps

end KeyIds

section Inputs

/-- A KBS that accepts every key. -/
def openKbs : HttpKbs where
  Url := Text
  KeyPair := Unit
  sign _ := .ok []
  setPath _ text := Lib.Url.setPath text
  post _ _ _ := .ok ()
  path url := url
  path_setPath _ _ := rfl

theorem default_key_path :
    SamePath openKbs [] noIpv6 (fun _ _ => none) [] "default/key/1".toList ∧
      normalizePath (annotationKid [] "default/key/1".toList) = .ok ([], "default/key/1".toList) := by
  obtain ⟨same, again⟩ := @registered_path_iff openKbs [] noIpv6 (fun _ _ => none) "/default/key/1".toList [] _ rfl
  refine ⟨same.mpr ⟨"default".toList, "key".toList, "1".toList, rfl, ⟨nofun, rfl, ?_, rfl⟩,
    .inl ⟨nofun, ?_, ?_, rfl⟩⟩, again⟩
  · simp only [List.forall_mem_cons]
    exact ⟨⟨Percent.clean_of_any rfl, rfl⟩, ⟨Percent.clean_of_any rfl, rfl⟩, nofun⟩
  · simp
  · exact Percent.clean_of_any rfl

/-- A question mark is encoded where the key is registered, and ends the path for the guest; an empty repository is
stripped where the key is registered, and is one for the guest. -/
theorem query_and_empty_repository :
    (normalizePath "kbs:///a/b/c?v=1".toList = .ok ([], "a/b/c?v=1".toList) ∧
      ¬ SamePath openKbs [] noIpv6 (fun _ _ => none) [] "a/b/c?v=1".toList) ∧
    (normalizePath "//c/d".toList = .ok ([], "/c/d".toList) ∧
      ¬ SamePath openKbs [] noIpv6 (fun _ _ => none) [] "/c/d".toList) := by
  refine ⟨⟨rfl, fun same => ?_⟩, ⟨rfl, fun same => ?_⟩⟩
  · obtain ⟨_, kept | undone⟩ := (@samePath_iff openKbs [] noIpv6 (fun _ _ => none) [] ['a'] ['b'] "c?v=1".toList
      (by decide)).mp same
    · exact absurd (kept.tail '?' (by decide)) (by decide)
    · exact absurd undone.backslash (by decide)
  · obtain ⟨_, kept | undone⟩ := (@samePath_iff openKbs [] noIpv6 (fun _ _ => none) [] [] ['c'] ['d']
      (by decide)).mp same
    · exact kept.nonempty rfl
    · exact absurd undone.backslash (by decide)

end Inputs

end GuestComponents.KeyProvider
