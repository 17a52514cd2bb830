import GuestComponents.Lib.FileUrl
import Mathlib.Data.List.Infix

/-! `resource/mod.rs`: resources by their URIs, and local files by their paths. A path is made a
URL and read back as that URL's path, which is encoded and never decoded. Both notations read the
file at the path exactly for the paths that a URL writes as they are (`read_as_written_iff`). -/
namespace GuestComponents.Image.LocalResources
open Lib Lib.Text Lib.Percent Lib.Url Lib.FileUrl

abbrev Bytes := List UInt8

/-- What is read of a `url::Url`. -/
structure Url where
  scheme : Text
  path : Text

/-- What the crate `url` parses beside the paths of file URLs: hosts, and URLs of other schemes,
of which their paths are kept. Errors are as `{:?}` shows them. -/
structure UrlCrate where
  host : Text → Except Text Text
  others : Text → Text → Except Text Text

/-- `url::Url::parse`. -/
def UrlCrate.parse (crate : UrlCrate) (text : Text) : Except Text Url :=
  match cutScheme (cleaned text) with
  | none => .error "RelativeUrlWithoutBase".toList
  | some (scheme, rest) =>
    (if scheme = "file".toList then file crate.host rest else crate.others scheme rest).map (Url.mk scheme)

/-- There is a channel with the feature `kbs` only. -/
structure ResourceProvider where
  secureChannel : Option (Text → Except Text Bytes)

/-- `get_resource`, with the URL parser and `fs::read`. -/
def ResourceProvider.getResource (crate : UrlCrate) (read : Text → Except Text Bytes) (provider : ResourceProvider)
    (uri : Text) : Except Text Bytes :=
  let uri := if "://".toList <:+: uri then uri else "file://".toList ++ uri
  match crate.parse uri with
  | .error error => .error ("Failed to parse: ".toList ++ error)
  | .ok url =>
    if url.scheme = "kbs".toList then
      match provider.secureChannel with
      | some channel => channel uri
      | none => .error ("`kbs` feature not enabled, cannot support fetch resource uri ".toList ++ uri)
    else if url.scheme = "file".toList then read url.path
    else .error ("not support scheme ".toList ++ url.scheme)

variable {crate : UrlCrate} {read : Text → Except Text Bytes} {provider : ResourceProvider} {body uri : Text}

/-- What is left of a path in a URL: nothing in front of its query or fragment is. -/
theorem parse_file (body : Text) : crate.parse ("file://".toList ++ '/' :: body) =
    .ok ⟨"file".toList, pathState (withoutNewlines (dropEnd body))⟩ := by
  have shape : "file://".toList ++ '/' :: body = "file:///".toList ++ body := rfl
  have visible : Visible "file:///".toList := clean_of_any rfl
  have name : SchemeName "file".toList := ⟨rfl, List.all_eq_true.mp rfl, rfl⟩
  have clean : cleaned ("file:///".toList ++ body) =
      "file".toList ++ ':' :: '/' :: '/' :: '/' :: withoutNewlines (dropEnd body) :=
    cleaned_append (by simp) visible
  rw [UrlCrate.parse, shape, clean, cutScheme_append name]
  rfl

/-- A path with `://` in it is not made a URL, and is none. -/
theorem parse_path (body : Text) : crate.parse ('/' :: body) = .error "RelativeUrlWithoutBase".toList := by
  have visible : Visible ['/'] := clean_of_any rfl
  have clean : cleaned ('/' :: body) = '/' :: withoutNewlines (dropEnd body) := cleaned_append (by simp) visible
  rw [UrlCrate.parse, clean]
  rfl

theorem getResource_file : provider.getResource crate read ("file://".toList ++ '/' :: body) =
    read (pathState (withoutNewlines (dropEnd body))) := by
  have whole : "://".toList <:+: "file://".toList ++ '/' :: body := ⟨"file".toList, '/' :: body, rfl⟩
  unfold ResourceProvider.getResource
  dsimp only
  rw [if_pos whole, parse_file]
  rfl

theorem getResource_path (bare : ¬ "://".toList <:+: '/' :: body) :
    provider.getResource crate read ('/' :: body) = read (pathState (withoutNewlines (dropEnd body))) := by
  unfold ResourceProvider.getResource
  dsimp only
  rw [if_neg bare, parse_file]
  rfl

theorem getResource_marked (marked : "://".toList <:+: '/' :: body) : provider.getResource crate read ('/' :: body) =
    .error "Failed to parse: RelativeUrlWithoutBase".toList := by
  unfold ResourceProvider.getResource
  dsimp only
  rw [if_pos marked, parse_path]
  rfl

/-- A path that a URL writes as it is, and that is not taken for one. -/
def AsWritten (path : Text) : Prop :=
  ¬ "://".toList <:+: path ∧ PlainPath ((path.drop 1).splitOn '/')

/-- The file system of one file, which is empty. -/
def only (path : Text) : Text → Except Text Bytes := fun other =>
  if other = path then .ok [] else .error "No such file or directory (os error 2)".toList

theorem only_ok {path other : Text} : only path other = only path path ↔ other = path := by
  constructor
  · intro same
    by_contra differs
    rw [only, only, if_neg differs, if_pos rfl] at same
    cases same
  · rintro rfl
    rfl

/-- An absolute path, and the same path as a file URL, both read the file at that path, whatever
the files are, if and only if a URL writes it as it is. -/
theorem read_as_written_iff (crate : UrlCrate) (body : Text) :
    (∀ (read : Text → Except Text Bytes) (provider : ResourceProvider),
      provider.getResource crate read ('/' :: body) = read ('/' :: body) ∧
        provider.getResource crate read ("file://".toList ++ '/' :: body) = read ('/' :: body)) ↔
      AsWritten ('/' :: body) := by
  constructor
  · intro reads
    obtain ⟨bare, url⟩ := reads (only ('/' :: body)) ⟨none⟩
    constructor
    · intro marked
      rw [getResource_marked marked, only, if_pos rfl] at bare
      cases bare
    · rw [getResource_file, only_ok] at url
      exact plain_of_pathState url
  · rintro ⟨unmarked, plain⟩ read provider
    have path : pathState (withoutNewlines (dropEnd body)) = '/' :: body := by
      have visible : Visible body := visible_of_plain plain
      rw [dropEnd_visible visible, withoutNewlines_visible visible]
      exact pathState_of_plain plain
    rw [getResource_path unmarked, getResource_file, path]
    exact ⟨rfl, rfl⟩

def sampleCrate : UrlCrate where
  host name := .ok name
  others _ _ := .ok []

/-- A blank is encoded and never decoded: the file at the path is not read, and that of another
path is. -/
theorem blank_path_differs :
    ∃ (read : Text → Except Text Bytes) (provider : ResourceProvider),
      provider.getResource sampleCrate read "/a b".toList ≠ read "/a b".toList ∧
        provider.getResource sampleCrate read ("file://".toList ++ "/a b".toList) ≠ read "/a b".toList ∧
        provider.getResource sampleCrate read "/a b".toList = read "/a%20b".toList ∧
        provider.getResource sampleCrate read "/a%20b".toList = read "/a%20b".toList := by
  have encoded : pathState (withoutNewlines (dropEnd "a b".toList)) = "/a%20b".toList := by decide +kernel
  have decoded : pathState (withoutNewlines (dropEnd "a%20b".toList)) = "/a%20b".toList := by decide +kernel
  have bare (body : Text) (colon : ':' ∉ '/' :: body) : ¬ "://".toList <:+: '/' :: body := fun marked =>
    colon (marked.subset List.mem_cons_self)
  have differs : only "/a b".toList "/a%20b".toList ≠ only "/a b".toList "/a b".toList := fun same =>
    absurd (only_ok.mp same) (by decide)
  have first : ResourceProvider.getResource sampleCrate (only "/a b".toList) ⟨none⟩ ('/' :: "a b".toList) =
      only "/a b".toList "/a%20b".toList := by
    rw [getResource_path (bare _ (by decide)), encoded]
  have second : ResourceProvider.getResource sampleCrate (only "/a b".toList) ⟨none⟩ ('/' :: "a%20b".toList) =
      only "/a b".toList "/a%20b".toList := by
    rw [getResource_path (bare _ (by decide)), decoded]
  have url : ResourceProvider.getResource sampleCrate (only "/a b".toList) ⟨none⟩
      ("file://".toList ++ '/' :: "a b".toList) = only "/a b".toList "/a%20b".toList := by
    rw [getResource_file, encoded]
  exact ⟨only "/a b".toList, ⟨none⟩, ne_of_eq_of_ne first differs, ne_of_eq_of_ne url differs, first, second⟩

end GuestComponents.Image.LocalResources
