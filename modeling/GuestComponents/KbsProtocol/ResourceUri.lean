import GuestComponents.Lib.Text

/-! The identifiers of resources (the crate `resource_uri`). The parser of URLs is a
crate of its own, and what it makes of a text is a parameter. -/
namespace GuestComponents.KbsProtocol
open Lib

structure ResourceUri where
  kbsAddr : Text
  repository : Text
  type : Text
  tag : Text
  query : Option Text
deriving DecidableEq

/-- `url::Url`, as far as it is read. -/
structure Url where
  scheme : Text
  host : Option Text
  port : Option Nat
  path : Text
  query : Option Text

def RESOURCE_ID_ERROR_INFO : String :=
  "invalid kbs resource uri, should be kbs://<addr-of-kbs>/<repo>/<type>/<tag>"

namespace ResourceUri

/-- `ResourceUri::try_from` of a URL. -/
def tryFromUrl (value : Url) : Except String ResourceUri :=
  let host := value.host.getD []
  let addr := match value.port with
    | some port => if host = [] then host else host ++ ':' :: (toString port).toList
    | none => host
  if value.scheme ≠ "kbs".toList then .error "scheme must be kbs"
  else if value.path = [] then .error RESOURCE_ID_ERROR_INFO
  else match (value.path.drop 1).splitOn '/' with
    | [repository, type, tag] => .ok { kbsAddr := addr, repository, type, tag, query := value.query }
    | _ => .error RESOURCE_ID_ERROR_INFO

/-- `ResourceUri::try_from` of a text. -/
def tryFrom (parse : Text → Option Url) (value : Text) : Except String ResourceUri :=
  match parse value with
  | some url => tryFromUrl url
  | none => .error RESOURCE_ID_ERROR_INFO

/-- `resource_path`. -/
def resourcePath (uri : ResourceUri) : Text :=
  uri.repository ++ '/' :: uri.type ++ '/' :: uri.tag

/-- `whole_uri`. -/
def wholeUri (uri : ResourceUri) : Text :=
  let whole := "kbs://".toList ++ uri.kbsAddr ++ '/' :: uri.resourcePath
  match uri.query with
  | some q => whole ++ '?' :: q
  | none => whole

end ResourceUri
end GuestComponents.KbsProtocol
