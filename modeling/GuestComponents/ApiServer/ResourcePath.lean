import GuestComponents.ApiServer.Rest
import GuestComponents.KbsProtocol.Freshness
import GuestComponents.KbsProtocol.ServedResource
import GuestComponents.KbsProtocol.UriRoundTrip

/-! From the path of an HTTP request to the resource of the KBS. The server hands the path on as a
resource URI, the hub parses it and asks its client of the KBS. The parser of URLs resolves the path,
so that whatever the request is, what is asked of the KBS is three segments under its resource
path (`resource_confined`); three segments that are their own URL text are asked for as they
are (`resource_asked`). -/
namespace GuestComponents.ApiServer
open Lib Lib.Text Lib.Url Crypto
open KbsProtocol (ResourceUri Formats Prog World Choice SCHEME parseUrl tokenGetResource)

variable {backend : Backend}

/-- The agents behind the server: the formats and the URL parser of the hub, what the attestation agent
answers, and the text of the error that a failed call to the hub is for its caller. -/
structure Agents where
  formats : Formats
  ipv6 : Ipv6
  others : Text → Text → Option Record
  attestationAgent : Call → Except Text (List UInt8)
  getResourceFailed : Text

namespace Agents

variable (agents : Agents)

/-- The reply of the hub's server, whose error is the same for every cause. -/
def reply : Except (Fault KbsProtocol.Error) (List UInt8) → Except Text (List UInt8)
  | .ok resource => .ok resource
  | .error _ => .error agents.getResourceFailed

/-- `hub.rs::get_resource` and `kbs/mod.rs::get_secret`, with the client of `cc_kbc` that the first
call has made. -/
def getResource (uri : Text) : Prog backend (Except Text (List UInt8)) := do
  match ResourceUri.tryFrom (parseUrl agents.ipv6 agents.others) uri with
  | .error _ => return .error agents.getResourceFailed
  | .ok resourceUri => return agents.reply (← (tokenGetResource agents.formats resourceUri).run)

def answer : (call : Call) → Prog backend (Answer call)
  | .getResource resourcePath => agents.getResource resourcePath
  | .getToken tokenType => return agents.attestationAgent (.getToken tokenType)
  | .getEvidence runtimeData => return agents.attestationAgent (.getEvidence runtimeData)

/-- A handler with its agents. -/
def run {α : Type} : Handler α → Prog backend α
  | .done value => return value
  | .call call next => do run (next (← agents.answer call))

/-- A request to the server. -/
def serve (router : Router) (remoteAddr : IpAddr) (req : Request) : Prog backend Response :=
  agents.run (router.route remoteAddr req)

end Agents

/-- The path of a resource, without what the parser of URLs leaves out of it. -/
def readPath (path : Text) : Text := (withoutNewlines (dropEnd path)).takeWhile fun c => !isTail c

/-- The query behind it. -/
def readQuery (path : Text) : Option Text := queryOf ((withoutNewlines (dropEnd path)).dropWhile fun c => !isTail c)

section Paths

variable {ipv6 : Ipv6} {others : Text → Text → Option Record} {path : Text} {uri : ResourceUri}

/-- The resource that the hub reads in what the server hands on. -/
theorem tryFrom_path : ResourceUri.tryFrom (parseUrl ipv6 others) ("kbs:///".toList ++ path) = .ok uri ↔
    ∃ r t g, segments false (readPath path) = [r, t, g] ∧ uri = ⟨[], r, t, g, readQuery path⟩ := by
  have parsed : Lib.Url.parse ipv6 SCHEME others ("kbs:///".toList ++ path) =
      some (parsePath SCHEME (some []) none ('/' :: withoutNewlines (dropEnd path))) := by
    have shape : "kbs:///".toList ++ path = SCHEME ++ "://".toList ++ ([] ++ '/' :: path) := rfl
    rw [shape, parse_slashes KbsProtocol.scheme_name, dropEnd_append_cons slash_visible, List.nil_append,
      withoutNewlines_cons (tabOrNewline_of_visible slash_visible)]
    rfl
  have parts : ((pathText (segments false (readPath path))).drop 1).splitOn '/' = segments false (readPath path) :=
    splitOn_pathText segments_ne_nil fun segment listed within => ((segments_canonical segment listed).2 _ within).2 rfl
  rw [ResourceUri.tryFrom, parseUrl, parsed]
  dsimp only [Option.map_some]
  rw [KbsProtocol.tryFromUrl_ok]
  constructor
  · rintro ⟨_, _, r, t, g, split, rfl⟩
    exact ⟨r, t, g, parts.symm.trans split, rfl⟩
  · rintro ⟨r, t, g, split, rfl⟩
    refine ⟨rfl, ?_, r, t, g, parts.trans split, rfl⟩
    show pathText (segments false (readPath path)) ≠ []
    rw [split]
    exact List.cons_ne_nil _ _

end Paths

section Requests

variable (agents : Agents) (env : World backend → KbsProtocol.Op backend → Choice backend) {world : World backend}
  {features : Text} {router : Router} {remoteAddr : IpAddr} {req : Request} {path : Text} {body : List UInt8}

/-- A call of the hub, alone. -/
abbrev alone {α : Type} (program : Prog backend α) (world : World backend) : α × World backend :=
  KbsProtocol.service.alone 0 env program world

theorem getResource_path (r t g : Text) (split : segments false (readPath path) = [r, t, g]) :
    alone env (agents.getResource ("kbs:///".toList ++ path)) world =
      let ran := alone env (tokenGetResource agents.formats ⟨[], r, t, g, readQuery path⟩).run world
      (agents.reply ran.1, ran.2) := by
  rw [Agents.getResource, tryFrom_path.mpr ⟨r, t, g, split, rfl⟩]
  exact Service.alone_bind _ _ _

/-- A path that is not read as three segments is asked of nobody. -/
theorem getResource_refused (other : ¬ ∃ r t g, segments false (readPath path) = [r, t, g]) :
    agents.getResource ("kbs:///".toList ++ path) =
      (pure (.error agents.getResourceFailed) : Prog backend (Except Text (List UInt8))) := by
  rw [Agents.getResource]
  split
  · rfl
  · rename_i uri read
    obtain ⟨r, t, g, split, _⟩ := tryFrom_path.mp read
    exact absurd ⟨r, t, g, split⟩ other

theorem serve_resource (asks : Asks (router.route remoteAddr req) (.getResource ("kbs:///".toList ++ path))) :
    alone env (agents.serve router remoteAddr req) world =
      let ran := alone env (agents.getResource ("kbs:///".toList ++ path)) world
      (respond ran.1, ran.2) := by
  rw [Agents.serve, asks]
  exact Service.alone_bind _ _ _

theorem serve_refuses (refuses : Refuses (router.route remoteAddr req)) :
    (alone env (agents.serve router remoteAddr req) world).1.status ≠ 200 ∧
      (alone env (agents.serve router remoteAddr req) world).2 = world := by
  obtain ⟨response, same, other⟩ := refuses
  rw [Agents.serve, same]
  exact ⟨other, rfl⟩

/-- The request is for a resource: a peer on this host reads a path that is three segments, none of
which leads to another place under the KBS. -/
structure Reaches (remoteAddr : IpAddr) (req : Request) (asked r t g : Text) : Prop where
  allowed : Allowed remoteAddr req
  path : req.path = "/cdh/resource/".toList ++ asked
  segments : segments false (readPath asked) = [r, t, g]
  canonical : ∀ segment ∈ [r, t, g], CanonicalSegment segment

/-- The URL of the KBS that is asked, after the address of the KBS. -/
def resourceAt (asked r t g : Text) : ResourceUri := ⟨[], r, t, g, readQuery asked⟩

/-- A request either leaves the hub's client as it is and gets no resource, or it is for a resource and is
served what the client returns for it. -/
theorem serve_cases (starts : routerOf features = some router) (cdh : "/cdh".toList <+: req.path) :
    ((alone env (agents.serve router remoteAddr req) world).1.status ≠ 200 ∧
        (alone env (agents.serve router remoteAddr req) world).2 = world) ∨
      ∃ asked r t g, Reaches remoteAddr req asked r t g ∧
        alone env (agents.serve router remoteAddr req) world =
          let ran := alone env (tokenGetResource agents.formats (resourceAt asked r t g)).run world
          (respond (agents.reply ran.1), ran.2) := by
  have settles : (∃ call, Asks (router.route remoteAddr req) call) ∨ Refuses (router.route remoteAddr req) :=
    route_settles starts
  rcases settles with ⟨call, asks⟩ | refuses
  · obtain ⟨allowed, wants⟩ := (route_asks starts).mp asks
    obtain ⟨rest, whole⟩ := cdh
    cases wants with
    | @resource asked _ path =>
      rw [serve_resource agents env asks]
      by_cases three : ∃ r t g, segments false (readPath asked) = [r, t, g]
      · obtain ⟨r, t, g, split⟩ := three
        refine .inr ⟨asked, r, t, g, ⟨allowed, path, split, ?_⟩, ?_⟩
        · rw [← split]
          exact segments_canonical
        · rw [getResource_path agents env r t g split]
          rfl
      · rw [getResource_refused agents three]
        have failed : (internalError agents.getResourceFailed).status ≠ 200 := by
          show (500 : Nat) ≠ 200
          decide
        exact .inl ⟨failed, rfl⟩
    | token _ path => rw [path] at whole; cases whole
    | evidence _ path => rw [path] at whole; cases whole
  · exact .inl (serve_refuses agents env refuses)

theorem respond_ok {answer : Except Text (List UInt8)} {resource : List UInt8}
    (same : respond answer = octetStreamResponse resource) : answer = .ok resource := by
  cases answer with
  | ok results =>
    injection same with _ _ body
    rw [body]
  | error e => injection same with status; cases status

theorem reply_ok {result : Except (Fault KbsProtocol.Error) (List UInt8)} {resource : List UInt8}
    (same : agents.reply result = .ok resource) : result = .ok resource := by
  cases result with
  | ok results =>
    cases same
    rfl
  | error fault => cases same

/-- Segments that are their own URL text are read as they are. -/
theorem read_canonical {r t g : Text} (canonical : ∀ segment ∈ [r, t, g], CanonicalSegment segment) :
    readPath (['/'].intercalate [r, t, g]) = ['/'].intercalate [r, t, g] ∧
      readQuery (['/'].intercalate [r, t, g]) = none := by
  have clean : ∀ c ∈ ['/'].intercalate [r, t, g], c0OrSpace c = false ∧ isTail c = false := by
    intro c listed
    apply pathText_clean canonical
    rw [pathText_cons]
    exact List.mem_cons_of_mem _ listed
  generalize ['/'].intercalate [r, t, g] = text at clean
  have visible : Visible text := fun c listed => (clean c listed).1
  have whole : withoutNewlines (dropEnd text) = text := by
    have ends := @dropEnd_append text [] visible
    rw [List.append_nil] at ends
    rw [ends, withoutNewlines_append, withoutNewlines_visible visible]
    exact List.append_nil _
  have inside : ∀ c ∈ text, (!isTail c) = true := fun c listed => by rw [(clean c listed).2]; rfl
  constructor
  · rw [readPath, whole, List.takeWhile_eq_self_iff]
    exact inside
  · rw [readQuery, whole, List.dropWhile_eq_nil_iff.mpr inside]
    rfl

/-- A request for three segments that are their own URL text asks the KBS for them, whatever the query
is, and is answered with what the client returns. -/
theorem resource_asked (starts : routerOf features = some router) (serves : features ≠ "attestation".toList)
    (loopback : remoteAddr.isLoopback = true) {r t g : Text}
    (canonical : ∀ segment ∈ [r, t, g], CanonicalSegment segment) (query : Option Text) :
    alone env (agents.serve router remoteAddr
        ⟨.get, "/cdh/resource/".toList ++ ['/'].intercalate [r, t, g], query⟩) world =
      let ran := alone env (tokenGetResource agents.formats ⟨[], r, t, g, none⟩).run world
      (respond (agents.reply ran.1), ran.2) := by
  obtain ⟨path, none_⟩ := read_canonical canonical
  have asks := (route_asks starts).mpr ⟨⟨loopback, rfl⟩, .resource serves
    (rfl : Request.path ⟨.get, "/cdh/resource/".toList ++ ['/'].intercalate [r, t, g], query⟩ = _)⟩
  have split : segments false (readPath (['/'].intercalate [r, t, g])) = [r, t, g] := by
    rw [path]
    exact segments_of_canonical (List.cons_ne_nil _ _) canonical
  rw [serve_resource agents env asks, getResource_path agents env r t g split, none_]

end Requests

section Samples

open KbsProtocol (numberedKeys numberedClient handshakeFormats handshakeReplies)

def sampleAgents : Agents where
  formats := handshakeFormats
  ipv6 := KbsProtocol.noIpv6
  others _ _ := none
  attestationAgent _ := .error "Rpc status: get token failed".toList
  getResourceFailed := "Rpc status: [CDH] [ERROR]: Get Resource failed".toList

def resourceRouter : Router := Router.new.registerRoute CDHClient.CDH_ROOT (.cdh [.get])

/-- A path that is resolved to three segments. -/
def dottedRequest : Request := ⟨.get, "/cdh/resource/../one/./two/%2e%2e/two/three".toList, none⟩

/-- No token is to be had. -/
def tokenless : World numberedKeys → KbsProtocol.Op numberedKeys → Choice numberedKeys :=
  fun _ _ => handshakeReplies 0

theorem numberedClient_started : KbsProtocol.Started handshakeFormats numberedClient :=
  ⟨fun _ => .ok ⟨.rsa ([33], [3])⟩, ⟨.rsa ([33], [3])⟩, .new "http://kbs".toList, rfl, .inl rfl⟩

theorem resource_asked_sample : (alone tokenless (sampleAgents.serve resourceRouter (.v4 127 0 0 1)
      ⟨.get, "/cdh/resource/one/two/three".toList, none⟩) numberedClient).1 =
    internalError "Rpc status: [CDH] [ERROR]: Get Resource failed".toList := by
  have starts : routerOf "resource".toList = some resourceRouter := rfl
  have canonical : ∀ segment ∈ ["one".toList, "two".toList, "three".toList], CanonicalSegment segment := by
    have plain : ∀ segment ∈ ["one".toList, "two".toList, "three".toList],
        isDots segment = false ∧ segment.all (fun c => !Percent.pathSet c && c != '/') = true := by
      decide +kernel
    intro segment listed
    obtain ⟨dots, all⟩ := plain segment listed
    refine ⟨dots, fun c within => ?_⟩
    simpa using List.all_eq_true.mp all c within
  have asked := @resource_asked _ sampleAgents tokenless numberedClient _ _ (.v4 127 0 0 1) starts (by decide) rfl
    _ _ _ canonical none
  exact (congrArg Prod.fst asked).trans (by decide +kernel)

end Samples

end GuestComponents.ApiServer
