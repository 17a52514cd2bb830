import GuestComponents.Lib.FormUrlencoded
import GuestComponents.Lib.Program
import Mathlib.Data.List.AList

/-! `api-server-rest`: the HTTP server through which a pod asks the agents. A request is served by a
handler of its first path segment; the handlers look at the peer, the method and the rest of the
path, and then ask an agent or refuse. A handler is a program whose operations are the calls to the
agents, so that what it asks is known for every answer. `routes_iff` says which requests ask what. -/
namespace GuestComponents.ApiServer
open Lib Lib.Text

/-- `utils.rs::split_nth_slash`: the text before the n-th slash, and the text from it on. -/
def splitNthSlash : Text → Nat → Option (Text × Text)
  | _, 0 => none
  | [], _ + 1 => none
  | c :: rest, n + 1 =>
    if c = '/' then
      if n = 0 then some ([], '/' :: rest)
      else (splitNthSlash rest n).map fun cut => ('/' :: cut.1, cut.2)
    else (splitNthSlash rest (n + 1)).map fun cut => (c :: cut.1, cut.2)

/-- `std::net::IpAddr`. -/
inductive IpAddr where
  | v4 (a b c d : UInt8)
  | v6 (bits : BitVec 128)
  deriving DecidableEq

def IpAddr.isLoopback : IpAddr → Bool
  | v4 a _ _ _ => a == 127
  | v6 bits => bits == 1

/-- `hyper::Method`. -/
inductive Method where
  | options | get | post | put | delete | head | trace | connect | patch
  | extension (name : Text)
  deriving DecidableEq

/-- `hyper::Request`, as far as it is read. -/
structure Request where
  method : Method
  path : Text
  query : Option Text

structure Response where
  status : Nat
  contentType : Option Text
  body : List UInt8
  deriving DecidableEq

def octetStreamResponse (data : List UInt8) : Response := ⟨200, some "application/octet-stream".toList, data⟩

def badRequest : Response := ⟨400, none, utf8 "BAD REQUEST".toList⟩

def forbidden : Response := ⟨403, none, utf8 "Forbidden".toList⟩

def notFound : Response := ⟨404, none, utf8 "URL NOT FOUND".toList⟩

def notAllowed : Response := ⟨405, none, utf8 "Method Not Allowed".toList⟩

def internalError (body : Text) : Response := ⟨500, none, utf8 body⟩

/-- The response of the router itself. -/
def noRoute : Response := ⟨404, none, []⟩

/-- What is asked of the agents, by ttRPC. -/
inductive Call where
  | getToken (tokenType : Text)
  | getEvidence (runtimeData : List UInt8)
  | getResource (resourcePath : Text)
  deriving DecidableEq

/-- The data of a reply, or the error. -/
abbrev Answer : Call → Type := fun _ => Except Text (List UInt8)

abbrev Handler := Program Call Answer

/-- The response to what an agent answers. -/
def respond : Except Text (List UInt8) → Response
  | .ok results => octetStreamResponse results
  | .error e => internalError e

def ask (call : Call) : Handler Response := do return respond (← Program.perform call)

/-- A `HashMap` of texts. -/
abbrev Params := AList fun _ : Text => Text

/-- `collect`. -/
def collect (pairs : List (Text × Text)) : Params := pairs.foldl (fun params pair => params.insert pair.1 pair.2) ∅

def Request.params (req : Request) : Params :=
  match req.query with
  | some query => collect (FormUrlencoded.parse query)
  | none => ∅

namespace AAClient

def AA_ROOT : Text := "/aa".toList

def AA_TOKEN_URL : Text := "/token".toList

def AA_EVIDENCE_URL : Text := "/evidence".toList

/-- `aa.rs::handle_request`. -/
def handleRequest (acceptedMethod : List Method) (remoteAddr : IpAddr) (urlPath : Text) (req : Request) :
    Handler Response :=
  if !remoteAddr.isLoopback then return forbidden
  else if !(acceptedMethod.any fun i => i = req.method) then return notAllowed
  else if req.params.keys.length ≠ 1 then return notAllowed
  else if urlPath = AA_TOKEN_URL then
    match req.params.lookup "token_type".toList with
    | some tokenType => ask (.getToken tokenType)
    | none => return badRequest
  else if urlPath = AA_EVIDENCE_URL then
    match req.params.lookup "runtime_data".toList with
    | some runtimeData => ask (.getEvidence (utf8 runtimeData))
    | none => return badRequest
  else return notFound

end AAClient

namespace CDHClient

def CDH_ROOT : Text := "/cdh".toList

def CDH_RESOURCE_URL : Text := "/resource".toList

def KBS_PREFIX : Text := "kbs://".toList

/-- `cdh.rs::handle_request`. -/
def handleRequest (acceptedMethod : List Method) (remoteAddr : IpAddr) (urlPath : Text) (req : Request) :
    Handler Response :=
  if !remoteAddr.isLoopback then return forbidden
  else if !(acceptedMethod.any fun i => i = req.method) then return notAllowed
  else match splitNthSlash urlPath 2 with
    | some (api, resourcePath) =>
      if api = CDH_RESOURCE_URL then ask (.getResource (KBS_PREFIX ++ resourcePath))
      else return notFound
    | none => return noRoute

end CDHClient

/-- The handlers that there are. -/
inductive Client where
  | aa (acceptedMethod : List Method)
  | cdh (acceptedMethod : List Method)

def Client.handleRequest : Client → IpAddr → Text → Request → Handler Response
  | aa acceptedMethod => AAClient.handleRequest acceptedMethod
  | cdh acceptedMethod => CDHClient.handleRequest acceptedMethod

/-- `router.rs::Router`. -/
structure Router where
  routes : AList fun _ : Text => Client

namespace Router

def new : Router := ⟨∅⟩

def registerRoute (route : Text) (handler : Client) (router : Router) : Router :=
  ⟨router.routes.insert route handler⟩

/-- `router.rs::route`. -/
def route (router : Router) (remoteAddr : IpAddr) (req : Request) : Handler Response :=
  match splitNthSlash req.path 2 with
  | some (rootPath, urlPath) =>
    match router.routes.lookup rootPath with
    | some handler => handler.handleRequest remoteAddr urlPath req
    | none => return noRoute
  | none => return noRoute

end Router

/-- `main.rs`: the routes of the features. With others the server does not start. -/
def routerOf (features : Text) : Option Router :=
  if features = "resource".toList then
    some (Router.new.registerRoute CDHClient.CDH_ROOT (.cdh [.get]))
  else if features = "attestation".toList then
    some (Router.new.registerRoute AAClient.AA_ROOT (.aa [.get]))
  else if features = "all".toList then
    some ((Router.new.registerRoute CDHClient.CDH_ROOT (.cdh [.get])).registerRoute AAClient.AA_ROOT (.aa [.get]))
  else none

section Slashes

variable {url front back : Text} {n : Nat}

theorem splitNthSlash_cons {c : Char} {rest : Text} : splitNthSlash (c :: rest) (n + 1) = some (front, back) ↔
    (c = '/' ∧ n = 0 ∧ front = [] ∧ back = c :: rest) ∨
      ∃ more, front = c :: more ∧ splitNthSlash rest (if c = '/' then n else n + 1) = some (more, back) := by
  have later {m : Nat} : (splitNthSlash rest m).map (fun cut => (c :: cut.1, cut.2)) = some (front, back) ↔
      ∃ more, front = c :: more ∧ splitNthSlash rest m = some (more, back) := by
    rw [Option.map_eq_some_iff]
    constructor
    · rintro ⟨⟨more, behind⟩, found, same⟩
      cases same
      exact ⟨more, rfl, found⟩
    · rintro ⟨more, rfl, found⟩
      exact ⟨(more, back), found, rfl⟩
  rw [splitNthSlash]
  by_cases slash : c = '/'
  · subst slash
    rw [if_pos rfl, if_pos rfl]
    by_cases first : n = 0
    · subst first
      rw [if_pos rfl]
      constructor
      · intro same
        cases same
        exact .inl ⟨rfl, rfl, rfl, rfl⟩
      · rintro (⟨_, _, rfl, rfl⟩ | ⟨more, _, found⟩)
        · rfl
        · cases rest <;> cases found
    · rw [if_neg first, later]
      constructor
      · exact .inr
      · rintro (⟨_, zero, _⟩ | found)
        · exact absurd zero first
        · exact found
  · rw [if_neg slash, if_neg slash, later]
    constructor
    · exact .inr
    · rintro (⟨same, _⟩ | found)
      · exact absurd same slash
      · exact found

/-- The cut is before the n-th slash. -/
theorem splitNthSlash_iff : splitNthSlash url n = some (front, back) ↔
    url = front ++ back ∧ back.head? = some '/' ∧ front.count '/' + 1 = n := by
  induction url generalizing n front with
  | nil =>
    constructor
    · intro found
      cases n <;> cases found
    · rintro ⟨whole, slash, _⟩
      obtain ⟨_, rfl⟩ := List.append_eq_nil_iff.mp whole.symm
      cases slash
  | cons c rest ih =>
    cases n with
    | zero =>
      constructor
      · intro found
        cases found
      · rintro ⟨_, _, count⟩
        cases count
    | succ n =>
      rw [splitNthSlash_cons]
      constructor
      · rintro (⟨rfl, rfl, rfl, rfl⟩ | ⟨more, rfl, found⟩)
        · exact ⟨rfl, rfl, rfl⟩
        · obtain ⟨rfl, slash, count⟩ := ih.mp found
          refine ⟨rfl, slash, ?_⟩
          by_cases first : c = '/'
          · subst first
            rw [if_pos rfl] at count
            rw [List.count_cons_self, count]
          · rw [if_neg first] at count
            rw [List.count_cons_of_ne first, count]
      · rintro ⟨whole, slash, count⟩
        cases front with
        | nil =>
          refine .inl ?_
          rw [List.nil_append] at whole
          subst whole
          cases slash
          cases count
          exact ⟨rfl, rfl, rfl, rfl⟩
        | cons first more =>
          cases whole
          refine .inr ⟨more, rfl, ih.mpr ⟨rfl, slash, ?_⟩⟩
          by_cases first : c = '/'
          · subst first
            rw [List.count_cons_self] at count
            rw [if_pos rfl]
            omega
          · rw [List.count_cons_of_ne first] at count
            rw [if_neg first]
            exact count

/-- A text that is cut before its second slash, behind a first part with one slash. -/
theorem splitNthSlash_second {root : Text} (one : root.count '/' = 1) :
    splitNthSlash url 2 = some (root, back) ↔ url = root ++ back ∧ back.head? = some '/' := by
  rw [splitNthSlash_iff, one]
  constructor
  · exact fun both => ⟨both.1, both.2.1⟩
  · exact fun both => ⟨both.1, both.2, rfl⟩

end Slashes

section Parameters

variable {pairs : List (Text × Text)} {name value : Text}

/-- The query has this parameter and no other, and its last value is this one. -/
def Sole (pairs : List (Text × Text)) (name value : Text) : Prop :=
  pairs.getLast? = some (name, value) ∧ ∀ pair ∈ pairs, pair.1 = name

theorem collect_concat (pair : Text × Text) : collect (pairs ++ [pair]) = (collect pairs).insert pair.1 pair.2 := by
  rw [collect, List.foldl_append]
  rfl

theorem mem_collect : name ∈ collect pairs ↔ ∃ pair ∈ pairs, pair.1 = name := by
  induction pairs using List.reverseRecOn with
  | nil => simp [collect]
  | append_singleton pairs last ih =>
    rw [collect_concat, AList.mem_insert, ih]
    simp only [List.mem_append, List.mem_singleton]
    constructor
    · rintro (rfl | ⟨pair, listed, same⟩)
      · exact ⟨last, .inr rfl, rfl⟩
      · exact ⟨pair, .inl listed, same⟩
    · rintro ⟨pair, listed | rfl, same⟩
      · exact .inr ⟨pair, listed, same⟩
      · exact .inl same.symm

/-- A list without duplicates, all of whose members are this one. -/
theorem length_of_sole {names : List Text} (nodup : names.Nodup) (listed : name ∈ names) :
    names.length = 1 ↔ ∀ other ∈ names, other = name := by
  constructor
  · intro single
    obtain ⟨only, rfl⟩ := List.length_eq_one_iff.mp single
    rw [List.mem_singleton] at listed
    subst listed
    exact fun other => List.mem_singleton.mp
  · intro same
    have replicated := List.eq_replicate_of_mem same
    rw [replicated, List.nodup_replicate] at nodup
    have nonempty := List.length_pos_of_mem listed
    omega

/-- The map of the pairs has one key, whose value is this one. -/
theorem collect_sole : ((collect pairs).keys.length = 1 ∧ (collect pairs).lookup name = some value) ↔
    Sole pairs name value := by
  have keys : name ∈ collect pairs → ((collect pairs).keys.length = 1 ↔ ∀ pair ∈ pairs, pair.1 = name) := by
    intro listed
    rw [length_of_sole (collect pairs).keys_nodup listed]
    constructor
    · exact fun same pair within => same pair.1 (mem_collect.mpr ⟨pair, within, rfl⟩)
    · intro same other within
      obtain ⟨pair, listed, rfl⟩ := mem_collect.mp within
      exact same pair listed
  induction pairs using List.reverseRecOn with
  | nil => simp [collect, Sole]
  | append_singleton pairs last _ =>
    rw [Sole, List.getLast?_concat, Option.some_inj]
    have newest : (collect (pairs ++ [last])).lookup last.1 = some last.2 := by
      rw [collect_concat, AList.lookup_insert]
    constructor
    · rintro ⟨single, found⟩
      have same := (keys (AList.lookup_isSome.mp (by rw [found]; rfl))).mp single
      have key := same last (by simp)
      rw [key, found, Option.some_inj] at newest
      exact ⟨Prod.ext key newest.symm, same⟩
    · rintro ⟨rfl, same⟩
      exact ⟨(keys (mem_collect.mpr ⟨(name, value), by simp, rfl⟩)).mpr same, newest⟩

end Parameters

section Routes

variable {features urlPath path : Text} {remoteAddr : IpAddr} {req : Request} {call other : Call} {response : Response}

/-- The program asks this, and responds to what is answered. -/
def Asks (program : Handler Response) (call : Call) : Prop := program = ask call

/-- The program responds without asking, and not with data. -/
def Refuses (program : Handler Response) : Prop := ∃ response, program = pure response ∧ response.status ≠ 200

/-- The peer is on this host, and only reads. -/
def Allowed (remoteAddr : IpAddr) (req : Request) : Prop := remoteAddr.isLoopback = true ∧ req.method = .get

@[simp] theorem asks_ask : Asks (ask call) other ↔ call = other := by
  constructor
  · intro same
    injection same with calls _
  · rintro rfl
    rfl

@[simp] theorem not_asks_pure : ¬ Asks (pure response) call := by
  intro same
  cases same

@[simp] theorem refuses_pure : Refuses (pure response) ↔ response.status ≠ 200 := by
  constructor
  · rintro ⟨_, same, other⟩
    cases same
    exact other
  · exact fun other => ⟨response, rfl, other⟩

@[simp] theorem not_refuses_ask : ¬ Refuses (ask call) := by
  rintro ⟨_, same, _⟩
  cases same

/-- What a request asks the attestation agent for. -/
inductive AaWants (urlPath : Text) (params : Params) : Call → Prop where
  | token {tokenType : Text} : urlPath = AAClient.AA_TOKEN_URL → params.keys.length = 1 →
      params.lookup "token_type".toList = some tokenType → AaWants urlPath params (.getToken tokenType)
  | evidence {runtimeData : Text} : urlPath = AAClient.AA_EVIDENCE_URL → params.keys.length = 1 →
      params.lookup "runtime_data".toList = some runtimeData →
      AaWants urlPath params (.getEvidence (utf8 runtimeData))

theorem aa_asks_iff : Asks (AAClient.handleRequest [.get] remoteAddr urlPath req) call ↔
    Allowed remoteAddr req ∧ AaWants urlPath req.params call := by
  constructor
  · intro asks
    unfold AAClient.handleRequest at asks
    split at asks
    · exact absurd asks not_asks_pure
    rename_i near
    split at asks
    · exact absurd asks not_asks_pure
    rename_i reads
    have allowed : Allowed remoteAddr req := ⟨by simpa using near, by simpa using Eq.symm (by simpa using reads)⟩
    split at asks
    · exact absurd asks not_asks_pure
    rename_i single
    have single : req.params.keys.length = 1 := not_not.mp single
    split at asks
    · rename_i token
      split at asks
      · rename_i tokenType found
        rw [← asks_ask.mp asks]
        exact ⟨allowed, .token token single found⟩
      · exact absurd asks not_asks_pure
    split at asks
    · rename_i evidence
      split at asks
      · rename_i runtimeData found
        rw [← asks_ask.mp asks]
        exact ⟨allowed, .evidence evidence single found⟩
      · exact absurd asks not_asks_pure
    · exact absurd asks not_asks_pure
  · rintro ⟨⟨near, reads⟩, wants⟩
    cases wants with
    | token url single found =>
      rw [AAClient.handleRequest, if_neg (by simp [near]), if_neg (by simp [reads]), if_neg (not_not.mpr single),
        if_pos url, found]
      exact asks_ask.mpr rfl
    | evidence url single found =>
      have other : AAClient.AA_EVIDENCE_URL ≠ AAClient.AA_TOKEN_URL := by decide
      rw [AAClient.handleRequest, if_neg (by simp [near]), if_neg (by simp [reads]), if_neg (not_not.mpr single),
        if_neg (url ▸ other), if_pos url, found]
      exact asks_ask.mpr rfl

/-- A handler asks an agent, or refuses. -/
theorem aa_settles : (∃ call, Asks (AAClient.handleRequest [.get] remoteAddr urlPath req) call) ∨
    Refuses (AAClient.handleRequest [.get] remoteAddr urlPath req) := by
  unfold AAClient.handleRequest
  split
  · exact .inr (refuses_pure.mpr (by decide))
  split
  · exact .inr (refuses_pure.mpr (by decide))
  split
  · exact .inr (refuses_pure.mpr (by decide))
  split
  · split
    · exact .inl ⟨_, asks_ask.mpr rfl⟩
    · exact .inr (refuses_pure.mpr (by decide))
  split
  · split
    · exact .inl ⟨_, asks_ask.mpr rfl⟩
    · exact .inr (refuses_pure.mpr (by decide))
  · exact .inr (refuses_pure.mpr (by decide))

theorem cdh_asks_iff : Asks (CDHClient.handleRequest [.get] remoteAddr urlPath req) call ↔
    Allowed remoteAddr req ∧ ∃ path, urlPath = CDHClient.CDH_RESOURCE_URL ++ '/' :: path ∧
      call = .getResource (CDHClient.KBS_PREFIX ++ '/' :: path) := by
  have cut {back : Text} : splitNthSlash urlPath 2 = some (CDHClient.CDH_RESOURCE_URL, back) ↔
      urlPath = CDHClient.CDH_RESOURCE_URL ++ back ∧ back.head? = some '/' := splitNthSlash_second (by decide)
  constructor
  · intro asks
    unfold CDHClient.handleRequest at asks
    split at asks
    · exact absurd asks not_asks_pure
    rename_i near
    split at asks
    · exact absurd asks not_asks_pure
    rename_i reads
    have allowed : Allowed remoteAddr req := ⟨by simpa using near, by simpa using Eq.symm (by simpa using reads)⟩
    split at asks
    · rename_i api resourcePath found
      split at asks
      · rename_i resource
        subst resource
        obtain ⟨rfl, slash⟩ := cut.mp found
        obtain ⟨path, rfl⟩ := List.head?_eq_some_iff.mp slash
        exact ⟨allowed, path, rfl, (asks_ask.mp asks).symm⟩
      · exact absurd asks not_asks_pure
    · exact absurd asks not_asks_pure
  · rintro ⟨⟨near, reads⟩, path, rfl, rfl⟩
    have found : splitNthSlash (CDHClient.CDH_RESOURCE_URL ++ '/' :: path) 2 =
        some (CDHClient.CDH_RESOURCE_URL, '/' :: path) := cut.mpr ⟨rfl, rfl⟩
    simp [CDHClient.handleRequest, near, reads, found]

theorem cdh_settles : (∃ call, Asks (CDHClient.handleRequest [.get] remoteAddr urlPath req) call) ∨
    Refuses (CDHClient.handleRequest [.get] remoteAddr urlPath req) := by
  unfold CDHClient.handleRequest
  split
  · exact .inr (refuses_pure.mpr (by decide))
  split
  · exact .inr (refuses_pure.mpr (by decide))
  split
  · split
    · exact .inl ⟨_, asks_ask.mpr rfl⟩
    · exact .inr (refuses_pure.mpr (by decide))
  · exact .inr (refuses_pure.mpr (by decide))

theorem route_asks_iff {router : Router} : Asks (router.route remoteAddr req) call ↔
    ∃ root url handler, splitNthSlash req.path 2 = some (root, url) ∧ router.routes.lookup root = some handler ∧
      Asks (handler.handleRequest remoteAddr url req) call := by
  rw [Router.route]
  constructor
  · intro asks
    split at asks
    · rename_i root url cut
      split at asks
      · rename_i handler registered
        exact ⟨root, url, handler, cut, registered, asks⟩
      · exact absurd asks not_asks_pure
    · exact absurd asks not_asks_pure
  · rintro ⟨root, url, handler, cut, registered, asks⟩
    rw [cut]
    dsimp only
    rw [registered]
    exact asks

theorem registerRoute_lookup {route root : Text} {handler other : Client} {router : Router} :
    (router.registerRoute route handler).routes.lookup root = some other ↔
      (root = route ∧ other = handler) ∨ (root ≠ route ∧ router.routes.lookup root = some other) := by
  by_cases same : root = route
  · subst same
    have found : (router.registerRoute root handler).routes.lookup root = some handler :=
      AList.lookup_insert router.routes
    rw [found, Option.some_inj]
    constructor
    · exact fun same => .inl ⟨rfl, same.symm⟩
    · rintro (⟨_, rfl⟩ | ⟨differs, _⟩)
      · rfl
      · exact absurd rfl differs
  · have kept : (router.registerRoute route handler).routes.lookup root = router.routes.lookup root :=
      AList.lookup_insert_ne same
    rw [kept]
    constructor
    · exact fun found => .inr ⟨same, found⟩
    · rintro (⟨here, _⟩ | ⟨_, found⟩)
      · exact absurd here same
      · exact found

/-- The routes of the features that the server starts with. -/
theorem routerOf_lookup {router : Router} (starts : routerOf features = some router) {root : Text} {handler : Client} :
    router.routes.lookup root = some handler ↔
      (root = CDHClient.CDH_ROOT ∧ features ≠ "attestation".toList ∧ handler = .cdh [.get]) ∨
        (root = AAClient.AA_ROOT ∧ features ≠ "resource".toList ∧ handler = .aa [.get]) := by
  have apart : CDHClient.CDH_ROOT ≠ AAClient.AA_ROOT := by decide
  have empty : ¬ Router.new.routes.lookup root = some handler := by
    rw [show Router.new.routes.lookup root = none from AList.lookup_empty root]
    exact Option.some_ne_none _ ∘ Eq.symm
  unfold routerOf at starts
  split at starts
  · rename_i resource
    cases starts
    rw [registerRoute_lookup]
    constructor
    · rintro (⟨cdh, same⟩ | ⟨_, found⟩)
      · exact .inl ⟨cdh, by rw [resource]; decide, same⟩
      · exact absurd found empty
    · rintro (⟨cdh, _, same⟩ | ⟨_, other, _⟩)
      · exact .inl ⟨cdh, same⟩
      · exact absurd resource other
  rename_i resource
  split at starts
  · rename_i attestation
    cases starts
    rw [registerRoute_lookup]
    constructor
    · rintro (⟨aa, same⟩ | ⟨_, found⟩)
      · exact .inr ⟨aa, resource, same⟩
      · exact absurd found empty
    · rintro (⟨_, other, _⟩ | ⟨aa, _, same⟩)
      · exact absurd attestation other
      · exact .inl ⟨aa, same⟩
  rename_i attestation
  split at starts
  · cases starts
    rw [registerRoute_lookup, registerRoute_lookup]
    constructor
    · rintro (⟨aa, same⟩ | ⟨_, ⟨cdh, same⟩ | ⟨_, found⟩⟩)
      · exact .inr ⟨aa, resource, same⟩
      · exact .inl ⟨cdh, attestation, same⟩
      · exact absurd found empty
    · rintro (⟨rfl, _, same⟩ | ⟨aa, _, same⟩)
      · exact .inr ⟨apart, .inl ⟨rfl, same⟩⟩
      · exact .inl ⟨aa, same⟩
  · cases starts

/-- What a request asks for, where the features allow it. -/
inductive Wants (features : Text) (req : Request) : Call → Prop where
  | resource {path : Text} : features ≠ "attestation".toList → req.path = "/cdh/resource/".toList ++ path →
      Wants features req (.getResource ("kbs:///".toList ++ path))
  | token {query tokenType : Text} : features ≠ "resource".toList → req.path = "/aa/token".toList →
      req.query = some query → Sole (FormUrlencoded.parse query) "token_type".toList tokenType →
      Wants features req (.getToken tokenType)
  | evidence {query runtimeData : Text} : features ≠ "resource".toList → req.path = "/aa/evidence".toList →
      req.query = some query → Sole (FormUrlencoded.parse query) "runtime_data".toList runtimeData →
      Wants features req (.getEvidence (utf8 runtimeData))

theorem aa_wants {url : Text} (path : req.path = AAClient.AA_ROOT ++ url) (allowed : features ≠ "resource".toList) :
    AaWants url req.params call → Wants features req call := by
  have sole {name value : Text} (single : req.params.keys.length = 1) (found : req.params.lookup name = some value) :
      ∃ query, req.query = some query ∧ Sole (FormUrlencoded.parse query) name value := by
    unfold Request.params at single found
    split at single
    · rename_i query given
      rw [given] at found
      exact ⟨query, given, collect_sole.mp ⟨single, found⟩⟩
    · cases single
  rintro (⟨rfl, single, found⟩ | ⟨rfl, single, found⟩)
  · obtain ⟨query, given, only⟩ := sole single found
    exact .token allowed path given only
  · obtain ⟨query, given, only⟩ := sole single found
    exact .evidence allowed path given only

theorem route_asks {router : Router} (starts : routerOf features = some router) :
    Asks (router.route remoteAddr req) call ↔ Allowed remoteAddr req ∧ Wants features req call := by
  rw [route_asks_iff]
  constructor
  · rintro ⟨root, url, handler, cut, registered, asks⟩
    rcases (routerOf_lookup starts).mp registered with ⟨rfl, allowed, rfl⟩ | ⟨rfl, allowed, rfl⟩
    · obtain ⟨granted, path, rfl, rfl⟩ := cdh_asks_iff.mp asks
      have whole := ((splitNthSlash_second (by decide)).mp cut).1
      exact ⟨granted, .resource allowed whole⟩
    · obtain ⟨granted, wants⟩ := aa_asks_iff.mp asks
      exact ⟨granted, aa_wants ((splitNthSlash_second (by decide)).mp cut).1 allowed wants⟩
  · rintro ⟨granted, wants⟩
    cases wants with
    | @resource path allowed whole =>
      refine ⟨CDHClient.CDH_ROOT, CDHClient.CDH_RESOURCE_URL ++ '/' :: path, _, ?_,
        (routerOf_lookup starts).mpr (.inl ⟨rfl, allowed, rfl⟩), cdh_asks_iff.mpr ⟨granted, path, rfl, rfl⟩⟩
      exact (splitNthSlash_second (by decide)).mpr ⟨whole, rfl⟩
    | @token query tokenType allowed whole given only =>
      obtain ⟨single, found⟩ := collect_sole.mpr only
      have params : req.params = collect (FormUrlencoded.parse query) := by rw [Request.params, given]
      refine ⟨AAClient.AA_ROOT, AAClient.AA_TOKEN_URL, _, (splitNthSlash_second (by decide)).mpr ⟨whole, rfl⟩,
        (routerOf_lookup starts).mpr (.inr ⟨rfl, allowed, rfl⟩), aa_asks_iff.mpr ⟨granted, ?_⟩⟩
      rw [params]
      exact .token rfl single found
    | @evidence query runtimeData allowed whole given only =>
      obtain ⟨single, found⟩ := collect_sole.mpr only
      have params : req.params = collect (FormUrlencoded.parse query) := by rw [Request.params, given]
      refine ⟨AAClient.AA_ROOT, AAClient.AA_EVIDENCE_URL, _, (splitNthSlash_second (by decide)).mpr ⟨whole, rfl⟩,
        (routerOf_lookup starts).mpr (.inr ⟨rfl, allowed, rfl⟩), aa_asks_iff.mpr ⟨granted, ?_⟩⟩
      rw [params]
      exact .evidence rfl single found

/-- A request is asked of an agent, or refused. -/
theorem route_settles {router : Router} (starts : routerOf features = some router) :
    (∃ call, Asks (router.route remoteAddr req) call) ∨ Refuses (router.route remoteAddr req) := by
  rw [Router.route]
  split
  · rename_i root url cut
    split
    · rename_i handler registered
      rcases (routerOf_lookup starts).mp registered with ⟨_, _, rfl⟩ | ⟨_, _, rfl⟩
      · exact cdh_settles
      · exact aa_settles
    · exact .inr (refuses_pure.mpr (by decide))
  · exact .inr (refuses_pure.mpr (by decide))

/-- A parameter that is written for a form is the only one of its query, as it was. -/
theorem sole_serialize (name value : Text) :
    Sole (FormUrlencoded.parse (FormUrlencoded.serialize FormUrlencoded.reservedSet [(name, value)])) name value := by
  rw [FormUrlencoded.parse_serialize FormUrlencoded.delimits_reservedSet]
  refine ⟨rfl, fun pair listed => ?_⟩
  rw [List.mem_singleton.mp listed]

/-- What the server of these features asks the agents, for every request: a peer on this host may read a
resource, a token or evidence, each under its path, and nothing else is asked; a parameter can be
any text. A request that asks nothing is refused. -/
theorem route_asks_exactly {router : Router} (starts : routerOf features = some router) (remoteAddr : IpAddr)
    (req : Request) :
    (∀ call, Asks (router.route remoteAddr req) call ↔ Allowed remoteAddr req ∧ Wants features req call) ∧
      ((∃ call, Asks (router.route remoteAddr req) call) ∨ Refuses (router.route remoteAddr req)) ∧
      ∀ name value : Text, Sole (FormUrlencoded.parse (FormUrlencoded.serialize FormUrlencoded.reservedSet
        [(name, value)])) name value :=
  ⟨fun _ => route_asks starts, route_settles starts, sole_serialize⟩

/-- A pod asks for the token of the KBS. -/
def tokenRequest : Request := ⟨.get, "/aa/token".toList, some "token_type=kbs".toList⟩

def attestationRouter : Router := Router.new.registerRoute AAClient.AA_ROOT (.aa [.get])

theorem route_asks_exactly_token :
    Asks (attestationRouter.route (.v4 127 0 0 1) tokenRequest) (.getToken "kbs".toList) ∧
      ¬ ∃ call, Asks (attestationRouter.route (.v4 10 0 0 1) tokenRequest) call := by
  have starts : routerOf "attestation".toList = some attestationRouter := rfl
  constructor
  · refine ((route_asks_exactly starts _ _).1 _).mpr ⟨⟨rfl, rfl⟩, ?_⟩
    refine .token (by decide) rfl rfl ?_
    exact ⟨by decide +kernel, by decide +kernel⟩
  · rintro ⟨call, asks⟩
    have near := (((route_asks_exactly starts _ _).1 call).mp asks).1.1
    cases near

end Routes

end GuestComponents.ApiServer
