import GuestComponents.KbsProtocol.SessionPairing
import GuestComponents.Lib.Trace

/-! Where a resource that a client returns comes from. `Served` is what a request for a resource
ends with that succeeds: the last exchange of the client is that request, for this URL and with this
token, and the answer decrypts to the resource under the client's key. Both clients return what
their last request was served, however many requests and handshakes came before. -/
namespace GuestComponents.KbsProtocol
open Lib Crypto

variable {backend : Backend} (formats : Formats)

/-- The last exchange is a request for the URL, whose answer holds the resource for the client's key. -/
def Served (url : Text) (bearerAuth : Option Text) (resource : List UInt8) (world : World backend) : Prop :=
  ∃ earlier response encrypted, world.history = earlier ++ [⟨.getResource url bearerAuth, .ok response⟩] ∧
    response.status = 200 ∧ response.json formats.response = .ok encrypted ∧
    world.client.teeKey.decryptResponse formats.generateAad encrypted = .ok resource

/-- The resource was served for a token that the client holds. -/
def ServedFor (url : Text) (resource : List UInt8) (world : World backend) : Prop :=
  ∃ token, world.client.token = some token ∧ Served formats url (some token.content) resource world

/-- The exchange asks the KBS for the URL, or the token provider for a token. -/
def AsksFor (url : Text) : Exchange backend → Prop
  | ⟨.getResource asked _, _⟩ => asked = url
  | ⟨.getToken, _⟩ => True
  | _ => False

/-- The history has grown by such exchanges. -/
def GrownBy (url : Text) (before now : World backend) : Prop :=
  ∃ new, now.history = before.history ++ new ∧ ∀ exchange ∈ new, AsksFor url exchange

/-- The operation asks for no more than that. -/
def Fetches (url : Text) : Op backend → Prop
  | .ask (.getResource asked _) => asked = url
  | .ask .getToken => True
  | .ask _ => False
  | _ => True

section Calls

variable {formats} {env : World backend → Op backend → Choice backend} {α β : Type}

variable (env) in
/-- What a part of a call ends with when it succeeds, from worlds with `pre`. -/
abbrev Succeeds (pre : World backend → Prop) (program : Call backend α) (post : α → World backend → Prop) :
    Prop :=
  service.Attempts 0 env (fun _ => True) pre program post

/-- Where the first part leaves is not known. -/
theorem Succeeds.after {first : Call backend α} {rest : α → Call backend β} {pre : World backend → Prop}
    {post : β → World backend → Prop} (succeeds : ∀ value, Succeeds env (fun _ => True) (rest value) post) :
    Succeeds env pre (first >>= rest) post :=
  Service.Attempts.bind (fun _ _ => True) Service.Attempts.any fun value =>
    (succeeds value).consequence (fun _ _ => trivial) fun _ _ _ holds => holds

theorem self_succeeds {pre : World backend → Prop} :
    Succeeds env pre (perform .self) fun own world => own = world.client ∧ pre world :=
  Service.Attempts.lift (Service.Upholds.perform (fun _ _ => trivial) fun _ holds =>
    ⟨trivial, trivial, rfl, holds⟩)

theorem mapError_eq_ok {δ ε : Type} {change : δ → ε} {result : Except (Fault δ) α} {value : α} :
    mapError change result = .ok value ↔ result = .ok value := by
  rcases result with (_ | _) | _ <;> simp [mapError]

theorem resourceOf_ok {teeKey : TeeKeyPair backend} {response : HttpResponse} {resource : List UInt8}
    (got : resourceOf formats teeKey response = .ok (some resource)) : response.status = 200 ∧
      ∃ encrypted, response.json formats.response = .ok encrypted ∧
        teeKey.decryptResponse formats.generateAad encrypted = .ok resource := by
  rw [resourceOf] at got
  split at got
  · rename_i success
    obtain ⟨encrypted, read, got⟩ := bind_ok.mp got
    obtain ⟨payload, opened, same⟩ := bind_ok.mp got
    cases same
    exact ⟨success, encrypted, ofResult_ok.mp (mapError_eq_ok.mp read), mapError_eq_ok.mp opened⟩
  · obtain ⟨info, _, got⟩ := bind_ok.mp got
    split at got
    · cases got
    split at got <;> cases got

/-- One request, by a client that stays as it is. -/
theorem requestResource_served (url : Text) (bearerAuth : Option Text) (client : KbsClient backend) :
    Succeeds env (fun world => world.client = client) (requestResource formats url bearerAuth)
      fun payload world => world.client = client ∧
        ∀ resource, payload = some resource → Served formats url bearerAuth resource world := by
  apply Service.Attempts.bind fun answer world => world.client = client ∧
    ∃ earlier, world.history = earlier ++ [⟨.getResource url bearerAuth, answer⟩]
  · apply Service.Attempts.lift
    exact Service.Upholds.perform (fun _ _ => trivial) fun world same =>
      ⟨trivial, trivial, same, world.history, rfl⟩
  intro answer
  apply Service.Attempts.bind fun response world => world.client = client ∧
    ∃ earlier, world.history = earlier ++ [⟨.getResource url bearerAuth, .ok response⟩]
  · refine Service.Attempts.result (fun _ _ => trivial) fun response world same holds => ?_
    cases answer with
    | ok given =>
      cases same
      exact holds.2
    | error cause => cases same
  intro response
  apply Service.Attempts.bind _ self_succeeds
  intro own
  refine Service.Attempts.result (fun _ _ => trivial) fun payload world got holds => ?_
  obtain ⟨_, rfl, _, same, earlier, recorded⟩ := holds
  refine ⟨same, ?_⟩
  rintro resource rfl
  obtain ⟨success, encrypted, read, opened⟩ := resourceOf_ok got
  exact ⟨earlier, response, encrypted, recorded, success, read, opened⟩

variable (env formats) in
theorem rcarGetResourceFrom_served (url : Text) (attempts : Nat) :
    Succeeds env (fun _ => True) (rcarGetResourceFrom formats url attempts) (Served formats url none) := by
  induction attempts with
  | zero => exact Service.Attempts.throw fun _ _ => trivial
  | succ attempts ih =>
    intro world _
    have served := @requestResource_served _ formats env url none world.client
    refine Service.Attempts.bind _ served ?_ world rfl
    rintro (_ | resource)
    · exact Succeeds.after fun result => Succeeds.after fun _ => ih
    · exact Service.Attempts.pure fun _ holds => ⟨trivial, holds.2.2 resource rfl⟩

variable (env formats) in
theorem tokenGetResourceFrom_served (url : Text) (attempts : Nat) :
    Succeeds env (fun _ => True) (tokenGetResourceFrom formats url attempts) (ServedFor formats url) := by
  induction attempts with
  | zero => exact Service.Attempts.throw fun _ _ => trivial
  | succ attempts ih =>
    apply Succeeds.after
    intro _
    apply Service.Attempts.bind fun token world => world.client.token = some token
    · apply Service.Attempts.bind _ self_succeeds
      intro own
      cases held : own.token with
      | some token =>
        refine Service.Attempts.pure fun world holds => ⟨trivial, ?_⟩
        rw [← holds.2.1, held]
      | none => exact Service.Attempts.throw fun _ _ => trivial
    intro token world holds
    have served := @requestResource_served _ formats env url (some token.content) world.client
    refine Service.Attempts.bind _ served ?_ world rfl
    rintro (_ | resource)
    · exact Succeeds.after fun _ => ih
    · refine Service.Attempts.pure fun after ends => ⟨trivial, token, ?_, ends.2.2 resource rfl⟩
      rw [ends.2.1]
      exact holds.2

theorem perform_fetches {ε : Type} {url : Text} {op : Op backend} (fetches : Fetches url op) :
    Program.Only (Fetches url) (perform op : Fallible (Op backend) (Answer backend) ε (Answer backend op)).run :=
  Program.Only.lift (Program.only_perform fetches)

theorem requestResource_fetches (url : Text) (bearerAuth : Option Text) :
    Program.Only (Fetches url) (requestResource formats url bearerAuth : Call backend _).run := by
  refine Program.Only.bind_fallible (Program.Only.lift (Program.only_perform rfl)) fun answer => ?_
  refine Program.Only.bind_fallible trivial fun response => ?_
  exact Program.Only.bind_fallible (perform_fetches trivial) fun own => trivial

theorem updateToken_fetches (url : Text) : Program.Only (Fetches url) (updateToken : Call backend Unit).run := by
  refine Program.Only.bind_fallible (Program.Only.lift (Program.only_perform trivial)) fun answer => ?_
  refine Program.Only.bind_fallible trivial fun pair => ?_
  exact perform_fetches trivial

theorem ensureBearerToken_fetches (url : Text) :
    Program.Only (Fetches url) (ensureBearerToken : Call backend Unit).run := by
  refine Program.Only.bind_fallible (perform_fetches trivial) fun own => ?_
  split
  · exact updateToken_fetches url
  · trivial

theorem bearerToken_fetches (url : Text) : Program.Only (Fetches url) (bearerToken : Call backend Token).run := by
  refine Program.Only.bind_fallible (perform_fetches trivial) fun own => ?_
  split <;> trivial

/-- The token client asks for its URL alone, however often. -/
theorem tokenGetResourceFrom_fetches (url : Text) (attempts : Nat) :
    Program.Only (Fetches url) (tokenGetResourceFrom formats url attempts : Call backend _).run := by
  induction attempts with
  | zero => trivial
  | succ attempts ih =>
    refine Program.Only.bind_fallible (ensureBearerToken_fetches url) fun _ => ?_
    refine Program.Only.bind_fallible (bearerToken_fetches url) fun token => ?_
    refine Program.Only.bind_fallible (requestResource_fetches url _) fun payload => ?_
    cases payload with
    | some resource => trivial
    | none => exact Program.Only.bind_fallible (updateToken_fetches url) fun _ => ih

theorem GrownBy.step {url : Text} {before now : World backend} {op : Op backend} {choice : Choice backend}
    (fetches : Fetches url op) (grown : GrownBy url before now) :
    GrownBy url before (service.perform 0 now op choice).2 := by
  obtain ⟨new, same, asks⟩ := grown
  cases op with
  | ask question =>
    have last : AsksFor url ⟨question, choice question⟩ := by
      cases question <;> exact fetches
    refine ⟨new ++ [⟨question, choice question⟩], ?_, ?_⟩
    · rw [← List.append_assoc, ← same]
      rfl
    · intro exchange listed
      rcases List.mem_append.mp listed with earlier | latest
      · exact asks exchange earlier
      · rw [List.mem_singleton.mp latest]
        exact last
  | _ => exact ⟨new, same, asks⟩

/-- Whatever becomes of a call of the token client, it has asked the KBS for nothing but the
URL of its resource. -/
theorem tokenGetResource_asks (world : World backend) (uri : ResourceUri) :
    GrownBy (resourceUrl world.client uri) world
      (service.alone 0 env (tokenGetResource formats uri).run world).2 := by
  have grows : service.Upholds 0 env (fun _ => True) (GrownBy (resourceUrl world.client uri) world)
      (tokenGetResourceFrom formats (resourceUrl world.client uri) KBS_GET_RESOURCE_MAX_ATTEMPT).run
      fun _ => GrownBy (resourceUrl world.client uri) world :=
    Service.Upholds.only (tokenGetResourceFrom_fetches _ _) (fun _ _ => trivial)
      fun _ _ fetches grown => grown.step fetches
  exact (grows world ⟨[], (List.append_nil _).symm, fun _ listed => absurd listed List.not_mem_nil⟩).2

/-- The token client returns what its last request was served, to the token that it holds. -/
theorem tokenGetResource_served {world : World backend} {uri : ResourceUri} {resource : List UInt8}
    (returned : (service.alone 0 env (tokenGetResource formats uri).run world).1 = .ok resource) :
    ServedFor formats (resourceUrl world.client uri) resource
      (service.alone 0 env (tokenGetResource formats uri).run world).2 :=
  ((tokenGetResourceFrom_served formats env _ _ world trivial).2).2 resource returned

theorem tokenCalls_paired {world : World backend}
    (reached : (service.calls (tokenCall formats) (Started formats)).Reachable System.Free world) :
    Paired formats world :=
  Service.Upholds.reachable (fun _ => Started.paired) (fun uri _ => tokenCall_upholds formats uri) reached

/-- The key of the client is still of the handshake of its token. -/
theorem tokenGetResource_paired {world : World backend} {uri : ResourceUri} {resource : List UInt8}
    (paired : Paired formats world)
    (returned : (service.alone 0 env (tokenGetResource formats uri).run world).1 = .ok resource) :
    Paired formats (service.alone 0 env (tokenGetResource formats uri).run world).2 := by
  have ends := (@tokenGetResource_tries _ formats world.client world.history env uri world
    (.inl (Same.refl world))).2
  rw [returned] at ends
  exact paired.since ends

end Calls

/-- A resource that a client returns was served by its last request, for the URL of the resource, and
was encrypted to the client's key. The token client made that request with the token it holds, and the
key is of the handshake that made the token, after any calls, answered in any way and dropped anywhere. -/
theorem resources_served (env : World backend → Op backend → Choice backend) (world : World backend)
    (uri : ResourceUri) (resource : List UInt8) :
    ((service.alone 0 env (rcarGetResource formats uri).run world).1 = .ok resource →
      Served formats (resourceUrl world.client uri) none resource
        (service.alone 0 env (rcarGetResource formats uri).run world).2) ∧
    ((service.alone 0 env (tokenGetResource formats uri).run world).1 = .ok resource →
      ServedFor formats (resourceUrl world.client uri) resource
          (service.alone 0 env (tokenGetResource formats uri).run world).2 ∧
        ((service.calls (tokenCall formats) (Started formats)).Reachable System.Free world →
          Paired formats (service.alone 0 env (tokenGetResource formats uri).run world).2)) := by
  constructor
  · intro returned
    exact ((rcarGetResourceFrom_served formats env _ _ world trivial).2).2 resource returned
  · intro returned
    exact ⟨tokenGetResource_served returned,
      fun reached => tokenGetResource_paired (tokenCalls_paired reached) returned⟩

end GuestComponents.KbsProtocol
