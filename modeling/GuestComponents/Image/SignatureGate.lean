import GuestComponents.Image.Client

/-! Whether every image that a call returns has passed the signature check in that call.
It has unless the call is answered from the image database, which is looked up by the
configuration's digest before the policy is asked (`every_pull_checked`,
`rejected_image_returned`). -/
namespace GuestComponents.Image
open Lib Lib.Text

variable {client : ImageClient} {validator : SignatureValidator} {state next : State} {label : Label}

/-- The call has made a signature check for its own reference and for the manifest it was
answered with, and the check succeeded. -/
def Checked (client : ImageClient) (validator : SignatureValidator) (request : PullRequest)
    (pulled : PulledManifest) (made : Option SignatureCheck) : Prop :=
  ∃ check, made = some check ∧ check.imageUrl = request.imageUrl ∧
    check.imageDigest = pulled.imageDigest ∧ client.verdict validator check = .ok ()

/-- A client that has just been made, from any meta store, over any files. -/
def Starts (state : State) : Prop := state.phase = .idle ∧ state.replies = []

/-- A call for an image that is in the image database cannot make a bundle of it. -/
def NotFromCache (client : ImageClient) (state : State) : Label → Prop
  | .call request answer => ∀ auth pulled image, client.pullManifest request answer = .ok (auth, pulled) →
      state.metaStore.imageDb.lookup pulled.imageManifest.config.digest = some image →
      ∀ imageId, client.cachedBundle pulled.imageManifest image answer.bundle ≠ .ok imageId
  | _ => True

/-- Replies that succeeded, and the call that runs past its check, have been checked. -/
structure Gated (client : ImageClient) (validator : SignatureValidator) (state : State) : Prop where
  replies : ∀ reply ∈ state.replies, ∀ imageId, reply.result = .ok imageId →
    ∃ pulled, reply.manifest = some pulled ∧ Checked client validator reply.request pulled reply.check
  call : ∀ pull, state.phase.pull? = some pull →
    Checked client validator pull.request pull.manifest pull.check

/-- An image that gets past the check has passed it. -/
theorem acceptImage_checked (configured : client.signatureValidator = some validator)
    {request : PullRequest} {pulled : PulledManifest} {check : SignatureCheck}
    {accepted : ImageMeta × List (OciDescriptor × Text)}
    (passed : client.acceptImage request pulled (some check) = .ok accepted) :
    client.verdict validator check = .ok () := by
  unfold ImageClient.acceptImage at passed
  obtain ⟨_, allowed, _⟩ := bind_ok.mp passed
  simpa [ImageClient.validate, configured] using allowed

/-- A call that comes to its layers has passed its check. -/
theorem began_checked (configured : client.signatureValidator = some validator) {store : MetaStore}
    {request : PullRequest} {answer : CallAnswer} {pull : Pull}
    (began : client.pullImage store request answer = .inr pull) :
    Checked client validator pull.request pull.manifest pull.check := by
  obtain ⟨auth, _, _, asked, made, accepted, _⟩ := pullImage_inr began
  have check : pull.check = some ⟨request.imageUrl, pull.manifest.imageDigest, auth, answer.verifier⟩ := by
    simp [made, ImageClient.signatureCheck, configured]
  rw [check] at accepted
  exact ⟨_, check, by rw [asked], rfl, acceptImage_checked configured accepted⟩

namespace Gated

/-- What a step does to neither the replies nor the call. -/
theorem keep (gated : Gated client validator state) (replies : next.replies = state.replies)
    (call : next.phase.pull? = state.phase.pull?) : Gated client validator next := by
  constructor
  · rw [replies]
    exact gated.replies
  · rw [call]
    exact gated.call

/-- The call goes on: its request, manifest and check do not change. -/
theorem goOn (gated : Gated client validator state) {pull pull' : Pull}
    (called : state.phase.pull? = some pull) (replies : next.replies = state.replies)
    (goes : next.phase.pull? = some pull') (request : pull'.request = pull.request)
    (manifest : pull'.manifest = pull.manifest) (check : pull'.check = pull.check) :
    Gated client validator next := by
  constructor
  · rw [replies]
    exact gated.replies
  · intro other same
    rw [goes] at same
    cases same
    rw [request, manifest, check]
    exact gated.call pull called

/-- A call returns. -/
theorem reply (gated : Gated client validator state) {reply : Reply} (replies : next.replies = reply :: state.replies)
    (idle : next.phase = .idle) (earned : ∀ imageId, reply.result = .ok imageId →
      ∃ pulled, reply.manifest = some pulled ∧ Checked client validator reply.request pulled reply.check) :
    Gated client validator next := by
  constructor
  · intro other listed
    rw [replies] at listed
    rcases List.mem_cons.mp listed with rfl | earlier
    · exact earned
    · exact gated.replies other earlier
  · intro pull called
    rw [idle] at called
    cases called

theorem fail (gated : Gated client validator state) (pull : Pull) (error : String)
    (replies : next.replies = state.replies) : Gated client validator (next.fail pull error) := by
  have listed : (next.fail pull error).replies =
      ⟨pull.request, some pull.manifest, pull.check, false, none, .error error⟩ :: state.replies := by
    simp [State.fail, State.answer, replies]
  apply gated.reply listed rfl
  intro imageId succeeded
  cases succeeded

theorem attemptFailed (gated : Gated client validator state) {pull : Pull} {tasks : List Task}
    (pulling : state.phase = .pulling pull tasks) (replies : next.replies = state.replies) (i attempt : Nat)
    (error : String) : Gated client validator (next.attemptFailed pull tasks i attempt error) := by
  unfold State.attemptFailed
  split
  · apply gated.keep
    · exact replies
    · rw [pulling]
      rfl
  · exact gated.fail pull error replies

theorem collected (gated : Gated client validator state) {pull : Pull} {tasks : List Task}
    (pulling : state.phase = .pulling pull tasks) (layerMetas : List LayerMeta) :
    Gated client validator (state.collected pull layerMetas) := by
  unfold State.collected
  dsimp only
  split
  · exact gated.fail pull _ rfl
  · have called : state.phase.pull? = some pull := by
      rw [pulling]
      rfl
    exact gated.goOn called rfl rfl rfl rfl rfl

/-- One step of a run that is never answered from the image database. -/
theorem step (gated : Gated client validator state) (configured : client.signatureValidator = some validator)
    (allowed : NotFromCache client state label) (moves : Moves client state label next) :
    Gated client validator next := by
  cases moves with
  | @answered request answer reply idle answered =>
    apply gated.reply rfl rfl
    intro imageId succeeded
    rcases pullImage_inl answered with ⟨error, failed⟩ | ⟨auth, pulled, image, got, hit, rfl⟩
    · rw [failed] at succeeded
      cases succeeded
    · exact absurd succeeded (allowed auth pulled image got hit imageId)
  | began idle began =>
    constructor
    · exact gated.replies
    · intro pull called
      cases called
      exact began_checked configured began
  | started pulling => exact gated.keep rfl (by rw [pulling]; rfl)
  | found pulling => exact gated.keep rfl (by rw [pulling]; rfl)
  | opened pulling => exact gated.keep rfl (by rw [pulling]; rfl)
  | allocated pulling => exact gated.keep rfl (by rw [pulling]; rfl)
  | created pulling => exact gated.keep rfl rfl
  | altered pulling => exact gated.keep rfl rfl
  | finished pulling => exact gated.keep rfl (by rw [pulling]; rfl)
  | unopened pulling => exact gated.attemptFailed pulling rfl _ _ _
  | unfinished pulling =>
    apply gated.attemptFailed pulling
    rfl
  | collected pulling complete => exact gated.collected pulling _
  | bundled bundling made plain => exact gated.keep rfl (by rw [bundling]; rfl)
  | @nydusBundled answer pull imageId bundling made nydus =>
    have checked := gated.call pull (by rw [bundling]; rfl)
    exact gated.reply rfl rfl fun _ _ => ⟨pull.manifest, rfl, checked⟩
  | failed place => exact gated.fail _ _ rfl
  | truncated saving => exact gated.keep rfl (by rw [saving]; rfl)
  | @written pull imageId writing =>
    have checked := gated.call pull (by rw [writing]; rfl)
    exact gated.reply rfl rfl fun _ _ => ⟨pull.manifest, rfl, checked⟩
  | ranOn _ => exact gated.keep rfl rfl
  | restarted =>
    constructor
    · exact gated.replies
    · intro pull called
      cases called

end Gated

/-- In every run, over calls and restarts, that is never answered from the image database,
a call that succeeds has checked the signature for its own reference and for the manifest
digest that the registry gave it. -/
theorem every_pull_checked (configured : client.signatureValidator = some validator)
    (reached : (pullSystem client Starts).Reachable (NotFromCache client) state) :
    ∀ reply ∈ state.replies, ∀ imageId, reply.result = .ok imageId →
      ∃ pulled, reply.manifest = some pulled ∧ Checked client validator reply.request pulled reply.check := by
  have gated : Gated client validator state := by
    apply reached.invariant
    · rintro first ⟨idle, none_⟩
      constructor
      · intro reply listed
        rw [none_] at listed
        cases listed
      · intro pull called
        rw [idle] at called
        cases called
    · intro first label last gated allowed stepped
      exact gated.step configured allowed (step_moves stepped)
  exact gated.replies

/-- A call that is answered from the image database succeeds without a check. -/
theorem from_cache_unchecked (idle : state.phase = .idle) (cached : ¬ NotFromCache client state label) :
    ∃ reply, step client state label = some (state.answer reply) ∧
      (∃ imageId, reply.result = .ok imageId) ∧ reply.check = none := by
  cases label with
  | call request answer =>
    simp only [NotFromCache, not_forall, not_not] at cached
    obtain ⟨auth, pulled, image, got, hit, imageId, made⟩ := cached
    refine ⟨⟨request, some pulled, none, true, some image, .ok imageId⟩, ?_, ⟨imageId, rfl⟩, rfl⟩
    simp [Image.step, idle, ImageClient.pullImage, got, hit, made]
  | _ => exact absurd trivial cached

/-- A policy with the same requirements for every image. -/
def policyOf (reqs : List PolicyReqType) : SignatureValidator := ⟨⟨reqs, fun _ => none⟩⟩

/-- `every_pull_checked` for the first pull of an image that the policy accepts. -/
theorem first_pull_checked :
    let client := exampleImageClient (some (policyOf [.accept]))
    ∃ state reply, (pullSystem client Starts).Reachable (NotFromCache client) state ∧
      reply ∈ state.replies ∧ reply.result = .ok zeroDigest ∧
      ∃ pulled, reply.manifest = some pulled ∧
        Checked client (policyOf [.accept]) reply.request pulled reply.check := by
  intro client
  let test (state : State) (label : Label) : Bool :=
    !(label matches .call ..) || state.metaStore.imageDb.entries.isEmpty
  have done : (((pullSystem client Starts).execIf test freshState
      (examplePull (tagged "docker.io" "example/x" "1") (exampleManifest zeroDigest emptyDigest))).map
        fun final => final.replies.map fun reply => reply.result.toOption) = some [some zeroDigest] := by
    decide +kernel
  obtain ⟨final, ran, results⟩ := Option.map_eq_some_iff.mp done
  have begins : (pullSystem client Starts).start freshState := ⟨rfl, rfl⟩
  have reached : (pullSystem client Starts).Reachable (NotFromCache client) final := by
    apply (System.Reachable.start begins).execIf _ ran
    intro label _ state passed
    cases label with
    | call request answer =>
      intro auth pulled image _ hit
      rw [lookup_of_isEmpty (by simpa [test] using passed)] at hit
      cases hit
    | _ => trivial
  obtain ⟨reply, listed, result⟩ : ∃ reply ∈ final.replies, reply.result.toOption = some zeroDigest :=
    List.mem_map.mp (by simp [results])
  have succeeded := eq_ok_of_toOption result
  exact ⟨final, reply, reached, listed, succeeded,
    every_pull_checked rfl reached reply listed zeroDigest succeeded⟩

/-- A client that has been made with a meta store that has the example's image. -/
def loadedState : State :=
  { freshState with metaStore := MetaStore.empty.insertImage pulledImage }

theorem reject_rejects (client : ImageClient) (check : SignatureCheck) :
    client.verdict (policyOf [.reject]) check ≠ .ok () := by
  intro accepted
  unfold ImageClient.verdict SignatureValidator.checkImageSignature at accepted
  obtain ⟨reference, _, accepted⟩ := bind_ok.mp accepted
  obtain ⟨manifestDigest, _, accepted⟩ := bind_ok.mp accepted
  cases accepted

/-- An image that is in the meta store is returned without a check, under another reference
and against a policy that rejects all images. -/
theorem rejected_image_returned :
    let client := exampleImageClient (some (policyOf [.reject]))
    ∃ state reply, (pullSystem client Starts).Reachable System.Free state ∧
      reply ∈ state.replies ∧ reply.request.imageUrl ≠ pulledImage.reference ∧
      reply.result = .ok zeroDigest ∧ reply.check = none ∧
      ∀ check, client.verdict (policyOf [.reject]) check ≠ .ok () := by
  intro client
  have begins : (pullSystem client Starts).start loadedState := ⟨rfl, rfl⟩
  let request := exampleRequest (tagged "docker.io" "example/busybox" "latest")
  let pulled := exampleManifest zeroDigest emptyDigest
  have stepped : (pullSystem client Starts).step loadedState (.call request (exampleAnswer pulled)) =
      some (loadedState.answer ⟨request, some pulled, none, true, some pulledImage, .ok zeroDigest⟩) := rfl
  refine ⟨_, _, .step (.start begins) trivial stepped, List.mem_cons_self, ?_, rfl, rfl, reject_rejects client⟩
  decide

end GuestComponents.Image
