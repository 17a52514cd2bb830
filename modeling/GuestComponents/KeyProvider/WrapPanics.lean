import GuestComponents.KeyProvider.GuestUnwrapping
import GuestComponents.KeyProvider.Grpc

/-! What a client can send that makes the key provider panic. The list of parameters may be empty,
the file of a key may have any length, and the counter mode is given a vector that it never takes.
`wrap_key_panicFree_iff` has the requests on which none of these is reached. -/
namespace GuestComponents.KeyProvider
open Lib Lib.Text Crypto

/-- `wrap_key` on the bytes of a request; `fromStr` parses a JSON text. -/
def wrapKeyCall (crates : RustCrates) (machine : Machine) {kbs : Kbs} (kbsParameter : KbsParameter kbs)
    (fromStr : Text → Except String Json) (request : List UInt8) : Except (Fault Status) Json := do
  let inputString ← Fault.okOr
    (.invalidArgument "key_provider_key_wrap_protocol_input is not legal utf8 string") (fromUtf8 request)
  let input ← Fault.ofResult (fun e => .invalidArgument s!"parse key provider input failed: {e}") (fromStr inputString)
  wrapKey crates machine kbsParameter input

/-- The key and the key id that a request leads to, on a machine that has random numbers and the
file, where they are asked for. -/
inductive KeyFor (machine : Machine) (inputParams : InputParams) : List UInt8 → Text → Prop
  | sample : inputParams.sample = true → KeyFor machine inputParams HARDCODED_KEY HARD_CODED_KEYID
  | file {path : Text} {key : List UInt8} {iv : Vector UInt8 12} : inputParams.sample = false →
    inputParams.keypath = some path → machine.read path = .ok key → machine.randomIv = .ok iv →
    KeyFor machine inputParams key (keyId machine inputParams)
  | random {key : Vector UInt8 32} {iv : Vector UInt8 12} : inputParams.sample = false →
    inputParams.keypath = none → machine.randomIv = .ok iv → machine.randomKey = .ok key →
    KeyFor machine inputParams key.toList (keyId machine inputParams)

/-- Four parts between slashes, behind the prefix of a resource. -/
def FourParts (kid : Text) : Prop := ((stripPrefixOr KBS_RESOURCE_URL_PREFIX kid).splitOn '/').length = 4

instance (kid : Text) : Decidable (FourParts kid) := inferInstanceAs (Decidable (_ = _))

/-- There is a parameter, and the key that it leads to has 32 bytes and is not for the counter
mode, unless its key id is refused before it is used. -/
def Harmless (machine : Machine) : List Text → Prop
  | [] => False
  | param :: _ => ∀ key kid, KeyFor machine (parseInputParams param) key kid → FourParts kid →
      key.length = 32 ∧ (parseInputParams param).keypath ≠ some "A256CTR".toList

section Panics

variable {crates : RustCrates} {machine : Machine} {kbs : Kbs} {kbsParameter : KbsParameter kbs}
variable {optsdata : List UInt8} {param kid : Text} {inputParams : InputParams} {generated : KeyParameters}

/-- What is generated has the key and the id of the request, and always 12 bytes of vector. -/
theorem keyFor_iff {key : List UInt8} : KeyFor machine inputParams key kid ↔
    ∃ iv, generateKeyParameters machine inputParams = .ok ⟨key, iv, kid⟩ := by
  constructor
  · intro made
    cases made with
    | sample sample => exact ⟨_, by rw [generateKeyParameters, if_pos sample]⟩
    | @file path _ iv noSample given read random =>
      refine ⟨iv.toList, ?_⟩
      rw [generateKeyParameters, noSample, if_neg Bool.false_ne_true, given]
      simp only [read, random]
      rfl
    | @random made iv noSample absent random drawn =>
      refine ⟨iv.toList, ?_⟩
      rw [generateKeyParameters, noSample, if_neg Bool.false_ne_true, absent]
      simp only [random, drawn]
      rfl
  · rintro ⟨iv, generation⟩
    rw [generateKeyParameters] at generation
    split at generation
    · rename_i sample
      cases generation
      exact .sample sample
    · rename_i noSample
      rw [Bool.not_eq_true] at noSample
      split at generation
      · rename_i path given
        obtain ⟨contents, read, generation⟩ := bind_ok.mp generation
        obtain ⟨bytes, random, generation⟩ := bind_ok.mp generation
        cases generation
        exact .file noSample given (ofResult_ok.mp (mapError_ok.mp read)) (ofResult_ok.mp random)
      · rename_i absent
        obtain ⟨bytes, random, generation⟩ := bind_ok.mp generation
        obtain ⟨made, drawn, generation⟩ := bind_ok.mp generation
        cases generation
        exact .random noSample absent (ofResult_ok.mp random) (ofResult_ok.mp drawn)

theorem generateKeyParameters_panicFree : PanicFree (generateKeyParameters machine inputParams) := by
  rw [generateKeyParameters]
  split
  · exact panicFree_ok _
  · split
    · refine panicFree_bind.mpr ⟨panicFree_mapError.mpr (panicFree_ofResult _), fun key _ => ?_⟩
      exact panicFree_bind.mpr ⟨panicFree_ofResult _, fun iv _ => panicFree_ok _⟩
    · refine panicFree_bind.mpr ⟨panicFree_ofResult _, fun iv _ => ?_⟩
      exact panicFree_bind.mpr ⟨panicFree_ofResult _, fun key _ => panicFree_ok _⟩

theorem normalizePath_panicFree : PanicFree (normalizePath kid) := by
  rw [normalizePath]
  split
  · exact panicFree_ok _
  · exact panicFree_bail _

theorem normalizePath_ok_iff : (∃ parts, normalizePath kid = .ok parts) ↔ FourParts kid := by
  rw [normalizePath, FourParts]
  split
  · rename_i parts
    rw [parts]
    exact iff_of_true ⟨_, rfl⟩ rfl
  · rename_i others
    refine iff_of_false ?_ fun four => ?_
    · rintro ⟨parts, made⟩
      cases made
    · obtain ⟨a, b, c, d, parts⟩ := List.length_eq_four.mp four
      exact others a b c d parts

theorem registerIfConfigured_panicFree (sample : Bool) (key : List UInt8) (kPath : Text) :
    PanicFree (registerIfConfigured kbsParameter sample key kPath) := by
  rw [registerIfConfigured]
  split
  · split
    · exact panicFree_ok _
    · refine panicFree_mapError.mpr (panicFree_bind.mpr ⟨panicFree_ofResult _, fun token _ => ?_⟩)
      exact panicFree_ofResult _
  · exact panicFree_ok _

/-- With a vector of 12 bytes, encryption panics on a key of another length, and in the counter mode. -/
theorem encrypt_panicFree {data key iv : List UInt8} {algorithm : Algorithm} (short : iv.length = 12) :
    PanicFree (encrypt crates data key iv algorithm) ↔ key.length = 32 ∧ algorithm = .a256Gcm := by
  cases algorithm with
  | a256Gcm =>
    simp only [encrypt, panicFree_bind, panicFree_fromSlice, short, panicFree_mapError, panicFree_ofResult,
      implies_true, and_true]
  | a256Ctr =>
    simp only [encrypt, panicFree_bind, panicFree_fromSlice, short, reduceCtorEq, and_false, iff_false, not_and]
    intro fits free
    obtain ⟨key', same⟩ : ∃ key' : Vector UInt8 32, key = key'.toList := ⟨⟨key.toArray, fits⟩, rfl⟩
    exact absurd (free key' (fromSlice_ok.mpr same)).1 (by decide)

/-- The counter mode is that of a key file with its name. -/
theorem algorithm_gcm_iff : (parseInputParams param).algorithm = .a256Gcm ↔
    (parseInputParams param).keypath ≠ some "A256CTR".toList := by
  show (((fields param).lookup "keypath".toList).bind Algorithm.tryFrom).getD default = .a256Gcm ↔
    (fields param).lookup "keypath".toList ≠ some "A256CTR".toList
  cases (fields param).lookup "keypath".toList with
  | none => exact iff_of_true rfl nofun
  | some path =>
    rw [Option.bind_some, Algorithm.tryFrom, ne_eq, Option.some_inj]
    by_cases gcm : path = "A256GCM".toList
    · rw [if_pos gcm, gcm]
      exact iff_of_true rfl (by decide)
    · rw [if_neg gcm]
      by_cases ctr : path = "A256CTR".toList
      · rw [if_pos ctr]
        exact iff_of_false nofun (not_not_intro ctr)
      · rw [if_neg ctr]
        exact iff_of_true rfl ctr

variable (crates kbsParameter optsdata) in
theorem encOptsdata_panicFree : PanicFree (encOptsdata crates machine kbsParameter optsdata param) ↔
    ∀ key kid, KeyFor machine (parseInputParams param) key kid → FourParts kid →
      key.length = 32 ∧ (parseInputParams param).keypath ≠ some "A256CTR".toList := by
  have after : ∀ generated : KeyParameters, generated.iv.length = 12 → (PanicFree (do
      let parts ← normalizePath generated.kid
      let algorithm := (parseInputParams param).algorithm
      let encryptOptsdata ← (encrypt crates optsdata generated.key generated.iv algorithm).mapError
        fun e => s!"Encrypt failed: {e}"
      registerIfConfigured kbsParameter (parseInputParams param).sample generated.key parts.2
      return ({
        kid := KBS_RESOURCE_URL_PREFIX ++ parts.1 ++ '/' :: parts.2
        wrappedData := Base64.encode encryptOptsdata
        iv := Base64.encode generated.iv
        wrapType := algorithm.toText } : AnnotationPacket)) ↔
      (FourParts generated.kid → generated.key.length = 32 ∧ (parseInputParams param).algorithm = .a256Gcm)) := by
    intro generated short
    rw [panicFree_bind, and_iff_right normalizePath_panicFree, ← normalizePath_ok_iff]
    constructor
    · rintro free ⟨⟨kbsAddr, kPath⟩, normalized⟩
      have encrypts := (panicFree_bind.mp (free _ normalized)).1
      exact (encrypt_panicFree short).mp (panicFree_mapError.mp encrypts)
    · rintro fits ⟨kbsAddr, kPath⟩ normalized
      refine panicFree_bind.mpr
        ⟨panicFree_mapError.mpr ((encrypt_panicFree short).mpr (fits ⟨_, normalized⟩)), ?_⟩
      intro bytes _
      exact panicFree_bind.mpr ⟨registerIfConfigured_panicFree _ _ _, fun _ _ => panicFree_ok _⟩
  rw [encOptsdata, panicFree_bind, and_iff_right (panicFree_mapError.mpr generateKeyParameters_panicFree)]
  simp only [mapError_ok, ← algorithm_gcm_iff]
  constructor
  · intro free key kid made four
    obtain ⟨iv, generation⟩ := keyFor_iff.mp made
    exact (after _ (generated_iv_length generation)).mp (free _ generation) four
  · intro fits generated generation
    exact (after _ (generated_iv_length generation)).mpr (fits _ _ (keyFor_iff.mpr ⟨_, generation⟩))

variable (crates kbsParameter optsdata) in
theorem encOptsdataGenAnno_panicFree {params : List Text} :
    PanicFree (encOptsdataGenAnno crates machine kbsParameter optsdata params) ↔ Harmless machine params := by
  cases params with
  | nil => exact iff_of_false (not_panicFree_panic _) id
  | cons param params =>
    rw [Harmless, ← encOptsdata_panicFree crates kbsParameter optsdata]
    exact panicFree_bind.trans (and_iff_left fun packet _ => panicFree_ok packet.toJson)

theorem ofOutcome_panic_iff {ε α : Type} (toError : String → ε) {outcome : Outcome α} :
    (∀ message, Fault.ofOutcome toError outcome ≠ .error (.panic message)) ↔ PanicFree outcome := by
  rcases outcome with (error | message) | value
  · exact iff_of_true (fun _ panicked => by cases panicked) fun _ panicked => by cases panicked
  · exact iff_of_false (fun free => free message rfl) (not_panicFree_panic message)
  · exact iff_of_true (fun _ panicked => by cases panicked) fun _ panicked => by cases panicked

theorem ofResult_not_panic {ε α : Type} {toError : String → ε} {result : Except String α} {message : String} :
    Fault.ofResult toError result ≠ .error (.panic message) := by
  cases result <;> nofun

theorem okOr_not_panic {ε α : Type} {error : ε} {option : Option α} {message : String} :
    Fault.okOr error option ≠ .error (.panic message) := by
  cases option <;> nofun

/-- Reading a request refuses it or not. -/
theorem readRequest_not_panic (request : Json) (message : String) : readRequest request ≠ .error (.panic message) := by
  intro panicked
  obtain failed | ⟨input, _, panicked⟩ := bind_error.mp panicked
  · exact ofResult_not_panic failed
  obtain failed | ⟨optsdata, _, panicked⟩ := bind_error.mp panicked
  · exact okOr_not_panic failed
  obtain failed | ⟨ec, _, panicked⟩ := bind_error.mp panicked
  · exact okOr_not_panic failed
  obtain failed | ⟨parameters, _, panicked⟩ := bind_error.mp panicked
  · exact okOr_not_panic failed
  obtain failed | ⟨bytes, _, panicked⟩ := bind_error.mp panicked
  · exact okOr_not_panic failed
  · cases panicked

/-- **wrap_key panics** on no request but one that reads as a well-formed call, and then either has no
parameter that is base64 of a text, or leads to a key id of four parts together with a key file of
another length than 32 bytes, or named `A256CTR`: the counter mode always panics. -/
theorem wrap_key_panicFree_iff (crates : RustCrates) (machine : Machine) {kbs : Kbs} (kbsParameter : KbsParameter kbs)
    (fromStr : Text → Except String Json) (request : List UInt8) :
    (∀ message, wrapKeyCall crates machine kbsParameter fromStr request ≠ .error (.panic message)) ↔
      ∀ text input optsdata params, fromUtf8 request = some text → fromStr text = .ok input →
        readRequest input = .ok (optsdata, params) → Harmless machine params := by
  constructor
  · intro free text input optsdata params decoded parsed read
    rw [← encOptsdataGenAnno_panicFree crates kbsParameter optsdata,
      ← ofOutcome_panic_iff fun e => Status.internal s!"encrypt failed: {e}"]
    intro message panicked
    refine free message (bind_error.mpr (.inr ⟨text, Fault.okOr_ok.mpr decoded, ?_⟩))
    refine bind_error.mpr (.inr ⟨input, Fault.ofResult_ok.mpr parsed, ?_⟩)
    exact bind_error.mpr (.inr ⟨(optsdata, params), read, panicked⟩)
  · intro harmless message panicked
    obtain failed | ⟨text, decoded, panicked⟩ := bind_error.mp panicked
    · exact okOr_not_panic failed
    obtain failed | ⟨input, parsed, panicked⟩ := bind_error.mp panicked
    · exact ofResult_not_panic failed
    obtain failed | ⟨⟨optsdata, params⟩, read, panicked⟩ := bind_error.mp panicked
    · exact readRequest_not_panic input message failed
    have fits := harmless text input optsdata params (Fault.okOr_ok.mp decoded) (Fault.ofResult_ok.mp parsed) read
    exact (ofOutcome_panic_iff _).mpr ((encOptsdataGenAnno_panicFree _ _ _).mpr fits) message panicked

/-- A request for the attestation agent without a parameter. -/
def noParameters : Json :=
  .object [("op".toList, .string "keywrap".toList),
    ("keywrapparams".toList, .object [
      ("ec".toList, .object [("Parameters".toList, .object [("attestation-agent".toList, .array [])]),
        ("DecryptConfig".toList, .object [("Parameters".toList, .object [])])]),
      ("optsdata".toList, .string [])]),
    ("keyunwrapparams".toList, .object [])]

/-- The first parameter of an empty list is indexed. -/
theorem no_parameters_panics :
    ¬ ∀ (crates : RustCrates) (machine : Machine) (kbsParameter : KbsParameter noKbs) fromStr
    request message, wrapKeyCall crates machine kbsParameter fromStr request ≠ .error (.panic message) := by
  intro holds
  exact holds sampleCrates sampleMachine ⟨none, none⟩ (fun _ => .ok noParameters) [] _ rfl

end Panics
end GuestComponents.KeyProvider
