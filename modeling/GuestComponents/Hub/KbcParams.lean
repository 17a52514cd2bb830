import GuestComponents.KeyProvider.EncMods
import GuestComponents.Lib.AllOrNothing
import GuestComponents.Ocicrypt.KeyWrap

/-! The name of a KBC and the URL of its KBS, handed over in one text. The hub writes it to the
environment, the attestation agent splits it at every `::`, the native key provider at the first.
`kbc_params_survive_iff` says which URLs the first of the two readers gives back. -/
namespace GuestComponents.Hub
open Lib Lib.Text

/-- The variables of the process, whose values need not be text. -/
abbrev Env := Text → Option (List UInt8)

/-- `env::var`. -/
def Env.var (env : Env) (key : Text) : Option Text := (env key).bind fromUtf8

/-- `env::set_var`, which panics on a value with a NUL. -/
def setVar (key value : Text) : Action Env (Fault String) Unit :=
  Action.step (if '\x00' ∈ value then some (.panic "failed to set environment variable") else none)
    fun env => Function.update env key (some (utf8 value))

/-- `config.rs::KbsConfig` of the hub. -/
structure KbsConfig where
  name : Text
  url : Text
  kbsCert : Option Text

def aaKbcParamsVar : Text := "AA_KBC_PARAMS".toList

/-- `format!("{}::{}", name, url)`. -/
def paramsText (name url : Text) : Text := name ++ ':' :: ':' :: url

/-- The parameters go to a variable that has no text yet. -/
def setParams (kbc : KbsConfig) : Action Env (Fault String) Unit := fun env =>
  if (env.var aaKbcParamsVar).isNone then setVar aaKbcParamsVar (paramsText kbc.name kbc.url) env else (.ok (), env)

/-- `CdhConfig::set_configuration_envs`. -/
def setConfigurationEnvs (kbc : KbsConfig) : Action Env (Fault String) Unit := do
  setParams kbc
  match kbc.kbsCert with
  | some kbsCert => setVar "KBS_CERT".toList kbsCert
  | none => pure ()

/-- `aa_kbc_params.rs::AaKbcParams`. -/
structure AaKbcParams where
  kbc : Text
  uri : Text

inductive ParamError where
  | illegalFormat (value : Text)

/-- `AaKbcParams::try_from`. -/
def AaKbcParams.tryFrom (value : Text) : Except ParamError AaKbcParams :=
  match KeyProvider.splitColons value with
  | [kbc, uri] => .ok ⟨kbc, uri⟩
  | _ => .error (.illegalFormat value)

/-- `split_once("::")`. -/
def splitOnceColons : Text → Option (Text × Text)
  | [] => none
  | ':' :: ':' :: rest => some ([], rest)
  | c :: rest => (splitOnceColons rest).map fun parts => (c :: parts.1, parts.2)

/-- The names of the KBC and of the KBS that `from_native` calls on. -/
def nativePair (dcConfig : Ocicrypt.DecryptConfig) : Except String (Text × Text) :=
  match dcConfig.param.lookup "attestation-agent".toList with
  | none => .error "keyprovider: not supported attestation agent"
  | some list => match list.head? with
    | none => .error "keyprovider: empty kbc::kbs pair"
    | some kbcKbsPair => match fromUtf8 kbcKbsPair with
      | none => .error "invalid utf-8 sequence"
      | some pairStr => match splitOnceColons pairStr with
        | none => .error "keyprovider: invalid kbc::kbs pair"
        | some (kbc, kbs) => .ok (kbc, kbs)

/-- The two colons. -/
def colons : Text := [':', ':']

section Splitting

open KeyProvider

variable {text name rest : Text}

/-- Two colons are the beginning of a text, or behind its first character. -/
theorem colons_infix_cons {c : Char} :
    colons <:+: c :: rest ↔ (c = ':' ∧ rest.head? = some ':') ∨ colons <:+: rest := by
  rw [List.infix_cons_iff]
  refine or_congr_left ?_
  cases rest with
  | nil => simp [colons]
  | cons d rest => simp [colons, List.cons_prefix_cons, eq_comm]

theorem splitColons_ne_nil (text : Text) : splitColons text ≠ [] := by
  fun_induction splitColons text with
  | case1 => exact List.cons_ne_nil _ _
  | case2 => exact List.cons_ne_nil _ _
  | case3 => exact List.cons_ne_nil _ _
  | case4 => exact List.cons_ne_nil _ _

/-- A text without the separator is one segment, and only such a text is. -/
theorem splitColons_single_iff : splitColons text = [text] ↔ ¬ colons <:+: text := by
  fun_induction splitColons text with
  | case1 => simp [colons]
  | case2 rest ih =>
    refine iff_of_false ?_ ?_
    · intro same
      cases (List.cons.inj same).1
    · rw [not_not]
      exact ⟨[], rest, rfl⟩
  | case3 c rest notBoth none_ ih => exact absurd none_ (splitColons_ne_nil rest)
  | case4 c rest notBoth field fields parts ih =>
    have apart : ¬ (c = ':' ∧ rest.head? = some ':') := by
      rintro ⟨rfl, second⟩
      obtain ⟨later, rfl⟩ := List.head?_eq_some_iff.mp second
      exact notBoth later rfl rfl
    rw [colons_infix_cons, or_iff_right apart, ← ih, parts, List.cons.injEq, List.cons.injEq, List.cons.injEq,
      and_iff_right rfl]

theorem splitColons_append (clean : ':' ∉ name) : splitColons (paramsText name rest) = name :: splitColons rest := by
  rw [paramsText]
  induction name with
  | nil => rw [List.nil_append, splitColons]
  | cons c name ih =>
    rw [List.mem_cons, not_or] at clean
    rw [List.cons_append, splitColons, ih clean.2]
    rintro later rfl
    exact absurd rfl clean.1

theorem splitOnceColons_append (clean : ':' ∉ name) : splitOnceColons (paramsText name rest) = some (name, rest) := by
  rw [paramsText]
  induction name with
  | nil => rw [List.nil_append, splitOnceColons]
  | cons c name ih =>
    rw [List.mem_cons, not_or] at clean
    rw [List.cons_append, splitOnceColons, ih clean.2]
    · rfl
    · rintro later rfl
      exact absurd rfl clean.1

theorem splitOnceColons_of_absent (absent : ¬ colons <:+: text) : splitOnceColons text = none := by
  fun_induction splitOnceColons text with
  | case1 => rfl
  | case2 rest => exact absurd ⟨[], rest, rfl⟩ absent
  | case3 c rest notBoth ih =>
    rw [ih fun within => absent (List.infix_cons within)]
    rfl

end Splitting

section Handover

open KeyProvider

variable {kbc : KbsConfig} {env : Env} {text : Text}

/-- The reader of the attestation agent gives the parts back where the second has no separator. -/
theorem tryFrom_iff {name url : Text} (clean : ':' ∉ name) :
    AaKbcParams.tryFrom (paramsText name url) = .ok ⟨name, url⟩ ↔ ¬ colons <:+: url := by
  rw [AaKbcParams.tryFrom, splitColons_append clean, ← splitColons_single_iff]
  constructor
  · intro parsed
    split at parsed
    · rename_i kbc uri same
      cases parsed
      exact (List.cons.inj same).2
    · cases parsed
  · intro single
    rw [single]

theorem tryFrom_of_absent (absent : ¬ colons <:+: text) : AaKbcParams.tryFrom text = .error (.illegalFormat text) := by
  rw [AaKbcParams.tryFrom, splitColons_single_iff.mpr absent]

theorem nativePair_eq {dcConfig : Ocicrypt.DecryptConfig} {later : List (List UInt8)}
    (given : dcConfig.param.lookup "attestation-agent".toList = some (utf8 text :: later)) :
    nativePair dcConfig = match splitOnceColons text with
      | none => .error "keyprovider: invalid kbc::kbs pair"
      | some (kbc, kbs) => .ok (kbc, kbs) := by
  simp only [nativePair, given, List.head?_cons, fromUtf8_utf8]

theorem setVar_clean {key value : Text} (clean : '\x00' ∉ value) :
    setVar key value env = (.ok (), Function.update env key (some (utf8 value))) := by
  rw [setVar, if_neg clean]
  rfl

theorem setVar_nul {key value : Text} (nul : '\x00' ∈ value) :
    setVar key value env = (.error (.panic "failed to set environment variable"), env) := by
  rw [setVar, if_pos nul]
  rfl

/-- Another variable is what it was. -/
theorem setVar_other {key value other : Text} (differs : other ≠ key) :
    (setVar key value env).2.var other = env.var other := by
  by_cases nul : '\x00' ∈ value
  · rw [setVar_nul nul]
  · rw [setVar_clean nul]
    simp only [Env.var, Function.update_of_ne differs]

/-- What is written of the parameters: nothing, if there is a NUL in them. -/
theorem setConfigurationEnvs_params (unset : env.var aaKbcParamsVar = none) (text : Text) :
    (setConfigurationEnvs kbc env).2.var aaKbcParamsVar = some text ↔
      '\x00' ∉ paramsText kbc.name kbc.url ∧ text = paramsText kbc.name kbc.url := by
  by_cases nul : '\x00' ∈ paramsText kbc.name kbc.url
  · have refused : setParams kbc env = (.error (.panic "failed to set environment variable"), env) := by
      rw [setParams, unset, Option.isNone_none, if_pos rfl, setVar_nul nul]
    rw [setConfigurationEnvs, Action.bind_error refused, unset]
    exact iff_of_false (fun held => by cases held) fun both => both.1 nul
  · have written : setParams kbc env =
        (.ok (), Function.update env aaKbcParamsVar (some (utf8 (paramsText kbc.name kbc.url)))) := by
      rw [setParams, unset, Option.isNone_none, if_pos rfl, setVar_clean nul]
    have held : Env.var (Function.update env aaKbcParamsVar (some (utf8 (paramsText kbc.name kbc.url)))) aaKbcParamsVar =
        some (paramsText kbc.name kbc.url) := by
      rw [Env.var, Function.update_self, Option.bind_some, fromUtf8_utf8]
    have kept : (setConfigurationEnvs kbc env).2.var aaKbcParamsVar = some (paramsText kbc.name kbc.url) := by
      rw [setConfigurationEnvs, Action.bind_ok written, ← held]
      cases kbc.kbsCert with
      | none => rfl
      | some kbsCert => exact setVar_other (by decide)
    rw [kept, Option.some_inj, and_iff_right nul, eq_comm]

/-- **KBC parameters survive** the handover, for a name without colons, where the URL has no two
colons in a row, and neither of them a NUL, which no variable takes. The native parser gives every
such pair back, and neither parser takes a text without the separator. -/
theorem kbc_params_survive_iff (unset : env.var aaKbcParamsVar = none) (clean : ':' ∉ kbc.name) :
    ((∃ text, (setConfigurationEnvs kbc env).2.var aaKbcParamsVar = some text ∧
          AaKbcParams.tryFrom text = .ok ⟨kbc.name, kbc.url⟩) ∧
        (∀ dcConfig : Ocicrypt.DecryptConfig, ∀ later,
          dcConfig.param.lookup "attestation-agent".toList = some (utf8 (paramsText kbc.name kbc.url) :: later) →
            nativePair dcConfig = .ok (kbc.name, kbc.url)) ∧
        ∀ text, ¬ colons <:+: text → (∃ error, AaKbcParams.tryFrom text = .error error) ∧
          ∀ dcConfig : Ocicrypt.DecryptConfig, ∀ later,
            dcConfig.param.lookup "attestation-agent".toList = some (utf8 text :: later) →
              ∃ error, nativePair dcConfig = .error error) ↔
      ¬ colons <:+: kbc.url ∧ '\x00' ∉ paramsText kbc.name kbc.url := by
  have native : ∀ dcConfig : Ocicrypt.DecryptConfig, ∀ later,
      dcConfig.param.lookup "attestation-agent".toList = some (utf8 (paramsText kbc.name kbc.url) :: later) →
        nativePair dcConfig = .ok (kbc.name, kbc.url) := by
    intro dcConfig later given
    rw [nativePair_eq given, splitOnceColons_append clean]
  have refuses : ∀ text, ¬ colons <:+: text → (∃ error, AaKbcParams.tryFrom text = .error error) ∧
      ∀ dcConfig : Ocicrypt.DecryptConfig, ∀ later,
        dcConfig.param.lookup "attestation-agent".toList = some (utf8 text :: later) →
          ∃ error, nativePair dcConfig = .error error := by
    intro text absent
    refine ⟨⟨_, tryFrom_of_absent absent⟩, fun dcConfig later given => ?_⟩
    rw [nativePair_eq given, splitOnceColons_of_absent absent]
    exact ⟨_, rfl⟩
  rw [and_iff_left ⟨native, refuses⟩, ← tryFrom_iff clean]
  simp only [setConfigurationEnvs_params unset]
  constructor
  · rintro ⟨text, ⟨noNul, rfl⟩, parsed⟩
    exact ⟨parsed, noNul⟩
  · rintro ⟨parsed, noNul⟩
    exact ⟨_, ⟨noNul, rfl⟩, parsed⟩

/-- A KBS behind a host name, and an environment without variables. -/
def namedKbs : KbsConfig := ⟨"cc_kbc".toList, "http://kbs:8080".toList, none⟩

def emptyEnv : Env := fun _ => none

theorem named_kbs_survives : ∃ text, (setConfigurationEnvs namedKbs emptyEnv).2.var aaKbcParamsVar = some text ∧
    AaKbcParams.tryFrom text = .ok ⟨namedKbs.name, namedKbs.url⟩ :=
  ((@kbc_params_survive_iff namedKbs emptyEnv rfl (by decide)).mpr
    ⟨splitColons_single_iff.mp rfl, by decide⟩).1

/-- A KBS on the loopback address of IPv6, with the same name. -/
def loopbackKbs : KbsConfig := ⟨"cc_kbc".toList, "http://[::1]:8080".toList, none⟩

theorem ipv6_address_lost : ¬ ∀ (kbc : KbsConfig) (env : Env), env.var aaKbcParamsVar = none → ':' ∉ kbc.name →
    ∃ text, (setConfigurationEnvs kbc env).2.var aaKbcParamsVar = some text ∧
      AaKbcParams.tryFrom text = .ok ⟨kbc.name, kbc.url⟩ := by
  intro holds
  obtain ⟨text, held, parsed⟩ := holds loopbackKbs emptyEnv rfl (by decide)
  obtain ⟨_, rfl⟩ := (setConfigurationEnvs_params rfl text).mp held
  exact (tryFrom_iff (by decide)).mp parsed ⟨"http://[".toList, "1]:8080".toList, rfl⟩

end Handover
end GuestComponents.Hub
