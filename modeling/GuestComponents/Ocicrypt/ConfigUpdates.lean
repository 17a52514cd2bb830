import GuestComponents.Lib.AllOrNothing
import GuestComponents.Lib.MultiMap
import GuestComponents.Ocicrypt.KeyWrap

/-! The calls that add keys, certificates and key providers to the configurations. Private keys
and their passwords are two lists under two names, and position tells which password is whose.
A call that gives the first list and fails at the second, one that takes lists of two lengths,
and a key provider that is called as one of the lists is leave the two apart;
`config_updates_paired` says that no others do. -/
namespace GuestComponents.Ocicrypt
open Lib Lib.Text

/-- `update_param` of either configuration, which the error names. -/
def updateParam (owner : String) (key : Text) (value : List Bytes) : Action Params String Unit :=
  Action.step (if value = [] then some (owner ++ ": value of " ++ String.ofList key ++ " is None") else none)
    (MultiMap.extend key value)

/-- The name and the value in a key provider's text. `find` counts the bytes before the colon,
`take` and `skip` count characters. -/
def providerEntry (val : Text) : Text × List Bytes :=
  if ':' ∈ val then
    let index := (utf8 (val.takeWhile (· ≠ ':'))).length
    (val.take index, [utf8 (val.drop (index + 1))])
  else (val, [utf8 "Enabled".toList])

def withKeyProvider (owner : String) : List Bytes → Action Params String Unit
  | [] => pure ()
  | v :: keyProviders => do
    let entry := providerEntry (fromUtf8Lossy v)
    updateParam owner entry.1 entry.2
    withKeyProvider owner keyProviders

namespace DecryptConfig

/-- A computation over the parameters, as one over the configuration. -/
def onParam (action : Action Params String Unit) : Action DecryptConfig String Unit :=
  Action.zoom (·.param) (fun dc param => { dc with param }) action

def updateParam (key : Text) (value : List Bytes) : Action DecryptConfig String Unit :=
  onParam (Ocicrypt.updateParam "decrypt config" key value)

def decryptWithPrivKeys (privKeys privKeyPasswords : List Bytes) : Action DecryptConfig String Unit :=
  if privKeys.length ≠ privKeyPasswords.length then
    Action.fail "Length of privKeys should match with privKeysPasswords"
  else do
    updateParam "privkeys".toList privKeys
    updateParam "privkeys-passwords".toList privKeyPasswords

def decryptWithX509s (x509s : List Bytes) : Action DecryptConfig String Unit :=
  updateParam "x509s".toList x509s

def decryptWithGpg (gpgPrivKeys gpgPrivPwds : List Bytes) : Action DecryptConfig String Unit := do
  updateParam "gpg-privatekeys".toList gpgPrivKeys
  updateParam "gpg-privatekeys-passwords".toList gpgPrivPwds

def decryptWithPkcs11 (pkcs11Config pkcs11Yaml : List Bytes) : Action DecryptConfig String Unit := do
  updateParam "pkcs11-config".toList pkcs11Config
  updateParam "pkcs11-yamls".toList pkcs11Yaml

def decryptWithKeyProvider (keyProviders : List Bytes) : Action DecryptConfig String Unit :=
  onParam (withKeyProvider "decrypt config" keyProviders)

end DecryptConfig

namespace EncryptConfig

/-- A computation over the parameters, as one over the configuration. -/
def onParam (action : Action Params String Unit) : Action EncryptConfig String Unit :=
  Action.zoom (·.param) (fun ec param => { ec with param }) action

def updateParam (key : Text) (value : List Bytes) : Action EncryptConfig String Unit :=
  onParam (Ocicrypt.updateParam "encrypt config" key value)

def encryptWithJwe (pubkeys : List Bytes) : Action EncryptConfig String Unit :=
  updateParam "pubkeys".toList pubkeys

def encryptWithPkcs7 (x509s : List Bytes) : Action EncryptConfig String Unit :=
  updateParam "x509s".toList x509s

def encryptWithGpg (gpgRecipients : List Bytes) (gpgPubRingFile : Bytes) : Action EncryptConfig String Unit := do
  updateParam "gpg-recipients".toList gpgRecipients
  updateParam "gpg-pubkeyringfile".toList [gpgPubRingFile]

/-- The configuration and the keys in YAML, where there are any. -/
def pkcs11Yamls (pkcs11Config pkcs11Yaml : List Bytes) : Action EncryptConfig String Unit :=
  if pkcs11Yaml ≠ [] then do
    updateParam "pkcs11-config".toList pkcs11Config
    updateParam "pkcs11-yamls".toList pkcs11Yaml
  else pure ()

def encryptWithPkcs11 (pkcs11Config pkcs11Pubkeys pkcs11Yaml : List Bytes) :
    Action EncryptConfig String Unit :=
  if pkcs11Pubkeys ≠ [] then do
    updateParam "pkcs11-pubkeys".toList pkcs11Pubkeys
    pkcs11Yamls pkcs11Config pkcs11Yaml
  else pkcs11Yamls pkcs11Config pkcs11Yaml

def encryptWithKeyProvider (keyProviders : List Bytes) : Action EncryptConfig String Unit :=
  onParam (withKeyProvider "encrypt config" keyProviders)

end EncryptConfig

/-- `config.rs::CryptoConfig`. -/
structure CryptoConfig where
  encryptConfig : Option EncryptConfig
  decryptConfig : Option DecryptConfig

inductive DecryptCall where
  | privKeys (privKeys privKeyPasswords : List Bytes)
  | x509s (x509s : List Bytes)
  | gpg (gpgPrivKeys gpgPrivPwds : List Bytes)
  | pkcs11 (pkcs11Config pkcs11Yaml : List Bytes)
  | keyProvider (keyProviders : List Bytes)

def DecryptCall.run : DecryptCall → Action DecryptConfig String Unit
  | privKeys keys passwords => DecryptConfig.decryptWithPrivKeys keys passwords
  | x509s certs => DecryptConfig.decryptWithX509s certs
  | gpg keys passwords => DecryptConfig.decryptWithGpg keys passwords
  | pkcs11 config yaml => DecryptConfig.decryptWithPkcs11 config yaml
  | keyProvider keyProviders => DecryptConfig.decryptWithKeyProvider keyProviders

inductive EncryptCall where
  | jwe (pubkeys : List Bytes)
  | pkcs7 (x509s : List Bytes)
  | gpg (gpgRecipients : List Bytes) (gpgPubRingFile : Bytes)
  | pkcs11 (pkcs11Config pkcs11Pubkeys pkcs11Yaml : List Bytes)
  | keyProvider (keyProviders : List Bytes)

def EncryptCall.run : EncryptCall → Action EncryptConfig String Unit
  | jwe pubkeys => EncryptConfig.encryptWithJwe pubkeys
  | pkcs7 certs => EncryptConfig.encryptWithPkcs7 certs
  | gpg recipients ringFile => EncryptConfig.encryptWithGpg recipients ringFile
  | pkcs11 config pubkeys yaml => EncryptConfig.encryptWithPkcs11 config pubkeys yaml
  | keyProvider keyProviders => EncryptConfig.encryptWithKeyProvider keyProviders

/-- A call on one of the configurations in a `CryptoConfig`: on the one for encryption, on the
one for decryption, and on the one for decryption within the one for encryption. -/
inductive ConfigCall where
  | encrypt (call : EncryptCall)
  | decrypt (call : DecryptCall)
  | decryptWithin (call : DecryptCall)

namespace CryptoConfig

/-- There is no call on a configuration that is not there. -/
def perform (config : CryptoConfig) : ConfigCall → Option (Except String Unit × CryptoConfig)
  | .encrypt call => config.encryptConfig.map fun ec =>
      ((call.run ec).1, { config with encryptConfig := some (call.run ec).2 })
  | .decrypt call => config.decryptConfig.map fun dc =>
      ((call.run dc).1, { config with decryptConfig := some (call.run dc).2 })
  | .decryptWithin call => config.encryptConfig.bind fun ec => ec.decryptConfig.map fun dc =>
      ((call.run dc).1,
        { config with encryptConfig := some { ec with decryptConfig := some (call.run dc).2 } })

end CryptoConfig

/-- A call that was made, between the configurations before and after it. -/
structure Record where
  before : CryptoConfig
  call : ConfigCall
  result : Except String Unit
  after : CryptoConfig

/-- The calls, made one after the other. -/
def CryptoConfig.records : CryptoConfig → List ConfigCall → Option (List Record)
  | _, [] => some []
  | config, call :: calls => do
    let performed ← config.perform call
    let later ← performed.2.records calls
    some (⟨config, call, performed.1, performed.2⟩ :: later)

/-- A call that fails has changed nothing. -/
def Record.Atomic (record : Record) : Prop := ∀ error, record.result = .error error → record.after = record.before

def privKeysName : Text := "privkeys".toList

def privKeysPasswordsName : Text := "privkeys-passwords".toList

def gpgPrivKeysName : Text := "gpg-privatekeys".toList

def gpgPrivPwdsName : Text := "gpg-privatekeys-passwords".toList

/-- What the caller of a function gives it, under the names that this is kept under. -/
def DecryptCall.entries : DecryptCall → List (Text × List Bytes)
  | privKeys keys passwords => [(privKeysName, keys), (privKeysPasswordsName, passwords)]
  | x509s certs => [("x509s".toList, certs)]
  | gpg keys passwords => [(gpgPrivKeysName, keys), (gpgPrivPwdsName, passwords)]
  | pkcs11 config yaml => [("pkcs11-config".toList, config), ("pkcs11-yamls".toList, yaml)]
  | keyProvider keyProviders => keyProviders.map fun v => providerEntry (fromUtf8Lossy v)

/-- Private keys, each with its password. -/
structure KeyPairs where
  privKeys : List (Bytes × Bytes)
  gpgPrivKeys : List (Bytes × Bytes)

def KeyPairs.none : KeyPairs := ⟨[], []⟩

instance : Append KeyPairs where
  append pairs more := ⟨pairs.privKeys ++ more.privKeys, pairs.gpgPrivKeys ++ more.gpgPrivKeys⟩

/-- The pairs in what the caller gives: each key with the password at its position. -/
def DecryptCall.pairs (call : DecryptCall) : KeyPairs where
  privKeys := (MultiMap.under call.entries privKeysName).zip (MultiMap.under call.entries privKeysPasswordsName)
  gpgPrivKeys := (MultiMap.under call.entries gpgPrivKeysName).zip (MultiMap.under call.entries gpgPrivPwdsName)

/-- The two lists of private keys and the two of passwords are the keys and the passwords of
the pairs, position by position. -/
structure DecryptConfig.PairedAs (dc : DecryptConfig) (pairs : KeyPairs) : Prop where
  privKeys : MultiMap.values dc.param privKeysName = pairs.privKeys.map Prod.fst
  privKeysPasswords : MultiMap.values dc.param privKeysPasswordsName = pairs.privKeys.map Prod.snd
  gpgPrivKeys : MultiMap.values dc.param gpgPrivKeysName = pairs.gpgPrivKeys.map Prod.fst
  gpgPrivPwds : MultiMap.values dc.param gpgPrivPwdsName = pairs.gpgPrivKeys.map Prod.snd

/-- The pairs of each of the configurations for decryption in a `CryptoConfig`. -/
structure ConfigPairs where
  decrypt : KeyPairs
  within : KeyPairs

def CryptoConfig.PairedAs (config : CryptoConfig) (pairs : ConfigPairs) : Prop :=
  (∀ dc, config.decryptConfig = some dc → dc.PairedAs pairs.decrypt) ∧
    ∀ ec dc, config.encryptConfig = some ec → ec.decryptConfig = some dc → dc.PairedAs pairs.within

/-- The pairs after a call: those that it gives come after the others when it succeeds. -/
def KeyPairs.after (pairs : KeyPairs) (call : DecryptCall) : Except String Unit → KeyPairs
  | .ok () => pairs ++ call.pairs
  | .error _ => pairs

def ConfigPairs.after (pairs : ConfigPairs) (call : ConfigCall) (result : Except String Unit) : ConfigPairs :=
  match call with
  | .encrypt _ => pairs
  | .decrypt call => { pairs with decrypt := pairs.decrypt.after call result }
  | .decryptWithin call => { pairs with within := pairs.within.after call result }

/-- No failure has changed anything, and the lists pair up after every call. -/
def Kept (pairs : ConfigPairs) : List Record → Prop
  | [] => True
  | record :: records => record.Atomic ∧ record.after.PairedAs (pairs.after record.call record.result) ∧
      Kept (pairs.after record.call record.result) records

/-- How many of the key providers go by the name, which ends before the first colon. -/
def named (keyProviders : List Bytes) (name : Text) : Nat :=
  keyProviders.countP fun v => (fromUtf8Lossy v).takeWhile (· ≠ ':') = name

/-- The call keeps keys and passwords together, and gives nothing before what it is refused for. -/
def DecryptCall.Even : DecryptCall → Prop
  | privKeys _ _ => True
  | x509s _ => True
  | gpg keys passwords => keys = [] ∨ keys.length = passwords.length
  | pkcs11 config yaml => config = [] ∨ yaml ≠ []
  | keyProvider keyProviders => named keyProviders privKeysName = named keyProviders privKeysPasswordsName ∧
      named keyProviders gpgPrivKeysName = named keyProviders gpgPrivPwdsName

def EncryptCall.Even : EncryptCall → Prop
  | pkcs11 config pubkeys yaml => pubkeys = [] ∨ yaml = [] ∨ config ≠ []
  | _ => True

def ConfigCall.Even : ConfigCall → Prop
  | encrypt call => call.Even
  | decrypt call => call.Even
  | decryptWithin call => call.Even

/-- Entries taken in one after the other, up to the first that has no values. -/
def updateAll (owner : String) : List (Text × List Bytes) → Action Params String Unit
  | [] => pure ()
  | (key, value) :: entries => do
    updateParam owner key value
    updateAll owner entries

section Entries

variable {owner : String} {key : Text} {value : List Bytes} {entries : List (Text × List Bytes)} {param : Params}

theorem updateParam_empty (owner : String) (key : Text) (param : Params) :
    ∃ error, updateParam owner key [] param = (.error error, param) := ⟨_, rfl⟩

theorem updateParam_filled (filled : value ≠ []) :
    updateParam owner key value param = (.ok (), MultiMap.extend key value param) := by
  rw [updateParam, if_neg filled]
  rfl

theorem updateAll_singleton (owner : String) (key : Text) (value : List Bytes) :
    updateAll owner [(key, value)] = updateParam owner key value := bind_pure_unit

theorem updateAll_empty (owner : String) (key : Text) (entries : List (Text × List Bytes)) (param : Params) :
    ∃ error, updateAll owner ((key, []) :: entries) param = (.error error, param) :=
  Action.bind_fails _ (updateParam_empty owner key param)

theorem updateAll_cons (filled : value ≠ []) :
    updateAll owner ((key, value) :: entries) param = updateAll owner entries (MultiMap.extend key value param) :=
  Action.bind_ok (updateParam_filled filled)

theorem updateAll_filled (filled : ∀ entry ∈ entries, entry.2 ≠ []) :
    updateAll owner entries param =
      (.ok (), entries.foldl (fun held entry => MultiMap.extend entry.1 entry.2 held) param) := by
  induction entries generalizing param with
  | nil => rfl
  | cons entry entries ih =>
    obtain ⟨here, later⟩ := List.forall_mem_cons.mp filled
    obtain ⟨key, value⟩ := entry
    rw [updateAll_cons here, ih later, List.foldl_cons]

/-- An entry without values stops the updates, and those before it stay. -/
theorem updateAll_unfilled (unfilled : ¬ ∀ entry ∈ entries, entry.2 ≠ []) :
    ∃ error after added, updateAll owner entries param = (.error error, after) ∧ MultiMap.Grows param added after ∧
      ∀ key value rest, entries = (key, value) :: rest → added key = [] → value = [] := by
  induction entries generalizing param with
  | nil => exact absurd (List.forall_mem_nil _) unfilled
  | cons entry entries ih =>
    obtain ⟨key, value⟩ := entry
    by_cases filled : value = []
    · subst filled
      obtain ⟨error, failed⟩ := updateAll_empty owner key entries param
      refine ⟨error, param, _, failed, .refl param, ?_⟩
      rintro _ _ _ ⟨⟩ _
      rfl
    · have later : ¬ ∀ entry ∈ entries, entry.2 ≠ [] := fun others =>
        unfilled (List.forall_mem_cons.mpr ⟨filled, others⟩)
      obtain ⟨error, after, added, failed, grows, _⟩ := ih later
      refine ⟨error, after, _, (updateAll_cons filled).trans failed,
        (MultiMap.grows_extend param key value).trans grows, ?_⟩
      rintro _ _ _ ⟨⟩ nothing
      rw [if_pos rfl] at nothing
      exact (List.append_eq_nil_iff.mp nothing).1

/-- Only the first of the entries may be without values, for nothing to stay of a failure. -/
theorem updateAll_atomic_iff :
    (∀ error, (updateAll owner entries param).1 = .error error → (updateAll owner entries param).2 = param) ↔
      (∀ entry ∈ entries, entry.2 ≠ []) ∨ ∃ key rest, entries = (key, []) :: rest := by
  by_cases filled : ∀ entry ∈ entries, entry.2 ≠ []
  · constructor
    · intro _
      exact .inl filled
    · intro _ error failed
      rw [updateAll_filled filled] at failed
      cases failed
  · obtain ⟨error, after, added, failed, grows, first⟩ := updateAll_unfilled filled
    rw [failed]
    constructor
    · intro atomic
      have unchanged : after = param := atomic error rfl
      cases entries with
      | nil => exact absurd (List.forall_mem_nil _) filled
      | cons entry entries =>
        obtain ⟨key, value⟩ := entry
        have empty : value = [] := first key value entries rfl <| by
          by_contra nonempty
          exact grows.ne nonempty unchanged
        exact .inr ⟨key, entries, by rw [empty]⟩
    · rintro (impossible | ⟨key, rest, rfl⟩) _ _
      · exact absurd impossible filled
      · obtain ⟨_, refused⟩ := updateAll_empty owner key rest param
        rw [refused] at failed
        cases failed
        rfl

end Entries

section Providers

variable {name val : Text}

theorem length_utf8_of_ascii {text : Text} (ascii : ∀ c ∈ text, c.utf8Size = 1) :
    (utf8 text).length = text.length := by
  induction text with
  | nil => rfl
  | cons c text ih =>
    obtain ⟨here, later⟩ := List.forall_mem_cons.mp ascii
    rw [utf8, List.flatMap_cons, List.length_append, String.length_utf8EncodeChar, here, ← utf8, ih later,
      List.length_cons, Nat.add_comm]

theorem takeWhile_colon {before after : Text} (first : ':' ∉ before) :
    (before ++ ':' :: after).takeWhile (· ≠ ':') = before := by
  rw [List.takeWhile_append_of_pos]
  · simp
  · intro c listed
    simpa using fun same : c = ':' => first (same ▸ listed)

/-- The count of bytes does no harm to a name in ASCII: it is what stands before the colon. -/
theorem providerEntry_name_iff (ascii : ∀ c ∈ name, c.utf8Size = 1) :
    (providerEntry val).1 = name ↔ val.takeWhile (· ≠ ':') = name := by
  by_cases colon : ':' ∈ val
  · obtain ⟨before, after, rfl, absent⟩ := List.eq_append_cons_of_mem colon
    have long := length_le_utf8 before
    simp only [providerEntry, if_pos colon, takeWhile_colon absent]
    rw [List.take_append, List.take_of_length_le long]
    constructor
    · intro same
      have within : ∀ c ∈ before, c.utf8Size = 1 := fun c listed =>
        ascii c (same ▸ List.mem_append_left _ listed)
      rw [length_utf8_of_ascii within, Nat.sub_self, List.take_zero, List.append_nil] at same
      exact same
    · rintro rfl
      rw [length_utf8_of_ascii ascii, Nat.sub_self, List.take_zero, List.append_nil]
  · have whole : val.takeWhile (· ≠ ':') = val := by
      rw [List.takeWhile_eq_self_iff]
      intro c listed
      simpa using fun same : c = ':' => colon (same ▸ listed)
    rw [providerEntry, if_neg colon, whole]

theorem providerEntry_single (val : Text) : ∃ value, (providerEntry val).2 = [value] := by
  unfold providerEntry
  split
  · exact ⟨_, rfl⟩
  · exact ⟨_, rfl⟩

theorem withKeyProvider_eq (owner : String) (keyProviders : List Bytes) :
    withKeyProvider owner keyProviders = updateAll owner (DecryptCall.keyProvider keyProviders).entries := by
  induction keyProviders with
  | nil => rfl
  | cons v keyProviders ih =>
    rw [withKeyProvider, ih]
    rfl

theorem providerEntries_filled (keyProviders : List Bytes) :
    ∀ entry ∈ (DecryptCall.keyProvider keyProviders).entries, entry.2 ≠ [] := by
  intro entry listed
  obtain ⟨v, _, rfl⟩ := List.mem_map.mp listed
  obtain ⟨value, single⟩ := providerEntry_single (fromUtf8Lossy v)
  rw [single]
  exact List.cons_ne_nil _ _

theorem length_under_providers (ascii : ∀ c ∈ name, c.utf8Size = 1) (keyProviders : List Bytes) :
    (MultiMap.under (DecryptCall.keyProvider keyProviders).entries name).length = named keyProviders name := by
  induction keyProviders with
  | nil => rfl
  | cons v keyProviders ih =>
    obtain ⟨value, single⟩ := providerEntry_single (fromUtf8Lossy v)
    have here := @providerEntry_name_iff name (fromUtf8Lossy v) ascii
    rw [DecryptCall.entries, List.map_cons, MultiMap.under, List.flatMap_cons, List.length_append, ← MultiMap.under,
      ← DecryptCall.entries, ih, named, named, List.countP_cons, single, Nat.add_comm]
    by_cases same : (fromUtf8Lossy v).takeWhile (· ≠ ':') = name
    · simp only [here.mpr same, same, if_true, decide_true, List.length_singleton]
    · simp only [mt here.mp same, same, if_false, decide_false, List.length_nil, Bool.false_eq_true]

end Providers

section Decrypting

variable {dc dc' : DecryptConfig} {pairs : KeyPairs} {call : DecryptCall}

theorem DecryptConfig.onParam_bind (first second : Action Params String Unit) :
    (DecryptConfig.onParam first >>= fun _ => DecryptConfig.onParam second) =
      DecryptConfig.onParam (first >>= fun _ => second) := by
  funext dc
  simp only [Action.bind_apply, DecryptConfig.onParam, Action.zoom]
  rcases first dc.param with ⟨error | _, param⟩
  · rfl
  · rfl

/-- Keys and passwords of which one has more than the other are refused at once. -/
theorem DecryptCall.run_mismatched {keys passwords : List Bytes} (mismatched : keys.length ≠ passwords.length) :
    (DecryptCall.privKeys keys passwords).run dc =
      (.error "Length of privKeys should match with privKeysPasswords", dc) := by
  rw [DecryptCall.run, DecryptConfig.decryptWithPrivKeys, if_pos mismatched]
  rfl

/-- Otherwise a call takes its entries in. -/
theorem DecryptCall.run_eq
    (matched : ∀ keys passwords, call = .privKeys keys passwords → keys.length = passwords.length) :
    call.run = DecryptConfig.onParam (updateAll "decrypt config" call.entries) := by
  have two : ∀ key value key' value',
      (DecryptConfig.updateParam key value >>= fun _ => DecryptConfig.updateParam key' value') =
        DecryptConfig.onParam (updateAll "decrypt config" [(key, value), (key', value')]) := by
    intro key value key' value'
    rw [DecryptConfig.updateParam, DecryptConfig.updateParam, DecryptConfig.onParam_bind, ← updateAll_singleton _ key']
    rfl
  cases call with
  | privKeys keys passwords =>
    rw [DecryptCall.run, DecryptConfig.decryptWithPrivKeys, if_neg (not_not_intro (matched keys passwords rfl))]
    exact two _ keys _ passwords
  | x509s certs => rw [DecryptCall.entries, updateAll_singleton]; rfl
  | gpg keys passwords => exact two _ keys _ passwords
  | pkcs11 config yaml => exact two _ config _ yaml
  | keyProvider keyProviders => rw [← withKeyProvider_eq]; rfl

/-- As many keys as passwords, of either kind. -/
def DecryptCall.Matched (call : DecryptCall) : Prop :=
  (MultiMap.under call.entries privKeysName).length = (MultiMap.under call.entries privKeysPasswordsName).length ∧
    (MultiMap.under call.entries gpgPrivKeysName).length = (MultiMap.under call.entries gpgPrivPwdsName).length

private theorem zip_iff {keys passwords : List Bytes} :
    keys = (keys.zip passwords).map Prod.fst ∧ passwords = (keys.zip passwords).map Prod.snd ↔
      keys.length = passwords.length := by
  constructor
  · rintro ⟨first, second⟩
    have one := congrArg List.length first
    have two := congrArg List.length second
    rw [List.length_map] at one two
    exact one.trans two.symm
  · intro same
    exact ⟨(List.map_fst_zip same.le).symm, (List.map_snd_zip same.ge).symm⟩

/-- Lists that paired up still do after entries came in, if those pair up. -/
theorem DecryptConfig.PairedAs.append_iff (paired : dc.PairedAs pairs)
    (grows : MultiMap.Grows dc.param (MultiMap.under call.entries) dc'.param) :
    dc'.PairedAs (pairs ++ call.pairs) ↔ call.Matched := by
  have keys : (pairs ++ call.pairs).privKeys = pairs.privKeys ++ call.pairs.privKeys := rfl
  have gpgKeys : (pairs ++ call.pairs).gpgPrivKeys = pairs.gpgPrivKeys ++ call.pairs.gpgPrivKeys := rfl
  have one := grows.values_eq_iff paired.privKeys (call.pairs.privKeys.map Prod.fst)
  have two := grows.values_eq_iff paired.privKeysPasswords (call.pairs.privKeys.map Prod.snd)
  have three := grows.values_eq_iff paired.gpgPrivKeys (call.pairs.gpgPrivKeys.map Prod.fst)
  have four := grows.values_eq_iff paired.gpgPrivPwds (call.pairs.gpgPrivKeys.map Prod.snd)
  rw [← List.map_append, ← keys] at one two
  rw [← List.map_append, ← gpgKeys] at three four
  rw [DecryptCall.Matched, ← zip_iff, ← zip_iff]
  constructor
  · intro after
    exact ⟨⟨one.mp after.privKeys, two.mp after.privKeysPasswords⟩,
      three.mp after.gpgPrivKeys, four.mp after.gpgPrivPwds⟩
  · rintro ⟨⟨first, second⟩, third, fourth⟩
    exact ⟨one.mpr first, two.mpr second, three.mpr third, four.mpr fourth⟩

/-- A call that takes its entries in keeps what it should if it may be refused for the first of
them only, and otherwise has as many keys as passwords. -/
theorem DecryptCall.kept_iff_of_entries (paired : dc.PairedAs pairs)
    (ran : call.run = DecryptConfig.onParam (updateAll "decrypt config" call.entries)) :
    (∀ error, (call.run dc).1 = .error error → (call.run dc).2 = dc) ∧
        (call.run dc).2.PairedAs (pairs.after call (call.run dc).1) ↔
      (∃ key rest, call.entries = (key, []) :: rest) ∨ (∀ entry ∈ call.entries, entry.2 ≠ []) ∧
      call.Matched := by
  have atomic := @updateAll_atomic_iff "decrypt config" call.entries dc.param
  rw [ran]
  by_cases filled : ∀ entry ∈ call.entries, entry.2 ≠ []
  · have done : DecryptConfig.onParam (updateAll "decrypt config" call.entries) dc = (.ok (), ⟨_⟩) :=
      Action.zoom_eq (updateAll_filled filled)
    have notRefused : ¬ ∃ key rest, call.entries = (key, []) :: rest := by
      rintro ⟨key, rest, same⟩
      exact filled (key, []) (same ▸ List.mem_cons_self) rfl
    rw [done]
    simp only [reduceCtorEq, false_implies, implies_true, true_and, KeyPairs.after, notRefused, false_or]
    rw [and_iff_right filled]
    exact paired.append_iff (MultiMap.grows_foldl call.entries dc.param)
  · obtain ⟨error, after, added, failed, grows, first⟩ := updateAll_unfilled filled
    have done : DecryptConfig.onParam (updateAll "decrypt config" call.entries) dc = (.error error, ⟨after⟩) :=
      Action.zoom_eq failed
    rw [failed] at atomic
    rw [done]
    constructor
    · rintro ⟨unchanged, _⟩
      have same : after = dc.param := congrArg DecryptConfig.param (unchanged error rfl)
      exact (atomic.mp fun _ _ => same).elim (fun impossible => absurd impossible filled) .inl
    · rintro (refused | ⟨impossible, _⟩)
      · have same : after = dc.param := atomic.mpr (.inr refused) error rfl
        rw [same]
        exact ⟨fun _ _ => rfl, paired⟩
      · exact absurd impossible filled

private theorem one_entry_iff {key : Text} {value : List Bytes} {rest : Prop} :
    ((∃ key' later, [(key, value)] = (key', ([] : List Bytes)) :: later) ∨
      (∀ entry ∈ [(key, value)], entry.2 ≠ []) ∧ rest) ↔ value = [] ∨ rest := by
  by_cases empty : value = []
  · simp [empty]
  · simp [empty]

private theorem two_entries_iff {key key' : Text} {value value' : List Bytes} {rest : Prop} :
    ((∃ other later, [(key, value), (key', value')] = (other, ([] : List Bytes)) :: later) ∨
      (∀ entry ∈ [(key, value), (key', value')], entry.2 ≠ []) ∧ rest) ↔
        value = [] ∨ value' ≠ [] ∧ rest := by
  by_cases empty : value = []
  · simp [empty]
  · simp [empty]

private theorem names : privKeysName ≠ privKeysPasswordsName ∧ privKeysName ≠ gpgPrivKeysName ∧
    privKeysName ≠ gpgPrivPwdsName ∧ privKeysPasswordsName ≠ gpgPrivKeysName ∧
    privKeysPasswordsName ≠ gpgPrivPwdsName ∧ gpgPrivKeysName ≠ gpgPrivPwdsName := by decide

private theorem ascii_of_all {name : Text} (all : name.all (·.utf8Size == 1) = true) :
    ∀ c ∈ name, c.utf8Size = 1 := by
  simpa using all

theorem matched_privKeys {keys passwords : List Bytes} :
    (DecryptCall.privKeys keys passwords).Matched ↔ keys.length = passwords.length := by
  simp [DecryptCall.Matched, DecryptCall.entries, MultiMap.under, names, names.1.symm]

theorem matched_gpg {keys passwords : List Bytes} :
    (DecryptCall.gpg keys passwords).Matched ↔ keys.length = passwords.length := by
  simp [DecryptCall.Matched, DecryptCall.entries, MultiMap.under, names, Ne.symm]

/-- Entries under other names are no keys and no passwords. -/
theorem matched_of_other (other : ∀ name ∈ [privKeysName, privKeysPasswordsName, gpgPrivKeysName, gpgPrivPwdsName],
    name ∉ call.entries.map Prod.fst) : call.Matched := by
  simp only [List.forall_mem_cons] at other
  obtain ⟨one, two, three, four, _⟩ := other
  rw [DecryptCall.Matched, MultiMap.under_of_absent one, MultiMap.under_of_absent two,
    MultiMap.under_of_absent three, MultiMap.under_of_absent four]
  exact ⟨rfl, rfl⟩

/-- What a call leaves of a configuration whose lists pair up. -/
theorem DecryptCall.kept_iff (paired : dc.PairedAs pairs) :
    (∀ error, (call.run dc).1 = .error error → (call.run dc).2 = dc) ∧
        (call.run dc).2.PairedAs (pairs.after call (call.run dc).1) ↔ call.Even := by
  cases call with
  | privKeys keys passwords =>
    by_cases matched : keys.length = passwords.length
    · rw [DecryptCall.kept_iff_of_entries paired (DecryptCall.run_eq (by rintro _ _ ⟨⟩; exact matched))]
      refine iff_of_true (two_entries_iff.mpr ?_) trivial
      by_cases empty : keys = []
      · exact .inl empty
      · have given : passwords ≠ [] := List.ne_nil_of_length_pos (matched ▸ List.length_pos_of_ne_nil empty)
        exact .inr ⟨given, matched_privKeys.mpr matched⟩
    · rw [DecryptCall.run_mismatched matched]
      exact iff_of_true ⟨fun _ _ => rfl, paired⟩ trivial
  | x509s certs =>
    rw [DecryptCall.kept_iff_of_entries paired (DecryptCall.run_eq (by rintro _ _ ⟨⟩))]
    have matched : (DecryptCall.x509s certs).Matched := matched_of_other <| by
      simp only [DecryptCall.entries, List.map_cons, List.map_nil]
      decide
    exact iff_of_true (one_entry_iff.mpr (.inr matched)) trivial
  | gpg keys passwords =>
    rw [DecryptCall.kept_iff_of_entries paired (DecryptCall.run_eq (by rintro _ _ ⟨⟩))]
    refine two_entries_iff.trans ?_
    rw [matched_gpg, DecryptCall.Even]
    by_cases empty : keys = []
    · simp only [empty, true_or]
    · have given : keys.length = passwords.length → passwords ≠ [] := fun same =>
        List.ne_nil_of_length_pos (same ▸ List.length_pos_of_ne_nil empty)
      simp only [empty, false_or, and_iff_right_of_imp given]
  | pkcs11 config yaml =>
    rw [DecryptCall.kept_iff_of_entries paired (DecryptCall.run_eq (by rintro _ _ ⟨⟩))]
    have matched : (DecryptCall.pkcs11 config yaml).Matched := matched_of_other <| by
      simp only [DecryptCall.entries, List.map_cons, List.map_nil]
      decide
    refine two_entries_iff.trans ?_
    simp only [matched, and_true, DecryptCall.Even]
  | keyProvider keyProviders =>
    rw [DecryptCall.kept_iff_of_entries paired (DecryptCall.run_eq (by rintro _ _ ⟨⟩))]
    have filled := providerEntries_filled keyProviders
    have notRefused : ¬ ∃ key rest, (DecryptCall.keyProvider keyProviders).entries = (key, []) :: rest := by
      rintro ⟨key, rest, same⟩
      exact filled (key, []) (same ▸ List.mem_cons_self) rfl
    have one := ascii_of_all (show privKeysName.all (·.utf8Size == 1) = true by decide)
    have two := ascii_of_all (show privKeysPasswordsName.all (·.utf8Size == 1) = true by decide)
    have three := ascii_of_all (show gpgPrivKeysName.all (·.utf8Size == 1) = true by decide)
    have four := ascii_of_all (show gpgPrivPwdsName.all (·.utf8Size == 1) = true by decide)
    rw [or_iff_right notRefused, and_iff_right filled, DecryptCall.Matched, DecryptCall.Even, length_under_providers one,
      length_under_providers two, length_under_providers three, length_under_providers four]

end Decrypting

section Encrypting

variable {ec : EncryptConfig} {call : EncryptCall}

theorem EncryptConfig.onParam_bind (first second : Action Params String Unit) :
    (EncryptConfig.onParam first >>= fun _ => EncryptConfig.onParam second) =
      EncryptConfig.onParam (first >>= fun _ => second) := by
  funext ec
  simp only [Action.bind_apply, EncryptConfig.onParam, Action.zoom]
  rcases first ec.param with ⟨error | _, param⟩
  · rfl
  · rfl

/-- What the caller of a function gives it; of PKCS #11 only what there is. -/
def EncryptCall.entries : EncryptCall → List (Text × List Bytes)
  | jwe pubkeys => [("pubkeys".toList, pubkeys)]
  | pkcs7 certs => [("x509s".toList, certs)]
  | gpg recipients ringFile => [("gpg-recipients".toList, recipients), ("gpg-pubkeyringfile".toList, [ringFile])]
  | pkcs11 config pubkeys yaml => (if pubkeys ≠ [] then [("pkcs11-pubkeys".toList, pubkeys)] else []) ++
      if yaml ≠ [] then [("pkcs11-config".toList, config), ("pkcs11-yamls".toList, yaml)] else []
  | keyProvider keyProviders => (DecryptCall.keyProvider keyProviders).entries

/-- A call takes its entries in. -/
theorem EncryptCall.run_eq : call.run = EncryptConfig.onParam (updateAll "encrypt config" call.entries) := by
  have two : ∀ key value key' value',
      (EncryptConfig.updateParam key value >>= fun _ => EncryptConfig.updateParam key' value') =
        EncryptConfig.onParam (updateAll "encrypt config" [(key, value), (key', value')]) := by
    intro key value key' value'
    rw [EncryptConfig.updateParam, EncryptConfig.updateParam, EncryptConfig.onParam_bind, ← updateAll_singleton _ key']
    rfl
  cases call with
  | jwe pubkeys => rw [EncryptCall.entries, updateAll_singleton]; rfl
  | pkcs7 certs => rw [EncryptCall.entries, updateAll_singleton]; rfl
  | gpg recipients ringFile => exact two _ recipients _ [ringFile]
  | pkcs11 config pubkeys yaml =>
    have yamls : EncryptConfig.pkcs11Yamls config yaml = EncryptConfig.onParam (updateAll "encrypt config"
        (if yaml ≠ [] then [("pkcs11-config".toList, config), ("pkcs11-yamls".toList, yaml)] else [])) := by
      by_cases given : yaml ≠ []
      · rw [EncryptConfig.pkcs11Yamls, if_pos given, if_pos given, two]
      · rw [EncryptConfig.pkcs11Yamls, if_neg given, if_neg given]
        rfl
    rw [EncryptCall.run, EncryptConfig.encryptWithPkcs11, EncryptCall.entries, yamls]
    by_cases given : pubkeys ≠ []
    · rw [if_pos given, if_pos given, EncryptConfig.updateParam, EncryptConfig.onParam_bind]
      rfl
    · rw [if_neg given, if_neg given, List.nil_append]
  | keyProvider keyProviders => rw [EncryptCall.entries, ← withKeyProvider_eq]; rfl

theorem EncryptCall.atomic_iff_of_entries :
    (∀ error, (call.run ec).1 = .error error → (call.run ec).2 = ec) ↔
      (∀ entry ∈ call.entries, entry.2 ≠ []) ∨ ∃ key rest, call.entries = (key, []) :: rest := by
  rw [← @updateAll_atomic_iff "encrypt config" call.entries ec.param, EncryptCall.run_eq]
  refine forall_congr' fun error => imp_congr_right fun _ => ?_
  constructor
  · intro same
    exact congrArg EncryptConfig.param same
  · intro same
    simp only [EncryptConfig.onParam, Action.zoom, same]

/-- Where the others have values, it is the first entry that is refused. -/
private theorem filled_or_first {key : Text} {value : List Bytes} {entries : List (Text × List Bytes)}
    (later : ∀ entry ∈ entries, entry.2 ≠ []) : (∀ entry ∈ (key, value) :: entries, entry.2 ≠ []) ∨
      ∃ key' rest, (key, value) :: entries = (key', ([] : List Bytes)) :: rest := by
  by_cases empty : value = []
  · exact .inr ⟨key, entries, by rw [empty]⟩
  · exact .inl (List.forall_mem_cons.mpr ⟨empty, later⟩)

/-- What a failed call leaves of a configuration for encryption. -/
theorem EncryptCall.atomic_iff :
    (∀ error, (call.run ec).1 = .error error → (call.run ec).2 = ec) ↔ call.Even := by
  rw [EncryptCall.atomic_iff_of_entries]
  cases call with
  | jwe pubkeys => exact iff_of_true (filled_or_first (List.forall_mem_nil _)) trivial
  | pkcs7 certs => exact iff_of_true (filled_or_first (List.forall_mem_nil _)) trivial
  | gpg recipients ringFile =>
    exact iff_of_true (filled_or_first (List.forall_mem_singleton.mpr (List.cons_ne_nil _ _))) trivial
  | pkcs11 config pubkeys yaml =>
    rw [EncryptCall.entries, EncryptCall.Even]
    by_cases given : pubkeys = []
    · refine iff_of_true ?_ (.inl given)
      rw [if_neg (not_not_intro given), List.nil_append]
      by_cases more : yaml = []
      · rw [if_neg (not_not_intro more)]
        exact .inl (List.forall_mem_nil _)
      · rw [if_pos more]
        exact filled_or_first (List.forall_mem_singleton.mpr more)
    · by_cases more : yaml = []
      · simp [given, more]
      · simp [given, more]
  | keyProvider keyProviders => exact iff_of_true (.inl (providerEntries_filled keyProviders)) trivial

/-- Encrypting has nothing to do with the configuration for decryption within. -/
theorem EncryptCall.run_decryptConfig : (call.run ec).2.decryptConfig = ec.decryptConfig := by
  rw [EncryptCall.run_eq]
  rfl

end Encrypting

section Runs

variable {config next : CryptoConfig} {pairs : ConfigPairs} {call : ConfigCall} {result : Except String Unit}
  {calls : List ConfigCall} {records : List Record}

/-- A part that was put in is the part that was there, or the whole has changed. -/
theorem CryptoConfig.with_encryptConfig_iff {ec ec' : EncryptConfig} (present : config.encryptConfig = some ec) :
    { config with encryptConfig := some ec' } = config ↔ ec' = ec := by
  constructor
  · intro same
    exact Option.some.inj ((congrArg CryptoConfig.encryptConfig same).trans present)
  · rintro rfl
    rw [← present]

theorem CryptoConfig.with_decryptConfig_iff {dc dc' : DecryptConfig} (present : config.decryptConfig = some dc) :
    { config with decryptConfig := some dc' } = config ↔ dc' = dc := by
  constructor
  · intro same
    exact Option.some.inj ((congrArg CryptoConfig.decryptConfig same).trans present)
  · rintro rfl
    rw [← present]

theorem EncryptConfig.with_decryptConfig_iff {ec : EncryptConfig} {dc dc' : DecryptConfig}
    (present : ec.decryptConfig = some dc) : { ec with decryptConfig := some dc' } = ec ↔ dc' = dc := by
  constructor
  · intro same
    exact Option.some.inj ((congrArg EncryptConfig.decryptConfig same).trans present)
  · rintro rfl
    rw [← present]

/-- What one call leaves of a configuration whose lists pair up. -/
theorem perform_kept_iff (paired : config.PairedAs pairs) (performed : config.perform call = some (result, next)) :
    ((⟨config, call, result, next⟩ : Record).Atomic ∧ next.PairedAs (pairs.after call result)) ↔ call.Even := by
  obtain ⟨own, within⟩ := paired
  cases call with
  | encrypt call =>
    obtain ⟨ec, present, outcome⟩ := Option.map_eq_some_iff.mp performed
    cases outcome
    simp only [Record.Atomic, CryptoConfig.with_encryptConfig_iff present, EncryptCall.atomic_iff]
    refine and_iff_left ⟨own, ?_⟩
    rintro _ dc ⟨⟩ held
    exact within ec dc present (EncryptCall.run_decryptConfig.symm.trans held)
  | decrypt call =>
    obtain ⟨dc, present, outcome⟩ := Option.map_eq_some_iff.mp performed
    cases outcome
    simp only [Record.Atomic, CryptoConfig.with_decryptConfig_iff present]
    rw [ConfigCall.Even, ← DecryptCall.kept_iff (own dc present)]
    refine and_congr_right fun _ => ?_
    constructor
    · intro both
      exact both.1 _ rfl
    · intro kept
      refine ⟨?_, within⟩
      rintro _ ⟨⟩
      exact kept
  | decryptWithin call =>
    obtain ⟨ec, present, inner⟩ := Option.bind_eq_some_iff.mp performed
    obtain ⟨dc, present', outcome⟩ := Option.map_eq_some_iff.mp inner
    cases outcome
    simp only [Record.Atomic, CryptoConfig.with_encryptConfig_iff present, EncryptConfig.with_decryptConfig_iff present']
    rw [ConfigCall.Even, ← DecryptCall.kept_iff (within ec dc present present')]
    refine and_congr_right fun _ => ?_
    constructor
    · intro both
      exact both.2 _ _ rfl rfl
    · intro kept
      refine ⟨own, ?_⟩
      rintro _ _ ⟨⟩ ⟨⟩
      exact kept

/-- **Configuration updates are paired and atomic** where every call is even: a call for GPG keys
that is given any has as many passwords, a call for PKCS #11 that is given a configuration for
decryption has keys in YAML, one for encryption that has both public keys and keys in YAML has a
configuration, and the key providers of a call go by the name of a list of private keys as often
as by the name of the list of its passwords. In any other run some list is left without its
other half, or some failure has changed the configuration. -/
theorem config_updates_paired (paired : config.PairedAs pairs) (made : config.records calls = some records) :
    Kept pairs records ↔ ∀ call ∈ calls, call.Even := by
  induction calls generalizing config pairs records with
  | nil =>
    cases made
    exact iff_of_true trivial (List.forall_mem_nil _)
  | cons call calls ih =>
    rw [CryptoConfig.records] at made
    obtain ⟨⟨result, next⟩, performed, made⟩ := Option.bind_eq_some_iff.mp made
    obtain ⟨later, others, same⟩ := Option.bind_eq_some_iff.mp made
    cases same
    have here := perform_kept_iff paired performed
    rw [List.forall_mem_cons, ← here, Kept, ← and_assoc]
    refine and_congr_right fun kept => ?_
    exact ih kept.2 others

end Runs

section Examples

/-- Parts that nothing has been added to. -/
def freshConfig : CryptoConfig := ⟨some ⟨[], some ⟨[]⟩⟩, some ⟨[]⟩⟩

def noPairs : ConfigPairs := ⟨.none, .none⟩

theorem freshConfig_paired : freshConfig.PairedAs noPairs := by
  constructor
  · rintro _ ⟨⟩
    exact ⟨rfl, rfl, rfl, rfl⟩
  · rintro _ _ ⟨⟩ ⟨⟩
    exact ⟨rfl, rfl, rfl, rfl⟩

/-- A private key with its password, one without, and a key provider. -/
def evenCalls : List ConfigCall :=
  [.decrypt (.privKeys [utf8 "key".toList] [utf8 "password".toList]), .decryptWithin (.privKeys [utf8 "key".toList] []),
    .decrypt (.keyProvider [utf8 "provider:attestation-agent".toList])]

theorem even_calls_kept : ∃ records, freshConfig.records evenCalls = some records ∧ Kept noPairs records := by
  obtain ⟨records, made⟩ : ∃ records, freshConfig.records evenCalls = some records := ⟨_, rfl⟩
  refine ⟨records, made, (config_updates_paired freshConfig_paired made).mpr ?_⟩
  simp only [evenCalls, List.forall_mem_cons]
  refine ⟨trivial, trivial, ?_, List.forall_mem_nil _⟩
  exact ⟨by decide, by decide⟩

/-- A GPG key without its password is refused after it was added, and one list is longer. -/
theorem key_without_password_stays :
    ¬ ∀ calls records, freshConfig.records calls = some records → Kept noPairs records := by
  intro holds
  have kept := holds [.decrypt (.gpg [utf8 "key".toList] [])] _ rfl
  have paired := kept.2.1.1 _ rfl
  have keys := paired.gpgPrivKeys
  exact absurd keys (by decide)

end Examples

end GuestComponents.Ocicrypt
