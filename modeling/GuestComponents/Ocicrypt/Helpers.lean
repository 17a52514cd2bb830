import GuestComponents.Lib.Panic
import GuestComponents.Ocicrypt.ConfigUpdates

/-! The strings that name recipients and keys, and the configurations that `helpers.rs` makes of
them. A text is cut at its first colon after as many characters as there are bytes before it,
here and in the configuration calls (`first_colon_iff`). A key's password may be the number of a
descriptor, and what is no such number is unwrapped all the same: `key_strings_panicFree_iff` says
when a call comes to that, by the reads that its strings ask for. -/
namespace GuestComponents.Ocicrypt
open Lib Lib.Text

/-- `i32::from_str`. -/
def parseI32 (text : Text) : Option Int :=
  let sign : Int := if text.head? = some '-' then -1 else 1
  let digits := match text with
    | '+' :: rest => rest
    | '-' :: rest => rest
    | _ => text
  let value := sign * Nat.ofDigitChars 10 digits 0
  if digits ≠ [] ∧ digits.all Char.isDigit ∧ -2 ^ 31 ≤ value ∧ value < 2 ^ 31 then some value else none

/-- A read that a string asks for. A certificate is read where there is a file of that name. -/
inductive Read where
  | file (path : Text)
  | certificate (path : Text)
  | descriptor (fd : Int)
  deriving DecidableEq

/-- The files and the open descriptors of the process. A read may change what later reads find:
a descriptor is closed after it was read to the end. -/
structure Files (World : Type) where
  present : Text → World → Bool
  read : Text → World → Except String Bytes × World
  readToString : Int → World → Except String Bytes × World

/-- What the helpers compute with reads that may fail and conversions that may panic. -/
abbrev Parse (World α : Type) : Type := Action World (Fault String) α

section Functions

variable {World : Type}

/-- `?` on the result of a read. -/
def ofRead (read : World → Except String Bytes × World) : Parse World Bytes :=
  fun world => (Outcome.ofResult (read world).1, (read world).2)

namespace Files

variable (files : Files World)

/-- `fs::read`. -/
def fsRead (path : Text) : Parse World Bytes := ofRead (files.read path)

/-- `File::from_raw_fd`, which asserts that the descriptor is not -1, and `read_to_string`. -/
def fromRawFd (fd : Int) : Parse World Bytes :=
  if fd = -1 then Action.fail (.panic "assertion `left != right` failed")
  else ofRead (files.readToString fd)

end Files

/-- What `process_recipient_keys` returns. -/
structure RecipientKeys where
  gpgRecipients : List Bytes
  pubkeys : List Bytes
  x509s : List Bytes
  pkcs11Pubkeys : List Bytes
  pkcs11Yamls : List Bytes
  keyProviders : List Bytes

/-- The protocol and the value in a recipient's text. `find` counts the bytes before the colon,
`take` and `skip` count characters. -/
def recipientParts (recipient : Text) : Option (Text × Text) :=
  if ':' ∈ recipient then
    let index := (utf8 (recipient.takeWhile (· ≠ ':'))).length
    some (recipient.take index, recipient.drop (index + 1))
  else none

variable (files : Files World)

/-- One round of the loop over the recipients. -/
def processRecipient (keys : RecipientKeys) (recipient : Text) : Parse World RecipientKeys :=
  match recipientParts recipient with
  | none => Action.fail (.error "Invalid recipient format")
  | some (protocol, value) =>
    if protocol = "pgp".toList then
      pure { keys with gpgRecipients := keys.gpgRecipients ++ [utf8 value] }
    else if protocol = "jwe".toList then do
      let contents ← files.fsRead value
      pure { keys with pubkeys := keys.pubkeys ++ [contents] }
    else if protocol = "pkcs7".toList then do
      let contents ← files.fsRead value
      pure { keys with x509s := keys.x509s ++ [contents] }
    else if protocol = "pkcs11".toList then do
      let contents ← files.fsRead value
      pure { keys with
        pkcs11Yamls := keys.pkcs11Yamls ++ [contents], pkcs11Pubkeys := keys.pkcs11Pubkeys ++ [contents] }
    else if protocol = "provider".toList then
      pure { keys with keyProviders := keys.keyProviders ++ [utf8 value] }
    else Action.fail (.error "Provided protocol not recognized")

def processRecipientsFrom (keys : RecipientKeys) : List Text → Parse World RecipientKeys
  | [] => pure keys
  | recipient :: recipients => do
    let more ← processRecipient files keys recipient
    processRecipientsFrom more recipients

/-- `process_recipient_keys`. -/
def processRecipientKeys (recipients : List Text) : Parse World RecipientKeys :=
  processRecipientsFrom files ⟨[], [], [], [], [], []⟩ recipients

/-- The certificate that a key string names, if there is such a file. -/
def certificateOf (key : Text) : Parse World (List Bytes) := fun world =>
  if files.present key world then
    (do
      let contents ← files.fsRead key
      pure [contents]) world
  else (.ok [], world)

/-- `process_x509_certs`. -/
def processX509Certs : List Text → Parse World (List Bytes)
  | [] => pure []
  | key :: keys =>
    if ':' ∈ key then processX509Certs keys
    else do
      let found ← certificateOf files key
      let x509s ← processX509Certs keys
      pure (found ++ x509s)

/-- `process_pwd_string`. -/
def processPwdString (pwdString : Text) : Parse World Bytes :=
  match pwdString.dropPrefix? "file=".toList with
  | some pwd => files.fsRead pwd
  | none => match pwdString.dropPrefix? "pass=".toList with
    | some pwd => pure (utf8 pwd)
    | none => match pwdString.dropPrefix? "fd=".toList with
      | some pwd => match parseI32 pwd with
        | some fd => files.fromRawFd fd
        | none => Action.fail (.panic "called `Result::unwrap()` on an `Err` value")
      | none => pure (utf8 pwdString)

/-- What `process_private_keyfiles` returns. -/
structure PrivateKeyfiles where
  gpgSecretKeyRingFiles : List Bytes
  gpgSecretKeyPasswords : List Bytes
  privKeys : List Bytes
  privKeysPasswords : List Bytes
  pkcs11Yamls : List Bytes
  keyProviders : List Bytes

/-- The contents of a key file, and its password. -/
def keyfileAndPwd (key : Text) : Parse World (Bytes × Bytes) :=
  match splitOnce ':' key with
  | some (file, pass) => do
    let contents ← files.fsRead file
    let password ← processPwdString files pass
    pure (contents, password)
  | none => do
    let contents ← files.fsRead key
    pure (contents, [])

/-- A key file with its password, as a key of every kind. -/
def PrivateKeyfiles.push (found : PrivateKeyfiles) (content password : Bytes) : PrivateKeyfiles where
  gpgSecretKeyRingFiles := found.gpgSecretKeyRingFiles ++ [content]
  gpgSecretKeyPasswords := found.gpgSecretKeyPasswords ++ [password]
  privKeys := found.privKeys ++ [content]
  privKeysPasswords := found.privKeysPasswords ++ [password]
  pkcs11Yamls := found.pkcs11Yamls ++ [content]
  keyProviders := found.keyProviders

def processKeyfilesFrom (found : PrivateKeyfiles) : List Text → Parse World PrivateKeyfiles
  | [] => pure found
  | key :: keys => match key.dropPrefix? "provider:".toList with
    | some provider =>
      processKeyfilesFrom { found with keyProviders := found.keyProviders ++ [utf8 provider] } keys
    | none => do
      let both ← keyfileAndPwd files key
      processKeyfilesFrom (found.push both.1 both.2) keys

/-- `process_private_keyfiles`. -/
def processPrivateKeyfiles (keyfilesAndPwds : List Text) : Parse World PrivateKeyfiles :=
  processKeyfilesFrom files ⟨[], [], [], [], [], []⟩ keyfilesAndPwds

/-- A call for what a list holds, where it holds something. -/
def ifSome {Config : Type} (list : List Bytes) (call : Action Config String Unit) : Action Config String Unit :=
  if list = [] then pure () else call

/-- The calls that `create_decrypt_config` makes on the configuration. -/
def fillDecryptConfig (x509s : List Bytes) (found : PrivateKeyfiles) : Action DecryptConfig String Unit := do
  ifSome found.gpgSecretKeyRingFiles
    (DecryptConfig.decryptWithGpg found.gpgSecretKeyRingFiles found.gpgSecretKeyPasswords)
  ifSome x509s (DecryptConfig.decryptWithX509s x509s)
  ifSome found.privKeys (DecryptConfig.decryptWithPrivKeys found.privKeys found.privKeysPasswords)
  ifSome found.pkcs11Yamls (DecryptConfig.decryptWithPkcs11 [[]] found.pkcs11Yamls)
  ifSome found.keyProviders (DecryptConfig.decryptWithKeyProvider found.keyProviders)

/-- The calls that `create_encrypt_config` makes on the configuration. -/
def fillEncryptConfig (found : RecipientKeys) : Action EncryptConfig String Unit := do
  ifSome found.gpgRecipients (EncryptConfig.encryptWithGpg found.gpgRecipients [])
  ifSome found.x509s (EncryptConfig.encryptWithPkcs7 found.x509s)
  ifSome found.pubkeys (EncryptConfig.encryptWithJwe found.pubkeys)
  ifSome (found.pkcs11Pubkeys ++ found.pkcs11Yamls)
    (EncryptConfig.encryptWithPkcs11 [[]] found.pkcs11Pubkeys found.pkcs11Yamls)
  ifSome found.keyProviders (EncryptConfig.encryptWithKeyProvider found.keyProviders)

/-- The configuration after its calls, or the error of one. -/
def filled {Config : Type} (calls : Action Config String Unit) (config : Config) : Parse World Config :=
  fun world => (Outcome.ofResult ((calls config).1.map fun () => (calls config).2), world)

/-- `create_decrypt_config`. -/
def createDecryptConfig (keys decRecipients : List Text) : Parse World CryptoConfig := do
  let recipients ← processRecipientKeys files decRecipients
  let x509FromKeys ← processX509Certs files keys
  let found ← processPrivateKeyfiles files keys
  let dc ← filled (fillDecryptConfig (recipients.x509s ++ x509FromKeys) found) ⟨[]⟩
  pure ⟨none, some dc⟩

/-- The configuration for decryption that goes into the one for encryption. -/
def decryptConfigFrom (keys : List Text) : Parse World (Option DecryptConfig) :=
  if keys = [] then pure none
  else do
    let dc ← createDecryptConfig files keys []
    pure dc.decryptConfig

def encryptConfigFrom (ec : EncryptConfig) (recipients : List Text) : Parse World EncryptConfig :=
  if recipients = [] then pure ec
  else do
    let found ← processRecipientKeys files recipients
    filled (fillEncryptConfig found) ec

/-- `create_encrypt_config`. -/
def createEncryptConfig (recipients keys : List Text) : Parse World CryptoConfig := do
  let decryptConfig ← decryptConfigFrom files keys
  let ec ← encryptConfigFrom files ⟨[], decryptConfig⟩ recipients
  pure ⟨some ec, none⟩

end Functions

section Splitting

/-- A text has a byte for each character where each is of ASCII. -/
theorem length_utf8_eq_iff {text : Text} : (utf8 text).length = text.length ↔ ∀ c ∈ text, c.utf8Size = 1 := by
  constructor
  · intro same
    induction text with
    | nil => exact List.forall_mem_nil _
    | cons c text ih =>
      rw [utf8, List.flatMap_cons, List.length_append, String.length_utf8EncodeChar, ← utf8, List.length_cons] at same
      have first := Char.utf8Size_pos c
      have others := length_le_utf8 text
      exact List.forall_mem_cons.mpr ⟨by omega, ih (by omega)⟩
  · exact length_utf8_of_ascii

variable {before after : Text}

/-- What a cut at that many characters leaves of a text with its colon behind so many bytes. -/
theorem cut_iff : ((before ++ ':' :: after).take (utf8 before).length = before ∧
      (before ++ ':' :: after).drop ((utf8 before).length + 1) = after) ↔ ∀ c ∈ before, c.utf8Size = 1 := by
  rw [← length_utf8_eq_iff]
  constructor
  · rintro ⟨front, _⟩
    have short := congrArg List.length front
    rw [List.length_take, List.length_append, List.length_cons] at short
    have long := length_le_utf8 before
    omega
  · intro same
    rw [same]
    exact ⟨List.take_left, by simp⟩

theorem recipientParts_colon (first : ':' ∉ before) : recipientParts (before ++ ':' :: after) =
    some ((before ++ ':' :: after).take (utf8 before).length,
      (before ++ ':' :: after).drop ((utf8 before).length + 1)) := by
  rw [recipientParts, if_pos (by simp), takeWhile_colon first]

theorem providerEntry_colon (first : ':' ∉ before) : providerEntry (before ++ ':' :: after) =
    ((before ++ ':' :: after).take (utf8 before).length,
      [utf8 ((before ++ ':' :: after).drop ((utf8 before).length + 1))]) := by
  rw [providerEntry, if_pos (by simp), takeWhile_colon first]

theorem recipientParts_iff (first : ':' ∉ before) :
    recipientParts (before ++ ':' :: after) = some (before, after) ↔ ∀ c ∈ before, c.utf8Size = 1 := by
  rw [recipientParts_colon first, Option.some_inj, Prod.mk.injEq, cut_iff]

theorem providerEntry_iff (first : ':' ∉ before) :
    providerEntry (before ++ ':' :: after) = (before, [utf8 after]) ↔ ∀ c ∈ before, c.utf8Size = 1 := by
  rw [providerEntry_colon first, Prod.mk.injEq, List.singleton_inj, ← cut_iff]
  refine and_congr_right fun _ => ⟨fun same => ?_, fun same => congrArg utf8 same⟩
  have texts := congrArg fromUtf8 same
  rwa [fromUtf8_utf8, fromUtf8_utf8, Option.some_inj] at texts

/-- Entries that add to the same parameters the same are the same. -/
theorem extend_single_inj {key key' : Text} {value value' : Bytes} {param : Params} :
    MultiMap.extend key [value] param = MultiMap.extend key' [value'] param ↔ key = key' ∧ value = value' := by
  constructor
  · intro same
    have grown := MultiMap.grows_extend param key [value] key
    rw [same, MultiMap.grows_extend param key' [value'] key] at grown
    have added := List.append_cancel_left grown
    simp only [if_true] at added
    by_cases keys : key' = key
    · rw [if_pos keys] at added
      exact ⟨keys.symm, (List.cons.inj added).1.symm⟩
    · rw [if_neg keys] at added
      cases added
  · rintro ⟨rfl, rfl⟩
    rfl

/-- A configuration call adds what it makes of the text, and adds as another entry only what is
that entry. -/
theorem withKeyProvider_single {owner : String} {text key : Text} {value : Bytes} {param : Params} :
    withKeyProvider owner [utf8 text] param = updateParam owner key [value] param ↔
      providerEntry text = (key, [value]) := by
  obtain ⟨entered, one⟩ := providerEntry_single text
  have ran : withKeyProvider owner [utf8 text] param =
      (.ok (), MultiMap.extend (providerEntry text).1 [entered] param) := by
    have entry : providerEntry text = ((providerEntry text).1, [entered]) := Prod.ext rfl one
    rw [withKeyProvider_eq, DecryptCall.entries, List.map_singleton, fromUtf8Lossy_utf8, entry, updateAll_singleton,
      updateParam_filled (List.cons_ne_nil _ _)]
  rw [ran, updateParam_filled (List.cons_ne_nil _ _), Prod.mk.injEq, and_iff_right rfl, extend_single_inj,
    Prod.ext_iff, one, List.singleton_inj]

theorem DecryptConfig.onParam_eq_iff {one other : Action Params String Unit} {dc : DecryptConfig} :
    DecryptConfig.onParam one dc = DecryptConfig.onParam other dc ↔ one dc.param = other dc.param := by
  rw [DecryptConfig.onParam, DecryptConfig.onParam, Action.zoom, Action.zoom, Prod.ext_iff, Prod.ext_iff,
    DecryptConfig.mk.injEq]

theorem EncryptConfig.onParam_eq_iff {one other : Action Params String Unit} {ec : EncryptConfig} :
    EncryptConfig.onParam one ec = EncryptConfig.onParam other ec ↔ one ec.param = other ec.param := by
  rw [EncryptConfig.onParam, EncryptConfig.onParam, Action.zoom, Action.zoom, Prod.ext_iff, Prod.ext_iff,
    EncryptConfig.mk.injEq, and_iff_left rfl]

/-- **The first colon** splits a text into what is before it and what is after it, in each of the
three places, where every character before it is of ASCII. Any other text is cut elsewhere: there
are more bytes than characters before the colon. -/
theorem first_colon_iff (first : ':' ∉ before) (after : Text) (dc : DecryptConfig) (ec : EncryptConfig) :
    (DecryptConfig.decryptWithKeyProvider [utf8 (before ++ ':' :: after)] dc =
        DecryptConfig.updateParam before [utf8 after] dc ∧
      EncryptConfig.encryptWithKeyProvider [utf8 (before ++ ':' :: after)] ec =
        EncryptConfig.updateParam before [utf8 after] ec ∧
      recipientParts (before ++ ':' :: after) = some (before, after)) ↔ ∀ c ∈ before, c.utf8Size = 1 := by
  rw [DecryptConfig.decryptWithKeyProvider, DecryptConfig.updateParam, DecryptConfig.onParam_eq_iff,
    EncryptConfig.encryptWithKeyProvider, EncryptConfig.updateParam, EncryptConfig.onParam_eq_iff,
    withKeyProvider_single, withKeyProvider_single, providerEntry_iff first, recipientParts_iff first,
      and_self, and_self]

/-- A key provider with colons behind the first one, and in other scripts. -/
theorem ascii_name_split : DecryptConfig.decryptWithKeyProvider [utf8 "provider:κ:λ".toList] ⟨[]⟩ =
        DecryptConfig.updateParam "provider".toList [utf8 "κ:λ".toList] ⟨[]⟩ ∧
      EncryptConfig.encryptWithKeyProvider [utf8 "provider:κ:λ".toList] ⟨[], none⟩ =
        EncryptConfig.updateParam "provider".toList [utf8 "κ:λ".toList] ⟨[], none⟩ ∧
      recipientParts "provider:κ:λ".toList = some ("provider".toList, "κ:λ".toList) :=
  (@first_colon_iff "provider".toList (by decide) "κ:λ".toList ⟨[]⟩ ⟨[], none⟩).mpr
    (by simpa using (by decide : "provider".toList.all (·.utf8Size == 1) = true))

/-- A name of one character and two bytes takes the colon in, and the value loses a character. -/
theorem accented_name_shifts : ¬ ∀ before after dc ec, ':' ∉ before →
    DecryptConfig.decryptWithKeyProvider [utf8 (before ++ ':' :: after)] dc =
        DecryptConfig.updateParam before [utf8 after] dc ∧
      EncryptConfig.encryptWithKeyProvider [utf8 (before ++ ':' :: after)] ec =
        EncryptConfig.updateParam before [utf8 after] ec ∧
      recipientParts (before ++ ':' :: after) = some (before, after) := by
  intro holds
  have split := (holds ['é'] "key".toList ⟨[]⟩ ⟨[], none⟩ (by decide)).2.2
  rw [recipientParts_iff (by decide)] at split
  exact absurd (split 'é' List.mem_cons_self) (by decide)

end Splitting

section Reads

variable {World α β : Type} (files : Files World)

namespace Files

/-- One read. -/
def perform : Read → World → Except String Bytes × World
  | .file path, world => files.read path world
  | .certificate path, world => if files.present path world then files.read path world else (.ok [], world)
  | .descriptor fd, world => files.readToString fd world

/-- What reads leave that all succeed, one after the other. -/
def after : List Read → World → Option World
  | [], world => some world
  | read :: reads, world => match files.perform read world with
    | (.ok _, next) => after reads next
    | (.error _, _) => none

end Files

/-- The reads for a recipient, if it is one. -/
def recipientReads (recipient : Text) : Option (List Read) :=
  match recipientParts recipient with
  | none => none
  | some (protocol, value) =>
    if protocol = "pgp".toList then some []
    else if protocol = "jwe".toList then some [.file value]
    else if protocol = "pkcs7".toList then some [.file value]
    else if protocol = "pkcs11".toList then some [.file value]
    else if protocol = "provider".toList then some []
    else none

/-- The reads for recipients, if all of them are such. -/
def recipientsReads : List Text → Option (List Read)
  | [] => some []
  | recipient :: recipients => do
    let one ← recipientReads recipient
    let others ← recipientsReads recipients
    some (one ++ others)

/-- The reads for the certificate that a key string may name. -/
def certificateReads (key : Text) : List Read := if ':' ∈ key then [] else [.certificate key]

def passwordReads (pwdString : Text) : List Read :=
  match pwdString.dropPrefix? "file=".toList with
  | some pwd => [.file pwd]
  | none => match pwdString.dropPrefix? "fd=".toList with
    | some pwd => (parseI32 pwd).toList.map .descriptor
    | none => []

/-- The reads for a key string. -/
def keyReads (key : Text) : List Read :=
  if "provider:".toList <+: key then []
  else match splitOnce ':' key with
    | some (file, pass) => .file file :: passwordReads pass
    | none => [.file key]

/-- What stands for a descriptor is not one. -/
def BadDescriptor (pwdString : Text) : Prop :=
  ∃ number, pwdString = "fd=".toList ++ number ∧ (parseI32 number = none ∨ parseI32 number = some (-1))

/-- A key string with a file in which to find the key, and no descriptor where it names one. -/
structure Malformed (key file : Text) : Prop where
  notProvider : file ≠ "provider".toList
  clean : ':' ∉ file
  password : ∃ pwdString, key = file ++ ':' :: pwdString ∧ BadDescriptor pwdString

/-- The helpers come to a malformed key string: the recipients are such, and every read before
the one of the password succeeds, of the recipients' files, of the certificates, of the keys
before and of the key itself. -/
def ComesToMalformed (recipients keys : List Text) (world : World) : Prop :=
  ∃ asked before key file later next, recipientsReads recipients = some asked ∧ keys = before ++ key :: later ∧
    Malformed key file ∧
    files.after (asked ++ keys.flatMap certificateReads ++ before.flatMap keyReads ++ [.file file]) world = some next

/-- The computation makes these reads: it returns when they succeed, and fails when one fails. -/
def Asks (action : Parse World α) (reads : List Read) : Prop :=
  ∀ world, match files.after reads world with
    | some next => ∃ value, action world = (.ok value, next)
    | none => ∃ message next, action world = (Outcome.bail message, next)

/-- The computation makes its reads and fails in any case. -/
def Refuses (action : Parse World α) : Prop := ∀ world, ∃ message next, action world = (Outcome.bail message, next)

variable {files}

theorem Files.after_append (reads more : List Read) (world : World) :
    files.after (reads ++ more) world = (files.after reads world).bind (files.after more) := by
  induction reads generalizing world with
  | nil => rfl
  | cons read reads ih =>
    rw [List.cons_append, Files.after, Files.after]
    rcases files.perform read world with ⟨error | contents, next⟩
    · rfl
    · exact ih next

/-- Reads that come after others are not reached, or not all of them succeed. -/
theorem Files.after_append_eq_none {reads more : List Read} {world : World} :
    files.after (reads ++ more) world = none ↔
      ∀ next, files.after reads world = some next → files.after more next = none := by
  rw [Files.after_append, Option.bind_eq_none_iff]

theorem Files.after_singleton (read : Read) (world : World) : files.after [read] world =
    match files.perform read world with
    | (.ok _, next) => some next
    | (.error _, _) => none := rfl

variable {first : Parse World α} {rest : α → Parse World β} {reads more : List Read} {world : World}

theorem panicFree_then : PanicFree ((first >>= rest) world).1 ↔
    PanicFree (first world).1 ∧ ∀ value next, first world = (.ok value, next) → PanicFree (rest value next).1 := by
  cases ran : first world with
  | mk outcome next =>
    cases outcome with
    | ok value =>
      rw [Action.bind_ok ran]
      constructor
      · intro free
        refine ⟨panicFree_ok value, ?_⟩
        rintro _ _ ⟨⟩
        exact free
      · rintro ⟨_, later⟩
        exact later value next rfl
    | error fault =>
      rw [Action.bind_error ran]
      constructor
      · intro free
        refine ⟨fun message panicked => free message ?_, ?_⟩
        · cases panicked
          rfl
        · rintro _ _ ⟨⟩
      · rintro ⟨free, _⟩ message panicked
        refine free message ?_
        cases panicked
        rfl

theorem Asks.pure (value : α) : Asks files (pure value : Parse World α) [] := fun _ => ⟨value, rfl⟩

theorem asks_read (read : Read) : Asks files (ofRead (files.perform read)) [read] := by
  intro world
  rw [Files.after_singleton]
  cases ran : files.perform read world with
  | mk outcome next =>
    cases outcome with
    | error error => exact ⟨error, next, by rw [ofRead, ran]; rfl⟩
    | ok contents => exact ⟨contents, by rw [ofRead, ran]; rfl⟩

theorem asks_fsRead (path : Text) : Asks files (files.fsRead path) [.file path] := asks_read (.file path)

theorem Asks.bind (asks : Asks files first reads) (later : ∀ value, Asks files (rest value) more) :
    Asks files (first >>= rest) (reads ++ more) := by
  intro world
  have begun := asks world
  rw [Files.after_append]
  cases reached : files.after reads world with
  | none =>
    simp only [reached] at begun
    obtain ⟨message, next, failed⟩ := begun
    exact ⟨message, next, Action.bind_error failed⟩
  | some next =>
    simp only [reached] at begun
    obtain ⟨value, ran⟩ := begun
    rw [Option.bind_some, Action.bind_ok ran]
    exact later value next

theorem Asks.then_pure (asks : Asks files first reads) (f : α → β) :
    Asks files (first >>= fun value => Pure.pure (f value)) reads :=
  List.append_nil reads ▸ asks.bind fun value => .pure (f value)

theorem Asks.panicFree (asks : Asks files first reads) (world : World) : PanicFree (first world).1 := by
  have ended := asks world
  split at ended
  · obtain ⟨value, ran⟩ := ended
    rw [ran]
    exact panicFree_ok value
  · obtain ⟨message, next, failed⟩ := ended
    rw [failed]
    exact panicFree_bail message

/-- What follows reads is reached when they succeed. -/
theorem Asks.panicFree_then (asks : Asks files first reads) {Free : World → Prop}
    (later : ∀ value next, PanicFree (rest value next).1 ↔ Free next) :
    PanicFree ((first >>= rest) world).1 ↔ ∀ next, files.after reads world = some next → Free next := by
  rw [Ocicrypt.panicFree_then, and_iff_right (asks.panicFree world)]
  have ended := asks world
  constructor
  · intro free next reached
    simp only [reached] at ended
    obtain ⟨value, ran⟩ := ended
    exact (later value next).mp (free value next ran)
  · intro free value next ran
    split at ended
    · rename_i reached
      obtain ⟨_, same⟩ := ended
      rw [ran] at same
      cases same
      exact (later value next).mpr (free next reached)
    · obtain ⟨_, _, failed⟩ := ended
      rw [ran] at failed
      cases failed

theorem Refuses.bind (refuses : Refuses first) : Refuses (first >>= rest) := by
  intro world
  obtain ⟨message, next, failed⟩ := refuses world
  exact ⟨message, next, Action.bind_error failed⟩

theorem Asks.refuses (asks : Asks files first reads) (later : ∀ value, Refuses (rest value)) :
    Refuses (first >>= rest) := by
  intro world
  have ended := asks world
  split at ended
  · obtain ⟨value, ran⟩ := ended
    rw [Action.bind_ok ran]
    exact later value _
  · obtain ⟨message, next, failed⟩ := ended
    exact ⟨message, next, Action.bind_error failed⟩

end Reads

section Parsing

variable {World : Type} {files : Files World} {world : World}

/-- One round of the loop makes the reads for its recipient, if it is one. -/
theorem processRecipient_ends (keys : RecipientKeys) (recipient : Text) :
    match recipientReads recipient with
    | some reads => Asks files (processRecipient files keys recipient) reads
    | none => Refuses (processRecipient files keys recipient) := by
  rw [recipientReads, processRecipient]
  cases recipientParts recipient with
  | none => exact fun world => ⟨_, world, rfl⟩
  | some parts =>
    obtain ⟨protocol, value⟩ := parts
    dsimp only
    by_cases pgp : protocol = "pgp".toList
    · rw [if_pos pgp, if_pos pgp]
      exact .pure _
    rw [if_neg pgp, if_neg pgp]
    by_cases jwe : protocol = "jwe".toList
    · rw [if_pos jwe, if_pos jwe]
      exact (asks_fsRead value).then_pure _
    rw [if_neg jwe, if_neg jwe]
    by_cases pkcs7 : protocol = "pkcs7".toList
    · rw [if_pos pkcs7, if_pos pkcs7]
      exact (asks_fsRead value).then_pure _
    rw [if_neg pkcs7, if_neg pkcs7]
    by_cases pkcs11 : protocol = "pkcs11".toList
    · rw [if_pos pkcs11, if_pos pkcs11]
      exact (asks_fsRead value).then_pure _
    rw [if_neg pkcs11, if_neg pkcs11]
    by_cases provider : protocol = "provider".toList
    · rw [if_pos provider, if_pos provider]
      exact .pure _
    · rw [if_neg provider, if_neg provider]
      exact fun world => ⟨_, world, rfl⟩

theorem processRecipientsFrom_ends (keys : RecipientKeys) (recipients : List Text) :
    match recipientsReads recipients with
    | some reads => Asks files (processRecipientsFrom files keys recipients) reads
    | none => Refuses (processRecipientsFrom files keys recipients) := by
  induction recipients generalizing keys with
  | nil => exact .pure keys
  | cons recipient recipients ih =>
    have here := @processRecipient_ends _ files keys recipient
    rw [recipientsReads, processRecipientsFrom]
    cases one : recipientReads recipient with
    | none =>
      simp only [one] at here
      exact here.bind
    | some reads =>
      simp only [one] at here
      cases others : recipientsReads recipients with
      | none =>
        simp only [others] at ih
        exact here.refuses ih
      | some more =>
        simp only [others] at ih
        exact here.bind ih

theorem certificateOf_reads (key : Text) : Asks files (certificateOf files key) [.certificate key] := by
  intro world
  rw [Files.after_singleton, Files.perform, certificateOf]
  by_cases there : files.present key world = true
  · rw [if_pos there, if_pos there]
    exact ((asks_fsRead key).then_pure _) world
  · rw [if_neg there, if_neg there]
    exact ⟨[], rfl⟩

theorem processX509Certs_reads (keys : List Text) :
    Asks files (processX509Certs files keys) (keys.flatMap certificateReads) := by
  induction keys with
  | nil => exact .pure []
  | cons key keys ih =>
    rw [processX509Certs, List.flatMap_cons]
    by_cases colon : ':' ∈ key
    · rw [certificateReads, if_pos colon, if_pos colon]
      exact ih
    · rw [certificateReads, if_neg colon, if_neg colon]
      exact (certificateOf_reads key).bind fun found => ih.then_pure _

/-- The words before a password are not the beginnings of one another. -/
theorem dropPrefix_fd (number : Text) : ("fd=".toList ++ number).dropPrefix? "file=".toList = none ∧
    ("fd=".toList ++ number).dropPrefix? "pass=".toList = none ∧
    ("fd=".toList ++ number).dropPrefix? "fd=".toList = some number :=
  ⟨rfl, rfl, List.dropPrefix?_eq_some_iff.mpr ⟨"fd=".toList, rfl, BEq.rfl⟩⟩

theorem processPwdString_reads {pwdString : Text} (good : ¬ BadDescriptor pwdString) :
    Asks files (processPwdString files pwdString) (passwordReads pwdString) := by
  cases number : pwdString.dropPrefix? "fd=".toList with
  | some pwd =>
    obtain ⟨start, rfl, begins⟩ := List.dropPrefix?_eq_some_iff.mp number
    obtain rfl := eq_of_beq begins
    obtain ⟨noFile, noPass, _⟩ := dropPrefix_fd pwd
    simp only [processPwdString, passwordReads, noFile, noPass, number]
    cases parsed : parseI32 pwd with
    | none => exact absurd ⟨pwd, rfl, .inl parsed⟩ good
    | some fd =>
      have valid : fd ≠ -1 := by
        rintro rfl
        exact good ⟨pwd, rfl, .inr parsed⟩
      dsimp only
      rw [Files.fromRawFd, if_neg valid]
      exact asks_read (.descriptor fd)
  | none =>
    rw [processPwdString, passwordReads, number]
    cases pwdString.dropPrefix? "file=".toList with
    | some pwd => exact asks_fsRead pwd
    | none =>
      cases pwdString.dropPrefix? "pass=".toList with
      | some pwd => exact .pure _
      | none => exact .pure _

theorem processPwdString_panics {pwdString : Text} (bad : BadDescriptor pwdString) (world : World) :
    ∃ message, processPwdString files pwdString world = (Outcome.panic message, world) := by
  obtain ⟨number, rfl, wrong⟩ := bad
  obtain ⟨noFile, noPass, fd⟩ := dropPrefix_fd number
  simp only [processPwdString, noFile, noPass, fd]
  rcases wrong with unread | negative
  · rw [unread]
    exact ⟨_, rfl⟩
  · rw [negative]
    exact ⟨_, rfl⟩

/-- Whether a key string comes to a descriptor that is none: its file decides, if it is malformed. -/
theorem keyfileAndPwd_reads {key : Text} (notProvider : ¬ "provider:".toList <+: key)
    (good : ¬ ∃ file, Malformed key file) : Asks files (keyfileAndPwd files key) (keyReads key) := by
  rw [keyfileAndPwd, keyReads, if_neg notProvider]
  cases parts : splitOnce ':' key with
  | none => exact (asks_fsRead key).then_pure _
  | some parts' =>
    obtain ⟨file, pass⟩ := parts'
    obtain ⟨clean, whole⟩ := splitOnce_some parts
    dsimp only at clean whole ⊢
    have noDescriptor : ¬ BadDescriptor pass := by
      intro bad
      refine good ⟨file, ?_, clean, pass, whole, bad⟩
      rintro rfl
      exact notProvider ⟨pass, by rw [whole]; rfl⟩
    exact (asks_fsRead file).bind fun contents => (processPwdString_reads noDescriptor).then_pure _

theorem keyfileAndPwd_panicFree {key file : Text} (malformed : Malformed key file) :
    PanicFree (keyfileAndPwd files key world).1 ↔ files.after [.file file] world = none := by
  obtain ⟨_, clean, pass, rfl, bad⟩ := malformed
  rw [keyfileAndPwd, splitOnce_append clean]
  have panics : ∀ (contents : Bytes) next, PanicFree
      ((do let password ← processPwdString files pass; pure (contents, password) :
        Parse World (Bytes × Bytes)) next).1 ↔
        False := by
    intro contents next
    obtain ⟨message, panicked⟩ := @processPwdString_panics _ files _ bad next
    rw [Action.bind_error panicked, iff_false]
    exact not_panicFree_panic message
  rw [(asks_fsRead file).panicFree_then panics]
  simp only [imp_false, Option.eq_none_iff_forall_ne_some, ne_eq]

/-- The key strings of key providers. -/
theorem provider_iff {key : Text} :
    "provider:".toList <+: key ↔ ∃ value, key.dropPrefix? "provider:".toList = some value := by
  simp only [List.dropPrefix?_eq_some_iff, beq_iff_eq]
  constructor
  · rintro ⟨value, rfl⟩
    exact ⟨value, _, rfl, rfl⟩
  · rintro ⟨value, _, rfl, rfl⟩
    exact ⟨value, rfl⟩

theorem Malformed.no_provider {key file : Text} (malformed : Malformed key file) : ¬ "provider:".toList <+: key := by
  obtain ⟨notProvider, clean, pass, rfl, _⟩ := malformed
  rintro ⟨value, whole⟩
  have same : "provider".toList ++ ':' :: value = file ++ ':' :: pass := whole
  exact notProvider (separated_inj (by decide) clean same).1.symm

theorem keyfileAndPwd_not_ok {key file : Text} (malformed : Malformed key file) (value : Bytes × Bytes) (next : World) :
    keyfileAndPwd files key world ≠ (.ok value, next) := by
  obtain ⟨_, clean, pass, rfl, bad⟩ := malformed
  rw [keyfileAndPwd, splitOnce_append clean]
  intro ran
  obtain ⟨contents, opened, _, ran⟩ := Action.bind_eq_ok.mp ran
  obtain ⟨password, _, got, _⟩ := Action.bind_eq_ok.mp ran
  obtain ⟨message, panicked⟩ := @processPwdString_panics _ files _ bad opened
  rw [panicked] at got
  cases got

/-- A key string names one file. -/
theorem Malformed.file_eq {key file other : Text} (malformed : Malformed key other) (malformed' : Malformed key file) :
    other = file := by
  obtain ⟨_, clean, pass, whole, _⟩ := malformed
  obtain ⟨_, clean', pass', whole', _⟩ := malformed'
  exact (separated_inj clean clean' (whole.symm.trans whole')).1

/-- The file is read first. -/
theorem Malformed.keyReads_eq {key file : Text} (malformed : Malformed key file) :
    ∃ more, keyReads key = [.file file] ++ more := by
  have unnamed := malformed.no_provider
  obtain ⟨_, clean, pass, rfl, _⟩ := malformed
  rw [keyReads, if_neg unnamed, splitOnce_append clean]
  exact ⟨passwordReads pass, rfl⟩

/-- What holds at every place of a list holds at its first and at every later one. -/
private theorem forall_places {α : Type} {first : α} {list : List α} {at_ : List α → α → Prop} :
    (∀ before x later, first :: list = before ++ x :: later → at_ before x) ↔
      at_ [] first ∧ ∀ before x later, list = before ++ x :: later → at_ (first :: before) x := by
  constructor
  · intro all
    refine ⟨all [] first list rfl, ?_⟩
    rintro before x later rfl
    exact all (first :: before) x later rfl
  · rintro ⟨here, there⟩ before x later whole
    cases before with
    | nil =>
      obtain ⟨rfl, rfl⟩ := List.cons.inj whole
      exact here
    | cons other before =>
      obtain ⟨rfl, rest⟩ := List.cons.inj whole
      exact there before x later rest

/-- The loop over the key strings panics at the first malformed one, if everything before it and its
own file can be read. -/
theorem processKeyfilesFrom_panicFree (found : PrivateKeyfiles) (keys : List Text) (world : World) :
    PanicFree (processKeyfilesFrom files found keys world).1 ↔
      ∀ before key later, keys = before ++ key :: later → ∀ file, Malformed key file →
        files.after (before.flatMap keyReads ++ [.file file]) world = none := by
  induction keys generalizing found world with
  | nil => exact iff_of_true (panicFree_ok found) (by simp)
  | cons key keys ih =>
    rw [processKeyfilesFrom, forall_places]
    simp only [List.flatMap_cons, List.flatMap_nil, List.nil_append]
    cases provider : key.dropPrefix? "provider:".toList with
    | some value =>
      have named := provider_iff.mpr ⟨value, provider⟩
      have nothing : keyReads key = [] := by rw [keyReads, if_pos named]
      have fine : ∀ file, Malformed key file → files.after [.file file] world = none :=
        fun file malformed => absurd named malformed.no_provider
      rw [and_iff_right fine, nothing]
      exact ih _ world
    | none =>
      have unnamed : ¬ "provider:".toList <+: key := by
        intro named
        obtain ⟨value, dropped⟩ := provider_iff.mp named
        rw [provider] at dropped
        cases dropped
      by_cases bad : ∃ file, Malformed key file
      · obtain ⟨file, malformed⟩ := bad
        have decided : PanicFree ((keyfileAndPwd files key >>= fun both =>
            processKeyfilesFrom files (found.push both.1 both.2) keys) world).1 ↔
              files.after [.file file] world = none := by
          rw [panicFree_then, keyfileAndPwd_panicFree malformed]
          exact and_iff_left fun value next ran => absurd ran (keyfileAndPwd_not_ok malformed value next)
        rw [decided]
        constructor
        · intro unread
          refine ⟨fun other malformed' => ?_, ?_⟩
          · rwa [malformed'.file_eq malformed]
          · intro before later_ later whole other _
            obtain ⟨more, reads⟩ := malformed.keyReads_eq
            rw [reads, List.append_assoc, List.append_assoc, Files.after_append, unread]
            rfl
        · rintro ⟨here, _⟩
          exact here file malformed
      · have fine : ∀ file, Malformed key file → files.after [.file file] world = none :=
          fun file malformed => absurd ⟨file, malformed⟩ bad
        rw [and_iff_right fine, (keyfileAndPwd_reads unnamed bad).panicFree_then fun both next => ih _ next]
        simp only [List.append_assoc, @Files.after_append_eq_none _ files (keyReads key)]
        constructor
        · intro all before other later whole file malformed next reached
          exact all next reached before other later whole file malformed
        · intro all next reached before other later whole file malformed
          exact all before other later whole file malformed next reached

theorem panicFree_filled {Config : Type} (calls : Action Config String Unit) (config : Config) (world : World) :
    PanicFree (filled calls config world).1 := panicFree_ofResult _

/-- What fails in any case does not panic. -/
theorem Refuses.panicFree {α : Type} {action : Parse World α} (refuses : Refuses action) (world : World) :
    PanicFree (action world).1 := by
  obtain ⟨message, next, failed⟩ := refuses world
  rw [failed]
  exact panicFree_bail message

theorem processRecipientKeys_ends (files : Files World) (recipients : List Text) :
    match recipientsReads recipients with
    | some reads => Asks files (processRecipientKeys files recipients) reads
    | none => Refuses (processRecipientKeys files recipients) :=
  processRecipientsFrom_ends ⟨[], [], [], [], [], []⟩ recipients

theorem processRecipientKeys_panicFree (recipients : List Text) (world : World) :
    PanicFree (processRecipientKeys files recipients world).1 := by
  have ends := processRecipientKeys_ends files recipients
  split at ends
  · exact ends.panicFree world
  · exact ends.panicFree world

theorem createDecryptConfig_panicFree (files : Files World) (keys decRecipients : List Text) (world : World) :
    PanicFree (createDecryptConfig files keys decRecipients world).1 ↔
      ¬ ComesToMalformed files decRecipients keys world := by
  have fills : ∀ (x509s : List Bytes) (found : PrivateKeyfiles) (next : World),
      PanicFree ((do let dc ← filled (fillDecryptConfig x509s found) ⟨[]⟩; pure ⟨none, some dc⟩ :
        Parse World CryptoConfig) next).1 := by
    intro x509s found next
    exact panicFree_then.mpr ⟨panicFree_filled _ _ _, fun _ _ _ => panicFree_ok _⟩
  have ends := processRecipientKeys_ends files decRecipients
  cases asked : recipientsReads decRecipients with
  | none =>
    simp only [asked] at ends
    refine iff_of_true (ends.bind.panicFree world) ?_
    rintro ⟨_, _, _, _, _, _, some_, _⟩
    rw [asked] at some_
    cases some_
  | some reads =>
    simp only [asked] at ends
    have keyfiles : ∀ x509s next, PanicFree ((do
        let found ← processPrivateKeyfiles files keys
        let dc ← filled (fillDecryptConfig x509s found) ⟨[]⟩
        pure ⟨none, some dc⟩ : Parse World CryptoConfig) next).1 ↔
          ∀ before key later, keys = before ++ key :: later → ∀ file, Malformed key file →
            files.after (before.flatMap keyReads ++ [.file file]) next = none := by
      intro x509s next
      rw [panicFree_then, and_iff_left fun found then_ _ => fills x509s found then_]
      exact processKeyfilesFrom_panicFree _ keys next
    have whole : createDecryptConfig files keys decRecipients =
      processRecipientKeys files decRecipients >>= fun recipients =>
        processX509Certs files keys >>= fun x509FromKeys => (do
          let found ← processPrivateKeyfiles files keys
          let dc ← filled (fillDecryptConfig (recipients.x509s ++ x509FromKeys) found) ⟨[]⟩
          pure ⟨none, some dc⟩) := rfl
    have decided : PanicFree (createDecryptConfig files keys decRecipients world).1 ↔
        ∀ opened, files.after reads world = some opened →
          ∀ checked, files.after (keys.flatMap certificateReads) opened = some checked →
            ∀ before key later, keys = before ++ key :: later → ∀ file, Malformed key file →
              files.after (before.flatMap keyReads ++ [.file file]) checked = none := by
      rw [whole]
      exact ends.panicFree_then fun recipients next =>
        (processX509Certs_reads keys).panicFree_then fun x509s next => keyfiles (recipients.x509s ++ x509s) next
    rw [decided]
    simp only [ComesToMalformed, asked, Option.some_inj, not_exists, not_and]
    constructor
    · rintro free _ before key file later next rfl whole malformed reached
      rw [List.append_assoc, List.append_assoc, Files.after_append] at reached
      obtain ⟨opened, read, reached⟩ := Option.bind_eq_some_iff.mp reached
      rw [Files.after_append] at reached
      obtain ⟨checked, certified, reached⟩ := Option.bind_eq_some_iff.mp reached
      rw [free opened read checked certified before key later whole file malformed] at reached
      cases reached
    · intro never opened read checked certified before key later whole file malformed
      rw [Option.eq_none_iff_forall_ne_some]
      intro next reached
      refine never reads before key file later next rfl whole malformed ?_
      rw [List.append_assoc, List.append_assoc, Files.after_append, read, Option.bind_some,
        Files.after_append, certified,
        Option.bind_some, reached]

theorem createEncryptConfig_panicFree (files : Files World) (recipients keys : List Text) (world : World) :
    PanicFree (createEncryptConfig files recipients keys world).1 ↔ ¬ ComesToMalformed files [] keys world := by
  have later : ∀ decryptConfig next, PanicFree ((do
      let ec ← encryptConfigFrom files ⟨[], decryptConfig⟩ recipients
      pure ⟨some ec, none⟩ : Parse World CryptoConfig) next).1 := by
    intro decryptConfig next
    refine panicFree_then.mpr ⟨?_, fun _ _ _ => panicFree_ok _⟩
    rw [encryptConfigFrom]
    split
    · exact panicFree_ok _
    · exact panicFree_then.mpr ⟨processRecipientKeys_panicFree recipients next, fun _ _ _ => panicFree_filled _ _ _⟩
  rw [createEncryptConfig, panicFree_then, and_iff_left fun decryptConfig next _ => later decryptConfig next,
    decryptConfigFrom]
  by_cases empty : keys = []
  · rw [if_pos empty]
    refine iff_of_true (panicFree_ok none) ?_
    rintro ⟨_, before, key, _, rest, _, _, whole, _⟩
    exact absurd (whole.symm.trans empty) (by simp)
  · rw [if_neg empty, panicFree_then]
    refine (and_iff_left ?_).trans (createDecryptConfig_panicFree files keys [] world)
    exact fun dc next _ => panicFree_ok dc.decryptConfig

/-- **Key strings** make the helpers panic exactly where they come to a malformed one, behind
reads that succeed: a key file followed by `:fd=` and a text that is no number of 32 bits, or -1.
Strings for recipients never do. -/
theorem key_strings_panicFree_iff (files : Files World) (keys recipients : List Text) (world : World) :
    (PanicFree (createDecryptConfig files keys recipients world).1 ↔
      ¬ ComesToMalformed files recipients keys world) ∧
      (PanicFree (createEncryptConfig files recipients keys world).1 ↔ ¬ ComesToMalformed files [] keys world) :=
  ⟨createDecryptConfig_panicFree files keys recipients world,
    createEncryptConfig_panicFree files recipients keys world⟩

/-- A host with an empty file under every name. -/
def emptyFiles : Files Unit := ⟨fun _ _ => true, fun _ _ => (.ok [], ()), fun _ _ => (.ok [], ())⟩

/-- A word is unwrapped as a descriptor. -/
theorem word_for_descriptor_panics : ¬ ∀ (files : Files Unit) keys recipients world,
    PanicFree (createDecryptConfig files keys recipients world).1 ∧
      PanicFree (createEncryptConfig files recipients keys world).1 := by
  intro holds
  have free := (holds emptyFiles ["key.pem:fd=stdin".toList] [] ()).1
  refine (createDecryptConfig_panicFree _ _ _ _).mp free ?_
  refine ⟨[], [], "key.pem:fd=stdin".toList, "key.pem".toList, [], (), rfl, rfl, ?_, rfl⟩
  exact ⟨by decide, by decide, "fd=stdin".toList, rfl, "stdin".toList, rfl, .inl (by decide)⟩

end Parsing

end GuestComponents.Ocicrypt
