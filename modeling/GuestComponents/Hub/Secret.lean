import GuestComponents.Crypto.Backends

/-! The secrets that the hub unseals (`secret/layout`, `secret/mod.rs`), over the type of the maps in
them. -/
namespace GuestComponents.Hub
open Lib Crypto

/-- `envelope.rs::EnvelopeSecret`. -/
structure EnvelopeSecret (Map : Type) where
  keyId : Text
  encryptedKey : Text
  encryptedData : Text
  wrapType : WrapType
  iv : Text
  provider : Text
  providerSettings : Map
  annotations : Map

/-- `vault.rs::VaultSecret`. -/
structure VaultSecret (Map : Type) where
  name : Text
  provider : Text
  providerSettings : Map
  annotations : Map

inductive SecretContent (Map : Type) where
  | envelope (secret : EnvelopeSecret Map)
  | vault (secret : VaultSecret Map)

structure Secret (Map : Type) where
  version : Text
  type : SecretContent Map

end GuestComponents.Hub
