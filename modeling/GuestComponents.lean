import GuestComponents.Lib.Text
import GuestComponents.Lib.Outcome
import GuestComponents.Lib.Search
import GuestComponents.Lib.SortedMap
import GuestComponents.Lib.Trace
import GuestComponents.Lib.Transition
import GuestComponents.Lib.Program
import GuestComponents.Lib.LinkedTree
import GuestComponents.Lib.Sha2
import GuestComponents.Lib.Aes
import GuestComponents.Lib.Keystream
import GuestComponents.Lib.Base64
import GuestComponents.EventLog.Log
import GuestComponents.EventLog.Recovery
import GuestComponents.EventLog.RoundTrip
import GuestComponents.EventLog.AttestationAgent
import GuestComponents.EventLog.InStep
import GuestComponents.EventLog.TdxReplay
import GuestComponents.Ocicrypt.BlockCipher
import GuestComponents.Ocicrypt.Streaming
import GuestComponents.Ocicrypt.EndOfFile
import GuestComponents.Ocicrypt.KeyWrap
import GuestComponents.Ocicrypt.Encryption
import GuestComponents.Ocicrypt.Layers
import GuestComponents.Ocicrypt.OptionsJson
import GuestComponents.Ocicrypt.Unwrapping
import GuestComponents.Ocicrypt.Recipients
import GuestComponents.Ocicrypt.Authenticity
import GuestComponents.Ocicrypt.Rewrap
import GuestComponents.Image.RefMatch
import GuestComponents.Image.LayerPull
import GuestComponents.Image.Policy
import GuestComponents.Image.PolicyDecision
import GuestComponents.Image.Schemes
import GuestComponents.Image.Client
import GuestComponents.Image.SignatureGate
import GuestComponents.Image.LayerIntegrity
import GuestComponents.SharedRootfs.Host
import GuestComponents.SharedRootfs.Cache
import GuestComponents.SharedRootfs.Server
import GuestComponents.SharedRootfs.Footprint
import GuestComponents.SharedRootfs.Healing
import GuestComponents.SharedRootfs.Placement
import GuestComponents.SharedRootfs.SingleShare
import GuestComponents.SharedRootfs.PendingProtocol
import GuestComponents.SharedRootfs.CompleteImages
import GuestComponents.SharedRootfs.KeyIsolation
import GuestComponents.Image.OneSignature
import GuestComponents.Image.LayerPaths
import GuestComponents.Image.MetaPersistence
import GuestComponents.Lib.Inodes
import GuestComponents.SharedRootfs.IndexFiles
import GuestComponents.SharedRootfs.IndexAtomicity
import GuestComponents.Image.DuplicateLayers
import GuestComponents.Crypto.Backends
import GuestComponents.Lib.Json
import GuestComponents.KbsProtocol.KeyPair
import GuestComponents.KbsProtocol.UntrustedResponses
import GuestComponents.KbsProtocol.Client
import GuestComponents.KbsProtocol.SessionPairing
import GuestComponents.KbsProtocol.Freshness
import GuestComponents.KbsProtocol.ServedResource
import GuestComponents.ApiServer.Rest
import GuestComponents.ApiServer.ResourcePath
import GuestComponents.Attester.TsmReport
import GuestComponents.Attester.OwnEvidence
import GuestComponents.Hub.AnnotationPacket
import GuestComponents.KeyProvider.EncMods
import GuestComponents.KeyProvider.GuestUnwrapping
import GuestComponents.KeyProvider.Grpc
import GuestComponents.KeyProvider.WrapProtocol
import GuestComponents.Image.LayerOrder
import GuestComponents.Image.Unpack
import GuestComponents.Image.FileEffects
import GuestComponents.Image.Confinement
import GuestComponents.Image.VerityMount
import GuestComponents.Lib.HostTree
import GuestComponents.Image.Host
import GuestComponents.Image.Bundle
import GuestComponents.Image.GuestMount
import GuestComponents.EventLog.Evidence
import GuestComponents.Image.LayerCleanup
import GuestComponents.Image.OrphanedLayers
import GuestComponents.Image.VsockClient
import GuestComponents.Image.RuntimeConfig
import GuestComponents.Image.SigstoreMerge
import GuestComponents.Image.AuthConfig
import GuestComponents.Image.VerityOption
import GuestComponents.Image.FastFraming
import GuestComponents.Image.ResourceCache
import GuestComponents.Lib.Alone
import GuestComponents.SharedRootfs.EntryPair
import GuestComponents.SharedRootfs.ImageDigest
import GuestComponents.Lib.MultiMap
import GuestComponents.Ocicrypt.ConfigUpdates
import GuestComponents.Image.Snapshotters
import GuestComponents.KbsProtocol.PublicKey
import GuestComponents.Ocicrypt.Helpers
import GuestComponents.EventLog.StartUp
import GuestComponents.Hub.KbcParams
import GuestComponents.Hub.UnwrapExchange
import GuestComponents.KeyProvider.WrapPanics
import GuestComponents.Lib.Percent
import GuestComponents.Lib.Url
import GuestComponents.Lib.UrlText
import GuestComponents.KbsProtocol.UriRoundTrip
import GuestComponents.KeyProvider.RegisteredPath
import GuestComponents.Image.CachedPull
import GuestComponents.EventLog.VtpmExtend
import GuestComponents.Kms.SevClient
import GuestComponents.Image.Decompression
import GuestComponents.Hub.InitResources
import GuestComponents.Lib.Units
import GuestComponents.Image.NydusService
import GuestComponents.Hub.SecureMount
import GuestComponents.Hub.MountLeftovers
import GuestComponents.Hub.Remount
import GuestComponents.Lib.FormUrlencoded
import GuestComponents.Kms.StsTokenClient
import GuestComponents.Lib.Logged
import GuestComponents.Hub.Secret
import GuestComponents.Hub.KeyLogs
import GuestComponents.Image.LocalResources
import GuestComponents.Lib.FileUrl
import GuestComponents.Image.LayerStream
import GuestComponents.Lib.Sha2Stream
import GuestComponents.Lib.AsyncRead
import GuestComponents.Lib.JsonText
import GuestComponents.Lib.JsonTextLaws
import GuestComponents.Lib.JsonMap
import GuestComponents.Hub.SealedSecret
import GuestComponents.Crypto.CrossDecryption
import GuestComponents.Hub.Unsealing
import GuestComponents.Image.EncryptedLayer
import GuestComponents.KbsProtocol.TokenHandover
