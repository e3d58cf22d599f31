import SecureKeypad.Core.Jamo
import SecureKeypad.Core.Session
import SecureKeypad.Node.Agreement
import SecureKeypad.Server.PostgresRateLimit
import SecureKeypad.Server.RedisRateLimit
import SecureKeypad.Server.Service
import SecureKeypad.Webauthn.PostgresCeremonies
import SecureKeypad.Webauthn.PostgresCredentialRuns
import SecureKeypad.Webauthn.RedisCeremonies
import SecureKeypad.Webauthn.RouterRuns
import SecureKeypad.Webauthn.StaleUpdates
import SecureKeypad.Web.PasskeyRuns
import SecureKeypad.Native.CommandFloors
import SecureKeypad.Native.ProtectedPresentation
import SecureKeypad.Native.SubmissionOwnership
import SecureKeypad.Flutter.TokenFloors
import SecureKeypad.Node.ReplayCache
import SecureKeypad.Webauthn.StorageIsolation
import SecureKeypad.Contracts.InputKeyIds
import SecureKeypad.Contracts.NativeAcceptance
import SecureKeypad.Native.MaskedState
import SecureKeypad.Release.MergeOrder
import SecureKeypad.Release.Archive
import SecureKeypad.Release.DeviceFindings
import SecureKeypad.Http.Authentications
import SecureKeypad.Core.Incremental
import SecureKeypad.Web.Base64Url
import SecureKeypad.Native.KeyShuffle
import SecureKeypad.Node.BodyReader
import SecureKeypad.Node.ContentLength
import SecureKeypad.Webauthn.TtlBounds
import SecureKeypad.Flutter.PendingEvents
import SecureKeypad.Web.ExtensionCopy
import SecureKeypad.Http.EnvelopeRoundTrip
import SecureKeypad.ReactNative.PropChurn
import SecureKeypad.Ffi.Overlap
import SecureKeypad.Ffi.Atomicity
import SecureKeypad.Ffi.Ownership
import SecureKeypad.Ffi.Abi
import SecureKeypad.Node.Bridge
import SecureKeypad.Node.StandardRequests
import SecureKeypad.Core.Typing
import SecureKeypad.Ffi.Passwords
