import TpmFido2.Lib.Bytes
import TpmFido2.Lib.Handler
import TpmFido2.Lib.Cbor
import TpmFido2.Lib.Run
import TpmFido2.Lib.Counter
import TpmFido2.Lib.Table
import TpmFido2.CtapHid.Reassembly
import TpmFido2.Store.FilteredLoad
import TpmFido2.Store.Refinement
import TpmFido2.Ctap2.Sample
import TpmFido2.Ctap2.Authorisation
import TpmFido2.Ctap2.Pending
import TpmFido2.Ctap2.Isolation
import TpmFido2.Ctap2.Updates
import TpmFido2.Ctap2.Counters
import TpmFido2.Ctap2.PinState
import TpmFido2.Ctap2.Reset
import TpmFido2.Ctap2.Durability
import TpmFido2.Ctap2.Retention
import TpmFido2.Ctap2.Safety
import TpmFido2.Ctap2.CommandCodes
import TpmFido2.Ctap2.Tokens
import TpmFido2.Ctap2.ResponseSize
import TpmFido2.Ctap2.AuthData
import TpmFido2.Ctap2.NextAssertions
import TpmFido2.Ctap2.MessageBinding
import TpmFido2.Channels
import TpmFido2.Panics
import TpmFido2.Management.InStep
import TpmFido2.Management.DefaultPolicy
import TpmFido2.Management.Refusal
import TpmFido2.Ctap2.PinRoundTrip
import TpmFido2.Tpm.Release
import TpmFido2.Management.UpdatePolicy
import TpmFido2.PendingRequests
import TpmFido2.AuthParam
import TpmFido2.CtapHid.Allocation
import TpmFido2.Ctap2.Capacity
import TpmFido2.Tpm.Approval
import TpmFido2.Tpm.PolicyRef
import TpmFido2.Management.DefaultChange
import TpmFido2.Management.RecoverySlots
import TpmFido2.Management.Stale
import TpmFido2.MainLoop
import TpmFido2.Session.Consent
import TpmFido2.Management.Exchange
