import Pkcs11Proxy.Audit.DropAccounting
import Pkcs11Proxy.Audit.ReservedCapacity
import Pkcs11Proxy.Audit.SeqLimit
import Pkcs11Proxy.Audit.StreamReport
import Pkcs11Proxy.Audit.TornTail
import Pkcs11Proxy.Backend.BoundCleanup
import Pkcs11Proxy.Backend.FenceExclusion
import Pkcs11Proxy.Backend.SessionIndex
import Pkcs11Proxy.Backend.UnloadSafety
import Pkcs11Proxy.Proto.ScannedRequests
import Pkcs11Proxy.Server.AdmissionCap
import Pkcs11Proxy.Server.AuthzFreshness
import Pkcs11Proxy.Server.BookRuns
import Pkcs11Proxy.Server.CacheBypass
import Pkcs11Proxy.Server.FindRuns
import Pkcs11Proxy.Server.GroupLiveness
import Pkcs11Proxy.Server.HandleLeases
import Pkcs11Proxy.Server.HandleTranslation
import Pkcs11Proxy.Server.IdentityEncoding
import Pkcs11Proxy.Server.LoginAgreement
import Pkcs11Proxy.Server.MintOnce
import Pkcs11Proxy.Server.ObjectOwnership
import Pkcs11Proxy.Server.PeerAdmission
import Pkcs11Proxy.Server.PrincipalOps
import Pkcs11Proxy.Server.ReadFreshness
import Pkcs11Proxy.Server.SessionObjects
import Pkcs11Proxy.Server.TeardownPlan
import Pkcs11Proxy.Shim.AttributeWriteback
import Pkcs11Proxy.Types.FlatCarriage
import Pkcs11Proxy.Server.PolicyDecisions
import Pkcs11Proxy.Shim.RuntimeCell
import Pkcs11Proxy.Shim.ClientReconnect
import Pkcs11Proxy.Shim.SuspectSessions
import Pkcs11Proxy.Shim.MessageCapability
import Pkcs11Proxy.Server.BackendBreaker
