import PlgBooster.Relay.Whitelist
import PlgBooster.Relay.Isolation
import PlgBooster.Relay.Reflection
import PlgBooster.Client.UdpProxy
import PlgBooster.System.Responses
import PlgBooster.Client.FilterBuilder
import PlgBooster.System.Profile
import PlgBooster.Server.ActiveSessions
import PlgBooster.Client.Boost
import PlgBooster.System.Orphans
import PlgBooster.System.Agreement
import PlgBooster.System.Collisions
import PlgBooster.System.Interception
import PlgBooster.System.Channel
import PlgBooster.System.Injection
import PlgBooster.System.Overlap
import PlgBooster.Server.Billing
import PlgBooster.Server.Expiry
import PlgBooster.Server.Views
import PlgBooster.Server.Donatepay
import PlgBooster.Server.Promo
import PlgBooster.Relay.Sockets
import PlgBooster.Relay.Reregistration
import PlgBooster.Relay.Cleanup
import PlgBooster.System.RoundTrips
import PlgBooster.System.Duplicates
import PlgBooster.Client.Pairing
import PlgBooster.Client.Logout
import PlgBooster.System.Codecs
import PlgBooster.Client.Checksums
import PlgBooster.Client.HeaderParse
import PlgBooster.Client.FilterMeaning
import PlgBooster.Client.CaptureLoop
import PlgBooster.System.BoundedDedup
import PlgBooster.System.DefaultTarget
import PlgBooster.Server.BackupNode
import PlgBooster.System.NodeHealth
import PlgBooster.Relay.Replacement
import PlgBooster.Relay.ApiKey
import PlgBooster.Server.RefreshFaults
import PlgBooster.Server.RateLimit
import PlgBooster.Server.PromoAdmin
import PlgBooster.Server.Quotes
import PlgBooster.Server.Comments
import PlgBooster.Client.Monitor
import PlgBooster.Relay.Counters
import PlgBooster.Client.Detection
import PlgBooster.Server.AdminLists
import PlgBooster.Relay.Table
import PlgBooster.Relay.Accounting
import PlgBooster.Relay.Staleness
import PlgBooster.Server.Accounts
import PlgBooster.Server.Confinement
import PlgBooster.Server.References
import PlgBooster.System.SingleFlight
import PlgBooster.Server.UserIsolation
import PlgBooster.Server.Privileges
