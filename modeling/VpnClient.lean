import VpnClient.Address.ExcludeAddresses
import VpnClient.Backend.PeersAndRoutes
import VpnClient.Backend.HopSet
import VpnClient.Backend.PeerHandshakes
import VpnClient.Socks5.Negotiation
import VpnClient.Socks5.SingleRequest
import VpnClient.Socks5.FlowControl
import VpnClient.Client.Principals
import VpnClient.Client.PendingRequests
import VpnClient.Client.Handshake
import VpnClient.Client.ConnectedTime
import VpnClient.Client.Telemetry
import VpnClient.Client.ConnectionHealth
import VpnClient.Ipc.InitialStatus
import VpnClient.Tasks.TaskScheduler
import VpnClient.Ipc.Framing
import VpnClient.Ipc.ResponseTimeouts
import VpnClient.Ipc.StatusCallbacks
import VpnClient.Settings.RoundTrip
import VpnClient.Settings.Nonces
import VpnClient.Linux.LinuxFirewall
import VpnClient.Linux.SplitTunnel
import VpnClient.WebExtension.Messages
import VpnClient.Network.NetworkRequest
import VpnClient.Windows.FirewallRecords
import VpnClient.Windows.CapturedRoutes
import VpnClient.Linux.RestoredDomains
import VpnClient.Macos.ExclusionRoutes
import VpnClient.Frontend.ScreenHistory
import VpnClient.Client.PairedTimings
import VpnClient.Android.HealthChecks
import VpnClient.Linux.CommittedProfile
import VpnClient.Ipc.SocketSessions
import VpnClient.Update.TrustedUpdates
import VpnClient.Client.LatencyMeasurement
import VpnClient.Android.Monitoring
import VpnClient.Ios.HealthTimings
import VpnClient.Ios.ServerRotation
import VpnClient.Ios.StatusReplies
import VpnClient.Client.KeyRegenerator
import VpnClient.Addons.IndexedAddons
import VpnClient.Addons.ShownRows
import VpnClient.Android.ActivationReports
import VpnClient.Android.SessionPings
import VpnClient.Tasks.TaskGroup
import VpnClient.Backend.ActivationFailures
import VpnClient.Ipc.ConfigMessages
import VpnClient.Windows.ExclusionRows
import VpnClient.Models.DeviceLists
import VpnClient.Ipc.LogCallbacks
import VpnClient.Addons.Retries
import VpnClient.Addons.IndexFiles
import VpnClient.Models.ServerRefreshes
import VpnClient.Models.ServerSelection
import VpnClient.Models.WeightedServers
import VpnClient.Models.ListedPorts
import VpnClient.Models.RecentlyUsed
import VpnClient.Models.CityCooldowns
import VpnClient.Windows.BypassRoutes
import VpnClient.Windows.AtomicPolicies
import VpnClient.Socks5.BoundedReads
import VpnClient.Update.EncodedSignatures
import VpnClient.Network.SubjectNames
import VpnClient.Network.PortalReports
import VpnClient.Authentication.CommonPasswords
import VpnClient.Client.PingStatistics
import VpnClient.Linux.EscapedUnits
import VpnClient.Addons.TimedConditions
import VpnClient.Addons.DateClasses
import VpnClient.Models.VisibleApps
import VpnClient.Models.SubscriptionFields
import VpnClient.Logs.LogFiles
import VpnClient.Features.Settling
import VpnClient.Address.ExcludeSteps
import VpnClient.Update.VersionUtils
import VpnClient.Frontend.QmlPath
import VpnClient.Android.FallbackDns
import VpnClient.Android.Statistics
import VpnClient.Windows.WindowsSplitTunnel
import VpnClient.Windows.PeerRecords
import VpnClient.Settings.SettingGroup
import VpnClient.Models.ServerDataCopies
import VpnClient.WebExtension.Bridge
import VpnClient.Client.LatencySums
import VpnClient.Authentication.Hkdf
import VpnClient.Authentication.AuthenticationInAppSession
import VpnClient.Authentication.SessionAnswers
import VpnClient.Macos.RoutingBuffers
import VpnClient.App.Logout
import VpnClient.Linux.KernelRoutes
import VpnClient.Linux.PingSessions
import VpnClient.Library.TextCodes
import VpnClient.Macos.TunnelPeers
