import MullvadVpn.Daemon.Exit
import MullvadVpn.Firewall.Linux.Dns
import MullvadVpn.Firewall.Linux.Incoming
import MullvadVpn.Firewall.Linux.NoLeak
import MullvadVpn.Relays.Bridges
import MullvadVpn.Relays.MergedFilter
import MullvadVpn.Relays.Multihop
import MullvadVpn.Relays.Overrides
import MullvadVpn.Relays.Retry
import MullvadVpn.Relays.Updates
import MullvadVpn.Settings.AccessMethodInvariants
import MullvadVpn.Settings.CustomListIdentity
import MullvadVpn.Settings.Panics
import MullvadVpn.Settings.PartialSettings
import MullvadVpn.Settings.RelayOverrides
import MullvadVpn.Settings.TunnelTypeMigration
import MullvadVpn.SplitTunnel.Exclusion
import MullvadVpn.SplitTunnel.ActivePaths
import MullvadVpn.SplitTunnel.Bpf
import MullvadVpn.Tunnel.Cleanup
import MullvadVpn.Tunnel.ConnectivityCheck
import MullvadVpn.Tunnel.DisconnectHonoured
import MullvadVpn.Tunnel.Freshness
import MullvadVpn.Tunnel.KillSwitch
import MullvadVpn.Tunnel.LockdownReport
import MullvadVpn.Tunnel.Shutdown
import MullvadVpn.Update.Fetch
import MullvadVpn.Update.Metadata
import MullvadVpn.Update.Offer
import MullvadVpn.Update.Router
import MullvadVpn.Update.VersionText
import MullvadVpn.Relays.ValidQueries
import MullvadVpn.Relays.CountryPreference
import MullvadVpn.Account.Panics
import MullvadVpn.Settings.AccessModeSelector
import MullvadVpn.Settings.Recents
import MullvadVpn.Wireguard.AllowedIps
import MullvadVpn.Wireguard.Connectivity
import MullvadVpn.Wireguard.Lwo
import MullvadVpn.Wireguard.Mtu
import MullvadVpn.Wireguard.Netlink
import MullvadVpn.EncryptedDns.ProxyState
import MullvadVpn.Masque.Mtu
import MullvadVpn.TunnelObfuscation.Multiplexer
