import AirVpn.Lib.Machine
import AirVpn.Lib.History
import AirVpn.Lib.Text
import AirVpn.Lib.Statements
import AirVpn.Lib.Decimal
import AirVpn.Lib.Query
import AirVpn.Lib.Returned
import AirVpn.Lib.Scan
import AirVpn.Lib.Entries
import AirVpn.Lib.Logs
import AirVpn.Lib.Traces
import AirVpn.Lib.Simulation
import AirVpn.Model.Glib
import AirVpn.Model.Properties
import AirVpn.Model.Api
import AirVpn.Model.Cache
import AirVpn.Model.Firewall
import AirVpn.Model.Fetch
import AirVpn.Model.ServerList
import AirVpn.Model.Editor
import AirVpn.Model.Reconnect
import AirVpn.Model.Session
import AirVpn.Model.AuthDialog
import AirVpn.Model.SharedUtils
import AirVpn.Model.Helper
import AirVpn.Settings.Accepted
import AirVpn.Settings.Request
import AirVpn.Cache.Vouched
import AirVpn.Cache.Key
import AirVpn.Cache.Map
import AirVpn.Firewall.Remotes
import AirVpn.Firewall.Ruleset
import AirVpn.Firewall.Resolvers
import AirVpn.Firewall.Packets
import AirVpn.Editor.Devices
import AirVpn.Editor.ServerCombo
import AirVpn.Editor.Reconnect
import AirVpn.Helper.Options
import AirVpn.Helper.Routes
import AirVpn.Helper.Dns
import AirVpn.Helper.Messages
import AirVpn.Service.Daemon
import AirVpn.Service.Handlers
import AirVpn.Service.Spec
import AirVpn.Service.Coherence
import AirVpn.Service.Effects
import AirVpn.Service.KillSwitch
import AirVpn.Service.Fetches
import AirVpn.Service.Failure
import AirVpn.Service.Children
import AirVpn.Service.Stale
import AirVpn.Service.Quiescence
import AirVpn.Service.Signals
import AirVpn.Service.Reporting
import AirVpn.Service.Secrets
import AirVpn.Service.Keepalive
import AirVpn.Service.Launches
import AirVpn.Service.Profiles
import AirVpn.Service.Confined
import AirVpn.Service.Settling
import AirVpn.Service.Attempts
import AirVpn.Service.Ownership
import AirVpn.Service.Isolation
import AirVpn.Service.Freshness
import AirVpn.Editor.RoundTrip
import AirVpn.Editor.Session
import AirVpn.Editor.Entered
import AirVpn.Editor.Obeyed
import AirVpn.Agent.Dialog
