import Sbegw.Lib.Dict
import Sbegw.Lib.Run
import Sbegw.Lib.Tally
import Sbegw.Lib.Sweep
import Sbegw.Lib.Text
import Sbegw.Lib.Ip
import Sbegw.Lib.Binary64
import Sbegw.Json
import Sbegw.Edit
import Sbegw.Schema.Primitives
import Sbegw.Schema.Default
import Sbegw.Schema.Network
import Sbegw.Schema.Services
import Sbegw.Schema.Validate
import Sbegw.Configd.Diff
import Sbegw.Configd.Store
import Sbegw.Configd.System
import Sbegw.Configd.Effect
import Sbegw.Configd.Confirmation
import Sbegw.Configd.Timer
import Sbegw.Configd.Crash
import Sbegw.Configd.Atomicity
import Sbegw.Configd.Persistence
import Sbegw.Configd.Clients
import Sbegw.Configd.Veil
import Sbegw.Api.Reads
import Sbegw.Api.Secrets
import Sbegw.Rerun
import Sbegw.Configd.Submit
import Sbegw.Authd
import Sbegw.Clientd
import Sbegw.Api.Changes
import Sbegw.Api.Requests
import Sbegw.Configd.Failure
import Sbegw.Lib.Throttle
import Sbegw.Authd.Accounts
import Sbegw.Authd.Attempts
import Sbegw.Authd.Limit
import Sbegw.Authd.Sessions
import Sbegw.Api.Setup
import Sbegw.Api.Frames
import Sbegw.Api.Roles
import Sbegw.Api.Accounts
import Sbegw.Api.System
import Sbegw.Api.Authority
import Sbegw.Api.Ownership
import Sbegw.Api.Lifecycle
import Sbegw.Nft.Line
import Sbegw.Nft.Rule
import Sbegw.Nft.Meaning
import Sbegw.Netd
import Sbegw.Nft.Forward
import Sbegw.Nft.Policy
import Sbegw.Nft.Flags
import Sbegw.Nft.Tunnel
import Sbegw.Schema.Subnets
import Sbegw.Schema.Vlans
import Sbegw.Netd.Apply
import Sbegw.Netd.Risk
import Sbegw.Netd.Debounce
import Sbegw.Netd.Primary
import Sbegw.Netd.Services
import Sbegw.Netd.Queues
import Sbegw.Netd.Routing
import Sbegw.Netd.Marks
import Sbegw.Wifid.Blocking
import Sbegw.Wifid.Secure
import Sbegw.Wifid.Retry
import Sbegw.Wifid.Stations
import Sbegw.Wifid.Stuck
import Sbegw.Wifid.Identity
import Sbegw.Wifid.Allocation
import Sbegw.Wifid.Registry
import Sbegw.Wifid.Placement
import Sbegw.Wifid.Mlds
import Sbegw.Wifid.Distinct
import Sbegw.Telemetry.History
import Sbegw.Lib.Streak
import Sbegw.Unifi.Sync
import Sbegw.Unifi.Inform
import Sbegw.Unifi.Objects
import Sbegw.Dpi
import Sbegw.Dpi.Flows
import Sbegw.Dpi.Totals
import Sbegw.Otad.Refusal
import Sbegw.Rf.Optimise
import Sbegw.Rf.Analyse
import Sbegw.Rf.Settled
import Sbegw.Rf.Switch
import Sbegw.Hostapd.Agreement
import Sbegw.Hostapd.Auto
import Sbegw.Lib.Settings
import Sbegw.Hostapd.Bss
import Sbegw.Hostapd.File
import Sbegw.Netd.Addresses
import Sbegw.Netd.Membership
import Sbegw.Schema.WanPorts
import Sbegw.Nft.PortForwards
import Sbegw.Nft.Sessions
import Sbegw.Nft.Input
import Sbegw.Netd.Dhcp
import Sbegw.Lib.Passes
import Sbegw.Netd.Dhclients
import Sbegw.Netd.Leases
import Sbegw.Hwd.Duty
import Sbegw.Hwd.Hysteresis
import Sbegw.Hwd.Leds
import Sbegw.Dhcptrace
import Sbegw.Rf.Blocks
import Sbegw.Json.Paths
import Sbegw.Configd.Merge
import Sbegw.Lib.Pieces
import Sbegw.Configd.Visits
import Sbegw.Configd.Faithful
import Sbegw.Configd.Audit
import Sbegw.Configd.Staged
import Sbegw.Events
import Sbegw.Events.Counts
import Sbegw.Clientd.Poll
import Sbegw.Clientd.Merged
import Sbegw.Clientd.Presence
import Sbegw.Clientd.Wireless
import Sbegw.Api.Atomic
import Sbegw.Api.Losses
import Sbegw.Api.Router
import Sbegw.Wifid.Process
import Sbegw.Nft.Translate
